import CameraService.Heic.Framing

/-! One YUV buffer at a time: in every reachable state `mYuvBufferAcquired` agrees with the
frames, and no two frames hold one. -/

namespace CameraService.Heic

def Stream.yuvHolders (s : Stream) : List LockedBuffer :=
  s.pendingInputFrames.holders (·.yuvBuffer)

structure YuvInv (s : Stream) : Prop where
  atMostOne : s.yuvHolders.length ≤ 1
  acquired : s.yuvBufferAcquired = true ↔ s.yuvHolders ≠ []

def Retains (s s' : Stream) : Prop :=
  ∃ new, s'.log = s.log ++ new ∧
    ∀ b ∈ s.yuvHolders, b ∈ s'.yuvHolders ∨ Event.unlockBuffer .mainImage b.data ∈ new

def YuvSafe (s s' : Stream) : Prop := YuvInv s → YuvInv s' ∧ Retains s s'

variable {s s' t : Stream}

theorem YuvSafe.refl (s : Stream) : YuvSafe s s :=
  fun hi => ⟨hi, [], (List.append_nil _).symm, fun _ hb => .inl hb⟩

theorem YuvSafe.trans (h₁ : YuvSafe s t) (h₂ : YuvSafe t s') : YuvSafe s s' := fun hi => by
  obtain ⟨hi', n₁, hl₁, hr₁⟩ := h₁ hi
  obtain ⟨hi'', n₂, hl₂, hr₂⟩ := h₂ hi'
  refine ⟨hi'', n₁ ++ n₂, by rw [hl₂, hl₁, List.append_assoc], fun b hb => ?_⟩
  rcases hr₁ b hb with hb | hb
  · rcases hr₂ b hb with hb | hb
    · exact .inl hb
    · exact .inr (List.mem_append_right _ hb)
  · exact .inr (List.mem_append_left _ hb)

theorem yuvSafe_of_perm (hp : s'.yuvHolders.Perm s.yuvHolders)
    (ha : s'.yuvBufferAcquired = s.yuvBufferAcquired) (hl : s.log <+: s'.log) : YuvSafe s s' :=
  fun hi => by
    obtain ⟨new, hnew⟩ := hl
    refine ⟨⟨hp.length_eq ▸ hi.atMostOne, ?_⟩, new, hnew.symm,
      fun b hb => .inl (hp.symm.subset hb)⟩
    rw [ha, hi.acquired, ← List.length_pos, ← List.length_pos, hp.length_eq]

theorem Keeps.yuvSafe (h : Keeps s s') : YuvSafe s s' :=
  yuvSafe_of_perm (h.holders _ (fun _ _ hf => congrArg Prod.fst hf) rfl)
    (congrArg (fun x : Int × Nat × Worker × Bool => x.2.2.2) h.slots) h.log

theorem yuvSafe_storeYuv (ha : t.yuvBufferAcquired = false) (b : LockedBuffer) (frameNumber : Int) :
    YuvSafe t (t.storeYuv b frameNumber) := fun hi => by
  have h₀ : t.yuvHolders = [] := by simpa [ha] using hi.acquired
  have he : (t.pendingInputFrames.erase frameNumber).holders (·.yuvBuffer) = [] := by
    have := (KeyMap.holders_perm_erase (p := (·.yuvBuffer)) t.pendingInputFrames frameNumber).length_eq
    rw [← Stream.yuvHolders, h₀, List.length_nil, List.length_append] at this
    exact List.length_eq_zero.1 (by omega)
  have hs : (t.storeYuv b frameNumber).yuvHolders.Perm [b] := by
    simpa [he] using KeyMap.holders_modify_perm (p := (·.yuvBuffer)) t.pendingInputFrames frameNumber
      (fun f => { f with yuvBuffer := some b })
  refine ⟨⟨by rw [hs.length_eq]; rfl, ?_⟩, [], (List.append_nil _).symm, fun b' hb' => ?_⟩
  · exact iff_of_true rfl fun h => by simp [h] at hs
  · simp [h₀] at hb'

theorem KeepsOrAcquires.yuvSafe : KeepsOrAcquires s s' → YuvSafe s s'
  | .inl h => h.yuvSafe
  | .inr ⟨_, b, frameNumber, h, ha, h'⟩ =>
    h.yuvSafe.trans ((yuvSafe_storeYuv ha b frameNumber).trans h'.yuvSafe)

theorem yuvSafe_release (k : Int) (f : InputFrame)
    (hf : (s.pendingInputFrames.find? k).getD default = f) :
    YuvSafe s ((releaseInputFrameLocked k f s).eraseFrame k) := fun hi => by
  have hp := KeyMap.holders_perm_erase (p := (·.yuvBuffer)) s.pendingInputFrames k
  rw [KeyMap.bind_find?_eq _ _ rfl, hf] at hp
  obtain ⟨new, hnew, hunlock⟩ := releaseInputFrameLocked_log k f s
  cases hy : f.yuvBuffer with
  | none =>
    rw [hy, Option.toList_none, List.nil_append] at hp
    refine yuvSafe_of_perm ?_ ?_
      (show s.log <+: ((releaseInputFrameLocked k f s).eraseFrame k).log from ⟨new, hnew.symm⟩) hi
    · exact hp.symm
    · simp [releaseInputFrameLocked, Stream.eraseFrame, hy]
  | some b₀ =>
    rw [hy] at hp
    have hE : (s.pendingInputFrames.erase k).holders (·.yuvBuffer) = [] := by
      have h₁ := hp.length_eq
      have h₂ := hi.atMostOne
      simp only [Option.toList_some, List.singleton_append, List.length_cons] at h₁
      exact List.length_eq_zero.1 (by unfold Stream.yuvHolders at h₂; omega)
    refine ⟨⟨?_, ?_⟩, new, hnew, fun b hb => .inr ?_⟩
    · exact (congrArg List.length hE).trans_le (Nat.zero_le 1)
    · simp [Stream.yuvHolders, Stream.eraseFrame, releaseInputFrameLocked, hy, hE]
    · have hb := hp.subset hb
      rw [hE] at hb
      simp only [Option.toList_some, List.singleton_append, List.mem_singleton] at hb
      exact hb ▸ hunlock b₀ hy

theorem yuvSafe_releaseInputFramesLocked (o : Oracle) (s : Stream) :
    YuvSafe s (releaseInputFramesLocked o s) := by
  have h := releaseDoneFrames_rel YuvSafe YuvSafe.refl (fun _ _ _ => YuvSafe.trans)
    (fun s k f hf => yuvSafe_release k f (by rw [hf]; rfl)) s.pendingInputFrames.entries s
    s.pendingInputFrames.sorted fun e he => (KeyMap.find?_eq_some_iff _ _).2 he
  simp only [releaseInputFramesLocked]
  split_ifs <;> (try split) <;> first
    | exact h
    | exact h.trans ((Keeps.refl _).updateCodecQualityLocked o _).yuvSafe
    | exact h.trans ((Keeps.refl _).logEvent (by rfl)).yuvSafe

theorem yuvSafe_setWorker (w : Worker) (s : Stream) : YuvSafe s { s with worker := w } :=
  yuvSafe_of_perm (.refl _) rfl (List.prefix_refl _)

theorem yuvSafe_loopBody (c : Config) (o : Oracle) (locks : Locks) (s : Stream) :
    YuvSafe s (loopBody c o locks s) := by
  have h₁ := (keepsOrAcquires_compilePendingInputLocked c o locks s).yuvSafe
  have h₂ := keeps_getNextReadyInputLocked (compilePendingInputLocked c o locks s)
  unfold loopBody
  split
  · rename_i hs
    rw [hs] at h₂
    exact (h₁.trans h₂.yuvSafe).trans (yuvSafe_setWorker _ _)
  · rename_i hs
    rw [hs] at h₂
    refine (h₁.trans h₂.yuvSafe).trans ?_
    dsimp only
    split_ifs
    · exact (((yuvSafe_release _ _ rfl).trans ((Keeps.refl _).logEvent (by rfl)).yuvSafe).trans
        (yuvSafe_setWorker _ _))
    · exact (yuvSafe_release _ _ rfl).trans (yuvSafe_setWorker _ _)
    · exact yuvSafe_setWorker _ _

theorem yuvSafe_workerStep (c : Config) (o : Oracle) (locks : Locks) (wait : WaitResult)
    (s : Stream) : YuvSafe s (workerStep c o locks wait s) := by
  unfold workerStep
  split
  · split_ifs
    · exact ((keepsOrAcquires_compilePendingInputLocked c o locks s).yuvSafe.trans
        (yuvSafe_releaseInputFramesLocked o _)).trans (yuvSafe_setWorker _ _)
    · exact yuvSafe_loopBody c o locks s
  · split
    · exact yuvSafe_loopBody c o locks s
    · exact yuvSafe_setWorker _ _
    · exact yuvSafe_setWorker _ _
  · rename_i frameNumber _
    have hP := processes_processInputFrame c o frameNumber
      ((s.pendingInputFrames.find? frameNumber).getD default) s
    generalize processInputFrame c o frameNumber
      ((s.pendingInputFrames.find? frameNumber).getD default) s = r at hP ⊢
    obtain ⟨res, f, s'⟩ := r
    dsimp only
    refine yuvSafe_of_perm ?_ hP.acquired hP.log
    have hp := KeyMap.holders_insert_perm_self (p := (·.yuvBuffer)) s.pendingInputFrames frameNumber f
      (by rw [KeyMap.bind_find?_eq _ _ rfl]; exact hP.yuvBuffer)
    have hf : s'.pendingInputFrames = s.pendingInputFrames := hP.frames
    unfold Stream.yuvHolders
    rw [hf]
    exact hp
  · refine (?_ : YuvSafe s _).trans
      ((yuvSafe_releaseInputFramesLocked o _).trans (yuvSafe_setWorker _ _))
    split_ifs
    · exact ((Keeps.refl s).markError _).yuvSafe
    · exact .refl s
  · exact .refl s

theorem yuvSafe_step (c : Config) (a : Action) (s : Stream) : YuvSafe s (step c a s) := by
  cases a with
  | threadLoop locks o wait => exact yuvSafe_workerStep c o locks wait s
  | _ => exact (keeps_step_callback c _ (fun _ _ _ h => Action.noConfusion h) s).yuvSafe

theorem yuvInv_init (grid gainmapGrid : Grid) : YuvInv (Stream.init grid gainmapGrid) :=
  ⟨Nat.zero_le 1, by simp [Stream.init, Stream.yuvHolders, KeyMap.holders, KeyMap.empty]⟩

theorem yuvInv_of_reachable {c : Config} (h : Reachable c s) : YuvInv s := by
  induction h with
  | init grid gainmapGrid => exact yuvInv_init grid gainmapGrid
  | step a _ ih => exact (yuvSafe_step c a _ ih).1

theorem yuvBuffer_single_holder {c : Config} (h : Reachable c s) :
    s.yuvHolders.length ≤ 1 ∧ (s.yuvBufferAcquired = true ↔ s.yuvHolders ≠ []) ∧
      ∀ a, Retains s (step c a s) :=
  have hi := yuvInv_of_reachable h
  ⟨hi.atMostOne, hi.acquired, fun a => (yuvSafe_step c a s hi).2⟩

def yuvLockErrorRun : List Action :=
  [.bufferRequest 1 1 ⟨none, none⟩, .bufferRequest 2 1 ⟨none, none⟩,
   .shutter 1 10 1000, .shutter 2 11 2000,
   .bufferReleased ⟨1, 1, false⟩, .bufferReleased ⟨1, 2, false⟩,
   .frameAvailable .internal 1000, .frameAvailable .internal 2000,
   .threadLoop ⟨[], [.error, .ok (lockedAt 2 2000)]⟩ allOk .signaled]

theorem yuvBuffer_single_holder_after_compile :
    Reachable tiledConfig
        (run tiledConfig yuvLockErrorRun (Stream.init singleTile singleTile)) ∧
      (run tiledConfig yuvLockErrorRun (Stream.init singleTile singleTile)).yuvHolders.length ≤ 1 ∧
      ((run tiledConfig yuvLockErrorRun (Stream.init singleTile singleTile)).yuvBufferAcquired =
          true ↔
        (run tiledConfig yuvLockErrorRun (Stream.init singleTile singleTile)).yuvHolders ≠ []) ∧
      ∀ a, Retains (run tiledConfig yuvLockErrorRun (Stream.init singleTile singleTile))
        (step tiledConfig a (run tiledConfig yuvLockErrorRun (Stream.init singleTile singleTile))) :=
  have h := reachable_run tiledConfig (.init singleTile singleTile) yuvLockErrorRun
  ⟨h, yuvBuffer_single_holder h⟩

theorem lockError_shifts_main_image :
    ((run tiledConfig yuvLockErrorRun (Stream.init singleTile singleTile)).pendingInputFrames.find?
        1).map (·.timestamp) = some 1000 ∧
      ((run tiledConfig yuvLockErrorRun (Stream.init singleTile singleTile)).pendingInputFrames.find?
        1).bind (·.yuvBuffer) = some (lockedAt 2 2000) := by
  decide

def appSegmentAfterReleaseRun : List Action :=
  [.bufferRequest 1 1 ⟨none, none⟩, .shutter 1 10 1000,
   .threadLoop noLocks allOk .signaled,
   .streamBufferError 1 1,
   .threadLoop noLocks allOk .signaled,
   .threadLoop noLocks allOk .signaled,
   .bufferReleased ⟨2, 1, false⟩, .frameAvailable .appSegment 1000,
   .threadLoop ⟨[.ok (lockedAt 5 1000)], []⟩ allOk .signaled]

theorem appSegment_lock_leaks :
    Event.lockBuffer .appSegment 5 ∈
        (run tiledConfig appSegmentAfterReleaseRun (Stream.init singleTile singleTile)).log ∧
      Event.unlockBuffer .appSegment 5 ∉
        (run tiledConfig appSegmentAfterReleaseRun (Stream.init singleTile singleTile)).log ∧
      (run tiledConfig appSegmentAfterReleaseRun
        (Stream.init singleTile singleTile)).pendingInputFrames.entries = [] := by
  decide

end CameraService.Heic
