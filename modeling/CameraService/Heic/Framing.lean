import CameraService.Heic.Worker

/-! Framing for the invariants over whole runs: what each step of the stream leaves alone of the
frames' resources, the counters and the settled output buffers. -/

namespace CameraService.Heic

def Event.settled? : Event → Option Nat
  | .queueBuffer anb _ => some anb
  | .cancelBuffer anb => some anb
  | _ => none

def InputFrame.held (f : InputFrame) : Option LockedBuffer × Option Nat × Bool :=
  (f.yuvBuffer, f.anb, f.muxer)

def InputFrame.holds (f : InputFrame) : Option (Option LockedBuffer × Option Nat × Bool) :=
  if f.held = (default : InputFrame).held then none else some f.held

def Stream.heldByFrames (s : Stream) : List (Option LockedBuffer × Option Nat × Bool) :=
  s.pendingInputFrames.holders InputFrame.holds

def Stream.settled (s : Stream) : List Nat := s.log.filterMap Event.settled?

def Stream.slots (s : Stream) : Int × Nat × Worker × Bool :=
  (s.dequeuedOutputBufferCnt, s.nextAnb, s.worker, s.yuvBufferAcquired)

structure Keeps (s s' : Stream) : Prop where
  slots : s'.slots = s.slots
  held : s'.heldByFrames.Perm s.heldByFrames
  settled : s'.settled = s.settled
  log : s.log <+: s'.log

section
variable {β : Type} (p : InputFrame → Option β)

theorem holders_eq_filterMap_holds (hv : ∀ f f' : InputFrame, f.held = f'.held → p f = p f')
    (hd : p default = none) (m : KeyMap InputFrame) :
    m.holders p = (m.holders InputFrame.holds).filterMap fun v =>
      p { (default : InputFrame) with yuvBuffer := v.1, anb := v.2.1, muxer := v.2.2 } := by
  simp only [KeyMap.holders, List.filterMap_filterMap]
  congr 1
  funext e
  unfold InputFrame.holds
  split
  · rename_i h
    rw [hv _ _ h, hd]
    rfl
  · exact hv _ _ rfl

theorem Keeps.holders {s s' : Stream} (h : Keeps s s')
    (hv : ∀ f f' : InputFrame, f.held = f'.held → p f = p f') (hd : p default = none) :
    (s'.pendingInputFrames.holders p).Perm (s.pendingInputFrames.holders p) := by
  rw [holders_eq_filterMap_holds p hv hd, holders_eq_filterMap_holds p hv hd]
  exact h.held.filterMap _

end

variable {s s' t : Stream}

theorem Keeps.refl (s : Stream) : Keeps s s := ⟨rfl, .refl _, rfl, List.prefix_refl _⟩

theorem Keeps.trans (h₁ : Keeps s t) (h₂ : Keeps t s') : Keeps s s' :=
  ⟨h₂.slots.trans h₁.slots, h₂.held.trans h₁.held, h₂.settled.trans h₁.settled,
    h₁.log.trans h₂.log⟩

theorem keeps_of_eq (hp : s'.pendingInputFrames = s.pendingInputFrames) (hs : s'.slots = s.slots)
    (hl : s'.log = s.log) : Keeps s s' :=
  ⟨hs, by unfold Stream.heldByFrames; rw [hp], by unfold Stream.settled; rw [hl],
    hl ▸ List.prefix_refl _⟩

theorem keeps_logEvent (s : Stream) {e : Event} (h : e.settled? = none) : Keeps s (s.logEvent e) :=
  ⟨rfl, .refl _, by simp [Stream.settled, Stream.logEvent, h], List.prefix_append _ _⟩

theorem keeps_modify (s : Stream) (k : Int) (g : InputFrame → InputFrame)
    (hg : ∀ f, (g f).held = f.held) :
    Keeps s { s with pendingInputFrames := s.pendingInputFrames.modify k g } := by
  refine ⟨rfl, ?_, rfl, List.prefix_refl _⟩
  unfold Stream.heldByFrames
  rw [KeyMap.holders_modify (p := InputFrame.holds) _ _ _
    (fun f => by simp only [InputFrame.holds, hg]) (if_pos rfl)]

theorem keeps_insert {k : Int} {f f' : InputFrame}
    (hp : s'.pendingInputFrames = s.pendingInputFrames.insert k f')
    (hf : s.pendingInputFrames.find? k = some f) (hh : f'.held = f.held)
    (hs : s'.slots = s.slots) (hl : s'.log = s.log) : Keeps s s' := by
  refine ⟨hs, ?_, by unfold Stream.settled; rw [hl], hl ▸ List.prefix_refl _⟩
  have h₁ := KeyMap.holders_insert_perm (p := InputFrame.holds) s.pendingInputFrames k f'
  have h₂ := KeyMap.holders_perm_erase (p := InputFrame.holds) s.pendingInputFrames k
  rw [hf, Option.some_bind] at h₂
  rw [show f'.holds = f.holds by simp only [InputFrame.holds, hh]] at h₁
  unfold Stream.heldByFrames
  rw [hp]
  exact h₁.trans h₂.symm

theorem InputFrame.held_setTiles (f : InputFrame) (isGainmap : Bool) (t : Tiles) :
    (f.setTiles isGainmap t).held = f.held := by
  cases isGainmap <;> rfl

section
variable (h : Keeps s t)
include h

theorem Keeps.logEvent {e : Event} (he : e.settled? = none) : Keeps s (t.logEvent e) :=
  h.trans ⟨rfl, .refl _, by simp [Stream.settled, Stream.logEvent, he], List.prefix_append _ _⟩

theorem Keeps.setEncoder (isGainmap : Bool) (e : Encoder) : Keeps s (t.setEncoder isGainmap e) :=
  h.trans (by cases isGainmap <;> exact keeps_of_eq rfl rfl rfl)

theorem Keeps.markError (key : Int) : Keeps s (t.markError key) :=
  h.trans (keeps_modify t key _ fun _ => rfl)

theorem Keeps.markExifError (key : Int) : Keeps s (t.markExifError key) :=
  h.trans (keeps_modify t key _ fun _ => rfl)

theorem Keeps.applySettings (frameNumber : Int) (st : HeicSettings) :
    Keeps s (t.applySettings frameNumber st) :=
  h.trans (keeps_modify t frameNumber _ fun _ => rfl)

theorem Keeps.attachResult (c : Config) (frameNumber : Int) (metadata : Nat) :
    Keeps s (t.attachResult c frameNumber metadata) :=
  h.trans (keeps_modify t frameNumber _ fun _ => rfl)

theorem Keeps.pushOutput (isGainmap : Bool) (frameNumber : Int) (out : CodecOutputBufferInfo) :
    Keeps s (t.pushOutput isGainmap frameNumber out) :=
  h.trans (keeps_modify t frameNumber _ fun f => f.held_setTiles _ _)

theorem Keeps.dropAppSegmentInput : Keeps s t.dropAppSegmentInput := h.trans (keeps_of_eq rfl rfl rfl)

theorem Keeps.popAppSegment : Keeps s t.popAppSegment := h.trans (keeps_of_eq rfl rfl rfl)

theorem Keeps.dropYuvInput : Keeps s t.dropYuvInput := h.trans (keeps_of_eq rfl rfl rfl)

theorem Keeps.popYuv : Keeps s t.popYuv := h.trans (keeps_of_eq rfl rfl rfl)

theorem Keeps.acceptAppSegment (b : LockedBuffer) (frameNumber : Int) :
    Keeps s (t.acceptAppSegment b frameNumber) := by
  unfold Stream.acceptAppSegment
  split
  · exact h.logEvent (by rfl)
  · exact h.trans (keeps_modify t frameNumber _ fun _ => rfl)

theorem Keeps.updateCodecQualityLocked (o : Oracle) (quality : Int) :
    Keeps s (updateCodecQualityLocked o quality t) := by
  simp only [CameraService.Heic.updateCodecQualityLocked]
  split_ifs
  · exact (h.logEvent (by rfl)).trans (keeps_of_eq rfl rfl rfl)
  · exact h.logEvent (by rfl)
  · exact h

end

theorem takeInputs_keeps (isGainmap : Bool) (n : Nat) (f : InputFrame) (s : Stream) :
    (takeInputs isGainmap n (f, s)).1.held = f.held ∧
      (takeInputs isGainmap n (f, s)).2.pendingInputFrames = s.pendingInputFrames ∧
      Keeps s (takeInputs isGainmap n (f, s)).2 := by
  induction n generalizing f s with
  | zero => exact ⟨rfl, rfl, .refl s⟩
  | succ n ih =>
    simp only [takeInputs]
    split
    · exact ⟨rfl, rfl, .refl s⟩
    · obtain ⟨h₁, h₂, h₃⟩ := ih (f.setTiles isGainmap _) _
      refine ⟨h₁.trans (f.held_setTiles _ _), h₂.trans ?_, (keeps_of_eq ?_ ?_ ?_).trans h₃⟩ <;>
        cases isGainmap <;> rfl

section
variable (c : Config) (o : Oracle) (h : Keeps s t)
include h

theorem Keeps.promoteSettings (l : List (Int × HeicSettings)) :
    Keeps s (promoteSettings o l t) := by
  induction l generalizing t with
  | nil => exact h
  | cons e rest ih =>
    obtain ⟨frameNumber, st⟩ := e
    simp only [CameraService.Heic.promoteSettings]
    split_ifs
    · refine ih ?_
      have h' := (h.applySettings frameNumber st).trans
        (@keeps_of_eq _ { t.applySettings frameNumber st with
          settingsByFrameNumber := t.settingsByFrameNumber.erase frameNumber } rfl rfl rfl)
      simp only [Stream.promote]
      split
      · exact (h'.logEvent (by rfl)).updateCodecQualityLocked o _
      · exact h'
    · exact ih h

theorem Keeps.matchAppSegmentBuffers (locks : List LockResult) :
    Keeps s (matchAppSegmentBuffers locks t) := by
  refine h.trans ?_
  clear h
  induction locks, t using CameraService.Heic.matchAppSegmentBuffers.induct with
  | case1 t => exact .refl t
  | case2 _ t _ _ _ _ hn hi =>
    simp only [CameraService.Heic.matchAppSegmentBuffers, hi, hn]
    exact .refl t
  | case3 _ t _ _ _ _ hn hi ih | case4 _ t _ _ _ _ hn hi _ _ ih | case5 _ t _ _ _ _ hn hi _ _ _ ih
  | case6 _ t _ _ _ _ hn hi _ _ _ ih =>
    simp only [CameraService.Heic.matchAppSegmentBuffers, hi, hn, if_true, if_false,
      Bool.false_eq_true, *]
    exact Keeps.trans (by apply_rules [Keeps.refl, Keeps.logEvent, Keeps.markError,
      Keeps.dropAppSegmentInput, Keeps.popAppSegment, Keeps.acceptAppSegment, rfl]) ih
  | case7 _ _ t h =>
    unfold CameraService.Heic.matchAppSegmentBuffers
    split
    · exact (h _ _ _ _ ‹_› ‹_›).elim
    · exact .refl t

theorem Keeps.attributeOutputs (isGainmap : Bool) (l : List CodecOutputBufferInfo) :
    Keeps s (attributeOutputs isGainmap l t) := by
  induction l generalizing t with
  | nil => exact h.setEncoder _ _
  | cons out outs ih =>
    simp only [CameraService.Heic.attributeOutputs]
    split
    · exact h.setEncoder _ _
    · exact ih ((h.setEncoder _ _).pushOutput _ _ _)

theorem Keeps.attachCaptureResults (l : List (Int × Int × Nat)) :
    Keeps s (attachCaptureResults c l t) := by
  induction l generalizing t with
  | nil => exact h.trans (keeps_of_eq rfl rfl rfl)
  | cons e rest ih =>
    obtain ⟨timestamp, frameNumber, metadata⟩ := e
    simp only [CameraService.Heic.attachCaptureResults]
    split
    · split_ifs
      · exact ih (h.attachResult c _ _)
      · exact ih h
    · exact ih h

theorem Keeps.applyErrorFrames (exif : Bool) (l : List Int) : Keeps s (applyErrorFrames exif l t) := by
  induction l generalizing t with
  | nil => cases exif <;> exact h.trans (keeps_of_eq rfl rfl rfl)
  | cons frameNumber rest ih =>
    simp only [CameraService.Heic.applyErrorFrames]
    split_ifs
    · exact ih (h.markExifError _)
    · exact ih (h.markError _)
    · exact ih h

theorem Keeps.distributeInputs (isGainmap : Bool) :
    Keeps s (distributeInputs isGainmap t.pendingInputFrames.entries t) := by
  suffices ∀ l : List (Int × InputFrame), (∀ e ∈ l, t.pendingInputFrames.find? e.1 = some e.2) →
      Keeps s (CameraService.Heic.distributeInputs isGainmap l t) from
    this _ fun e he => (KeyMap.find?_eq_some_iff _ _).2 he
  intro l hl
  induction l with
  | nil => exact h
  | cons e rest ih =>
    obtain ⟨frameNumber, f⟩ := e
    simp only [CameraService.Heic.distributeInputs]
    split_ifs
    · exact h
    · obtain ⟨h₁, h₂, h₃⟩ := takeInputs_keeps isGainmap _ f t
      refine h.trans (h₃.trans (keeps_insert rfl ?_ h₁ rfl rfl))
      rw [h₂]
      exact hl _ (List.mem_cons_self _ _)
    · exact ih fun e he => hl e (List.mem_cons_of_mem _ he)

theorem Keeps.attributePendingInputLocked : Keeps s (attributePendingInputLocked c t) :=
  ((((((h.attributeOutputs false _).attributeOutputs true _).attachCaptureResults c _).applyErrorFrames
    false _).applyErrorFrames true _).distributeInputs false).distributeInputs true

end

def KeepsOrAcquires (s s' : Stream) : Prop :=
  Keeps s s' ∨ ∃ t b frameNumber, Keeps s t ∧ t.yuvBufferAcquired = false ∧
    Keeps (t.storeYuv b frameNumber) s'

theorem KeepsOrAcquires.keeps_trans (h : Keeps s t) : KeepsOrAcquires t s' → KeepsOrAcquires s s'
  | .inl h' => .inl (h.trans h')
  | .inr ⟨u, b, frameNumber, hu, ha, hs⟩ => .inr ⟨u, b, frameNumber, h.trans hu, ha, hs⟩

theorem KeepsOrAcquires.trans_keeps (h : KeepsOrAcquires s t) (h' : Keeps t s') :
    KeepsOrAcquires s s' := by
  rcases h with h | ⟨u, b, frameNumber, hu, ha, hs⟩
  · exact .inl (h.trans h')
  · exact .inr ⟨u, b, frameNumber, hu, ha, hs.trans h'⟩

theorem Stream.acceptYuv_cases (b : LockedBuffer) (frameNumber : Int) (s : Stream) :
    Keeps s (s.acceptYuv b frameNumber) ∨ s.acceptYuv b frameNumber = s.storeYuv b frameNumber := by
  unfold Stream.acceptYuv
  split
  · exact .inl ((Keeps.refl s).logEvent (by rfl))
  · exact .inr rfl

theorem matchYuvBuffers_of_acquired (locks : List LockResult) {s : Stream}
    (h : s.yuvBufferAcquired = true) : matchYuvBuffers locks s = s := by
  cases locks <;> simp [matchYuvBuffers, h]

theorem keepsOrAcquires_matchYuvBuffers (locks : List LockResult) (s : Stream) :
    KeepsOrAcquires s (matchYuvBuffers locks s) := by
  induction locks, s using matchYuvBuffers.induct with
  | case1 s => exact .inl (.refl s)
  | case2 _ s _ _ _ _ hi ha hn => simp only [matchYuvBuffers, hi, ha, hn]; exact .inl (.refl s)
  | case3 _ s _ _ _ _ hi ha hn ih | case4 _ s _ _ _ _ hi ha hn _ _ ih
  | case5 _ s _ _ _ _ hi ha hn _ _ _ ih =>
    simp only [matchYuvBuffers, hi, ha, hn, if_true, if_false, Bool.false_eq_true, *]
    exact KeepsOrAcquires.keeps_trans (by apply_rules [Keeps.refl, Keeps.logEvent,
      Keeps.markError, Keeps.dropYuvInput, Keeps.popYuv, rfl]) ih
  | case6 _ s _ _ _ _ hi ha hn b _ _ ih =>
    simp only [matchYuvBuffers, hi, ha, hn, if_true, if_false, Bool.false_eq_true, *]
    rcases Stream.acceptYuv_cases b _ (s.logEvent (.lockBuffer .mainImage b.data)) with h | h
    · exact KeepsOrAcquires.keeps_trans (((Keeps.refl s).logEvent (by rfl)).trans h).popYuv ih
    · rw [h, matchYuvBuffers_of_acquired _ rfl]
      exact .inr ⟨_, b, _, (Keeps.refl s).logEvent (by rfl), ha, (Keeps.refl _).popYuv⟩
  | case7 _ _ s h =>
    unfold matchYuvBuffers
    split
    · exact (h _ _ _ _ ‹_› ‹_› ‹_›).elim
    · exact .inl (.refl s)

theorem keepsOrAcquires_compilePendingInputLocked (c : Config) (o : Oracle) (locks : Locks)
    (s : Stream) : KeepsOrAcquires s (compilePendingInputLocked c o locks s) := by
  simp only [compilePendingInputLocked]
  exact KeepsOrAcquires.keeps_trans (((Keeps.refl s).promoteSettings o _).matchAppSegmentBuffers _)
    ((keepsOrAcquires_matchYuvBuffers _ _).trans_keeps ((Keeps.refl _).attributePendingInputLocked c))

theorem keeps_getNextReadyInputLocked (s : Stream) : Keeps s (getNextReadyInputLocked s).2 := by
  unfold getNextReadyInputLocked
  split
  · exact .refl s
  · exact keeps_modify s _ _ fun _ => rfl

theorem keeps_step_callback (c : Config) (a : Action)
    (ha : ∀ locks o wait, a ≠ .threadLoop locks o wait) (s : Stream) : Keeps s (step c a s) := by
  cases a with
  | threadLoop locks o wait => exact absurd rfl (ha locks o wait)
  | codecOutput info isGainmap =>
    simp only [step, onHeicOutputFrameAvailable]
    split
    · exact (Keeps.refl s).setEncoder _ _
    · exact (Keeps.refl s).logEvent (by rfl)
  | codecInput index isGainmap =>
    simp only [step, onHeicInputFrameAvailable]
    split
    · exact .refl s
    · exact (Keeps.refl s).setEncoder _ _
  | formatChanged format isGainmap =>
    simp only [step, onHeicFormatChanged, onHeicGainmapFormatChanged]
    repeat' split
    all_goals exact keeps_of_eq rfl rfl rfl
  | frameAvailable dataSpace timestamp =>
    simp only [step, onFrameAvailable]
    repeat' split
    all_goals exact keeps_of_eq rfl rfl rfl
  | _ =>
    simp only [step, onBufferRequestForFrameNumber, onShutter, onBufferReleased, onHeicCodecError,
      onStreamBufferError, flagAnErrorFrameNumber, flagAnExifErrorFrameNumber, onResultAvailable,
      onResultError, onRequestError]
    repeat' split
    all_goals exact keeps_of_eq rfl rfl rfl

theorem step_callback_pendingInputFrames (c : Config) (a : Action)
    (ha : ∀ locks o wait, a ≠ .threadLoop locks o wait) (s : Stream) :
    (step c a s).pendingInputFrames = s.pendingInputFrames := by
  cases a <;> simp only [step, onBufferRequestForFrameNumber, onShutter, onBufferReleased,
    onFrameAvailable, onHeicOutputFrameAvailable, onHeicInputFrameAvailable, onHeicFormatChanged,
    onHeicGainmapFormatChanged, onHeicCodecError, onStreamBufferError, flagAnErrorFrameNumber,
    flagAnExifErrorFrameNumber, onResultAvailable, onResultError, onRequestError] <;>
    (repeat' split) <;>
    first | rfl | exact absurd rfl (ha _ _ _) | (unfold Stream.setEncoder; split <;> rfl)

section
variable (frameNumber : Int) (f : InputFrame) (s : Stream)

@[simp] theorem releaseInputFrameLocked_pendingInputFrames :
    (releaseInputFrameLocked frameNumber f s).pendingInputFrames = s.pendingInputFrames := rfl

@[simp] theorem releaseInputFrameLocked_nextAnb :
    (releaseInputFrameLocked frameNumber f s).nextAnb = s.nextAnb := rfl

@[simp] theorem releaseInputFrameLocked_worker :
    (releaseInputFrameLocked frameNumber f s).worker = s.worker := rfl

theorem filterMap_none_eq_nil {α β : Type} (l : List α) :
    l.filterMap (fun _ => (none : Option β)) = [] :=
  List.filterMap_eq_nil_iff.2 fun _ _ => rfl

theorem releaseInputFrameLocked_settled :
    (releaseInputFrameLocked frameNumber f s).settled = s.settled ++ f.anb.toList := by
  simp only [releaseInputFrameLocked, Stream.settled, List.filterMap_append, List.filterMap_map]
  cases f.appSegmentBuffer <;> cases f.yuvBuffer <;> cases f.anb <;>
    simp [Function.comp_def, Event.settled?, filterMap_none_eq_nil,
      apply_ite (List.filterMap Event.settled?)]

theorem releaseInputFrameLocked_log :
    ∃ new, (releaseInputFrameLocked frameNumber f s).log = s.log ++ new ∧
      ∀ b, f.yuvBuffer = some b → Event.unlockBuffer .mainImage b.data ∈ new :=
  ⟨_, by simp only [releaseInputFrameLocked, List.append_assoc]; rfl, fun b hb => by simp [hb]⟩

end

theorem releaseDoneFrames_rel (R : Stream → Stream → Prop) (hrefl : ∀ s, R s s)
    (htrans : ∀ s t u, R s t → R t u → R s u)
    (hstep : ∀ s k f, s.pendingInputFrames.find? k = some f →
      R s ((releaseInputFrameLocked k f s).eraseFrame k))
    (l : List (Int × InputFrame)) (s : Stream) (hl : l.Pairwise (fun a b => a.1 < b.1))
    (hf : ∀ e ∈ l, s.pendingInputFrames.find? e.1 = some e.2) : R s (releaseDoneFrames l s) := by
  induction l generalizing s with
  | nil => exact hrefl s
  | cons e rest ih =>
    obtain ⟨k, f⟩ := e
    rw [List.pairwise_cons] at hl
    simp only [releaseDoneFrames]
    split_ifs
    · refine htrans _ _ _ (hstep s k f (hf _ (List.mem_cons_self _ _))) (ih _ hl.2 fun e he => ?_)
      have hk : e.1 ≠ k := Int.ne_of_gt (hl.1 e he)
      simp only [Stream.eraseFrame, releaseInputFrameLocked_pendingInputFrames, KeyMap.find?_erase,
        if_neg hk]
      exact hf e (List.mem_cons_of_mem _ he)
    · exact ih s hl.2 fun e he => hf e (List.mem_cons_of_mem _ he)

theorem releaseDoneFrames_entries (l : List (Int × InputFrame)) (s : Stream) :
    (releaseDoneFrames l s).pendingInputFrames.entries =
      s.pendingInputFrames.entries.filter fun e => !l.any fun x => x.1 == e.1 && x.2.done := by
  induction l generalizing s with
  | nil => simp [releaseDoneFrames]
  | cons x rest ih =>
    obtain ⟨k, f⟩ := x
    simp only [releaseDoneFrames]
    split_ifs with hf
    · rw [ih]
      simp only [Stream.eraseFrame, releaseInputFrameLocked_pendingInputFrames, KeyMap.erase,
        List.filter_filter, List.any_cons, hf, Bool.and_true, Bool.not_or]
      congr 1
      funext e
      rw [bne, Bool.beq_comm, Bool.and_comm]
    · rw [ih]
      simp [hf]

theorem find?_releaseDoneFrames (s : Stream) (j : Int) :
    (releaseDoneFrames s.pendingInputFrames.entries s).pendingInputFrames.find? j =
      (s.pendingInputFrames.find? j).filter (!·.done) := by
  have h : ∀ e ∈ s.pendingInputFrames.entries,
      (s.pendingInputFrames.entries.any fun x => x.1 == e.1 && x.2.done) = e.2.done := by
    intro e he
    have key : ∀ x ∈ s.pendingInputFrames.entries, x.1 = e.1 → x.2 = e.2 := fun x hx h => by
      have h₁ := (KeyMap.find?_eq_some_iff _ _).2 hx
      rw [h, (KeyMap.find?_eq_some_iff _ _).2 he] at h₁
      exact (Option.some.inj h₁).symm
    cases hd : e.2.done
    · simp only [List.any_eq_false, Bool.and_eq_true, beq_iff_eq, not_and]
      intro x hx h
      rw [key x hx h, hd]
      exact Bool.false_ne_true
    · exact List.any_eq_true.2 ⟨e, he, by simp [hd]⟩
  unfold KeyMap.find?
  rw [releaseDoneFrames_entries, List.filter_congr (fun e he => by rw [h e he])]
  exact KeyMap.lookup_filter_snd j (fun f => !f.done) s.pendingInputFrames.sorted

theorem releaseInputFramesLocked_pendingInputFrames (o : Oracle) (s : Stream) :
    (releaseInputFramesLocked o s).pendingInputFrames =
      (releaseDoneFrames s.pendingInputFrames.entries s).pendingInputFrames := by
  simp only [releaseInputFramesLocked]
  split_ifs <;> (try split) <;> first
    | rfl
    | (unfold updateCodecQualityLocked; split_ifs <;> rfl)

theorem find?_releaseInputFramesLocked (o : Oracle) (s : Stream) (j : Int) :
    (releaseInputFramesLocked o s).pendingInputFrames.find? j =
      (s.pendingInputFrames.find? j).filter (!·.done) := by
  rw [releaseInputFramesLocked_pendingInputFrames, find?_releaseDoneFrames]

structure Processes (f : InputFrame) (s : Stream) (r : Outcome) : Prop where
  yuvBuffer : r.2.1.yuvBuffer = f.yuvBuffer
  frames : r.2.2.pendingInputFrames = s.pendingInputFrames
  worker : r.2.2.worker = s.worker
  acquired : r.2.2.yuvBufferAcquired = s.yuvBufferAcquired
  log : s.log <+: r.2.2.log

structure Stays (f : InputFrame) (s : Stream) (r : Outcome) : Prop where
  held : r.2.1.held = f.held
  frames : r.2.2.pendingInputFrames = s.pendingInputFrames
  slots : r.2.2.slots = s.slots
  settled : r.2.2.settled = s.settled
  log : s.log <+: r.2.2.log

namespace Processes
variable {f : InputFrame} {s : Stream} {r r' : Outcome}

theorem refl (st : Status) (f : InputFrame) (s : Stream) : Processes f s (st, f, s) :=
  ⟨rfl, rfl, rfl, rfl, List.prefix_refl _⟩

theorem trans (h₁ : Processes f s r) (h₂ : Processes r.2.1 r.2.2 r') : Processes f s r' :=
  ⟨h₂.1.trans h₁.1, h₂.2.trans h₁.2, h₂.3.trans h₁.3, h₂.4.trans h₁.4,
    h₁.log.trans h₂.log⟩

theorem bind (h : Processes f s r) {k : InputFrame → Stream → Outcome}
    (hk : ∀ f' s', Processes f' s' (k f' s')) : Processes f s (r.bind k) :=
  Outcome.bind_rel (R := Processes) trans h hk

theorem check {st : Status} {k : Unit → Outcome} (hk : st = .ok → Processes f s (k ())) :
    Processes f s (Outcome.check st f s k) :=
  Outcome.check_rel refl hk

theorem checkAt {f' : InputFrame} {s' : Stream} {st : Status} {k : Unit → Outcome}
    (h : Processes f s (.ok, f', s')) (hk : st = .ok → Processes f' s' (k ())) :
    Processes f s (Outcome.check st f' s' k) :=
  h.trans (check hk)

theorem ite {c : Prop} [Decidable c] {a b : Outcome} (ha : c → Processes f s a)
    (hb : ¬c → Processes f s b) : Processes f s (if c then a else b) :=
  Outcome.ite_rel ha hb

end Processes

namespace Stays
variable {f : InputFrame} {s : Stream} {r r' : Outcome}

theorem refl (st : Status) (f : InputFrame) (s : Stream) : Stays f s (st, f, s) :=
  ⟨rfl, rfl, rfl, rfl, List.prefix_refl _⟩

theorem trans (h₁ : Stays f s r) (h₂ : Stays r.2.1 r.2.2 r') : Stays f s r' :=
  ⟨h₂.1.trans h₁.1, h₂.2.trans h₁.2, h₂.3.trans h₁.3, h₂.4.trans h₁.4,
    h₁.log.trans h₂.log⟩

theorem bind (h : Stays f s r) {k : InputFrame → Stream → Outcome}
    (hk : ∀ f' s', Stays f' s' (k f' s')) : Stays f s (r.bind k) :=
  Outcome.bind_rel (R := Stays) trans h hk

theorem check {st : Status} {k : Unit → Outcome} (hk : st = .ok → Stays f s (k ())) :
    Stays f s (Outcome.check st f s k) :=
  Outcome.check_rel refl hk

theorem ite {c : Prop} [Decidable c] {a b : Outcome} (ha : c → Stays f s a)
    (hb : ¬c → Stays f s b) : Stays f s (if c then a else b) :=
  Outcome.ite_rel ha hb

theorem step {f' : InputFrame} {e : Event} (hh : f'.held = f.held) (he : e.settled? = none)
    (h : Stays f' (s.logEvent e) r) : Stays f s r :=
  (⟨hh, rfl, rfl, (keeps_logEvent s he).settled, List.prefix_append _ _⟩ :
    Stays f s (.ok, f', s.logEvent e)).trans h

theorem processes (h : Stays f s r) : Processes f s r :=
  ⟨congrArg (·.1) h.held, h.frames, congrArg (·.2.2.1) h.slots, congrArg (·.2.2.2) h.slots, h.log⟩

end Stays

section
variable (c : Config) (o : Oracle) (frameNumber : Int)

theorem stays_processCodecInputs (isGainmap : Bool) (l : List CodecInputBufferInfo)
    (f : InputFrame) (s : Stream) : Stays f s (processCodecInputs c o isGainmap frameNumber l f s) := by
  induction l generalizing s with
  | nil => exact ⟨f.held_setTiles _ _, rfl, rfl, rfl, List.prefix_refl _⟩
  | cons info rest ih =>
    simp only [processCodecInputs]
    exact .check fun _ => .check fun _ => .check fun _ => .step rfl (by rfl) (ih _)

theorem stays_processCodecOutputs (isGainmap : Bool) (l : List CodecOutputBufferInfo)
    (f : InputFrame) (s : Stream) : Stays f s (processCodecOutputs o isGainmap frameNumber l f s) := by
  induction l generalizing f s with
  | nil => exact .refl _ _ _
  | cons out rest ih =>
    simp only [processCodecOutputs]
    exact .check fun _ => .step rfl (by rfl) (.check fun _ =>
      .step (f.held_setTiles _ _) (by rfl) (ih _ _))

theorem stays_processAppSegment (f : InputFrame) (s : Stream) :
    Stays f s (processAppSegment c o frameNumber f s) := by
  unfold processAppSegment
  iterate 5 refine .ite (fun _ => .refl _ _ _) fun _ => ?_
  exact .step rfl (by rfl) (.check fun _ => .ite (fun _ => ⟨rfl, rfl, rfl, rfl, List.prefix_refl _⟩)
    fun _ => .step (by rfl) (by rfl) (.refl _ _ _))

theorem stays_generateBaseImageAndGainmap (f : InputFrame) (s : Stream) :
    Stays f s (generateBaseImageAndGainmap o frameNumber f s) := by
  simp only [generateBaseImageAndGainmap, Outcome.check]
  split <;> exact ⟨rfl, rfl, rfl, rfl, List.prefix_refl _⟩

theorem processes_startMuxerForInputFrame (f : InputFrame) (s : Stream) :
    Processes f s (startMuxerForInputFrame o frameNumber f s) := by
  unfold startMuxerForInputFrame
  have h : ∀ (st : Status) (f' : InputFrame), f'.yuvBuffer = f.yuvBuffer →
      Processes f s (st, f', { s.logEvent (.dequeueBuffer s.nextAnb) with
        nextAnb := s.nextAnb + 1, dequeuedOutputBufferCnt := s.dequeuedOutputBufferCnt + 1 }) :=
    fun _ _ hy => ⟨hy, rfl, rfl, rfl, List.prefix_append _ _⟩
  refine .check fun _ => .ite (fun _ => h _ _ rfl) fun _ => .ite (fun _ => h _ _ rfl) fun _ =>
    .checkAt (h _ _ rfl) fun _ => .ite (fun _ => .refl _ _ _) fun _ => ?_
  refine Processes.bind ?_ fun _ _ => .check fun _ => .refl _ _ _
  exact .ite (fun _ => .ite (fun _ => ⟨rfl, rfl, rfl, rfl, List.prefix_refl _⟩)
    fun _ => ⟨rfl, rfl, rfl, rfl, List.prefix_refl _⟩)
    fun _ => ⟨rfl, rfl, rfl, rfl, List.prefix_refl _⟩

theorem processes_processCompletedInputFrame (f : InputFrame) (s : Stream) :
    Processes f s (processCompletedInputFrame c o frameNumber f s) := by
  unfold processCompletedInputFrame
  refine .check fun _ => .ite (fun _ => .refl _ _ _) fun _ => .ite (fun _ => .refl _ _ _) fun _ =>
    .checkAt ⟨rfl, rfl, rfl, rfl, List.prefix_refl _⟩ fun _ => .check fun _ =>
      ⟨rfl, rfl, rfl, rfl, List.prefix_append _ _⟩

theorem writeToMuxer_eq_writes (hasGainmapMetadata appSegmentReady : Bool) (f : InputFrame)
    (s : Stream) : ∃ r, Stays f s r ∧
      writeToMuxer c o frameNumber hasGainmapMetadata appSegmentReady f s = r.bind fun f s =>
        if f.codec.pendingOutputTiles == 0 && f.gainmap.pendingOutputTiles == 0 &&
          f.appSegmentWritten then processCompletedInputFrame c o frameNumber f s
        else (.ok, f, s) := by
  refine ⟨_, ?_, by simp only [writeToMuxer, ← Outcome.bind_assoc]; rfl⟩
  refine ((Stays.bind ?_ fun f s => ?_).bind fun f s =>
    stays_processCodecOutputs o frameNumber _ _ f s).bind fun f s =>
    stays_processCodecOutputs o frameNumber _ _ f s
  · split
    · exact .step rfl (by rfl) (.check fun _ => ⟨rfl, rfl, rfl, rfl, List.prefix_refl _⟩)
    · exact .refl _ _ _
  · split
    · exact stays_processAppSegment c o frameNumber f s
    · exact .refl _ _ _

theorem processInputFrame_eq_inputs (f : InputFrame) (s : Stream) : ∃ r, Stays f s r ∧
    processInputFrame c o frameNumber f s = r.bind fun f' s' =>
      if !(f.codecOutputReady && s.hasOutputBuffer f) && !f.appSegmentReady then (.ok, f', s')
      else (if !f'.muxer then startMuxerForInputFrame o frameNumber f' s' else (.ok, f', s')).bind
        (writeToMuxer c o frameNumber (!f.isoGainmapMetadata.isEmpty) f.appSegmentReady) := by
  refine ⟨_, ?_, by simp only [processInputFrame, ← Outcome.bind_assoc]; rfl⟩
  refine Stays.bind ?_ fun f s => ?_
  · split
    · refine Stays.bind ?_ fun f s => stays_processCodecInputs c o frameNumber _ _ f s
      split
      · exact stays_generateBaseImageAndGainmap o frameNumber f s
      · exact .refl _ _ _
    · exact .refl _ _ _
  · split
    · exact stays_processCodecInputs c o frameNumber _ _ f s
    · exact .refl _ _ _

theorem processes_writeToMuxer (hasGainmapMetadata appSegmentReady : Bool) (f : InputFrame)
    (s : Stream) :
    Processes f s (writeToMuxer c o frameNumber hasGainmapMetadata appSegmentReady f s) := by
  obtain ⟨r, hr, he⟩ := writeToMuxer_eq_writes c o frameNumber hasGainmapMetadata appSegmentReady f s
  rw [he]
  refine hr.processes.bind fun f s => ?_
  split
  · exact processes_processCompletedInputFrame c o frameNumber f s
  · exact .refl _ _ _

theorem processes_processInputFrame (f : InputFrame) (s : Stream) :
    Processes f s (processInputFrame c o frameNumber f s) := by
  obtain ⟨r, hr, he⟩ := processInputFrame_eq_inputs c o frameNumber f s
  rw [he]
  refine hr.processes.bind fun f s => ?_
  split
  · exact .refl _ _ _
  · refine Processes.bind ?_ fun f s => processes_writeToMuxer c o frameNumber _ _ f s
    split
    · exact processes_startMuxerForInputFrame o frameNumber f s
    · exact .refl _ _ _

end
end CameraService.Heic
