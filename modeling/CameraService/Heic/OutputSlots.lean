import Mathlib.Data.List.Perm.Basic
import CameraService.Heic.YuvHolder

/-! Output buffers: in every reachable state `mDequeuedOutputBufferCnt` counts the frames holding
one, at most one, and every dequeued buffer is held or settled exactly once. -/

namespace CameraService.Heic

def Stream.anbHolders (s : Stream) : List Nat := s.pendingInputFrames.holders (·.anb)

structure SlotCount (s : Stream) : Prop where
  count : s.dequeuedOutputBufferCnt = s.anbHolders.length
  bound : (s.anbHolders.length : Int) ≤ kMaxOutputSurfaceProducerCount
  tickets : (s.settled ++ s.anbHolders).Perm (List.range s.nextAnb)

def InputFrame.unbackedMuxer (f : InputFrame) : Option Unit :=
  if f.muxer && f.anb.isNone then some () else none

def Stream.unbackedMuxers (s : Stream) : List Unit :=
  s.pendingInputFrames.holders InputFrame.unbackedMuxer

def MuxersHeld (s : Stream) : Prop :=
  ∀ k f, s.pendingInputFrames.find? k = some f → f.muxer = true →
    f.anb.isSome = true ∨ (∃ res, s.worker = .processed k res) ∧ f.done = true

structure SlotInv (s : Stream) extends SlotCount s : Prop where
  muxers : MuxersHeld s

variable {s s' t : Stream}

theorem muxersHeld_iff (hw : ∀ k res, s.worker ≠ .processed k res) :
    MuxersHeld s ↔ s.unbackedMuxers = [] := by
  rw [Stream.unbackedMuxers, KeyMap.holders_eq_nil_iff]
  simp only [MuxersHeld, hw, exists_false, false_and, or_false, InputFrame.unbackedMuxer,
    ite_eq_right_iff, reduceCtorEq, imp_false, Bool.and_eq_true, Option.isNone_iff_eq_none,
    not_and, ← Option.ne_none_iff_isSome, ne_eq]

def SlotSafe (s s' : Stream) : Prop :=
  (SlotCount s → SlotCount s') ∧ (s.unbackedMuxers = [] → s'.unbackedMuxers = [])

theorem SlotSafe.refl (s : Stream) : SlotSafe s s := ⟨id, id⟩

theorem SlotSafe.trans (h₁ : SlotSafe s t) (h₂ : SlotSafe t s') : SlotSafe s s' :=
  ⟨h₂.1 ∘ h₁.1, h₂.2 ∘ h₁.2⟩

theorem SlotSafe.slotInv (h : SlotSafe s s') (hw : ∀ k res, s.worker ≠ .processed k res)
    (hw' : ∀ k res, s'.worker ≠ .processed k res) (hi : SlotInv s) : SlotInv s' :=
  ⟨h.1 hi.toSlotCount, (muxersHeld_iff hw').2 (h.2 ((muxersHeld_iff hw).1 hi.muxers))⟩

theorem slotSafe_of_perm (ha : s'.anbHolders.Perm s.anbHolders)
    (hu : s'.unbackedMuxers.Perm s.unbackedMuxers)
    (hc : s'.dequeuedOutputBufferCnt = s.dequeuedOutputBufferCnt) (hn : s'.nextAnb = s.nextAnb)
    (hs : s'.settled = s.settled) : SlotSafe s s' :=
  ⟨fun hi => ⟨by rw [hc, hi.count, ha.length_eq], ha.length_eq ▸ hi.bound,
      by rw [hs, hn]; exact (ha.append_left _).trans hi.tickets⟩,
    fun h => (hu.trans (h ▸ .refl _)).eq_nil⟩

theorem InputFrame.unbackedMuxer_congr {f f' : InputFrame} (h : f.held = f'.held) :
    f.unbackedMuxer = f'.unbackedMuxer := by
  simp only [InputFrame.held, Prod.mk.injEq] at h
  simp only [InputFrame.unbackedMuxer, h.2.1, h.2.2]

theorem Keeps.slotSafe (h : Keeps s s') : SlotSafe s s' :=
  slotSafe_of_perm (h.holders _ (fun _ _ hf => congrArg (·.2.1) hf) rfl)
    (h.holders _ (fun _ _ => InputFrame.unbackedMuxer_congr) rfl) (congrArg (·.1) h.slots)
    (congrArg (·.2.1) h.slots) h.settled

theorem slotSafe_storeYuv (b : LockedBuffer) (frameNumber : Int) (t : Stream) :
    SlotSafe t (t.storeYuv b frameNumber) :=
  slotSafe_of_perm (.of_eq (KeyMap.holders_modify _ _ _ (fun _ => rfl) rfl))
    (.of_eq (KeyMap.holders_modify _ _ _ (fun _ => rfl) rfl)) rfl rfl rfl

theorem KeepsOrAcquires.slotSafe : KeepsOrAcquires s s' → SlotSafe s s'
  | .inl h => h.slotSafe
  | .inr ⟨_, b, frameNumber, h, _, h'⟩ =>
    h.slotSafe.trans ((slotSafe_storeYuv b frameNumber _).trans h'.slotSafe)

theorem slotSafe_setWorker (w : Worker) (s : Stream) : SlotSafe s { s with worker := w } :=
  slotSafe_of_perm (.refl _) (.refl _) rfl rfl rfl

theorem slotSafe_release (k : Int) (f : InputFrame)
    (hf : (s.pendingInputFrames.find? k).getD default = f) :
    SlotSafe s ((releaseInputFrameLocked k f s).eraseFrame k) := by
  have hp := KeyMap.holders_perm_erase (p := (·.anb)) s.pendingInputFrames k
  rw [KeyMap.bind_find?_eq _ _ rfl, hf] at hp
  have hs : ((releaseInputFrameLocked k f s).eraseFrame k).settled = s.settled ++ f.anb.toList :=
    releaseInputFrameLocked_settled k f s
  refine ⟨fun hi => ⟨?_, ?_, ?_⟩, fun h => ?_⟩
  · have hc := hi.count
    rw [Stream.anbHolders, hp.length_eq, List.length_append] at hc
    show (if f.anb.isSome then _ else _) =
      (((s.pendingInputFrames.erase k).holders (·.anb)).length : Int)
    cases hx : f.anb <;> simp [hx] at hc ⊢ <;> omega
  · have hb := hi.bound
    rw [Stream.anbHolders, hp.length_eq, List.length_append] at hb
    show (((s.pendingInputFrames.erase k).holders (·.anb)).length : Int) ≤ _
    omega
  · rw [hs, List.append_assoc]
    exact (hp.symm.append_left _).trans hi.tickets
  · have hu := KeyMap.holders_perm_erase (p := InputFrame.unbackedMuxer) s.pendingInputFrames k
    rw [show s.pendingInputFrames.holders _ = [] from h] at hu
    exact (List.append_eq_nil.1 hu.symm.eq_nil).2

theorem slotSafe_releaseInputFramesLocked (o : Oracle) (s : Stream) :
    SlotSafe s (releaseInputFramesLocked o s) := by
  have h := releaseDoneFrames_rel SlotSafe SlotSafe.refl (fun _ _ _ => SlotSafe.trans)
    (fun s k f hf => slotSafe_release k f (by rw [hf]; rfl)) s.pendingInputFrames.entries s
    s.pendingInputFrames.sorted fun e he => (KeyMap.find?_eq_some_iff _ _).2 he
  simp only [releaseInputFramesLocked]
  split_ifs <;> (try split) <;> first
    | exact h
    | exact h.trans ((Keeps.refl _).updateCodecQualityLocked o _).slotSafe
    | exact h.trans ((Keeps.refl _).logEvent (by rfl)).slotSafe

theorem slotSafe_loopBody (c : Config) (o : Oracle) (locks : Locks) (s : Stream) :
    SlotSafe s (loopBody c o locks s) := by
  have h₁ := (keepsOrAcquires_compilePendingInputLocked c o locks s).slotSafe
  have h₂ := keeps_getNextReadyInputLocked (compilePendingInputLocked c o locks s)
  unfold loopBody
  split
  · rename_i hs
    rw [hs] at h₂
    exact (h₁.trans h₂.slotSafe).trans (slotSafe_setWorker _ _)
  · rename_i hs
    rw [hs] at h₂
    refine (h₁.trans h₂.slotSafe).trans ?_
    dsimp only
    split_ifs
    · exact (((slotSafe_release _ _ rfl).trans ((Keeps.refl _).logEvent (by rfl)).slotSafe).trans
        (slotSafe_setWorker _ _))
    · exact (slotSafe_release _ _ rfl).trans (slotSafe_setWorker _ _)
    · exact slotSafe_setWorker _ _

theorem loopBody_worker_ne (c : Config) (o : Oracle) (locks : Locks) (s : Stream) (k : Int)
    (res : Status) : (loopBody c o locks s).worker ≠ .processed k res := by
  unfold loopBody
  split
  · simp
  · dsimp only
    split_ifs <;> simp

structure Accounts (f : InputFrame) (s : Stream) (r : Outcome) : Prop where
  nextAnb : s.nextAnb ≤ r.2.2.nextAnb
  tickets : (r.2.2.settled ++ r.2.1.anb.toList).Perm
    (s.settled ++ f.anb.toList ++ List.range' s.nextAnb (r.2.2.nextAnb - s.nextAnb))
  count : r.2.2.dequeuedOutputBufferCnt + f.anb.toList.length =
    s.dequeuedOutputBufferCnt + r.2.1.anb.toList.length

theorem range'_append_of_le {a b c : Nat} (h₁ : a ≤ b) (h₂ : b ≤ c) :
    List.range' a (b - a) ++ List.range' b (c - b) = List.range' a (c - a) := by
  have h := List.range'_append a (b - a) (c - b) 1
  rwa [show a + 1 * (b - a) = b by omega, show c - b + (b - a) = c - a by omega] at h

namespace Accounts
variable {f : InputFrame} {r r' : Outcome}

theorem trans (h₁ : Accounts f s r) (h₂ : Accounts r.2.1 r.2.2 r') : Accounts f s r' where
  nextAnb := h₁.nextAnb.trans h₂.nextAnb
  tickets := by
    refine h₂.tickets.trans ?_
    rw [← range'_append_of_le h₁.nextAnb h₂.nextAnb, ← List.append_assoc]
    exact h₁.tickets.append_right _
  count := by have := h₁.count; have := h₂.count; omega

theorem status (h : Accounts f s r) (st : Status) : Accounts f s (st, r.2.1, r.2.2) :=
  ⟨h.1, h.2, h.3⟩

end Accounts

theorem Stays.accounts {f : InputFrame} {r : Outcome} (h : Stays f s r) : Accounts f s r := by
  have ha : r.2.1.anb = f.anb := congrArg (·.2.1) h.held
  have hc : r.2.2.dequeuedOutputBufferCnt = s.dequeuedOutputBufferCnt := congrArg (·.1) h.slots
  have hn : r.2.2.nextAnb = s.nextAnb := congrArg (·.2.1) h.slots
  exact ⟨hn.ge, by rw [h.settled, ha, hn, Nat.sub_self, List.range'_zero, List.append_nil],
    by rw [hc, ha]⟩

section
variable (c : Config) (o : Oracle) (frameNumber : Int)

def Holds (f : InputFrame) (s : Stream) (r : Outcome) : Prop := r.2.1.anb = f.anb ∧ r.2.2 = s

theorem Holds.trans {f : InputFrame} {r r' : Outcome} (h₁ : Holds f s r)
    (h₂ : Holds r.2.1 r.2.2 r') : Holds f s r' :=
  ⟨h₂.1.trans h₁.1, h₂.2.trans h₁.2⟩

theorem holds_startMuxerForInputFrame (f : InputFrame) (s : Stream)
    (h : o.status (.dequeueBuffer frameNumber) = .ok) :
    Holds { f with anb := some s.nextAnb } { s.logEvent (.dequeueBuffer s.nextAnb) with
        nextAnb := s.nextAnb + 1, dequeuedOutputBufferCnt := s.dequeuedOutputBufferCnt + 1 }
      (startMuxerForInputFrame o frameNumber f s) := by
  simp only [Holds, startMuxerForInputFrame, Outcome.check, Outcome.bind, if_pos h,
    apply_ite Prod.fst, apply_ite Prod.snd, apply_ite InputFrame.anb, ite_self, and_self]

theorem accounts_startMuxerForInputFrame (f : InputFrame) (s : Stream) (ha : f.anb = none)
    (hm : f.muxer = false) :
    Accounts f s (startMuxerForInputFrame o frameNumber f s) ∧
      ((startMuxerForInputFrame o frameNumber f s).2.1.anb.isSome = true ∨
        (startMuxerForInputFrame o frameNumber f s).1 ≠ .ok ∧
          (startMuxerForInputFrame o frameNumber f s).2.1.muxer = false) := by
  by_cases h : o.status (.dequeueBuffer frameNumber) = .ok
  · have hh := holds_startMuxerForInputFrame o frameNumber f s h
    generalize startMuxerForInputFrame o frameNumber f s = r at hh ⊢
    obtain ⟨h₁, h₂⟩ := hh
    refine ⟨⟨?_, ?_, ?_⟩, .inl (by rw [h₁]; rfl)⟩ <;> rw [h₂]
    · exact Nat.le_succ _
    · rw [h₁]
      simp [Stream.settled, Stream.logEvent, Event.settled?, ha]
    · rw [h₁]
      simp [ha]
  · rw [show startMuxerForInputFrame o frameNumber f s = (_, f, s) from Outcome.check_of_ne h _ _ _]
    exact ⟨⟨le_refl _, by simp, by simp⟩, .inr ⟨h, hm⟩⟩

theorem accounts_processCompletedInputFrame (f : InputFrame) (s : Stream) (ha : f.anb.isSome = true) :
    Accounts f s (processCompletedInputFrame c o frameNumber f s) ∧
      (processCompletedInputFrame c o frameNumber f s).2.2.nextAnb = s.nextAnb ∧
      (processCompletedInputFrame c o frameNumber f s).2.1.muxer = f.muxer ∧
      ((processCompletedInputFrame c o frameNumber f s).2.1.anb.isSome = true ∨
        (processCompletedInputFrame c o frameNumber f s).2.1.done = f.done) := by
  obtain ⟨a, ha⟩ := Option.isSome_iff_exists.1 ha
  simp only [processCompletedInputFrame, Outcome.check]
  generalize hf : ({ f with fileFd := -1 } : InputFrame) = f'
  split_ifs <;> subst hf <;> first
    | exact ⟨Stays.accounts ⟨rfl, rfl, rfl, rfl, List.prefix_refl _⟩, rfl, rfl,
        .inl (by simp [ha])⟩
    | exact ⟨⟨le_refl _, by simp [Stream.settled, Stream.logEvent, Event.settled?, ha],
        by simp [ha]⟩, rfl, rfl, .inr rfl⟩

theorem accounts_writeToMuxer (hasGainmapMetadata appSegmentReady : Bool) (f : InputFrame)
    (s : Stream) (ha : f.anb.isSome = true) :
    Accounts f s (writeToMuxer c o frameNumber hasGainmapMetadata appSegmentReady f s) ∧
      (writeToMuxer c o frameNumber hasGainmapMetadata appSegmentReady f s).2.2.nextAnb =
        s.nextAnb ∧
      (writeToMuxer c o frameNumber hasGainmapMetadata appSegmentReady f s).2.1.muxer = f.muxer ∧
      ((writeToMuxer c o frameNumber hasGainmapMetadata appSegmentReady f s).2.1.anb.isSome = true ∨
        (writeToMuxer c o frameNumber hasGainmapMetadata appSegmentReady f s).2.1.done = true) := by
  obtain ⟨⟨st, f₁, s₁⟩, hr, he⟩ := writeToMuxer_eq_writes c o frameNumber hasGainmapMetadata
    appSegmentReady f s
  have ha₁ : f₁.anb = f.anb := congrArg (·.2.1) hr.held
  have hm₁ : f₁.muxer = f.muxer := congrArg (·.2.2) hr.held
  have hn₁ : s₁.nextAnb = s.nextAnb := congrArg (·.2.1) hr.slots
  rw [he]
  unfold Outcome.bind
  dsimp only
  split_ifs with hst hdone
  · obtain ⟨hA, hn, hm, hd⟩ :=
      accounts_processCompletedInputFrame c o frameNumber f₁ s₁ (ha₁ ▸ ha)
    refine ⟨(hr.accounts.status .ok).trans hA, hn.trans hn₁, hm.trans hm₁,
      hd.imp_right (·.trans ?_)⟩
    simp only [Bool.and_eq_true, beq_iff_eq] at hdone
    simp [InputFrame.done, hdone]
  · exact ⟨hr.accounts.status .ok, hn₁, hm₁, .inl (ha₁ ▸ ha)⟩
  · exact ⟨hr.accounts, hn₁, hm₁, .inl (ha₁ ▸ ha)⟩

theorem accounts_processInputFrame (f : InputFrame) (s : Stream)
    (hm : f.muxer = true → f.anb.isSome = true)
    (hc : s.dequeuedOutputBufferCnt < kMaxOutputSurfaceProducerCount → f.anb = none) :
    Accounts f s (processInputFrame c o frameNumber f s) ∧
      (s.dequeuedOutputBufferCnt < kMaxOutputSurfaceProducerCount ∨
        (processInputFrame c o frameNumber f s).2.2.nextAnb = s.nextAnb) ∧
      ((processInputFrame c o frameNumber f s).2.1.muxer = true →
        (processInputFrame c o frameNumber f s).2.1.anb.isSome = true ∨
          (processInputFrame c o frameNumber f s).2.1.done = true) := by
  obtain ⟨⟨st, f₁, s₁⟩, hr, he⟩ := processInputFrame_eq_inputs c o frameNumber f s
  have ha₁ : f₁.anb = f.anb := congrArg (·.2.1) hr.held
  have hm₁ : f₁.muxer = f.muxer := congrArg (·.2.2) hr.held
  have hn₁ : s₁.nextAnb = s.nextAnb := congrArg (·.2.1) hr.slots
  have hk : Accounts f s (st, f₁, s₁) ∧
      (s.dequeuedOutputBufferCnt < kMaxOutputSurfaceProducerCount ∨ s₁.nextAnb = s.nextAnb) ∧
      (f₁.muxer = true → f₁.anb.isSome = true ∨ f₁.done = true) :=
    ⟨hr.accounts, .inr hn₁, fun h => .inl (ha₁ ▸ hm (hm₁ ▸ h))⟩
  rw [he]
  by_cases hst : st = .ok
  · subst hst
    rw [Outcome.bind_ok]
    split
    · exact hk
    rename_i hready
    cases hmux : f₁.muxer
    · -- no muxer yet: the frame was selected for a codec output while no buffer is dequeued
      have hmf : f.muxer = false := hm₁ ▸ hmux
      have hcnt : s.dequeuedOutputBufferCnt < kMaxOutputSurfaceProducerCount := by
        simp [InputFrame.appSegmentReady, Stream.hasOutputBuffer, hmf] at hready
        exact hready.2
      obtain ⟨hA, hs⟩ := accounts_startMuxerForInputFrame o frameNumber f₁ s₁
        (ha₁.trans (hc hcnt)) hmux
      have hA := (hr.accounts.status .ok).trans hA
      simp only [Bool.not_false, eq_self_iff_true, if_true]
      by_cases hst' : (startMuxerForInputFrame o frameNumber f₁ s₁).1 = .ok
      · rw [Outcome.bind, if_pos hst']
        obtain ⟨hW, -, -, hd⟩ := accounts_writeToMuxer c o frameNumber _ _ _ _
          (hs.resolve_right fun h => h.1 hst')
        exact ⟨hA.trans hW, .inl hcnt, fun _ => hd⟩
      · rw [Outcome.bind_of_ne hst']
        exact ⟨hA, .inl hcnt, fun h => .inl (hs.resolve_right fun h' => by simp [h'.2] at h)⟩
    · simp only [Bool.not_true, Bool.false_eq_true, if_false, Outcome.bind_ok]
      obtain ⟨hW, hn, -, hd⟩ := accounts_writeToMuxer c o frameNumber _ _ f₁ s₁
        (ha₁ ▸ hm (hm₁ ▸ hmux))
      exact ⟨(hr.accounts.status .ok).trans hW, .inr (hn.trans hn₁), fun _ => hd⟩
  · rw [Outcome.bind_of_ne hst]
    exact hk

end

theorem slotInv_selected {k : Int} {res : Status} {f' : InputFrame} (hi : SlotInv s)
    (hw : s.worker = .selected k)
    (hA : Accounts ((s.pendingInputFrames.find? k).getD default) s (res, f', s'))
    (hn : s.dequeuedOutputBufferCnt < kMaxOutputSurfaceProducerCount ∨ s'.nextAnb = s.nextAnb)
    (hm : f'.muxer = true → f'.anb.isSome = true ∨ f'.done = true)
    (hP : Processes ((s.pendingInputFrames.find? k).getD default) s (res, f', s')) :
    SlotInv { s' with pendingInputFrames := s'.pendingInputFrames.insert k f',
                      worker := .processed k res } := by
  have hfr : s'.pendingInputFrames = s.pendingInputFrames := hP.frames
  have hH := KeyMap.holders_perm_erase (p := (·.anb)) s.pendingInputFrames k
  rw [KeyMap.bind_find?_eq _ _ rfl] at hH
  have hN : ((s'.pendingInputFrames.insert k f').holders (·.anb)).Perm
      (f'.anb.toList ++ (s.pendingInputFrames.erase k).holders (·.anb)) :=
    hfr ▸ KeyMap.holders_insert_perm _ _ _
  have hsettled : s.settled.length ≤ s'.settled.length := (hP.log.filterMap _).length_le
  have hT := hA.tickets.length_eq
  have hc := hi.count
  have hb := hi.bound
  have hAc := hA.count
  have h₁ : f'.anb.toList.length ≤ 1 := by cases f'.anb <;> simp
  simp only [List.length_append, List.length_range'] at hT
  rw [Stream.anbHolders, hH.length_eq, List.length_append] at hc hb
  unfold kMaxOutputSurfaceProducerCount at hb hn
  refine ⟨⟨?_, ?_, ?_⟩, ?_⟩
  · show s'.dequeuedOutputBufferCnt = ((s'.pendingInputFrames.insert k f').holders (·.anb)).length
    rw [hN.length_eq, List.length_append]
    push_cast at hc hAc ⊢
    omega
  · show (((s'.pendingInputFrames.insert k f').holders (·.anb)).length : Int) ≤ 1
    rw [hN.length_eq, List.length_append]
    push_cast at hc hb ⊢
    rcases hn with hn | hn <;> omega
  · show (s'.settled ++ (s'.pendingInputFrames.insert k f').holders (·.anb)).Perm
      (List.range s'.nextAnb)
    calc List.Perm (s'.settled ++ (s'.pendingInputFrames.insert k f').holders (·.anb))
          (s'.settled ++ (f'.anb.toList ++ (s.pendingInputFrames.erase k).holders (·.anb))) :=
          hN.append_left _
      _ = (s'.settled ++ f'.anb.toList) ++ (s.pendingInputFrames.erase k).holders (·.anb) :=
          (List.append_assoc _ _ _).symm
      List.Perm _ ((s.settled ++ ((s.pendingInputFrames.find? k).getD default).anb.toList ++
            List.range' s.nextAnb (s'.nextAnb - s.nextAnb)) ++
          (s.pendingInputFrames.erase k).holders (·.anb)) :=
          hA.tickets.append_right _
      List.Perm _ ((s.settled ++ (((s.pendingInputFrames.find? k).getD default).anb.toList ++
            (s.pendingInputFrames.erase k).holders (·.anb))) ++
          List.range' s.nextAnb (s'.nextAnb - s.nextAnb)) := by
          simp only [List.append_assoc]
          exact .append_left _ (.append_left _ List.perm_append_comm)
      List.Perm _ ((s.settled ++ s.anbHolders) ++ List.range' s.nextAnb (s'.nextAnb - s.nextAnb)) :=
          (hH.symm.append_left _).append_right _
      List.Perm _ (List.range s.nextAnb ++ List.range' s.nextAnb (s'.nextAnb - s.nextAnb)) :=
          hi.tickets.append_right _
      _ = List.range s'.nextAnb := by
          have h := range'_append_of_le (Nat.zero_le _) hA.nextAnb
          rw [Nat.sub_zero, Nat.sub_zero] at h
          rw [List.range_eq_range', List.range_eq_range']
          exact h
  · intro j a hj hma
    by_cases hjk : j = k
    · subst hjk
      simp only [KeyMap.find?_insert_self, Option.some.injEq] at hj
      subst hj
      exact (hm hma).imp_right fun hd => ⟨⟨res, rfl⟩, hd⟩
    · rw [KeyMap.find?_insert_ne _ _ hjk, hfr] at hj
      exact .inl ((hi.muxers j a hj hma).resolve_right fun ⟨⟨_, h⟩, _⟩ => by simp [hw] at h)

theorem slotInv_processed (o : Oracle) {k : Int} {res : Status} (hi : SlotInv s)
    (hw : s.worker = .processed k res) :
    SlotInv { releaseInputFramesLocked o (if res != .ok then s.markError k else s) with
      worker := .idle } := by
  have hs : SlotSafe s (if res != .ok then s.markError k else s) := by
    split_ifs
    · exact ((Keeps.refl s).markError _).slotSafe
    · exact .refl s
  refine ⟨((hs.trans (slotSafe_releaseInputFramesLocked o _)).trans
    (slotSafe_setWorker _ _)).1 hi.toSlotCount, fun j a hj hma => .inl ?_⟩
  have hj : ((releaseInputFramesLocked o (if res != .ok then s.markError k else s)
    ).pendingInputFrames.find? j) = some a := hj
  rw [find?_releaseInputFramesLocked, Option.filter_eq_some] at hj
  obtain ⟨hj, hd⟩ := hj
  have hd : a.done = false := by simpa using hd
  have hs : s.pendingInputFrames.find? j = some a := by
    split_ifs at hj with hres
    · by_cases hjk : j = k
      · subst hjk
        simp only [Stream.markError, KeyMap.find?_modify_self, Option.mem_def,
          Option.some.injEq] at hj
        simp [← hj, InputFrame.done] at hd
      · simpa [Stream.markError, KeyMap.find?_modify_ne _ _ hjk] using hj
    · exact hj
  exact (hi.muxers j a hs hma).resolve_right fun h => by simp [h.2] at hd

theorem slotInv_workerStep (c : Config) (o : Oracle) (locks : Locks) (wait : WaitResult)
    (s : Stream) (hi : SlotInv s) : SlotInv (workerStep c o locks wait s) := by
  have hne : ∀ w : Worker, (∀ k res, w ≠ .processed k res) → ∀ (t : Stream),
      t.worker = w → ∀ k res, t.worker ≠ .processed k res := fun _ h _ ht k res => ht ▸ h k res
  unfold workerStep
  split
  · rename_i hw
    have hw' := hne _ (fun _ _ h => Worker.noConfusion h) s hw
    split_ifs
    · exact (((keepsOrAcquires_compilePendingInputLocked c o locks s).slotSafe.trans
        (slotSafe_releaseInputFramesLocked o _)).trans (slotSafe_setWorker _ _)).slotInv hw'
        (fun _ _ h => Worker.noConfusion h) hi
    · exact (slotSafe_loopBody c o locks s).slotInv hw' (loopBody_worker_ne c o locks s) hi
  · rename_i hw
    have hw' := hne _ (fun _ _ h => Worker.noConfusion h) s hw
    split
    · exact (slotSafe_loopBody c o locks s).slotInv hw' (loopBody_worker_ne c o locks s) hi
    · exact (slotSafe_setWorker _ _).slotInv hw' (fun _ _ h => Worker.noConfusion h) hi
    · exact (slotSafe_setWorker _ _).slotInv hw' (fun _ _ h => Worker.noConfusion h) hi
  · rename_i k hw
    have hmux : ∀ f, s.pendingInputFrames.find? k = some f → f.muxer = true →
        f.anb.isSome = true := fun f hf hm =>
      (hi.muxers k f hf hm).resolve_right fun ⟨⟨_, h⟩, _⟩ => by simp [hw] at h
    have hm : ((s.pendingInputFrames.find? k).getD default).muxer = true →
        ((s.pendingInputFrames.find? k).getD default).anb.isSome = true := by
      cases hf : s.pendingInputFrames.find? k
      · exact fun h => absurd h (by decide)
      · exact hmux _ hf
    have hc : s.dequeuedOutputBufferCnt < kMaxOutputSurfaceProducerCount →
        ((s.pendingInputFrames.find? k).getD default).anb = none := fun h => by
      have hH := (KeyMap.holders_perm_erase (p := (·.anb)) s.pendingInputFrames k).length_eq
      rw [KeyMap.bind_find?_eq _ _ rfl, List.length_append] at hH
      have := hi.count
      unfold kMaxOutputSurfaceProducerCount at h
      rw [Stream.anbHolders, hH] at this
      cases hx : ((s.pendingInputFrames.find? k).getD default).anb
      · rfl
      · simp only [hx, Option.toList_some, List.length_singleton] at this
        omega
    obtain ⟨hA, hn, hm'⟩ := accounts_processInputFrame c o k _ s hm hc
    have hP := processes_processInputFrame c o k ((s.pendingInputFrames.find? k).getD default) s
    generalize processInputFrame c o k ((s.pendingInputFrames.find? k).getD default) s = r
      at hA hn hm' hP ⊢
    obtain ⟨res, f', s'⟩ := r
    exact slotInv_selected hi hw hA hn hm' hP
  · exact slotInv_processed o hi ‹_›
  · exact hi

theorem slotInv_callback (c : Config) (a : Action)
    (ha : ∀ locks o wait, a ≠ .threadLoop locks o wait)
    (s : Stream) (hi : SlotInv s) : SlotInv (step c a s) := by
  have h := keeps_step_callback c a ha s
  have hw : (step c a s).worker = s.worker := congrArg (·.2.2.1) h.slots
  refine ⟨h.slotSafe.1 hi.toSlotCount, fun j f hj hm => ?_⟩
  rw [step_callback_pendingInputFrames c a ha s] at hj
  rw [hw]
  exact hi.muxers j f hj hm

theorem slotInv_step (c : Config) (a : Action) (s : Stream) (hi : SlotInv s) :
    SlotInv (step c a s) := by
  cases a with
  | threadLoop locks o wait => exact slotInv_workerStep c o locks wait s hi
  | _ => exact slotInv_callback c _ (fun _ _ _ h => Action.noConfusion h) s hi

theorem slotInv_init (grid gainmapGrid : Grid) : SlotInv (Stream.init grid gainmapGrid) :=
  ⟨⟨rfl, by simp [Stream.init, Stream.anbHolders, KeyMap.holders, KeyMap.empty,
      kMaxOutputSurfaceProducerCount],
    by simp [Stream.init, Stream.anbHolders, KeyMap.holders, KeyMap.empty, Stream.settled]⟩,
    fun _ _ h => by simp [Stream.init, KeyMap.find?, KeyMap.empty, KeyMap.lookup] at h⟩

theorem slotInv_of_reachable {c : Config} (h : Reachable c s) : SlotInv s := by
  induction h with
  | init grid gainmapGrid => exact slotInv_init grid gainmapGrid
  | step a _ ih => exact slotInv_step c a _ ih

theorem dequeuedOutputBufferCnt_eq_holders {c : Config} (h : Reachable c s) :
    s.dequeuedOutputBufferCnt = s.anbHolders.length ∧
      (s.anbHolders.length : Int) ≤ kMaxOutputSurfaceProducerCount ∧ s.settled.Nodup :=
  have hi := slotInv_of_reachable h
  ⟨hi.count, hi.bound,
    (hi.tickets.nodup_iff.2 (List.nodup_range _)).sublist (List.sublist_append_left _ _)⟩

def codecErrorAfterQueueRun : List Action :=
  [.bufferRequest 1 1 ⟨none, none⟩, .shutter 1 10 1000,
   .bufferReleased ⟨1, 1, false⟩, .streamBufferError 2 1, .resultAvailable 1 1000 7,
   .formatChanged (some ⟨none, none, none, none, false⟩) false,
   .codecOutput ⟨0, 100, false, 1⟩ false,
   .threadLoop noLocks allOk .signaled, .threadLoop noLocks allOk .signaled,
   .threadLoop noLocks allOk .signaled, .threadLoop noLocks allOk .signaled,
   .threadLoop noLocks allOk .signaled, .codecError, .threadLoop noLocks allOk .signaled]

theorem dequeuedOutputBufferCnt_eq_holders_midway :
    Reachable surfaceConfig
        (run surfaceConfig (codecErrorAfterQueueRun.take 9) (Stream.init singleTile singleTile)) ∧
      (run surfaceConfig (codecErrorAfterQueueRun.take 9)
          (Stream.init singleTile singleTile)).dequeuedOutputBufferCnt =
        (run surfaceConfig (codecErrorAfterQueueRun.take 9)
          (Stream.init singleTile singleTile)).anbHolders.length ∧
      ((run surfaceConfig (codecErrorAfterQueueRun.take 9)
          (Stream.init singleTile singleTile)).anbHolders.length : Int) ≤
        kMaxOutputSurfaceProducerCount ∧
      (run surfaceConfig (codecErrorAfterQueueRun.take 9)
          (Stream.init singleTile singleTile)).settled.Nodup :=
  have h := reachable_run surfaceConfig (.init singleTile singleTile) (codecErrorAfterQueueRun.take 9)
  ⟨h, dequeuedOutputBufferCnt_eq_holders h⟩

theorem queued_frame_notified_after_codecError :
    Event.queueBuffer 0 1 ∈
        (run surfaceConfig codecErrorAfterQueueRun (Stream.init singleTile singleTile)).log ∧
      Event.notifyError 1 10 ∈
        (run surfaceConfig codecErrorAfterQueueRun (Stream.init singleTile singleTile)).log := by
  decide

example : (run surfaceConfig (codecErrorAfterQueueRun.take 9)
    (Stream.init singleTile singleTile)).anbHolders = [0] := by decide

end CameraService.Heic
