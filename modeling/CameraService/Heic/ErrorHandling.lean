import CameraService.Heic.OutputSlots

/-! Where failures lead: a failed APP-segment path fails its frame and releases it with
`notifyError`, and after a codec error the thread stops with unfinished frames pending. -/

namespace CameraService.Heic

section
variable (c : Config) (o : Oracle) (locks : Locks) (wait : WaitResult) {s : Stream}

theorem workerStep_selected {k : Int} (hw : s.worker = .selected k) :
    workerStep c o locks wait s =
      { (processInputFrame c o k ((s.pendingInputFrames.find? k).getD default) s).2.2 with
        pendingInputFrames :=
          (processInputFrame c o k ((s.pendingInputFrames.find? k).getD default)
            s).2.2.pendingInputFrames.insert k
            (processInputFrame c o k ((s.pendingInputFrames.find? k).getD default) s).2.1,
        worker :=
          .processed k (processInputFrame c o k ((s.pendingInputFrames.find? k).getD default) s).1 } := by
  simp only [workerStep, hw]

theorem workerStep_processed {k : Int} {res : Status} (hw : s.worker = .processed k res) :
    workerStep c o locks wait s =
      { releaseInputFramesLocked o (if res != .ok then s.markError k else s) with worker := .idle } := by
  simp only [workerStep, hw]

theorem workerStep_exited (hw : s.worker = .exited) : workerStep c o locks wait s = s := by
  simp only [workerStep, hw]

end

theorem releaseDoneFrames_log_extends (l : List (Int × InputFrame)) (s : Stream) :
    s.log <+: (releaseDoneFrames l s).log := by
  induction l generalizing s with
  | nil => exact List.prefix_refl _
  | cons e rest ih =>
    obtain ⟨k, f⟩ := e
    simp only [releaseDoneFrames]
    split_ifs
    · obtain ⟨new, hnew, -⟩ := releaseInputFrameLocked_log k f s
      refine List.IsPrefix.trans ?_ (ih _)
      show s.log <+: (releaseInputFrameLocked k f s).log
      rw [hnew]
      exact List.prefix_append _ _
    · exact ih s

theorem notifyError_mem_releaseDoneFrames {k : Int} {f : InputFrame} (he : f.error = true) :
    ∀ (l : List (Int × InputFrame)) (s : Stream), (k, f) ∈ l →
      Event.notifyError k f.requestId ∈ (releaseDoneFrames l s).log
  | [], _, h => absurd h (List.not_mem_nil _)
  | (k', f') :: rest, s, h => by
    simp only [releaseDoneFrames]
    rcases List.mem_cons.1 h with h | h
    · obtain ⟨rfl, rfl⟩ := Prod.mk.inj h
      rw [if_pos (by simp [InputFrame.done, he])]
      refine (releaseDoneFrames_log_extends rest _).subset ?_
      simp [releaseInputFrameLocked, Stream.eraseFrame, he]
    · split_ifs
      · exact notifyError_mem_releaseDoneFrames he rest _ h
      · exact notifyError_mem_releaseDoneFrames he rest s h

theorem notifyError_mem_releaseInputFramesLocked (o : Oracle) {s : Stream} {k : Int}
    {f : InputFrame} (hk : s.pendingInputFrames.find? k = some f) (he : f.error = true) :
    Event.notifyError k f.requestId ∈ (releaseInputFramesLocked o s).log := by
  have h := notifyError_mem_releaseDoneFrames he s.pendingInputFrames.entries s
    ((KeyMap.find?_eq_some_iff _ _).1 hk)
  simp only [releaseInputFramesLocked]
  split_ifs <;> (try split) <;> first
    | exact h
    | exact ((Keeps.refl _).updateCodecQualityLocked o _).log.subset h
    | exact List.mem_append_left _ h

def NoQueue (s t : Stream) : Prop :=
  ∀ anb frameNumber, Event.queueBuffer anb frameNumber ∈ t.log →
    Event.queueBuffer anb frameNumber ∈ s.log

namespace NoQueue
variable {s t u : Stream}

theorem refl (s : Stream) : NoQueue s s := fun _ _ => id

theorem trans (h₁ : NoQueue s t) (h₂ : NoQueue t u) : NoQueue s u :=
  fun anb n h => h₁ anb n (h₂ anb n h)

theorem of_settled (hl : s.log <+: t.log) (hs : t.settled = s.settled) : NoQueue s t := by
  obtain ⟨new, hnew⟩ := hl
  have hnil : new.filterMap Event.settled? = [] := by
    simpa [Stream.settled, ← hnew] using hs
  intro anb n h
  rw [← hnew] at h
  refine (List.mem_append.1 h).resolve_right fun hn => ?_
  exact List.not_mem_nil anb (hnil ▸ List.mem_filterMap.2 ⟨_, hn, rfl⟩)

theorem of_keeps (h : Keeps s t) : NoQueue s t := of_settled h.log h.settled

theorem logEvent {e : Event} (he : e.settled? = none) : NoQueue s (s.logEvent e) :=
  of_keeps (keeps_logEvent s he)

theorem release (k : Int) (f : InputFrame) :
    NoQueue s ((releaseInputFrameLocked k f s).eraseFrame k) := fun anb n h => by
  simpa [Stream.eraseFrame, releaseInputFrameLocked] using h

end NoQueue

theorem noQueue_releaseInputFramesLocked (o : Oracle) (s : Stream) :
    NoQueue s (releaseInputFramesLocked o s) := by
  have h := releaseDoneFrames_rel NoQueue NoQueue.refl (fun _ _ _ => NoQueue.trans)
    (fun _ k f _ => NoQueue.release k f) _ s s.pendingInputFrames.sorted
    fun e he => (KeyMap.find?_eq_some_iff _ _).2 he
  simp only [releaseInputFramesLocked]
  split_ifs <;> (try split) <;> first
    | exact h
    | exact h.trans (.of_keeps ((Keeps.refl _).updateCodecQualityLocked o _))
    | exact h.trans (.logEvent rfl)

def InputFrame.segment (f : InputFrame) : Option LockedBuffer × Bool :=
  (f.appSegmentBuffer, f.exifError)

theorem processAppSegment_status_congr (c : Config) (o : Oracle) (frameNumber : Int)
    {f f' : InputFrame} (h : f.segment = f'.segment) (s s' : Stream) :
    (processAppSegment c o frameNumber f s).1 = (processAppSegment c o frameNumber f' s').1 := by
  obtain ⟨h₁, h₂⟩ := Prod.mk.inj h
  simp only [processAppSegment, Outcome.check, h₁, h₂, apply_ite Prod.fst, ite_self]

theorem findAppSegmentsSize_ne_zero_of_processAppSegment (c : Config) (o : Oracle)
    (frameNumber : Int) {f : InputFrame} {s : Stream}
    (hok : (processAppSegment c o frameNumber f s).1 = .ok) (hex : f.exifError = false) :
    (findAppSegmentsSize c (f.appSegmentBuffer.getD ⟨0, 0, 0, 0, []⟩).bytes
      ((f.appSegmentBuffer.getD ⟨0, 0, 0, 0, []⟩).width *
        (f.appSegmentBuffer.getD ⟨0, 0, 0, 0, []⟩).height % 2 ^ 32)).1 ≠ 0 := by
  revert hok
  unfold processAppSegment
  simp only [hex, Bool.false_eq_true, if_false]
  generalize findAppSegmentsSize c _ _ = p
  intro hok h0
  simp [h0] at hok

def Prepares (f : InputFrame) (s : Stream) (r : Outcome) : Prop :=
  r.2.1.segment = f.segment ∧ NoQueue s r.2.2

namespace Prepares
variable {f : InputFrame} {s : Stream} {r r' : Outcome}

theorem refl (st : Status) (f : InputFrame) (s : Stream) : Prepares f s (st, f, s) :=
  ⟨rfl, .refl s⟩

theorem trans (h₁ : Prepares f s r) (h₂ : Prepares r.2.1 r.2.2 r') : Prepares f s r' :=
  ⟨h₂.1.trans h₁.1, h₁.2.trans h₂.2⟩

theorem bind (h : Prepares f s r) {k : InputFrame → Stream → Outcome}
    (hk : ∀ f' s', Prepares f' s' (k f' s')) : Prepares f s (r.bind k) :=
  Outcome.bind_rel (R := Prepares) trans h hk

theorem check {st : Status} {k : Unit → Outcome} (hk : st = .ok → Prepares f s (k ())) :
    Prepares f s (Outcome.check st f s k) :=
  Outcome.check_rel refl hk

theorem ite {c : Prop} [Decidable c] {a b : Outcome} (ha : c → Prepares f s a)
    (hb : ¬c → Prepares f s b) : Prepares f s (if c then a else b) :=
  Outcome.ite_rel ha hb

theorem step {f' : InputFrame} {e : Event} (hf : f'.segment = f.segment)
    (he : e.settled? = none) (h : Prepares f' (s.logEvent e) r) : Prepares f s r :=
  Prepares.trans (r := (.ok, f', s.logEvent e)) ⟨hf, .logEvent he⟩ h

end Prepares

section
variable (c : Config) (o : Oracle) (frameNumber : Int)

theorem prepares_processCodecInputs (isGainmap : Bool) (l : List CodecInputBufferInfo)
    (f : InputFrame) (s : Stream) :
    Prepares f s (processCodecInputs c o isGainmap frameNumber l f s) := by
  induction l generalizing s with
  | nil => exact ⟨by cases isGainmap <;> rfl, .refl s⟩
  | cons info rest ih =>
    simp only [processCodecInputs]
    exact .check fun _ => .check fun _ => .check fun _ => .step rfl (by rfl) (ih _)

theorem prepares_generateBaseImageAndGainmap (f : InputFrame) (s : Stream) :
    Prepares f s (generateBaseImageAndGainmap o frameNumber f s) := by
  simp only [generateBaseImageAndGainmap, Outcome.check]
  split <;> exact ⟨rfl, .refl s⟩

theorem prepares_startMuxerForInputFrame (f : InputFrame) (s : Stream) :
    Prepares f s (startMuxerForInputFrame o frameNumber f s) := by
  unfold startMuxerForInputFrame
  have h : ∀ (st : Status) (f' : InputFrame), f'.segment = f.segment →
      Prepares f s (st, f', { s.logEvent (.dequeueBuffer s.nextAnb) with
        nextAnb := s.nextAnb + 1, dequeuedOutputBufferCnt := s.dequeuedOutputBufferCnt + 1 }) :=
    fun _ _ hf => ⟨hf, .logEvent rfl⟩
  refine .check fun _ => .ite (fun _ => h _ _ rfl) fun _ => .ite (fun _ => h _ _ rfl) fun _ =>
    (h .ok _ rfl).trans (.check fun _ => .ite (fun _ => .refl _ _ _) fun _ => ?_)
  refine Prepares.bind ?_ fun _ _ => .check fun _ => .refl _ _ _
  exact .ite (fun _ => .ite (fun _ => ⟨rfl, .refl _⟩) fun _ => ⟨rfl, .refl _⟩) fun _ => ⟨rfl, .refl _⟩

def EndsInAppSegment (f : InputFrame) (s : Stream) (x : Outcome) : Prop :=
  ∃ r : Outcome, r.2.1.segment = f.segment ∧ NoQueue s r.2.2 ∧
    x = r.bind (processAppSegment c o frameNumber)

variable {c o frameNumber} {f : InputFrame} {s : Stream}

theorem EndsInAppSegment.bind {r : Outcome} {k : InputFrame → Stream → Outcome}
    (h : Prepares f s r) (hk : ∀ f' s', Prepares f s (.ok, f', s') →
      EndsInAppSegment c o frameNumber f s (k f' s')) :
    EndsInAppSegment c o frameNumber f s (r.bind k) := by
  unfold Outcome.bind
  split
  · exact hk _ _ h
  · exact ⟨r, h.1, h.2, (Outcome.bind_of_ne ‹_› _).symm⟩

theorem EndsInAppSegment.failing
    (hseg : (processAppSegment c o frameNumber f s).1 ≠ .ok) {f' : InputFrame} {s' : Stream}
    (h : Prepares f s (.ok, f', s')) (k : InputFrame → Stream → Outcome) :
    EndsInAppSegment c o frameNumber f s ((processAppSegment c o frameNumber f' s').bind k) := by
  refine ⟨(.ok, f', s'), h.1, h.2, ?_⟩
  rw [Outcome.bind_of_ne _ k]
  · rfl
  · rwa [processAppSegment_status_congr c o frameNumber h.1 s' s]

theorem EndsInAppSegment.fails {x : Outcome} (h : EndsInAppSegment c o frameNumber f s x)
    (hseg : (processAppSegment c o frameNumber f s).1 ≠ .ok) : x.1 ≠ .ok := by
  obtain ⟨r, hr, -, rfl⟩ := h
  unfold Outcome.bind
  split
  · rwa [processAppSegment_status_congr c o frameNumber hr _ s]
  · assumption

theorem EndsInAppSegment.noQueue {x : Outcome} (h : EndsInAppSegment c o frameNumber f s x) :
    NoQueue s x.2.2 := by
  obtain ⟨r, -, hq, rfl⟩ := h
  unfold Outcome.bind
  split
  · have h := stays_processAppSegment c o frameNumber r.2.1 r.2.2
    exact hq.trans (.of_settled h.log h.settled)
  · exact hq

theorem processInputFrame_endsInAppSegment (f : InputFrame) (s : Stream)
    (hr : f.appSegmentReady = true) (hseg : (processAppSegment c o frameNumber f s).1 ≠ .ok) :
    EndsInAppSegment c o frameNumber f s (processInputFrame c o frameNumber f s) := by
  unfold processInputFrame writeToMuxer
  simp only [hr, Bool.not_true, Bool.and_false, Bool.false_eq_true, if_false, if_true]
  refine .bind ?_ fun f₁ s₁ h₁ => .bind (h₁.trans ?_) fun f₂ s₂ h₂ =>
    .bind (h₂.trans ?_) fun f₃ s₃ h₃ => .bind (h₃.trans ?_) fun f₄ s₄ h₄ =>
      .failing hseg h₄ _
  · refine .ite (fun _ => .bind ?_ fun f s => prepares_processCodecInputs c o frameNumber _ _ f s)
      fun _ => .refl _ _ _
    exact .ite (fun _ => prepares_generateBaseImageAndGainmap o frameNumber f s) fun _ => .refl _ _ _
  · exact .ite (fun _ => prepares_processCodecInputs c o frameNumber _ _ f₁ s₁) fun _ => .refl _ _ _
  · exact .ite (fun _ => prepares_startMuxerForInputFrame o frameNumber f₂ s₂) fun _ => .refl _ _ _
  · exact .ite (fun _ => .step rfl (by rfl) (.check fun _ => ⟨rfl, .refl _⟩)) fun _ => .refl _ _ _

end

theorem appSegment_failure_escalates (c : Config) (o o' : Oracle) (locks locks' : Locks)
    (wait wait' : WaitResult) (s : Stream) (k : Int) (hw : s.worker = .selected k)
    (hr : ((s.pendingInputFrames.find? k).getD default).appSegmentReady = true)
    (hseg : (processAppSegment c o k ((s.pendingInputFrames.find? k).getD default) s).1 ≠ .ok) :
    (∃ r : Outcome, r.2.1.segment = ((s.pendingInputFrames.find? k).getD default).segment ∧
        NoQueue s r.2.2 ∧
        processInputFrame c o k ((s.pendingInputFrames.find? k).getD default) s =
          r.bind (processAppSegment c o k)) ∧
      (processInputFrame c o k ((s.pendingInputFrames.find? k).getD default) s).1 ≠ .ok ∧
      NoQueue s (workerStep c o' locks' wait' (workerStep c o locks wait s)) ∧
      (∃ requestId, Event.notifyError k requestId ∈
        (workerStep c o' locks' wait' (workerStep c o locks wait s)).log) ∧
      (workerStep c o' locks' wait' (workerStep c o locks wait s)).pendingInputFrames.find? k =
        none ∧
      ∀ (f : InputFrame) (t : Stream), (processAppSegment c o k f t).1 = .ok →
        f.exifError = false →
        (findAppSegmentsSize c (f.appSegmentBuffer.getD ⟨0, 0, 0, 0, []⟩).bytes
          ((f.appSegmentBuffer.getD ⟨0, 0, 0, 0, []⟩).width *
            (f.appSegmentBuffer.getD ⟨0, 0, 0, 0, []⟩).height % 2 ^ 32)).1 ≠ 0 := by
  have hends := processInputFrame_endsInAppSegment _ s hr hseg
  have hfail := hends.fails hseg
  have hq := hends.noQueue
  refine ⟨hends, hfail, ?_⟩
  suffices h : NoQueue s (workerStep c o' locks' wait' (workerStep c o locks wait s)) ∧
      (∃ requestId, Event.notifyError k requestId ∈
        (workerStep c o' locks' wait' (workerStep c o locks wait s)).log) ∧
      (workerStep c o' locks' wait' (workerStep c o locks wait s)).pendingInputFrames.find? k =
        none from
    ⟨h.1, h.2.1, h.2.2, fun f t hok hex =>
      findAppSegmentsSize_ne_zero_of_processAppSegment c o k hok hex⟩
  rw [workerStep_selected c o locks wait hw]
  generalize processInputFrame c o k ((s.pendingInputFrames.find? k).getD default) s = r
    at hfail hq
  obtain ⟨res, f, s'⟩ := r
  dsimp only at hfail hq ⊢
  rw [workerStep_processed c o' locks' wait' rfl, if_pos (bne_iff_ne.2 hfail)]
  have hk : ∀ t : Stream, t.pendingInputFrames = s'.pendingInputFrames.insert k f →
      (t.markError k).pendingInputFrames.find? k = some { f with error := true } :=
    fun t ht => by simp [Stream.markError, ht]
  refine ⟨hq.trans (noQueue_releaseInputFramesLocked o' _), ⟨f.requestId,
    notifyError_mem_releaseInputFramesLocked (f := { f with error := true }) o' (hk _ rfl) rfl⟩, ?_⟩
  show (releaseInputFramesLocked o' _).pendingInputFrames.find? k = none
  rw [find?_releaseInputFramesLocked, hk _ rfl]
  simp [InputFrame.done]

def malformedAppSegmentRun : List Action :=
  [.bufferRequest 1 1 ⟨none, none⟩, .shutter 1 10 1000,
   .bufferReleased ⟨1, 1, false⟩, .bufferReleased ⟨2, 1, false⟩,
   .frameAvailable .appSegment 1000, .resultAvailable 1 1000 7,
   .formatChanged (some ⟨none, none, none, none, false⟩) false,
   .codecOutput ⟨0, 100, false, 1⟩ false,
   .threadLoop ⟨[.ok (lockedAt 5 1000)], []⟩ allOk .signaled,
   .threadLoop noLocks allOk .signaled, .threadLoop noLocks allOk .signaled,
   .threadLoop noLocks allOk .signaled, .threadLoop noLocks allOk .signaled,
   .threadLoop noLocks allOk .signaled]

def malformedAppSegmentSelected : Stream :=
  run surfaceConfig (malformedAppSegmentRun.take 12) (Stream.init singleTile singleTile)

theorem appSegment_failure_escalates_malformed :
    malformedAppSegmentSelected.worker = .selected 1 ∧
      ((malformedAppSegmentSelected.pendingInputFrames.find? 1).getD default).appSegmentReady =
        true ∧
      (processAppSegment surfaceConfig allOk 1
        ((malformedAppSegmentSelected.pendingInputFrames.find? 1).getD default)
        malformedAppSegmentSelected).1 ≠ .ok ∧
      (∃ r : Outcome, r.2.1.segment =
          ((malformedAppSegmentSelected.pendingInputFrames.find? 1).getD default).segment ∧
        NoQueue malformedAppSegmentSelected r.2.2 ∧
        processInputFrame surfaceConfig allOk 1
            ((malformedAppSegmentSelected.pendingInputFrames.find? 1).getD default)
            malformedAppSegmentSelected =
          r.bind (processAppSegment surfaceConfig allOk 1)) ∧
      (processInputFrame surfaceConfig allOk 1
        ((malformedAppSegmentSelected.pendingInputFrames.find? 1).getD default)
        malformedAppSegmentSelected).1 ≠ .ok ∧
      NoQueue malformedAppSegmentSelected (workerStep surfaceConfig allOk noLocks .signaled
        (workerStep surfaceConfig allOk noLocks .signaled malformedAppSegmentSelected)) ∧
      (∃ requestId, Event.notifyError 1 requestId ∈
        (workerStep surfaceConfig allOk noLocks .signaled
          (workerStep surfaceConfig allOk noLocks .signaled malformedAppSegmentSelected)).log) ∧
      (workerStep surfaceConfig allOk noLocks .signaled
        (workerStep surfaceConfig allOk noLocks .signaled
          malformedAppSegmentSelected)).pendingInputFrames.find? 1 = none ∧
      ∀ (f : InputFrame) (t : Stream), (processAppSegment surfaceConfig allOk 1 f t).1 = .ok →
        f.exifError = false →
        (findAppSegmentsSize surfaceConfig (f.appSegmentBuffer.getD ⟨0, 0, 0, 0, []⟩).bytes
          ((f.appSegmentBuffer.getD ⟨0, 0, 0, 0, []⟩).width *
            (f.appSegmentBuffer.getD ⟨0, 0, 0, 0, []⟩).height % 2 ^ 32)).1 ≠ 0 :=
  have hw : malformedAppSegmentSelected.worker = .selected 1 := by decide
  have hr : ((malformedAppSegmentSelected.pendingInputFrames.find? 1).getD
      default).appSegmentReady = true := by decide
  have hseg : (processAppSegment surfaceConfig allOk 1
      ((malformedAppSegmentSelected.pendingInputFrames.find? 1).getD default)
      malformedAppSegmentSelected).1 ≠ .ok := by decide
  ⟨hw, hr, hseg, appSegment_failure_escalates surfaceConfig allOk allOk noLocks noLocks .signaled
    .signaled _ 1 hw hr hseg⟩

theorem malformed_appSegment_notifies :
    Event.notifyError 1 10 ∈
        (run surfaceConfig malformedAppSegmentRun (Stream.init singleTile singleTile)).log ∧
      Event.cancelBuffer 0 ∈
        (run surfaceConfig malformedAppSegmentRun (Stream.init singleTile singleTile)).log ∧
      Event.queueBuffer 0 1 ∉
        (run surfaceConfig malformedAppSegmentRun (Stream.init singleTile singleTile)).log := by
  decide

theorem step_callback_worker (c : Config) (a : Action)
    (ha : ∀ locks o wait, a ≠ .threadLoop locks o wait) (s : Stream) :
    (step c a s).worker = s.worker :=
  congrArg (·.2.2.1) (keeps_step_callback c a ha s).slots

theorem run_of_exited (c : Config) (as : List Action) {s : Stream} (hw : s.worker = .exited) :
    (run c as s).worker = .exited ∧ (run c as s).pendingInputFrames = s.pendingInputFrames := by
  induction as generalizing s with
  | nil => exact ⟨hw, rfl⟩
  | cons a as ih =>
    suffices h : (step c a s).worker = .exited ∧
        (step c a s).pendingInputFrames = s.pendingInputFrames from
      (ih h.1).imp_right (·.trans h.2)
    cases a with
    | threadLoop locks o wait => rw [step, workerStep_exited c o locks wait hw]; exact ⟨hw, rfl⟩
    | _ =>
      exact ⟨(step_callback_worker c _ (fun _ _ _ h => Action.noConfusion h) s).trans hw,
        step_callback_pendingInputFrames c _ (fun _ _ _ h => Action.noConfusion h) s⟩

theorem errorState_exit_keeps_undone_frames (c : Config) (o : Oracle) (locks : Locks)
    (wait : WaitResult) (s : Stream) (hw : s.worker = .idle) (he : s.errorState = true) (j : Int)
    (hj : ((compilePendingInputLocked c o locks s).pendingInputFrames.find? j).any (!·.done)) :
    ∀ as, (run c as (workerStep c o locks wait s)).worker = .exited ∧
      (run c as (workerStep c o locks wait s)).pendingInputFrames.find? j =
        (compilePendingInputLocked c o locks s).pendingInputFrames.find? j := by
  have hs : workerStep c o locks wait s =
      { releaseInputFramesLocked o (compilePendingInputLocked c o locks s) with
        worker := .exited } := by
    simp only [workerStep, hw, he, if_true]
  intro as
  obtain ⟨h₁, h₂⟩ := run_of_exited c as (s := workerStep c o locks wait s) (by rw [hs])
  refine ⟨h₁, ?_⟩
  rw [h₂, hs]
  dsimp only
  rw [find?_releaseInputFramesLocked]
  revert hj
  cases (compilePendingInputLocked c o locks s).pendingInputFrames.find? j <;> simp

def codecErrorBeforeBuffersRun : List Action :=
  [.bufferRequest 1 1 ⟨none, none⟩, .shutter 1 10 1000,
   .threadLoop noLocks allOk .signaled,
   .codecError,
   .threadLoop noLocks allOk .timedOut]

theorem errorState_exit_keeps_frame_one :
    (run tiledConfig codecErrorBeforeBuffersRun (Stream.init singleTile singleTile)).worker =
        .idle ∧
      (run tiledConfig codecErrorBeforeBuffersRun
        (Stream.init singleTile singleTile)).errorState = true ∧
      ((compilePendingInputLocked tiledConfig allOk noLocks
          (run tiledConfig codecErrorBeforeBuffersRun
            (Stream.init singleTile singleTile))).pendingInputFrames.find? 1).any (!·.done) ∧
      ∀ as, (run tiledConfig as (workerStep tiledConfig allOk noLocks .signaled
          (run tiledConfig codecErrorBeforeBuffersRun (Stream.init singleTile singleTile)))).worker =
          .exited ∧
        (run tiledConfig as (workerStep tiledConfig allOk noLocks .signaled
          (run tiledConfig codecErrorBeforeBuffersRun
            (Stream.init singleTile singleTile)))).pendingInputFrames.find? 1 =
          (compilePendingInputLocked tiledConfig allOk noLocks
            (run tiledConfig codecErrorBeforeBuffersRun
              (Stream.init singleTile singleTile))).pendingInputFrames.find? 1 :=
  have hw : (run tiledConfig codecErrorBeforeBuffersRun
      (Stream.init singleTile singleTile)).worker = .idle := by decide
  have he : (run tiledConfig codecErrorBeforeBuffersRun
      (Stream.init singleTile singleTile)).errorState = true := by decide
  have hj : ((compilePendingInputLocked tiledConfig allOk noLocks
      (run tiledConfig codecErrorBeforeBuffersRun
        (Stream.init singleTile singleTile))).pendingInputFrames.find? 1).any (!·.done) := by
    decide
  ⟨hw, he, hj, errorState_exit_keeps_undone_frames tiledConfig allOk noLocks .signaled _ hw he 1 hj⟩

end CameraService.Heic
