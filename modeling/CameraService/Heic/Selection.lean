import CameraService.Heic.ErrorHandling

/-! The frame the processing thread works on is the first ready one, and stays a key of
`mPendingInputFrames` until it is released. -/

namespace CameraService.Heic

section
variable (s : Stream) (k : Int)

theorem firstReady_eq_none_iff :
    ∀ l : List (Int × InputFrame), firstReady s l = none ↔ ∀ j g, (j, g) ∈ l → s.ready g = false
  | [] => by simp [firstReady]
  | (j, g) :: rest => by
    cases hg : s.ready g <;>
      simp [firstReady, hg, firstReady_eq_none_iff rest, or_imp, forall_and]

theorem firstReady_eq_some_iff :
    ∀ l : List (Int × InputFrame), l.Pairwise (fun a b => a.1 < b.1) →
      (firstReady s l = some k ↔
        ∃ f, (k, f) ∈ l ∧ s.ready f = true ∧ ∀ j g, (j, g) ∈ l → j < k → s.ready g = false)
  | [], _ => by simp [firstReady]
  | (j, g) :: rest, hl => by
    obtain ⟨hj, hrest⟩ := List.pairwise_cons.1 hl
    cases hg : s.ready g
    · -- frame `j` is not ready: the answer is the rest's
      simp only [firstReady, hg, Bool.false_eq_true, if_false, firstReady_eq_some_iff rest hrest]
      constructor
      · rintro ⟨f, hf, hr, hpre⟩
        refine ⟨f, .tail _ hf, hr, fun j' g' h' hlt => ?_⟩
        rcases List.mem_cons.1 h' with h' | h'
        · cases h'
          exact hg
        · exact hpre j' g' h' hlt
      · rintro ⟨f, hf, hr, hpre⟩
        rcases List.mem_cons.1 hf with h' | h'
        · cases h'
          simp [hg] at hr
        · exact ⟨f, h', hr, fun j' g' h'' => hpre j' g' (.tail _ h'')⟩
    · -- frame `j` is ready: it is the answer
      simp only [firstReady, hg, if_true, Option.some.injEq]
      constructor
      · rintro rfl
        refine ⟨g, .head _, hg, fun j' g' h' hlt => ?_⟩
        rcases List.mem_cons.1 h' with h' | h'
        · cases h'
          omega
        · have := hj _ h'
          dsimp only at this
          omega
      · rintro ⟨f, hf, -, hpre⟩
        rcases List.mem_cons.1 hf with h' | h'
        · cases h'
          rfl
        · simpa [hg] using hpre j g (.head _) (hj _ h')

theorem getNextReadyInputLocked_fst :
    (getNextReadyInputLocked s).1 = firstReady s s.pendingInputFrames.entries := by
  unfold getNextReadyInputLocked
  split <;> simp only [*]

theorem getNextReadyInputLocked_selects_first_ready :
    (∀ k, (getNextReadyInputLocked s).1 = some k ↔
      ∃ f, s.pendingInputFrames.find? k = some f ∧ s.ready f = true ∧
        ∀ j g, s.pendingInputFrames.find? j = some g → j < k → s.ready g = false) ∧
    ((getNextReadyInputLocked s).1 = none ↔
      ∀ j g, s.pendingInputFrames.find? j = some g → s.ready g = false) := by
  simp only [getNextReadyInputLocked_fst, KeyMap.find?_eq_some_iff]
  exact ⟨fun k => firstReady_eq_some_iff s k _ s.pendingInputFrames.sorted,
    firstReady_eq_none_iff s _⟩

theorem getNextReadyInputLocked_contains {k : Int} (hk : (getNextReadyInputLocked s).1 = some k) :
    (getNextReadyInputLocked s).2.pendingInputFrames.contains k := by
  rw [getNextReadyInputLocked_fst] at hk
  unfold getNextReadyInputLocked
  rw [hk]
  simp [KeyMap.contains]

end

def Worker.frameNumber? : Worker → Option Int
  | .selected frameNumber => some frameNumber
  | .processed frameNumber _ => some frameNumber
  | _ => none

def WorkerPending (s : Stream) : Prop :=
  ∀ k, s.worker.frameNumber? = some k → s.pendingInputFrames.contains k

section
variable (c : Config) (o : Oracle) (locks : Locks) (wait : WaitResult)

theorem workerPending_loopBody (s : Stream) : WorkerPending (loopBody c o locks s) := by
  intro k hk
  unfold loopBody at hk ⊢
  generalize hg : getNextReadyInputLocked (compilePendingInputLocked c o locks s) = p at hk ⊢
  obtain ⟨_ | frameNumber, t⟩ := p
  · dsimp only at hk
    split at hk <;> simp [Worker.frameNumber?] at hk
  · simp only [Worker.frameNumber?, Option.some.injEq] at hk
    subst hk
    have h := getNextReadyInputLocked_contains _ (k := frameNumber) (by rw [hg])
    rwa [hg] at h

theorem workerPending_workerStep {s : Stream} (hs : WorkerPending s) :
    WorkerPending (workerStep c o locks wait s) := by
  cases hw : s.worker with
  | idle =>
    simp only [workerStep, hw]
    split
    · intro k hk
      simp [Worker.frameNumber?] at hk
    · exact workerPending_loopBody c o locks s
  | waiting =>
    simp only [workerStep, hw]
    cases wait
    · exact workerPending_loopBody c o locks s
    all_goals intro k hk; simp [Worker.frameNumber?] at hk
  | selected frameNumber =>
    intro k hk
    rw [workerStep_selected c o locks wait hw] at hk ⊢
    simp only [Worker.frameNumber?, Option.some.injEq] at hk
    subst hk
    simp [KeyMap.contains]
  | processed frameNumber res =>
    intro k hk
    rw [workerStep_processed c o locks wait hw] at hk
    simp [Worker.frameNumber?] at hk
  | exited => rwa [workerStep_exited c o locks wait hw]

end

theorem workerPending_step (c : Config) (a : Action) {s : Stream} (hs : WorkerPending s) :
    WorkerPending (step c a s) := by
  cases a with
  | threadLoop locks o wait => exact workerPending_workerStep c o locks wait hs
  | _ =>
    intro k hk
    rw [step_callback_pendingInputFrames c _ (fun _ _ _ h => Action.noConfusion h)]
    rw [step_callback_worker c _ (fun _ _ _ h => Action.noConfusion h)] at hk
    exact hs k hk

theorem workerPending_of_reachable {c : Config} {s : Stream} (h : Reachable c s) :
    WorkerPending s := by
  induction h with
  | init =>
    intro k hk
    simp [Stream.init, Worker.frameNumber?] at hk
  | step a _ ih => exact workerPending_step c a ih

def tileReadyRun : List Action :=
  [.bufferRequest 1 1 ⟨none, none⟩, .shutter 1 10 1000, .bufferReleased ⟨1, 1, false⟩,
   .frameAvailable .internal 1000, .codecInput 7 false,
   .threadLoop ⟨[], [.ok (lockedAt 1 1000)]⟩ allOk .signaled]

theorem workerPending_tile_ready :
    (run tiledConfig tileReadyRun (Stream.init singleTile singleTile)).worker.frameNumber? =
        some 1 ∧
      (run tiledConfig tileReadyRun (Stream.init singleTile singleTile)).pendingInputFrames.contains
        1 :=
  have hk : (run tiledConfig tileReadyRun
      (Stream.init singleTile singleTile)).worker.frameNumber? = some 1 := by decide
  ⟨hk, workerPending_of_reachable
    (reachable_run tiledConfig (.init singleTile singleTile) tileReadyRun) 1 hk⟩

end CameraService.Heic
