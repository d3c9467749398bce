import CameraService.Heic.Framing

/-! HDR gainmap encoding: a frame muxed before the gainmap format arrives gets no gainmap track
and waits for no gainmap output. -/

namespace CameraService.Heic

def hdrConfig : Config := { tiledConfig with hdrGainmapEnabled := true, appSegmentSupported := false }

def Event.sampleTrack? (isGainmap : Bool) (frameNumber : Int) : Event → Option Int
  | .writeSample k trackIndex (.codecOutput g _) =>
    if k = frameNumber ∧ g = isGainmap then some trackIndex else none
  | _ => none

def Event.queuedTile? (isGainmap : Bool) (frameNumber : Int) : Event → Option Nat
  | .queueInputBuffer g _ tileIndex k =>
    if g = isGainmap ∧ k = frameNumber then some tileIndex else none
  | _ => none

def InputFrame.TracksCover (f : InputFrame) : Prop :=
  ∀ isGainmap, (f.tiles isGainmap).trackIndex = -1 → (f.tiles isGainmap).pendingOutputTiles = 0

theorem InputFrame.tracksCover_default : (default : InputFrame).TracksCover := fun g _ => by
  cases g <;> rfl

theorem InputFrame.TracksCover.of_tiles {f f' : InputFrame}
    (h : ∀ g, (f'.tiles g).trackIndex = (f.tiles g).trackIndex ∧
      (f'.tiles g).pendingOutputTiles = (f.tiles g).pendingOutputTiles)
    (hf : f.TracksCover) : f'.TracksCover := fun g ht =>
  (h g).2.trans (hf g ((h g).1 ▸ ht))

theorem InputFrame.TracksCover.setTiles {f : InputFrame} (hf : f.TracksCover) (g' : Bool)
    {t : Tiles} (ht : t.trackIndex ≠ -1) : (f.setTiles g' t).TracksCover := fun g hg => by
  have key := hf g
  cases g <;> cases g' <;>
    simp only [InputFrame.tiles, InputFrame.setTiles, ↓reduceIte, Bool.false_eq_true] at hg key ⊢ <;>
    first | exact absurd hg ht | exact key hg

theorem InputFrame.TracksCover.countOff {f : InputFrame} (hf : f.TracksCover) (g' : Bool)
    (l : List CodecOutputBufferInfo) : (f.setTiles g' { f.tiles g' with
      outputBuffers := l, pendingOutputTiles := (f.tiles g').pendingOutputTiles - 1 }).TracksCover :=
  fun g hg => by
    have key := hf g
    cases g <;> cases g' <;>
      simp only [InputFrame.tiles, InputFrame.setTiles, ↓reduceIte, Bool.false_eq_true] at hg key ⊢ <;>
      first | exact key hg | rw [key hg]

def Stream.TracksCover (s : Stream) : Prop :=
  ∀ k f, s.pendingInputFrames.find? k = some f → f.TracksCover

def Covers (f : InputFrame) (_ : Stream) (r : Outcome) : Prop := f.TracksCover → r.2.1.TracksCover

namespace Covers
variable {f : InputFrame} {s : Stream} {r r' : Outcome}

theorem refl (st : Status) (f : InputFrame) (s : Stream) : Covers f s (st, f, s) := id

theorem trans (h₁ : Covers f s r) (h₂ : Covers r.2.1 r.2.2 r') : Covers f s r' := h₂ ∘ h₁

theorem bind (h : Covers f s r) {k : InputFrame → Stream → Outcome}
    (hk : ∀ f' s', Covers f' s' (k f' s')) : Covers f s (r.bind k) :=
  Outcome.bind_rel (R := Covers) trans h hk

theorem check {st : Status} {k : Unit → Outcome} (hk : st = .ok → Covers f s (k ())) :
    Covers f s (Outcome.check st f s k) :=
  Outcome.check_rel refl hk

theorem ite {c : Prop} [Decidable c] {a b : Outcome} (ha : c → Covers f s a)
    (hb : ¬c → Covers f s b) : Covers f s (if c then a else b) :=
  Outcome.ite_rel ha hb

theorem keep {f' : InputFrame} {s' : Stream} (st : Status) (hc : f'.codec = f.codec)
    (hg : f'.gainmap = f.gainmap) : Covers f s (st, f', s') :=
  fun hf g => by
    have := hf g
    cases g <;> simpa only [InputFrame.tiles, ↓reduceIte, Bool.false_eq_true, hc, hg] using this

theorem checkAt {f' : InputFrame} {s' : Stream} {st : Status} {k : Unit → Outcome}
    (hc : f'.codec = f.codec) (hg : f'.gainmap = f.gainmap) (hk : st = .ok → Covers f' s' (k ())) :
    Covers f s (Outcome.check st f' s' k) :=
  (keep .ok hc hg : Covers f s (.ok, f', s')).trans (check hk)

end Covers

section
variable (c : Config) (o : Oracle) (frameNumber : Int)

theorem covers_processCodecInputs (g : Bool) (l : List CodecInputBufferInfo) (f : InputFrame)
    (s : Stream) : Covers f s (processCodecInputs c o g frameNumber l f s) := by
  induction l generalizing s with
  | nil => exact .of_tiles fun g' => by cases g <;> cases g' <;> exact ⟨rfl, rfl⟩
  | cons info rest ih =>
    simp only [processCodecInputs]
    exact .check fun _ => .check fun _ => .check fun _ => ih _

theorem covers_processCodecOutputs (g : Bool) (l : List CodecOutputBufferInfo) (f : InputFrame)
    (s : Stream) : Covers f s (processCodecOutputs o g frameNumber l f s) := by
  induction l generalizing f s with
  | nil => exact .refl _ _ _
  | cons out rest ih =>
    simp only [processCodecOutputs]
    exact .check fun _ => .check fun _ => fun hf => ih _ _ (hf.countOff g rest)

theorem covers_processAppSegment (f : InputFrame) (s : Stream) :
    Covers f s (processAppSegment c o frameNumber f s) := by
  unfold processAppSegment
  iterate 5 refine .ite (fun _ => .refl _ _ _) fun _ => ?_
  exact .check fun _ => .ite (fun _ => .keep _ rfl rfl) fun _ => .keep _ rfl rfl

theorem covers_generateBaseImageAndGainmap (f : InputFrame) (s : Stream) :
    Covers f s (generateBaseImageAndGainmap o frameNumber f s) := by
  simp only [generateBaseImageAndGainmap, Outcome.check]
  split <;> exact .keep _ rfl rfl

theorem covers_startMuxerForInputFrame (f : InputFrame) (s : Stream) :
    Covers f s (startMuxerForInputFrame o frameNumber f s) := by
  unfold startMuxerForInputFrame
  refine .check fun _ => .ite (fun _ => .keep _ rfl rfl) fun _ => .ite (fun _ => .keep _ rfl rfl)
    fun _ => .checkAt rfl rfl fun _ => .ite (fun _ => .keep _ rfl rfl) fun _ => ?_
  refine Covers.bind ?_ fun _ _ => .check fun _ => .refl _ _ _
  intro hf
  have h₀ := hf.setTiles false (t := { f.codec with
    trackIndex := 0, pendingOutputTiles := s.codec.numOutputTiles }) (by simp)
  dsimp only
  split
  · split
    · exact h₀
    · exact h₀.setTiles true (t := { f.gainmap with
        trackIndex := 1, pendingOutputTiles := s.gainmap.numOutputTiles }) (by simp)
  · exact h₀

theorem covers_processCompletedInputFrame (f : InputFrame) (s : Stream) :
    Covers f s (processCompletedInputFrame c o frameNumber f s) := by
  unfold processCompletedInputFrame
  exact .check fun _ => .ite (fun _ => .refl _ _ _) fun _ => .ite (fun _ => .refl _ _ _) fun _ =>
    .checkAt rfl rfl fun _ => .check fun _ => .keep _ rfl rfl

theorem covers_writeToMuxer (hasGainmapMetadata appSegmentReady : Bool) (f : InputFrame)
    (s : Stream) :
    Covers f s (writeToMuxer c o frameNumber hasGainmapMetadata appSegmentReady f s) := by
  unfold writeToMuxer
  refine Covers.bind ?_ fun f s => Covers.bind ?_ fun f s =>
    (covers_processCodecOutputs o frameNumber false _ f s).bind fun f s =>
    (covers_processCodecOutputs o frameNumber true _ f s).bind fun f s => ?_
  · split
    · exact .check fun _ => .keep _ rfl rfl
    · exact .refl _ _ _
  · split
    · exact covers_processAppSegment c o frameNumber f s
    · exact .refl _ _ _
  · split
    · exact covers_processCompletedInputFrame c o frameNumber f s
    · exact .refl _ _ _

theorem covers_processInputFrame (f : InputFrame) (s : Stream) :
    Covers f s (processInputFrame c o frameNumber f s) := by
  unfold processInputFrame
  refine Covers.bind ?_ fun f s => Covers.bind ?_ fun f s => ?_
  · split
    · refine Covers.bind ?_ fun f s => covers_processCodecInputs c o frameNumber _ _ f s
      split
      · exact covers_generateBaseImageAndGainmap o frameNumber f s
      · exact .refl _ _ _
    · exact .refl _ _ _
  · split
    · exact covers_processCodecInputs c o frameNumber _ _ f s
    · exact .refl _ _ _
  · split
    · exact .refl _ _ _
    · refine Covers.bind ?_ fun f s => covers_writeToMuxer c o frameNumber _ _ f s
      split
      · exact covers_startMuxerForInputFrame o frameNumber f s
      · exact .refl _ _ _

end

def CoverSafe (s s' : Stream) : Prop := s.TracksCover → s'.TracksCover

section
variable {s s' t : Stream}

theorem CoverSafe.refl (s : Stream) : CoverSafe s s := id

theorem CoverSafe.trans (h₁ : CoverSafe s t) (h₂ : CoverSafe t s') : CoverSafe s s' := h₂ ∘ h₁

theorem coverSafe_of_frames (h : s'.pendingInputFrames = s.pendingInputFrames) : CoverSafe s s' :=
  fun hs k f hf => hs k f (h ▸ hf)

theorem coverSafe_setWorker (w : Worker) (s : Stream) : CoverSafe s { s with worker := w } :=
  coverSafe_of_frames rfl

theorem coverSafe_modify (s : Stream) (k : Int) (g : InputFrame → InputFrame)
    (hg : ∀ f, f.TracksCover → (g f).TracksCover) :
    CoverSafe s { s with pendingInputFrames := s.pendingInputFrames.modify k g } := by
  intro hs j f hf
  by_cases hj : j = k
  · subst hj
    rw [KeyMap.find?_modify_self, Option.some.injEq] at hf
    subst hf
    refine hg _ ?_
    cases hk : s.pendingInputFrames.find? j with
    | none => exact InputFrame.tracksCover_default
    | some f => exact hs j f hk
  · rw [KeyMap.find?_modify_ne _ _ hj] at hf
    exact hs j f hf

theorem coverSafe_modify_of_tiles (s : Stream) (k : Int) (g : InputFrame → InputFrame)
    (hg : ∀ f, (g f).codec = f.codec ∧ (g f).gainmap = f.gainmap) :
    CoverSafe s { s with pendingInputFrames := s.pendingInputFrames.modify k g } :=
  coverSafe_modify s k g fun f => (Covers.keep .ok (hg f).1 (hg f).2 : Covers f s (.ok, g f, s))

theorem coverSafe_insert (s : Stream) (k : Int) {f : InputFrame} (hf : f.TracksCover) :
    CoverSafe s { s with pendingInputFrames := s.pendingInputFrames.insert k f } := by
  intro hs j f' hf'
  by_cases hj : j = k
  · subst hj
    rw [KeyMap.find?_insert_self, Option.some.injEq] at hf'
    exact hf' ▸ hf
  · rw [KeyMap.find?_insert_ne _ _ hj] at hf'
    exact hs j f' hf'

theorem coverSafe_eraseFrame (s : Stream) (k : Int) : CoverSafe s (s.eraseFrame k) := by
  intro hs j f hf
  simp only [Stream.eraseFrame, KeyMap.find?_erase] at hf
  split at hf
  · cases hf
  · exact hs j f hf

theorem updateCodecQualityLocked_pendingInputFrames (o : Oracle) (quality : Int) (s : Stream) :
    (updateCodecQualityLocked o quality s).pendingInputFrames = s.pendingInputFrames := by
  unfold updateCodecQualityLocked
  split_ifs <;> rfl

section
variable (h : CoverSafe s t)
include h

theorem CoverSafe.frames (hp : s'.pendingInputFrames = t.pendingInputFrames) : CoverSafe s s' :=
  h.trans (coverSafe_of_frames hp)

theorem CoverSafe.logEvent (e : Event) : CoverSafe s (t.logEvent e) := h.frames rfl

theorem CoverSafe.markError (key : Int) : CoverSafe s (t.markError key) :=
  h.trans (coverSafe_modify_of_tiles t key _ fun _ => ⟨rfl, rfl⟩)

theorem CoverSafe.markExifError (key : Int) : CoverSafe s (t.markExifError key) :=
  h.trans (coverSafe_modify_of_tiles t key _ fun _ => ⟨rfl, rfl⟩)

theorem CoverSafe.applySettings (frameNumber : Int) (st : HeicSettings) :
    CoverSafe s (t.applySettings frameNumber st) :=
  h.trans (coverSafe_modify_of_tiles t frameNumber _ fun _ => ⟨rfl, rfl⟩)

theorem CoverSafe.attachResult (c : Config) (frameNumber : Int) (metadata : Nat) :
    CoverSafe s (t.attachResult c frameNumber metadata) :=
  h.trans (coverSafe_modify_of_tiles t frameNumber _ fun _ => ⟨rfl, rfl⟩)

theorem CoverSafe.pushOutput (g : Bool) (frameNumber : Int) (out : CodecOutputBufferInfo) :
    CoverSafe s (t.pushOutput g frameNumber out) :=
  h.trans (coverSafe_modify t frameNumber _ fun _ hf =>
    hf.of_tiles fun g' => by cases g <;> cases g' <;> exact ⟨rfl, rfl⟩)

theorem CoverSafe.acceptAppSegment (b : LockedBuffer) (frameNumber : Int) :
    CoverSafe s (t.acceptAppSegment b frameNumber) := by
  unfold Stream.acceptAppSegment
  split
  · exact h.frames rfl
  · exact h.trans (coverSafe_modify_of_tiles t frameNumber _ fun _ => ⟨rfl, rfl⟩)

theorem CoverSafe.acceptYuv (b : LockedBuffer) (frameNumber : Int) :
    CoverSafe s (t.acceptYuv b frameNumber) := by
  unfold Stream.acceptYuv
  split
  · exact h.frames rfl
  · exact (h.trans (coverSafe_modify_of_tiles t frameNumber (fun f => { f with yuvBuffer := some b })
      fun _ => ⟨rfl, rfl⟩)).frames rfl

end

theorem coverSafe_promoteSettings (o : Oracle) :
    ∀ (l : List (Int × HeicSettings)) (s : Stream), CoverSafe s (promoteSettings o l s)
  | [], s => .refl s
  | (frameNumber, st) :: rest, s => by
    simp only [promoteSettings]
    split_ifs
    · refine CoverSafe.trans ?_ (coverSafe_promoteSettings o rest _)
      refine ((CoverSafe.refl s).applySettings frameNumber st).frames ?_
      simp only [Stream.promote]
      split
      · rw [updateCodecQualityLocked_pendingInputFrames]
        rfl
      · rfl
    · exact coverSafe_promoteSettings o rest s

theorem coverSafe_matchAppSegmentBuffers (locks : List LockResult) (t : Stream) :
    CoverSafe t (matchAppSegmentBuffers locks t) := by
  induction locks, t using matchAppSegmentBuffers.induct with
  | case1 t => exact .refl t
  | case2 _ t _ _ _ _ hn hi =>
    simp only [matchAppSegmentBuffers, hi, hn]
    exact .refl t
  | case3 _ t _ _ _ _ hn hi ih =>
    simp only [matchAppSegmentBuffers, hi, hn]
    refine CoverSafe.trans ?_ ih
    exact ((CoverSafe.refl t).markError _).frames rfl
  | case4 _ t _ _ _ _ hn hi _ hb ih =>
    simp only [matchAppSegmentBuffers, hi, hn, hb, if_true]
    refine CoverSafe.trans ?_ ih
    exact ((((CoverSafe.refl t).logEvent _).logEvent _).markError _).frames rfl
  | case5 _ t _ _ _ _ hn hi _ hb hc ih =>
    simp only [matchAppSegmentBuffers, hi, hn, hb, hc, if_true, if_false, Bool.false_eq_true]
    refine CoverSafe.trans ?_ ih
    exact (CoverSafe.refl t).frames rfl
  | case6 _ t _ _ _ _ hn hi _ hb hc ih =>
    simp only [matchAppSegmentBuffers, hi, hn, hb, hc, if_false, Bool.false_eq_true]
    refine CoverSafe.trans ?_ ih
    exact (((CoverSafe.refl t).logEvent _).acceptAppSegment _ _).frames rfl
  | case7 _ _ t h =>
    unfold matchAppSegmentBuffers
    split
    · exact (h _ _ _ _ ‹_› ‹_›).elim
    · exact .refl t

theorem coverSafe_matchYuvBuffers (locks : List LockResult) (t : Stream) :
    CoverSafe t (matchYuvBuffers locks t) := by
  induction locks, t using matchYuvBuffers.induct with
  | case1 t => exact .refl t
  | case2 _ t _ _ _ _ hi ha hn => simp only [matchYuvBuffers, hi, ha, hn]; exact .refl t
  | case3 _ t _ _ _ _ hi ha hn ih =>
    simp only [matchYuvBuffers, hi, ha, hn]
    refine CoverSafe.trans ?_ ih
    exact ((CoverSafe.refl t).markError _).frames rfl
  | case4 _ t _ _ _ _ hi ha hn _ hb ih =>
    simp only [matchYuvBuffers, hi, ha, hn, hb, if_true]
    refine CoverSafe.trans ?_ ih
    exact (((CoverSafe.refl t).logEvent _).markError _).frames rfl
  | case5 _ t _ _ _ _ hi ha hn _ hb hc ih =>
    simp only [matchYuvBuffers, hi, ha, hn, hb, hc, if_true, if_false, Bool.false_eq_true]
    refine CoverSafe.trans ?_ ih
    exact (CoverSafe.refl t).frames rfl
  | case6 _ t _ _ _ _ hi ha hn _ hb hc ih =>
    simp only [matchYuvBuffers, hi, ha, hn, hb, hc, if_false, Bool.false_eq_true]
    refine CoverSafe.trans ?_ ih
    exact (((CoverSafe.refl t).logEvent _).acceptYuv _ _).frames rfl
  | case7 _ _ t h =>
    unfold matchYuvBuffers
    split
    · exact (h _ _ _ _ ‹_› ‹_› ‹_›).elim
    · exact .refl t

theorem setEncoder_frames (g : Bool) (e : Encoder) (t : Stream) :
    (t.setEncoder g e).pendingInputFrames = t.pendingInputFrames := by
  cases g <;> rfl

theorem coverSafe_attributeOutputs (g : Bool) :
    ∀ (l : List CodecOutputBufferInfo) (t : Stream), CoverSafe t (attributeOutputs g l t)
  | [], t => (CoverSafe.refl t).frames (setEncoder_frames g _ t)
  | out :: outs, t => by
    simp only [attributeOutputs]
    split
    · exact (CoverSafe.refl t).frames (setEncoder_frames g _ t)
    · exact (((CoverSafe.refl t).frames (setEncoder_frames g _ t)).pushOutput g _ out).trans
        (coverSafe_attributeOutputs g outs _)

theorem coverSafe_attachCaptureResults (c : Config) :
    ∀ (l : List (Int × Int × Nat)) (t : Stream), CoverSafe t (attachCaptureResults c l t)
  | [], t => (CoverSafe.refl t).frames rfl
  | (timestamp, frameNumber, metadata) :: rest, t => by
    simp only [attachCaptureResults]
    split
    · split_ifs
      · exact ((CoverSafe.refl t).attachResult c _ _).trans (coverSafe_attachCaptureResults c rest _)
      · exact coverSafe_attachCaptureResults c rest t
    · exact coverSafe_attachCaptureResults c rest t

theorem coverSafe_applyErrorFrames (exif : Bool) :
    ∀ (l : List Int) (t : Stream), CoverSafe t (applyErrorFrames exif l t)
  | [], t => by cases exif <;> exact (CoverSafe.refl t).frames rfl
  | frameNumber :: rest, t => by
    simp only [applyErrorFrames]
    split_ifs
    · exact ((CoverSafe.refl t).markExifError _).trans (coverSafe_applyErrorFrames exif rest _)
    · exact ((CoverSafe.refl t).markError _).trans (coverSafe_applyErrorFrames exif rest _)
    · exact coverSafe_applyErrorFrames exif rest t

theorem tracksCover_takeInputs (g : Bool) (n : Nat) (f : InputFrame) (t : Stream)
    (hf : f.TracksCover) : (takeInputs g n (f, t)).1.TracksCover := by
  induction n generalizing f t with
  | zero => exact hf
  | succ n ih =>
    simp only [takeInputs]
    split
    · exact hf
    · exact ih _ _ (hf.of_tiles fun g' => by cases g <;> cases g' <;> exact ⟨rfl, rfl⟩)

theorem coverSafe_distributeInputs (g : Bool) (t : Stream) :
    CoverSafe t (distributeInputs g t.pendingInputFrames.entries t) := by
  intro ht
  suffices ∀ l : List (Int × InputFrame), (∀ e ∈ l, t.pendingInputFrames.find? e.1 = some e.2) →
      (distributeInputs g l t).TracksCover from
    this _ fun e he => (KeyMap.find?_eq_some_iff _ _).2 he
  intro l hl
  induction l with
  | nil => exact ht
  | cons e rest ih =>
    obtain ⟨frameNumber, f⟩ := e
    simp only [distributeInputs]
    split_ifs
    · exact ht
    · obtain ⟨-, hp, -⟩ := takeInputs_keeps g _ f t
      exact coverSafe_insert _ frameNumber
        (tracksCover_takeInputs g _ f t (ht _ _ (hl _ (List.mem_cons_self _ _))))
        (coverSafe_of_frames hp ht)
    · exact ih fun e he => hl e (List.mem_cons_of_mem _ he)

theorem coverSafe_compilePendingInputLocked (c : Config) (o : Oracle) (locks : Locks) (t : Stream) :
    CoverSafe t (compilePendingInputLocked c o locks t) := by
  simp only [compilePendingInputLocked, attributePendingInputLocked]
  exact (coverSafe_promoteSettings o _ t).trans <| (coverSafe_matchAppSegmentBuffers _ _).trans <|
    (coverSafe_matchYuvBuffers _ _).trans <| (coverSafe_attributeOutputs false _ _).trans <|
    (coverSafe_attributeOutputs true _ _).trans <| (coverSafe_attachCaptureResults c _ _).trans <|
    (coverSafe_applyErrorFrames false _ _).trans <| (coverSafe_applyErrorFrames true _ _).trans <|
    (coverSafe_distributeInputs false _).trans (coverSafe_distributeInputs true _)

theorem coverSafe_getNextReadyInputLocked (t : Stream) : CoverSafe t (getNextReadyInputLocked t).2 := by
  unfold getNextReadyInputLocked
  split
  · exact .refl t
  · exact coverSafe_modify _ _ _ fun _ hf => hf.of_tiles fun g => by cases g <;> exact ⟨rfl, rfl⟩

theorem coverSafe_releaseInputFramesLocked (o : Oracle) (t : Stream) :
    CoverSafe t (releaseInputFramesLocked o t) := fun ht k f hf => by
  rw [find?_releaseInputFramesLocked] at hf
  exact ht k f (Option.filter_eq_some.1 hf).1

theorem coverSafe_loopBody (c : Config) (o : Oracle) (locks : Locks) (t : Stream) :
    CoverSafe t (loopBody c o locks t) := by
  have h₁ := (coverSafe_compilePendingInputLocked c o locks t).trans
    (coverSafe_getNextReadyInputLocked _)
  unfold loopBody
  split
  · rename_i hs
    rw [hs] at h₁
    exact h₁.trans (coverSafe_setWorker _ _)
  · rename_i hs
    rw [hs] at h₁
    refine h₁.trans ?_
    dsimp only
    split_ifs
    · refine CoverSafe.trans ?_ (coverSafe_setWorker .idle _)
      exact (((CoverSafe.refl _).frames rfl).trans (coverSafe_eraseFrame _ _)).logEvent .markComponentIdle
    · exact (((CoverSafe.refl _).frames rfl).trans (coverSafe_eraseFrame _ _)).trans
        (coverSafe_setWorker .idle _)
    · exact coverSafe_setWorker .waiting _

theorem coverSafe_workerStep (c : Config) (o : Oracle) (locks : Locks) (wait : WaitResult)
    (t : Stream) : CoverSafe t (workerStep c o locks wait t) := by
  unfold workerStep
  split
  · split_ifs
    · exact ((coverSafe_compilePendingInputLocked c o locks t).trans
        (coverSafe_releaseInputFramesLocked o _)).trans (coverSafe_setWorker _ _)
    · exact coverSafe_loopBody c o locks t
  · split
    · exact coverSafe_loopBody c o locks t
    · exact coverSafe_setWorker _ _
    · exact coverSafe_setWorker _ _
  · rename_i frameNumber _
    have hP := processes_processInputFrame c o frameNumber
      ((t.pendingInputFrames.find? frameNumber).getD default) t
    have hC := covers_processInputFrame c o frameNumber
      ((t.pendingInputFrames.find? frameNumber).getD default) t
    generalize processInputFrame c o frameNumber
      ((t.pendingInputFrames.find? frameNumber).getD default) t = r at hP hC ⊢
    obtain ⟨res, f, u⟩ := r
    intro ht
    have hf : f.TracksCover := hC <| by
      cases hk : t.pendingInputFrames.find? frameNumber with
      | none => exact InputFrame.tracksCover_default
      | some f₀ => exact ht _ _ hk
    exact ((coverSafe_insert u frameNumber hf).trans (coverSafe_setWorker _ _))
      (coverSafe_of_frames hP.frames ht)
  · refine (?_ : CoverSafe t _).trans
      ((coverSafe_releaseInputFramesLocked o _).trans (coverSafe_setWorker _ _))
    split_ifs
    · exact (CoverSafe.refl t).markError _
    · exact .refl t
  · exact .refl t

theorem coverSafe_step (c : Config) (a : Action) (t : Stream) : CoverSafe t (step c a t) := by
  cases a with
  | threadLoop locks o wait => exact coverSafe_workerStep c o locks wait t
  | _ => exact coverSafe_of_frames (step_callback_pendingInputFrames c _ (fun _ _ _ h =>
      Action.noConfusion h) t)

theorem tracksCover_of_reachable {c : Config} {t : Stream} (h : Reachable c t) : t.TracksCover := by
  induction h with
  | init grid gainmapGrid =>
    intro k f hf
    cases hf
  | step a _ ih => exact coverSafe_step c a _ ih

end

def gainmapFormatLateRun : List Action :=
  [.bufferRequest 1 1 ⟨none, none⟩, .shutter 1 10 1000, .bufferReleased ⟨1, 1, false⟩,
   .resultAvailable 1 1000 0, .frameAvailable .internal 1000, .codecInput 7 false,
   .codecInput 8 true, .threadLoop ⟨[], [.ok (lockedAt 1 1000)]⟩ allOk .signaled,
   .threadLoop noLocks allOk .signaled, .threadLoop noLocks allOk .signaled,
   .formatChanged (some ⟨none, none, none, none, false⟩) false,
   .codecOutput ⟨0, 100, false, 1⟩ false,
   .threadLoop noLocks allOk .signaled, .threadLoop noLocks allOk .signaled,
   .threadLoop noLocks allOk .signaled, .threadLoop noLocks allOk .signaled,
   .threadLoop noLocks allOk .signaled, .threadLoop noLocks allOk .signaled]

theorem hdr_container_without_gainmap_track :
    hdrConfig.hdrGainmapEnabled = true ∧
      ((run hdrConfig (gainmapFormatLateRun.take 14)
          (Stream.init singleTile singleTile)).pendingInputFrames.find? 1).map
        (fun f => (f.muxer, f.gainmap.format.isSome, f.gainmap.trackIndex)) = some (true, false, -1) ∧
      Event.queueBuffer 0 1 ∈
        (run hdrConfig gainmapFormatLateRun (Stream.init singleTile singleTile)).log ∧
      (run hdrConfig gainmapFormatLateRun (Stream.init singleTile singleTile)).log.filterMap
        (Event.queuedTile? true 1) = [0] ∧
      (run hdrConfig gainmapFormatLateRun (Stream.init singleTile singleTile)).log.filterMap
        (Event.sampleTrack? true 1) = [] ∧
      (run hdrConfig gainmapFormatLateRun (Stream.init singleTile singleTile)).gainmap.numOutputTiles = 1 := by
  decide

theorem done_without_gainmap_track {c : Config} {s : Stream} (h : Reachable c s) {k : Int}
    {f : InputFrame} (hf : s.pendingInputFrames.find? k = some f) (ht : f.gainmap.trackIndex = -1) :
    f.gainmap.pendingOutputTiles = 0 ∧
      f.done = (f.error || (f.appSegmentWritten && f.codec.pendingOutputTiles == 0)) := by
  have h0 : f.gainmap.pendingOutputTiles = 0 := tracksCover_of_reachable h k f hf true ht
  exact ⟨h0, by simp only [InputFrame.done, h0, beq_self_eq_true, Bool.and_true]⟩

theorem done_without_gainmap_track_formatLate :
    ((run hdrConfig (gainmapFormatLateRun.take 14)
        (Stream.init singleTile singleTile)).pendingInputFrames.find? 1 =
      some (((run hdrConfig (gainmapFormatLateRun.take 14)
        (Stream.init singleTile singleTile)).pendingInputFrames.find? 1).getD default)) ∧
      (((run hdrConfig (gainmapFormatLateRun.take 14)
        (Stream.init singleTile singleTile)).pendingInputFrames.find? 1).getD default).gainmap.trackIndex = -1 ∧
      (((run hdrConfig (gainmapFormatLateRun.take 14)
        (Stream.init singleTile singleTile)).pendingInputFrames.find? 1).getD default).gainmap.pendingOutputTiles = 0 :=
  have hf : (run hdrConfig (gainmapFormatLateRun.take 14)
      (Stream.init singleTile singleTile)).pendingInputFrames.find? 1 =
    some (((run hdrConfig (gainmapFormatLateRun.take 14)
      (Stream.init singleTile singleTile)).pendingInputFrames.find? 1).getD default) := by decide
  have ht : (((run hdrConfig (gainmapFormatLateRun.take 14)
      (Stream.init singleTile singleTile)).pendingInputFrames.find? 1).getD default).gainmap.trackIndex = -1 := by
    decide
  ⟨hf, ht, (done_without_gainmap_track
    (reachable_run hdrConfig (.init singleTile singleTile) (gainmapFormatLateRun.take 14)) hf ht).1⟩

def gainmapInputLateRun : List Action :=
  [.bufferRequest 1 1 ⟨none, none⟩, .shutter 1 10 1000, .bufferReleased ⟨1, 1, false⟩,
   .resultAvailable 1 1000 0, .frameAvailable .internal 1000, .codecInput 7 false,
   .threadLoop ⟨[], [.ok (lockedAt 1 1000)]⟩ allOk .signaled,
   .threadLoop noLocks allOk .signaled, .threadLoop noLocks allOk .signaled,
   .formatChanged (some ⟨none, none, none, none, false⟩) false,
   .codecOutput ⟨0, 100, false, 1⟩ false,
   .threadLoop noLocks allOk .signaled, .threadLoop noLocks allOk .signaled,
   .threadLoop noLocks allOk .signaled, .threadLoop noLocks allOk .signaled,
   .threadLoop noLocks allOk .signaled, .threadLoop noLocks allOk .signaled]

theorem hdr_container_without_gainmap_tiles :
    hdrConfig.useGrid = true ∧
      (∀ n ≤ gainmapInputLateRun.length,
        (run hdrConfig (gainmapInputLateRun.take n) (Stream.init singleTile singleTile)).codec.grid =
            singleTile ∧
          (run hdrConfig (gainmapInputLateRun.take n)
            (Stream.init singleTile singleTile)).gainmap.grid = singleTile) ∧
      Event.queueBuffer 0 1 ∈
        (run hdrConfig gainmapInputLateRun (Stream.init singleTile singleTile)).log ∧
      (run hdrConfig gainmapInputLateRun (Stream.init singleTile singleTile)).log.filterMap
        (Event.queuedTile? false 1) = [0] ∧
      (run hdrConfig gainmapInputLateRun (Stream.init singleTile singleTile)).log.filterMap
        (Event.queuedTile? true 1) = [] := by
  decide

end CameraService.Heic
