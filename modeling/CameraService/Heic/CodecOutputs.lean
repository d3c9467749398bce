import CameraService.Heic.Attribution

/-! Every codec output buffer is in exactly one place over any run, and the counting
attribution gives output `i` of a pass to the frame at position `(k + i) / N` of the queue. -/

namespace CameraService.Heic

def InputFrame.outputsOf (isGainmap : Bool) (f : InputFrame) : Option (List CodecOutputBufferInfo) :=
  if (f.tiles isGainmap).outputBuffers = [] then none else some (f.tiles isGainmap).outputBuffers

def Stream.framedOutputs (isGainmap : Bool) (s : Stream) : List CodecOutputBufferInfo :=
  (s.pendingInputFrames.holders (InputFrame.outputsOf isGainmap)).flatten

def Event.released? (isGainmap : Bool) : Event → Option Int
  | .releaseOutputBuffer g index => if g = isGainmap then some index else none
  | _ => none

def Stream.releasedOutputs (isGainmap : Bool) (s : Stream) : List Int :=
  s.log.filterMap (Event.released? isGainmap)

def Stream.outputs (isGainmap : Bool) (s : Stream) : List Int :=
  ((s.encoder isGainmap).outputBuffers ++ s.framedOutputs isGainmap).map (·.index) ++
    s.releasedOutputs isGainmap

def Action.received (isGainmap : Bool) : Action → List Int
  | .codecOutput info g => if g = isGainmap then [info.index] else []
  | _ => []

def Encoder.attribution (e : Encoder) : List CodecOutputBufferInfo × List Int × Nat × Nat :=
  (e.outputBuffers, e.outputBufferFrameNumbers, e.outputCounter, e.numOutputTiles)

section
variable (g : Bool) {f : InputFrame} {s : Stream}

@[simp] theorem InputFrame.outputsOf_default : InputFrame.outputsOf g default = none := by
  cases g <;> rfl

theorem InputFrame.flatten_outputsOf (f : InputFrame) :
    (f.outputsOf g).toList.flatten = (f.tiles g).outputBuffers := by
  unfold InputFrame.outputsOf
  split <;> simp_all

theorem InputFrame.outputsOf_congr {f f' : InputFrame}
    (h : (f'.tiles g).outputBuffers = (f.tiles g).outputBuffers) : f'.outputsOf g = f.outputsOf g := by
  simp only [InputFrame.outputsOf, h]

theorem InputFrame.tiles_setTiles_ne {g' : Bool} (h : g' ≠ g) (t : Tiles) (f : InputFrame) :
    (f.setTiles g' t).tiles g = f.tiles g := by
  cases g <;> cases g' <;> first | rfl | exact absurd rfl h

theorem Stream.encoder_setEncoder_ne {g' : Bool} (h : g' ≠ g) (e : Encoder) (s : Stream) :
    (s.setEncoder g' e).encoder g = s.encoder g := by
  cases g <;> cases g' <;> first | rfl | exact absurd rfl h

@[simp] theorem Stream.setEncoder_log (e : Encoder) (s : Stream) : (s.setEncoder g e).log = s.log := by
  cases g <;> rfl

@[simp] theorem Stream.encoder_logEvent (e : Event) : (s.logEvent e).encoder g = s.encoder g := by
  cases g <;> rfl

@[simp] theorem Stream.framedOutputs_logEvent (e : Event) :
    (s.logEvent e).framedOutputs g = s.framedOutputs g := rfl

@[simp] theorem Stream.releasedOutputs_logEvent (e : Event) :
    (s.logEvent e).releasedOutputs g = s.releasedOutputs g ++ (e.released? g).toList := by
  cases h : e.released? g <;> simp [Stream.releasedOutputs, Stream.logEvent, h]

theorem Stream.framedOutputs_perm_erase (k : Int) :
    (s.framedOutputs g).Perm
      ((((s.pendingInputFrames.find? k).getD default).tiles g).outputBuffers ++
        ((s.pendingInputFrames.erase k).holders (InputFrame.outputsOf g)).flatten) := by
  have h := (KeyMap.holders_perm_erase (p := InputFrame.outputsOf g) s.pendingInputFrames k).flatten
  rwa [KeyMap.bind_find?_eq _ _ (InputFrame.outputsOf_default g), List.flatten_append,
    InputFrame.flatten_outputsOf] at h

theorem framedOutputs_modify_perm (k : Int) (h : InputFrame → InputFrame) :
    ({ s with pendingInputFrames := s.pendingInputFrames.modify k h }.framedOutputs g).Perm
      (((h ((s.pendingInputFrames.find? k).getD default)).tiles g).outputBuffers ++
        ((s.pendingInputFrames.erase k).holders (InputFrame.outputsOf g)).flatten) := by
  have hp := (KeyMap.holders_modify_perm (p := InputFrame.outputsOf g) s.pendingInputFrames k h).flatten
  rwa [List.flatten_append, InputFrame.flatten_outputsOf] at hp

theorem framedOutputs_insert_perm (k : Int) (v : InputFrame) :
    ({ s with pendingInputFrames := s.pendingInputFrames.insert k v }.framedOutputs g).Perm
      ((v.tiles g).outputBuffers ++
        ((s.pendingInputFrames.erase k).holders (InputFrame.outputsOf g)).flatten) := by
  have hp := (KeyMap.holders_insert_perm (p := InputFrame.outputsOf g) s.pendingInputFrames k v).flatten
  rwa [List.flatten_append, InputFrame.flatten_outputsOf] at hp

end

structure OutputsStay (isGainmap : Bool) (s s' : Stream) : Prop where
  attribution : (s'.encoder isGainmap).attribution = (s.encoder isGainmap).attribution
  framed : (s'.framedOutputs isGainmap).Perm (s.framedOutputs isGainmap)
  released : s'.releasedOutputs isGainmap = s.releasedOutputs isGainmap

namespace OutputsStay
variable {g : Bool} {s s' t : Stream}

theorem refl (s : Stream) : OutputsStay g s s := ⟨rfl, .refl _, rfl⟩

theorem trans (h₁ : OutputsStay g s t) (h₂ : OutputsStay g t s') : OutputsStay g s s' :=
  ⟨h₂.1.trans h₁.1, h₂.2.trans h₁.2, h₂.3.trans h₁.3⟩

theorem outputs (h : OutputsStay g s s') : (s'.outputs g).Perm (s.outputs g) := by
  have hw : (s'.encoder g).outputBuffers = (s.encoder g).outputBuffers := congrArg (·.1) h.1
  simp only [Stream.outputs, hw, h.3, List.map_append]
  exact ((h.2.map _).append_left _).append_right _

theorem of_eq (hp : s'.pendingInputFrames = s.pendingInputFrames) (hc : s'.codec = s.codec)
    (hg : s'.gainmap = s.gainmap) (hl : s'.log = s.log) : OutputsStay g s s' := by
  refine ⟨?_, ?_, ?_⟩
  · cases g <;> simp [Stream.encoder, hc, hg]
  · simp only [Stream.framedOutputs, hp]; exact .refl _
  · simp only [Stream.releasedOutputs, hl]

section
variable (h : OutputsStay g s t)
include h

theorem logEvent {e : Event} (he : e.released? g = none) : OutputsStay g s (t.logEvent e) :=
  h.trans ⟨rfl, .refl _, by simp [he]⟩

theorem modify (k : Int) (u : InputFrame → InputFrame)
    (hu : ∀ f, ((u f).tiles g).outputBuffers = (f.tiles g).outputBuffers) :
    OutputsStay g s { t with pendingInputFrames := t.pendingInputFrames.modify k u } := by
  refine h.trans ⟨rfl, ?_, rfl⟩
  unfold Stream.framedOutputs
  rw [KeyMap.holders_modify _ _ _ (fun f => InputFrame.outputsOf_congr g (hu f))
    (InputFrame.outputsOf_default g)]

theorem insert {k : Int} {f v : InputFrame} (hf : t.pendingInputFrames.find? k = some f)
    (hv : (v.tiles g).outputBuffers = (f.tiles g).outputBuffers) :
    OutputsStay g s { t with pendingInputFrames := t.pendingInputFrames.insert k v } := by
  have hp : v.outputsOf g = (t.pendingInputFrames.find? k).bind (InputFrame.outputsOf g) := by
    rw [hf, Option.some_bind]
    exact InputFrame.outputsOf_congr g hv
  exact h.trans ⟨rfl, (KeyMap.holders_insert_perm_self _ k v hp).flatten, rfl⟩

theorem setInputBuffers (g' : Bool) (l : List Int) :
    OutputsStay g s (t.setEncoder g' { t.encoder g' with inputBuffers := l }) :=
  h.trans ⟨by cases g <;> cases g' <;> rfl, by
    simp only [Stream.framedOutputs, Stream.setEncoder_pendingInputFrames]; exact .refl _,
    by simp [Stream.releasedOutputs]⟩

theorem setEncoder_ne {g' : Bool} (hne : g' ≠ g) (e : Encoder) :
    OutputsStay g s (t.setEncoder g' e) :=
  h.trans ⟨by rw [Stream.encoder_setEncoder_ne g hne], by
    simp only [Stream.framedOutputs, Stream.setEncoder_pendingInputFrames]; exact .refl _,
    by simp [Stream.releasedOutputs]⟩

theorem markError (key : Int) : OutputsStay g s (t.markError key) := h.modify key _ fun _ => rfl

theorem markExifError (key : Int) : OutputsStay g s (t.markExifError key) :=
  h.modify key _ fun _ => rfl

theorem applySettings (frameNumber : Int) (st : HeicSettings) :
    OutputsStay g s (t.applySettings frameNumber st) := h.modify frameNumber _ fun _ => rfl

theorem attachResult (c : Config) (frameNumber : Int) (metadata : Nat) :
    OutputsStay g s (t.attachResult c frameNumber metadata) := h.modify frameNumber _ fun _ => rfl

theorem dropAppSegmentInput : OutputsStay g s t.dropAppSegmentInput := h.trans (of_eq rfl rfl rfl rfl)

theorem popAppSegment : OutputsStay g s t.popAppSegment := h.trans (of_eq rfl rfl rfl rfl)

theorem dropYuvInput : OutputsStay g s t.dropYuvInput := h.trans (of_eq rfl rfl rfl rfl)

theorem popYuv : OutputsStay g s t.popYuv := h.trans (of_eq rfl rfl rfl rfl)

theorem acceptAppSegment (b : LockedBuffer) (frameNumber : Int) :
    OutputsStay g s (t.acceptAppSegment b frameNumber) := by
  unfold Stream.acceptAppSegment
  split
  · exact h.logEvent (by rfl)
  · exact h.modify frameNumber _ fun _ => rfl

theorem storeYuv (b : LockedBuffer) (frameNumber : Int) :
    OutputsStay g s (t.storeYuv b frameNumber) :=
  have h' := h.modify frameNumber (fun f => { f with yuvBuffer := some b }) fun _ => rfl
  ⟨h'.1, h'.2, h'.3⟩

theorem acceptYuv (b : LockedBuffer) (frameNumber : Int) :
    OutputsStay g s (t.acceptYuv b frameNumber) := by
  unfold Stream.acceptYuv
  split
  · exact h.logEvent (by rfl)
  · exact h.storeYuv b frameNumber

theorem updateCodecQualityLocked (o : Oracle) (quality : Int) :
    OutputsStay g s (updateCodecQualityLocked o quality t) := by
  simp only [CameraService.Heic.updateCodecQualityLocked]
  split_ifs
  · exact (h.logEvent (by rfl)).trans (of_eq rfl rfl rfl rfl)
  · exact h.logEvent (by rfl)
  · exact h

end
end OutputsStay

theorem takeInputs_outputsStay (g g' : Bool) (n : Nat) (f : InputFrame) (s : Stream) :
    ((takeInputs g' n (f, s)).1.tiles g).outputBuffers = (f.tiles g).outputBuffers ∧
      (takeInputs g' n (f, s)).2.pendingInputFrames = s.pendingInputFrames ∧
      OutputsStay g s (takeInputs g' n (f, s)).2 := by
  induction n generalizing f s with
  | zero => exact ⟨rfl, rfl, .refl s⟩
  | succ n ih =>
    simp only [takeInputs]
    split
    · exact ⟨rfl, rfl, .refl s⟩
    · obtain ⟨h₁, h₂, h₃⟩ := ih (f.setTiles g' _) _
      refine ⟨h₁.trans (by cases g <;> cases g' <;> rfl), h₂.trans (by cases g' <;> rfl),
        OutputsStay.trans ?_ h₃⟩
      exact ((OutputsStay.refl s).setInputBuffers g' _).trans (.of_eq rfl rfl rfl rfl)

namespace OutputsStay
variable {g : Bool} {s t : Stream} (c : Config) (o : Oracle) (h : OutputsStay g s t)
include h

theorem promoteSettings (l : List (Int × HeicSettings)) :
    OutputsStay g s (promoteSettings o l t) := by
  induction l generalizing t with
  | nil => exact h
  | cons e rest ih =>
    obtain ⟨frameNumber, st⟩ := e
    simp only [CameraService.Heic.promoteSettings]
    split_ifs
    · refine ih ?_
      have h' := (h.applySettings frameNumber st).trans
        (@of_eq g _ { t.applySettings frameNumber st with
          settingsByFrameNumber := t.settingsByFrameNumber.erase frameNumber } rfl rfl rfl rfl)
      simp only [Stream.promote]
      split
      · exact (h'.logEvent (by rfl)).updateCodecQualityLocked o _
      · exact h'
    · exact ih h

theorem matchAppSegmentBuffers (locks : List LockResult) :
    OutputsStay g s (matchAppSegmentBuffers locks t) := by
  refine h.trans ?_
  clear h
  induction locks, t using CameraService.Heic.matchAppSegmentBuffers.induct with
  | case1 t => exact .refl t
  | case2 _ t _ _ _ _ hn hi =>
    simp only [CameraService.Heic.matchAppSegmentBuffers, hi, hn]
    exact .refl t
  | case3 _ t _ _ _ _ hn hi ih =>
    simp only [CameraService.Heic.matchAppSegmentBuffers, hi, hn]
    exact ((OutputsStay.refl t).markError _).dropAppSegmentInput.trans ih
  | case4 _ t _ _ _ _ hn hi _ hb ih =>
    simp only [CameraService.Heic.matchAppSegmentBuffers, hi, hn, hb, if_true]
    exact ((((OutputsStay.refl t).logEvent (by rfl)).logEvent (by rfl)).markError
      _).dropAppSegmentInput.trans ih
  | case5 _ t _ _ _ _ hn hi _ hb hc ih =>
    simp only [CameraService.Heic.matchAppSegmentBuffers, hi, hn, hb, hc, if_true, if_false,
      Bool.false_eq_true]
    exact ((OutputsStay.refl t).logEvent (by rfl)).popAppSegment.trans ih
  | case6 _ t _ _ _ _ hn hi _ hb hc ih =>
    simp only [CameraService.Heic.matchAppSegmentBuffers, hi, hn, hb, hc, if_false,
      Bool.false_eq_true]
    exact (((OutputsStay.refl t).logEvent (by rfl)).acceptAppSegment _ _).popAppSegment.trans ih
  | case7 _ _ t h =>
    unfold CameraService.Heic.matchAppSegmentBuffers
    split
    · exact (h _ _ _ _ ‹_› ‹_›).elim
    · exact .refl t

theorem matchYuvBuffers (locks : List LockResult) :
    OutputsStay g s (matchYuvBuffers locks t) := by
  refine h.trans ?_
  clear h
  induction locks, t using CameraService.Heic.matchYuvBuffers.induct with
  | case1 t => exact .refl t
  | case2 _ t _ _ _ _ hi ha hn => simp only [CameraService.Heic.matchYuvBuffers, hi, ha, hn]; exact .refl t
  | case3 _ t _ _ _ _ hi ha hn ih =>
    simp only [CameraService.Heic.matchYuvBuffers, hi, ha, hn]
    exact ((OutputsStay.refl t).markError _).dropYuvInput.trans ih
  | case4 _ t _ _ _ _ hi ha hn _ hb ih =>
    simp only [CameraService.Heic.matchYuvBuffers, hi, ha, hn, hb, if_true]
    exact (((OutputsStay.refl t).logEvent (by rfl)).markError _).dropYuvInput.trans ih
  | case5 _ t _ _ _ _ hi ha hn _ hb hc ih =>
    simp only [CameraService.Heic.matchYuvBuffers, hi, ha, hn, hb, hc, if_true, if_false,
      Bool.false_eq_true]
    exact ((OutputsStay.refl t).logEvent (by rfl)).popYuv.trans ih
  | case6 _ t _ _ _ _ hi ha hn _ hb hc ih =>
    simp only [CameraService.Heic.matchYuvBuffers, hi, ha, hn, hb, hc, if_false,
      Bool.false_eq_true]
    exact (((OutputsStay.refl t).logEvent (by rfl)).acceptYuv _ _).popYuv.trans ih
  | case7 _ _ t h =>
    unfold CameraService.Heic.matchYuvBuffers
    split
    · exact (h _ _ _ _ ‹_› ‹_› ‹_›).elim
    · exact .refl t

theorem attributeOutputs_ne {g' : Bool} (hne : g' ≠ g) (l : List CodecOutputBufferInfo) :
    OutputsStay g s (attributeOutputs g' l t) := by
  induction l generalizing t with
  | nil => exact h.setEncoder_ne hne _
  | cons out outs ih =>
    simp only [CameraService.Heic.attributeOutputs]
    split
    · exact h.setEncoder_ne hne _
    · exact ih ((h.setEncoder_ne hne _).modify _ _ fun f => by
        rw [InputFrame.tiles_setTiles_ne g hne])

theorem attachCaptureResults (l : List (Int × Int × Nat)) :
    OutputsStay g s (attachCaptureResults c l t) := by
  induction l generalizing t with
  | nil => exact h.trans (of_eq rfl rfl rfl rfl)
  | cons e rest ih =>
    obtain ⟨timestamp, frameNumber, metadata⟩ := e
    simp only [CameraService.Heic.attachCaptureResults]
    split
    · split_ifs
      · exact ih (h.attachResult c _ _)
      · exact ih h
    · exact ih h

theorem applyErrorFrames (exif : Bool) (l : List Int) :
    OutputsStay g s (applyErrorFrames exif l t) := by
  induction l generalizing t with
  | nil => cases exif <;> exact h.trans (of_eq rfl rfl rfl rfl)
  | cons frameNumber rest ih =>
    simp only [CameraService.Heic.applyErrorFrames]
    split_ifs
    · exact ih (h.markExifError _)
    · exact ih (h.markError _)
    · exact ih h

theorem distributeInputs (g' : Bool) :
    OutputsStay g s (distributeInputs g' t.pendingInputFrames.entries t) := by
  suffices ∀ l : List (Int × InputFrame), (∀ e ∈ l, t.pendingInputFrames.find? e.1 = some e.2) →
      OutputsStay g s (CameraService.Heic.distributeInputs g' l t) from
    this _ fun e he => (KeyMap.find?_eq_some_iff _ _).2 he
  intro l hl
  induction l with
  | nil => exact h
  | cons e rest ih =>
    obtain ⟨frameNumber, f⟩ := e
    simp only [CameraService.Heic.distributeInputs]
    split_ifs
    · exact h
    · obtain ⟨h₁, h₂, h₃⟩ := takeInputs_outputsStay g g' _ f t
      exact (h.trans h₃).insert (h₂ ▸ hl _ (List.mem_cons_self _ _)) h₁
    · exact ih fun e he => hl e (List.mem_cons_of_mem _ he)

end OutputsStay

theorem outputsStay_getNextReadyInputLocked (g : Bool) (s : Stream) :
    OutputsStay g s (getNextReadyInputLocked s).2 := by
  unfold getNextReadyInputLocked
  split
  · exact .refl s
  · exact (OutputsStay.refl s).modify _ _ fun _ => by cases g <;> rfl

section
variable (N : Nat) (q : List Int)

/-- Attribution by position, what the counting loop is for: with `k` outputs already given to the
head of `q`, the output at position `i` of a pass goes to the frame number at position
`(k + i) / N` of `q`, as long as `q` has one there. -/
def fifoAttribution (k : Nat) : Nat → List CodecOutputBufferInfo → List (Int × CodecOutputBufferInfo)
  | _, [] => []
  | i, out :: outs =>
    if (k + i) / N < q.length then (q.getD ((k + i) / N) 0, out) :: fifoAttribution k (i + 1) outs
    else []

theorem fifoAttribution_succ (k : Nat) :
    ∀ (i : Nat) (outs : List CodecOutputBufferInfo),
      fifoAttribution N q k (i + 1) outs = fifoAttribution N q (k + 1) i outs
  | _, [] => rfl
  | i, out :: outs => by
    simp only [fifoAttribution, show k + (i + 1) = k + 1 + i by omega, fifoAttribution_succ k (i + 1)]

theorem fifoAttribution_cons (hN : 0 < N) (fn : Int) :
    ∀ (k : Nat) (outs : List CodecOutputBufferInfo), N ≤ k →
      fifoAttribution N (fn :: q) k 0 outs = fifoAttribution N q (k - N) 0 outs
  | _, [], _ => rfl
  | k, out :: outs, hk => by
    have hdiv : k / N = (k - N) / N + 1 := Nat.div_eq_sub_div hN hk
    simp only [fifoAttribution, Nat.add_zero, hdiv, List.length_cons, Nat.add_lt_add_iff_right,
      List.getD_cons_succ, fifoAttribution_succ, fifoAttribution_cons hN fn (k + 1) outs (by omega),
      show k + 1 - N = k - N + 1 by omega]

theorem map_snd_fifoAttribution (k : Nat) :
    ∀ (i : Nat) (outs : List CodecOutputBufferInfo),
      (fifoAttribution N q k i outs).map (·.2) = outs.take (fifoAttribution N q k i outs).length
  | _, [] => rfl
  | i, out :: outs => by
    unfold fifoAttribution
    split
    · simp only [List.map_cons, List.length_cons, List.take_succ_cons,
        map_snd_fifoAttribution k (i + 1) outs]
    · rfl

end

/-- Two outputs to a frame, one already counted for frame 5: frame 5 gets one more, frame 6 two,
and the fourth output has no frame. -/
example : fifoAttribution 2 [5, 6] 1 0 [⟨0, 1, false, 0⟩, ⟨1, 1, false, 0⟩, ⟨2, 1, false, 0⟩,
    ⟨3, 1, false, 0⟩] = [(5, ⟨0, 1, false, 0⟩), (6, ⟨1, 1, false, 0⟩), (6, ⟨2, 1, false, 0⟩)] := by
  decide

def Encoder.fifoAttribution (e : Encoder) (outs : List CodecOutputBufferInfo) :
    List (Int × CodecOutputBufferInfo) :=
  CameraService.Heic.fifoAttribution e.numOutputTiles e.outputBufferFrameNumbers e.outputCounter 0 outs

def Encoder.afterAttributing (e : Encoder) (outs : List CodecOutputBufferInfo) (a : Nat) : Encoder :=
  { e with
    outputBuffers := outs.drop a
    outputBufferFrameNumbers :=
      e.outputBufferFrameNumbers.drop ((e.outputCounter + a) / e.numOutputTiles)
    outputCounter := (e.outputCounter + a) % e.numOutputTiles }

section
variable (g : Bool) (s : Stream)

theorem Stream.setEncoder_pushOutput (e : Encoder) (g' : Bool) (fn : Int)
    (out : CodecOutputBufferInfo) :
    (s.pushOutput g' fn out).setEncoder g e = (s.setEncoder g e).pushOutput g' fn out := by
  cases g <;> rfl

@[simp] theorem Stream.setEncoder_setEncoder (e e' : Encoder) :
    (s.setEncoder g e).setEncoder g e' = s.setEncoder g e' := by
  cases g <;> rfl

@[simp] theorem Stream.encoder_foldl_pushOutput :
    ∀ (l : List (Int × CodecOutputBufferInfo)) (s : Stream),
      (l.foldl (fun s p => s.pushOutput g p.1 p.2) s).encoder g = s.encoder g
  | [], _ => rfl
  | _ :: l, s => by rw [List.foldl_cons, Stream.encoder_foldl_pushOutput l, Stream.encoder_pushOutput]

section
variable {e : Encoder} {fn : Int} {rest : List Int} (out : CodecOutputBufferInfo)
  (outs : List CodecOutputBufferInfo) (hq : e.outputBufferFrameNumbers = fn :: rest)
include hq

theorem Encoder.fifoAttribution_pop (hN : e.outputCounter + 1 = e.numOutputTiles) :
    e.fifoAttribution (out :: outs) =
      (fn, out) :: { e with outputBufferFrameNumbers := rest, outputCounter := 0 }.fifoAttribution outs := by
  simp only [Encoder.fifoAttribution, CameraService.Heic.fifoAttribution, hq, Nat.add_zero,
    Nat.div_eq_of_lt (show e.outputCounter < e.numOutputTiles by omega), List.length_cons,
    Nat.zero_lt_succ, ↓reduceIte, List.getD_cons_zero, fifoAttribution_succ,
    hN, fifoAttribution_cons _ _ (show 0 < e.numOutputTiles by omega) fn _ _ (le_refl _),
    Nat.sub_self]

theorem Encoder.fifoAttribution_stay (hN : e.outputCounter + 1 < e.numOutputTiles) :
    e.fifoAttribution (out :: outs) =
      (fn, out) :: { e with outputCounter := e.outputCounter + 1 }.fifoAttribution outs := by
  simp only [Encoder.fifoAttribution, CameraService.Heic.fifoAttribution, hq, Nat.add_zero,
    Nat.div_eq_of_lt (show e.outputCounter < e.numOutputTiles by omega), List.length_cons,
    Nat.zero_lt_succ, ↓reduceIte, List.getD_cons_zero, fifoAttribution_succ]

theorem Encoder.afterAttributing_pop (hN : e.outputCounter + 1 = e.numOutputTiles) (a : Nat) :
    e.afterAttributing (out :: outs) (a + 1) =
      { e with outputBufferFrameNumbers := rest, outputCounter := 0 }.afterAttributing outs a := by
  have hd : (e.outputCounter + (a + 1)) / e.numOutputTiles = a / e.numOutputTiles + 1 := by
    rw [show e.outputCounter + (a + 1) = a + e.numOutputTiles by omega,
      Nat.add_div_right _ (by omega)]
  have hm : (e.outputCounter + (a + 1)) % e.numOutputTiles = a % e.numOutputTiles := by
    rw [show e.outputCounter + (a + 1) = a + e.numOutputTiles by omega, Nat.add_mod_right]
  simp only [Encoder.afterAttributing, hq, hd, hm, List.drop_succ_cons, Nat.zero_add]

omit hq in
theorem Encoder.afterAttributing_stay (a : Nat) :
    e.afterAttributing (out :: outs) (a + 1) =
      { e with outputCounter := e.outputCounter + 1 }.afterAttributing outs a := by
  simp only [Encoder.afterAttributing, List.drop_succ_cons, show e.outputCounter + (a + 1) =
    e.outputCounter + 1 + a by omega]

end

theorem attributeOutputs_eq_fifo :
    ∀ (outs : List CodecOutputBufferInfo) (s : Stream),
      (s.encoder g).outputCounter < (s.encoder g).numOutputTiles →
      attributeOutputs g outs s =
        ((s.encoder g).fifoAttribution outs).foldl (fun s p => s.pushOutput g p.1 p.2)
          (s.setEncoder g ((s.encoder g).afterAttributing outs
            ((s.encoder g).fifoAttribution outs).length))
  | [], s, hk => by
    simp [attributeOutputs, Encoder.fifoAttribution, fifoAttribution, Encoder.afterAttributing,
      Nat.div_eq_of_lt hk, Nat.mod_eq_of_lt hk]
  | out :: outs, s, hk => by
    have step : ∀ (fn : Int) (e' : Encoder), e'.outputCounter < e'.numOutputTiles →
        (s.encoder g).fifoAttribution (out :: outs) = (fn, out) :: e'.fifoAttribution outs →
        (∀ a, (s.encoder g).afterAttributing (out :: outs) (a + 1) = e'.afterAttributing outs a) →
        attributeOutputs g outs ((s.setEncoder g e').pushOutput g fn out) =
          ((s.encoder g).fifoAttribution (out :: outs)).foldl (fun s p => s.pushOutput g p.1 p.2)
            (s.setEncoder g ((s.encoder g).afterAttributing (out :: outs)
              ((s.encoder g).fifoAttribution (out :: outs)).length)) := by
      intro fn e' hk' hf ha
      rw [attributeOutputs_eq_fifo outs _ (by simpa using hk'), hf, List.foldl_cons,
        List.length_cons, ha]
      simp only [Stream.encoder_pushOutput, Stream.encoder_setEncoder, Stream.setEncoder_pushOutput,
        Stream.setEncoder_setEncoder]
    unfold attributeOutputs
    dsimp only
    split
    · rename_i hq
      simp [Encoder.fifoAttribution, fifoAttribution, hq, Encoder.afterAttributing,
        Nat.div_eq_of_lt hk, Nat.mod_eq_of_lt hk]
    · rename_i fn rest hq
      split_ifs with hN
      · exact step fn _ (by simp; omega) (Encoder.fifoAttribution_pop out outs hq hN)
          (Encoder.afterAttributing_pop out outs hq hN)
      · exact step fn _ (by simp; omega) (Encoder.fifoAttribution_stay out outs hq (by omega))
          (Encoder.afterAttributing_stay out outs)

end

structure Conserves (isGainmap : Bool) (s s' : Stream) : Prop where
  outputs : (s'.outputs isGainmap).Perm (s.outputs isGainmap)
  numOutputTiles : (s'.encoder isGainmap).numOutputTiles = (s.encoder isGainmap).numOutputTiles
  counter : (s.encoder isGainmap).outputCounter < (s.encoder isGainmap).numOutputTiles →
    (s'.encoder isGainmap).outputCounter < (s'.encoder isGainmap).numOutputTiles

namespace Conserves
variable {g : Bool} {s s' t : Stream}

theorem refl (s : Stream) : Conserves g s s := ⟨.refl _, rfl, id⟩

theorem trans (h₁ : Conserves g s t) (h₂ : Conserves g t s') : Conserves g s s' :=
  ⟨h₂.1.trans h₁.1, h₂.2.trans h₁.2, fun h => h₂.3 (h₁.3 h)⟩

end Conserves

theorem OutputsStay.conserves {g : Bool} {s s' : Stream} (h : OutputsStay g s s') : Conserves g s s' :=
  have hc : (s'.encoder g).outputCounter = (s.encoder g).outputCounter := congrArg (·.2.2.1) h.1
  have hn : (s'.encoder g).numOutputTiles = (s.encoder g).numOutputTiles := congrArg (·.2.2.2) h.1
  ⟨h.outputs, hn, fun hk => hc ▸ hn ▸ hk⟩

section
variable (g : Bool)

theorem framedOutputs_pushOutput (s : Stream) (fn : Int) (out : CodecOutputBufferInfo) :
    ((s.pushOutput g fn out).framedOutputs g).Perm (out :: s.framedOutputs g) := by
  have h₁ := framedOutputs_modify_perm g (s := s) fn fun f =>
    f.setTiles g { f.tiles g with outputBuffers := (f.tiles g).outputBuffers ++ [out] }
  rw [InputFrame.tiles_setTiles, List.append_assoc, List.singleton_append] at h₁
  exact h₁.trans (List.perm_middle.trans ((Stream.framedOutputs_perm_erase g fn).symm.cons out))

theorem attributeOutputs_log (g' : Bool) :
    ∀ (outs : List CodecOutputBufferInfo) (s : Stream), (attributeOutputs g' outs s).log = s.log
  | [], s => by simp [attributeOutputs]
  | out :: outs, s => by
    unfold attributeOutputs
    dsimp only
    split
    · simp
    · rw [attributeOutputs_log g' outs]
      simp [Stream.pushOutput]

theorem attributeOutputs_framed :
    ∀ (outs : List CodecOutputBufferInfo) (s : Stream),
      (((attributeOutputs g outs s).encoder g).outputBuffers ++
        (attributeOutputs g outs s).framedOutputs g).Perm (outs ++ s.framedOutputs g)
  | [], s => by
    simp only [attributeOutputs, Stream.encoder_setEncoder, Stream.framedOutputs,
      Stream.setEncoder_pendingInputFrames, List.nil_append]
    exact .refl _
  | out :: outs, s => by
    unfold attributeOutputs
    dsimp only
    split
    · simp only [Stream.encoder_setEncoder, Stream.framedOutputs,
        Stream.setEncoder_pendingInputFrames]
      exact .refl _
    · refine (attributeOutputs_framed outs _).trans ?_
      refine ((framedOutputs_pushOutput g _ _ out).append_left outs).trans ?_
      simp only [Stream.framedOutputs, Stream.setEncoder_pendingInputFrames]
      exact List.perm_middle

theorem attributeOutputs_numOutputTiles :
    ∀ (outs : List CodecOutputBufferInfo) (s : Stream),
      ((attributeOutputs g outs s).encoder g).numOutputTiles = (s.encoder g).numOutputTiles
  | [], s => by simp [attributeOutputs]
  | out :: outs, s => by
    unfold attributeOutputs
    dsimp only
    split
    · simp
    · rw [attributeOutputs_numOutputTiles outs]
      split_ifs <;> simp

theorem conserves_attributeOutputs (s : Stream) :
    Conserves g s (attributeOutputs g (s.encoder g).outputBuffers s) := by
  refine ⟨?_, ?_, fun hk => ?_⟩
  · have hl : (attributeOutputs g (s.encoder g).outputBuffers s).releasedOutputs g =
        s.releasedOutputs g := by simp only [Stream.releasedOutputs, attributeOutputs_log]
    simp only [Stream.outputs, hl]
    exact ((attributeOutputs_framed g _ s).map _).append_right _
  · exact attributeOutputs_numOutputTiles g _ s
  · rw [attributeOutputs_eq_fifo g _ s hk]
    simp only [Stream.encoder_foldl_pushOutput, Stream.encoder_setEncoder, Encoder.afterAttributing]
    exact Nat.mod_lt _ (by omega)

end

structure Flows (isGainmap : Bool) (f : InputFrame) (s : Stream) (r : Outcome) : Prop where
  codec : r.2.2.codec = s.codec
  gainmap : r.2.2.gainmap = s.gainmap
  flow : ((r.2.1.tiles isGainmap).outputBuffers.map (·.index) ++ r.2.2.releasedOutputs isGainmap).Perm
    ((f.tiles isGainmap).outputBuffers.map (·.index) ++ s.releasedOutputs isGainmap)

namespace Flows
variable {g : Bool} {f : InputFrame} {s : Stream} {r r' : Outcome}

theorem refl (st : Status) (f : InputFrame) (s : Stream) : Flows g f s (st, f, s) :=
  ⟨rfl, rfl, .refl _⟩

theorem trans (h₁ : Flows g f s r) (h₂ : Flows g r.2.1 r.2.2 r') : Flows g f s r' :=
  ⟨h₂.1.trans h₁.1, h₂.2.trans h₁.2, h₂.3.trans h₁.3⟩

theorem bind (h : Flows g f s r) {k : InputFrame → Stream → Outcome}
    (hk : ∀ f' s', Flows g f' s' (k f' s')) : Flows g f s (r.bind k) :=
  Outcome.bind_rel (R := Flows g) trans h hk

theorem check {st : Status} {k : Unit → Outcome} (hk : st = .ok → Flows g f s (k ())) :
    Flows g f s (Outcome.check st f s k) :=
  Outcome.check_rel refl hk

theorem ite {c : Prop} [Decidable c] {a b : Outcome} (ha : c → Flows g f s a)
    (hb : ¬c → Flows g f s b) : Flows g f s (if c then a else b) :=
  Outcome.ite_rel ha hb

theorem quiet {f' : InputFrame} {s' : Stream} (st : Status)
    (hf : (f'.tiles g).outputBuffers = (f.tiles g).outputBuffers) (hc : s'.codec = s.codec)
    (hg : s'.gainmap = s.gainmap) (hl : s'.releasedOutputs g = s.releasedOutputs g) :
    Flows g f s (st, f', s') :=
  ⟨hc, hg, by rw [hf, hl]⟩

theorem step {f' : InputFrame} {e : Event} (hf : (f'.tiles g).outputBuffers = (f.tiles g).outputBuffers)
    (he : e.released? g = none) (h : Flows g f' (s.logEvent e) r) : Flows g f s r :=
  (show Flows g f s (.ok, f', s.logEvent e) from quiet .ok hf rfl rfl (by simp [he])).trans h

theorem checkAt {f' : InputFrame} {s' : Stream} {st : Status} {k : Unit → Outcome}
    (h : Flows g f s (.ok, f', s')) (hk : st = .ok → Flows g f' s' (k ())) :
    Flows g f s (Outcome.check st f' s' k) :=
  h.trans (check hk)

end Flows

section
variable (g : Bool) (c : Config) (o : Oracle) (frameNumber : Int)

theorem flows_processCodecInputs (g' : Bool) (l : List CodecInputBufferInfo) (f : InputFrame)
    (s : Stream) : Flows g f s (processCodecInputs c o g' frameNumber l f s) := by
  induction l generalizing s with
  | nil => exact .quiet _ (by cases g <;> cases g' <;> rfl) rfl rfl rfl
  | cons info rest ih =>
    simp only [processCodecInputs]
    exact .check fun _ => .check fun _ => .check fun _ => .step rfl (by rfl) (ih _)

theorem flows_returnOutput (g' : Bool) (out : CodecOutputBufferInfo)
    (rest : List CodecOutputBufferInfo) (f : InputFrame) (s : Stream)
    (hl : g' = g → (f.tiles g').outputBuffers = out :: rest) :
    Flows g f s (.ok, f.setTiles g' { f.tiles g' with
        outputBuffers := rest, pendingOutputTiles := (f.tiles g').pendingOutputTiles - 1 },
      s.logEvent (.releaseOutputBuffer g' out.index)) := by
  by_cases hg : g' = g
  · subst hg
    refine ⟨rfl, rfl, ?_⟩
    simp only [InputFrame.tiles_setTiles, Stream.releasedOutputs_logEvent, Event.released?,
      ↓reduceIte, Option.toList_some, hl rfl, List.map_cons, List.cons_append,
      ← List.append_assoc]
    exact List.perm_append_singleton _ _
  · exact .quiet _ (congrArg (·.outputBuffers) (InputFrame.tiles_setTiles_ne g hg _ _)) rfl rfl
      (by simp [Event.released?, hg])

theorem flows_processCodecOutputs (g' : Bool) (l : List CodecOutputBufferInfo) (f : InputFrame)
    (s : Stream) (hl : g' = g → (f.tiles g').outputBuffers = l) :
    Flows g f s (processCodecOutputs o g' frameNumber l f s) := by
  induction l generalizing f s with
  | nil => exact .refl _ _ _
  | cons out rest ih =>
    simp only [processCodecOutputs]
    exact .check fun _ => .step rfl (by rfl) (.check fun _ =>
      (flows_returnOutput g g' out rest f _ hl).trans (ih _ _ fun h => by simp [h]))

theorem flows_processAppSegment (f : InputFrame) (s : Stream) :
    Flows g f s (processAppSegment c o frameNumber f s) := by
  unfold processAppSegment
  iterate 5 refine .ite (fun _ => .refl _ _ _) fun _ => ?_
  exact .step rfl (by rfl) (.check fun _ => .ite (fun _ => .quiet _ rfl rfl rfl rfl)
    fun _ => .step (by rfl) (by rfl) (.refl _ _ _))

theorem flows_generateBaseImageAndGainmap (f : InputFrame) (s : Stream) :
    Flows g f s (generateBaseImageAndGainmap o frameNumber f s) := by
  simp only [generateBaseImageAndGainmap, Outcome.check]
  split <;> exact .quiet _ rfl rfl rfl rfl

theorem flows_startMuxerForInputFrame (f : InputFrame) (s : Stream) :
    Flows g f s (startMuxerForInputFrame o frameNumber f s) := by
  unfold startMuxerForInputFrame
  have h : ∀ (st : Status) (f' : InputFrame),
      (f'.tiles g).outputBuffers = (f.tiles g).outputBuffers →
      Flows g f s (st, f', { s.logEvent (.dequeueBuffer s.nextAnb) with
        nextAnb := s.nextAnb + 1, dequeuedOutputBufferCnt := s.dequeuedOutputBufferCnt + 1 }) :=
    fun _ _ hf => .quiet _ hf rfl rfl (by simp [Stream.releasedOutputs, Stream.logEvent, Event.released?])
  refine .check fun _ => .ite (fun _ => h _ _ rfl) fun _ => .ite (fun _ => h _ _ rfl) fun _ =>
    .checkAt (h _ _ rfl) fun _ => .ite (fun _ => .refl _ _ _) fun _ => ?_
  refine Flows.bind ?_ fun _ _ => .check fun _ => .refl _ _ _
  exact .ite (fun _ => .ite (fun _ => .quiet _ (by cases g <;> rfl) rfl rfl rfl)
    fun _ => .quiet _ (by cases g <;> rfl) rfl rfl rfl)
    fun _ => .quiet _ (by cases g <;> rfl) rfl rfl rfl

theorem flows_processCompletedInputFrame (f : InputFrame) (s : Stream) :
    Flows g f s (processCompletedInputFrame c o frameNumber f s) := by
  unfold processCompletedInputFrame
  refine .check fun _ => .ite (fun _ => .refl _ _ _) fun _ => .ite (fun _ => .refl _ _ _) fun _ =>
    .checkAt (.quiet _ rfl rfl rfl rfl) fun _ => .check fun _ => ?_
  exact .quiet _ rfl rfl rfl (by simp [Stream.releasedOutputs, Stream.logEvent, Event.released?])

theorem flows_writeToMuxer (hasGainmapMetadata appSegmentReady : Bool) (f : InputFrame)
    (s : Stream) :
    Flows g f s (writeToMuxer c o frameNumber hasGainmapMetadata appSegmentReady f s) := by
  unfold writeToMuxer
  refine Flows.bind ?_ fun f s => Flows.bind ?_ fun f s =>
    (flows_processCodecOutputs g o frameNumber false _ f s fun _ => rfl).bind fun f s =>
    (flows_processCodecOutputs g o frameNumber true _ f s fun _ => rfl).bind fun f s => ?_
  · split
    · exact .step rfl (by rfl) (.check fun _ => .quiet _ rfl rfl rfl rfl)
    · exact .refl _ _ _
  · split
    · exact flows_processAppSegment g c o frameNumber f s
    · exact .refl _ _ _
  · split
    · exact flows_processCompletedInputFrame g c o frameNumber f s
    · exact .refl _ _ _

theorem flows_processInputFrame (f : InputFrame) (s : Stream) :
    Flows g f s (processInputFrame c o frameNumber f s) := by
  unfold processInputFrame
  refine Flows.bind ?_ fun f s => Flows.bind ?_ fun f s => ?_
  · split
    · refine Flows.bind ?_ fun f s => flows_processCodecInputs g c o frameNumber _ _ f s
      split
      · exact flows_generateBaseImageAndGainmap g o frameNumber f s
      · exact .refl _ _ _
    · exact .refl _ _ _
  · split
    · exact flows_processCodecInputs g c o frameNumber _ _ f s
    · exact .refl _ _ _
  · split
    · exact .refl _ _ _
    · refine Flows.bind ?_ fun f s => flows_writeToMuxer g c o frameNumber _ _ f s
      split
      · exact flows_startMuxerForInputFrame g o frameNumber f s
      · exact .refl _ _ _

end

section
variable (g : Bool)

theorem releasedOutputs_releaseInputFrameLocked (k : Int) (f : InputFrame) (s : Stream) :
    (releaseInputFrameLocked k f s).releasedOutputs g =
      s.releasedOutputs g ++ (f.tiles g).outputBuffers.map (·.index) := by
  have hb : ∀ (b : Option LockedBuffer) (c : Consumer),
      (b.map (Event.unlockBuffer c ·.data)).toList.filterMap (Event.released? g) = [] := by
    intro b c; cases b <;> rfl
  have ha : (f.anb.map Event.cancelBuffer).toList.filterMap (Event.released? g) = [] := by
    cases f.anb <;> rfl
  have hn : (if f.error || s.errorState then [Event.notifyError k f.requestId] else []).filterMap
      (Event.released? g) = [] := by split <;> rfl
  simp only [releaseInputFrameLocked, Stream.releasedOutputs, List.filterMap_append, hb, ha, hn,
    List.append_nil, List.filterMap_map]
  cases g <;> simp only [Function.comp_def, Event.released?, InputFrame.tiles, ↓reduceIte,
    Bool.false_eq_true, Bool.true_eq_false, filterMap_none_eq_nil, List.append_nil,
    List.nil_append, List.append_assoc] <;> exact congrArg _ (congrFun (List.filterMap_eq_map _) _)

theorem conserves_release (k : Int) (f : InputFrame) (s : Stream)
    (hf : (s.pendingInputFrames.find? k).getD default = f) :
    Conserves g s ((releaseInputFrameLocked k f s).eraseFrame k) := by
  have he : ((releaseInputFrameLocked k f s).eraseFrame k).encoder g = s.encoder g := by
    cases g <;> rfl
  refine ⟨?_, by rw [he], fun h => by rwa [he]⟩
  have hp := (Stream.framedOutputs_perm_erase g (s := s) k).map (·.index)
  rw [hf] at hp
  have hl : ((releaseInputFrameLocked k f s).eraseFrame k).releasedOutputs g =
      s.releasedOutputs g ++ (f.tiles g).outputBuffers.map (·.index) :=
    releasedOutputs_releaseInputFrameLocked g k f s
  have hfr : ((releaseInputFrameLocked k f s).eraseFrame k).framedOutputs g =
      ((s.pendingInputFrames.erase k).holders (InputFrame.outputsOf g)).flatten := rfl
  rw [List.perm_iff_count]
  intro a
  have := hp.count_eq a
  simp only [Stream.outputs, he, hl, hfr, List.map_append, List.count_append] at this ⊢
  omega

theorem conserves_processed {k : Int} {F f : InputFrame} {s s' : Stream} {res : Status}
    (hF : (s.pendingInputFrames.find? k).getD default = F) (hfl : Flows g F s (res, f, s'))
    (hp : s'.pendingInputFrames = s.pendingInputFrames) (w : Worker) :
    Conserves g s { s' with pendingInputFrames := s'.pendingInputFrames.insert k f, worker := w } := by
  have he : ({ s' with pendingInputFrames := s'.pendingInputFrames.insert k f, worker := w } :
      Stream).encoder g = s.encoder g := by
    cases g
    · exact hfl.codec
    · exact hfl.gainmap
  refine ⟨?_, by rw [he], fun h => by rwa [he]⟩
  have h₁ := (framedOutputs_insert_perm g (s := s') k f).map (·.index)
  have h₂ := (Stream.framedOutputs_perm_erase g (s := s) k).map (·.index)
  rw [hF] at h₂
  rw [show s'.pendingInputFrames.erase k = s.pendingInputFrames.erase k by rw [hp]] at h₁
  have hfr : ({ s' with pendingInputFrames := s'.pendingInputFrames.insert k f, worker := w } :
      Stream).framedOutputs g =
      ({ s' with pendingInputFrames := s'.pendingInputFrames.insert k f } : Stream).framedOutputs g :=
    rfl
  have hrel : ({ s' with pendingInputFrames := s'.pendingInputFrames.insert k f, worker := w } :
      Stream).releasedOutputs g = s'.releasedOutputs g := rfl
  rw [List.perm_iff_count]
  intro a
  have e₁ := h₁.count_eq a
  have e₂ := h₂.count_eq a
  have e₃ := hfl.flow.count_eq a
  simp only [Stream.outputs, he, hfr, hrel, List.map_append, List.count_append] at e₁ e₂ e₃ ⊢
  omega

theorem conserves_setWorker (w : Worker) (s : Stream) : Conserves g s { s with worker := w } :=
  (show OutputsStay g s { s with worker := w } from .of_eq rfl rfl rfl rfl).conserves

theorem conserves_attributeBoth (t : Stream) :
    Conserves g t (attributeOutputs true (attributeOutputs false t.codec.outputBuffers t).gainmap.outputBuffers
      (attributeOutputs false t.codec.outputBuffers t)) := by
  cases g
  · exact (conserves_attributeOutputs false t).trans
      ((OutputsStay.refl _).attributeOutputs_ne (by decide) _).conserves
  · exact ((OutputsStay.refl t).attributeOutputs_ne (by decide) _).conserves.trans
      (conserves_attributeOutputs true _)

theorem conserves_compilePendingInputLocked (c : Config) (o : Oracle) (locks : Locks)
    (s : Stream) : Conserves g s (compilePendingInputLocked c o locks s) := by
  have h₁ := (((OutputsStay.refl (g := g) s).promoteSettings o
    s.settingsByFrameNumber.entries).matchAppSegmentBuffers locks.appSegment).matchYuvBuffers
    locks.mainImage
  unfold compilePendingInputLocked attributePendingInputLocked
  dsimp only
  refine h₁.conserves.trans ((conserves_attributeBoth g _).trans ?_)
  exact (((((OutputsStay.refl _).attachCaptureResults c _).applyErrorFrames false _).applyErrorFrames
    true _).distributeInputs false).distributeInputs true |>.conserves

theorem conserves_releaseInputFramesLocked (o : Oracle) (s : Stream) :
    Conserves g s (releaseInputFramesLocked o s) := by
  have h := releaseDoneFrames_rel (Conserves g) Conserves.refl (fun _ _ _ => Conserves.trans)
    (fun s k f hf => conserves_release g k f s (by rw [hf]; rfl)) s.pendingInputFrames.entries s
    s.pendingInputFrames.sorted fun e he => (KeyMap.find?_eq_some_iff _ _).2 he
  simp only [releaseInputFramesLocked]
  split_ifs <;> (try split) <;> first
    | exact h
    | exact h.trans ((OutputsStay.refl _).updateCodecQualityLocked o _).conserves
    | exact h.trans ((OutputsStay.refl _).logEvent (by rfl)).conserves

theorem conserves_loopBody (c : Config) (o : Oracle) (locks : Locks) (s : Stream) :
    Conserves g s (loopBody c o locks s) := by
  have h₁ := conserves_compilePendingInputLocked g c o locks s
  have h₂ := outputsStay_getNextReadyInputLocked g (compilePendingInputLocked c o locks s)
  unfold loopBody
  split
  · rename_i hs
    rw [hs] at h₂
    exact (h₁.trans h₂.conserves).trans (conserves_setWorker g _ _)
  · rename_i hs
    rw [hs] at h₂
    refine (h₁.trans h₂.conserves).trans ?_
    dsimp only
    split_ifs
    · exact ((conserves_release g _ _ _ rfl).trans
        ((OutputsStay.refl _).logEvent (by rfl)).conserves).trans (conserves_setWorker g _ _)
    · exact (conserves_release g _ _ _ rfl).trans (conserves_setWorker g _ _)
    · exact conserves_setWorker g _ _

theorem conserves_workerStep (c : Config) (o : Oracle) (locks : Locks) (wait : WaitResult)
    (s : Stream) : Conserves g s (workerStep c o locks wait s) := by
  unfold workerStep
  split
  · split_ifs
    · exact ((conserves_compilePendingInputLocked g c o locks s).trans
        (conserves_releaseInputFramesLocked g o _)).trans (conserves_setWorker g _ _)
    · exact conserves_loopBody g c o locks s
  · split
    · exact conserves_loopBody g c o locks s
    · exact conserves_setWorker g _ _
    · exact conserves_setWorker g _ _
  · rename_i frameNumber _
    have hF := flows_processInputFrame g c o frameNumber
      ((s.pendingInputFrames.find? frameNumber).getD default) s
    have hP := processes_processInputFrame c o frameNumber
      ((s.pendingInputFrames.find? frameNumber).getD default) s
    generalize processInputFrame c o frameNumber
      ((s.pendingInputFrames.find? frameNumber).getD default) s = r at hF hP ⊢
    obtain ⟨res, f, s'⟩ := r
    exact conserves_processed g rfl hF hP.frames _
  · refine (?_ : Conserves g s _).trans
      ((conserves_releaseInputFramesLocked g o _).trans (conserves_setWorker g _ _))
    split_ifs
    · exact ((OutputsStay.refl s).markError _).conserves
    · exact .refl s
  · exact .refl s

end

section
variable (g : Bool) (c : Config)

theorem step_callback_codecOutputs (a : Action) (ha : ∀ locks o wait, a ≠ .threadLoop locks o wait)
    (hout : ∀ info g', a ≠ .codecOutput info g') (s : Stream) :
    ((step c a s).encoder g).outputBuffers = (s.encoder g).outputBuffers ∧
      ((step c a s).encoder g).outputCounter = (s.encoder g).outputCounter ∧
      (step c a s).log = s.log := by
  cases a with
  | threadLoop locks o wait => exact absurd rfl (ha locks o wait)
  | codecOutput info g' => exact absurd rfl (hout info g')
  | _ =>
    simp only [step, onBufferRequestForFrameNumber, onShutter, onBufferReleased, onFrameAvailable,
      onHeicInputFrameAvailable, onHeicFormatChanged, onHeicGainmapFormatChanged, onHeicCodecError,
      onStreamBufferError, flagAnErrorFrameNumber, flagAnExifErrorFrameNumber, onResultAvailable,
      onResultError, onRequestError]
    repeat' split
    all_goals cases g <;> and_intros <;> first | rfl | trivial | (rename_i g' _; cases g' <;> rfl)

theorem outputs_step_callback (a : Action) (ha : ∀ locks o wait, a ≠ .threadLoop locks o wait)
    (s : Stream) : ((step c a s).outputs g).Perm (s.outputs g ++ a.received g) := by
  cases a with
  | threadLoop locks o wait => exact absurd rfl (ha locks o wait)
  | codecOutput info g' =>
    simp only [step, onHeicOutputFrameAvailable, Action.received]
    by_cases hg : g' = g
    · subst hg
      split
      · rw [List.perm_iff_count]
        intro a
        simp only [Stream.outputs, Stream.encoder_setEncoder, Stream.framedOutputs,
          Stream.setEncoder_pendingInputFrames, Stream.releasedOutputs, Stream.setEncoder_log,
          ↓reduceIte, List.map_append, List.count_append, List.map_cons, List.map_nil]
        omega
      · simp [Stream.outputs, Event.released?]
    · rw [if_neg hg, List.append_nil]
      split
      · exact ((OutputsStay.refl s).setEncoder_ne hg _).outputs
      · exact ((OutputsStay.refl s).logEvent (by simp [Event.released?, hg])).outputs
  | _ =>
    obtain ⟨hb, -, hl⟩ := step_callback_codecOutputs g c _ ha (fun _ _ => nofun) s
    simp only [Action.received, List.append_nil]
    exact .of_eq (by simp only [Stream.outputs, Stream.framedOutputs, Stream.releasedOutputs, hb, hl,
      step_callback_pendingInputFrames c _ ha s])

theorem outputCounter_step_callback (a : Action) (ha : ∀ locks o wait, a ≠ .threadLoop locks o wait)
    (s : Stream) : ((step c a s).encoder g).outputCounter = (s.encoder g).outputCounter := by
  cases a with
  | threadLoop locks o wait => exact absurd rfl (ha locks o wait)
  | codecOutput info g' =>
    simp only [step, onHeicOutputFrameAvailable]
    split <;> cases g <;> cases g' <;> rfl
  | _ => exact (step_callback_codecOutputs g c _ ha (fun _ _ => nofun) s).2.1

theorem outputs_step (a : Action) (s : Stream) :
    ((step c a s).outputs g).Perm (s.outputs g ++ a.received g) := by
  cases a with
  | threadLoop locks o wait =>
    rw [show Action.received g (.threadLoop locks o wait) = [] from rfl, List.append_nil]
    exact (conserves_workerStep g c o locks wait s).outputs
  | _ => exact outputs_step_callback g c _ (fun _ _ _ h => Action.noConfusion h) s

theorem outputCounter_lt_step (a : Action) (s : Stream)
    (hk : (s.encoder g).outputCounter < (s.encoder g).numOutputTiles)
    (hN : ((step c a s).encoder g).numOutputTiles = (s.encoder g).numOutputTiles) :
    ((step c a s).encoder g).outputCounter < ((step c a s).encoder g).numOutputTiles := by
  cases a with
  | threadLoop locks o wait => exact (conserves_workerStep g c o locks wait s).counter hk
  | _ =>
    rw [hN, outputCounter_step_callback g c _ (fun _ _ _ h => Action.noConfusion h) s]
    exact hk

theorem outputs_run :
    ∀ (as : List Action) (s : Stream),
      ((run c as s).outputs g).Perm (s.outputs g ++ as.flatMap (Action.received g))
  | [], s => by simp [run]
  | a :: as, s => by
    rw [run, List.flatMap_cons, ← List.append_assoc]
    exact (outputs_run as _).trans ((outputs_step g c a s).append_right _)

theorem outputCounter_lt_run :
    ∀ (as : List Action) (s : Stream),
      (s.encoder g).outputCounter < (s.encoder g).numOutputTiles →
      (∀ n ≤ as.length, ((run c (as.take n) s).encoder g).numOutputTiles =
        (s.encoder g).numOutputTiles) →
      ((run c as s).encoder g).outputCounter < ((run c as s).encoder g).numOutputTiles
  | [], _, hk, _ => hk
  | a :: as, s, hk, hN => by
    have h₁ : ((step c a s).encoder g).numOutputTiles = (s.encoder g).numOutputTiles :=
      hN 1 (Nat.succ_le_succ (Nat.zero_le _))
    exact outputCounter_lt_run as (step c a s) (outputCounter_lt_step g c a s hk h₁) fun n hn =>
      (hN (n + 1) (Nat.succ_le_succ hn)).trans h₁.symm

end

section
variable (g : Bool)

theorem Encoder.attribution_eq_iff {e e' : Encoder} :
    e.attribution = e'.attribution ↔ e.outputBuffers = e'.outputBuffers ∧
      e.outputBufferFrameNumbers = e'.outputBufferFrameNumbers ∧
      e.outputCounter = e'.outputCounter ∧ e.numOutputTiles = e'.numOutputTiles := by
  simp [Encoder.attribution]

theorem Encoder.afterAttributing_congr {e e' : Encoder} (h : e.attribution = e'.attribution)
    (outs : List CodecOutputBufferInfo) :
    (e.afterAttributing outs (e.fifoAttribution outs).length).attribution =
      (e'.afterAttributing outs (e'.fifoAttribution outs).length).attribution := by
  obtain ⟨-, hq, hk, hn⟩ := Encoder.attribution_eq_iff.1 h
  simp only [Encoder.afterAttributing, Encoder.fifoAttribution, Encoder.attribution, hq, hk, hn]

theorem attribution_attributeOutputs (s : Stream)
    (hk : (s.encoder g).outputCounter < (s.encoder g).numOutputTiles) :
    ((attributeOutputs g (s.encoder g).outputBuffers s).encoder g).attribution =
      ((s.encoder g).afterAttributing (s.encoder g).outputBuffers
        ((s.encoder g).fifoAttribution (s.encoder g).outputBuffers).length).attribution := by
  rw [attributeOutputs_eq_fifo g _ s hk, Stream.encoder_foldl_pushOutput, Stream.encoder_setEncoder]

theorem compilePendingInputLocked_attribution (c : Config) (o : Oracle) (locks : Locks)
    (s : Stream) (hk : (s.encoder g).outputCounter < (s.encoder g).numOutputTiles) :
    ((compilePendingInputLocked c o locks s).encoder g).attribution =
      ((s.encoder g).afterAttributing (s.encoder g).outputBuffers
        ((s.encoder g).fifoAttribution (s.encoder g).outputBuffers).length).attribution := by
  have h₁ := (((OutputsStay.refl (g := g) s).promoteSettings o
    s.settingsByFrameNumber.entries).matchAppSegmentBuffers locks.appSegment).matchYuvBuffers
    locks.mainImage
  unfold compilePendingInputLocked attributePendingInputLocked
  dsimp only
  generalize matchYuvBuffers locks.mainImage _ = t at h₁ ⊢
  obtain ⟨hw, -, hk₁, hn₁⟩ := Encoder.attribution_eq_iff.1 h₁.1
  have h₂ : ((attributeOutputs true (attributeOutputs false t.codec.outputBuffers t).gainmap.outputBuffers
      (attributeOutputs false t.codec.outputBuffers t)).encoder g).attribution =
      ((t.encoder g).afterAttributing (t.encoder g).outputBuffers
        ((t.encoder g).fifoAttribution (t.encoder g).outputBuffers).length).attribution := by
    cases g
    · rw [((OutputsStay.refl _).attributeOutputs_ne (show true ≠ false by decide) _).1]
      exact attribution_attributeOutputs false t (by rwa [hk₁, hn₁])
    · have h₃ := ((OutputsStay.refl (g := true) t).attributeOutputs_ne (show false ≠ true by decide)
        t.codec.outputBuffers).1
      obtain ⟨hw₃, -, hk₃, hn₃⟩ := Encoder.attribution_eq_iff.1 h₃
      refine (attribution_attributeOutputs true _ (by rwa [hk₃, hn₃, hk₁, hn₁])).trans ?_
      rw [hw₃]
      exact Encoder.afterAttributing_congr h₃ _
  rw [((((((OutputsStay.refl _).attachCaptureResults c _).applyErrorFrames false _).applyErrorFrames
    true _).distributeInputs false).distributeInputs true).1, h₂, hw]
  exact Encoder.afterAttributing_congr h₁.1 _

end

theorem codecOutputs_accounted (c : Config) (isGainmap : Bool) :
    (∀ (as : List Action) (s : Stream),
      ((run c as s).outputs isGainmap).Perm
        (s.outputs isGainmap ++ as.flatMap (Action.received isGainmap))) ∧
    (∀ (as : List Action) (s : Stream),
      (s.encoder isGainmap).outputCounter < (s.encoder isGainmap).numOutputTiles →
      (∀ n ≤ as.length, ((run c (as.take n) s).encoder isGainmap).numOutputTiles =
        (s.encoder isGainmap).numOutputTiles) →
      ((run c as s).encoder isGainmap).outputCounter <
        ((run c as s).encoder isGainmap).numOutputTiles) ∧
    (∀ (outs : List CodecOutputBufferInfo) (s : Stream),
      (s.encoder isGainmap).outputCounter < (s.encoder isGainmap).numOutputTiles →
      attributeOutputs isGainmap outs s =
        ((s.encoder isGainmap).fifoAttribution outs).foldl
          (fun s p => s.pushOutput isGainmap p.1 p.2)
          (s.setEncoder isGainmap ((s.encoder isGainmap).afterAttributing outs
            ((s.encoder isGainmap).fifoAttribution outs).length))) ∧
    (∀ (o : Oracle) (locks : Locks) (s : Stream),
      (s.encoder isGainmap).outputCounter < (s.encoder isGainmap).numOutputTiles →
      ((compilePendingInputLocked c o locks s).encoder isGainmap).attribution =
        ((s.encoder isGainmap).afterAttributing (s.encoder isGainmap).outputBuffers
          ((s.encoder isGainmap).fifoAttribution (s.encoder isGainmap).outputBuffers).length).attribution) :=
  ⟨outputs_run isGainmap c, outputCounter_lt_run isGainmap c, attributeOutputs_eq_fifo isGainmap,
    fun o locks s => compilePendingInputLocked_attribution isGainmap c o locks s⟩

end CameraService.Heic
