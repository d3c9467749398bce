import CameraService.Heic.FrameTable
import CameraService.Heic.Selection

/-! The counting attribution of codec outputs, and `onHeicFormatChanged` changing the tile count
under a running count. -/

namespace CameraService.Heic

section
variable (isGainmap : Bool) (s : Stream)

@[simp] theorem Stream.encoder_setEncoder (e : Encoder) : (s.setEncoder isGainmap e).encoder isGainmap = e := by
  cases isGainmap <;> rfl

@[simp] theorem Stream.encoder_pushOutput (isGainmap' : Bool) (frameNumber : Int)
    (out : CodecOutputBufferInfo) :
    (s.pushOutput isGainmap' frameNumber out).encoder isGainmap = s.encoder isGainmap := by
  cases isGainmap <;> rfl

theorem attributeOutputs_stuck :
    ∀ (outs : List CodecOutputBufferInfo) (s : Stream) (frameNumber : Int) (rest : List Int),
      (s.encoder isGainmap).outputBufferFrameNumbers = frameNumber :: rest →
      (s.encoder isGainmap).numOutputTiles ≤ (s.encoder isGainmap).outputCounter →
      ((attributeOutputs isGainmap outs s).encoder isGainmap).outputBufferFrameNumbers =
          frameNumber :: rest ∧
        ((attributeOutputs isGainmap outs s).encoder isGainmap).outputCounter =
          (s.encoder isGainmap).outputCounter + outs.length
  | [], s, _, _, hq, _ => by simp [attributeOutputs, hq]
  | out :: outs, s, frameNumber, rest, hq, hn => by
    have hne : (s.encoder isGainmap).outputCounter + 1 ≠ (s.encoder isGainmap).numOutputTiles := by
      omega
    unfold attributeOutputs
    simp only [hq, if_neg hne]
    refine (attributeOutputs_stuck outs _ frameNumber rest ?_ ?_).imp id fun h => ?_
    · simp
    · simp only [Stream.encoder_pushOutput, Stream.encoder_setEncoder]
      omega
    · simp only [h, Stream.encoder_pushOutput, Stream.encoder_setEncoder, List.length_cons]
      omega

end

def gridShrinkRun : List Action :=
  [.bufferReleased ⟨1, 1, false⟩,
   .formatChanged (some ⟨some 1, some 2, some 256, some 512, false⟩) false,
   .codecOutput ⟨0, 100, false, 1⟩ false,
   .threadLoop noLocks allOk .signaled,
   .formatChanged (some ⟨some 1, some 1, some 512, some 512, false⟩) false]

theorem outputCounter_survives_format_change :
    (run tiledConfig gridShrinkRun (Stream.init singleTile singleTile)).codec.outputCounter = 1 ∧
      (run tiledConfig gridShrinkRun (Stream.init singleTile singleTile)).codec.numOutputTiles = 1 ∧
      ∀ outs, ((attributeOutputs false outs (run tiledConfig gridShrinkRun
        (Stream.init singleTile singleTile))).encoder false).outputBufferFrameNumbers = [1] := by
  have hq : ((run tiledConfig gridShrinkRun
      (Stream.init singleTile singleTile)).encoder false).outputBufferFrameNumbers = [1] := by decide
  refine ⟨by decide, by decide, fun outs => ?_⟩
  exact (attributeOutputs_stuck false outs _ 1 [] hq (by decide)).1

end CameraService.Heic
