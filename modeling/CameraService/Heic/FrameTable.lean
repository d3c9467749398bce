import CameraService.Heic.Framing

/-! How codec buffers reach `mPendingInputFrames`, and the frames that `operator[]` creates or
`releaseInputFrameLocked` drops buffers from. -/

namespace CameraService.Heic

section
variable {s : Stream} {j : Int} {f : InputFrame}

@[simp] theorem Stream.setEncoder_pendingInputFrames (isGainmap : Bool) (e : Encoder) (s : Stream) :
    (s.setEncoder isGainmap e).pendingInputFrames = s.pendingInputFrames := by
  cases isGainmap <;> rfl

@[simp] theorem InputFrame.tiles_setTiles (isGainmap : Bool) (t : Tiles) (f : InputFrame) :
    (f.setTiles isGainmap t).tiles isGainmap = t := by
  cases isGainmap <;> rfl

end

def Event.queuesInput (isGainmap : Bool) (index : Int) : Event → Bool
  | .queueInputBuffer g i _ _ => g == isGainmap && i == index
  | _ => false

def tileFailureRun : List Action :=
  [.bufferRequest 1 1 ⟨none, none⟩, .bufferRequest 2 1 ⟨none, none⟩,
   .shutter 1 10 1000, .shutter 2 11 2000,
   .bufferReleased ⟨1, 1, false⟩, .bufferReleased ⟨1, 2, false⟩,
   .frameAvailable .internal 1000, .codecInput 7 false,
   .threadLoop ⟨[], [.ok (lockedAt 1 1000)]⟩ allOk .signaled,
   .threadLoop noLocks (failingAt (.getInputBuffer false 7)) .signaled,
   .threadLoop noLocks allOk .signaled,
   .frameAvailable .internal 2000, .codecInput 8 false,
   .threadLoop ⟨[], [.ok (lockedAt 2 2000)]⟩ allOk .signaled,
   .threadLoop noLocks allOk .signaled,
   .threadLoop noLocks allOk .signaled,
   .codecOutput ⟨0, 100, false, 2⟩ false,
   .threadLoop noLocks allOk .signaled]

theorem tile_output_attributed_to_failed_frame :
    Event.notifyError 1 10 ∈
        (run tiledConfig tileFailureRun (Stream.init singleTile singleTile)).log ∧
      Event.queueInputBuffer false 8 0 2 ∈
        (run tiledConfig tileFailureRun (Stream.init singleTile singleTile)).log ∧
      ((run tiledConfig tileFailureRun (Stream.init singleTile singleTile)).pendingInputFrames.find?
        1).map (·.codec.outputBuffers) = some [⟨0, 100, false, 2⟩] := by
  decide

def appSegmentLockErrorRun : List Action :=
  [.bufferRequest 1 1 ⟨none, none⟩, .shutter 1 10 1000,
   .bufferReleased ⟨1, 1, false⟩, .bufferReleased ⟨2, 1, false⟩,
   .frameAvailable .appSegment 1000,
   .codecOutput ⟨0, 100, false, 1⟩ false,
   .threadLoop ⟨[.error], []⟩ allOk .signaled]

theorem timestamp_becomes_frame_key :
    (run surfaceConfig appSegmentLockErrorRun
        (Stream.init singleTile singleTile)).pendingInputFrames.entries.map (·.1) = [1, 1000] := by
  decide

def inputBufferDropRun : List Action :=
  [.bufferRequest 1 1 ⟨none, none⟩, .shutter 1 10 1000, .codecInput 7 false,
   .threadLoop noLocks allOk .signaled,
   .streamBufferError 1 1,
   .threadLoop noLocks allOk .signaled]

theorem input_buffer_dropped_on_release :
    (run tiledConfig inputBufferDropRun (Stream.init singleTile singleTile)).codec.inputBuffers =
        [] ∧
      (run tiledConfig inputBufferDropRun
        (Stream.init singleTile singleTile)).pendingInputFrames.entries = [] ∧
      Event.notifyError 1 10 ∈
        (run tiledConfig inputBufferDropRun (Stream.init singleTile singleTile)).log ∧
      (run tiledConfig inputBufferDropRun (Stream.init singleTile singleTile)).log.all
        (!·.queuesInput false 7) := by
  decide

end CameraService.Heic
