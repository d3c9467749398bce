import Mathlib.Algebra.Group.Int
import CameraService.Heic.Types

/-! The producer callbacks of the composite stream: each records what arrived under `mMutex`
and leaves `mPendingInputFrames` to the processing thread. -/

namespace CameraService.Heic

instance : Inhabited HeicSettings := ⟨{ orientation := 0, quality := 95 }⟩

def sizeT (x : Int) : Nat := (x % 2 ^ 64).toNat

structure BufferInfo where
  streamId : Int
  frameNumber : Int
  error : Bool
  deriving DecidableEq, Repr

structure JpegSettings where
  orientation : Option Int
  quality : Option Int
  deriving DecidableEq, Repr

inductive DataSpace
  | appSegment
  | internal
  | other
  deriving DecidableEq, Repr

section
variable (c : Config)

def onBufferReleased (info : BufferInfo) (s : Stream) : Stream :=
  if info.error then s
  else if info.streamId = c.mainImageStreamId then
    { s with
      mainImageFrameNumbers := s.mainImageFrameNumbers ++ [info.frameNumber]
      codec.outputBufferFrameNumbers := s.codec.outputBufferFrameNumbers ++ [info.frameNumber]
      gainmap.outputBufferFrameNumbers :=
        if c.hdrGainmapEnabled then s.gainmap.outputBufferFrameNumbers ++ [info.frameNumber]
        else s.gainmap.outputBufferFrameNumbers }
  else if info.streamId = c.appSegmentStreamId then
    { s with appSegmentFrameNumbers := s.appSegmentFrameNumbers ++ [info.frameNumber] }
  else s

def onBufferRequestForFrameNumber (frameNumber streamId : Int) (settings : JpegSettings)
    (s : Stream) : Stream :=
  if s.errorState || streamId != c.mainImageStreamId then s
  else
    { s with
      settingsByFrameNumber := s.settingsByFrameNumber.insert frameNumber
        { orientation := settings.orientation.getD 0, quality := settings.quality.getD 99 } }

def onShutter (frameNumber requestId timestamp : Int) (s : Stream) : Stream :=
  if s.errorState then s
  else if s.settingsByFrameNumber.contains frameNumber then
    { s with
      settingsByFrameNumber := s.settingsByFrameNumber.modify frameNumber
        fun st => { st with shutterNotified := true, timestamp, requestId } }
  else s

def onFrameAvailable (dataSpace : DataSpace) (timestamp : Int) (s : Stream) : Stream :=
  match dataSpace with
  | .appSegment =>
    if s.errorState then s
    else { s with inputAppSegmentBuffers := s.inputAppSegmentBuffers ++ [timestamp] }
  | .internal =>
    if !c.useGrid && !c.hdrGainmapEnabled then s
    else if s.errorState then s
    else { s with inputYuvBuffers := s.inputYuvBuffers ++ [timestamp] }
  | .other => s

def onHeicOutputFrameAvailable (info : CodecOutputBufferInfo) (isGainmap : Bool)
    (s : Stream) : Stream :=
  if !s.errorState && 0 < info.size && !info.codecConfig then
    s.setEncoder isGainmap
      { s.encoder isGainmap with outputBuffers := (s.encoder isGainmap).outputBuffers ++ [info] }
  else s.logEvent (.releaseOutputBuffer isGainmap info.index)

def onHeicInputFrameAvailable (index : Int) (isGainmap : Bool) (s : Stream) : Stream :=
  if !c.useGrid && !c.hdrGainmapEnabled then s
  else
    s.setEncoder isGainmap
      { s.encoder isGainmap with inputBuffers := (s.encoder isGainmap).inputBuffers ++ [index] }

def formatChanged (tiled : Bool) (grid : Grid) (newFormat : Format) : Grid × Nat × Format :=
  let (grid, newFormat) :=
    if tiled then
      match newFormat.gridRows, newFormat.gridCols, newFormat.tileWidth, newFormat.tileHeight with
      | some rows, some cols, some tileWidth, some tileHeight =>
        ({ width := tileWidth, height := tileHeight, rows := sizeT rows, cols := sizeT cols },
          newFormat)
      | _, _, _, _ =>
        (grid, { newFormat with
          tileWidth := some grid.width, tileHeight := some grid.height,
          gridRows := some grid.rows, gridCols := some grid.cols })
    else (grid, newFormat)
  let numTiles :=
    match newFormat.gridRows, newFormat.gridCols with
    | some rows, some cols => sizeT (rows * cols)
    | _, _ => 1
  (grid, numTiles, newFormat)

def onHeicGainmapFormatChanged (newFormat : Option Format) (s : Stream) : Stream :=
  match newFormat with
  | none => s
  | some newFormat =>
    let (grid, numTiles, newFormat) := formatChanged c.gainmapUseGrid s.gainmap.grid newFormat
    { s with gainmap.grid := grid, gainmap.numOutputTiles := numTiles,
             gainmap.format := newFormat }

def onHeicFormatChanged (newFormat : Option Format) (isGainmap : Bool) (s : Stream) : Stream :=
  match newFormat with
  | none => s
  | some newFormat =>
    if isGainmap then onHeicGainmapFormatChanged c (some newFormat) s
    else
      let (grid, numTiles, newFormat) := formatChanged (c.useGrid || c.useHeic) s.codec.grid newFormat
      { s with codec.grid := grid, codec.numOutputTiles := numTiles, codec.format := newFormat }

def onHeicCodecError (s : Stream) : Stream := { s with errorState := true }

/-- `CompositeStream::flagAnErrorFrameNumber`, outside src/, records
the frame number of a dropped main-image buffer in `mErrorFrameNumbers`, as its sibling
`flagAnExifErrorFrameNumber` does for the APP-segment stream. -/
def flagAnErrorFrameNumber (frameNumber : Int) (s : Stream) : Stream :=
  { s with errorFrameNumbers := s.errorFrameNumbers.insert frameNumber }

def flagAnExifErrorFrameNumber (frameNumber : Int) (s : Stream) : Stream :=
  { s with exifErrorFrameNumbers := s.exifErrorFrameNumbers.insert frameNumber }

def onStreamBufferError (errorStreamId frameNumber : Int) (s : Stream) : Stream :=
  if errorStreamId = c.appSegmentStreamId then flagAnExifErrorFrameNumber frameNumber s
  else if errorStreamId = c.mainImageStreamId then flagAnErrorFrameNumber frameNumber s
  else s

/-- `CompositeStream::onResultAvailable`, outside src/, hands the final
capture result of a frame to the stream, keyed by its sensor timestamp, for
`compilePendingInputLocked` to attach when the timestamp matches. -/
def onResultAvailable (frameNumber timestamp : Int) (metadata : Nat) (s : Stream) : Stream :=
  { s with captureResults := s.captureResults.emplace timestamp (frameNumber, metadata) }

def onResultError (frameNumber : Int) (s : Stream) : Stream :=
  let timestamp := ((s.settingsByFrameNumber.find? frameNumber).map (·.timestamp)).getD (-1)
  let timestamp :=
    if timestamp = -1 then ((s.pendingInputFrames.find? frameNumber).map (·.timestamp)).getD (-1)
    else timestamp
  if timestamp = -1 then s
  else { s with captureResults := s.captureResults.emplace timestamp (frameNumber, 0) }

def onRequestError (frameNumber : Int) (s : Stream) : Stream :=
  if s.settingsByFrameNumber.contains frameNumber then
    { s with settingsByFrameNumber := s.settingsByFrameNumber.erase frameNumber }
  else { s with errorFrameNumbers := s.errorFrameNumbers.insert frameNumber }

end
end CameraService.Heic
