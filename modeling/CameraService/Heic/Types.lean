import CameraService.Heic.KeyMap

/-! The state of `HeicCompositeStream`; its collaborators answer through an `Oracle`, and its
calls into them are `Event`s in a log. -/

namespace CameraService.Heic

inductive Status
  | ok
  | noInit
  | badValue
  | error (code : Int)
  deriving DecidableEq, Repr

structure LockedBuffer where
  data : Nat
  timestamp : Int
  width : Nat
  height : Nat
  bytes : List UInt8
  deriving DecidableEq, Repr

inductive LockResult
  | ok (b : LockedBuffer)
  | notEnoughData
  | error
  deriving DecidableEq, Repr

/-- A codec output buffer as `onHeicOutputFrameAvailable` receives it. `codecConfig` is the
`BUFFER_FLAG_CODECCONFIG` bit of its flags. `source` is not in the code: it is the frame number
whose input the encoder consumed to produce the buffer. -/
structure CodecOutputBufferInfo where
  index : Int
  size : Int
  codecConfig : Bool
  source : Int
  deriving DecidableEq, Repr

structure CodecInputBufferInfo where
  index : Int
  timeUs : Int
  tileIndex : Nat
  deriving DecidableEq, Repr

structure Format where
  gridRows : Option Int
  gridCols : Option Int
  tileWidth : Option Int
  tileHeight : Option Int
  gainmap : Bool
  deriving DecidableEq, Repr

structure HeicSettings where
  orientation : Int
  quality : Int
  timestamp : Int := 0
  requestId : Int := -1
  shutterNotified : Bool := false
  deriving DecidableEq, Repr

structure Tiles where
  outputBuffers : List CodecOutputBufferInfo := []
  inputBuffers : List CodecInputBufferInfo := []
  inputCounter : Nat := 0
  pendingOutputTiles : Nat := 0
  trackIndex : Int := -1
  format : Option Format := none
  deriving DecidableEq, Repr

structure InputFrame where
  orientation : Int := 0
  quality : Int := 99
  appSegmentBuffer : Option LockedBuffer := none
  result : Option Nat := none
  yuvBuffer : Option LockedBuffer := none
  error : Bool := false
  exifError : Bool := false
  timestamp : Int := -1
  requestId : Int := -1
  codec : Tiles := {}
  gainmap : Tiles := {}
  muxer : Bool := false
  fileFd : Int := -1
  anb : Option Nat := none
  appSegmentWritten : Bool := false
  baseBuffer : Bool := false
  baseImage : Bool := false
  gainmapImage : Bool := false
  isoGainmapMetadata : List UInt8 := []
  deriving DecidableEq, Repr

instance : Inhabited InputFrame := ⟨{}⟩

def InputFrame.tiles (isGainmap : Bool) (f : InputFrame) : Tiles :=
  if isGainmap then f.gainmap else f.codec

def InputFrame.setTiles (isGainmap : Bool) (t : Tiles) (f : InputFrame) : InputFrame :=
  if isGainmap then { f with gainmap := t } else { f with codec := t }

structure Grid where
  width : Int
  height : Int
  rows : Nat
  cols : Nat
  deriving DecidableEq, Repr

structure Config where
  mainImageStreamId : Int
  appSegmentStreamId : Int
  useHeic : Bool
  useGrid : Bool
  gainmapUseGrid : Bool
  hdrGainmapEnabled : Bool
  appSegmentSupported : Bool
  outputWidth : Int
  outputHeight : Int
  gainmapOutputWidth : Int
  gainmapOutputHeight : Int
  maxHeicBufferSize : Nat
  jpegAppSegmentsBlobId : Int
  cameraBlobSize : Nat
  deriving DecidableEq, Repr

inductive Consumer
  | appSegment
  | mainImage
  deriving DecidableEq, Repr

inductive Sample
  | appSegments (bytes : List UInt8)
  | gainmapMetadata (bytes : List UInt8)
  | codecOutput (isGainmap : Bool) (info : CodecOutputBufferInfo)
  deriving DecidableEq, Repr

/-- The stream's calls into its collaborators. The frame numbers of `queueInputBuffer` and
`queueBuffer` are not passed to the codec or the surface: they record on whose behalf the
stream made the call. -/
inductive Event
  | lockBuffer (consumer : Consumer) (data : Nat)
  | unlockBuffer (consumer : Consumer) (data : Nat)
  | queueInputBuffer (isGainmap : Bool) (index : Int) (tileIndex : Nat) (frameNumber : Int)
  | releaseOutputBuffer (isGainmap : Bool) (index : Int)
  | dequeueBuffer (anb : Nat)
  | queueBuffer (anb : Nat) (frameNumber : Int)
  | cancelBuffer (anb : Nat)
  | writeSample (frameNumber trackIndex : Int) (sample : Sample)
  | notifyError (frameNumber requestId : Int)
  | setParameters (quality : Int)
  | markComponentActive
  | markComponentIdle
  deriving DecidableEq, Repr

inductive Worker
  | idle
  | waiting
  | selected (frameNumber : Int)
  | processed (frameNumber : Int) (res : Status)
  | exited
  deriving DecidableEq, Repr

structure Encoder where
  outputBuffers : List CodecOutputBufferInfo := []
  outputBufferFrameNumbers : List Int := []
  outputCounter : Nat := 0
  numOutputTiles : Nat := 1
  inputBuffers : List Int := []
  grid : Grid
  format : Option Format := none
  deriving DecidableEq, Repr

/-- The members of `HeicCompositeStream` (and of `CompositeStream`) that change while it runs,
with the processing thread's position and the log of calls into collaborators. `nextAnb` is the
ticket the next dequeued output buffer gets. -/
structure Stream where
  errorState : Bool := false
  settingsByFrameNumber : KeyMap HeicSettings := .empty
  pendingInputFrames : KeyMap InputFrame := .empty
  inputAppSegmentBuffers : List Int := []
  appSegmentFrameNumbers : List Int := []
  inputYuvBuffers : List Int := []
  mainImageFrameNumbers : List Int := []
  yuvBufferAcquired : Bool := false
  codec : Encoder
  gainmap : Encoder
  gridTimestampUs : Int := 0
  quality : Int := -1
  captureResults : KeyMap (Int × Nat) := .empty
  errorFrameNumbers : List Int := []
  exifErrorFrameNumbers : List Int := []
  dequeuedOutputBufferCnt : Int := 0
  worker : Worker := .idle
  nextAnb : Nat := 0
  log : List Event := []
  deriving DecidableEq

def Stream.init (grid gainmapGrid : Grid) : Stream :=
  { codec := { grid }, gainmap := { grid := gainmapGrid } }

def Stream.encoder (isGainmap : Bool) (s : Stream) : Encoder :=
  if isGainmap then s.gainmap else s.codec

def Stream.setEncoder (isGainmap : Bool) (e : Encoder) (s : Stream) : Stream :=
  if isGainmap then { s with gainmap := e } else { s with codec := e }

def Stream.logEvent (e : Event) (s : Stream) : Stream := { s with log := s.log ++ [e] }

/-- The collaborators' calls whose outcome the stream does not decide. -/
inductive Call
  | setParameters (quality : Int)
  | generateBaseImageAndGainmap (frameNumber : Int)
  | getInputBuffer (isGainmap : Bool) (index : Int)
  | copyOneYuvTile (isGainmap : Bool) (index : Int) (top left width height : Nat)
  | queueInputBuffer (isGainmap : Bool) (index : Int)
  | dequeueBuffer (frameNumber : Int)
  | memfdCreate (frameNumber : Int)
  | muxerCreate (frameNumber : Int)
  | setOrientationHint (frameNumber : Int)
  | addTrack (frameNumber : Int) (isGainmap : Bool)
  | muxerStart (frameNumber : Int)
  | writeGainmapMetadata (frameNumber : Int)
  | exifInitialize (frameNumber : Int)
  | exifSetFromMetadata (frameNumber : Int)
  | exifSetOrientation (frameNumber : Int)
  | exifGenerateApp1 (frameNumber : Int)
  | writeAppSegments (frameNumber : Int)
  | getOutputBuffer (isGainmap : Bool) (index : Int)
  | writeCodecOutput (isGainmap : Bool) (index : Int)
  | lockAsync (frameNumber : Int)
  | readFile (frameNumber : Int) (size : Nat)
  | setBuffersTimestamp (frameNumber : Int)
  | queueBuffer (frameNumber : Int)
  deriving DecidableEq, Repr

/-- The answers of the collaborators during one step of the processing thread: the status of
each call, the gainmap metadata `encodeGainmapMetadata` writes, the APP1 segment `ExifUtils`
generates, and the size of the finished container file. -/
structure Oracle where
  status : Call → Status
  isoGainmapMetadata : List UInt8
  app1Segment : List UInt8
  fileSize : Nat

/-- What `lockNextBuffer` answers, call after call, during one `compilePendingInputLocked`;
past the end of a list it answers `NOT_ENOUGH_DATA`. -/
structure Locks where
  appSegment : List LockResult
  mainImage : List LockResult

end CameraService.Heic
