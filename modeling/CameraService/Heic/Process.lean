import CameraService.Heic.AppSegment

/-! `processInputFrame` and its steps, where every collaborator call can fail and a failure
returns at once, and the releases of finished or failed frames. -/

namespace CameraService.Heic

def Config.outputSize (c : Config) (isGainmap : Bool) : Int × Int :=
  if isGainmap then (c.gainmapOutputWidth, c.gainmapOutputHeight)
  else (c.outputWidth, c.outputHeight)

def tileRect (g : Grid) (outputWidth outputHeight : Int) (tileIndex : Nat) :
    Nat × Nat × Nat × Nat :=
  let tileX := tileIndex % g.cols
  let tileY := tileIndex / g.cols
  (sizeT (g.height * tileY), sizeT (g.width * tileX),
    if tileX + 1 = g.cols then sizeT (outputWidth - tileX * g.width) else sizeT g.width,
    if tileY + 1 = g.rows then sizeT (outputHeight - tileY * g.height) else sizeT g.height)

def InputFrame.done (f : InputFrame) : Bool :=
  f.error || (f.appSegmentWritten && f.codec.pendingOutputTiles == 0 &&
    f.gainmap.pendingOutputTiles == 0)

section
variable (c : Config) (o : Oracle)

def processCodecInputs (isGainmap : Bool) (frameNumber : Int) :
    List CodecInputBufferInfo → InputFrame → Stream → Outcome
  | [], f, s => (.ok, f.setTiles isGainmap { f.tiles isGainmap with inputBuffers := [] }, s)
  | info :: rest, f, s =>
    let (top, left, width, height) :=
      tileRect (s.encoder isGainmap).grid (c.outputSize isGainmap).1 (c.outputSize isGainmap).2
        info.tileIndex
    Outcome.check (o.status (.getInputBuffer isGainmap info.index)) f s fun _ =>
    Outcome.check (o.status (.copyOneYuvTile isGainmap info.index top left width height)) f s
      fun _ =>
    Outcome.check (o.status (.queueInputBuffer isGainmap info.index)) f s fun _ =>
    processCodecInputs isGainmap frameNumber rest f
      (s.logEvent (.queueInputBuffer isGainmap info.index info.tileIndex frameNumber))

def processCodecInputFrame (frameNumber : Int) (f : InputFrame) (s : Stream) : Outcome :=
  processCodecInputs c o false frameNumber f.codec.inputBuffers f s

def processCodecGainmapInputFrame (frameNumber : Int) (f : InputFrame) (s : Stream) : Outcome :=
  processCodecInputs c o true frameNumber f.gainmap.inputBuffers f s

def generateBaseImageAndGainmap (frameNumber : Int) (f : InputFrame) (s : Stream) : Outcome :=
  let f := { f with baseBuffer := true }
  Outcome.check (o.status (.generateBaseImageAndGainmap frameNumber)) f s fun _ =>
    (.ok, { f with baseImage := true, gainmapImage := true,
                   isoGainmapMetadata := 0 :: o.isoGainmapMetadata }, s)

def startMuxerForInputFrame (frameNumber : Int) (f : InputFrame) (s : Stream) : Outcome :=
  Outcome.check (o.status (.dequeueBuffer frameNumber)) f s fun _ =>
  let f := { f with anb := some s.nextAnb }
  let s := { s.logEvent (.dequeueBuffer s.nextAnb) with
    nextAnb := s.nextAnb + 1, dequeuedOutputBufferCnt := s.dequeuedOutputBufferCnt + 1 }
  if o.status (.memfdCreate frameNumber) != .ok then (.noInit, f, s) else
  let f := { f with fileFd := 0 }
  if o.status (.muxerCreate frameNumber) != .ok then (.noInit, f, s) else
  let f := { f with muxer := true }
  Outcome.check (o.status (.setOrientationHint frameNumber)) f s fun _ =>
  if o.status (.addTrack frameNumber false) != .ok then (.noInit, f, s) else
  let f := { f with codec.trackIndex := 0, codec.pendingOutputTiles := s.codec.numOutputTiles }
  let r : Outcome :=
    if f.gainmap.format.isSome then
      if o.status (.addTrack frameNumber true) != .ok then (.noInit, f, s)
      else (.ok, { f with gainmap.trackIndex := 1,
                          gainmap.pendingOutputTiles := s.gainmap.numOutputTiles }, s)
    else (.ok, f, s)
  r.bind fun f s => Outcome.check (o.status (.muxerStart frameNumber)) f s fun _ => (.ok, f, s)

def processCodecOutputs (isGainmap : Bool) (frameNumber : Int) :
    List CodecOutputBufferInfo → InputFrame → Stream → Outcome
  | [], f, s => (.ok, f, s)
  | out :: rest, f, s =>
    Outcome.check (o.status (.getOutputBuffer isGainmap out.index)) f s fun _ =>
    let t := f.tiles isGainmap
    let s := s.logEvent (.writeSample frameNumber t.trackIndex (.codecOutput isGainmap out))
    Outcome.check (o.status (.writeCodecOutput isGainmap out.index)) f s fun _ =>
    processCodecOutputs isGainmap frameNumber rest
      (f.setTiles isGainmap
        { t with outputBuffers := rest, pendingOutputTiles := t.pendingOutputTiles - 1 })
      (s.logEvent (.releaseOutputBuffer isGainmap out.index))

def processCompletedInputFrame (frameNumber : Int) (f : InputFrame) (s : Stream) : Outcome :=
  Outcome.check (o.status (.lockAsync frameNumber)) f s fun _ =>
  if o.fileSize > c.maxHeicBufferSize - c.cameraBlobSize then (.badValue, f, s) else
  if o.status (.readFile frameNumber o.fileSize) != .ok then (.badValue, f, s) else
  let f := { f with fileFd := -1 }
  Outcome.check (o.status (.setBuffersTimestamp frameNumber)) f s fun _ =>
  Outcome.check (o.status (.queueBuffer frameNumber)) f s fun _ =>
  (.ok, { f with anb := none },
    { s.logEvent (.queueBuffer (f.anb.getD 0) frameNumber) with
      dequeuedOutputBufferCnt := s.dequeuedOutputBufferCnt - 1 })

def writeToMuxer (frameNumber : Int) (hasGainmapMetadata appSegmentReady : Bool)
    (f : InputFrame) (s : Stream) : Outcome :=
  let r : Outcome :=
    if hasGainmapMetadata then
      let s := s.logEvent (.writeSample frameNumber f.codec.trackIndex
        (.gainmapMetadata ([0x74, 0x6D, 0x61, 0x70, 0, 0] ++ f.isoGainmapMetadata)))
      Outcome.check (o.status (.writeGainmapMetadata frameNumber)) f s fun _ =>
        (.ok, { f with isoGainmapMetadata := [] }, s)
    else (.ok, f, s)
  r.bind fun f s =>
  (if appSegmentReady then processAppSegment c o frameNumber f s else (.ok, f, s)).bind fun f s =>
  (processCodecOutputs o false frameNumber f.codec.outputBuffers f s).bind fun f s =>
  (processCodecOutputs o true frameNumber f.gainmap.outputBuffers f s).bind fun f s =>
  if f.codec.pendingOutputTiles == 0 && f.gainmap.pendingOutputTiles == 0 && f.appSegmentWritten
  then processCompletedInputFrame c o frameNumber f s
  else (.ok, f, s)

def processInputFrame (frameNumber : Int) (f : InputFrame) (s : Stream) : Outcome :=
  let appSegmentReady := f.appSegmentReady
  let codecOutputReady := f.codecOutputReady
  let gainmapCodecInputReady := f.gainmapImage && !f.gainmap.inputBuffers.isEmpty
  let hasOutputBuffer := s.hasOutputBuffer f
  let hasGainmapMetadata := !f.isoGainmapMetadata.isEmpty
  let r : Outcome :=
    if f.codecInputReady then
      (if c.hdrGainmapEnabled && !f.baseBuffer then generateBaseImageAndGainmap o frameNumber f s
       else (.ok, f, s)).bind (processCodecInputFrame c o frameNumber)
    else (.ok, f, s)
  r.bind fun f s =>
  (if gainmapCodecInputReady then processCodecGainmapInputFrame c o frameNumber f s
   else (.ok, f, s)).bind fun f s =>
  if !(codecOutputReady && hasOutputBuffer) && !appSegmentReady then (.ok, f, s)
  else
    (if !f.muxer then startMuxerForInputFrame o frameNumber f s else (.ok, f, s)).bind
      (writeToMuxer c o frameNumber hasGainmapMetadata appSegmentReady)

def releaseInputFrameLocked (frameNumber : Int) (f : InputFrame) (s : Stream) : Stream :=
  let log := s.log ++
    (f.appSegmentBuffer.map (Event.unlockBuffer .appSegment ·.data)).toList ++
    f.codec.outputBuffers.map (Event.releaseOutputBuffer false ·.index) ++
    f.gainmap.outputBuffers.map (Event.releaseOutputBuffer true ·.index) ++
    (f.yuvBuffer.map (Event.unlockBuffer .mainImage ·.data)).toList ++
    (if f.error || s.errorState then [Event.notifyError frameNumber f.requestId] else []) ++
    (f.anb.map Event.cancelBuffer).toList
  { s with
    log
    yuvBufferAcquired := if f.yuvBuffer.isSome then false else s.yuvBufferAcquired
    dequeuedOutputBufferCnt :=
      if f.anb.isSome then s.dequeuedOutputBufferCnt - 1 else s.dequeuedOutputBufferCnt }

def Stream.eraseFrame (frameNumber : Int) (s : Stream) : Stream :=
  { s with pendingInputFrames := s.pendingInputFrames.erase frameNumber }

def markTrackerIdle (s : Stream) : Stream := s.logEvent .markComponentIdle

def releaseDoneFrames : List (Int × InputFrame) → Stream → Stream
  | [], s => s
  | (frameNumber, f) :: rest, s =>
    if f.done then
      releaseDoneFrames rest ((releaseInputFrameLocked frameNumber f s).eraseFrame frameNumber)
    else releaseDoneFrames rest s

def releaseInputFramesLocked (s : Stream) : Stream :=
  let frames := s.pendingInputFrames.entries
  let s := releaseDoneFrames frames s
  if frames.any (·.2.done) then
    match s.pendingInputFrames.entries with
    | (_, f) :: _ => updateCodecQualityLocked o f.quality s
    | [] => if s.settingsByFrameNumber.size = 0 then markTrackerIdle s else s
  else s

end
end CameraService.Heic
