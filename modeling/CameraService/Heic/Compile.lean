import CameraService.Heic.Callbacks

/-! `compilePendingInputLocked`, its loops in source order, and the two selections of
`threadLoop`. -/

namespace CameraService.Heic

section
variable (c : Config) (o : Oracle)

def updateCodecQualityLocked (quality : Int) (s : Stream) : Stream :=
  if quality != s.quality then
    let s := s.logEvent (.setParameters quality)
    if o.status (.setParameters quality) = .ok then { s with quality } else s
  else s

def Stream.frameError (s : Stream) (frameNumber : Int) : Bool :=
  (s.pendingInputFrames.find? frameNumber).any (·.error)

def Stream.markError (key : Int) (s : Stream) : Stream :=
  { s with pendingInputFrames := s.pendingInputFrames.modify key fun f => { f with error := true } }

def Stream.applySettings (frameNumber : Int) (st : HeicSettings) (s : Stream) : Stream :=
  { s with pendingInputFrames := s.pendingInputFrames.modify frameNumber fun f =>
      { f with orientation := st.orientation, quality := st.quality,
               timestamp := st.timestamp, requestId := st.requestId } }

def Stream.promote (o : Oracle) (frameNumber : Int) (st : HeicSettings) (s : Stream) : Stream :=
  let s := { s.applySettings frameNumber st with
    settingsByFrameNumber := s.settingsByFrameNumber.erase frameNumber }
  match s.pendingInputFrames.entries with
  | [(_, f)] => updateCodecQualityLocked o f.quality (s.logEvent .markComponentActive)
  | _ => s

def promoteSettings : List (Int × HeicSettings) → Stream → Stream
  | [], s => s
  | (frameNumber, st) :: rest, s =>
    if st.shutterNotified then promoteSettings rest (s.promote o frameNumber st)
    else promoteSettings rest s

def Stream.dropAppSegmentInput (s : Stream) : Stream :=
  { s with inputAppSegmentBuffers := s.inputAppSegmentBuffers.tail }

def Stream.popAppSegment (s : Stream) : Stream :=
  { s with inputAppSegmentBuffers := s.inputAppSegmentBuffers.tail,
           appSegmentFrameNumbers := s.appSegmentFrameNumbers.tail }

def Stream.acceptAppSegment (b : LockedBuffer) (frameNumber : Int) (s : Stream) : Stream :=
  if !s.pendingInputFrames.contains frameNumber || s.frameError frameNumber then
    s.logEvent (.unlockBuffer .appSegment b.data)
  else
    { s with pendingInputFrames := s.pendingInputFrames.modify frameNumber fun f =>
        { f with appSegmentBuffer := some b } }

def matchAppSegmentBuffers : List LockResult → Stream → Stream
  | [], s => s
  | r :: locks, s =>
    match s.inputAppSegmentBuffers, s.appSegmentFrameNumbers with
    | it :: _, frameNumber :: _ =>
      match r with
      | .notEnoughData => s
      | .error => matchAppSegmentBuffers locks (s.markError it).dropAppSegmentInput
      | .ok b =>
        if it != b.timestamp then
          matchAppSegmentBuffers locks
            (((s.logEvent (.lockBuffer .appSegment b.data)).logEvent
              (.unlockBuffer .appSegment b.data)).markError it).dropAppSegmentInput
        else if !s.pendingInputFrames.contains frameNumber then
          matchAppSegmentBuffers locks (s.logEvent (.lockBuffer .appSegment b.data)).popAppSegment
        else
          matchAppSegmentBuffers locks
            ((s.logEvent (.lockBuffer .appSegment b.data)).acceptAppSegment b frameNumber).popAppSegment
    | _, _ => s

def Stream.dropYuvInput (s : Stream) : Stream :=
  { s with inputYuvBuffers := s.inputYuvBuffers.tail }

def Stream.popYuv (s : Stream) : Stream :=
  { s with inputYuvBuffers := s.inputYuvBuffers.tail,
           mainImageFrameNumbers := s.mainImageFrameNumbers.tail }

def Stream.storeYuv (b : LockedBuffer) (frameNumber : Int) (s : Stream) : Stream :=
  { s with
    pendingInputFrames := s.pendingInputFrames.modify frameNumber fun f => { f with yuvBuffer := some b }
    yuvBufferAcquired := true }

def Stream.acceptYuv (b : LockedBuffer) (frameNumber : Int) (s : Stream) : Stream :=
  if !s.pendingInputFrames.contains frameNumber || s.frameError frameNumber then
    s.logEvent (.unlockBuffer .mainImage b.data)
  else s.storeYuv b frameNumber

def matchYuvBuffers : List LockResult → Stream → Stream
  | [], s => s
  | r :: locks, s =>
    match s.inputYuvBuffers, s.yuvBufferAcquired, s.mainImageFrameNumbers with
    | it :: _, false, frameNumber :: _ =>
      match r with
      | .notEnoughData => s
      | .error => matchYuvBuffers locks (s.markError it).dropYuvInput
      | .ok b =>
        if it != b.timestamp then
          matchYuvBuffers locks ((s.logEvent (.lockBuffer .mainImage b.data)).markError it).dropYuvInput
        else if !s.pendingInputFrames.contains frameNumber then
          matchYuvBuffers locks (s.logEvent (.lockBuffer .mainImage b.data)).popYuv
        else
          matchYuvBuffers locks
            ((s.logEvent (.lockBuffer .mainImage b.data)).acceptYuv b frameNumber).popYuv
    | _, _, _ => s

def Stream.pushOutput (isGainmap : Bool) (frameNumber : Int) (out : CodecOutputBufferInfo)
    (s : Stream) : Stream :=
  { s with pendingInputFrames := s.pendingInputFrames.modify frameNumber fun f =>
      (f.setTiles isGainmap
        { f.tiles isGainmap with outputBuffers := (f.tiles isGainmap).outputBuffers ++ [out] }) }

def attributeOutputs (isGainmap : Bool) : List CodecOutputBufferInfo → Stream → Stream
  | [], s => s.setEncoder isGainmap { s.encoder isGainmap with outputBuffers := [] }
  | out :: outs, s =>
    let e := s.encoder isGainmap
    match e.outputBufferFrameNumbers with
    | [] => s.setEncoder isGainmap { e with outputBuffers := out :: outs }
    | frameNumber :: frameNumbers =>
      let e :=
        if e.outputCounter + 1 = e.numOutputTiles then
          { e with outputBufferFrameNumbers := frameNumbers, outputCounter := 0 }
        else { e with outputCounter := e.outputCounter + 1 }
      attributeOutputs isGainmap outs ((s.setEncoder isGainmap e).pushOutput isGainmap frameNumber out)

def Stream.attachResult (frameNumber : Int) (metadata : Nat) (s : Stream) : Stream :=
  { s with pendingInputFrames := s.pendingInputFrames.modify frameNumber fun f =>
      { f with result := some metadata, exifError := f.exifError || !c.appSegmentSupported } }

def attachCaptureResults : List (Int × Int × Nat) → Stream → Stream
  | [], s => { s with captureResults := .empty }
  | (timestamp, frameNumber, metadata) :: rest, s =>
    match s.pendingInputFrames.find? frameNumber with
    | some f =>
      if 0 ≤ timestamp && f.timestamp == timestamp then
        attachCaptureResults rest (s.attachResult c frameNumber metadata)
      else attachCaptureResults rest s
    | none => attachCaptureResults rest s

def Stream.markExifError (key : Int) (s : Stream) : Stream :=
  { s with pendingInputFrames := s.pendingInputFrames.modify key fun f => { f with exifError := true } }

def applyErrorFrames (exif : Bool) : List Int → Stream → Stream
  | [], s => if exif then { s with exifErrorFrameNumbers := [] } else { s with errorFrameNumbers := [] }
  | frameNumber :: rest, s =>
    if s.pendingInputFrames.contains frameNumber then
      applyErrorFrames exif rest (if exif then s.markExifError frameNumber else s.markError frameNumber)
    else applyErrorFrames exif rest s

def takeInputs (isGainmap : Bool) : Nat → InputFrame × Stream → InputFrame × Stream
  | 0, p => p
  | n + 1, (f, s) =>
    let e := s.encoder isGainmap
    match e.inputBuffers with
    | [] => (f, s)
    | index :: rest =>
      let t := f.tiles isGainmap
      takeInputs isGainmap n
        (f.setTiles isGainmap
          { t with inputBuffers := t.inputBuffers ++ [⟨index, s.gridTimestampUs, t.inputCounter⟩],
                   inputCounter := t.inputCounter + 1 },
         { s.setEncoder isGainmap { e with inputBuffers := rest } with
            gridTimestampUs := s.gridTimestampUs + 1 })

def distributeInputs (isGainmap : Bool) : List (Int × InputFrame) → Stream → Stream
  | [], s => s
  | (frameNumber, f) :: rest, s =>
    let e := s.encoder isGainmap
    if e.inputBuffers = [] then s
    else if (f.tiles isGainmap).inputCounter < e.grid.rows * e.grid.cols then
      let n := min e.inputBuffers.length (e.grid.rows * e.grid.cols - (f.tiles isGainmap).inputCounter)
      let r := takeInputs isGainmap n (f, s)
      { r.2 with pendingInputFrames := r.2.pendingInputFrames.insert frameNumber r.1 }
    else distributeInputs isGainmap rest s

def attributePendingInputLocked (s : Stream) : Stream :=
  let s := attributeOutputs false s.codec.outputBuffers s
  let s := attributeOutputs true s.gainmap.outputBuffers s
  let s := attachCaptureResults c s.captureResults.entries s
  let s := applyErrorFrames false s.errorFrameNumbers s
  let s := applyErrorFrames true s.exifErrorFrameNumbers s
  let s := distributeInputs false s.pendingInputFrames.entries s
  distributeInputs true s.pendingInputFrames.entries s

def compilePendingInputLocked (locks : Locks) (s : Stream) : Stream :=
  let s := promoteSettings o s.settingsByFrameNumber.entries s
  let s := matchAppSegmentBuffers locks.appSegment s
  attributePendingInputLocked c (matchYuvBuffers locks.mainImage s)

end

def InputFrame.appSegmentReady (f : InputFrame) : Bool :=
  (f.appSegmentBuffer.isSome || f.exifError) && !f.appSegmentWritten && f.result.isSome && f.muxer

def InputFrame.codecOutputReady (f : InputFrame) : Bool :=
  !f.codec.outputBuffers.isEmpty || !f.gainmap.outputBuffers.isEmpty

def InputFrame.codecInputReady (f : InputFrame) : Bool :=
  f.yuvBuffer.isSome && !f.codec.inputBuffers.isEmpty

def kMaxOutputSurfaceProducerCount : Int := 1

def Stream.hasOutputBuffer (s : Stream) (f : InputFrame) : Bool :=
  f.muxer || decide (s.dequeuedOutputBufferCnt < kMaxOutputSurfaceProducerCount)

def Stream.ready (s : Stream) (f : InputFrame) : Bool :=
  !f.error && (f.appSegmentReady || (f.codecOutputReady && s.hasOutputBuffer f) || f.codecInputReady)

def firstReady (s : Stream) : List (Int × InputFrame) → Option Int
  | [] => none
  | (frameNumber, f) :: rest => if s.ready f then some frameNumber else firstReady s rest

def getNextReadyInputLocked (s : Stream) : Option Int × Stream :=
  match firstReady s s.pendingInputFrames.entries with
  | none => (none, s)
  | some frameNumber =>
    (some frameNumber, { s with
      pendingInputFrames := s.pendingInputFrames.modify frameNumber fun f =>
        { f with
          codec.format := f.codec.format <|> s.codec.format
          gainmap.format :=
            f.gainmap.format <|> (s.gainmap.format.map ({ · with gainmap := true })) } })

def getNextFailingInputLocked (s : Stream) : Int :=
  ((s.pendingInputFrames.entries.find? (·.2.error)).map (·.1)).getD (-1)

end CameraService.Heic
