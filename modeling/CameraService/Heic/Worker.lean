import CameraService.Heic.Process

/-! The processing thread, cut where it gives up the lock, and the stream as a state machine
whose steps interleave it with the producer callbacks. -/

namespace CameraService.Heic

inductive WaitResult
  | signaled
  | timedOut
  | failed
  deriving DecidableEq, Repr

/-- One producer callback, or one step of the processing thread with what `lockNextBuffer`,
the collaborators and the wait answer during it. -/
inductive Action
  | bufferRequest (frameNumber streamId : Int) (settings : JpegSettings)
  | shutter (frameNumber requestId timestamp : Int)
  | bufferReleased (info : BufferInfo)
  | frameAvailable (dataSpace : DataSpace) (timestamp : Int)
  | codecOutput (info : CodecOutputBufferInfo) (isGainmap : Bool)
  | codecInput (index : Int) (isGainmap : Bool)
  | formatChanged (format : Option Format) (isGainmap : Bool)
  | codecError
  | streamBufferError (errorStreamId frameNumber : Int)
  | resultAvailable (frameNumber timestamp : Int) (metadata : Nat)
  | resultError (frameNumber : Int)
  | requestError (frameNumber : Int)
  | threadLoop (locks : Locks) (o : Oracle) (wait : WaitResult)

section
variable (c : Config)

def loopBody (o : Oracle) (locks : Locks) (s : Stream) : Stream :=
  match getNextReadyInputLocked (compilePendingInputLocked c o locks s) with
  | (some frameNumber, s) => { s with worker := .selected frameNumber }
  | (none, s) =>
    let failing := getNextFailingInputLocked s
    if 0 ≤ failing then
      let s := (releaseInputFrameLocked failing ((s.pendingInputFrames.find? failing).getD default)
        s).eraseFrame failing
      let s := if s.pendingInputFrames.size = 0 && s.settingsByFrameNumber.size = 0 then
        markTrackerIdle s else s
      { s with worker := .idle }
    else { s with worker := .waiting }

def workerStep (o : Oracle) (locks : Locks) (wait : WaitResult) (s : Stream) : Stream :=
  match s.worker with
  | .idle =>
    if s.errorState then
      { releaseInputFramesLocked o (compilePendingInputLocked c o locks s) with worker := .exited }
    else loopBody c o locks s
  | .waiting =>
    match wait with
    | .signaled => loopBody c o locks s
    | .timedOut => { s with worker := .idle }
    | .failed => { s with worker := .exited }
  | .selected frameNumber =>
    let (res, f, s) :=
      processInputFrame c o frameNumber ((s.pendingInputFrames.find? frameNumber).getD default) s
    { s with pendingInputFrames := s.pendingInputFrames.insert frameNumber f,
             worker := .processed frameNumber res }
  | .processed frameNumber res =>
    let s := if res != .ok then s.markError frameNumber else s
    { releaseInputFramesLocked o s with worker := .idle }
  | .exited => s

def step : Action → Stream → Stream
  | .bufferRequest frameNumber streamId settings, s =>
    onBufferRequestForFrameNumber c frameNumber streamId settings s
  | .shutter frameNumber requestId timestamp, s => onShutter frameNumber requestId timestamp s
  | .bufferReleased info, s => onBufferReleased c info s
  | .frameAvailable dataSpace timestamp, s => onFrameAvailable c dataSpace timestamp s
  | .codecOutput info isGainmap, s => onHeicOutputFrameAvailable info isGainmap s
  | .codecInput index isGainmap, s => onHeicInputFrameAvailable c index isGainmap s
  | .formatChanged format isGainmap, s => onHeicFormatChanged c format isGainmap s
  | .codecError, s => onHeicCodecError s
  | .streamBufferError errorStreamId frameNumber, s => onStreamBufferError c errorStreamId frameNumber s
  | .resultAvailable frameNumber timestamp metadata, s => onResultAvailable frameNumber timestamp metadata s
  | .resultError frameNumber, s => onResultError frameNumber s
  | .requestError frameNumber, s => onRequestError frameNumber s
  | .threadLoop locks o wait, s => workerStep c o locks wait s

def run : List Action → Stream → Stream
  | [], s => s
  | a :: as, s => run as (step c a s)

inductive Reachable : Stream → Prop
  | init (grid gainmapGrid : Grid) : Reachable (Stream.init grid gainmapGrid)
  | step {s : Stream} (a : Action) : Reachable s → Reachable (step c a s)

theorem reachable_run {s : Stream} (h : Reachable c s) (as : List Action) :
    Reachable c (run c as s) := by
  induction as generalizing s with
  | nil => exact h
  | cons a as ih => exact ih (h.step a)

end

def tiledConfig : Config :=
  { mainImageStreamId := 1, appSegmentStreamId := 2, useHeic := false, useGrid := true,
    gainmapUseGrid := false, hdrGainmapEnabled := false, appSegmentSupported := true,
    outputWidth := 512, outputHeight := 512, gainmapOutputWidth := 128, gainmapOutputHeight := 128,
    maxHeicBufferSize := 1000000, jpegAppSegmentsBlobId := 256, cameraBlobSize := 8 }

def surfaceConfig : Config := { tiledConfig with useGrid := false }

def singleTile : Grid := ⟨512, 512, 1, 1⟩

def allOk : Oracle := ⟨fun _ => .ok, [], [], 100⟩

def failingAt (call : Call) : Oracle := ⟨fun x => if x = call then .error (-1) else .ok, [], [], 100⟩

def noLocks : Locks := ⟨[], []⟩

def lockedAt (data : Nat) (timestamp : Int) : LockedBuffer := ⟨data, timestamp, 512, 512, []⟩

end CameraService.Heic
