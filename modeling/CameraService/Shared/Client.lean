import CameraService.Shared.Device

/-! `CameraDeviceClient` in shared mode: its own request ids against the shared ids the device
hands out, and the results it keeps. -/

namespace CameraService.Shared

inductive Callback
  | resultReceived (requestId frameNumber : Int)
  | captureStarted (requestId frameNumber : Int)
  | deviceError (errorCode requestId : Int)
  deriving DecidableEq, Repr

/-- `hardware::camera2::ICameraDeviceUser::NO_IN_FLIGHT_REPEATING_FRAMES`,
declared outside src/. -/
def noInFlightRepeatingFrames : Int := -1

/-- The fields of `CameraDeviceClient` that shared mode uses, with their values after the
constructor. `mSharedStreamingRequest` is declared outside src/; it starts, as `onResultAvailable`
leaves it, at `REQUEST_ID_NONE` twice. `callbacks` is not in the code: what the remote callback
has received. -/
structure Client where
  isPrimaryClient : Bool
  streamingRequestId : Int := requestIdNone
  streamingRequestLastFrameNumber : Int := noInFlightRepeatingFrames
  requestIdCounter : Int := 0
  sharedStreamingRequest : Int × Int := (requestIdNone, requestIdNone)
  sharedRequestMap : KeyMap Int := .empty
  callbacks : List Callback := []
  deriving DecidableEq

inductive BinderStatus
  | ok
  | invalidOperation
  | illegalArgument
  deriving DecidableEq, Repr

namespace Client

def deliver (c : Client) (cb : Callback) : Client := { c with callbacks := c.callbacks ++ [cb] }

def matchSharedStreamingRequest (c : Client) (reqId : Int) : Bool :=
  reqId == c.sharedStreamingRequest.1

def matchSharedCaptureRequest (c : Client) (reqId : Int) : Bool :=
  c.isPrimaryClient && c.sharedRequestMap.contains reqId

/-- `submitRequestList` of one request. `accepted` is whether the device call returns `OK`;
`uninitialized` is the value of the local `sharedReqID` when the device does not write it. -/
def submitRequestList (pid : Int) (streaming : Bool) (surfaceMap : SurfaceMap) (accepted : Bool)
    (uninitialized : Int) (c : Client) (d : SharedDevice) : BinderStatus × Client × SharedDevice :=
  if !c.isPrimaryClient then (.invalidOperation, c, d)
  else
    let requestId := c.requestIdCounter
    let c := { c with requestIdCounter := c.requestIdCounter + 1 }
    if streaming then
      let (err, sharedReqID, d) := d.setSharedStreamingRequest pid requestId surfaceMap accepted
      if err != .ok then (.invalidOperation, c, d)
      else
        (.ok, { c with
          streamingRequestId := requestId
          sharedStreamingRequest := (sharedReqID.getD uninitialized, requestId) }, d)
    else
      let (err, sharedReqID, d) := d.setSharedCaptureRequest accepted
      let c := { c with
        sharedRequestMap := c.sharedRequestMap.insert (sharedReqID.getD uninitialized) requestId }
      (if err != .ok then .invalidOperation else .ok, c, d)

def startStreaming (pid : Int) (surfaceMap : SurfaceMap) (created accepted : Bool)
    (uninitialized : Int) (c : Client) (d : SharedDevice) : BinderStatus × Client × SharedDevice :=
  let requestId := c.requestIdCounter
  let c := { c with requestIdCounter := c.requestIdCounter + 1 }
  let (err, sharedReqID, d) := d.startStreaming pid requestId surfaceMap created accepted
  if err != .ok then (.invalidOperation, c, d)
  else
    (.ok, { c with
      streamingRequestId := requestId
      sharedStreamingRequest := (sharedReqID.getD uninitialized, requestId) }, d)

def cancelRequest (pid requestId : Int) (accepted : Bool) (lastFrameNumber : Int) (c : Client)
    (d : SharedDevice) : BinderStatus × Client × SharedDevice :=
  if c.streamingRequestId != requestId then (.illegalArgument, c, d)
  else
    let (err, d) := d.clearSharedStreamingRequest pid accepted
    if err = .ok then
      (.ok, { c with
        streamingRequestId := requestIdNone
        streamingRequestLastFrameNumber := lastFrameNumber }, d)
    else (.invalidOperation, c, d)

def onResultAvailable (requestId frameNumber : Int) (c : Client) : Client :=
  if c.matchSharedStreamingRequest requestId then
    let clientReqId := c.sharedStreamingRequest.2
    let c :=
      if c.streamingRequestId = requestIdNone ∧ frameNumber ≥ c.streamingRequestLastFrameNumber then
        { c with sharedStreamingRequest := (requestIdNone, requestIdNone) }
      else c
    c.deliver (.resultReceived clientReqId frameNumber)
  else if c.matchSharedCaptureRequest requestId then
    let clientReqId := (c.sharedRequestMap.find? requestId).getD 0
    { c with sharedRequestMap := c.sharedRequestMap.erase requestId }.deliver
      (.resultReceived clientReqId frameNumber)
  else c

def notifyShutter (requestId frameNumber : Int) (c : Client) : Client :=
  if c.matchSharedStreamingRequest requestId then
    c.deliver (.captureStarted c.sharedStreamingRequest.2 frameNumber)
  else if c.matchSharedCaptureRequest requestId then
    c.deliver (.captureStarted ((c.sharedRequestMap.find? requestId).getD 0) frameNumber)
  else c

def notifyError (errorCode requestId : Int) (c : Client) : Client :=
  if requestId = -1 then c.deliver (.deviceError errorCode requestId)
  else if c.matchSharedStreamingRequest requestId then
    c.deliver (.deviceError errorCode c.sharedStreamingRequest.2)
  else if c.matchSharedCaptureRequest requestId then
    { c with sharedRequestMap := c.sharedRequestMap.erase requestId }.deliver
      (.deviceError errorCode ((c.sharedRequestMap.find? requestId).getD 0))
  else c

end Client

structure System where
  device : SharedDevice
  clients : KeyMap Client

inductive Action
  | submitRequestList (pid : Int) (streaming : Bool) (surfaceMap : SurfaceMap) (accepted : Bool)
      (uninitialized : Int)
  | startStreaming (pid : Int) (surfaceMap : SurfaceMap) (created accepted : Bool)
      (uninitialized : Int)
  | cancelRequest (pid requestId : Int) (accepted : Bool) (lastFrameNumber : Int)
  | resultAvailable (requestId frameNumber : Int)
  | shutter (requestId frameNumber : Int)
  | error (errorCode requestId : Int)

namespace System

def callBy (pid : Int) (f : Client → SharedDevice → BinderStatus × Client × SharedDevice)
    (s : System) : System :=
  match s.clients.find? pid with
  | some c =>
    let (_, c, device) := f c s.device
    { device, clients := s.clients.insert pid c }
  | none => s

def broadcast (f : Client → Client) (s : System) : System := { s with clients := s.clients.map f }

def step : Action → System → System
  | .submitRequestList pid streaming surfaceMap accepted uninitialized, s =>
    s.callBy pid (Client.submitRequestList pid streaming surfaceMap accepted uninitialized)
  | .startStreaming pid surfaceMap created accepted uninitialized, s =>
    s.callBy pid (Client.startStreaming pid surfaceMap created accepted uninitialized)
  | .cancelRequest pid requestId accepted lastFrameNumber, s =>
    s.callBy pid (Client.cancelRequest pid requestId accepted lastFrameNumber)
  | .resultAvailable requestId frameNumber, s =>
    s.broadcast (Client.onResultAvailable requestId frameNumber)
  | .shutter requestId frameNumber, s => s.broadcast (Client.notifyShutter requestId frameNumber)
  | .error errorCode requestId, s => s.broadcast (Client.notifyError errorCode requestId)

def run (as : List Action) (s : System) : System := as.foldl (fun s a => step a s) s

def twoClients : System :=
  { device := {},
    clients := ⟨[(1, { isPrimaryClient := true }), (2, { isPrimaryClient := false })],
      by decide⟩ }

end System

theorem Client.onResultAvailable_erases_capture (c : Client) {requestId : Int}
    (hs : c.matchSharedStreamingRequest requestId = false)
    (hc : c.matchSharedCaptureRequest requestId = true) (frameNumber frameNumber' : Int) :
    (c.onResultAvailable requestId frameNumber).onResultAvailable requestId frameNumber' =
      c.onResultAvailable requestId frameNumber := by
  have h1 : c.onResultAvailable requestId frameNumber =
      { c with sharedRequestMap := c.sharedRequestMap.erase requestId }.deliver
        (.resultReceived ((c.sharedRequestMap.find? requestId).getD 0) frameNumber) := by
    simp only [onResultAvailable, hs, hc, Bool.false_eq_true, ↓reduceIte]
  rw [h1, onResultAvailable, if_neg, if_neg]
  · simp [matchSharedCaptureRequest, deliver, KeyMap.contains]
  · exact ne_true_of_eq_false hs

def primaryResubmitRun : List Action :=
  [.startStreaming 2 (.single 0 [0]) true true 0,
   .submitRequestList 1 true (.single 1 [0]) true 0,
   .resultAvailable 1 100]

theorem secondary_client_loses_repeating_request :
    ((System.run (primaryResubmitRun.take 2) System.twoClients).device.clientRequestIds.contains
        2 = true) ∧
      ((System.run (primaryResubmitRun.take 2) System.twoClients).device.repeating.map
        (·.requestId) = some 1) ∧
      (((System.run (primaryResubmitRun.take 2) System.twoClients).clients.find? 2).map
        (·.sharedStreamingRequest.1) = some 0) ∧
      (((System.run primaryResubmitRun System.twoClients).clients.find? 2).map (·.callbacks) =
        some []) ∧
      (((System.run primaryResubmitRun System.twoClients).clients.find? 1).map (·.callbacks) =
        some [.resultReceived 0 100]) := by
  decide

def captureRoutingRun : List Action :=
  [.submitRequestList 1 false (.single 0 [0]) true 7,
   .resultAvailable 0 100, .resultAvailable 0 100,
   .submitRequestList 1 false (.single 0 [0]) false 7]

theorem capture_final_result_dropped :
    (((System.run (captureRoutingRun.take 2) System.twoClients).clients.find? 1).map
        (·.sharedRequestMap.entries) = some []) ∧
      (((System.run (captureRoutingRun.take 3) System.twoClients).clients.find? 1).map
        (·.callbacks) = some [.resultReceived 0 100]) ∧
      (((System.run captureRoutingRun System.twoClients).clients.find? 1).map
        (·.sharedRequestMap.entries) = some [(7, 1)]) := by
  decide

end CameraService.Shared
