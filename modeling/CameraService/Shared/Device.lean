import CameraService.Shared.SurfaceMap

/-! `AidlCamera3SharedDevice`'s one repeating request, merged from and split into its clients'
surfaces; the `Camera3Device` calls are given with each call. -/

namespace CameraService.Shared

inductive Status
  | ok
  | invalidOperation
  | error
  deriving DecidableEq, Repr

def requestIdNone : Int := -1

/-- `Camera3Device`'s ongoing repeating request, outside src/, as the id
its settings carry and the surfaces it targets. `setStreamingRequestList` sets it,
`updateOngoingRepeatingRequestLocked` replaces its surfaces, and `clearStreamingRequest`
clears it. -/
structure RepeatingRequest where
  requestId : Int
  outputSurfaces : SurfaceMap
  deriving DecidableEq

structure SharedDevice where
  streamingRequestId : Int := requestIdNone
  requestIdCounter : Int := 0
  clientRequestIds : KeyMap Int := .empty
  clientSurfaces : KeyMap SurfaceMap := .empty
  repeating : Option RepeatingRequest := none
  deriving DecidableEq

namespace SharedDevice

/-- `setSharedStreamingRequest`, as the primary client calls it, with its own request id in the
settings' `ANDROID_REQUEST_ID`. `accepted` is whether `setStreamingRequestList` returns `OK`;
the second component is what is written to `*sharedReqID`. -/
def setSharedStreamingRequest (pid clientRequestId : Int) (surfaceMap : SurfaceMap)
    (accepted : Bool) (d : SharedDevice) : Status × Option Int × SharedDevice :=
  let requestID := d.requestIdCounter
  let newSurfaceMap :=
    match d.repeating with
    | some curRequest => mergeSurfaceMaps surfaceMap curRequest.outputSurfaces
    | none => surfaceMap
  let d := { d with requestIdCounter := d.requestIdCounter + 1 }
  if !accepted then (.error, none, d)
  else
    (.ok, some requestID,
      { d with
        repeating := some ⟨requestID, newSurfaceMap⟩
        streamingRequestId := requestID
        clientRequestIds := d.clientRequestIds.insert pid clientRequestId
        clientSurfaces := d.clientSurfaces.insert pid surfaceMap })

/-- `clearSharedStreamingRequest`; `accepted` is whether the `Camera3Device` call it ends with
returns `OK`: `clearStreamingRequest` once no surface is left, else
`updateOngoingRepeatingRequestLocked`, whose failure leaves the repeating request as it was. -/
def clearSharedStreamingRequest (pid : Int) (accepted : Bool) (d : SharedDevice) :
    Status × SharedDevice :=
  match d.repeating with
  | none => (.invalidOperation, d)
  | some curRequest =>
    let newSurfaceMap := removeClientSurfaceMap curRequest.outputSurfaces
      ((d.clientSurfaces.find? pid).getD .empty)
    let d := { d with
      clientRequestIds := d.clientRequestIds.erase pid
      clientSurfaces := d.clientSurfaces.erase pid }
    if !accepted then (.error, d)
    else if newSurfaceMap.entries.isEmpty then (.ok, { d with repeating := none })
    else (.ok, { d with repeating := some { curRequest with outputSurfaces := newSurfaceMap } })

/-- `setSharedCaptureRequest`; `accepted` is whether `captureList` returns `OK`. -/
def setSharedCaptureRequest (accepted : Bool) (d : SharedDevice) :
    Status × Option Int × SharedDevice :=
  let newReqID := d.requestIdCounter
  let d := { d with requestIdCounter := d.requestIdCounter + 1 }
  if !accepted then (.error, none, d) else (.ok, some newReqID, d)

/-- `startStreaming`; `created` is whether `createDefaultRequest` returns `OK`, `accepted`
whether `setStreamingRequestList` does. -/
def startStreaming (pid reqId : Int) (surfaceMap : SurfaceMap) (created accepted : Bool)
    (d : SharedDevice) : Status × Option Int × SharedDevice :=
  let attach (d : SharedDevice) : Status × Option Int × SharedDevice :=
    (.ok, some d.streamingRequestId,
      { d with
        clientRequestIds := d.clientRequestIds.insert pid reqId
        clientSurfaces := d.clientSurfaces.insert pid surfaceMap })
  match d.repeating with
  | some curRequest =>
    attach { d with repeating := some { curRequest with
      outputSurfaces := mergeSurfaceMaps surfaceMap curRequest.outputSurfaces } }
  | none =>
    if !created then (.error, none, d)
    else
      let requestID := d.requestIdCounter
      let d := { d with requestIdCounter := d.requestIdCounter + 1 }
      if !accepted then (.error, none, d)
      else attach { d with repeating := some ⟨requestID, surfaceMap⟩, streamingRequestId := requestID }

end SharedDevice

/-- A call into the shared device from client `pid`, with what `Camera3Device` answers. -/
inductive Call
  | setSharedStreamingRequest (pid clientRequestId : Int) (surfaceMap : SurfaceMap) (accepted : Bool)
  | startStreaming (pid reqId : Int) (surfaceMap : SurfaceMap) (created accepted : Bool)
  | clearSharedStreamingRequest (pid : Int) (accepted : Bool)
  | setSharedCaptureRequest (accepted : Bool)

def Call.apply : Call → SharedDevice → SharedDevice
  | .setSharedStreamingRequest pid clientRequestId surfaceMap accepted, d =>
    (d.setSharedStreamingRequest pid clientRequestId surfaceMap accepted).2.2
  | .startStreaming pid reqId surfaceMap created accepted, d =>
    (d.startStreaming pid reqId surfaceMap created accepted).2.2
  | .clearSharedStreamingRequest pid accepted, d => (d.clearSharedStreamingRequest pid accepted).2
  | .setSharedCaptureRequest accepted, d => (d.setSharedCaptureRequest accepted).2.2

def runCalls (calls : List Call) (d : SharedDevice) : SharedDevice :=
  calls.foldl (fun d c => c.apply d) d

def SharedDevice.clientsTarget (d : SharedDevice) (streamId : Int) (surfaceId : Nat) : Bool :=
  d.clientSurfaces.entries.any fun p => targets p.2 streamId surfaceId

theorem SharedDevice.setSharedStreamingRequest_targets {d : SharedDevice} {curRequest : RepeatingRequest}
    (hcur : d.repeating = some curRequest) (pid clientRequestId : Int) (surfaceMap : SurfaceMap)
    (k : Int) (x : Nat) :
    ∃ r, (d.setSharedStreamingRequest pid clientRequestId surfaceMap true).2.2.repeating = some r ∧
      targets r.outputSurfaces k x = (targets surfaceMap k x || targets curRequest.outputSurfaces k x) ∧
      (d.setSharedStreamingRequest pid clientRequestId surfaceMap true).2.2.clientSurfaces.find? pid =
        some surfaceMap := by
  refine ⟨_, rfl, ?_, by simp [setSharedStreamingRequest]⟩
  simp only [hcur, targets_mergeSurfaceMaps]

def resubmitRun : List Call :=
  [.setSharedStreamingRequest 1 0 (.single 0 [0]) true,
   .setSharedStreamingRequest 1 1 (.single 0 [1]) true]

theorem resubmit_keeps_stale_surface :
    (∃ r, (runCalls resubmitRun {}).repeating = some r ∧ targets r.outputSurfaces 0 0 = true) ∧
      (runCalls resubmitRun {}).clientsTarget 0 0 = false ∧
      (runCalls (resubmitRun ++ [.clearSharedStreamingRequest 1 true]) {}).clientSurfaces.entries =
        [] ∧
      ∃ r, (runCalls (resubmitRun ++ [.clearSharedStreamingRequest 1 true]) {}).repeating = some r ∧
        targets r.outputSurfaces 0 0 = true := by
  refine ⟨⟨_, rfl, by decide⟩, by decide, by decide, ⟨_, rfl, by decide⟩⟩

end CameraService.Shared
