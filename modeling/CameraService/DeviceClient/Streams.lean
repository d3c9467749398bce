import CameraService.Heic.KeyMap
import CameraService.Shared.SurfaceMap

/-! `CameraDeviceClient`'s stream table and the calls that change it, with what the calls outside
src/ return given as `Answers`; an error's message is its format string. -/

namespace CameraService.DeviceClient

inductive ErrorCode
  | illegalArgument
  | invalidOperation
  | alreadyExists
  | permissionDenied
  | cameraInUse
  deriving DecidableEq, Repr

inductive Status
  | ok
  | error (code : ErrorCode) (message : String)
  deriving DecidableEq, Repr

inductive DeviceStatus
  | ok
  | nameNotFound
  | badValue
  | busy
  | noInit
  | timedOut
  | other
  deriving DecidableEq, Repr

structure StreamSurfaceId where
  streamId : Int
  surfaceId : Int
  deriving DecidableEq, Repr

structure OutputConfiguration where
  isComplete : Bool
  isDeferred : Bool
  surfaces : List Int
  physicalCameraId : String := ""
  dynamicRangeProfile : Int := 1
  deriving DecidableEq, Repr

def addGbp (streamId surfaceId : Int) (r : Shared.SurfaceMap × List Int) :
    Shared.SurfaceMap × List Int :=
  (r.1.modify streamId (· ++ [surfaceId.toNat]),
    if r.1.contains streamId then r.2 else r.2 ++ [streamId])

/-- A composite stream as the client's calls read it: the id its `createStream` returned
(`getStreamId()`), and the streams and surfaces its `insertGbp` adds to a request, in order,
before it gives that id as the request's current stream. Only HEIC's is in src/
(`HeicCompositeStream.toCompositeStream`); the depth and JPEG/R ones are given by what their
`insertGbp` adds. -/
structure CompositeStream where
  streamId : Int
  gbps : List (Int × Int)
  deriving DecidableEq, Repr

def CompositeStream.insertGbp (c : CompositeStream) (r : Shared.SurfaceMap × List Int) :
    Shared.SurfaceMap × List Int :=
  c.gbps.foldl (fun r p => addGbp p.1 p.2 r) r

def CompositeStream.insertCompositeStreamIds (c : CompositeStream) : List Int := c.gbps.map (·.1)

structure HeicCompositeStream where
  appSegmentSupported : Bool
  appSegmentStreamId : Int
  appSegmentSurfaceId : Int
  mainImageStreamId : Int
  mainImageSurfaceId : Int
  deriving DecidableEq, Repr

namespace HeicCompositeStream

variable (h : HeicCompositeStream)

def insertGbp (surfaceMap : Shared.SurfaceMap) (outputStreamIds : List Int) :
    Int × Shared.SurfaceMap × List Int :=
  let r := if h.appSegmentSupported then
      addGbp h.appSegmentStreamId h.appSegmentSurfaceId (surfaceMap, outputStreamIds)
    else (surfaceMap, outputStreamIds)
  (h.mainImageStreamId, addGbp h.mainImageStreamId h.mainImageSurfaceId r)

def toCompositeStream : CompositeStream :=
  ⟨h.mainImageStreamId,
    (if h.appSegmentSupported then [(h.appSegmentStreamId, h.appSegmentSurfaceId)] else []) ++
      [(h.mainImageStreamId, h.mainImageSurfaceId)]⟩

def insertCompositeStreamIds : List Int :=
  (if h.appSegmentSupported then [h.appSegmentStreamId] else []) ++ [h.mainImageStreamId]

theorem insertCompositeStreamIds_eq :
    h.insertCompositeStreamIds = h.toCompositeStream.insertCompositeStreamIds := by
  cases h with
  | mk appSegmentSupported => cases appSegmentSupported <;> rfl

theorem insertGbp_eq (surfaceMap : Shared.SurfaceMap) (outputStreamIds : List Int) :
    h.insertGbp surfaceMap outputStreamIds =
      (h.toCompositeStream.streamId, h.toCompositeStream.insertGbp (surfaceMap, outputStreamIds)) := by
  cases h with
  | mk appSegmentSupported => cases appSegmentSupported <;> rfl

end HeicCompositeStream

structure Streams where
  streamMap : KeyMap StreamSurfaceId := .empty
  configuredOutputs : KeyMap OutputConfiguration := .empty
  deferredStreams : List Int := []
  finalized : KeyMap Bool := .empty
  compositeStreams : KeyMap CompositeStream := .empty
  inputStream : Option Int := none

/-- What the calls outside src/ return during one call. `surfaceKey` is `getSurfaceKey` of a
client's surface (`none` when `getUniqueId` fails) and `configuredSurfaceKey` that of the surface
`createConfiguredSurface` made from it, read again after the device call. `composite` says the
first surface is a depth, HEIC or JPEG/R one, and `compositeGbps` what that composite stream's
`insertGbp` will add to a request. `created` is the stream id and surface ids that
`createStream` gets from the device or the composite stream, or from `getSharedStreamId` and
`addSharedSurfaces` (`none` when one fails). For `switchToOffline`, `supportsOffline` is the
`supportsOffline` of a stream's `mStreamInfoMap` entry, `compositeSurface` says a configured
output's surface is a depth, HEIC or JPEG/R one, `offlineSwitched` answers the device's
`switchToOffline` of the stream ids it is given and `offlineClientAdded` the offline client's
`addOfflineClient` (`OK` when the device gives no session). -/
structure Answers where
  surfaceKey : Int → Option Int := some
  configuredSurfaceKey : Int → Option Int := some
  surfaceType : Status := .ok
  physicalCameraId : Status := .ok
  configuredSurface : Int → Status := fun _ => .ok
  sensorPixelModes : Bool := true
  composite : Bool := false
  compositeGbps : List (Int × Int) := []
  created : Option (Int × List Int) := none
  inputCreated : Option Int := none
  deleted : Bool := true
  compositeDeleted : Bool := true
  updateStream : DeviceStatus × List (Int × Int) := (.ok, [])
  setConsumerSurfaces : DeviceStatus × List Int := (.ok, [])
  supportsOffline : Int → Bool := fun _ => true
  compositeSurface : Int → Bool := fun _ => false
  offlineSwitched : List Int → DeviceStatus := fun _ => .ok
  offlineClientAdded : DeviceStatus := .ok

namespace Streams

variable (a : Answers) (t : Streams)

def hasSurface (streamId : Int) : Bool := t.streamMap.entries.any (·.2.streamId == streamId)

def streamSurfaces (streamId : Int) : List Int :=
  (t.streamMap.entries.filter (·.2.streamId == streamId)).map (·.1)

def compositeKey? (streamId : Int) : Option Int :=
  (t.compositeStreams.entries.find? (·.2.streamId == streamId)).map (·.1)

def addSurfaces (streamId : Int) (m : KeyMap StreamSurfaceId) (surfaces : List (Int × Int)) :
    KeyMap StreamSurfaceId :=
  surfaces.foldl (fun m s => m.insert s.1 ⟨streamId, s.2⟩) m

def collectSurfaces : List Int → Except Status (List Int)
  | [] => .ok []
  | surface :: rest =>
    match a.surfaceKey surface with
    | none => .error (.error .invalidOperation "Could not get the SurfaceKey")
    | some key =>
      if t.streamMap.contains key then
        .error (.error .alreadyExists
          "Camera %s: Surface already has a stream created for it (ID %d)")
      else if a.configuredSurface surface ≠ .ok then .error (a.configuredSurface surface)
      else (key :: ·) <$> collectSurfaces rest

def createDeferredSurfaceStreamLocked (config : OutputConfiguration) : Status × Streams :=
  if !config.isComplete then (.error .illegalArgument "OutputConfiguration isn't valid!", t)
  else if !a.sensorPixelModes then
    (.error .illegalArgument "sensor pixel modes used not valid for deferred stream", t)
  else
    match a.created with
    | none => (.error .invalidOperation
        "Camera %s: Error creating output stream (%d x %d, fmt %x, dataSpace %x): %s (%d)", t)
    | some (streamId, _) =>
      (.ok, { t with
        deferredStreams := t.deferredStreams ++ [streamId]
        finalized := t.finalized.emplace streamId false })

def recordStream (config : OutputConfiguration) (keys : List Int) (streamId : Int)
    (surfaceIds : List Int) : Streams :=
  { t with
    streamMap := addSurfaces streamId t.streamMap (keys.zip surfaceIds)
    configuredOutputs := t.configuredOutputs.insert streamId config
    finalized := t.finalized.insert streamId false }

def createStream (config : OutputConfiguration) (shared : Bool) : Status × Streams :=
  if !config.isComplete then (.error .illegalArgument "OutputConfiguration isn't valid!", t)
  else if a.surfaceType ≠ .ok then (a.surfaceType, t)
  else if a.physicalCameraId ≠ .ok then (a.physicalCameraId, t)
  else if config.isDeferred && config.surfaces.isEmpty then
    createDeferredSurfaceStreamLocked a t config
  else
    match collectSurfaces a t config.surfaces with
    | .error status => (status, t)
    | .ok keys =>
      match a.created with
      | none => (.error .invalidOperation
          "Camera %s: Error creating output stream (%d x %d, fmt %x, dataSpace %x): %s (%d)", t)
      | some (streamId, surfaceIds) =>
        if !shared && a.composite then
          match config.surfaces.head?.bind a.configuredSurfaceKey with
          | none => (.error .invalidOperation "Could not get the SurfaceKey", t)
          | some key =>
            (.ok, recordStream
              { t with compositeStreams := t.compositeStreams.insert key ⟨streamId, a.compositeGbps⟩ }
              config keys streamId surfaceIds)
        else (.ok, recordStream t config keys streamId surfaceIds)

def createInputStream : Status × Streams :=
  match t.inputStream with
  | some _ => (.error .alreadyExists "Camera %s: Already has an input stream configured (ID %d)", t)
  | none =>
    match a.inputCreated with
    | some streamId => (.ok, { t with inputStream := some streamId })
    | none => (.error .invalidOperation "Camera %s: Error creating new input stream: %s (%d)", t)

def removeOutputStream (streamId : Int) : Streams :=
  { t with
    streamMap := (t.streamSurfaces streamId).foldl KeyMap.erase t.streamMap
    configuredOutputs := t.configuredOutputs.erase streamId
    deferredStreams := t.deferredStreams.erase streamId
    compositeStreams := match t.compositeKey? streamId with
      | some key => t.compositeStreams.erase key
      | none => t.compositeStreams }

/-- `deleteStream`: `deleted` answers `mDevice->deleteStream` (`removeSharedSurfaces` in shared
mode), `compositeDeleted` the composite stream's `deleteStream`. -/
def deleteStream (streamId : Int) : Status × Streams :=
  if t.inputStream = some streamId then
    if a.deleted then (.ok, { t with inputStream := none })
    else (.error .invalidOperation "Camera %s: Unexpected error %s (%d) when deleting stream %d", t)
  else if (t.streamSurfaces streamId).isEmpty ∧ streamId ∉ t.deferredStreams then
    (.error .illegalArgument
      "Camera %s: Invalid stream ID (%d) specified, no such stream created yet", t)
  else if !a.deleted then
    (.error .invalidOperation "Camera %s: Unexpected error %s (%d) when deleting stream %d", t)
  else
    match t.compositeKey? streamId with
    | some _ =>
      if a.compositeDeleted then (.ok, t.removeOutputStream streamId)
      else (.error .invalidOperation
        "Camera %s: Unexpected error %s (%d) when deleting composite stream %d",
        t.removeOutputStream streamId)
    | none => (.ok, t.removeOutputStream streamId)

def attachSurfaces (streamId : Int) :
    KeyMap StreamSurfaceId → List (Int × Int) → Bool × KeyMap StreamSurfaceId
  | m, [] => (true, m)
  | m, (surface, surfaceId) :: rest =>
    match a.configuredSurfaceKey surface with
    | none => (false, m)
    | some key => attachSurfaces streamId (m.insert key ⟨streamId, surfaceId⟩) rest

def newOutputsMap : KeyMap Int → List Int → Option (KeyMap Int)
  | m, [] => some m
  | m, surface :: rest =>
    (a.surfaceKey surface).bind fun key => newOutputsMap (m.insert key surface) rest

def splitOutputs (streamId : Int) :
    KeyMap Int → List (Int × StreamSurfaceId) → Option (List Int × KeyMap Int)
  | newOutputs, [] => some ([], newOutputs)
  | newOutputs, (key, s) :: rest =>
    if !newOutputs.contains key then
      (splitOutputs streamId newOutputs rest).map fun r =>
        (if s.streamId = streamId then key :: r.1 else r.1, r.2)
    else if s.streamId ≠ streamId then none
    else splitOutputs streamId (newOutputs.erase key) rest

/-- `updateOutputConfiguration`. `updateStream` answers with the surface id of each new surface
it attached. -/
def updateOutputConfiguration (streamId : Int) (config : OutputConfiguration) :
    Status × Streams :=
  if !config.isComplete then (.error .illegalArgument "OutputConfiguration isn't valid!", t)
  else
    match config.surfaces with
    | [] => (.error .illegalArgument "surfaces must not be empty", t)
    | first :: _ =>
      match a.surfaceKey first with
      | none => (.error .invalidOperation "Could not get the SurfaceKey", t)
      | some key =>
        match t.streamMap.find? key with
        | none => (.error .illegalArgument "OutputConfiguration is invalid", t)
        | some s =>
          if s.streamId ≠ streamId then (.error .illegalArgument "Stream id is invalid", t)
          else
            match newOutputsMap a .empty config.surfaces with
            | none => (.error .invalidOperation "Could not get the SurfaceKey", t)
            | some newOutputs =>
              match splitOutputs streamId newOutputs t.streamMap.entries with
              | none => (.error .illegalArgument "Target Surface is invalid", t)
              | some (removed, newOutputs) =>
                match newOutputs.entries.find? (a.configuredSurface ·.2 ≠ .ok) with
                | some (_, surface) => (a.configuredSurface surface, t)
                | none =>
                  if removed.isEmpty ∧ newOutputs.entries.isEmpty then (.ok, t)
                  else
                    match a.updateStream with
                    | (.ok, outputMap) =>
                      match attachSurfaces a streamId (removed.foldl KeyMap.erase t.streamMap)
                          outputMap with
                      | (false, m) => (.error .invalidOperation "Could not get the SurfaceKey",
                          { t with streamMap := m })
                      | (true, m) => (.ok, { t with
                          streamMap := m
                          configuredOutputs := t.configuredOutputs.insert streamId config })
                    | (.nameNotFound, _) | (.badValue, _) | (.busy, _) =>
                      (.error .illegalArgument "Camera %s: Error updating stream: %s (%d)", t)
                    | _ => (.error .invalidOperation "Camera %s: Error updating stream: %s (%d)", t)

def consumerSurfaces : List Int → Except Status (List Int)
  | [] => .ok []
  | surface :: rest =>
    match a.surfaceKey surface with
    | none => .error (.error .invalidOperation "Could not get the SurfaceKey")
    | some key =>
      if t.streamMap.contains key then consumerSurfaces rest
      else if a.configuredSurface surface ≠ .ok then .error (a.configuredSurface surface)
      else (surface :: ·) <$> consumerSurfaces rest

/-- `finalizeOutputConfigurations`, once `mStreamInfoMap[streamId]` has found or added the
stream's entry: the surface loop, then `setConsumerSurfaces`, which answers with the surface id
of each new surface. -/
def finalizeSurfaces (streamId : Int) (config : OutputConfiguration) : Status × Streams :=
  match consumerSurfaces a t config.surfaces with
  | .error status => (status, t)
  | .ok [] => (.ok, { t with finalized := t.finalized.insert streamId true })
  | .ok consumers =>
    match a.setConsumerSurfaces with
    | (.ok, consumerSurfaceIds) =>
      match attachSurfaces a streamId t.streamMap (consumers.zip consumerSurfaceIds) with
      | (false, m) => (.error .invalidOperation "Could not get the SurfaceKey",
          { t with streamMap := m })
      | (true, m) => (.ok, { t with
          streamMap := m
          deferredStreams := t.deferredStreams.erase streamId
          finalized := t.finalized.insert streamId true
          configuredOutputs := t.configuredOutputs.insert streamId config })
    | (.noInit, _) =>
      (.error .illegalArgument "Camera %s: Deferred surface is invalid: %s (%d)", t)
    | _ => (.error .invalidOperation
        "Camera %s: Error setting output stream deferred surface: %s (%d)", t)

def finalizeOutputConfigurations (streamId : Int) (config : OutputConfiguration) :
    Status × Streams :=
  if !config.isComplete then (.error .illegalArgument "OutputConfiguration isn't valid!", t)
  else if config.surfaces.isEmpty then (.error .illegalArgument "Target Surface is invalid", t)
  else if streamId ∉ t.deferredStreams ∧ !t.hasSurface streamId then
    (.error .illegalArgument "Camera %s: deferred surface is set to a unknown stream(ID %d)", t)
  else if t.finalized.find? streamId = some true then
    (.error .illegalArgument
      "Camera %s: finalizeOutputConfigurations has been called on stream ID %d", t)
  else
    finalizeSurfaces a { t with finalized := t.finalized.emplace streamId false } streamId config

def offlineStreamIds : List Int → Except Status (List Int)
  | [] => .ok []
  | streamId :: rest =>
    match t.configuredOutputs.find? streamId with
    | none => .error (.error .illegalArgument "Offline surface with id: %d is not registered")
    | some config =>
      if !a.supportsOffline streamId then
        .error (.error .illegalArgument "Offline surface with id: %d doesn't support offline mode")
      else
        match config.surfaces.find? a.compositeSurface with
        | none => (streamId :: ·) <$> offlineStreamIds rest
        | some surface =>
          match a.surfaceKey surface with
          | none => .error (.error .invalidOperation "Could not get the SurfaceKey")
          | some key =>
            match t.compositeStreams.find? key with
            | none => .error (.error .illegalArgument "Unknown composite stream")
            | some c => (c.insertCompositeStreamIds ++ ·) <$> offlineStreamIds rest

def switchToOffline (offlineOutputIds : List Int) : Status × Streams :=
  if offlineOutputIds.isEmpty then
    (.error .illegalArgument "Offline surfaces must not be empty", t)
  else
    match t.offlineStreamIds a offlineOutputIds with
    | .error status => (status, t)
    | .ok offlineIds =>
      if a.offlineSwitched offlineIds ≠ .ok then
        (.error .illegalArgument "Camera %s: Error switching to offline mode: %s (%d)", t)
      else
        match a.offlineClientAdded with
        | .ok => (.ok, {})
        | .badValue =>
          (.error .illegalArgument "Illegal argument to HAL module for camera \"%s\"", t)
        | .timedOut => (.error .cameraInUse "Camera \"%s\" is already open", t)
        | _ => (.error .invalidOperation "Failed to initialize camera \"%s\": %s (%d)", t)

def insertSurfaceLocked (surfaceKey : Option Int) (surfaceMap : Shared.SurfaceMap)
    (outputStreamIds : List Int) : Except Status (Int × Shared.SurfaceMap × List Int) :=
  match surfaceKey with
  | none => .error (.error .invalidOperation "Could not get the SurfaceKey")
  | some key =>
    match t.streamMap.find? key with
    | none => .error (.error .illegalArgument
        "Request targets Surface that is not part of current capture session")
    | some s =>
      match t.compositeStreams.find? key with
      | some c => .ok (c.streamId, c.insertGbp (surfaceMap, outputStreamIds))
      | none => .ok (s.streamId, addGbp s.streamId s.surfaceId (surfaceMap, outputStreamIds))

end Streams

end CameraService.DeviceClient
