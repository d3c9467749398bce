import CameraService.DeviceClient.Configured
import CameraService.DeviceClient.DynamicRange
import Mathlib.Data.List.Nodup

/-! The checks `submitRequestList` makes of each request, and the surface map and output stream
ids they build: each listed once, and each a stream of the client. -/

namespace CameraService.DeviceClient

structure PhysicalCameraSettings where
  id : String
  settingsEmpty : Bool := false
  sensorPixelModeConsistent : Bool := true
  deriving DecidableEq, Repr

/-- The parts of a `CaptureRequest` the checks read. A target surface is an object, numbered, or
`none` for a null one; `streamAndSurfaceIdx` pairs `mStreamIdxList` with `mSurfaceIdxList`.
`restrictedControlsPermitted` is what `enforceRequestPermissions` answers for its settings. -/
structure CaptureRequest where
  isReprocess : Bool := false
  physicalCameraSettings : List PhysicalCameraSettings
  surfaceList : List (Option Int) := []
  streamAndSurfaceIdx : List (Int × Int) := []
  restrictedControlsPermitted : Bool := true
  deriving DecidableEq, Repr

structure RequestContext where
  deviceId : String
  originalCameraId : String
  dynamicProfileMap : KeyMap Int

structure Targets where
  surfaceMap : Shared.SurfaceMap := .empty
  outputStreamIds : List Int := []
  requestedPhysicalIds : List String := []
  dynamicProfileBitmap : Int := 0

def Targets.addOutput (config : OutputConfiguration) (x : Targets) : Targets :=
  { x with
    requestedPhysicalIds := x.requestedPhysicalIds ++ [config.physicalCameraId]
    dynamicProfileBitmap := Int.lor x.dynamicProfileBitmap config.dynamicRangeProfile }

def surfaceAt (surfaces : List Int) (surfaceIdx : Int) : Option Int :=
  if surfaceIdx < 0 then none else surfaces[surfaceIdx.toNat]?

/-- The profiles the dynamic range check visits: `STANDARD`, doubled while below
`ANDROID_REQUEST_AVAILABLE_DYNAMIC_RANGE_PROFILES_MAP_MAX`, `0x1000` outside src/. -/
def profileBits : List Int := (List.range 12).map (2 ^ ·)

def checkDynamicProfiles (dynamicProfileMap : KeyMap Int) (bitmap : Int) : Except Status Unit :=
  if bitmap ≠ profileStandard then
    profileBits.forM fun i =>
      if Int.land bitmap i = 0 then .ok ()
      else
        match dynamicProfileMap.find? i with
        | some compatible =>
          if compatible = 0 ∨ Int.land compatible bitmap = bitmap then .ok ()
          else .error (.error .illegalArgument
            "Request targets an unsupported dynamic range profile combination")
        | none => .error (.error .illegalArgument
            "Request targets 10-bit Surface with unsupported dynamic range profile")
  else .ok ()

def checkPhysicalSettings (ctx : RequestContext) (requestedPhysicalIds : List String) :
    List PhysicalCameraSettings → Except Status Unit
  | [] => .ok ()
  | s :: rest =>
    let resolvedId := if ctx.originalCameraId = s.id then ctx.deviceId else s.id
    if s.settingsEmpty then .error (.error .illegalArgument "Request settings are empty")
    else if !s.sensorPixelModeConsistent then .error (.error .illegalArgument
      "Request settings CONTROL_SENSOR_PIXEL_MODE are not consistent with streams configured")
    else if resolvedId ≠ ctx.deviceId ∧ resolvedId ∉ requestedPhysicalIds then
      .error (.error .illegalArgument "Invalid physical camera id")
    else checkPhysicalSettings ctx requestedPhysicalIds rest

namespace Streams

variable (t : Streams) (surfaceKey : Int → Option Int)

def insertTarget (surface : Int) (x : Targets) : Except Status (Int × Targets) :=
  (t.insertSurfaceLocked (surfaceKey surface) x.surfaceMap x.outputStreamIds).map
    fun r => (r.1, { x with surfaceMap := r.2.1, outputStreamIds := r.2.2 })

def insertSurfaceList : List (Option Int) → Targets → Except Status Targets
  | [], x => .ok x
  | none :: rest, x => insertSurfaceList rest x
  | some surface :: rest, x =>
    match t.insertTarget surfaceKey surface x with
    | .error status => .error status
    | .ok (streamId, x) =>
      insertSurfaceList rest (match t.configuredOutputs.find? streamId with
        | some config => x.addOutput config
        | none => x)

def insertStreamIdxList : List (Int × Int) → Targets → Except Status Targets
  | [], x => .ok x
  | (streamId, surfaceIdx) :: rest, x =>
    match t.configuredOutputs.find? streamId with
    | none => .error (.error .illegalArgument
        "Request targets Surface that is not part of current capture session")
    | some config =>
      match surfaceAt config.surfaces surfaceIdx with
      | none => .error (.error .illegalArgument "Request targets Surface has invalid surface index")
      | some surface =>
        match t.insertTarget surfaceKey surface x with
        | .error status => .error status
        | .ok (_, x) => insertStreamIdxList rest (x.addOutput config)

def insertTargets (request : CaptureRequest) : Except Status Targets :=
  if !request.surfaceList.isEmpty then t.insertSurfaceList surfaceKey request.surfaceList {}
  else t.insertStreamIdxList surfaceKey request.streamAndSurfaceIdx {}

def checkRequest (ctx : RequestContext) (streaming : Bool) (request : CaptureRequest) :
    Except Status Targets :=
  if request.isReprocess ∧ t.inputStream.isNone then .error (.error .illegalArgument
    "No input configured for camera %s but request is for reprocessing")
  else if request.isReprocess ∧ streaming then
    .error (.error .illegalArgument "Repeating reprocess requests not supported")
  else if request.isReprocess ∧ request.physicalCameraSettings.length > 1 then
    .error (.error .illegalArgument "Reprocess requests not supported for multiple cameras")
  else
    match request.physicalCameraSettings with
    | [] => .error (.error .illegalArgument "Request doesn't contain any settings")
    | logical :: _ =>
      if ctx.deviceId ≠ logical.id ∧ ctx.originalCameraId ≠ logical.id then
        .error (.error .illegalArgument "Invalid camera request settings")
      else if request.surfaceList.isEmpty ∧ request.streamAndSurfaceIdx.isEmpty then
        .error (.error .illegalArgument "Request has no output targets")
      else
        match t.insertTargets surfaceKey request with
        | .error status => .error status
        | .ok x =>
          match checkDynamicProfiles ctx.dynamicProfileMap x.dynamicProfileBitmap with
          | .error status => .error status
          | .ok () =>
            match checkPhysicalSettings ctx x.requestedPhysicalIds request.physicalCameraSettings with
            | .error status => .error status
            | .ok () =>
              if !request.restrictedControlsPermitted then .error (.error .permissionDenied
                "Caller does not have permission to change restricted controls")
              else .ok x

def checkRequestList (ctx : RequestContext) (sharedSecondary streaming : Bool)
    (requests : List CaptureRequest) : Except Status (List Targets) :=
  if requests.isEmpty then .error (.error .illegalArgument "Empty request list")
  else if sharedSecondary then .error (.error .invalidOperation "Invalid Operation.")
  else requests.mapM (t.checkRequest surfaceKey ctx streaming)

end Streams

namespace Streams

def OwnsStream (t : Streams) (streamId : Int) : Prop :=
  t.configuredOutputs.contains streamId ∨
    ∃ key c, t.compositeStreams.find? key = some c ∧ streamId ∈ c.gbps.map (·.1)

structure Listed (t : Streams) (r : Shared.SurfaceMap × List Int) : Prop where
  nodup : r.2.Nodup
  listed : ∀ streamId, r.1.contains streamId ↔ streamId ∈ r.2
  owned : ∀ streamId ∈ r.2, t.OwnsStream streamId

theorem Listed.empty (t : Streams) : t.Listed (.empty, []) where
  nodup := List.nodup_nil
  listed _ := by simp [KeyMap.contains]
  owned _ h := nomatch h

end Streams

def Targets.Valid (t : Streams) (x : Targets) : Prop := t.Listed (x.surfaceMap, x.outputStreamIds)

theorem Targets.valid_empty (t : Streams) : ({} : Targets).Valid t := Streams.Listed.empty t

theorem Targets.Valid.addOutput {t : Streams} {x : Targets} (h : x.Valid t)
    (config : OutputConfiguration) : (x.addOutput config).Valid t := h

namespace Streams

variable {t : Streams} {surfaceKey : Int → Option Int} {x y : Targets}
  {r : Shared.SurfaceMap × List Int} {streamId : Int}

theorem Listed.addGbp (h : t.Listed r) (hs : t.OwnsStream streamId) (surfaceId : Int) :
    t.Listed (addGbp streamId surfaceId r) := by
  obtain ⟨m, ids⟩ := r
  by_cases hc : m.contains streamId
  · have hmem : streamId ∈ ids := (h.listed streamId).1 hc
    refine ⟨by simpa [addGbp, hc] using h.nodup, fun j => ?_, by simpa [addGbp, hc] using h.owned⟩
    by_cases hj : j = streamId
    · subst hj; simp [addGbp, hc, hmem]
    · simp [addGbp, hc, hj, h.listed j]
  · have hnot : streamId ∉ ids := fun hm => hc ((h.listed streamId).2 hm)
    refine ⟨?_, fun j => ?_, fun j hj => ?_⟩
    · simpa [addGbp, hc] using List.nodup_append.2
        ⟨h.nodup, List.nodup_singleton streamId, List.disjoint_singleton.2 hnot⟩
    · by_cases hj : j = streamId
      · subst hj; simp [addGbp, hc]
      · simp [addGbp, hc, hj, h.listed j]
    · simp only [addGbp, hc, Bool.false_eq_true, if_false, List.mem_append,
        List.mem_singleton] at hj
      exact hj.elim (h.owned j) (· ▸ hs)

theorem Listed.foldl_addGbp {l : List (Int × Int)} (h : t.Listed r)
    (hs : ∀ p ∈ l, t.OwnsStream p.1) :
    t.Listed (l.foldl (fun r p => DeviceClient.addGbp p.1 p.2 r) r) := by
  induction l generalizing r with
  | nil => exact h
  | cons p rest ih =>
    exact ih (h.addGbp (hs p (List.mem_cons_self _ _)) _) fun q hq =>
      hs q (List.mem_cons_of_mem _ hq)

theorem Inv.listed_insertSurfaceLocked (hinv : Inv t) {surfaceKey : Option Int}
    {m : Shared.SurfaceMap} {ids : List Int} (h : t.Listed (m, ids))
    (hr : t.insertSurfaceLocked surfaceKey m ids = .ok (streamId, r)) : t.Listed r := by
  unfold insertSurfaceLocked at hr
  split at hr
  · cases hr
  split at hr
  · cases hr
  rename_i key _ s hs
  split at hr <;> obtain ⟨rfl, rfl⟩ := Prod.mk.inj (Except.ok.inj hr)
  · rename_i c hc
    exact h.foldl_addGbp fun p hp => .inr ⟨key, c, hc, List.mem_map_of_mem _ hp⟩
  · exact h.addGbp (.inl (hinv.configured key s hs)) _

theorem valid_insertTarget (h : Inv t) (hx : x.Valid t) {surface : Int}
    (hr : t.insertTarget surfaceKey surface x = .ok (streamId, y)) :
    y.Valid t ∧ t.configuredOutputs.contains streamId := by
  unfold insertTarget at hr
  cases hi : t.insertSurfaceLocked (surfaceKey surface) x.surfaceMap x.outputStreamIds with
  | error => rw [hi] at hr; cases hr
  | ok r =>
    obtain ⟨s, r'⟩ := r
    rw [hi] at hr
    cases hr
    exact ⟨h.listed_insertSurfaceLocked hx hi, h.configured_of_insertSurfaceLocked hi⟩

theorem valid_insertSurfaceList (h : Inv t) {l : List (Option Int)} (hx : x.Valid t)
    (hr : t.insertSurfaceList surfaceKey l x = .ok y) : y.Valid t := by
  induction l generalizing x with
  | nil =>
    simp only [insertSurfaceList, Except.ok.injEq] at hr
    exact hr ▸ hx
  | cons surface rest ih =>
    cases surface with
    | none => exact ih hx hr
    | some surface =>
      simp only [insertSurfaceList] at hr
      split at hr
      · cases hr
      · rename_i hi
        refine ih ?_ hr
        have hv := (valid_insertTarget h hx hi).1
        split
        · exact hv.addOutput _
        · exact hv

theorem valid_insertStreamIdxList (h : Inv t) {l : List (Int × Int)} (hx : x.Valid t)
    (hr : t.insertStreamIdxList surfaceKey l x = .ok y) : y.Valid t := by
  induction l generalizing x with
  | nil =>
    simp only [insertStreamIdxList, Except.ok.injEq] at hr
    exact hr ▸ hx
  | cons p rest ih =>
    simp only [insertStreamIdxList] at hr
    split at hr
    · cases hr
    split at hr
    · cases hr
    split at hr
    · cases hr
    · rename_i hi
      exact ih ((valid_insertTarget h hx hi).1.addOutput _) hr

theorem insertTargets_of_checkRequest {ctx : RequestContext} {streaming : Bool}
    {request : CaptureRequest} (hr : t.checkRequest surfaceKey ctx streaming request = .ok x) :
    t.insertTargets surfaceKey request = .ok x := by
  unfold checkRequest at hr
  by_cases h₁ : request.isReprocess ∧ t.inputStream.isNone
  · rw [if_pos h₁] at hr; cases hr
  by_cases h₂ : request.isReprocess ∧ streaming
  · rw [if_neg h₁, if_pos h₂] at hr; cases hr
  by_cases h₃ : request.isReprocess ∧ request.physicalCameraSettings.length > 1
  · rw [if_neg h₁, if_neg h₂, if_pos h₃] at hr; cases hr
  rw [if_neg h₁, if_neg h₂, if_neg h₃] at hr
  split at hr
  · cases hr
  split at hr
  · cases hr
  split at hr
  · cases hr
  split at hr
  · cases hr
  rename_i x' hx'
  split at hr
  · cases hr
  split at hr
  · cases hr
  split at hr
  · cases hr
  · cases hr; exact hx'

theorem valid_checkRequest (h : Inv t) {ctx : RequestContext} {streaming : Bool}
    {request : CaptureRequest} (hr : t.checkRequest surfaceKey ctx streaming request = .ok x) :
    x.Valid t := by
  have hx := insertTargets_of_checkRequest hr
  unfold insertTargets at hx
  split at hx
  · exact valid_insertSurfaceList h (Targets.valid_empty t) hx
  · exact valid_insertStreamIdxList h (Targets.valid_empty t) hx

theorem mapM_ok {α β ε : Type} {f : α → Except ε β} {P : β → Prop}
    (hf : ∀ a b, f a = .ok b → P b) :
    ∀ {l : List α} {r : List β}, l.mapM f = .ok r → r.length = l.length ∧ ∀ b ∈ r, P b
  | [], r, h => by
    rw [List.mapM_nil] at h
    cases h
    simp
  | a :: l, r, h => by
    rw [List.mapM_cons] at h
    cases ha : f a with
    | error e => rw [ha] at h; cases h
    | ok b =>
      cases hl : l.mapM f with
      | error e => rw [ha, hl] at h; cases h
      | ok bs =>
        rw [ha, hl] at h
        cases h
        obtain ⟨hlen, hall⟩ := mapM_ok hf hl
        exact ⟨by simp [hlen], by simpa [hf a b ha] using hall⟩

variable {shared : Bool}

theorem checkRequestList_targets (h : Reachable shared t) {ctx : RequestContext}
    {sharedSecondary streaming : Bool} {requests : List CaptureRequest} {targets : List Targets}
    (hr : t.checkRequestList surfaceKey ctx sharedSecondary streaming requests = .ok targets) :
    targets.length = requests.length ∧ ∀ x ∈ targets, x.Valid t := by
  unfold checkRequestList at hr
  split at hr
  · cases hr
  split at hr
  · cases hr
  exact mapM_ok (fun _ _ => valid_checkRequest h.inv) hr

def oneStreamContext : RequestContext :=
  { deviceId := "0", originalCameraId := "0", dynamicProfileMap := KeyMap.empty.emplace 1 1 }

def oneStreamRequest : CaptureRequest :=
  { physicalCameraSettings := [{ id := "0" }], surfaceList := [some 7] }

def oneStreamTargets : Targets :=
  { surfaceMap := KeyMap.empty.modify 3 (· ++ [0])
    outputStreamIds := [3]
    requestedPhysicalIds := [""]
    dynamicProfileBitmap := Int.lor 0 1 }

theorem checkRequestList_targets_oneStream :
    [oneStreamTargets].length = [oneStreamRequest].length ∧
      ∀ x ∈ [oneStreamTargets], x.Valid oneStream :=
  checkRequestList_targets oneStream_reachable
    (show oneStream.checkRequestList some oneStreamContext false false [oneStreamRequest] =
      .ok [oneStreamTargets] from rfl)

def deferredBesideOneContext : RequestContext :=
  { deviceId := "0", originalCameraId := "0", dynamicProfileMap := KeyMap.empty.emplace 1 1 }

/-- Finalizing the deferred stream `4` with the surface of stream `3` first and a new one second
attaches only the second; a request by index for stream `4`'s surface `0` then targets stream `3`. -/
example : (deferredBesideOne.finalizeOutputConfigurations { setConsumerSurfaces := (.ok, [0]) } 4
        { isComplete := true, isDeferred := true, surfaces := [7, 8] }).1 = .ok ∧
      ((deferredBesideOne.finalizeOutputConfigurations { setConsumerSurfaces := (.ok, [0]) } 4
        { isComplete := true, isDeferred := true, surfaces := [7, 8] }).2.checkRequest some
        deferredBesideOneContext false
        { physicalCameraSettings := [{ id := deferredBesideOneContext.deviceId }]
          streamAndSurfaceIdx := [(4, 0)] }).map (·.outputStreamIds) = .ok [3] := ⟨rfl, rfl⟩

end Streams

end CameraService.DeviceClient
