import CameraService.DeviceClient.Streams

/-! The invariant of `CameraDeviceClient`'s stream table (`Inv`): every surface and composite
stream belongs to a configured output. It holds of every table a client reaches (`Reachable.inv`),
so `insertSurfaceLocked` only resolves surfaces to configured streams. -/

namespace CameraService.DeviceClient

/-- The answers the table's invariant assumes of one call: the key of each surface the device
attached can be read again, and the device gives a new stream an id no composite stream has. -/
structure Answers.Sound (a : Answers) (t : Streams) : Prop where
  keys : ∀ surface, a.configuredSurfaceKey surface ≠ none
  fresh : ∀ streamId surfaceIds key c, a.created = some (streamId, surfaceIds) →
    t.compositeStreams.find? key = some c → c.streamId ≠ streamId

namespace Streams

variable {a : Answers} {t t' t₁ t₂ t₃ : Streams} {streamId key : Int} {s : StreamSurfaceId}

structure Inv (t : Streams) : Prop where
  configured : ∀ key s, t.streamMap.find? key = some s → t.configuredOutputs.contains s.streamId
  composite : ∀ key c, t.compositeStreams.find? key = some c →
    t.configuredOutputs.contains c.streamId
  compositeKey : ∀ key key' c c', t.compositeStreams.find? key = some c →
    t.compositeStreams.find? key' = some c' → c.streamId = c'.streamId → key = key'

theorem Inv.init : Inv {} where
  configured _ _ h := nomatch h
  composite _ _ h := nomatch h
  compositeKey _ _ _ _ h := nomatch h

structure Grows (t t' : Streams) : Prop where
  configured : ∀ streamId, t.configuredOutputs.contains streamId →
    t'.configuredOutputs.contains streamId
  composite : t'.compositeStreams = t.compositeStreams
  streamMap : ∀ key s, t'.streamMap.find? key = some s →
    t.streamMap.find? key = some s ∨ t'.configuredOutputs.contains s.streamId

theorem Grows.of_tables (hs : t'.streamMap = t.streamMap)
    (hc : t'.configuredOutputs = t.configuredOutputs) (hp : t'.compositeStreams = t.compositeStreams) :
    Grows t t' :=
  ⟨fun _ h => hc ▸ h, hp, fun _ _ h => .inl (hs ▸ h)⟩

theorem Grows.refl (t : Streams) : Grows t t := .of_tables rfl rfl rfl

theorem Grows.trans (h₁ : Grows t₁ t₂) (h₂ : Grows t₂ t₃) : Grows t₁ t₃ :=
  ⟨fun _ h => h₂.configured _ (h₁.configured _ h), h₂.composite.trans h₁.composite,
    fun key s hs => (h₂.streamMap key s hs).elim
      (fun h => (h₁.streamMap key s h).imp_right (h₂.configured _)) .inr⟩

theorem Grows.of_streamMap
    (hc : ∀ streamId, t.configuredOutputs.contains streamId → t'.configuredOutputs.contains streamId)
    (hp : t'.compositeStreams = t.compositeStreams) (hid : t'.configuredOutputs.contains streamId)
    (hm : ∀ key s, t'.streamMap.find? key = some s →
      t.streamMap.find? key = some s ∨ s.streamId = streamId) : Grows t t' :=
  ⟨hc, hp, fun key s h => (hm key s h).imp_right fun e => by rw [e]; exact hid⟩

theorem Grows.inv (hg : Grows t t') (h : Inv t) : Inv t' where
  configured key s hs := (hg.streamMap key s hs).elim (hg.configured _ <| h.configured key s ·) id
  composite key c hc := hg.configured _ (h.composite key c (hg.composite ▸ hc))
  compositeKey key key' c c' h₁ h₂ :=
    h.compositeKey key key' c c' (hg.composite ▸ h₁) (hg.composite ▸ h₂)

theorem contains_insert_of_contains {m : KeyMap OutputConfiguration} {config : OutputConfiguration}
    (id : Int) (h : m.contains id) : (m.insert streamId config).contains id := by
  simp [h]

theorem find?_insert_stream {m : KeyMap StreamSurfaceId} {k surfaceId : Int}
    (h : (m.insert k ⟨streamId, surfaceId⟩).find? key = some s) :
    m.find? key = some s ∨ s.streamId = streamId := by
  rw [KeyMap.find?_insert] at h
  split_ifs at h
  · cases h; exact .inr rfl
  · exact .inl h

theorem find?_addSurfaces {m : KeyMap StreamSurfaceId} {l : List (Int × Int)}
    (h : (addSurfaces streamId m l).find? key = some s) :
    m.find? key = some s ∨ s.streamId = streamId := by
  induction l generalizing m with
  | nil => exact .inl h
  | cons p rest ih => exact (ih h).elim find?_insert_stream .inr

theorem find?_attachSurfaces {m m' : KeyMap StreamSurfaceId} {l : List (Int × Int)} {b : Bool}
    (hm : attachSurfaces a streamId m l = (b, m')) (hs : m'.find? key = some s) :
    m.find? key = some s ∨ s.streamId = streamId := by
  induction l generalizing m with
  | nil => cases hm; exact .inl hs
  | cons p rest ih =>
    obtain ⟨surface, surfaceId⟩ := p
    simp only [attachSurfaces] at hm
    split at hm
    · cases hm; exact .inl hs
    · exact (ih hm).elim find?_insert_stream .inr

theorem attachSurfaces_complete (hk : ∀ surface, a.configuredSurfaceKey surface ≠ none)
    {m : KeyMap StreamSurfaceId} {l : List (Int × Int)} : (attachSurfaces a streamId m l).1 = true := by
  induction l generalizing m with
  | nil => rfl
  | cons p rest ih =>
    obtain ⟨key, hkey⟩ := Option.ne_none_iff_exists'.1 (hk p.1)
    simp only [attachSurfaces, hkey, ih]

theorem grows_createDeferredSurfaceStreamLocked (config : OutputConfiguration) :
    Grows t (t.createDeferredSurfaceStreamLocked a config).2 := by
  unfold createDeferredSurfaceStreamLocked
  split_ifs
  · exact .refl t
  · exact .refl t
  · split
    · exact .refl t
    · exact .of_tables rfl rfl rfl

theorem grows_recordStream (config : OutputConfiguration) (keys surfaceIds : List Int) :
    Grows t (t.recordStream config keys streamId surfaceIds) :=
  .of_streamMap (contains_insert_of_contains) rfl (by simp [recordStream])
    (fun _ _ h => find?_addSurfaces h)

theorem Inv.recordComposite (h : Inv t)
    (hfresh : ∀ key c, t.compositeStreams.find? key = some c → c.streamId ≠ streamId)
    (config : OutputConfiguration) (keys surfaceIds : List Int) (key : Int)
    (gbps : List (Int × Int)) :
    Inv (recordStream { t with compositeStreams := t.compositeStreams.insert key ⟨streamId, gbps⟩ }
      config keys streamId surfaceIds) where
  configured k s hs := (grows_recordStream config keys surfaceIds).streamMap k s hs |>.elim
    (contains_insert_of_contains _ <| h.configured k s ·) id
  composite k c hc := by
    simp only [recordStream, KeyMap.find?_insert] at hc ⊢
    split_ifs at hc
    · cases hc; simp
    · exact contains_insert_of_contains _ (h.composite k c hc)
  compositeKey k k' c c' h₁ h₂ he := by
    simp only [recordStream, KeyMap.find?_insert] at h₁ h₂
    split_ifs at h₁ h₂ with hk hk'
    · exact hk.trans hk'.symm
    · cases h₁; exact absurd he.symm (hfresh k' c' h₂)
    · cases h₂; exact absurd he (hfresh k c h₁)
    · exact h.compositeKey k k' c c' h₁ h₂ he

theorem inv_createStream (h : Inv t) (ha : a.Sound t) (config : OutputConfiguration)
    (shared : Bool) : Inv (t.createStream a config shared).2 := by
  unfold createStream
  by_cases h₁ : (!config.isComplete) = true
  · rw [if_pos h₁]; exact h
  by_cases h₂ : a.surfaceType ≠ .ok
  · rw [if_neg h₁, if_pos h₂]; exact h
  by_cases h₃ : a.physicalCameraId ≠ .ok
  · rw [if_neg h₁, if_neg h₂, if_pos h₃]; exact h
  rw [if_neg h₁, if_neg h₂, if_neg h₃]
  by_cases h₄ : (config.isDeferred && config.surfaces.isEmpty) = true
  · rw [if_pos h₄]; exact (grows_createDeferredSurfaceStreamLocked config).inv h
  rw [if_neg h₄]
  split
  · exact h
  split
  · exact h
  rename_i streamId surfaceIds hcreated
  split
  · split
    · exact h
    · exact h.recordComposite (ha.fresh streamId surfaceIds · · hcreated) _ _ _ _ _
  · exact (grows_recordStream config _ surfaceIds).inv h

theorem grows_createInputStream : Grows t (t.createInputStream a).2 := by
  unfold createInputStream
  split
  · exact .refl t
  · split <;> exact .of_tables rfl rfl rfl

theorem Inv.find?_compositeStreams_removeOutputStream (h : Inv t) {c : CompositeStream}
    (hc : (t.removeOutputStream streamId).compositeStreams.find? key = some c) :
    t.compositeStreams.find? key = some c ∧ c.streamId ≠ streamId := by
  simp only [removeOutputStream, compositeKey?] at hc
  cases hk : t.compositeStreams.entries.find? (·.2.streamId == streamId) with
  | none =>
    rw [hk] at hc
    refine ⟨hc, fun e => ?_⟩
    have := List.find?_eq_none.1 hk _ ((KeyMap.find?_eq_some_iff _ _).1 hc)
    simp [e] at this
  | some p =>
    rw [hk] at hc
    simp only [Option.map_some', KeyMap.find?_erase] at hc
    split_ifs at hc with hkey
    refine ⟨hc, fun e => hkey ?_⟩
    have hp : p.2.streamId = streamId := by simpa using List.find?_some hk
    exact h.compositeKey key p.1 c p.2 hc ((KeyMap.find?_eq_some_iff _ _).2
      (List.mem_of_find?_eq_some hk)) (e.trans hp.symm)

theorem find?_streamMap_removeOutputStream
    (hs : (t.removeOutputStream streamId).streamMap.find? key = some s) :
    t.streamMap.find? key = some s ∧ s.streamId ≠ streamId := by
  simp only [removeOutputStream, KeyMap.find?_foldl_erase] at hs
  split_ifs at hs with hk
  refine ⟨hs, fun e => hk ?_⟩
  simp only [streamSurfaces, List.mem_map, List.mem_filter]
  exact ⟨(key, s), ⟨(KeyMap.find?_eq_some_iff _ _).1 hs, by simp [e]⟩, rfl⟩

theorem Inv.removeOutputStream (h : Inv t) (streamId : Int) :
    Inv (t.removeOutputStream streamId) where
  configured key s hs := by
    obtain ⟨hs, hne⟩ := find?_streamMap_removeOutputStream hs
    simp [Streams.removeOutputStream, hne, h.configured key s hs]
  composite key c hc := by
    obtain ⟨hc, hne⟩ := h.find?_compositeStreams_removeOutputStream hc
    simp [Streams.removeOutputStream, hne, h.composite key c hc]
  compositeKey key key' c c' h₁ h₂ :=
    h.compositeKey key key' c c' (h.find?_compositeStreams_removeOutputStream h₁).1
      (h.find?_compositeStreams_removeOutputStream h₂).1

theorem inv_deleteStream (h : Inv t) (streamId : Int) : Inv (t.deleteStream a streamId).2 := by
  unfold deleteStream
  split
  · split
    · exact Grows.inv (t := t) (.of_tables rfl rfl rfl) h
    · exact h
  split
  · exact h
  split
  · exact h
  split
  · split <;> exact h.removeOutputStream streamId
  · exact h.removeOutputStream streamId

theorem find?_attachSurfaces_erase {removed : List Int} {l : List (Int × Int)}
    {b : Bool} {m : KeyMap StreamSurfaceId}
    (hm : attachSurfaces a streamId (removed.foldl KeyMap.erase t.streamMap) l = (b, m))
    (hs : m.find? key = some s) : t.streamMap.find? key = some s ∨ s.streamId = streamId := by
  have := find?_attachSurfaces hm hs
  rw [KeyMap.find?_foldl_erase] at this
  split_ifs at this
  · exact .inr (this.resolve_left (by simp))
  · exact this

theorem grows_updateOutputConfiguration (h : Inv t) (streamId : Int)
    (config : OutputConfiguration) : Grows t (t.updateOutputConfiguration a streamId config).2 := by
  unfold updateOutputConfiguration
  split_ifs
  · exact .refl t
  split
  · exact .refl t
  split
  · exact .refl t
  split
  · exact .refl t
  rename_i s hs
  split_ifs with hid
  · exact .refl t
  have hconf : t.configuredOutputs.contains streamId := by
    simpa [not_not.1 hid] using h.configured _ _ hs
  split
  · exact .refl t
  split
  · exact .refl t
  split
  · exact .refl t
  split_ifs
  · exact .refl t
  split
  · split
    · exact .of_streamMap (fun _ => id) rfl hconf fun _ _ => find?_attachSurfaces_erase ‹_›
    · refine .of_streamMap contains_insert_of_contains rfl ?_
        fun _ _ => find?_attachSurfaces_erase ‹_›
      simp
  all_goals exact .refl t

theorem grows_finalizeSurfaces (hk : ∀ surface, a.configuredSurfaceKey surface ≠ none)
    (streamId : Int) (config : OutputConfiguration) :
    Grows t (t.finalizeSurfaces a streamId config).2 := by
  unfold finalizeSurfaces
  split
  · exact .refl t
  · exact .of_tables rfl rfl rfl
  · split
    · split
      · rename_i hm
        exact absurd (congrArg Prod.fst hm) (by simp [attachSurfaces_complete hk])
      · refine .of_streamMap contains_insert_of_contains rfl ?_
          fun _ _ => find?_attachSurfaces ‹_›
        simp
    all_goals exact .refl t

theorem grows_finalizeOutputConfigurations (ha : a.Sound t) (streamId : Int)
    (config : OutputConfiguration) :
    Grows t (t.finalizeOutputConfigurations a streamId config).2 := by
  unfold finalizeOutputConfigurations
  split_ifs
  · exact .refl t
  · exact .refl t
  · exact .refl t
  · exact .refl t
  · refine Grows.trans ?_ (grows_finalizeSurfaces ha.keys streamId config)
    exact .of_tables rfl rfl rfl

theorem switchToOffline_eq (offlineOutputIds : List Int) :
    (t.switchToOffline a offlineOutputIds).2 = t ∨ (t.switchToOffline a offlineOutputIds).2 = {} := by
  unfold switchToOffline
  by_cases h₁ : offlineOutputIds.isEmpty = true
  · rw [if_pos h₁]; exact .inl rfl
  rw [if_neg h₁]
  split
  · exact .inl rfl
  split
  · exact .inl rfl
  split <;> simp

theorem inv_switchToOffline (h : Inv t) (offlineOutputIds : List Int) :
    Inv (t.switchToOffline a offlineOutputIds).2 := by
  rcases switchToOffline_eq (a := a) offlineOutputIds with e | e <;> rw [e]
  · exact h
  · exact .init

end Streams

inductive Call
  | createStream (config : OutputConfiguration)
  | createInputStream
  | deleteStream (streamId : Int)
  | updateOutputConfiguration (streamId : Int) (config : OutputConfiguration)
  | finalizeOutputConfigurations (streamId : Int) (config : OutputConfiguration)
  | switchToOffline (offlineOutputIds : List Int)

def Call.apply (shared : Bool) (a : Answers) (t : Streams) : Call → Status × Streams
  | .createStream config => t.createStream a config shared
  | .createInputStream => t.createInputStream a
  | .deleteStream streamId => t.deleteStream a streamId
  | .updateOutputConfiguration streamId config => t.updateOutputConfiguration a streamId config
  | .finalizeOutputConfigurations streamId config =>
    t.finalizeOutputConfigurations a streamId config
  | .switchToOffline offlineOutputIds => t.switchToOffline a offlineOutputIds

/-- The tables a client reaches from its constructor by calls with `Sound` answers. -/
inductive Reachable (shared : Bool) : Streams → Prop
  | init : Reachable shared {}
  | step {t : Streams} {a : Answers} (c : Call) :
      Reachable shared t → a.Sound t → Reachable shared (c.apply shared a t).2

namespace Streams

variable {a : Answers} {t : Streams} {shared : Bool}

theorem Inv.apply (h : Inv t) (ha : a.Sound t) : ∀ c : Call, Inv (c.apply shared a t).2
  | .createStream config => inv_createStream h ha config shared
  | .createInputStream => grows_createInputStream.inv h
  | .deleteStream streamId => inv_deleteStream h streamId
  | .updateOutputConfiguration streamId config =>
    (grows_updateOutputConfiguration h streamId config).inv h
  | .finalizeOutputConfigurations streamId config =>
    (grows_finalizeOutputConfigurations ha streamId config).inv h
  | .switchToOffline offlineOutputIds => inv_switchToOffline h offlineOutputIds

end Streams

theorem Reachable.inv {shared : Bool} {t : Streams} (h : Reachable shared t) : t.Inv := by
  induction h with
  | init => exact .init
  | step c _ ha ih => exact ih.apply ha c

namespace Streams

variable {t : Streams} {shared : Bool}

theorem Inv.configured_of_insertSurfaceLocked (h : Inv t) {surfaceKey : Option Int}
    {surfaceMap surfaceMap' : Shared.SurfaceMap} {outputStreamIds outputStreamIds' : List Int}
    {streamId : Int}
    (hr : t.insertSurfaceLocked surfaceKey surfaceMap outputStreamIds =
      .ok (streamId, surfaceMap', outputStreamIds')) :
    t.configuredOutputs.contains streamId := by
  unfold insertSurfaceLocked at hr
  split at hr
  · cases hr
  split at hr
  · cases hr
  rename_i key _ s hs
  split at hr <;> obtain ⟨rfl, -⟩ := Prod.mk.inj (Except.ok.inj hr)
  · exact h.composite key _ ‹_›
  · exact h.configured key s hs

theorem insertSurfaceLocked_configured (h : Reachable shared t) {surfaceKey : Option Int}
    {surfaceMap surfaceMap' : Shared.SurfaceMap} {outputStreamIds outputStreamIds' : List Int}
    {streamId : Int}
    (hr : t.insertSurfaceLocked surfaceKey surfaceMap outputStreamIds =
      .ok (streamId, surfaceMap', outputStreamIds')) :
    t.configuredOutputs.contains streamId :=
  h.inv.configured_of_insertSurfaceLocked hr

def oneStream : Streams :=
  ((Call.createStream { isComplete := true, isDeferred := false, surfaces := [7] }).apply false { created := some (3, [0]) } {}).2

theorem oneStream_reachable : Reachable false oneStream :=
  .step _ .init ⟨fun _ => Option.some_ne_none _, fun _ _ _ _ _ h => nomatch h⟩

theorem insertSurfaceLocked_configured_oneStream : oneStream.configuredOutputs.contains 3 :=
  insertSurfaceLocked_configured oneStream_reachable
    (show oneStream.insertSurfaceLocked (some 7) KeyMap.empty [] =
      .ok (3, KeyMap.empty.modify 3 (· ++ [0]), [3]) from rfl)

variable {a : Answers} {streamId : Int}

theorem deleteStream_eq_removeOutputStream (hin : t.inputStream ≠ some streamId)
    (hok : (t.deleteStream a streamId).1 = .ok) :
    (t.deleteStream a streamId).2 = t.removeOutputStream streamId := by
  unfold deleteStream at hok ⊢
  rw [if_neg hin] at hok ⊢
  by_cases h₁ : (t.streamSurfaces streamId).isEmpty ∧ streamId ∉ t.deferredStreams
  · rw [if_pos h₁] at hok; simp at hok
  by_cases h₂ : (!a.deleted) = true
  · rw [if_neg h₁, if_pos h₂] at hok; simp at hok
  rw [if_neg h₁, if_neg h₂]
  split <;> (try split_ifs) <;> rfl

theorem deleteStream_clears (h : Reachable shared t) (hin : t.inputStream ≠ some streamId)
    (hok : (t.deleteStream a streamId).1 = .ok) :
    (∀ key s, (t.deleteStream a streamId).2.streamMap.find? key = some s → s.streamId ≠ streamId) ∧
    (t.deleteStream a streamId).2.configuredOutputs.contains streamId = false ∧
    ∀ key c, (t.deleteStream a streamId).2.compositeStreams.find? key = some c →
      c.streamId ≠ streamId := by
  rw [deleteStream_eq_removeOutputStream hin hok]
  exact ⟨fun _ _ hs => (find?_streamMap_removeOutputStream hs).2,
    by simp [Streams.removeOutputStream],
    fun _ _ hc => (h.inv.find?_compositeStreams_removeOutputStream hc).2⟩

def heicStream : HeicCompositeStream := ⟨true, 5, 0, 3, 0⟩

def oneHeicStream : Streams :=
  ((Call.createStream { isComplete := true, isDeferred := false, surfaces := [7] }).apply false
    { composite := true, compositeGbps := heicStream.toCompositeStream.gbps, created := some (3, [0]) }
    {}).2

theorem oneHeicStream_reachable : Reachable false oneHeicStream :=
  .step _ .init ⟨fun _ => Option.some_ne_none _, fun _ _ _ _ _ h => nomatch h⟩

theorem deleteStream_clears_oneHeicStream :
    (∀ key s, (oneHeicStream.deleteStream {} 3).2.streamMap.find? key = some s → s.streamId ≠ 3) ∧
    (oneHeicStream.deleteStream {} 3).2.configuredOutputs.contains 3 = false ∧
    ∀ key c, (oneHeicStream.deleteStream {} 3).2.compositeStreams.find? key = some c →
      c.streamId ≠ 3 :=
  deleteStream_clears oneHeicStream_reachable (by decide) rfl

def deferredStream : Streams :=
  ((Call.createStream { isComplete := true, isDeferred := true, surfaces := [] }).apply false { created := some (3, []) } {}).2

def deferredBesideOne : Streams :=
  ((Call.createStream { isComplete := true, isDeferred := true, surfaces := [] }).apply false { created := some (4, []) } oneStream).2

def secondKeyLost : Answers :=
  { configuredSurfaceKey := fun s => if s = 2 then none else some s
    setConsumerSurfaces := (.ok, [0, 1]) }

/-- The key of the second surface is lost: the call fails with the first surface mapped to the
deferred stream `3`, which has no configured output. -/
example : deferredStream.finalizeOutputConfigurations secondKeyLost 3
      { isComplete := true, isDeferred := true, surfaces := [1, 2] } =
      (.error .invalidOperation "Could not get the SurfaceKey",
        { deferredStream with
          streamMap := deferredStream.streamMap.insert 1 ⟨3, 0⟩
          finalized := deferredStream.finalized.emplace 3 false }) ∧
    deferredStream.configuredOutputs.contains 3 = false := ⟨rfl, rfl⟩

/-- Finalizing the deferred stream `4` with the surface of stream `3` attaches nothing yet marks
`4` finalized, so a second finalization fails. -/
example : deferredBesideOne.finalizeOutputConfigurations {} 4
      { isComplete := true, isDeferred := true, surfaces := [7] } =
      (.ok, { deferredBesideOne with finalized := deferredBesideOne.finalized.insert 4 true }) ∧
    (({ deferredBesideOne with finalized := deferredBesideOne.finalized.insert 4 true } : Streams)
      |>.finalizeOutputConfigurations {} 4
        { isComplete := true, isDeferred := true, surfaces := [8] }).1 ≠ .ok :=
  ⟨rfl, by decide⟩

end Streams

end CameraService.DeviceClient
