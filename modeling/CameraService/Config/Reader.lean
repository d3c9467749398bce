import CameraService.Config.Utils

/-! `SharedSessionConfigReader::parseSharedSessionConfigFromXMLDocument`: which documents it
accepts, the map it stores, and the color space it writes to `mColorSpace` before any later check
can fail. -/

namespace CameraService.Config

structure SharedSessionConfig where
  surfaceType : Int
  width : Int
  height : Int
  physicalCameraId : String
  streamUseCase : Int
  timestampBase : Int
  mirrorMode : Int
  useReadoutTimestamp : Bool
  format : Int
  usage : Int
  dataSpace : Int
  deriving DecidableEq, Repr

def pushConfig : List (String × List SharedSessionConfig) → String → SharedSessionConfig →
    List (String × List SharedSessionConfig)
  | [], cameraId, config => [(cameraId, [config])]
  | (k, configs) :: rest, cameraId, config =>
    if k = cameraId then (k, configs ++ [config]) :: rest
    else (k, configs) :: pushConfig rest cameraId config

structure SharedSessionConfigReader where
  mColorSpace : Int
  mCameraIdToSharedSessionConfigs : List (String × List SharedSessionConfig)
  deriving DecidableEq, Repr

/-- The body of the `OutputConfiguration` loop: the validators in order, then the record.
`usage` is the value the uninitialized local `usage` holds. -/
def parseOutputConfiguration (h : Headers) (usage : Int) (outputConfigElem : XmlElement) :
    Except ErrorCode SharedSessionConfig := do
  let field := outputConfigElem.firstChildElement
  let surfaceType ← getSurfaceTypeFromXml h (field "surfaceType")
  let width ← getWidthFromXml (field "width")
  let height ← getHeightFromXml (field "height")
  let physicalCameraId ← getPhysicalCameraIdFromXml (field "physicalCameraId")
  let streamUseCase ← getStreamUseCaseFromXml h (field "streamUseCase")
  let timestampBase ← getTimestampBaseFromXml h (field "timestampBase")
  let mirrorMode ← getMirrorModeFromXml h (field "mirrorMode")
  let useReadoutTimestamp ← getUseReadoutTimestampFromXml (field "useReadoutTimestamp")
  let format ← getFormatFromXml h (field "format") surfaceType
  let (status, usage) := getUsageFromXml h (field "usage") usage surfaceType
  if status ≠ .statusOk then throw status
  let dataSpace ← getDataSpaceFromXml h (field "dataSpace")
  pure ⟨surfaceType, width, height, physicalCameraId, streamUseCase, timestampBase, mirrorMode,
    useReadoutTimestamp, format, usage, dataSpace⟩

/-- The `OutputConfiguration` loop of one element with camera id `cameraId`; the local `usage` of
its `j`-th iteration holds `usage j`. -/
def parseOutputConfigurations (h : Headers) : (Nat → Int) → String → List XmlElement →
    List (String × List SharedSessionConfig) →
      Except ErrorCode (List (String × List SharedSessionConfig))
  | _, _, [], configs => .ok configs
  | usage, cameraId, outputConfigElem :: rest, configs =>
    match parseOutputConfiguration h (usage 0) outputConfigElem with
    | .error status => .error status
    | .ok config => parseOutputConfigurations h (fun j => usage (j + 1)) cameraId rest
        (pushConfig configs cameraId config)

/-- The `SharedCameraSessionConfiguration` loop; the local `usage` of the `j`-th
`OutputConfiguration` of its `i`-th element holds `usage i j`. -/
def parseSharedConfigurations (h : Headers) : (Nat → Nat → Int) → List XmlElement →
    List (String × List SharedSessionConfig) →
      Except ErrorCode (List (String × List SharedSessionConfig))
  | _, [], configs => .ok configs
  | usage, sharedConfigElem :: rest, configs =>
    match sharedConfigElem.attributeValue "cameraId" with
    | none => .error .errorConfigFileFormat
    | some cameraId =>
      if cameraId = "" then .error .errorConfigFileFormat
      else
        match parseOutputConfigurations h (usage 0) cameraId
            (sharedConfigElem.childElements "OutputConfiguration") configs with
        | .error status => .error status
        | .ok configs => parseSharedConfigurations h (fun i => usage (i + 1)) rest configs

def parseSharedSessionConfigFromXMLDocument (h : Headers) (usage : Nat → Nat → Int)
    (rootElem : XmlElement)
    (reader : SharedSessionConfigReader) : ErrorCode × SharedSessionConfigReader :=
  if rootElem.name ≠ "SharedCameraSessionConfigurations" then (.errorReadConfigFile, reader)
  else
    match getColorSpaceFromStr h (rootElem.attributeValue "colorSpace") with
    | .error status => (status, reader)
    | .ok colorSpace =>
      let reader := { reader with mColorSpace := colorSpace }
      match parseSharedConfigurations h usage
          (rootElem.childElements "SharedCameraSessionConfiguration") [] with
      | .error status => (status, reader)
      | .ok configs =>
        if configs.isEmpty then (.errorConfigFileFormat, reader)
        else (.statusOk, { reader with mCameraIdToSharedSessionConfigs := configs })

def getAvailableSharedSessionConfigs (reader : SharedSessionConfigReader) (cameraId : String) :
    Except ErrorCode (List SharedSessionConfig) :=
  if reader.mCameraIdToSharedSessionConfigs.isEmpty then .error .errorConfigReaderUninitialized
  else
    match reader.mCameraIdToSharedSessionConfigs.lookup cameraId with
    | none => .error .errorBadParameter
    | some configs => .ok configs

theorem lookup_cons_eq {β : Type} (k a : String) (b : β) (es : List (String × β)) :
    ((k, b) :: es).lookup a = if k = a then some b else es.lookup a := by
  rw [List.lookup_cons]
  cases h : a == k <;> simp only [beq_iff_eq, beq_eq_false_iff_ne] at h
  · rw [if_neg (Ne.symm h)]
  · simp [h]

theorem lookup_pushConfig (cameraId k : String) (config : SharedSessionConfig) :
    ∀ configs, (pushConfig configs cameraId config).lookup k =
      if cameraId = k then some ((configs.lookup k).getD [] ++ [config]) else configs.lookup k
  | [] => by simp [pushConfig, lookup_cons_eq]
  | (k', cs) :: rest => by
    have ih := lookup_pushConfig cameraId k config rest
    by_cases h₁ : k' = cameraId
    · subst h₁
      by_cases h₂ : k' = k <;> simp [pushConfig, lookup_cons_eq, h₂]
    · by_cases h₂ : k' = k
      · subst h₂
        simp [pushConfig, lookup_cons_eq, h₁, ih, Ne.symm h₁]
      · simp [pushConfig, lookup_cons_eq, h₁, h₂, ih]

theorem mem_keys_pushConfig (cameraId k : String) (config : SharedSessionConfig) :
    ∀ configs, k ∈ (pushConfig configs cameraId config).map Prod.fst ↔
      k ∈ configs.map Prod.fst ∨ k = cameraId
  | [] => by simp [pushConfig]
  | (k', cs) :: rest => by
    unfold pushConfig
    split_ifs with h
    · subst h; simp only [List.map_cons, List.mem_cons]; tauto
    · simp only [List.map_cons, List.mem_cons, mem_keys_pushConfig cameraId k config rest]; tauto

theorem nodup_keys_pushConfig (cameraId : String) (config : SharedSessionConfig) :
    ∀ configs : List (String × List SharedSessionConfig), (configs.map Prod.fst).Nodup →
      ((pushConfig configs cameraId config).map Prod.fst).Nodup
  | [], _ => by simp [pushConfig]
  | (k, cs) :: rest, hnd => by
    rw [List.map_cons, List.nodup_cons] at hnd
    unfold pushConfig
    split_ifs with h
    · simpa using hnd
    · rw [List.map_cons, List.nodup_cons, mem_keys_pushConfig]
      exact ⟨by tauto, nodup_keys_pushConfig cameraId config rest hnd.2⟩

theorem pushConfig_ne_nil (cameraId : String) (config : SharedSessionConfig) :
    ∀ configs, pushConfig configs cameraId config ≠ []
  | [] => by simp [pushConfig]
  | _ :: _ => by unfold pushConfig; split_ifs <;> simp

section PushLoop
variable (cameraId : String)

theorem lookup_foldl_pushConfig (k : String) : ∀ configs m,
    (configs.foldl (fun m c => pushConfig m cameraId c) m).lookup k =
      if cameraId = k ∧ configs ≠ [] then some ((m.lookup k).getD [] ++ configs) else m.lookup k
  | [], m => by simp
  | c :: cs, m => by
    rw [List.foldl_cons, lookup_foldl_pushConfig k cs, lookup_pushConfig]
    by_cases h : cameraId = k <;> by_cases hcs : cs = [] <;> simp [h, hcs]

theorem nodup_keys_foldl_pushConfig : ∀ (configs : List SharedSessionConfig) m,
    (m.map Prod.fst).Nodup → ((configs.foldl (fun m c => pushConfig m cameraId c) m).map Prod.fst).Nodup
  | [], _, hnd => hnd
  | c :: cs, m, hnd => nodup_keys_foldl_pushConfig cs _ (nodup_keys_pushConfig cameraId c m hnd)

theorem foldl_pushConfig_eq_nil : ∀ configs m,
    configs.foldl (fun m c => pushConfig m cameraId c) m = [] ↔ configs = [] ∧ m = []
  | [], m => by simp
  | c :: cs, m => by
    rw [List.foldl_cons, foldl_pushConfig_eq_nil cs]
    simp [pushConfig_ne_nil]

end PushLoop

theorem usageLoop_status (validUsages : List Int) :
    ∀ (flags : List String) (usage usage' : Int),
      (usageLoop validUsages flags usage).1 = (usageLoop validUsages flags usage').1
  | [], _, _ => rfl
  | f :: rest, usage, usage' => by
    unfold usageLoop
    split_ifs
    · exact usageLoop_status validUsages rest _ _
    · rfl

theorem getUsageFromXml_status (h : Headers) (usageXml : Option XmlElement)
    (usage usage' surfaceType : Int) :
    (getUsageFromXml h usageXml usage surfaceType).1 =
      (getUsageFromXml h usageXml usage' surfaceType).1 := by
  unfold getUsageFromXml
  split_ifs
  any_goals rfl
  split
  · rfl
  · exact usageLoop_status _ _ _ _

theorem bind_isOk_congr {α β γ : Type} (x : Except ErrorCode α) {f : α → Except ErrorCode β}
    {g : α → Except ErrorCode γ} (hfg : ∀ a, (f a).isOk = (g a).isOk) :
    (x >>= f).isOk = (x >>= g).isOk := by
  cases x
  · rfl
  · exact hfg _

theorem parseOutputConfiguration_isOk (h : Headers) (usage usage' : Int) (o : XmlElement) :
    (parseOutputConfiguration h usage o).isOk = (parseOutputConfiguration h usage' o).isOk := by
  unfold parseOutputConfiguration
  refine bind_isOk_congr _ fun surfaceType => ?_
  iterate 8 refine bind_isOk_congr _ fun _ => ?_
  have hs := getUsageFromXml_status h (o.firstChildElement "usage") usage usage' surfaceType
  generalize getUsageFromXml h _ usage _ = p at hs ⊢
  generalize getUsageFromXml h _ usage' _ = p' at hs ⊢
  obtain ⟨s, v⟩ := p
  obtain ⟨s', v'⟩ := p'
  dsimp only at hs ⊢
  subst hs
  split_ifs <;> exact bind_isOk_congr _ fun _ => bind_isOk_congr _ fun _ => rfl

theorem parseOutputConfiguration_ok_of_ok (h : Headers) {usage : Int} {o : XmlElement}
    {c : SharedSessionConfig} (hc : parseOutputConfiguration h usage o = .ok c) (usage' : Int) :
    ∃ c', parseOutputConfiguration h usage' o = .ok c' := by
  cases hp : parseOutputConfiguration h usage' o with
  | error e => simpa [hc, hp, Except.isOk, Except.toBool] using
    parseOutputConfiguration_isOk h usage usage' o
  | ok c' => exact ⟨c', rfl⟩

def outputConfigsOf (h : Headers) : (Nat → Int) → List XmlElement → List SharedSessionConfig
  | _, [] => []
  | usage, o :: rest =>
    (parseOutputConfiguration h (usage 0) o).toOption.toList ++
      outputConfigsOf h (fun j => usage (j + 1)) rest

def pushSharedConfigs (h : Headers) : (Nat → Nat → Int) → List XmlElement →
    List (String × List SharedSessionConfig) → List (String × List SharedSessionConfig)
  | _, [], configs => configs
  | usage, e :: rest, configs =>
    pushSharedConfigs h (fun i => usage (i + 1)) rest
      ((outputConfigsOf h (usage 0) (e.childElements "OutputConfiguration")).foldl
        (fun m c => pushConfig m ((e.attributeValue "cameraId").getD "") c) configs)

def configsFor (h : Headers) : (Nat → Nat → Int) → List XmlElement → String →
    List SharedSessionConfig
  | _, [], _ => []
  | usage, e :: rest, cameraId =>
    (if e.attributeValue "cameraId" = some cameraId then
      outputConfigsOf h (usage 0) (e.childElements "OutputConfiguration") else []) ++
      configsFor h (fun i => usage (i + 1)) rest cameraId

section Loops
variable (h : Headers)

theorem parseOutputConfigurations_eq_ok (cameraId : String) :
    ∀ outputConfigElems (usage : Nat → Int) configs configs',
      parseOutputConfigurations h usage cameraId outputConfigElems configs = .ok configs' ↔
        (∀ o ∈ outputConfigElems, ∀ u, ∃ c, parseOutputConfiguration h u o = .ok c) ∧
          configs' = (outputConfigsOf h usage outputConfigElems).foldl
            (fun m c => pushConfig m cameraId c) configs
  | [], _, _, _ => by simp [parseOutputConfigurations, outputConfigsOf, eq_comm]
  | o :: rest, usage, configs, configs' => by
    cases hp : parseOutputConfiguration h (usage 0) o with
    | error e =>
      have : ¬ ∀ u, ∃ c, parseOutputConfiguration h u o = .ok c := fun hall => by
        obtain ⟨c, hc⟩ := hall (usage 0)
        rw [hp] at hc
        cases hc
      simp [parseOutputConfigurations, hp, this]
    | ok c =>
      simp [parseOutputConfigurations, hp, parseOutputConfigurations_eq_ok cameraId rest,
        outputConfigsOf, Except.toOption, parseOutputConfiguration_ok_of_ok h hp]

theorem parseSharedConfigurations_eq_ok :
    ∀ (sharedConfigElems : List XmlElement) (usage : Nat → Nat → Int)
      (configs configs' : List (String × List SharedSessionConfig)),
      parseSharedConfigurations h usage sharedConfigElems configs = .ok configs' ↔
        (∀ e ∈ sharedConfigElems, (∃ cameraId, e.attributeValue "cameraId" = some cameraId ∧ cameraId ≠ "") ∧
          ∀ o ∈ e.childElements "OutputConfiguration", ∀ u, ∃ c, parseOutputConfiguration h u o = .ok c) ∧
        configs' = pushSharedConfigs h usage sharedConfigElems configs
  | [], _, configs, configs' => by simp [parseSharedConfigurations, pushSharedConfigs, eq_comm]
  | e :: rest, usage, configs, configs' => by
    cases ha : e.attributeValue "cameraId" with
    | none => simp [parseSharedConfigurations, ha]
    | some cameraId =>
      by_cases hid : cameraId = ""
      · simp [parseSharedConfigurations, ha, hid]
      cases hpo : parseOutputConfigurations h (usage 0) cameraId
          (e.childElements "OutputConfiguration") configs with
      | error err =>
        have : ¬ ∀ o ∈ e.childElements "OutputConfiguration", ∀ u, ∃ c,
            parseOutputConfiguration h u o = .ok c := fun hall => by
          rw [(parseOutputConfigurations_eq_ok h cameraId _ _ configs _).2 ⟨hall, rfl⟩] at hpo
          cases hpo
        simp only [parseSharedConfigurations, ha, hid, hpo, if_false, List.mem_cons, forall_eq_or_imp]
        simp [this]
      | ok m =>
        obtain ⟨hall, rfl⟩ := (parseOutputConfigurations_eq_ok h cameraId _ _ configs m).1 hpo
        simp only [parseSharedConfigurations, ha, hid, hpo, if_false,
          parseSharedConfigurations_eq_ok rest, List.mem_cons, forall_eq_or_imp]
        simp [hid, eq_true hall, pushSharedConfigs, ha]

theorem outputConfigsOf_eq_nil : ∀ {outputConfigElems : List XmlElement},
    (∀ o ∈ outputConfigElems, ∀ u, ∃ c, parseOutputConfiguration h u o = .ok c) →
      ∀ usage, outputConfigsOf h usage outputConfigElems = [] ↔ outputConfigElems = []
  | [], _, _ => by simp [outputConfigsOf]
  | o :: _, hall, usage => by
    obtain ⟨c, hc⟩ := hall o (List.mem_cons_self _ _) (usage 0)
    simp [outputConfigsOf, hc, Except.toOption]

theorem pushSharedConfigs_eq_nil : ∀ {sharedConfigElems : List XmlElement},
    (∀ e ∈ sharedConfigElems, ∀ o ∈ e.childElements "OutputConfiguration", ∀ u, ∃ c,
      parseOutputConfiguration h u o = .ok c) →
    ∀ usage configs, pushSharedConfigs h usage sharedConfigElems configs = [] ↔
      (∀ e ∈ sharedConfigElems, e.childElements "OutputConfiguration" = []) ∧ configs = []
  | [], _, _, configs => by simp [pushSharedConfigs]
  | e :: rest, hall, usage, configs => by
    rw [pushSharedConfigs, pushSharedConfigs_eq_nil (fun e' he' => hall e' (List.mem_cons_of_mem _ he')),
      foldl_pushConfig_eq_nil, outputConfigsOf_eq_nil h (hall e (List.mem_cons_self _ _))]
    simp only [List.mem_cons, forall_eq_or_imp]
    tauto

theorem nodup_keys_pushSharedConfigs : ∀ sharedConfigElems usage
    (configs : List (String × List SharedSessionConfig)), (configs.map Prod.fst).Nodup →
      ((pushSharedConfigs h usage sharedConfigElems configs).map Prod.fst).Nodup
  | [], _, _, hnd => hnd
  | _ :: rest, _, _, hnd => nodup_keys_pushSharedConfigs rest _ _ (nodup_keys_foldl_pushConfig _ _ _ hnd)

theorem lookup_pushSharedConfigs (k : String) : ∀ {sharedConfigElems : List XmlElement},
    (∀ e ∈ sharedConfigElems, ∃ cameraId, e.attributeValue "cameraId" = some cameraId) →
    ∀ usage configs, (pushSharedConfigs h usage sharedConfigElems configs).lookup k =
      if configsFor h usage sharedConfigElems k = [] then configs.lookup k
      else some ((configs.lookup k).getD [] ++ configsFor h usage sharedConfigElems k)
  | [], _, _, configs => by simp [pushSharedConfigs, configsFor]
  | e :: rest, hid, usage, configs => by
    obtain ⟨cameraId, hc⟩ := hid e (List.mem_cons_self _ _)
    rw [pushSharedConfigs, configsFor,
      lookup_pushSharedConfigs k (fun e' he' => hid e' (List.mem_cons_of_mem _ he')),
      lookup_foldl_pushConfig, hc]
    by_cases hk : cameraId = k <;>
      by_cases he : outputConfigsOf h (usage 0) (e.childElements "OutputConfiguration") = [] <;>
      simp [hk, he]

end Loops

theorem bind_ne_error_ok {α β : Type} {x : Except ErrorCode α} {f : α → Except ErrorCode β}
    (hx : x ≠ .error .statusOk) (hf : ∀ a, f a ≠ .error .statusOk) : x >>= f ≠ .error .statusOk := by
  cases x with
  | error e => simpa [bind, Except.bind] using hx
  | ok a => simpa [bind, Except.bind] using hf a

theorem getRequiredFromXml_ne_error_ok (valid : List Int) (xml : Option XmlElement) :
    getRequiredFromXml valid xml ≠ .error .statusOk := by
  unfold getRequiredFromXml; split <;> [simp; (split_ifs <;> simp)]

theorem getOptionalFromXml_ne_error_ok (default : Int) (valid : List Int) (xml : Option XmlElement) :
    getOptionalFromXml default valid xml ≠ .error .statusOk := by
  unfold getOptionalFromXml; split <;> [simp; (split_ifs <;> simp)]

theorem getDimensionFromXml_ne_error_ok (xml : Option XmlElement) :
    getDimensionFromXml xml ≠ .error .statusOk := by
  unfold getDimensionFromXml; split <;> simp

theorem getColorSpaceFromStr_ne_error_ok (h : Headers) (colorSpaceStr : Option String) :
    getColorSpaceFromStr h colorSpaceStr ≠ .error .statusOk := by
  unfold getColorSpaceFromStr; split <;> [simp; (split_ifs <;> simp)]

section Statuses
variable (h : Headers)

theorem parseOutputConfiguration_ne_error_ok (usage : Int) (outputConfigElem : XmlElement) :
    parseOutputConfiguration h usage outputConfigElem ≠ .error .statusOk := by
  unfold parseOutputConfiguration
  repeat' refine bind_ne_error_ok ?_ fun _ => ?_
  all_goals first
    | exact getRequiredFromXml_ne_error_ok _ _
    | exact getDimensionFromXml_ne_error_ok _
    | exact getOptionalFromXml_ne_error_ok _ _ _
    | skip
  · simp [getPhysicalCameraIdFromXml]
  · unfold getUseReadoutTimestampFromXml; split <;> [simp; (split_ifs <;> simp)]
  · unfold getFormatFromXml; split_ifs <;> [simp; exact getRequiredFromXml_ne_error_ok _ _]
  · -- the usage status: thrown only when it is not `STATUS_OK`
    split
    split_ifs with hs
    all_goals refine bind_ne_error_ok ?_ fun _ =>
      bind_ne_error_ok (getOptionalFromXml_ne_error_ok _ _ _) fun _ => ?_
    all_goals first | exact Except.noConfusion | exact fun e => hs (Except.error.inj e)

theorem parseOutputConfigurations_ne_error_ok (cameraId : String) :
    ∀ outputConfigElems (usage : Nat → Int) configs,
      parseOutputConfigurations h usage cameraId outputConfigElems configs ≠ .error .statusOk
  | [], _, _ => Except.noConfusion
  | o :: rest, usage, configs => by
    unfold parseOutputConfigurations
    cases hp : parseOutputConfiguration h (usage 0) o with
    | error e => rintro ⟨⟩; exact parseOutputConfiguration_ne_error_ok h (usage 0) o hp
    | ok c => exact parseOutputConfigurations_ne_error_ok cameraId rest _ _

theorem parseSharedConfigurations_ne_error_ok :
    ∀ sharedConfigElems (usage : Nat → Nat → Int) configs,
      parseSharedConfigurations h usage sharedConfigElems configs ≠ .error .statusOk
  | [], _, _ => Except.noConfusion
  | e :: rest, usage, configs => by
    unfold parseSharedConfigurations
    split
    · simp
    · split_ifs
      · simp
      · split
        · rename_i hpo; rintro ⟨⟩; exact parseOutputConfigurations_ne_error_ok h _ _ _ _ hpo
        · exact parseSharedConfigurations_ne_error_ok rest _ _

end Statuses

section Document
variable (h : Headers) (usage : Nat → Nat → Int) (rootElem : XmlElement)
  (reader : SharedSessionConfigReader)

theorem parseSharedConfigurations_nonempty_iff (sharedConfigElems : List XmlElement) :
    (∃ configs, parseSharedConfigurations h usage sharedConfigElems [] = .ok configs ∧ configs ≠ []) ↔
      (∀ e ∈ sharedConfigElems, (∃ cameraId, e.attributeValue "cameraId" = some cameraId ∧ cameraId ≠ "") ∧
        ∀ o ∈ e.childElements "OutputConfiguration", ∀ u, ∃ c, parseOutputConfiguration h u o = .ok c) ∧
      ∃ e ∈ sharedConfigElems, e.childElements "OutputConfiguration" ≠ [] := by
  simp only [parseSharedConfigurations_eq_ok]
  constructor
  · rintro ⟨_, ⟨hall, rfl⟩, hne⟩
    refine ⟨hall, ?_⟩
    by_contra hnone
    push_neg at hnone
    exact hne ((pushSharedConfigs_eq_nil h (fun e he => (hall e he).2) usage []).2 ⟨hnone, rfl⟩)
  · rintro ⟨hall, e, he, hne⟩
    refine ⟨_, ⟨hall, rfl⟩, fun hnil => hne ?_⟩
    exact ((pushSharedConfigs_eq_nil h (fun e he => (hall e he).2) usage []).1 hnil).1 e he

theorem parseSharedSessionConfigFromXMLDocument_spec :
    let result := parseSharedSessionConfigFromXMLDocument h usage rootElem reader
    let colorSpace := getColorSpaceFromStr h (rootElem.attributeValue "colorSpace")
    let parsed := parseSharedConfigurations h usage (rootElem.childElements "SharedCameraSessionConfiguration") []
    (result.1 = .statusOk ∧ ∃ cs configs, rootElem.name = "SharedCameraSessionConfigurations" ∧
        colorSpace = .ok cs ∧ parsed = .ok configs ∧ configs ≠ [] ∧ result.2 = ⟨cs, configs⟩) ∨
      (result.1 ≠ .statusOk ∧
        ¬ (rootElem.name = "SharedCameraSessionConfigurations" ∧ (∃ cs, colorSpace = .ok cs) ∧
          ∃ configs, parsed = .ok configs ∧ configs ≠ []) ∧
        result.2 = { reader with mColorSpace :=
          if rootElem.name = "SharedCameraSessionConfigurations" then colorSpace.toOption.getD reader.mColorSpace
          else reader.mColorSpace }) := by
  intro result colorSpace parsed
  simp only [result, parseSharedSessionConfigFromXMLDocument]
  by_cases hn : rootElem.name = "SharedCameraSessionConfigurations"
  swap
  · simp [hn]
  simp only [hn, ne_eq, not_true_eq_false, if_false, true_and, if_true]
  cases hc : getColorSpaceFromStr h (rootElem.attributeValue "colorSpace") with
  | error s =>
    have := getColorSpaceFromStr_ne_error_ok h (rootElem.attributeValue "colorSpace")
    simp_all [colorSpace, Except.toOption]
  | ok cs =>
    simp only [colorSpace, hc, Except.ok.injEq, exists_eq', true_and, Except.toOption, Option.getD_some]
    cases hp : parsed with
    | error s =>
      have := parseSharedConfigurations_ne_error_ok h
        (rootElem.childElements "SharedCameraSessionConfiguration") usage []
      simp only [parsed] at hp
      simp_all
    | ok configs =>
      simp only [parsed] at hp
      by_cases he : configs = [] <;> simp [hp, he]

theorem parseSharedSessionConfigFromXMLDocument_accepts :
    ((parseSharedSessionConfigFromXMLDocument h usage rootElem reader).1 = .statusOk ↔
      rootElem.name = "SharedCameraSessionConfigurations" ∧
      (∃ cs, getColorSpaceFromStr h (rootElem.attributeValue "colorSpace") = .ok cs) ∧
      (∀ e ∈ rootElem.childElements "SharedCameraSessionConfiguration",
        (∃ cameraId, e.attributeValue "cameraId" = some cameraId ∧ cameraId ≠ "") ∧
        ∀ o ∈ e.childElements "OutputConfiguration", ∀ u, ∃ c, parseOutputConfiguration h u o = .ok c) ∧
      ∃ e ∈ rootElem.childElements "SharedCameraSessionConfiguration",
        e.childElements "OutputConfiguration" ≠ []) ∧
    ((parseSharedSessionConfigFromXMLDocument h usage rootElem reader).1 = .statusOk →
      ((parseSharedSessionConfigFromXMLDocument h usage rootElem reader).2.mCameraIdToSharedSessionConfigs.map
        Prod.fst).Nodup ∧
      ∀ cameraId,
        (parseSharedSessionConfigFromXMLDocument h usage rootElem reader).2.mCameraIdToSharedSessionConfigs.lookup
            cameraId =
          if configsFor h usage (rootElem.childElements "SharedCameraSessionConfiguration") cameraId = [] then none
          else some (configsFor h usage (rootElem.childElements "SharedCameraSessionConfiguration") cameraId)) := by
  rcases parseSharedSessionConfigFromXMLDocument_spec h usage rootElem reader with
    ⟨hok, cs, configs, hn, hc, hp, hne, hr⟩ | ⟨hok, hnot, -⟩
  · obtain ⟨hall, rfl⟩ := (parseSharedConfigurations_eq_ok h _ usage [] configs).1 hp
    refine ⟨iff_of_true hok ⟨hn, ⟨cs, hc⟩,
      (parseSharedConfigurations_nonempty_iff h usage _).1 ⟨_, hp, hne⟩⟩, fun _ => ?_⟩
    rw [hr]
    refine ⟨nodup_keys_pushSharedConfigs h _ usage [] List.nodup_nil, fun cameraId => ?_⟩
    rw [lookup_pushSharedConfigs h cameraId (fun e he => ((hall e he).1).imp fun _ => And.left)]
    simp
  · exact ⟨iff_of_false hok fun ⟨hn, hc, hrest⟩ =>
      hnot ⟨hn, hc, (parseSharedConfigurations_nonempty_iff h usage _).2 hrest⟩, fun hs => absurd hs hok⟩

/- Two elements for camera 0: one entry, their records in document order. -/
example :
    let outputConfig (width : String) : XmlElement := ⟨"OutputConfiguration", [], none,
      [⟨"surfaceType", [], some "0", []⟩, ⟨"width", [], some width, []⟩, ⟨"height", [], some "1080", []⟩]⟩
    let doc : XmlElement := ⟨"SharedCameraSessionConfigurations", [("colorSpace", "0")], none,
      [⟨"SharedCameraSessionConfiguration", [("cameraId", "0")], none, [outputConfig "1920"]⟩,
       ⟨"SharedCameraSessionConfiguration", [("cameraId", "0")], none, [outputConfig "640"]⟩]⟩
    let result := parseSharedSessionConfigFromXMLDocument platformHeaders (fun _ _ => 0) doc ⟨-1, []⟩
    result.1 = .statusOk ∧ result.2.mColorSpace = 0 ∧
      (result.2.mCameraIdToSharedSessionConfigs.map fun e => (e.1, e.2.map (·.width))) =
        [("0", [1920, 640])] := by
  decide

theorem parseSharedSessionConfigFromXMLDocument_writes :
    ((parseSharedSessionConfigFromXMLDocument h usage rootElem reader).1 = .statusOk →
      getColorSpaceFromStr h (rootElem.attributeValue "colorSpace") =
        .ok (parseSharedSessionConfigFromXMLDocument h usage rootElem reader).2.mColorSpace ∧
      (parseSharedSessionConfigFromXMLDocument h usage rootElem reader).2.mCameraIdToSharedSessionConfigs =
        pushSharedConfigs h usage (rootElem.childElements "SharedCameraSessionConfiguration") []) ∧
    ((parseSharedSessionConfigFromXMLDocument h usage rootElem reader).1 ≠ .statusOk →
      (parseSharedSessionConfigFromXMLDocument h usage rootElem reader).2.mCameraIdToSharedSessionConfigs =
        reader.mCameraIdToSharedSessionConfigs ∧
      (parseSharedSessionConfigFromXMLDocument h usage rootElem reader).2.mColorSpace =
        if rootElem.name = "SharedCameraSessionConfigurations" then
          (getColorSpaceFromStr h (rootElem.attributeValue "colorSpace")).toOption.getD reader.mColorSpace
        else reader.mColorSpace) := by
  rcases parseSharedSessionConfigFromXMLDocument_spec h usage rootElem reader with
    ⟨hok, cs, configs, -, hc, hp, -, hr⟩ | ⟨hok, -, hr⟩
  · obtain ⟨-, rfl⟩ := (parseSharedConfigurations_eq_ok h _ usage [] configs).1 hp
    exact ⟨fun _ => by rw [hr]; exact ⟨hc, rfl⟩, fun hs => absurd hok hs⟩
  · exact ⟨fun hs => absurd hs hok, fun _ => by rw [hr]; exact ⟨rfl, rfl⟩⟩

theorem parseSharedSessionConfigFromXMLDocument_empty_document :
    (parseSharedSessionConfigFromXMLDocument platformHeaders (fun _ _ => 0)
        ⟨"SharedCameraSessionConfigurations", [], none, []⟩ ⟨0, []⟩).1 = .errorConfigFileFormat ∧
      (parseSharedSessionConfigFromXMLDocument platformHeaders (fun _ _ => 0)
        ⟨"SharedCameraSessionConfigurations", [], none, []⟩ ⟨0, []⟩).2.mColorSpace = -1 :=
  ⟨by decide,
    ((parseSharedSessionConfigFromXMLDocument_writes platformHeaders (fun _ _ => 0)
      ⟨"SharedCameraSessionConfigurations", [], none, []⟩ ⟨0, []⟩).2 (by decide)).2.trans (by decide)⟩

end Document

end CameraService.Config
