import Mathlib.Data.List.Basic
import Mathlib.Data.Nat.Digits
import CameraService.Config.Reader

/-! A writer for `shared_session_config.xml`, outside src/, and the round trip through the
reader: from `strtol` on decimal text and `splitString` on `|`-joined flags, up to one field, one
`OutputConfiguration` and one document. -/

namespace CameraService.Config

theorem digitValue_digitChar : ∀ k < 10, digitValue (Nat.digitChar k) = k := by decide

theorem digitChar_ne_zero : ∀ k < 10, k ≠ 0 → Nat.digitChar k ≠ '0' := by decide

theorem parseDigits_ten : ∀ (cs : List Char) (acc : Nat), (∀ c ∈ cs, digitValue c < 10) →
    parseDigits 10 cs acc = cs.foldl (fun a c => a * 10 + digitValue c) acc
  | [], _, _ => rfl
  | c :: cs, acc, h => by
    rw [parseDigits, if_pos (h c (List.mem_cons_self _ _)), List.foldl_cons,
      parseDigits_ten cs _ fun c hc => h c (List.mem_cons_of_mem _ hc)]

theorem foldl_toDigitsCore : ∀ fuel n ds, n < fuel →
    (Nat.toDigitsCore 10 fuel n ds).foldl (fun a c => a * 10 + digitValue c) 0 =
      ds.foldl (fun a c => a * 10 + digitValue c) n
  | 0, _, _, h => absurd h (Nat.not_lt_zero _)
  | fuel + 1, n, ds, h => by
    have hd := digitValue_digitChar (n % 10) (Nat.mod_lt _ (by decide))
    rw [Nat.toDigitsCore]
    split_ifs with h0
    · rw [List.foldl_cons, hd]
      congr 1
      omega
    · rw [foldl_toDigitsCore fuel (n / 10) _ (by omega), List.foldl_cons, hd, Nat.div_add_mod']

theorem mem_toDigitsCore : ∀ fuel n ds, ∀ c ∈ Nat.toDigitsCore 10 fuel n ds, c ∈ ds ∨ digitValue c < 10
  | 0, _, _, c, hc => .inl hc
  | fuel + 1, n, ds, c, hc => by
    have hd := digitValue_digitChar (n % 10) (Nat.mod_lt _ (by decide))
    rw [Nat.toDigitsCore] at hc
    split_ifs at hc
    · rcases List.mem_cons.1 hc with rfl | hc
      · exact .inr (by rw [hd]; exact Nat.mod_lt _ (by decide))
      · exact .inl hc
    · rcases mem_toDigitsCore fuel (n / 10) _ c hc with hc | hc
      · rcases List.mem_cons.1 hc with rfl | hc
        · exact .inr (by rw [hd]; exact Nat.mod_lt _ (by decide))
        · exact .inl hc
      · exact .inr hc

theorem toDigitsCore_head : ∀ fuel n ds, n < fuel → n ≠ 0 →
    ∃ c rest, Nat.toDigitsCore 10 fuel n ds = c :: rest ∧ c ≠ '0'
  | 0, _, _, h, _ => absurd h (Nat.not_lt_zero _)
  | fuel + 1, n, ds, h, hn => by
    rw [Nat.toDigitsCore]
    split_ifs with h0
    · exact ⟨_, _, rfl, digitChar_ne_zero _ (Nat.mod_lt _ (by decide)) (by omega)⟩
    · exact toDigitsCore_head fuel (n / 10) _ (by omega) h0

theorem toNat_of_digitValue_lt {c : Char} (h : digitValue c < 10) : 48 ≤ c.toNat ∧ c.toNat ≤ 57 := by
  unfold digitValue at h
  split_ifs at h with h₁ h₂ h₃
  · simp only [Char.le_def] at h₁
    exact ⟨h₁.1, h₁.2⟩
  all_goals omega

def decimalValue (cs : List Char) : Nat := cs.foldl (fun a c => a * 10 + digitValue c) 0

section Matches

universe u

variable {motive : List Char → Sort u} {c : Char} (cs : List Char)

theorem strtol_match_1_minus (h₁ : (rest : List Char) → motive ('-' :: rest))
    (h₂ : (rest : List Char) → motive ('+' :: rest)) (h₃ : (rest : List Char) → motive rest) :
    strtol.match_1 motive ('-' :: cs) h₁ h₂ h₃ = h₁ cs := rfl

theorem strtol_match_1_of_ne (h₁ : (rest : List Char) → motive ('-' :: rest))
    (h₂ : (rest : List Char) → motive ('+' :: rest)) (h₃ : (rest : List Char) → motive rest)
    (hm : c ≠ '-') (hp : c ≠ '+') :
    strtol.match_1 motive (c :: cs) h₁ h₂ h₃ = h₃ (c :: cs) := by
  delta strtol.match_1
  dsimp only
  rw [dif_neg hm, dif_neg hp]

theorem strtol_match_2_of_ne (h₁ : (x d : Char) → (rest : List Char) → motive ('0' :: x :: d :: rest))
    (h₂ : (tail : List Char) → motive ('0' :: tail)) (h₃ : (x : List Char) → motive x)
    (h0 : c ≠ '0') :
    strtol.match_2 motive (c :: cs) h₁ h₂ h₃ = h₃ (c :: cs) := by
  delta strtol.match_2
  dsimp only
  rw [dif_neg h0]

end Matches

theorem strtol_decimal (negative : Bool) (c : Char) (cs : List Char)
    (hd : ∀ d ∈ c :: cs, digitValue d < 10) (h0 : c ≠ '0') :
    strtol (String.mk ((if negative then ['-'] else []) ++ c :: cs)) =
      max (-2 ^ 63) (min (2 ^ 63 - 1)
        (if negative then -(decimalValue (c :: cs) : Int) else decimalValue (c :: cs))) := by
  have hc := toNat_of_digitValue_lt (hd c (List.mem_cons_self _ _))
  have hne : ∀ d : Char, d.toNat < 48 → c ≠ d := fun d hd he => by subst he; omega
  have hsp : isSpace c = false := by
    have := hne ' ' (by decide)
    unfold isSpace
    rw [Bool.or_eq_false_iff, Bool.and_eq_false_iff, beq_eq_false_iff_ne]
    exact ⟨this, .inr (decide_eq_false (by omega))⟩
  have hdrop : ((if negative then ['-'] else []) ++ c :: cs).dropWhile isSpace =
      (if negative then ['-'] else []) ++ c :: cs := by
    have hminus : isSpace '-' = false := by decide
    cases negative <;> simp only [Bool.false_eq_true, if_true, if_false, List.nil_append,
      List.singleton_append, List.dropWhile_cons, hsp, hminus]
  have hval : parseDigits 10 (c :: cs) 0 = decimalValue (c :: cs) := parseDigits_ten _ _ hd
  dsimp only [strtol, String.toList]
  rw [hdrop]
  cases negative <;> simp only [Bool.false_eq_true, if_true, if_false, List.nil_append,
    List.singleton_append, strtol_match_1_minus, strtol_match_1_of_ne _ _ _ _ (hne '-' (by decide))
      (hne '+' (by decide)), strtol_match_2_of_ne _ _ _ _ h0, hval]

theorem toDigits_decimal {m : Nat} (hm : m ≠ 0) :
    ∃ c cs, Nat.toDigits 10 m = c :: cs ∧ c ≠ '0' ∧ (∀ d ∈ c :: cs, digitValue d < 10) ∧
      decimalValue (c :: cs) = m := by
  obtain ⟨c, cs, he, h0⟩ := toDigitsCore_head (m + 1) m [] (Nat.lt_succ_self m) hm
  refine ⟨c, cs, he, h0, fun d hd => ?_, ?_⟩
  · rw [← he] at hd
    exact (mem_toDigitsCore _ _ _ d hd).resolve_left (List.not_mem_nil d)
  · rw [decimalValue, ← he, foldl_toDigitsCore _ _ _ (Nat.lt_succ_self m)]
    rfl

theorem strtol_toString (n : Int) (hlo : -2 ^ 63 ≤ n) (hhi : n < 2 ^ 63) : strtol (toString n) = n := by
  cases n with
  | ofNat m =>
    by_cases hm : m = 0
    · subst hm; decide
    obtain ⟨c, cs, he, h0, hd, hv⟩ := toDigits_decimal hm
    have := strtol_decimal false c cs hd h0
    simp only [if_false, Bool.false_eq_true, List.nil_append, hv] at this
    show strtol (String.mk (Nat.toDigits 10 m)) = m
    rw [he, this]
    simp only [Int.ofNat_eq_coe] at hhi ⊢
    omega
  | negSucc m =>
    obtain ⟨c, cs, he, h0, hd, hv⟩ := toDigits_decimal (Nat.succ_ne_zero m)
    have := strtol_decimal true c cs hd h0
    simp only [if_true, List.singleton_append, hv] at this
    show strtol (String.mk ('-' :: Nat.toDigits 10 (m + 1))) = Int.negSucc m
    rw [he, this, Int.negSucc_eq]
    rw [Int.negSucc_eq] at hlo
    omega

def joinTokens : List (List Char) → List Char
  | [] => []
  | [t] => t
  | t :: t' :: ts => t ++ '|' :: joinTokens (t' :: ts)

section Getline
variable (delimiter : Char)

theorem getlineTokens_append_delimiter : ∀ (t acc rest : List Char), delimiter ∉ t →
    getlineTokens delimiter (t ++ delimiter :: rest) acc =
      String.mk (acc ++ t) :: getlineTokens delimiter rest []
  | [], acc, rest, _ => by simp [getlineTokens]
  | c :: t, acc, rest, h => by
    have hc : c ≠ delimiter := fun e => h (e ▸ List.mem_cons_self _ _)
    rw [List.cons_append, getlineTokens, if_neg hc,
      getlineTokens_append_delimiter t _ rest fun e => h (List.mem_cons_of_mem _ e)]
    simp

theorem getlineTokens_last : ∀ (t acc : List Char), delimiter ∉ t → acc ++ t ≠ [] →
    getlineTokens delimiter t acc = [String.mk (acc ++ t)]
  | [], acc, _, hne => by
    cases acc with
    | nil => exact absurd rfl hne
    | cons c cs => simp [getlineTokens]
  | c :: t, acc, h, _ => by
    have hc : c ≠ delimiter := fun e => h (e ▸ List.mem_cons_self _ _)
    rw [getlineTokens, if_neg hc, getlineTokens_last t _ (fun e => h (List.mem_cons_of_mem _ e)) (by simp)]
    simp

end Getline

theorem splitString_joinTokens : ∀ (ts : List (List Char)), ts ≠ [] → (∀ t ∈ ts, '|' ∉ t) →
    ts.getLast? ≠ some [] → splitString (String.mk (joinTokens ts)) '|' = ts.map String.mk
  | [], h, _, _ => absurd rfl h
  | [t], _, hd, hl => by
    have : t ≠ [] := fun e => hl (by simp [e])
    simp [splitString, joinTokens, getlineTokens_last '|' t [] (hd t (List.mem_singleton_self _)) (by simpa)]
  | t :: t' :: ts, _, hd, hl => by
    have := splitString_joinTokens (t' :: ts) (List.cons_ne_nil _ _)
      (fun u hu => hd u (List.mem_cons_of_mem _ hu)) (by simpa using hl)
    simp only [splitString, String.toList] at this ⊢
    rw [joinTokens, getlineTokens_append_delimiter '|' t [] _ (hd t (List.mem_cons_self _ _)), this]
    simp

def InLong (v : Int) : Prop := -2 ^ 63 ≤ v ∧ v < 2 ^ 63

instance (v : Int) : Decidable (InLong v) := inferInstanceAs (Decidable (_ ∧ _))

def textElement (name text : String) : XmlElement := ⟨name, [], some text, []⟩

def usageText (usageFlags : List Int) : String :=
  String.mk (joinTokens (usageFlags.map fun f => (toString f).toList))

def renderOutputConfiguration (config : SharedSessionConfig) (usageFlags : List Int) : XmlElement :=
  ⟨"OutputConfiguration", [], none,
    [textElement "surfaceType" (toString config.surfaceType),
      textElement "width" (toString config.width),
      textElement "height" (toString config.height),
      textElement "physicalCameraId" config.physicalCameraId,
      textElement "streamUseCase" (toString config.streamUseCase),
      textElement "timestampBase" (toString config.timestampBase),
      textElement "mirrorMode" (toString config.mirrorMode),
      textElement "useReadoutTimestamp" (if config.useReadoutTimestamp then "1" else "0"),
      textElement "format" (toString config.format),
      textElement "usage" (usageText usageFlags),
      textElement "dataSpace" (toString config.dataSpace)]⟩

def renderSharedConfiguration (cameraId : String) (records : List (SharedSessionConfig × List Int)) :
    XmlElement :=
  ⟨"SharedCameraSessionConfiguration", [("cameraId", cameraId)], none,
    records.map fun r => renderOutputConfiguration r.1 r.2⟩

def renderDocument (colorSpace : Int)
    (groups : List (String × List (SharedSessionConfig × List Int))) : XmlElement :=
  ⟨"SharedCameraSessionConfigurations", [("colorSpace", toString colorSpace)], none,
    groups.map fun g => renderSharedConfiguration g.1 g.2⟩

/-- The usage `getUsageFromXml` gives a surface type and the flags written for it when `*usage`
held `usage`: the defaults, `AHARDWAREBUFFER_USAGE_CPU_READ_NEVER` without flags, or the flags
ORed into `usage`. -/
def writtenUsage (h : Headers) (surfaceType : Int) (usageFlags : List Int) (usage : Int) : Int :=
  if surfaceType = h.surfaceTypeSurfaceTexture then h.usageGpuSampledImage
  else if surfaceType = h.surfaceTypeSurfaceView then
    Int.lor h.usageGpuSampledImage h.usageComposerOverlay
  else if surfaceType = h.surfaceTypeMediaRecorder ∨ surfaceType = h.surfaceTypeMediaCodec then
    h.usageVideoEncode
  else if usageFlags = [] then h.usageCpuReadNever
  else usageFlags.foldl Int.lor usage

structure Writable (h : Headers) (config : SharedSessionConfig) (usageFlags : List Int) : Prop where
  longs : ∀ v ∈ [config.surfaceType, config.width, config.height, config.streamUseCase,
    config.timestampBase, config.mirrorMode, config.format, config.dataSpace], InLong v
  surfaceType_valid : config.surfaceType ∈ h.validSurfaceTypes
  streamUseCase_valid : config.streamUseCase ∈ h.validStreamUseCases
  timestampBase_valid : config.timestampBase ∈ h.validTimestampBases
  mirrorMode_valid : config.mirrorMode ∈ h.validMirrorModes
  format_valid : if config.surfaceType = h.surfaceTypeImageReader then config.format ∈ h.validFormats
    else config.format = h.pixelFormatImplementationDefined
  usageFlags_valid : ∀ f ∈ usageFlags, f ∈ h.validUsages ∧ InLong f
  usage_eq : config.usage = writtenUsage h config.surfaceType usageFlags 0
  dataSpace_valid : config.dataSpace ∈ h.validDataSpaces

instance (h : Headers) (config : SharedSessionConfig) (usageFlags : List Int) :
    Decidable (Writable h config usageFlags) :=
  decidable_of_iff ((∀ v ∈ [config.surfaceType, config.width, config.height, config.streamUseCase,
      config.timestampBase, config.mirrorMode, config.format, config.dataSpace], InLong v) ∧
    config.surfaceType ∈ h.validSurfaceTypes ∧ config.streamUseCase ∈ h.validStreamUseCases ∧
    config.timestampBase ∈ h.validTimestampBases ∧ config.mirrorMode ∈ h.validMirrorModes ∧
    (if config.surfaceType = h.surfaceTypeImageReader then config.format ∈ h.validFormats
      else config.format = h.pixelFormatImplementationDefined) ∧
    (∀ f ∈ usageFlags, f ∈ h.validUsages ∧ InLong f) ∧
    config.usage = writtenUsage h config.surfaceType usageFlags 0 ∧
    config.dataSpace ∈ h.validDataSpaces)
    ⟨fun ⟨a, b, c, d, e, f, g, i, j⟩ => ⟨a, b, c, d, e, f, g, i, j⟩,
      fun ⟨a, b, c, d, e, f, g, i, j⟩ => ⟨a, b, c, d, e, f, g, i, j⟩⟩

theorem toString_chars (n : Int) : (toString n).toList ≠ [] ∧ '|' ∉ (toString n).toList := by
  have hdigits : ∀ m, Nat.toDigits 10 m ≠ [] ∧ '|' ∉ Nat.toDigits 10 m := fun m => by
    refine ⟨?_, fun hm => ?_⟩
    · by_cases h0 : m = 0
      · subst h0; decide
      · obtain ⟨c, cs, he, -⟩ := toDigits_decimal h0
        rw [he]
        exact List.cons_ne_nil _ _
    · have := (mem_toDigitsCore _ _ _ _ hm).resolve_left (List.not_mem_nil _)
      exact absurd this (by decide)
  cases n with
  | ofNat m => exact hdigits m
  | negSucc m =>
    show '-' :: Nat.toDigits 10 (m + 1) ≠ [] ∧ '|' ∉ '-' :: Nat.toDigits 10 (m + 1)
    simpa using (hdigits (m + 1)).2

theorem fieldText_textElement (name : String) {text : String} (h : text.toList ≠ []) :
    fieldText (some (textElement name text)) = some text := by
  have : text ≠ "" := fun e => h (by rw [e]; rfl)
  simp [fieldText, textElement, this]

theorem fieldText_toString (name : String) (v : Int) :
    fieldText (some (textElement name (toString v))) = some (toString v) :=
  fieldText_textElement name (toString_chars v).1

theorem getRequiredFromXml_toString (name : String) {valid : List Int} {v : Int} (hv : v ∈ valid)
    (hl : InLong v) : getRequiredFromXml valid (some (textElement name (toString v))) = .ok v := by
  simp [getRequiredFromXml, fieldText_toString, strtol_toString v hl.1 hl.2, hv]

theorem getOptionalFromXml_toString (name : String) (default : Int) {valid : List Int} {v : Int}
    (hv : v ∈ valid) (hl : InLong v) :
    getOptionalFromXml default valid (some (textElement name (toString v))) = .ok v := by
  simp [getOptionalFromXml, fieldText_toString, strtol_toString v hl.1 hl.2, hv]

theorem getDimensionFromXml_toString (name : String) {v : Int} (hl : InLong v) :
    getDimensionFromXml (some (textElement name (toString v))) = .ok v := by
  simp [getDimensionFromXml, fieldText_toString, strtol_toString v hl.1 hl.2]

theorem splitString_usageText {usageFlags : List Int} (hne : usageFlags ≠ []) :
    splitString (usageText usageFlags) '|' = usageFlags.map toString := by
  have hts : ∀ t ∈ usageFlags.map fun f => (toString f).toList, t ≠ [] ∧ '|' ∉ t := by
    simp only [List.mem_map]
    rintro _ ⟨f, -, rfl⟩
    exact toString_chars f
  rw [usageText, splitString_joinTokens _ (by simpa using hne) (fun t ht => (hts t ht).2)
    (fun hl => (hts [] (List.mem_of_getLast?_eq_some hl)).1 rfl), List.map_map]
  rfl

theorem getUsageFromXml_usageText (h : Headers) (surfaceType : Int) {usageFlags : List Int}
    (hv : ∀ f ∈ usageFlags, f ∈ h.validUsages ∧ InLong f) (usage : Int) :
    getUsageFromXml h (some (textElement "usage" (usageText usageFlags))) usage surfaceType =
      (.statusOk, writtenUsage h surfaceType usageFlags usage) := by
  unfold getUsageFromXml writtenUsage
  split_ifs with h₁ h₂ h₃ h₄
  any_goals rfl
  · subst h₄
    rfl
  · have hne : (usageText usageFlags).toList ≠ [] := by
      obtain ⟨f, fs, rfl⟩ := List.exists_cons_of_ne_nil h₄
      have hf := (toString_chars f).1
      simp only [String.toList] at hf
      cases fs <;> simp [usageText, joinTokens, hf]
    have hloop := usageLoop_spec h.validUsages (usageFlags.map toString) usage
    have hstrtol : ∀ f ∈ usageFlags, strtol (toString f) = f := fun f hf =>
      strtol_toString f (hv f hf).2.1 (hv f hf).2.2
    have hok : (usageLoop h.validUsages (usageFlags.map toString) usage).1 = .statusOk :=
      hloop.1.2 fun s hs => by
        obtain ⟨f, hf, rfl⟩ := List.mem_map.1 hs
        rw [hstrtol f hf]
        exact (hv f hf).1
    rw [fieldText_textElement _ hne]
    dsimp only
    rw [splitString_usageText h₄]
    refine Prod.ext hok ((hloop.2 hok).trans ?_)
    rw [List.foldl_map]
    exact List.foldl_ext _ _ _ fun acc f hf => by rw [hstrtol f hf]

theorem firstChildElement_render (config : SharedSessionConfig) (usageFlags : List Int) :
    let field := (renderOutputConfiguration config usageFlags).firstChildElement
    field "surfaceType" = some (textElement "surfaceType" (toString config.surfaceType)) ∧
      field "width" = some (textElement "width" (toString config.width)) ∧
      field "height" = some (textElement "height" (toString config.height)) ∧
      field "physicalCameraId" = some (textElement "physicalCameraId" config.physicalCameraId) ∧
      field "streamUseCase" = some (textElement "streamUseCase" (toString config.streamUseCase)) ∧
      field "timestampBase" = some (textElement "timestampBase" (toString config.timestampBase)) ∧
      field "mirrorMode" = some (textElement "mirrorMode" (toString config.mirrorMode)) ∧
      field "useReadoutTimestamp" = some (textElement "useReadoutTimestamp"
        (if config.useReadoutTimestamp then "1" else "0")) ∧
      field "format" = some (textElement "format" (toString config.format)) ∧
      field "usage" = some (textElement "usage" (usageText usageFlags)) ∧
      field "dataSpace" = some (textElement "dataSpace" (toString config.dataSpace)) :=
  ⟨rfl, rfl, rfl, rfl, rfl, rfl, rfl, rfl, rfl, rfl, rfl⟩

theorem parseOutputConfiguration_render (h : Headers) {config : SharedSessionConfig}
    {usageFlags : List Int} (hw : Writable h config usageFlags) (usage : Int) :
    parseOutputConfiguration h usage (renderOutputConfiguration config usageFlags) =
      .ok { config with usage := writtenUsage h config.surfaceType usageFlags usage } := by
  obtain ⟨h₁, h₂, h₃, h₄, h₅, h₆, h₇, h₈, h₉, h₁₀, h₁₁⟩ := firstChildElement_render config usageFlags
  have hl : ∀ v ∈ _, InLong v := hw.longs
  simp only [List.mem_cons, List.mem_singleton, forall_eq_or_imp, forall_eq, List.not_mem_nil,
    or_false] at hl
  obtain ⟨lst, lw, lh, lsu, ltb, lmm, lf, lds⟩ := hl
  have hformat : getFormatFromXml h (some (textElement "format" (toString config.format)))
      config.surfaceType = .ok config.format := by
    have := hw.format_valid
    unfold getFormatFromXml
    by_cases hst : config.surfaceType = h.surfaceTypeImageReader
    · rw [if_pos hst] at this
      rw [if_neg (not_not.2 hst)]
      exact getRequiredFromXml_toString _ this lf
    · rw [if_neg hst] at this
      rw [if_pos hst]
      exact congrArg Except.ok this.symm
  have hreadout : ∀ b : Bool, getUseReadoutTimestampFromXml
      (some (textElement "useReadoutTimestamp" (if b then "1" else "0"))) = .ok b := by
    intro b; cases b <;> rfl
  have husage := getUsageFromXml_usageText h config.surfaceType hw.usageFlags_valid usage
  simp only [parseOutputConfiguration, h₁, h₂, h₃, h₄, h₅, h₆, h₇, h₈, h₉, h₁₀, h₁₁,
    getSurfaceTypeFromXml, getRequiredFromXml_toString _ hw.surfaceType_valid lst,
    getWidthFromXml, getHeightFromXml, getDimensionFromXml_toString _ lw,
    getDimensionFromXml_toString _ lh, getStreamUseCaseFromXml, getTimestampBaseFromXml,
    getMirrorModeFromXml, getDataSpaceFromXml,
    getOptionalFromXml_toString _ _ hw.streamUseCase_valid lsu,
    getOptionalFromXml_toString _ _ hw.timestampBase_valid ltb,
    getOptionalFromXml_toString _ _ hw.mirrorMode_valid lmm,
    getOptionalFromXml_toString _ _ hw.dataSpace_valid lds, hreadout, bind, Except.bind]
  simp only [hformat, husage]
  rfl

section Document
variable (h : Headers)

theorem attributeValue_single (name key value : String) (text : Option String)
    (children : List XmlElement) :
    (⟨name, [(key, value)], text, children⟩ : XmlElement).attributeValue key = some value := by
  simp [XmlElement.attributeValue]

def readBack : (Nat → Int) → List (SharedSessionConfig × List Int) → List SharedSessionConfig
  | _, [] => []
  | usage, r :: rs => { r.1 with usage := writtenUsage h r.1.surfaceType r.2 (usage 0) } ::
      readBack (fun j => usage (j + 1)) rs

def readBackFor : (Nat → Nat → Int) → List (String × List (SharedSessionConfig × List Int)) →
    String → List SharedSessionConfig
  | _, [], _ => []
  | usage, g :: gs, cameraId =>
    (if g.1 = cameraId then readBack h (usage 0) g.2 else []) ++
      readBackFor (fun i => usage (i + 1)) gs cameraId

theorem childElements_renderSharedConfiguration (cameraId : String)
    (records : List (SharedSessionConfig × List Int)) :
    (renderSharedConfiguration cameraId records).childElements "OutputConfiguration" =
      records.map fun r => renderOutputConfiguration r.1 r.2 :=
  List.filter_eq_self.2 fun o ho => by
    obtain ⟨r, -, rfl⟩ := List.mem_map.1 ho
    rfl

theorem outputConfigsOf_render : ∀ {records : List (SharedSessionConfig × List Int)},
    (∀ r ∈ records, Writable h r.1 r.2) → ∀ usage,
      (∀ o ∈ records.map (fun r => renderOutputConfiguration r.1 r.2), ∀ u, ∃ c,
        parseOutputConfiguration h u o = .ok c) ∧
      outputConfigsOf h usage (records.map fun r => renderOutputConfiguration r.1 r.2) =
        readBack h usage records
  | [], _, _ => by simp [outputConfigsOf, readBack]
  | r :: rs, hw, usage => by
    have hr := parseOutputConfiguration_render h (hw r (List.mem_cons_self _ _))
    obtain ⟨ih₁, ih₂⟩ := outputConfigsOf_render (fun r' hr' => hw r' (List.mem_cons_of_mem _ hr'))
      fun j => usage (j + 1)
    simp only [List.map_cons, List.mem_cons, forall_eq_or_imp, outputConfigsOf, hr, readBack, ih₂]
    exact ⟨⟨fun _ => ⟨_, rfl⟩, ih₁⟩, rfl⟩

theorem configsFor_render {groups : List (String × List (SharedSessionConfig × List Int))}
    (hw : ∀ g ∈ groups, ∀ r ∈ g.2, Writable h r.1 r.2) (usage : Nat → Nat → Int)
    (cameraId : String) :
    configsFor h usage (groups.map fun g => renderSharedConfiguration g.1 g.2) cameraId =
      readBackFor h usage groups cameraId := by
  induction groups generalizing usage with
  | nil => rfl
  | cons g gs ih =>
    have hg := (outputConfigsOf_render h (hw g (List.mem_cons_self _ _)) (usage 0)).2
    simp only [List.map_cons, configsFor, readBackFor, childElements_renderSharedConfiguration, hg,
      ih (fun g' hg' => hw g' (List.mem_cons_of_mem _ hg'))]
    simp [renderSharedConfiguration, attributeValue_single]

theorem getColorSpaceFromStr_toString {colorSpace : Int} (hcs : colorSpace ∈ h.validColorSpaces)
    (h32 : -2 ^ 31 ≤ colorSpace ∧ colorSpace < 2 ^ 31) :
    getColorSpaceFromStr h (some (toString colorSpace)) = .ok colorSpace := by
  have hne : toString colorSpace ≠ "" := fun e => (toString_chars colorSpace).1 (by rw [e]; rfl)
  have hb : Int.bmod colorSpace (2 ^ 32) = colorSpace := by
    simp only [Int.bmod]
    split_ifs <;> omega
  unfold getColorSpaceFromStr
  dsimp only
  rw [if_neg hne, strtol_toString colorSpace (by omega) (by omega), hb, if_pos hcs]

theorem parseSharedSessionConfigFromXMLDocument_render {colorSpace : Int}
    {groups : List (String × List (SharedSessionConfig × List Int))}
    (hcs : colorSpace ∈ h.validColorSpaces) (h32 : -2 ^ 31 ≤ colorSpace ∧ colorSpace < 2 ^ 31)
    (hids : ∀ g ∈ groups, g.1 ≠ "") (hw : ∀ g ∈ groups, ∀ r ∈ g.2, Writable h r.1 r.2)
    (hne : ∃ g ∈ groups, g.2 ≠ []) (usage : Nat → Nat → Int) (reader : SharedSessionConfigReader) :
    (parseSharedSessionConfigFromXMLDocument h usage (renderDocument colorSpace groups) reader).1 =
        .statusOk ∧
      (parseSharedSessionConfigFromXMLDocument h usage (renderDocument colorSpace groups) reader).2 =
        ⟨colorSpace,
          pushSharedConfigs h usage (groups.map fun g => renderSharedConfiguration g.1 g.2) []⟩ ∧
      ((pushSharedConfigs h usage (groups.map fun g => renderSharedConfiguration g.1 g.2) []).map
        Prod.fst).Nodup ∧
      ∀ cameraId,
        (pushSharedConfigs h usage (groups.map fun g => renderSharedConfiguration g.1 g.2) []).lookup
            cameraId =
          if readBackFor h usage groups cameraId = [] then none
          else some (readBackFor h usage groups cameraId) := by
  have hall : ∀ e ∈ groups.map fun g => renderSharedConfiguration g.1 g.2,
      (∃ cameraId, e.attributeValue "cameraId" = some cameraId ∧ cameraId ≠ "") ∧
        ∀ o ∈ e.childElements "OutputConfiguration", ∀ u, ∃ c,
          parseOutputConfiguration h u o = .ok c := by
    intro e he
    obtain ⟨g, hg, rfl⟩ := List.mem_map.1 he
    rw [childElements_renderSharedConfiguration]
    exact ⟨⟨g.1, attributeValue_single .., hids g hg⟩, (outputConfigsOf_render h (hw g hg) 0).1⟩
  have hpush : pushSharedConfigs h usage (groups.map fun g => renderSharedConfiguration g.1 g.2) []
      ≠ [] := by
    rw [ne_eq, pushSharedConfigs_eq_nil h (fun e he => (hall e he).2)]
    obtain ⟨g, hg, hg'⟩ := hne
    intro hnil
    have := hnil.1 _ (List.mem_map_of_mem _ hg)
    rw [childElements_renderSharedConfiguration, List.map_eq_nil_iff] at this
    exact hg' this
  have hroot : (renderDocument colorSpace groups).childElements "SharedCameraSessionConfiguration" =
      groups.map fun g => renderSharedConfiguration g.1 g.2 :=
    List.filter_eq_self.2 fun e he => by
      obtain ⟨g, -, rfl⟩ := List.mem_map.1 he
      rfl
  have hres : parseSharedSessionConfigFromXMLDocument h usage (renderDocument colorSpace groups)
      reader = (.statusOk, ⟨colorSpace,
        pushSharedConfigs h usage (groups.map fun g => renderSharedConfiguration g.1 g.2) []⟩) := by
    have hname : (renderDocument colorSpace groups).name = "SharedCameraSessionConfigurations" := rfl
    unfold parseSharedSessionConfigFromXMLDocument
    rw [if_neg (not_not.2 hname), renderDocument, attributeValue_single,
      getColorSpaceFromStr_toString h hcs h32]
    dsimp only
    rw [← renderDocument, hroot, (parseSharedConfigurations_eq_ok h _ usage [] _).2 ⟨hall, rfl⟩]
    dsimp only
    rw [if_neg (by simpa [List.isEmpty_iff] using hpush)]
  refine ⟨by rw [hres], by rw [hres], nodup_keys_pushSharedConfigs h _ usage [] List.nodup_nil,
    fun cameraId => ?_⟩
  rw [lookup_pushSharedConfigs h cameraId (fun e he => ((hall e he).1).imp fun _ => And.left),
    configsFor_render h hw]
  simp

def imageReaderRecord : SharedSessionConfig :=
  ⟨4, 640, 480, "", 0, 0, 0, false, 0x23, 0x23, 0⟩

theorem parseSharedSessionConfigFromXMLDocument_render_imageReader :
    (0 ∈ platformHeaders.validColorSpaces ∧ (-2 ^ 31 ≤ (0 : Int) ∧ (0 : Int) < 2 ^ 31) ∧
      (∀ g ∈ [("0", [(imageReaderRecord, [3, 0x20])])], g.1 ≠ "") ∧
      (∀ g ∈ [("0", [(imageReaderRecord, [3, 0x20])])], ∀ r ∈ g.2, Writable platformHeaders r.1 r.2) ∧
      ∃ g ∈ [("0", [(imageReaderRecord, [3, 0x20])])], g.2 ≠ []) ∧
    (parseSharedSessionConfigFromXMLDocument platformHeaders (fun _ _ => 0x100)
      (renderDocument 0 [("0", [(imageReaderRecord, [3, 0x20])])]) ⟨-1, []⟩).1 = .statusOk ∧
    readBackFor platformHeaders (fun _ _ => 0x100) [("0", [(imageReaderRecord, [3, 0x20])])] "0" =
      [{ imageReaderRecord with usage := 0x123 }] :=
  ⟨⟨by decide, by decide, by decide, by decide, by decide⟩,
    (parseSharedSessionConfigFromXMLDocument_render platformHeaders (by decide) (by decide)
      (by decide) (by decide) (by decide) (fun _ _ => 0x100) ⟨-1, []⟩).1, by decide⟩

end Document

end CameraService.Config
