import Mathlib.Algebra.Group.Int
import Mathlib.Data.Int.Bitwise

/-! The field validators of `SharedSessionConfigUtils`, with `strtol` and `splitString`;
`getUsageFromXml` keeps its out-parameter, since it ORs into it. -/

namespace CameraService.Config

inductive ErrorCode
  | statusOk
  | errorReadConfigFile
  | errorConfigFileFormat
  | errorConfigReaderUninitialized
  | errorBadParameter
  deriving DecidableEq, Repr

structure XmlElement where
  name : String
  attributes : List (String × String)
  text : Option String
  children : List XmlElement

namespace XmlElement

def attributeValue (e : XmlElement) (name : String) : Option String :=
  (e.attributes.find? fun a => a.1 == name).map Prod.snd

def childElements (e : XmlElement) (name : String) : List XmlElement :=
  e.children.filter fun c => c.name == name

def firstChildElement (e : XmlElement) (name : String) : Option XmlElement :=
  (e.childElements name).head?

end XmlElement

/-- The constants the validators use, and the values of the sets `VALID_…` of
`SharedSessionConfigUtils.h`, whose elements are declared outside src/ (the camera metadata,
graphics and hardware buffer headers, and `OutputConfiguration`). -/
structure Headers where
  colorSpaceUnspecified : Int
  surfaceTypeSurfaceView : Int
  surfaceTypeSurfaceTexture : Int
  surfaceTypeMediaRecorder : Int
  surfaceTypeMediaCodec : Int
  surfaceTypeImageReader : Int
  streamUseCasesDefault : Int
  timestampBaseDefault : Int
  mirrorModeAuto : Int
  pixelFormatImplementationDefined : Int
  usageGpuSampledImage : Int
  usageComposerOverlay : Int
  usageVideoEncode : Int
  usageCpuReadNever : Int
  dataspaceUnknown : Int
  validColorSpaces : List Int
  validStreamUseCases : List Int
  validTimestampBases : List Int
  validMirrorModes : List Int
  validFormats : List Int
  validUsages : List Int
  validDataSpaces : List Int

def Headers.validSurfaceTypes (h : Headers) : List Int :=
  [h.surfaceTypeSurfaceView, h.surfaceTypeSurfaceTexture, h.surfaceTypeMediaRecorder,
    h.surfaceTypeMediaCodec, h.surfaceTypeImageReader]

def isSpace (c : Char) : Bool := c == ' ' || (9 ≤ c.toNat && c.toNat ≤ 13)

def digitValue (c : Char) : Nat :=
  if '0' ≤ c ∧ c ≤ '9' then c.toNat - '0'.toNat
  else if 'a' ≤ c ∧ c ≤ 'z' then c.toNat - 'a'.toNat + 10
  else if 'A' ≤ c ∧ c ≤ 'Z' then c.toNat - 'A'.toNat + 10
  else 36

def parseDigits (base : Nat) : List Char → Nat → Nat
  | [], acc => acc
  | c :: cs, acc =>
    if digitValue c < base then parseDigits base cs (acc * base + digitValue c) else acc

def strtol (str : String) : Int :=
  let cs := str.toList.dropWhile isSpace
  let (negative, cs) := match cs with
    | '-' :: rest => (true, rest)
    | '+' :: rest => (false, rest)
    | rest => (false, rest)
  let (base, cs) := match cs with
    | '0' :: x :: d :: rest =>
      if (x == 'x' || x == 'X') && digitValue d < 16 then (16, d :: rest) else (8, cs)
    | '0' :: _ => (8, cs)
    | _ => (10, cs)
  let magnitude : Int := parseDigits base cs 0
  max (-2 ^ 63) (min (2 ^ 63 - 1) (if negative then -magnitude else magnitude))

def getlineTokens (delimiter : Char) : List Char → List Char → List String
  | [], [] => []
  | [], token => [String.mk token]
  | c :: cs, token =>
    if c = delimiter then String.mk token :: getlineTokens delimiter cs []
    else getlineTokens delimiter cs (token ++ [c])

def splitString (inputString : String) (delimiter : Char) : List String :=
  getlineTokens delimiter inputString.toList []

def fieldText (xml : Option XmlElement) : Option String :=
  match xml.bind XmlElement.text with
  | some s => if s = "" then none else some s
  | none => none

def getRequiredFromXml (valid : List Int) (xml : Option XmlElement) : Except ErrorCode Int :=
  match fieldText xml with
  | none => .error .errorConfigFileFormat
  | some s => if strtol s ∈ valid then .ok (strtol s) else .error .errorConfigFileFormat

def getOptionalFromXml (default : Int) (valid : List Int) (xml : Option XmlElement) :
    Except ErrorCode Int :=
  match fieldText xml with
  | none => .ok default
  | some s => if strtol s ∈ valid then .ok (strtol s) else .error .errorConfigFileFormat

def getDimensionFromXml (xml : Option XmlElement) : Except ErrorCode Int :=
  match fieldText xml with
  | none => .error .errorConfigFileFormat
  | some s => .ok (strtol s)

def getColorSpaceFromStr (h : Headers) (colorSpaceStr : Option String) : Except ErrorCode Int :=
  match colorSpaceStr with
  | none => .ok h.colorSpaceUnspecified
  | some s =>
    if s = "" then .ok h.colorSpaceUnspecified
    else if Int.bmod (strtol s) (2 ^ 32) ∈ h.validColorSpaces then
      .ok (Int.bmod (strtol s) (2 ^ 32))
    else .error .errorConfigFileFormat

def getSurfaceTypeFromXml (h : Headers) (surfaceTypeXml : Option XmlElement) :
    Except ErrorCode Int :=
  getRequiredFromXml h.validSurfaceTypes surfaceTypeXml

def getWidthFromXml (widthXml : Option XmlElement) : Except ErrorCode Int :=
  getDimensionFromXml widthXml

def getHeightFromXml (heightXml : Option XmlElement) : Except ErrorCode Int :=
  getDimensionFromXml heightXml

def getPhysicalCameraIdFromXml (physicalCameraIdXml : Option XmlElement) :
    Except ErrorCode String :=
  .ok ((physicalCameraIdXml.bind XmlElement.text).getD "")

def getStreamUseCaseFromXml (h : Headers) (streamUseCaseXml : Option XmlElement) :
    Except ErrorCode Int :=
  getOptionalFromXml h.streamUseCasesDefault h.validStreamUseCases streamUseCaseXml

def getTimestampBaseFromXml (h : Headers) (timestampBaseXml : Option XmlElement) :
    Except ErrorCode Int :=
  getOptionalFromXml h.timestampBaseDefault h.validTimestampBases timestampBaseXml

def getMirrorModeFromXml (h : Headers) (mirrorModeXml : Option XmlElement) :
    Except ErrorCode Int :=
  getOptionalFromXml h.mirrorModeAuto h.validMirrorModes mirrorModeXml

def getUseReadoutTimestampFromXml (useReadoutTimestampXml : Option XmlElement) :
    Except ErrorCode Bool :=
  match fieldText useReadoutTimestampXml with
  | none => .ok false
  | some s =>
    if s = "1" then .ok true else if s = "0" then .ok false else .error .errorConfigFileFormat

def getFormatFromXml (h : Headers) (formatXml : Option XmlElement) (surfaceType : Int) :
    Except ErrorCode Int :=
  if surfaceType ≠ h.surfaceTypeImageReader then .ok h.pixelFormatImplementationDefined
  else getRequiredFromXml h.validFormats formatXml

def getDataSpaceFromXml (h : Headers) (dataSpaceXml : Option XmlElement) :
    Except ErrorCode Int :=
  getOptionalFromXml h.dataspaceUnknown h.validDataSpaces dataSpaceXml

def usageLoop (validUsages : List Int) : List String → Int → ErrorCode × Int
  | [], usage => (.statusOk, usage)
  | usageFlagStr :: rest, usage =>
    if strtol usageFlagStr ∈ validUsages then
      usageLoop validUsages rest (Int.lor usage (strtol usageFlagStr))
    else (.errorConfigFileFormat, usage)

def getUsageFromXml (h : Headers) (usageXml : Option XmlElement) (usage surfaceType : Int) :
    ErrorCode × Int :=
  if surfaceType = h.surfaceTypeSurfaceTexture then (.statusOk, h.usageGpuSampledImage)
  else if surfaceType = h.surfaceTypeSurfaceView then
    (.statusOk, Int.lor h.usageGpuSampledImage h.usageComposerOverlay)
  else if surfaceType = h.surfaceTypeMediaRecorder ∨ surfaceType = h.surfaceTypeMediaCodec then
    (.statusOk, h.usageVideoEncode)
  else
    match fieldText usageXml with
    | none => (.statusOk, h.usageCpuReadNever)
    | some usageStr => usageLoop h.validUsages (splitString usageStr '|') usage

/-- The values the platform headers give the constants and sets, declared outside src/. -/
def platformHeaders : Headers where
  colorSpaceUnspecified := -1
  surfaceTypeSurfaceView := 0
  surfaceTypeSurfaceTexture := 1
  surfaceTypeMediaRecorder := 2
  surfaceTypeMediaCodec := 3
  surfaceTypeImageReader := 4
  streamUseCasesDefault := 0
  timestampBaseDefault := 0
  mirrorModeAuto := 0
  pixelFormatImplementationDefined := 0x22
  usageGpuSampledImage := 0x100
  usageComposerOverlay := 0x800
  usageVideoEncode := 0x10000
  usageCpuReadNever := 0
  dataspaceUnknown := 0
  validColorSpaces := [-1, 0, 7, 16]
  validStreamUseCases := [0, 1, 2, 3, 4, 5, 6, 0x10000]
  validTimestampBases := [0, 1, 2, 3, 4, 4]
  validMirrorModes := [0, 1, 2, 3]
  validFormats := [1, 2, 3, 4, 5, 0x10, 0x11, 0x14, 0x16, 0x20, 0x21, 0x22, 0x23, 0x24, 0x25,
    0x26, 0x2B, 0x20203859, 0x20363159, 0x32315659, 0x30, 0x31, 0x32, 0x33, 0x34, 0x35, 0x36,
    0x37]
  validUsages := [0, 2, 3, 0, 0x20, 0x30, 0x200, 0x200, 0x800, 0x4000, 0x10000, 0x800000,
    0x1000000, 0x2000000, 0x4000000, 2 ^ 32, 2 ^ 28, 2 ^ 29, 2 ^ 30, 2 ^ 31, 2 ^ 48, 2 ^ 49,
    2 ^ 50, 2 ^ 51, 2 ^ 52, 2 ^ 53, 2 ^ 54, 2 ^ 55, 2 ^ 56, 2 ^ 57, 2 ^ 58, 2 ^ 59, 2 ^ 60, 2 ^ 61,
    2 ^ 62]
  validDataSpaces := [0, 1, 0, 0x10000, 0x20000, 0x30000, 0x40000, 0x50000, 0x60000, 0x70000,
    0x80000, 0x90000, 0xA0000, 0xB0000, 0, 0x400000, 0x800000, 0xC00000, 0x1000000, 0x1400000,
    0x1800000, 0x1C00000, 0x2000000, 0, 0x8000000, 0x10000000, 0x18000000, 0x200, 0x8410000,
    0x18410000, 0x201, 0x8810000, 0x18810000, 0x101, 0x8C20000, 0x102, 0x10C20000, 0x103,
    0x10C40000, 0x104, 0x10C10000, 0x84A0000, 0x94A0000, 0x84A0000, 0x88A0000, 0x90B0000,
    0x8460000, 0x8C60000, 0x9C60000, 0x1000, 0x1001]

theorem usageLoop_spec (validUsages : List Int) :
    ∀ (flags : List String) (usage : Int),
      ((usageLoop validUsages flags usage).1 = .statusOk ↔ ∀ f ∈ flags, strtol f ∈ validUsages) ∧
        ((usageLoop validUsages flags usage).1 = .statusOk →
          (usageLoop validUsages flags usage).2 =
            flags.foldl (fun acc f => Int.lor acc (strtol f)) usage)
  | [], _ => by simp [usageLoop]
  | f :: rest, usage => by
    by_cases hf : strtol f ∈ validUsages
    · simpa [usageLoop, hf] using usageLoop_spec validUsages rest (Int.lor usage (strtol f))
    · simp [usageLoop, hf]

theorem getUsageFromXml_or (h : Headers) (usageXml : Option XmlElement) (usage surfaceType : Int)
    (hst : surfaceType ∉ [h.surfaceTypeSurfaceView, h.surfaceTypeSurfaceTexture,
      h.surfaceTypeMediaRecorder, h.surfaceTypeMediaCodec])
    {usageStr : String} (hs : fieldText usageXml = some usageStr) :
    ((getUsageFromXml h usageXml usage surfaceType).1 = .statusOk ↔
        ∀ f ∈ splitString usageStr '|', strtol f ∈ h.validUsages) ∧
      ((getUsageFromXml h usageXml usage surfaceType).1 = .statusOk →
        (getUsageFromXml h usageXml usage surfaceType).2 =
          (splitString usageStr '|').foldl (fun acc f => Int.lor acc (strtol f)) usage) := by
  simp only [List.mem_cons, List.not_mem_nil, or_false, not_or] at hst
  obtain ⟨h₁, h₂, h₃, h₄⟩ := hst
  have hloop : getUsageFromXml h usageXml usage surfaceType =
      usageLoop h.validUsages (splitString usageStr '|') usage := by
    simp [getUsageFromXml, h₁, h₂, h₃, h₄, hs]
  rw [hloop]
  exact usageLoop_spec _ _ _

theorem getUsageFromXml_keeps_prior :
    (4 : Int) ∉ [platformHeaders.surfaceTypeSurfaceView, platformHeaders.surfaceTypeSurfaceTexture,
        platformHeaders.surfaceTypeMediaRecorder, platformHeaders.surfaceTypeMediaCodec] ∧
      fieldText (some ⟨"usage", [], some "0", []⟩) = some "0" ∧
      getUsageFromXml platformHeaders (some ⟨"usage", [], some "0", []⟩) 1 4 = (.statusOk, 1) ∧
      (splitString "0" '|').foldl (fun acc f => Int.lor acc (strtol f)) 0 = 0 :=
  have hor := getUsageFromXml_or platformHeaders (some ⟨"usage", [], some "0", []⟩) 1 4
    (by decide) (show fieldText (some ⟨"usage", [], some "0", []⟩) = some "0" by decide)
  ⟨by decide, by decide,
    Prod.ext (hor.1.2 (by decide)) ((hor.2 (hor.1.2 (by decide))).trans (by decide)), by decide⟩

end CameraService.Config
