import Mathlib.Algebra.Group.Int
import Mathlib.Data.List.GetD

/-! `AidlCamera3SharedDevice::getSharedOutputConfiguration` on the flat `int64_t` array of
records, with the indices it reads. -/

namespace CameraService.Shared

def sharedOutputConfigNumOfEntries : Nat := 11

/-- `ANDROID_REQUEST_AVAILABLE_COLOR_SPACE_PROFILES_MAP_UNSPECIFIED`, declared outside src/. -/
def colorSpaceUnspecified : Int := -1

def toInt32 (x : Int) : Int := (x + 2 ^ 31) % 2 ^ 32 - 2 ^ 31

def toUInt8 (x : Int) : UInt8 := UInt8.ofNat (x % 256).toNat

structure OutputConfiguration where
  surfaceType : Int
  width : Int
  height : Int
  format : Int
  colorSpace : Int
  mirrorMode : Int
  isReadOutTimestampEnabled : Bool
  timestampBase : Int
  dataspace : Int
  usage : Int
  streamUseCase : Int
  physicalCameraId : List UInt8
  deriving DecidableEq, Repr

def readPhysicalCameraId (data : Nat → Int) (i : Nat) : Nat → List UInt8 × List Nat
  | 0 => ([], [])
  | len + 1 =>
    if data i = 0 then ([], [i])
    else
      let (physicalCameraId, reads) := readPhysicalCameraId data (i + 1) len
      (toUInt8 (data i) :: physicalCameraId, i :: reads)

def configAt (colorspace : Int) (data : Nat → Int) (i : Nat) (physicalCameraId : List UInt8) :
    OutputConfiguration :=
  ⟨toInt32 (data i), toInt32 (data (i + 1)), toInt32 (data (i + 2)), toInt32 (data (i + 3)),
    colorspace, toInt32 (data (i + 4)), data (i + 5) ≠ 0, toInt32 (data (i + 6)),
    toInt32 (data (i + 7)), data (i + 8), data (i + 9), physicalCameraId⟩

def readConfigs (colorspace : Int) (data : Nat → Int) : Nat → Nat → Int → List OutputConfiguration × List Nat
  | 0, _, _ => ([], [])
  | fuel + 1, i, numOfEntries =>
    if numOfEntries < sharedOutputConfigNumOfEntries then ([], [])
    else
      let physicalCameraIdLen := (toUInt8 (data (i + 10))).toNat
      let fields := List.range' i sharedOutputConfigNumOfEntries
      let numOfEntries := numOfEntries - sharedOutputConfigNumOfEntries
      if numOfEntries < physicalCameraIdLen then ([], fields)
      else
        let (physicalCameraId, idReads) :=
          readPhysicalCameraId data (i + sharedOutputConfigNumOfEntries) physicalCameraIdLen
        let (rest, restReads) := readConfigs colorspace data fuel
          (i + sharedOutputConfigNumOfEntries + physicalCameraIdLen)
          (numOfEntries - physicalCameraIdLen)
        (configAt colorspace data i physicalCameraId :: rest, fields ++ idReads ++ restReads)

def getSharedOutputConfiguration (sharedSessionColorSpace : List Int) (count : Nat)
    (data : Nat → Int) : List OutputConfiguration × List Nat :=
  let colorspace := match sharedSessionColorSpace with
    | c :: _ => c
    | [] => colorSpaceUnspecified
  if count > 0 then readConfigs colorspace data count 0 (toInt32 count) else ([], [])

theorem reads_readPhysicalCameraId (data : Nat → Int) :
    ∀ (len i : Nat), ∀ r ∈ (readPhysicalCameraId data i len).2, i ≤ r ∧ r < i + len
  | 0, _, _, h => by simp [readPhysicalCameraId] at h
  | len + 1, i, r, h => by
    simp only [readPhysicalCameraId] at h
    split_ifs at h
    · simp at h; omega
    · rcases List.mem_cons.1 h with rfl | h
      · omega
      · have := reads_readPhysicalCameraId data len (i + 1) r h
        omega

theorem reads_readConfigs (colorspace : Int) (data : Nat → Int) :
    ∀ (fuel i : Nat) (numOfEntries : Int), ∀ r ∈ (readConfigs colorspace data fuel i numOfEntries).2,
      i ≤ r ∧ (r : Int) < i + numOfEntries
  | 0, _, _, _, h => by simp [readConfigs] at h
  | fuel + 1, i, n, r, h => by
    simp only [readConfigs, sharedOutputConfigNumOfEntries] at h
    split_ifs at h with h₁ h₂
    · simp at h
    · simp only [List.mem_range'_1] at h; omega
    · simp only [List.mem_append, List.mem_range'_1] at h
      rcases h with (h | h) | h
      · omega
      · have := reads_readPhysicalCameraId data _ _ r h; omega
      · have := reads_readConfigs colorspace data fuel _ _ r h; omega

theorem readConfigs_fuel (colorspace : Int) (data : Nat → Int) :
    ∀ (fuel i : Nat) (numOfEntries : Int), numOfEntries < 11 * fuel → ∀ m,
      readConfigs colorspace data (fuel + m) i numOfEntries =
        readConfigs colorspace data fuel i numOfEntries
  | 0, _, _, _, 0 => rfl
  | 0, _, _, h, m + 1 => by
    rw [Nat.zero_add]
    simp only [readConfigs, sharedOutputConfigNumOfEntries]
    rw [if_pos (by omega)]
  | fuel + 1, i, n, h, m => by
    rw [Nat.add_right_comm]
    simp only [readConfigs, sharedOutputConfigNumOfEntries]
    split_ifs with h₁ h₂
    · rfl
    · rfl
    · rw [readConfigs_fuel colorspace data fuel _ _ (by omega) m]

theorem readConfigs_fst_step {colorspace : Int} {data : Nat → Int} {fuel i : Nat} {n : Int}
    (h₁ : ¬ n < sharedOutputConfigNumOfEntries)
    (h₂ : ¬ n - sharedOutputConfigNumOfEntries < (toUInt8 (data (i + 10))).toNat) :
    (readConfigs colorspace data (fuel + 1) i n).1 =
      configAt colorspace data i (readPhysicalCameraId data (i + sharedOutputConfigNumOfEntries)
          (toUInt8 (data (i + 10))).toNat).1 ::
        (readConfigs colorspace data fuel
          (i + sharedOutputConfigNumOfEntries + (toUInt8 (data (i + 10))).toNat)
          (n - sharedOutputConfigNumOfEntries - (toUInt8 (data (i + 10))).toNat)).1 := by
  rw [readConfigs.eq_2, if_neg h₁]
  dsimp only
  rw [if_neg h₂]

theorem toInt32_of_mem {x : Int} (h : -2 ^ 31 ≤ x ∧ x < 2 ^ 31) : toInt32 x = x := by
  unfold toInt32
  omega

theorem toNat_toUInt8 {n : Nat} (h : n < 256) : (toUInt8 n).toNat = n := by
  rw [toUInt8, Int.emod_eq_of_lt (by omega) (by omega), Int.toNat_ofNat, UInt8.toNat_ofNat_of_lt h]

theorem toUInt8_toNat (c : UInt8) : toUInt8 c.toNat = c :=
  UInt8.toNat.inj (toNat_toUInt8 c.toNat_lt_size)

def idEntries (len : Nat) (physicalCameraId : List UInt8) : List Int :=
  physicalCameraId.map (fun c : UInt8 => (c.toNat : Int)) ++
    List.replicate (len - physicalCameraId.length) 0

structure SharedConfigRecord where
  surfaceType : Int
  width : Int
  height : Int
  format : Int
  mirrorMode : Int
  readoutTimestamp : Bool
  timestampBase : Int
  dataspace : Int
  usage : Int
  streamUseCase : Int
  idLength : Nat
  physicalCameraId : List UInt8
  deriving DecidableEq, Repr

namespace SharedConfigRecord
variable (r : SharedConfigRecord)

def intFields : List Int :=
  [r.surfaceType, r.width, r.height, r.format, r.mirrorMode, r.timestampBase, r.dataspace]

def encode : List Int :=
  [r.surfaceType, r.width, r.height, r.format, r.mirrorMode, if r.readoutTimestamp then 1 else 0,
      r.timestampBase, r.dataspace, r.usage, r.streamUseCase, r.idLength] ++
    idEntries r.idLength r.physicalCameraId

def WellFormed : Prop :=
  (∀ x ∈ r.intFields, -2 ^ 31 ≤ x ∧ x < 2 ^ 31) ∧ r.idLength ≤ 255 ∧
    r.physicalCameraId.length ≤ r.idLength ∧ 0 ∉ r.physicalCameraId

instance : Decidable r.WellFormed := inferInstanceAs (Decidable (_ ∧ _))

def toOutputConfiguration (colorspace : Int) : OutputConfiguration :=
  ⟨r.surfaceType, r.width, r.height, r.format, colorspace, r.mirrorMode, r.readoutTimestamp,
    r.timestampBase, r.dataspace, r.usage, r.streamUseCase, r.physicalCameraId⟩

theorem length_encode (h : r.physicalCameraId.length ≤ r.idLength) :
    r.encode.length = sharedOutputConfigNumOfEntries + r.idLength := by
  simp only [encode, idEntries, List.length_append, List.length_map, List.length_replicate,
    sharedOutputConfigNumOfEntries, List.length_cons, List.length_nil]
  omega

end SharedConfigRecord

def encodeAll (rs : List SharedConfigRecord) : List Int := rs.flatMap SharedConfigRecord.encode

@[simp] theorem encodeAll_cons (r : SharedConfigRecord) (rs : List SharedConfigRecord) :
    encodeAll (r :: rs) = r.encode ++ encodeAll rs := List.flatMap_cons ..

theorem length_encodeAll : ∀ rs : List SharedConfigRecord, 11 * rs.length ≤ (encodeAll rs).length
  | [] => Nat.le_refl 0
  | r :: rs => by
    have := length_encodeAll rs
    simp only [encodeAll_cons, List.length_append, List.length_cons, SharedConfigRecord.encode]
    omega

theorem readPhysicalCameraId_encode (data : Nat → Int) :
    ∀ (physicalCameraId : List UInt8) (len i : Nat), 0 ∉ physicalCameraId →
      physicalCameraId.length ≤ len →
      (∀ j < len, data (i + j) = (idEntries len physicalCameraId).getD j 0) →
      (readPhysicalCameraId data i len).1 = physicalCameraId
  | [], 0, _, _, _, _ => rfl
  | [], len + 1, i, _, _, hd => by
    have h0 : data i = 0 := by simpa [idEntries] using hd 0 (Nat.succ_pos len)
    simp [readPhysicalCameraId, h0]
  | c :: cs, 0, _, _, hl, _ => absurd hl (by simp)
  | c :: cs, len + 1, i, hz, hl, hd => by
    have hc : data i = c.toNat := by simpa [idEntries] using hd 0 (Nat.succ_pos len)
    have hc0 : (c.toNat : Int) ≠ 0 := fun h =>
      hz (List.mem_cons.2 (.inl (UInt8.toNat.inj (by rw [UInt8.toNat_zero]; omega))))
    have ih := readPhysicalCameraId_encode data cs len (i + 1) (fun h => hz (List.mem_cons_of_mem c h))
      (by simpa using hl) fun j hj => by
        simpa [idEntries, Nat.add_right_comm] using hd (j + 1) (by omega)
    simp only [readPhysicalCameraId, hc, hc0, if_false, ih, toUInt8_toNat]

theorem configAt_encode {r : SharedConfigRecord} {colorspace : Int} {data : Nat → Int} {i : Nat}
    (hint : ∀ x ∈ r.intFields, -2 ^ 31 ≤ x ∧ x < 2 ^ 31)
    (hr : ∀ j < sharedOutputConfigNumOfEntries, data (i + j) = r.encode.getD j 0) :
    configAt colorspace data i r.physicalCameraId = r.toOutputConfiguration colorspace := by
  have hid : ∀ x ∈ r.intFields, toInt32 x = x := fun x hx => toInt32_of_mem (hint x hx)
  simp only [SharedConfigRecord.intFields, List.forall_mem_cons, List.forall_mem_nil,
    and_true] at hid
  have h0 : data i = r.surfaceType := hr 0 (by decide)
  simp (disch := decide) only [configAt, hr, h0, SharedConfigRecord.encode, List.cons_append,
    List.getD_cons_succ, List.getD_cons_zero, hid, SharedConfigRecord.toOutputConfiguration]
  cases r.readoutTimestamp <;> rfl

theorem readConfigs_encodeAll (colorspace : Int) (data : Nat → Int) :
    ∀ (rs : List SharedConfigRecord) (fuel i : Nat), rs.length < fuel →
      (∀ r ∈ rs, r.WellFormed) →
      (∀ j < (encodeAll rs).length, data (i + j) = (encodeAll rs).getD j 0) →
      (readConfigs colorspace data fuel i (encodeAll rs).length).1 =
        rs.map (·.toOutputConfiguration colorspace)
  | [], fuel + 1, i, _, _, _ => by
    simp [encodeAll, readConfigs, sharedOutputConfigNumOfEntries]
  | r :: rs, fuel + 1, i, hf, hwf, hd => by
    obtain ⟨hint, hL, hlen, hz⟩ := hwf r (List.mem_cons_self _ _)
    have hlenc := r.length_encode hlen
    rw [encodeAll_cons] at hd ⊢
    have hr : ∀ j < r.encode.length, data (i + j) = r.encode.getD j 0 := fun j hj => by
      rw [hd j (by simp; omega), List.getD_append _ _ _ _ hj]
    have hrest : ∀ j < (encodeAll rs).length,
        data (i + r.encode.length + j) = (encodeAll rs).getD j 0 := fun j hj => by
      rw [Nat.add_assoc, hd _ (by simp; omega), List.getD_append_right _ _ _ _ (by omega),
        Nat.add_sub_cancel_left]
    have h11 : sharedOutputConfigNumOfEntries = 11 := rfl
    have hidLen : (toUInt8 (data (i + 10))).toNat = r.idLength := by
      rw [hr 10 (by omega)]
      exact toNat_toUInt8 (by omega)
    have hid : ∀ j < r.idLength,
        data (i + sharedOutputConfigNumOfEntries + j) = (idEntries r.idLength r.physicalCameraId).getD j 0 := fun j hj => by
      rw [Nat.add_assoc, hr _ (by omega), h11, SharedConfigRecord.encode,
        List.getD_append_right _ _ _ _ (by simp)]
      simp
    have hn : ((r.encode.length + (encodeAll rs).length : Nat) : Int) -
        sharedOutputConfigNumOfEntries - r.idLength = (encodeAll rs).length := by omega
    rw [List.length_append, readConfigs_fst_step (by omega) (by omega), hidLen, List.map_cons,
      readPhysicalCameraId_encode data _ _ _ hz hlen hid,
      configAt_encode hint fun j hj => hr j (by omega), hn,
      readConfigs_encodeAll colorspace data rs fuel _ (by simpa using hf)
        (fun r' h => hwf r' (List.mem_cons_of_mem _ h)) fun j hj => by
          rw [Nat.add_assoc i, ← hlenc]; exact hrest j hj]

theorem toInt32_le (n : Nat) : toInt32 n ≤ n := by
  unfold toInt32
  omega

theorem colorspace_eq_headD (sharedSessionColorSpace : List Int) :
    (match sharedSessionColorSpace with
      | c :: _ => c
      | [] => colorSpaceUnspecified) = sharedSessionColorSpace.headD colorSpaceUnspecified := by
  cases sharedSessionColorSpace <;> rfl

theorem getSharedOutputConfiguration_decodes (sharedSessionColorSpace : List Int) :
    (∀ (count : Nat) (data : Nat → Int),
      (∀ r ∈ (getSharedOutputConfiguration sharedSessionColorSpace count data).2, r < count) ∧
      ∀ m, getSharedOutputConfiguration sharedSessionColorSpace count data =
        if count > 0 then
          readConfigs (sharedSessionColorSpace.headD colorSpaceUnspecified) data (count + m) 0
            (toInt32 count)
        else ([], [])) ∧
    ∀ rs : List SharedConfigRecord, (∀ r ∈ rs, r.WellFormed) → (encodeAll rs).length < 2 ^ 31 →
      (getSharedOutputConfiguration sharedSessionColorSpace (encodeAll rs).length
          fun k => (encodeAll rs).getD k 0).1 =
        rs.map (·.toOutputConfiguration (sharedSessionColorSpace.headD colorSpaceUnspecified)) := by
  unfold getSharedOutputConfiguration
  rw [colorspace_eq_headD]
  refine ⟨fun count data => ⟨fun r hr => ?_, fun m => ?_⟩, fun rs hwf hlen => ?_⟩
  · split_ifs at hr
    · have := reads_readConfigs _ data count 0 _ r hr
      have := toInt32_le count
      omega
    · simp at hr
  · split_ifs with h
    · rw [readConfigs_fuel _ data count 0 _ (by have := toInt32_le count; omega)]
    · rfl
  · have := length_encodeAll rs
    split_ifs with h
    · rw [toInt32_of_mem (by omega)]
      exact readConfigs_encodeAll _ _ rs _ 0 (by omega) hwf fun j _ => by rw [Nat.zero_add]
    · obtain rfl : rs = [] := List.eq_nil_of_length_eq_zero (by omega)
      rfl

theorem getSharedOutputConfiguration_decodes_one :
    (∀ r ∈ [(⟨1, 1920, 1080, 35, 0, true, 0, 0, 3, 0, 4, [48, 49]⟩ : SharedConfigRecord)],
      r.WellFormed) ∧
      (encodeAll [⟨1, 1920, 1080, 35, 0, true, 0, 0, 3, 0, 4, [48, 49]⟩]).length < 2 ^ 31 ∧
      (getSharedOutputConfiguration [0]
          (encodeAll [⟨1, 1920, 1080, 35, 0, true, 0, 0, 3, 0, 4, [48, 49]⟩]).length
          fun k => (encodeAll [⟨1, 1920, 1080, 35, 0, true, 0, 0, 3, 0, 4, [48, 49]⟩]).getD k 0).1 =
        [⟨1, 1920, 1080, 35, 0, 0, true, 0, 0, 3, 0, [48, 49]⟩] :=
  ⟨by decide, by decide, (getSharedOutputConfiguration_decodes [0]).2 _ (by decide) (by decide)⟩

end CameraService.Shared
