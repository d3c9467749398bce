import CameraService.Heic.KeyMap
import Mathlib.Data.Int.Bitwise

/-! The loop of `CameraDeviceClient::initializeImpl` over
`ANDROID_REQUEST_AVAILABLE_DYNAMIC_RANGE_PROFILES_MAP`, with the indices it reads. -/

namespace CameraService.DeviceClient

/-- `ANDROID_REQUEST_AVAILABLE_CAPABILITIES_DYNAMIC_RANGE_TEN_BIT`, a metadata tag value declared
outside src/. -/
def dynamicRangeTenBit : UInt8 := 18

/-- `ANDROID_REQUEST_AVAILABLE_DYNAMIC_RANGE_PROFILES_MAP_STANDARD`, declared outside src/. -/
def profileStandard : Int := 1

structure Entry where
  count : Nat
  data : Nat → Int

inductive Log
  | unexpectedProfileEntry (profile : Int)
  | missingProfileMap
  deriving DecidableEq, Repr

structure Parse where
  dynamicProfileMap : KeyMap Int
  reads : List Nat := []
  log : List Log := []

def profileReads (data : Nat → Int) (i : Nat) : List Nat :=
  if data i ≠ profileStandard then [i, i + 1] else [i]

def readProfile (data : Nat → Int) : Parse × Int → Nat → Parse × Int
  | (p, standardBitmap), i =>
    let p := { p with reads := p.reads ++ profileReads data i }
    if data i ≠ profileStandard then
      ({ p with dynamicProfileMap := p.dynamicProfileMap.emplace (data i) (data (i + 1)) },
        if data (i + 1) = 0 ∨ Int.land (data (i + 1)) profileStandard ≠ 0 then
          Int.lor standardBitmap (data i) else standardBitmap)
    else ({ p with log := p.log ++ [.unexpectedProfileEntry (data i)] }, standardBitmap)

def initializeDynamicProfileMap (capabilities : List UInt8) (entry : Entry) : Parse :=
  let p : Parse := { dynamicProfileMap := KeyMap.empty.emplace profileStandard profileStandard }
  if capabilities.contains dynamicRangeTenBit then
    if entry.count > 0 || entry.count % 3 != 0 then
      let (p, standardBitmap) :=
        (List.range' 0 ((entry.count + 2) / 3) 3).foldl (readProfile entry.data) (p, profileStandard)
      { p with dynamicProfileMap := p.dynamicProfileMap.insert profileStandard standardBitmap }
    else { p with log := p.log ++ [.missingProfileMap] }
  else p

theorem reads_foldl_readProfile (data : Nat → Int) :
    ∀ (l : List Nat) (acc : Parse × Int),
      (l.foldl (readProfile data) acc).1.reads = acc.1.reads ++ l.flatMap (profileReads data)
  | [], _ => by simp
  | i :: rest, (p, b) => by
    rw [List.foldl_cons, reads_foldl_readProfile data rest, List.flatMap_cons, ← List.append_assoc]
    congr 1
    simp only [readProfile]
    split_ifs <;> rfl

theorem missing_foldl_readProfile (data : Nat → Int) :
    ∀ (l : List Nat) (acc : Parse × Int),
      Log.missingProfileMap ∈ (l.foldl (readProfile data) acc).1.log ↔
        Log.missingProfileMap ∈ acc.1.log
  | [], _ => Iff.rfl
  | i :: rest, (p, b) => by
    rw [List.foldl_cons, missing_foldl_readProfile data rest]
    simp only [readProfile]
    split_ifs <;> simp

theorem mem_range'_iterations {count i : Nat} :
    i ∈ List.range' 0 ((count + 2) / 3) 3 ↔ i % 3 = 0 ∧ i < count := by
  simp only [List.mem_range'_1, List.mem_range']
  constructor
  · rintro ⟨m, hm, rfl⟩
    omega
  · rintro ⟨h3, hlt⟩
    exact ⟨i / 3, by omega, by omega⟩

theorem reads_initializeDynamicProfileMap (capabilities : List UInt8) (entry : Entry)
    (h10 : capabilities.contains dynamicRangeTenBit = true) :
    (∀ r ∈ (initializeDynamicProfileMap capabilities entry).reads, r ≤ entry.count) ∧
      (entry.count ∈ (initializeDynamicProfileMap capabilities entry).reads ↔
        entry.count % 3 = 1 ∧ entry.data (entry.count - 1) ≠ profileStandard) ∧
      (Log.missingProfileMap ∈ (initializeDynamicProfileMap capabilities entry).log ↔
        entry.count = 0) := by
  unfold initializeDynamicProfileMap
  rw [if_pos h10]
  by_cases h0 : entry.count = 0
  · simp [h0]
  have hrun : (entry.count > 0 || entry.count % 3 != 0) = true := by simp; omega
  rw [if_pos hrun]
  refine ⟨fun r hr => ?_, ?_, ?_⟩
  · obtain ⟨i, hi, hr⟩ := List.mem_flatMap.1 (by simpa [reads_foldl_readProfile] using hr)
    have := mem_range'_iterations.1 hi
    unfold profileReads at hr
    split_ifs at hr <;> simp at hr <;> omega
  · simp only [reads_foldl_readProfile, List.nil_append, List.mem_flatMap, mem_range'_iterations,
      profileReads]
    constructor
    · rintro ⟨i, ⟨h3, hlt⟩, hr⟩
      split_ifs at hr with hne <;> simp at hr
      · obtain rfl : i = entry.count - 1 := by omega
        exact ⟨by omega, hne⟩
      · omega
    · rintro ⟨h1, hne⟩
      exact ⟨entry.count - 1, ⟨by omega, by omega⟩, by
        rw [if_pos hne]; simp; omega⟩
  · simp [h0, missing_foldl_readProfile]

theorem reads_past_single_profile :
    [dynamicRangeTenBit].contains dynamicRangeTenBit = true ∧
      1 ∈ (initializeDynamicProfileMap [dynamicRangeTenBit] ⟨1, fun _ => 2⟩).reads :=
  ⟨by decide, ((reads_initializeDynamicProfileMap [dynamicRangeTenBit] ⟨1, fun _ => 2⟩
    (by decide)).2.1).2 ⟨by decide, by decide⟩⟩

end CameraService.DeviceClient
