import CameraService.Heic.Worker

/-! The blobs `findAppSegmentsSize` accepts: a trailer, an APP1 segment and APPn segments that
end at the trailer's size, read within the buffer. -/

namespace CameraService.Heic

def byteAt? (bytes : List UInt8) (i : Nat) : Option Nat := bytes[i]?.map UInt8.toNat

inductive AppnSegments (bytes : List UInt8) (e : Nat) : Nat → Prop
  | stop : AppnSegments bytes e e
  | segment {t m hi lo : Nat} : byteAt? bytes t = some 0xFF → byteAt? bytes (t + 1) = some m →
      0xE2 ≤ m → m ≤ 0xEF → byteAt? bytes (t + 2) = some hi → byteAt? bytes (t + 3) = some lo →
      AppnSegments bytes e (t + 2 + (hi * 2 ^ 8 + lo)) → AppnSegments bytes e t

def AppSegments (bytes : List UInt8) (e l1 : Nat) : Prop :=
  byteAt? bytes 0 = some 0xFF ∧ byteAt? bytes 1 = some 0xE1 ∧
    ∃ hi lo, byteAt? bytes 2 = some hi ∧ byteAt? bytes 3 = some lo ∧ l1 = hi * 2 ^ 8 + lo ∧
      AppnSegments bytes e (2 + l1)

section
variable {bytes bytes' : List UInt8} {e : Nat}

theorem byteAt?_of_lt {i : Nat} (h : i < bytes.length) :
    byteAt? bytes i = some (bytes.getD i 0).toNat := by
  simp [byteAt?, List.getD_eq_getElem?_getD, List.getElem?_eq_getElem h]

theorem AppnSegments.le_end {t : Nat} (h : AppnSegments bytes e t) : t ≤ e := by
  induction h with
  | stop => exact Nat.le_refl _
  | segment _ _ _ _ _ _ _ ih => omega

theorem appnSegments_iff_of_le {t : Nat} (h : e ≤ t) : AppnSegments bytes e t ↔ t = e :=
  ⟨fun hs => Nat.le_antisymm hs.le_end h, fun ht => ht ▸ .stop⟩

theorem scanAppnSegments_of_le {t : Nat} (h : e ≤ t) :
    ∀ fuel, scanAppnSegments bytes e fuel t = some t
  | 0 => rfl
  | fuel + 1 => by simp [scanAppnSegments, Nat.not_lt.2 h]

theorem scanAppnSegments_congr (h : ∀ i < e + 3, bytes.getD i 0 = bytes'.getD i 0) :
    ∀ fuel t, scanAppnSegments bytes e fuel t = scanAppnSegments bytes' e fuel t
  | 0, _ => rfl
  | fuel + 1, t => by
    by_cases ht : t < e
    · simp only [scanAppnSegments, if_pos ht, readUInt16BE, h t (by omega), h (t + 1) (by omega),
        h (t + 2) (by omega), h (t + 3) (by omega), scanAppnSegments_congr h fuel]
    · rw [scanAppnSegments_of_le (Nat.not_lt.1 ht), scanAppnSegments_of_le (Nat.not_lt.1 ht)]

theorem scanAppnSegments_eq_some_iff (he : e + 3 ≤ bytes.length) :
    ∀ (fuel t : Nat), e ≤ fuel + t →
      (scanAppnSegments bytes e fuel t = some e ↔ AppnSegments bytes e t)
  | 0, t, h => by
    rw [scanAppnSegments_of_le (by omega), appnSegments_iff_of_le (by omega), Option.some_inj]
  | fuel + 1, t, h => by
    by_cases ht : t < e
    · have h0 := byteAt?_of_lt (show t < bytes.length by omega)
      have h1 := byteAt?_of_lt (show t + 1 < bytes.length by omega)
      have h2 := byteAt?_of_lt (show t + 2 < bytes.length by omega)
      have h3 := byteAt?_of_lt (show t + 3 < bytes.length by omega)
      simp only [scanAppnSegments, if_pos ht, Bool.or_eq_true, bne_iff_ne, ne_eq,
        decide_eq_true_eq]
      by_cases hm : (bytes.getD t 0).toNat = 0xFF ∧ 0xE2 ≤ (bytes.getD (t + 1) 0).toNat ∧
          (bytes.getD (t + 1) 0).toNat ≤ 0xEF
      · rw [if_neg (by omega), scanAppnSegments_eq_some_iff he fuel _ (by omega)]
        constructor
        · exact fun hs => .segment (hm.1 ▸ h0) h1 hm.2.1 hm.2.2 h2 h3 hs
        · rintro (_ | ⟨h0', h1', -, -, h2', h3', hs⟩)
          · omega
          · rw [h2, Option.some_inj] at h2'
            rw [h3, Option.some_inj] at h3'
            rwa [readUInt16BE, h2', h3']
      · rw [if_pos (by omega)]
        refine ⟨Option.noConfusion, ?_⟩
        rintro (_ | ⟨h0', h1', hm1, hm2, -, -, -⟩)
        · omega
        · rw [h0, Option.some_inj] at h0'
          rw [h1, Option.some_inj] at h1'
          omega
    · rw [scanAppnSegments_of_le (by omega), appnSegments_iff_of_le (by omega), Option.some_inj]

theorem scanAppnSegments_fuel :
    ∀ (fuel fuel' t : Nat), e ≤ fuel + t → e ≤ fuel' + t →
      scanAppnSegments bytes e fuel t = scanAppnSegments bytes e fuel' t
  | 0, _, t, h, _ => by rw [scanAppnSegments_of_le (by omega), scanAppnSegments_of_le (by omega)]
  | _, 0, t, _, h => by rw [scanAppnSegments_of_le (by omega), scanAppnSegments_of_le (by omega)]
  | fuel + 1, fuel' + 1, t, h, h' => by
    simp only [scanAppnSegments]
    split_ifs
    · rfl
    · exact scanAppnSegments_fuel fuel fuel' (t + 2 + readUInt16BE bytes (t + 2)) (by omega)
        (by omega)
    · rfl

theorem appSegments_iff (h4 : 4 ≤ bytes.length) :
    (∃ l1, AppSegments bytes e l1) ↔ byteAt? bytes 0 = some 0xFF ∧ byteAt? bytes 1 = some 0xE1 ∧
      AppnSegments bytes e (2 + readUInt16BE bytes 2) := by
  have h2 := byteAt?_of_lt (show 2 < bytes.length by omega)
  have h3 := byteAt?_of_lt (show 3 < bytes.length by omega)
  constructor
  · rintro ⟨l1, h0, h1, hi, lo, h2', h3', rfl, hs⟩
    rw [h2, Option.some_inj] at h2'
    rw [h3, Option.some_inj] at h3'
    exact ⟨h0, h1, by rwa [readUInt16BE, h2', h3']⟩
  · rintro ⟨h0, h1, hs⟩
    exact ⟨_, h0, h1, _, _, h2, h3, rfl, hs⟩

theorem AppSegments.app1_eq {l1 : Nat} (h4 : 4 ≤ bytes.length) (h : AppSegments bytes e l1) :
    l1 = readUInt16BE bytes 2 := by
  obtain ⟨-, -, hi, lo, h2, h3, rfl, -⟩ := h
  rw [byteAt?_of_lt (show 2 < bytes.length by omega), Option.some_inj] at h2
  rw [byteAt?_of_lt (show 3 < bytes.length by omega), Option.some_inj] at h3
  rw [readUInt16BE, h2, h3]

theorem app1Marker_eq_false_iff (h2 : 2 ≤ bytes.length) :
    (bytes.getD 0 0 != 0xFF || bytes.getD 1 0 != 0xE1) = false ↔
      byteAt? bytes 0 = some 0xFF ∧ byteAt? bytes 1 = some 0xE1 := by
  rw [byteAt?_of_lt (show 0 < bytes.length by omega), byteAt?_of_lt (show 1 < bytes.length by omega),
    Option.some_inj, Option.some_inj]
  simp only [Bool.or_eq_false_iff, bne_eq_false_iff_eq]
  exact and_congr ⟨fun h => h ▸ rfl, fun h => UInt8.toNat.inj h⟩
    ⟨fun h => h ▸ rfl, fun h => UInt8.toNat.inj h⟩

end

theorem uint8_toNat_lt (x : UInt8) : x.toNat < 2 ^ 8 := x.val.isLt

theorem readInt32_range (bytes : List UInt8) (i : Nat) :
    -2 ^ 31 ≤ readInt32 bytes i ∧ readInt32 bytes i < 2 ^ 31 := by
  have := uint8_toNat_lt (bytes.getD i 0)
  have := uint8_toNat_lt (bytes.getD (i + 1) 0)
  have := uint8_toNat_lt (bytes.getD (i + 2) 0)
  have := uint8_toNat_lt (bytes.getD (i + 3) 0)
  simp only [readInt32]
  split <;> omega

theorem sizeT_cast (x : Int) : (sizeT x : Int) = x % 2 ^ 64 :=
  Int.toNat_of_nonneg (Int.emod_nonneg _ (by decide))

section
variable {c : Config} (hc : c.cameraBlobSize = 8)
include hc

theorem findAppSegmentsSize_header {n : Nat} (h8 : 8 ≤ n) (hn : n < 2 ^ 64 + 8) :
    sizeT (n - c.cameraBlobSize) = n - 8 := by
  have := sizeT_cast (n - c.cameraBlobSize)
  rw [hc] at this ⊢
  omega

theorem findAppSegmentsSize_congr {bytes bytes' : List UInt8} {n : Nat} (h12 : 12 ≤ n)
    (h : ∀ i < n, bytes.getD i 0 = bytes'.getD i 0) :
    findAppSegmentsSize c bytes n = findAppSegmentsSize c bytes' n := by
  have hh : sizeT (n - c.cameraBlobSize) + 8 ≤ n := by
    have := sizeT_cast (n - c.cameraBlobSize)
    rw [hc] at this ⊢
    omega
  unfold findAppSegmentsSize readUInt16BE
  generalize sizeT (n - c.cameraBlobSize) = header at hh ⊢
  dsimp only
  have hr : ∀ i, i + 4 ≤ n → readInt32 bytes i = readInt32 bytes' i := fun i hi => by
    simp only [readInt32, h i (by omega), h (i + 1) (by omega), h (i + 2) (by omega),
      h (i + 3) (by omega)]
  rw [hr header (by omega), hr (header + 4) (by omega), h 0 (by omega), h 1 (by omega),
    h 2 (by omega), h (2 + 1) (by omega)]
  refine ite_congr rfl (fun _ => rfl) fun _ => ite_congr rfl (fun _ => rfl) fun h2 =>
    ite_congr rfl (fun _ => rfl) fun _ => ?_
  simp only [Bool.or_eq_true, decide_eq_true_eq, not_or, not_lt] at h2
  rw [scanAppnSegments_congr (fun i hi => h i (by omega))]

theorem findAppSegmentsSize_eq {bytes : List UInt8} (h12 : 12 ≤ bytes.length)
    (hsmall : bytes.length < 2 ^ 63) :
    findAppSegmentsSize c bytes bytes.length =
      if readInt32 bytes (bytes.length - 8) = c.jpegAppSegmentsBlobId ∧
          1 ≤ readInt32 bytes (bytes.length - 4) ∧
          readInt32 bytes (bytes.length - 4) ≤ ↑(bytes.length - 8) ∧
          byteAt? bytes 0 = some 0xFF ∧ byteAt? bytes 1 = some 0xE1 ∧
          scanAppnSegments bytes (readInt32 bytes (bytes.length - 4)).toNat
            (readInt32 bytes (bytes.length - 4)).toNat (2 + readUInt16BE bytes 2) =
            some (readInt32 bytes (bytes.length - 4)).toNat
      then ((readInt32 bytes (bytes.length - 4)).toNat, readUInt16BE bytes 2 + 2) else (0, 0) := by
  have hv := readInt32_range bytes (bytes.length - 4)
  have hsz := sizeT_cast (readInt32 bytes (bytes.length - 4))
  unfold findAppSegmentsSize
  rw [findAppSegmentsSize_header hc (by omega) (by omega)]
  dsimp only
  rw [show bytes.length - 8 + 4 = bytes.length - 4 by omega]
  generalize readInt32 bytes (bytes.length - 4) = v at hv hsz ⊢
  by_cases hid : readInt32 bytes (bytes.length - 8) = c.jpegAppSegmentsBlobId
  swap
  · rw [if_pos (by simpa using hid), if_neg fun h => hid h.1]
  rw [if_neg (by simpa using hid)]
  by_cases hr : 1 ≤ v ∧ v ≤ ↑(bytes.length - 8)
  swap
  · rw [if_pos (by simp only [Bool.or_eq_true, decide_eq_true_eq]; omega),
      if_neg fun h => hr ⟨h.2.1, h.2.2.1⟩]
  have he : sizeT v = v.toNat := by
    have := Int.toNat_of_nonneg (show 0 ≤ v by omega)
    omega
  rw [if_neg (by simp only [Bool.or_eq_true, decide_eq_true_eq]; omega), he]
  by_cases hm : byteAt? bytes 0 = some 0xFF ∧ byteAt? bytes 1 = some 0xE1
  swap
  · rw [if_pos (by rw [← Bool.not_eq_false, app1Marker_eq_false_iff (by omega)]; exact hm),
      if_neg fun h => hm ⟨h.2.2.2.1, h.2.2.2.2.1⟩]
  rw [if_neg (by rw [Bool.not_eq_true, app1Marker_eq_false_iff (by omega)]; exact hm)]
  split
  · rename_i total htotal
    by_cases ht : total = v.toNat
    · subst ht
      rw [if_pos rfl, if_pos ⟨hid, hr.1, hr.2, hm.1, hm.2, htotal⟩]
    · rw [if_neg ht, if_neg fun h => ht (Option.some_inj.1 (htotal.symm.trans h.2.2.2.2.2))]
  · rw [if_neg fun h => by simp_all]

end

theorem scanAppnSegments_le_result {bytes : List UInt8} {e : Nat} :
    ∀ {fuel t t' : Nat}, scanAppnSegments bytes e fuel t = some t' → t ≤ t'
  | 0, _, _, h => by cases h; exact Nat.le_refl _
  | fuel + 1, t, t', h => by
    simp only [scanAppnSegments] at h
    split_ifs at h
    · have := scanAppnSegments_le_result h
      omega
    · cases h
      exact Nat.le_refl _

theorem findAppSegmentsSize_app1_le (c : Config) (bytes : List UInt8) (n : Nat) :
    (findAppSegmentsSize c bytes n).2 ≤ (findAppSegmentsSize c bytes n).1 := by
  unfold findAppSegmentsSize
  dsimp only
  split_ifs
  · exact Nat.le_refl _
  · exact Nat.le_refl _
  · exact Nat.le_refl _
  · split
    · rename_i total htotal
      split_ifs with ht
      · have := scanAppnSegments_le_result htotal
        dsimp only
        omega
      · exact Nat.le_refl _
    · exact Nat.le_refl _

theorem findAppSegmentsSize_accepts_exactly (c : Config) (hc : c.cameraBlobSize = 8)
    (bytes : List UInt8) (h12 : 12 ≤ bytes.length) (hsmall : bytes.length < 2 ^ 63) :
    (∀ junk, findAppSegmentsSize c (bytes ++ junk) bytes.length =
      findAppSegmentsSize c bytes bytes.length) ∧
    (∀ fuel t, (readInt32 bytes (bytes.length - 4)).toNat ≤ fuel →
      scanAppnSegments bytes (readInt32 bytes (bytes.length - 4)).toNat fuel t =
        scanAppnSegments bytes (readInt32 bytes (bytes.length - 4)).toNat
          (readInt32 bytes (bytes.length - 4)).toNat t) ∧
    ((findAppSegmentsSize c bytes bytes.length).1 ≠ 0 ↔
      readInt32 bytes (bytes.length - 8) = c.jpegAppSegmentsBlobId ∧
        1 ≤ readInt32 bytes (bytes.length - 4) ∧
        readInt32 bytes (bytes.length - 4) ≤ ↑(bytes.length - 8) ∧
        ∃ l1, AppSegments bytes (readInt32 bytes (bytes.length - 4)).toNat l1) ∧
    (∀ l1, AppSegments bytes (readInt32 bytes (bytes.length - 4)).toNat l1 →
      (findAppSegmentsSize c bytes bytes.length).1 ≠ 0 →
      findAppSegmentsSize c bytes bytes.length =
          ((readInt32 bytes (bytes.length - 4)).toNat, 2 + l1) ∧
        2 + l1 ≤ (readInt32 bytes (bytes.length - 4)).toNat) ∧
    (∀ bytes' n, (findAppSegmentsSize c bytes' n).2 ≤ (findAppSegmentsSize c bytes' n).1) := by
  have hv := readInt32_range bytes (bytes.length - 4)
  have hbounds : ∀ (h1 : 1 ≤ readInt32 bytes (bytes.length - 4))
      (h2 : readInt32 bytes (bytes.length - 4) ≤ ↑(bytes.length - 8)),
      (readInt32 bytes (bytes.length - 4)).toNat + 3 ≤ bytes.length := fun _ _ => by omega
  refine ⟨fun junk => (findAppSegmentsSize_congr hc h12 fun i hi => ?_).symm,
    fun fuel t h => scanAppnSegments_fuel fuel _ t (by omega) (by omega), ?_, ?_,
    findAppSegmentsSize_app1_le c⟩
  · simp [List.getD_eq_getElem?_getD, List.getElem?_append_left hi]
  · rw [findAppSegmentsSize_eq hc h12 hsmall]
    split_ifs with h
    · refine iff_of_true (by omega) ⟨h.1, h.2.1, h.2.2.1, ?_⟩
      exact (appSegments_iff (by omega)).2 ⟨h.2.2.2.1, h.2.2.2.2.1,
        (scanAppnSegments_eq_some_iff (hbounds h.2.1 h.2.2.1) _ _ (by omega)).1 h.2.2.2.2.2⟩
    · refine iff_of_false (by simp) fun ⟨hid, h1, h2, hs⟩ => h ⟨hid, h1, h2, ?_⟩
      obtain ⟨h0, h1', hs⟩ := (appSegments_iff (by omega)).1 hs
      exact ⟨h0, h1', (scanAppnSegments_eq_some_iff (hbounds h1 h2) _ _ (by omega)).2 hs⟩
  · intro l1 hl1 hne
    have hl := hl1.app1_eq (by omega)
    obtain ⟨-, -, -, -, -, -, -, hs⟩ := hl1
    rw [findAppSegmentsSize_eq hc h12 hsmall] at hne ⊢
    split_ifs at hne ⊢
    · rw [hl, Nat.add_comm]
      exact ⟨rfl, hl ▸ hs.le_end⟩
    · exact absurd rfl hne

def twoSegmentBlob : List UInt8 :=
  [0xFF, 0xE1, 0, 2, 0xFF, 0xE2, 0, 2, 0, 1, 0, 0, 8, 0, 0, 0]

theorem twoSegmentBlob_parses : ∃ l1, AppSegments twoSegmentBlob 8 l1 :=
  ((findAppSegmentsSize_accepts_exactly tiledConfig rfl twoSegmentBlob (by decide)
    (by decide)).2.2.1.1 (by decide)).2.2.2

def truncatedApp1Blob : List UInt8 := [0xFF, 0xE1, 0, 0, 0, 1, 0, 0, 2, 0, 0, 0]

theorem truncated_app1_blob_accepted :
    findAppSegmentsSize tiledConfig truncatedApp1Blob truncatedApp1Blob.length = (2, 2) ∧
      ¬∃ l1, AppSegments (truncatedApp1Blob.take 2) 2 l1 := by
  refine ⟨by decide, ?_⟩
  rintro ⟨l1, -, -, hi, lo, h2, -⟩
  simp [byteAt?, truncatedApp1Blob] at h2

end CameraService.Heic
