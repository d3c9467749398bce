import CameraService.Heic.Process

/-! The encoder grids of `initializeCodec` and `initializeGainmapCodec`, and the tiles they cut,
which partition the output. -/

namespace CameraService.Heic

def kGainmapScale : Nat := 4

/-- The grid of `initializeCodec` (tiled when `useGrid || mUseHeic`) and of
`initializeGainmapCodec` (tiled when `useGrid`), for an output of `width × height` and the tile
size `kGridWidth × kGridHeight` of `HeicEncoderInfoManager`, declared outside src/. The tile
counts are computed in `uint32_t`. -/
def gridOf (tiled : Bool) (kGridWidth kGridHeight width height : Nat) : Grid :=
  if tiled then
    ⟨kGridWidth, kGridHeight, (height + kGridHeight - 1) % 2 ^ 32 / kGridHeight,
      (width + kGridWidth - 1) % 2 ^ 32 / kGridWidth⟩
  else ⟨width, height, 1, 1⟩

def InRect (r : Nat × Nat × Nat × Nat) (x y : Nat) : Prop :=
  r.2.1 ≤ x ∧ x < r.2.1 + r.2.2.1 ∧ r.1 ≤ y ∧ y < r.1 + r.2.2.2

instance (r : Nat × Nat × Nat × Nat) (x y : Nat) : Decidable (InRect r x y) :=
  inferInstanceAs (Decidable (_ ∧ _))

theorem sizeT_of_lt {x : Int} (h0 : 0 ≤ x) (h : x < 2 ^ 64) : sizeT x = x.toNat := by
  rw [sizeT, Int.emod_eq_of_lt h0 h]

section
variable {W gw i : Nat}

theorem succ_mul_le_of_lt_cols (hgw : 0 < gw) (hi : i < (W + gw - 1) / gw) :
    i * gw + gw ≤ W + gw - 1 := by
  have := (Nat.le_div_iff_mul_le hgw).1 hi
  rwa [Nat.succ_mul] at this

theorem le_cols_mul (hgw : 0 < gw) : W ≤ (W + gw - 1) / gw * gw := by
  have := Nat.lt_div_mul_add (a := W + gw - 1) hgw
  omega

theorem extent_eq (hW : W < 2 ^ 64) (hgw : 0 < gw) (hi : i < (W + gw - 1) / gw) :
    (if i + 1 = (W + gw - 1) / gw then sizeT ((W : Int) - (i : Int) * (gw : Int))
      else sizeT (gw : Int)) = min gw (W - i * gw) := by
  have hlt := succ_mul_le_of_lt_cols hgw hi
  split_ifs with hlast
  · have hc := le_cols_mul (W := W) hgw
    rw [← hlast, Nat.succ_mul] at hc
    have e : (W : Int) - (i : Int) * (gw : Int) = ((W - i * gw : Nat) : Int) := by
      rw [Int.ofNat_sub (by omega), Int.ofNat_mul]
    rw [e, sizeT_of_lt (by omega) (by omega), Int.toNat_ofNat]
    omega
  · have hnext : i + 1 < (W + gw - 1) / gw := by omega
    have := succ_mul_le_of_lt_cols hgw hnext
    rw [Nat.succ_mul] at this
    rw [sizeT_of_lt (by omega) (by omega), Int.toNat_ofNat]
    omega

theorem mem_extent_iff (hgw : 0 < gw) (x : Nat) :
    i * gw ≤ x ∧ x < i * gw + min gw (W - i * gw) ↔ x < W ∧ x / gw = i := by
  constructor
  · rintro ⟨h1, h2⟩
    refine ⟨by omega, Nat.div_eq_of_lt_le h1 ?_⟩
    rw [Nat.succ_mul]
    omega
  · rintro ⟨hx, rfl⟩
    have h1 := Nat.div_mul_le_self x gw
    have h2 := Nat.lt_div_mul_add (a := x) hgw
    omega

end

section
variable {g : Grid} {W H gw gh : Nat} (hW : W < 2 ^ 64) (hH : H < 2 ^ 64) (hgw : 0 < gw)
  (hgh : 0 < gh) (hw : g.width = gw) (hh : g.height = gh) (hcols : g.cols = (W + gw - 1) / gw)
  (hrows : g.rows = (H + gh - 1) / gh)
include hW hH hgw hgh hw hh hcols hrows

theorem tileRect_eq {t : Nat} (ht : t < g.rows * g.cols) :
    tileRect g W H t = (t / g.cols * gh, t % g.cols * gw, min gw (W - t % g.cols * gw),
      min gh (H - t / g.cols * gh)) := by
  have hc : 0 < g.cols := Nat.pos_of_ne_zero fun h => by simp [h] at ht
  have hx : t % g.cols < (W + gw - 1) / gw := hcols ▸ Nat.mod_lt _ hc
  have hy : t / g.cols < (H + gh - 1) / gh := hrows ▸ (Nat.div_lt_iff_lt_mul hc).2 ht
  have htop : gh * (t / g.cols) < 2 ^ 64 := by
    have := succ_mul_le_of_lt_cols hgh hy
    rw [Nat.mul_comm]; omega
  have hleft : gw * (t % g.cols) < 2 ^ 64 := by
    have := succ_mul_le_of_lt_cols hgw hx
    rw [Nat.mul_comm]; omega
  simp only [tileRect, hw, hh]
  rw [← extent_eq hW hgw hx, ← extent_eq hH hgh hy, ← hcols, ← hrows,
    ← Int.ofNat_mul gh, ← Int.ofNat_mul gw, sizeT_of_lt (by omega) (by omega),
    sizeT_of_lt (by omega) (by omega), Int.toNat_ofNat, Int.toNat_ofNat, Nat.mul_comm gh,
    Nat.mul_comm gw]

theorem inRect_tileRect_iff {t : Nat} (ht : t < g.rows * g.cols) (x y : Nat) :
    InRect (tileRect g W H t) x y ↔ x < W ∧ y < H ∧ t = y / gh * g.cols + x / gw := by
  have hc : 0 < g.cols := Nat.pos_of_ne_zero fun h => by simp [h] at ht
  rw [tileRect_eq hW hH hgw hgh hw hh hcols hrows ht, InRect]
  dsimp only
  rw [← and_assoc, mem_extent_iff hgw, mem_extent_iff hgh]
  constructor
  · rintro ⟨⟨hx, hxq⟩, hy, hyq⟩
    exact ⟨hx, hy, by rw [hxq, hyq, Nat.div_add_mod']⟩
  · rintro ⟨hx, hy, rfl⟩
    have hr : x / gw < g.cols :=
      (Nat.div_lt_iff_lt_mul hgw).2 (Nat.lt_of_lt_of_le hx (hcols ▸ le_cols_mul hgw))
    refine ⟨⟨hx, ?_⟩, hy, ?_⟩
    · rw [Nat.add_comm, Nat.add_mul_mod_self_right, Nat.mod_eq_of_lt hr]
    · rw [Nat.add_comm, Nat.add_mul_div_right _ _ hc, Nat.div_eq_of_lt hr, Nat.zero_add]

end

theorem tiles_partition_output (g : Grid) {W H gw gh : Nat} (hW : 1 ≤ W) (hH : 1 ≤ H)
    (hgw : 1 ≤ gw) (hgh : 1 ≤ gh) (hWfit : W < 2 ^ 64) (hHfit : H < 2 ^ 64) (hw : g.width = gw)
    (hh : g.height = gh) (hcols : g.cols = (W + gw - 1) / gw) (hrows : g.rows = (H + gh - 1) / gh) :
    (∀ t < g.rows * g.cols, ∃ top left width height,
      tileRect g W H t = (top, left, width, height) ∧
        width = min gw (W - left) ∧ height = min gh (H - top) ∧
        1 ≤ width ∧ width ≤ gw ∧ 1 ≤ height ∧ height ≤ gh ∧ left + width ≤ W ∧ top + height ≤ H) ∧
      (∀ t₁ < g.rows * g.cols, ∀ t₂ < g.rows * g.cols, ∀ x y,
        InRect (tileRect g W H t₁) x y → InRect (tileRect g W H t₂) x y → t₁ = t₂) ∧
      (∀ x y, (∃ t < g.rows * g.cols, InRect (tileRect g W H t) x y) ↔ x < W ∧ y < H) := by
  have hmem := fun t (ht : t < g.rows * g.cols) =>
    inRect_tileRect_iff hWfit hHfit hgw hgh hw hh hcols hrows ht
  refine ⟨fun t ht => ?_, fun t₁ h₁ t₂ h₂ x y hx₁ hx₂ => ?_, fun x y => ⟨?_, ?_⟩⟩
  · have hc : 0 < g.cols := Nat.pos_of_ne_zero fun h => by simp [h] at ht
    have hx : t % g.cols < (W + gw - 1) / gw := hcols ▸ Nat.mod_lt _ hc
    have hy : t / g.cols < (H + gh - 1) / gh := hrows ▸ (Nat.div_lt_iff_lt_mul hc).2 ht
    have := succ_mul_le_of_lt_cols hgw hx
    have := succ_mul_le_of_lt_cols hgh hy
    refine ⟨_, _, _, _, tileRect_eq hWfit hHfit hgw hgh hw hh hcols hrows ht, rfl, rfl, ?_⟩
    omega
  · rw [((hmem _ h₁ x y).1 hx₁).2.2, ((hmem _ h₂ x y).1 hx₂).2.2]
  · rintro ⟨t, ht, hin⟩
    exact ⟨((hmem _ ht x y).1 hin).1, ((hmem _ ht x y).1 hin).2.1⟩
  · rintro ⟨hx, hy⟩
    have hc : 0 < g.cols := hcols ▸ (Nat.le_div_iff_mul_le hgw).2 (by omega)
    have hxc : x / gw < g.cols :=
      (Nat.div_lt_iff_lt_mul hgw).2 (Nat.lt_of_lt_of_le hx (hcols ▸ le_cols_mul hgw))
    have hyr : y / gh < g.rows :=
      (Nat.div_lt_iff_lt_mul hgh).2 (Nat.lt_of_lt_of_le hy (hrows ▸ le_cols_mul hgh))
    have ht : y / gh * g.cols + x / gw < g.rows * g.cols := by
      calc y / gh * g.cols + x / gw < y / gh * g.cols + g.cols := by omega
        _ = (y / gh + 1) * g.cols := (Nat.succ_mul _ _).symm
        _ ≤ g.rows * g.cols := Nat.mul_le_mul_right _ hyr
    exact ⟨_, ht, (hmem _ ht x y).2 ⟨hx, hy, rfl⟩⟩

theorem tiles_partition_1000x600 :
    (1 ≤ 1000 ∧ 1 ≤ 600 ∧ 1 ≤ 512 ∧ 1 ≤ 512 ∧ 1000 < 2 ^ 64 ∧ 600 < 2 ^ 64) ∧
      (∃ t < 2 * 2, InRect (tileRect ⟨512, 512, 2, 2⟩ 1000 600 t) 999 599) :=
  ⟨by decide, ((@tiles_partition_output ⟨512, 512, 2, 2⟩ 1000 600 512 512 (by decide) (by decide)
    (by decide) (by decide) (by decide) (by decide) rfl rfl rfl rfl).2.2 999 599).2
    ⟨by decide, by decide⟩⟩

end CameraService.Heic
