import CameraService.Heic.Tiling

/-! `HeicCompositeStream::copyOneYuvTile` as its row copies and byte moves, and when its two fast
chroma paths leave what the per-sample path would. -/

namespace CameraService.Heic

structure PlaneInfo where
  mOffset : Nat
  mColInc : Int
  mRowInc : Int
  deriving DecidableEq, Repr

structure MediaImage2 where
  mType : Nat
  mNumPlanes : Nat
  mHeight : Nat
  mBitDepth : Nat
  mBitDepthAllocated : Nat
  planeY : PlaneInfo
  planeU : PlaneInfo
  planeV : PlaneInfo
  deriving DecidableEq, Repr

/-- `MediaImage2::MEDIA_IMAGE_TYPE_YUV`, declared outside src/. -/
def mediaImageTypeYuv : Nat := 1

/-- `sizeof(MediaImage2)`, declared outside src/: six words and four planes of five words. -/
def sizeofMediaImage2 : Nat := 104

structure ImageData where
  size : Nat
  info : MediaImage2
  deriving DecidableEq, Repr

structure YuvBuffer where
  data : Nat
  dataCb : Nat
  dataCr : Nat
  stride : Nat
  chromaStride : Nat
  chromaStep : Nat
  deriving DecidableEq, Repr

inductive CopyOp
  | copyRow (src dst count : Nat)
  | copyByte (src dst : Nat)
  deriving DecidableEq, Repr

def planeIndex (p : PlaneInfo) (r c : Nat) : Int := p.mOffset + p.mRowInc * r + p.mColInc * c

def chromaIndex (yuv : YuvBuffer) (row col : Nat) : Nat :=
  row * yuv.chromaStride + yuv.chromaStep * col

def yRows (info : MediaImage2) (yuv : YuvBuffer) (top left width height : Nat) : List CopyOp :=
  (List.range height).map fun r : Nat =>
    .copyRow (sizeT (yuv.data + (top + r) * yuv.stride + left : Nat))
      (sizeT (planeIndex info.planeY r 0)) width

def codecUPlaneFirst (info : MediaImage2) : Bool := info.planeV.mOffset > info.planeU.mOffset

def codecUvOffsetDiff (info : MediaImage2) : Nat :=
  if codecUPlaneFirst info then info.planeV.mOffset - info.planeU.mOffset
  else info.planeU.mOffset - info.planeV.mOffset

def isCodecUvSemiplannar (info : MediaImage2) : Bool :=
  codecUvOffsetDiff info == 1 && info.planeU.mRowInc == info.planeV.mRowInc &&
    info.planeU.mColInc == 2 && info.planeV.mColInc == 2

def isCodecUvPlannar (info : MediaImage2) : Bool :=
  ((codecUPlaneFirst info &&
      decide ((info.planeU.mRowInc * info.mHeight % 2 ^ 32).toNat / 2 ≤ codecUvOffsetDiff info)) ||
    (!codecUPlaneFirst info &&
      decide ((info.planeV.mRowInc * info.mHeight % 2 ^ 32).toNat / 2 ≤ codecUvOffsetDiff info))) &&
    info.planeU.mColInc == 1 && info.planeV.mColInc == 1

def cameraUPlaneFirst (yuv : YuvBuffer) : Bool := yuv.dataCr > yuv.dataCb

inductive ChromaPath
  | semiplanar
  | planar
  | generic
  deriving DecidableEq, Repr

def chromaPath (info : MediaImage2) (yuv : YuvBuffer) : ChromaPath :=
  if isCodecUvSemiplannar info && yuv.chromaStep == 2 &&
      codecUPlaneFirst info == cameraUPlaneFirst yuv then .semiplanar
  else if isCodecUvPlannar info && yuv.chromaStep == 1 then .planar
  else .generic

def chromaRows (top height : Nat) : Nat := (top + height) / 2 - top / 2

def semiplanarRows (info : MediaImage2) (yuv : YuvBuffer) (top left width height : Nat) :
    List CopyOp :=
  let dstPlane := if codecUPlaneFirst info then info.planeU else info.planeV
  (List.range (chromaRows top height)).map fun r : Nat =>
    .copyRow (sizeT (min yuv.dataCb yuv.dataCr + (top / 2 + r) * yuv.chromaStride + left : Nat))
      (sizeT (planeIndex dstPlane r 0)) width

def planarRows (info : MediaImage2) (yuv : YuvBuffer) (top left width height : Nat) :
    List CopyOp :=
  let rows (p : PlaneInfo) (src : Nat) : List CopyOp :=
    (List.range (chromaRows top height)).map fun r : Nat =>
      .copyRow (sizeT (src + (top / 2 + r) * yuv.chromaStride + left / 2 : Nat))
        (sizeT (planeIndex p r 0)) (width / 2)
  rows info.planeU yuv.dataCb ++ rows info.planeV yuv.dataCr

def genericCopies (info : MediaImage2) (yuv : YuvBuffer) (top left width height : Nat) :
    List CopyOp :=
  (List.range (chromaRows top height)).flatMap fun r =>
    (List.range ((left + width) / 2 - left / 2)).flatMap fun c =>
      let srcIndex := Int.bmod (chromaIndex yuv (top / 2 + r) (left / 2 + c)) (2 ^ 32)
      [.copyByte (sizeT (yuv.dataCb + srcIndex))
          (sizeT (Int.bmod (planeIndex info.planeU r c) (2 ^ 32))),
        .copyByte (sizeT (yuv.dataCr + srcIndex))
          (sizeT (Int.bmod (planeIndex info.planeV r c) (2 ^ 32)))]

def chromaCopies (info : MediaImage2) (yuv : YuvBuffer) (top left width height : Nat) :
    List CopyOp :=
  match chromaPath info yuv with
  | .semiplanar => semiplanarRows info yuv top left width height
  | .planar => planarRows info yuv top left width height
  | .generic => genericCopies info yuv top left width height

theorem chromaCopies_eq (info : MediaImage2) (yuv : YuvBuffer) (top left width height : Nat) :
    chromaCopies info yuv top left width height =
      match chromaPath info yuv with
      | .semiplanar => semiplanarRows info yuv top left width height
      | .planar => planarRows info yuv top left width height
      | .generic => genericCopies info yuv top left width height := rfl

def ImageData.Valid (d : ImageData) : Prop :=
  d.size = sizeofMediaImage2 ∧ d.info.mType = mediaImageTypeYuv ∧ d.info.mBitDepth = 8 ∧
    d.info.mBitDepthAllocated = 8 ∧ d.info.mNumPlanes = 3

instance (d : ImageData) : Decidable d.Valid := inferInstanceAs (Decidable (_ ∧ _))

def copyOneYuvTile (imageData : Option ImageData) (yuv : YuvBuffer)
    (top left width height : Nat) : Except Status (List CopyOp) :=
  match imageData with
  | none => .error .badValue
  | some imageData =>
    if imageData.size ≠ sizeofMediaImage2 then .error .badValue
    else
      let info := imageData.info
      if info.mType ≠ mediaImageTypeYuv ∨ info.mBitDepth ≠ 8 ∨ info.mBitDepthAllocated ≠ 8 ∨
          info.mNumPlanes ≠ 3 then .error .badValue
      else .ok (yRows info yuv top left width height ++ chromaCopies info yuv top left width height)

def copyTile (g : Grid) (outputWidth outputHeight : Int) (imageData : Option ImageData)
    (yuv : YuvBuffer) (tileIndex : Nat) : Except Status (List CopyOp) :=
  let (top, left, width, height) := tileRect g outputWidth outputHeight tileIndex
  copyOneYuvTile imageData yuv top left width height

def CopyOp.writes (mem : Nat → UInt8) : CopyOp → List (Nat × UInt8)
  | .copyRow src dst count =>
    (List.range count).map fun k => ((dst + k) % 2 ^ 64, mem ((src + k) % 2 ^ 64))
  | .copyByte src dst => [(dst, mem src)]

def writeByte (buf : Nat → UInt8) (w : Nat × UInt8) : Nat → UInt8 := Function.update buf w.1 w.2

def runCopies (mem : Nat → UInt8) (ops : List CopyOp) (buf : Nat → UInt8) : Nat → UInt8 :=
  (ops.flatMap (CopyOp.writes mem)).foldl writeByte buf

def rowLengths (ops : List CopyOp) : List Nat :=
  ops.filterMap fun
    | .copyRow _ _ count => some count
    | .copyByte _ _ => none

/-- The row copiers of libyuv, declared outside src/. -/
inductive CopyRowFn
  | copyRowC
  | copyRowSSE2
  | copyRowAnySSE2
  | copyRowAVX
  | copyRowAnyAVX
  | copyRowERMS
  | copyRowNEON
  | copyRowAnyNEON
  | copyRowMIPS
  deriving DecidableEq, Repr

structure CpuFeatures where
  sse2 : Bool
  avx : Bool
  erms : Bool
  neon : Bool
  mips : Bool
  deriving DecidableEq, Repr

def initCopyRowFunction (cpu : CpuFeatures) (width : Int) : CopyRowFn :=
  let fn := CopyRowFn.copyRowC
  let fn := if cpu.sse2 then if width % 32 = 0 then .copyRowSSE2 else .copyRowAnySSE2 else fn
  let fn := if cpu.avx then if width % 64 = 0 then .copyRowAVX else .copyRowAnyAVX else fn
  let fn := if cpu.erms then .copyRowERMS else fn
  let fn := if cpu.neon then if width % 32 = 0 then .copyRowNEON else .copyRowAnyNEON else fn
  if cpu.mips then .copyRowMIPS else fn

/-- The block an aligned copier moves per step, libyuv's, declared outside src/: it copies only
whole blocks. The other copiers take any length. -/
def CopyRowFn.blockSize : CopyRowFn → Nat
  | .copyRowSSE2 | .copyRowNEON => 32
  | .copyRowAVX => 64
  | _ => 1

theorem copyOneYuvTile_valid {d : ImageData} (hv : d.Valid) (yuv : YuvBuffer)
    (top left width height : Nat) :
    copyOneYuvTile (some d) yuv top left width height =
      .ok (yRows d.info yuv top left width height ++ chromaCopies d.info yuv top left width height) := by
  obtain ⟨h₁, h₂, h₃, h₄, h₅⟩ := hv
  simp [copyOneYuvTile, h₁, h₂, h₃, h₄, h₅]

theorem copyOneYuvTile_invalid {d : ImageData} (hv : ¬ d.Valid) (yuv : YuvBuffer)
    (top left width height : Nat) :
    copyOneYuvTile (some d) yuv top left width height = .error .badValue := by
  unfold ImageData.Valid at hv
  simp only [copyOneYuvTile]
  split_ifs <;> first | rfl | tauto

theorem rowLengths_append (a b : List CopyOp) :
    rowLengths (a ++ b) = rowLengths a ++ rowLengths b := List.filterMap_append ..

theorem rowLengths_map_copyRow (n count : Nat) (src dst : Nat → Nat) :
    rowLengths ((List.range n).map fun r => .copyRow (src r) (dst r) count) =
      List.replicate n count := by
  rw [rowLengths, List.filterMap_map]
  show List.filterMap (some ∘ fun _ => count) _ = _
  rw [List.filterMap_eq_map, List.map_const', List.length_range]

theorem rowLengths_genericCopies (info : MediaImage2) (yuv : YuvBuffer)
    (top left width height : Nat) :
    rowLengths (genericCopies info yuv top left width height) = [] := by
  simp [rowLengths, genericCopies, List.filterMap_flatMap]

theorem mem_rowLengths_iff (info : MediaImage2) (yuv : YuvBuffer) (top left width height n : Nat) :
    n ∈ rowLengths (yRows info yuv top left width height ++
        chromaCopies info yuv top left width height) ↔
      0 < height ∧ n = width ∨ 0 < chromaRows top height ∧
        (chromaPath info yuv = .semiplanar ∧ n = width ∨
          chromaPath info yuv = .planar ∧ n = width / 2) := by
  have hrows : chromaRows top height ≠ 0 → height ≠ 0 := by unfold chromaRows; omega
  simp only [rowLengths_append, yRows, rowLengths_map_copyRow, chromaCopies_eq]
  cases chromaPath info yuv <;>
    simp [semiplanarRows, planarRows, rowLengths_append, rowLengths_map_copyRow,
      rowLengths_genericCopies, List.mem_replicate, Nat.pos_iff_ne_zero]
  tauto

theorem dvd_tileWidths_iff {W gw m : Nat} (hW : 1 ≤ W) (hgw : 1 ≤ gw) :
    (∀ i < (W + gw - 1) / gw, m ∣ min gw (W - i * gw)) ↔ m ∣ W ∧ (W ≤ gw ∨ m ∣ gw) := by
  have hpos : 0 < (W + gw - 1) / gw := (Nat.le_div_iff_mul_le hgw).2 (by omega)
  constructor
  · intro h
    have h0 := h 0 hpos
    rw [Nat.zero_mul, Nat.sub_zero] at h0
    by_cases hle : W ≤ gw
    · exact ⟨Nat.min_eq_right hle ▸ h0, .inl hle⟩
    rw [Nat.min_eq_left (by omega)] at h0
    have hlast := h _ (Nat.sub_lt hpos Nat.zero_lt_one)
    have hend := succ_mul_le_of_lt_cols hgw (Nat.sub_lt hpos Nat.zero_lt_one)
    have hcover := le_cols_mul (W := W) hgw
    have hc : (W + gw - 1) / gw * gw = ((W + gw - 1) / gw - 1) * gw + gw := by
      rw [← Nat.succ_mul, Nat.succ_eq_add_one, Nat.sub_add_cancel hpos]
    rw [Nat.min_eq_right (by omega)] at hlast
    have := Nat.dvd_add hlast (Nat.dvd_trans h0 (Nat.dvd_mul_left gw ((W + gw - 1) / gw - 1)))
    rw [Nat.sub_add_cancel (by omega)] at this
    exact ⟨this, .inr h0⟩
  · rintro ⟨hWd, hle | hgd⟩ i hi
    · have : (W + gw - 1) / gw < 2 := (Nat.div_lt_iff_lt_mul hgw).2 (by omega)
      obtain rfl : i = 0 := by omega
      rwa [Nat.zero_mul, Nat.sub_zero, Nat.min_eq_right hle]
    · rcases Nat.le_total gw (W - i * gw) with h | h
      · rwa [Nat.min_eq_left h]
      · rw [Nat.min_eq_right h]
        exact Nat.dvd_sub' hWd (Nat.dvd_trans hgd (Nat.dvd_mul_left gw i))

theorem copyTile_rowLengths_dvd_iff (g : Grid) {W H gw gh : Nat} (hW : 1 ≤ W) (hH : 2 ≤ H)
    (hgw : 1 ≤ gw) (hgh : 2 ≤ gh) (hWfit : W < 2 ^ 64) (hHfit : H < 2 ^ 64) (hw : g.width = gw)
    (hh : g.height = gh) (hcols : g.cols = (W + gw - 1) / gw) (hrows : g.rows = (H + gh - 1) / gh)
    (d : ImageData) (hv : d.Valid) (yuv : YuvBuffer) :
    (∀ t < g.rows * g.cols, ∀ ops, copyTile g W H (some d) yuv t = .ok ops →
        ∀ n ∈ rowLengths ops, 32 ∣ n) ↔
      (if chromaPath d.info yuv = .planar then 64 else 32) ∣ W ∧
        (W ≤ gw ∨ (if chromaPath d.info yuv = .planar then 64 else 32) ∣ gw) := by
  have htile : ∀ t < g.rows * g.cols, copyTile g W H (some d) yuv t =
      .ok (yRows d.info yuv (t / g.cols * gh) (t % g.cols * gw) (min gw (W - t % g.cols * gw))
          (min gh (H - t / g.cols * gh)) ++
        chromaCopies d.info yuv (t / g.cols * gh) (t % g.cols * gw) (min gw (W - t % g.cols * gw))
          (min gh (H - t / g.cols * gh))) := fun t ht => by
    rw [copyTile, tileRect_eq hWfit hHfit (by omega) (by omega) hw hh hcols hrows ht]
    exact copyOneYuvTile_valid hv ..
  have hc : 0 < g.cols := hcols ▸ (Nat.le_div_iff_mul_le (by omega)).2 (by omega)
  have hr : 0 < g.rows := hrows ▸ (Nat.le_div_iff_mul_le (by omega)).2 (by omega)
  rw [← dvd_tileWidths_iff hW hgw, ← hcols]
  simp only [Nat.dvd_iff_mod_eq_zero]
  constructor
  · intro h i hi
    have ht : i < g.rows * g.cols := Nat.lt_of_lt_of_le hi (Nat.le_mul_of_pos_left _ hr)
    have hlen := h i ht _ (htile i ht)
    rw [Nat.div_eq_of_lt hi, Nat.mod_eq_of_lt hi, Nat.zero_mul, Nat.sub_zero] at hlen
    have hrows2 : 0 < chromaRows 0 (min gh H) := by unfold chromaRows; omega
    have hy := hlen _ ((mem_rowLengths_iff ..).2 (.inl ⟨by omega, rfl⟩))
    split_ifs with hp
    · have := hlen _ ((mem_rowLengths_iff ..).2 (.inr ⟨hrows2, .inr ⟨hp, rfl⟩⟩))
      omega
    · exact hy
  · intro h t ht ops hops n hn
    rw [htile t ht, Except.ok.injEq] at hops
    subst hops
    have hwd := h (t % g.cols) (Nat.mod_lt _ hc)
    rcases (mem_rowLengths_iff ..).1 hn with ⟨-, rfl⟩ | ⟨-, ⟨-, rfl⟩ | ⟨hp, rfl⟩⟩
    · split_ifs at hwd <;> omega
    · split_ifs at hwd <;> omega
    · rw [if_pos hp] at hwd
      omega

def nv12Image (width height : Nat) : ImageData :=
  ⟨sizeofMediaImage2, ⟨mediaImageTypeYuv, 3, height, 8, 8, ⟨0, 1, width⟩, ⟨width * height, 2, width⟩,
    ⟨width * height + 1, 2, width⟩⟩⟩

def nv12Buffer (base width height : Nat) : YuvBuffer :=
  ⟨base, base + width * height, base + width * height + 1, width, width, 2⟩

theorem chromaPath_nv12 (base width height : Nat) :
    chromaPath (nv12Image width height).info (nv12Buffer base width height) = .semiplanar := by
  simp [chromaPath, isCodecUvSemiplannar, codecUvOffsetDiff, codecUPlaneFirst, cameraUPlaneFirst,
    nv12Image, nv12Buffer]

theorem gainmap_rowLength_misaligned :
    initCopyRowFunction ⟨true, false, false, false, false⟩ 4032 = .copyRowSSE2 ∧
      (1 ≤ 1008 ∧ 2 ≤ 756 ∧ 1 ≤ 1008 ∧ 2 ≤ 756 ∧ 1008 < 2 ^ 64 ∧ 756 < 2 ^ 64 ∧
        (nv12Image 1008 756).Valid) ∧
      ¬ ∀ t < 1 * 1, ∀ ops, copyTile (gridOf false 512 512 (4032 / kGainmapScale)
          (3024 / kGainmapScale)) (4032 / kGainmapScale : Nat) (3024 / kGainmapScale : Nat)
          (some (nv12Image 1008 756)) (nv12Buffer 0 1008 756) t = .ok ops →
        ∀ n ∈ rowLengths ops, 32 ∣ n :=
  ⟨rfl, by decide, fun h => absurd
    ((@copyTile_rowLengths_dvd_iff (gridOf false 512 512 (4032 / kGainmapScale)
      (3024 / kGainmapScale)) 1008 756 1008 756 (by decide)
      (by decide) (by decide) (by decide) (by decide) (by decide) (by decide) (by decide)
      (by decide) (by decide) _ (by decide) _).1 h)
    (by rw [chromaPath_nv12]; decide)⟩

def InInt32 (x : Int) : Prop := -2 ^ 31 ≤ x ∧ x < 2 ^ 31

instance (x : Int) : Decidable (InInt32 x) := inferInstanceAs (Decidable (_ ∧ _))

def GenericIndicesFit (info : MediaImage2) (yuv : YuvBuffer) (top left width height : Nat) :
    Prop :=
  ∀ r < chromaRows top height, ∀ c < (left + width) / 2 - left / 2,
    InInt32 (planeIndex info.planeU r c) ∧ InInt32 (planeIndex info.planeV r c) ∧
      InInt32 (chromaIndex yuv (top / 2 + r) (left / 2 + c))

instance (info : MediaImage2) (yuv : YuvBuffer) (top left width height : Nat) :
    Decidable (GenericIndicesFit info yuv top left width height) :=
  inferInstanceAs (Decidable (∀ r < _, ∀ c < _, _))

def PlanarRowsDisjoint (info : MediaImage2) (top width height : Nat) : Prop :=
  ∀ r₁ < chromaRows top height, ∀ r₂ < chromaRows top height, ∀ c₁ < width / 2, ∀ c₂ < width / 2,
    sizeT (planeIndex info.planeU r₁ c₁) ≠ sizeT (planeIndex info.planeV r₂ c₂)

instance (info : MediaImage2) (top width height : Nat) :
    Decidable (PlanarRowsDisjoint info top width height) :=
  inferInstanceAs (Decidable (∀ r₁ < _, ∀ r₂ < _, ∀ c₁ < _, ∀ c₂ < _, _))

theorem bmod_of_inInt32 {x : Int} (h : InInt32 x) : Int.bmod x (2 ^ 32) = x := by
  unfold InInt32 at h
  simp only [Int.bmod]
  split_ifs <;> omega

theorem sizeT_add_nat (x : Int) (k : Nat) : (sizeT x + k) % 2 ^ 64 = sizeT (x + k) := by
  unfold sizeT
  omega

theorem runCopies_append (mem : Nat → UInt8) (a b : List CopyOp) (buf : Nat → UInt8) :
    runCopies mem (a ++ b) buf = runCopies mem b (runCopies mem a buf) := by
  simp only [runCopies, List.flatMap_append, List.foldl_append]

theorem foldl_flatMap_congr {ι : Type} {A B : ι → List (Nat × UInt8)} :
    ∀ l : List ι, (∀ i ∈ l, ∀ buf, (A i).foldl writeByte buf = (B i).foldl writeByte buf) →
      ∀ buf, (l.flatMap A).foldl writeByte buf = (l.flatMap B).foldl writeByte buf
  | [], _, _ => rfl
  | i :: l, h, buf => by
    rw [List.flatMap_cons, List.flatMap_cons, List.foldl_append, List.foldl_append,
      h i (List.mem_cons_self _ _), foldl_flatMap_congr l fun j hj => h j (.tail _ hj)]

theorem foldl_pairs_swap {ι : Type} {p q : ι → Nat × UInt8} :
    ∀ l : List ι, (∀ i ∈ l, (p i).1 ≠ (q i).1) → ∀ buf,
      (l.flatMap fun i => [p i, q i]).foldl writeByte buf =
        (l.flatMap fun i => [q i, p i]).foldl writeByte buf
  | [], _, _ => rfl
  | i :: l, h, buf => by
    simp only [List.flatMap_cons, List.foldl_append, List.foldl_cons, List.foldl_nil, writeByte]
    rw [Function.update_comm (h i (List.mem_cons_self _ _))]
    exact foldl_pairs_swap l (fun j hj => h j (.tail _ hj)) _

theorem foldl_writeByte_comm {w : Nat × UInt8} :
    ∀ ws : List (Nat × UInt8), (∀ v ∈ ws, v.1 ≠ w.1) → ∀ buf,
      ws.foldl writeByte (writeByte buf w) = writeByte (ws.foldl writeByte buf) w
  | [], _, _ => rfl
  | v :: ws, h, buf => by
    have hswap : writeByte (writeByte buf w) v = writeByte (writeByte buf v) w :=
      Function.update_comm (h v (List.mem_cons_self _ _)).symm _ _ _
    rw [List.foldl_cons, List.foldl_cons, hswap,
      foldl_writeByte_comm ws (fun u hu => h u (.tail _ hu))]

theorem foldl_interleave {ι : Type} {a b : ι → Nat × UInt8} :
    ∀ l : List ι, (∀ i ∈ l, ∀ j ∈ l, (a i).1 ≠ (b j).1) → ∀ buf,
      (l.flatMap fun i => [a i, b i]).foldl writeByte buf =
        (l.map a ++ l.map b).foldl writeByte buf
  | [], _, _ => rfl
  | i :: l, h, buf => by
    have hb : ∀ v ∈ l.map a, v.1 ≠ (b i).1 := by
      simp only [List.mem_map]
      rintro _ ⟨j, hj, rfl⟩
      exact h j (.tail _ hj) i (List.mem_cons_self _ _)
    rw [List.flatMap_cons, List.foldl_append,
      foldl_interleave l (fun j hj k hk => h j (.tail _ hj) k (.tail _ hk))]
    simp only [List.map_cons, List.cons_append, List.foldl_cons, List.foldl_nil, List.foldl_append]
    rw [foldl_writeByte_comm _ hb]

theorem map_range_two_mul {α : Type} (f : Nat → α) :
    ∀ n, (List.range (2 * n)).map f = (List.range n).flatMap fun c => [f (2 * c), f (2 * c + 1)]
  | 0 => rfl
  | n + 1 => by
    rw [show 2 * (n + 1) = 2 * n + 1 + 1 by omega, List.range_succ, List.range_succ,
      List.map_append, List.map_append, map_range_two_mul f n, List.range_succ,
      List.flatMap_append, List.append_assoc]
    rfl

theorem chromaPath_eq_semiplanar {info : MediaImage2} {yuv : YuvBuffer}
    (h : chromaPath info yuv = .semiplanar) :
    codecUvOffsetDiff info = 1 ∧ info.planeU.mRowInc = info.planeV.mRowInc ∧
      info.planeU.mColInc = 2 ∧ info.planeV.mColInc = 2 ∧ yuv.chromaStep = 2 ∧
      codecUPlaneFirst info = cameraUPlaneFirst yuv := by
  unfold chromaPath at h
  split_ifs at h with h₁
  simp only [isCodecUvSemiplannar, Bool.and_eq_true, beq_iff_eq] at h₁
  tauto

theorem chromaPath_eq_planar {info : MediaImage2} {yuv : YuvBuffer}
    (h : chromaPath info yuv = .planar) :
    info.planeU.mColInc = 1 ∧ info.planeV.mColInc = 1 ∧ yuv.chromaStep = 1 := by
  unfold chromaPath at h
  split_ifs at h with h₁ h₂
  simp only [isCodecUvPlannar, Bool.and_eq_true, beq_iff_eq] at h₂
  tauto

section
variable (info : MediaImage2) (yuv : YuvBuffer) (top left width height : Nat) (mem : Nat → UInt8)

theorem writes_genericCopies :
    (genericCopies info yuv top left width height).flatMap (CopyOp.writes mem) =
      (List.range (chromaRows top height)).flatMap fun r =>
        (List.range ((left + width) / 2 - left / 2)).flatMap fun c =>
          [(sizeT (Int.bmod (planeIndex info.planeU r c) (2 ^ 32)), mem (sizeT
              (yuv.dataCb + Int.bmod (chromaIndex yuv (top / 2 + r) (left / 2 + c)) (2 ^ 32)))),
            (sizeT (Int.bmod (planeIndex info.planeV r c) (2 ^ 32)), mem (sizeT
              (yuv.dataCr + Int.bmod (chromaIndex yuv (top / 2 + r) (left / 2 + c)) (2 ^ 32))))] := by
  simp only [genericCopies, List.flatMap_assoc, List.flatMap_cons, List.flatMap_nil,
    CopyOp.writes, List.singleton_append, List.append_nil]

theorem writes_map_copyRow (n count : Nat) (src dst : Nat → Nat) :
    ((List.range n).map fun r => CopyOp.copyRow (src r) (dst r) count).flatMap
        (CopyOp.writes mem) =
      (List.range n).flatMap fun r =>
        (List.range count).map fun k => ((dst r + k) % 2 ^ 64, mem ((src r + k) % 2 ^ 64)) := by
  rw [List.flatMap_map]
  rfl

end

theorem runCopies_semiplanarRows {info : MediaImage2} {yuv : YuvBuffer}
    {top left width height : Nat} (hpath : chromaPath info yuv = .semiplanar)
    (hsrc : yuv.dataCr = yuv.dataCb + 1 ∨ yuv.dataCb = yuv.dataCr + 1) (hl : 2 ∣ left)
    (hw : 2 ∣ width) (hfit : GenericIndicesFit info yuv top left width height)
    (mem : Nat → UInt8) (buf : Nat → UInt8) :
    runCopies mem (semiplanarRows info yuv top left width height) buf =
      runCopies mem (genericCopies info yuv top left width height) buf := by
  obtain ⟨hdiff, hrow, hcu, hcv, hstep, horder⟩ := chromaPath_eq_semiplanar hpath
  obtain ⟨w, rfl⟩ := hw
  have hcols : (left + 2 * w) / 2 - left / 2 = w := by omega
  unfold runCopies semiplanarRows
  rw [writes_map_copyRow, writes_genericCopies, hcols]
  refine foldl_flatMap_congr _ (fun r hr buf => ?_) buf
  rw [map_range_two_mul]
  have hfit' := fun c (hc : c < w) => hfit r (List.mem_range.1 hr) c (by omega)
  unfold codecUvOffsetDiff at hdiff
  unfold cameraUPlaneFirst at horder
  -- V first: the row copy makes each pair's V byte first, so swap the pairs.
  cases hfirst : codecUPlaneFirst info
  rw [hfirst, if_neg (by decide)] at hdiff
  rw [hfirst] at horder
  have := of_decide_eq_false horder.symm
  have hmin : min yuv.dataCb yuv.dataCr = yuv.dataCr := Nat.min_eq_right (by omega)
  unfold codecUPlaneFirst at hfirst
  have := of_decide_eq_false hfirst
  rw [if_neg (by decide)]
  refine (foldl_pairs_swap _ (fun c _ => ?_) buf).trans ?_
  · unfold sizeT
    omega
  -- U first: the row copy makes the pairs in order.
  swap
  rw [hfirst, if_pos rfl] at hdiff
  rw [hfirst] at horder
  have := of_decide_eq_true horder.symm
  have hmin : min yuv.dataCb yuv.dataCr = yuv.dataCb := Nat.min_eq_left (by omega)
  unfold codecUPlaneFirst at hfirst
  have := of_decide_eq_true hfirst
  rw [if_pos rfl]
  all_goals
    congr 1
    refine List.flatMap_congr fun c hc => ?_
    obtain ⟨hu, hv, hi⟩ := hfit' c (List.mem_range.1 hc)
    simp only [sizeT_add_nat, bmod_of_inInt32 hu, bmod_of_inInt32 hv, bmod_of_inInt32 hi]
    simp only [planeIndex, chromaIndex, hcu, hcv, hstep, hrow, hmin, List.cons.injEq,
      Prod.mk.injEq, and_true]
    refine ⟨⟨congrArg sizeT ?_, congrArg (mem ∘ sizeT) ?_⟩, congrArg sizeT ?_,
      congrArg (mem ∘ sizeT) ?_⟩ <;> omega

theorem foldl_interleave_rows {a b : Nat → Nat → Nat × UInt8} (n w : Nat)
    (h : ∀ r₁ < n, ∀ r₂ < n, ∀ c₁ < w, ∀ c₂ < w, (a r₁ c₁).1 ≠ (b r₂ c₂).1) (buf : Nat → UInt8) :
    ((List.range n).flatMap fun r => (List.range w).flatMap fun c => [a r c, b r c]).foldl
        writeByte buf =
      (((List.range n).flatMap fun r => (List.range w).map (a r)) ++
        (List.range n).flatMap fun r => (List.range w).map (b r)).foldl writeByte buf := by
  have hl := foldl_interleave (a := fun i : Nat × Nat => a i.1 i.2) (b := fun i => b i.1 i.2)
    ((List.range n).flatMap fun r => (List.range w).map (Prod.mk r)) (by
      simp only [List.mem_flatMap, List.mem_map, List.mem_range]
      rintro _ ⟨r₁, h₁, c₁, hc₁, rfl⟩ _ ⟨r₂, h₂, c₂, hc₂, rfl⟩
      exact h r₁ h₁ r₂ h₂ c₁ hc₁ c₂ hc₂) buf
  simpa only [List.flatMap_assoc, List.flatMap_map, List.map_flatMap, List.map_map,
    Function.comp_def] using hl

theorem runCopies_planarRows {info : MediaImage2} {yuv : YuvBuffer} {top left width height : Nat}
    (hpath : chromaPath info yuv = .planar) (hl : 2 ∣ left) (hw : 2 ∣ width)
    (hfit : GenericIndicesFit info yuv top left width height)
    (hdisj : PlanarRowsDisjoint info top width height) (mem : Nat → UInt8) (buf : Nat → UInt8) :
    runCopies mem (planarRows info yuv top left width height) buf =
      runCopies mem (genericCopies info yuv top left width height) buf := by
  obtain ⟨hcu, hcv, hstep⟩ := chromaPath_eq_planar hpath
  obtain ⟨w, rfl⟩ := hw
  have hcols : (left + 2 * w) / 2 - left / 2 = w := by omega
  have hw2 : 2 * w / 2 = w := by omega
  unfold runCopies planarRows
  rw [List.flatMap_append, writes_map_copyRow, writes_map_copyRow, writes_genericCopies, hcols,
    hw2, foldl_interleave_rows]
  · congr 1
    congr 1 <;> refine List.flatMap_congr fun r hr => List.map_congr_left fun c hc => ?_ <;>
      obtain ⟨hu, hv, hi⟩ := hfit r (List.mem_range.1 hr) c (by simpa [hcols] using hc) <;>
      simp only [sizeT_add_nat, bmod_of_inInt32 hu, bmod_of_inInt32 hv, bmod_of_inInt32 hi] <;>
      simp only [planeIndex, chromaIndex, hcu, hcv, hstep, Prod.mk.injEq] <;>
      exact ⟨congrArg sizeT (by omega), congrArg (mem ∘ sizeT) (by omega)⟩
  · intro r₁ h₁ r₂ h₂ c₁ hc₁ c₂ hc₂
    rw [bmod_of_inInt32 (hfit r₁ h₁ c₁ (by omega)).1, bmod_of_inInt32 (hfit r₂ h₂ c₂ (by omega)).2.1]
    exact hdisj r₁ h₁ r₂ h₂ c₁ (by omega) c₂ (by omega)

def i420Image (width height : Nat) : ImageData :=
  ⟨sizeofMediaImage2, ⟨mediaImageTypeYuv, 3, height, 8, 8, ⟨0, 1, width⟩,
    ⟨width * height, 1, width / 2⟩, ⟨width * height + width * height / 4, 1, width / 2⟩⟩⟩

def i420Buffer (base width height : Nat) : YuvBuffer :=
  ⟨base, base + width * height, base + width * height + width * height / 4, width, width / 2, 1⟩

def overlapImage : ImageData :=
  ⟨sizeofMediaImage2, ⟨mediaImageTypeYuv, 3, 2, 8, 8, ⟨100, 1, 4⟩, ⟨0, 1, 0⟩, ⟨1, 1, 0⟩⟩⟩

def overlapBuffer : YuvBuffer := ⟨0, 1000, 2000, 4, 2, 1⟩

end CameraService.Heic
