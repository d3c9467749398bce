import Mathlib.Data.List.Basic

/-! The NV12-to-NV21 copy of `Camera3H264Decoder::processOutput` as its single-byte moves, and
the bytes of the frame and of the output buffer they touch. -/

namespace CameraService.Decoder

structure OutputFormat where
  width : Nat
  height : Nat
  stride : Option Nat
  sliceHeight : Option Nat
  deriving DecidableEq, Repr

namespace OutputFormat
variable (f : OutputFormat)

def strideOrWidth : Nat := f.stride.getD f.width

def sliceHeightOrHeight : Nat := f.sliceHeight.getD f.height

def frameSize : Nat := f.width * f.height * 3 / 2

def uvStart (offset : Nat) : Nat := offset + f.strideOrWidth * f.sliceHeightOrHeight

def sourceEnd (offset : Nat) : Nat := f.uvStart offset + f.height / 2 * f.strideOrWidth

def yRow (offset i : Nat) : List (Nat × Nat) :=
  (List.range f.width).map fun j => (i * f.width + j, offset + i * f.strideOrWidth + j)

def uvRow (offset i : Nat) : List (Nat × Nat) :=
  (List.range ((f.width + 1) / 2)).flatMap fun k =>
    [(f.width * f.height + i * f.width + 2 * k, f.uvStart offset + i * f.strideOrWidth + 2 * k + 1),
     (f.width * f.height + i * f.width + 2 * k + 1, f.uvStart offset + i * f.strideOrWidth + 2 * k)]

def copies (offset : Nat) : List (Nat × Nat) :=
  (List.range f.height).flatMap (f.yRow offset) ++
    (List.range (f.height / 2)).flatMap (f.uvRow offset)

def frameData (offset : Nat) (outBuf : Nat → UInt8) : Nat → UInt8 :=
  (f.copies offset).foldl (fun data c => Function.update data c.1 (outBuf c.2)) fun _ => 0

theorem mem_copies {offset : Nat} {c : Nat × Nat} :
    c ∈ f.copies offset ↔
      (∃ i < f.height, ∃ j < f.width, c = (i * f.width + j, offset + i * f.strideOrWidth + j)) ∨
      (∃ i < f.height / 2, ∃ k < (f.width + 1) / 2,
        c = (f.width * f.height + i * f.width + 2 * k,
          f.uvStart offset + i * f.strideOrWidth + 2 * k + 1) ∨
        c = (f.width * f.height + i * f.width + 2 * k + 1,
          f.uvStart offset + i * f.strideOrWidth + 2 * k)) := by
  simp only [copies, yRow, uvRow, List.mem_append, List.mem_flatMap, List.mem_range, List.mem_map,
    List.mem_cons, List.mem_singleton, List.not_mem_nil, or_false, exists_prop, @eq_comm _ _ c]

end OutputFormat

theorem mul_add_le_of_lt {i n : Nat} (m : Nat) (h : i < n) : i * m + m ≤ n * m := by
  simpa [Nat.succ_mul] using Nat.mul_le_mul_right m h

theorem pred_mul_add {n : Nat} (m : Nat) (hn : 1 ≤ n) : (n - 1) * m + m = n * m := by
  rw [← Nat.succ_mul, Nat.succ_eq_add_one, Nat.sub_add_cancel hn]

theorem half_mul_add (h w : Nat) : 2 * (h / 2 * w) + h % 2 * w = h * w := by
  rw [← Nat.mul_assoc, ← Nat.add_mul, Nat.div_add_mod]

theorem copies_bounds (f : OutputFormat) (offset : Nat) (hw : 1 ≤ f.width)
    (hs : f.width ≤ f.strideOrWidth) (hsh : f.height ≤ f.sliceHeightOrHeight) :
    (∀ c ∈ f.copies offset, c.1 ≤ f.frameSize ∧ c.2 ≤ f.sourceEnd offset) ∧
      ((∃ s, (f.frameSize, s) ∈ f.copies offset) ↔
        f.width % 2 = 1 ∧ 2 ≤ f.height ∧ (f.height % 2 = 0 ∨ f.width = 1)) ∧
      ((∃ d, (d, f.sourceEnd offset) ∈ f.copies offset) ↔
        f.width % 2 = 1 ∧ 2 ≤ f.height ∧ f.strideOrWidth = f.width) := by
  simp only [OutputFormat.mem_copies, OutputFormat.frameSize, OutputFormat.sourceEnd,
    OutputFormat.uvStart]
  generalize f.width = w at *
  generalize f.height = h at *
  generalize f.strideOrWidth = st at *
  generalize f.sliceHeightOrHeight = sh at *
  have hF : 2 * (h / 2 * w) + h % 2 * w = w * h := Nat.mul_comm h w ▸ half_mul_add h w
  have hY : h * st ≤ st * sh := Nat.mul_comm sh st ▸ Nat.mul_le_mul_right st hsh
  have hmod := Nat.mod_two_eq_zero_or_one h
  have hodd : h % 2 = 1 → h % 2 * w = w := fun e => by rw [e, Nat.one_mul]
  have heven : h % 2 = 0 → h % 2 * w = 0 := fun e => by rw [e, Nat.zero_mul]
  refine ⟨fun c hc => ?_, ⟨?_, ?_⟩, ⟨?_, ?_⟩⟩
  · rcases hc with ⟨i, hi, j, hj, rfl⟩ | ⟨i, hi, k, hk, rfl | rfl⟩
    · have := mul_add_le_of_lt w hi
      have := mul_add_le_of_lt st hi
      have : h * w = w * h := Nat.mul_comm h w
      constructor <;> simp only <;> omega
    all_goals
      have := mul_add_le_of_lt w hi
      have := mul_add_le_of_lt st hi
      constructor <;> simp only <;> omega
  · rintro ⟨s, ⟨i, hi, j, hj, he⟩ | ⟨i, hi, k, hk, he | he⟩⟩ <;>
      simp only [Prod.mk.injEq] at he <;> have := mul_add_le_of_lt w hi
    · have : h * w = w * h := Nat.mul_comm h w
      omega
    all_goals omega
  · rintro ⟨hw1, h2, hh⟩
    refine ⟨_, .inr ⟨h / 2 - 1, by omega, (w - 1) / 2, by omega, .inr (Prod.ext ?_ rfl)⟩⟩
    have := pred_mul_add w (show 1 ≤ h / 2 by omega)
    simp only
    omega
  · rintro ⟨d, ⟨i, hi, j, hj, he⟩ | ⟨i, hi, k, hk, he | he⟩⟩ <;>
      simp only [Prod.mk.injEq] at he <;> have := mul_add_le_of_lt st hi
    all_goals omega
  · rintro ⟨hw1, h2, rfl⟩
    refine ⟨_, .inr ⟨h / 2 - 1, by omega, (st - 1) / 2, by omega, .inl (Prod.ext rfl ?_)⟩⟩
    have := pred_mul_add st (show 1 ≤ h / 2 by omega)
    simp only
    omega

theorem copies_past_frame_3x2 :
    (1 ≤ 3 ∧ (⟨3, 2, none, none⟩ : OutputFormat).frameSize = 9) ∧
      (∃ s, (9, s) ∈ (⟨3, 2, none, none⟩ : OutputFormat).copies 0) ∧
      ∃ d, (d, 9) ∈ (⟨3, 2, none, none⟩ : OutputFormat).copies 0 :=
  ⟨⟨by decide, rfl⟩,
    ((copies_bounds ⟨3, 2, none, none⟩ 0 (by decide) (by decide) (by decide)).2.1).2
      ⟨by decide, by decide, by decide⟩,
    ((copies_bounds ⟨3, 2, none, none⟩ 0 (by decide) (by decide) (by decide)).2.2).2
      ⟨by decide, by decide, by decide⟩⟩

end CameraService.Decoder
