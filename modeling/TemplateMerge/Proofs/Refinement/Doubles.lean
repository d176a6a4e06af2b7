import Mathlib
import TemplateMerge.Refinement

/-! The order of doubles.

    A double that is a number is a sign and a magnitude.  The bits of the magnitude, read as a whole
    number, grow with it, since the exponent stands before the mantissa:

        sign  exponent  mantissa          place
        0     2047      0                 2047 · 2^52, which is infinity
        0     E         M                 E · 2^52 + M
        0     0         0                 0
        1     0         0                 0
        1     E         M                 -(E · 2^52 + M)
        1     2047      0                 -2047 · 2^52

    So numbers compare as their places do (`compare_place`), and the place is read off the bits
    (`place_unpack`).  The rank of a double is its place on the side of plus, and one less on the
    side of minus: the order by ranks refines the order of numbers, and only tells the two zeros
    apart (`le_iff`). -/

namespace TemplateMerge

namespace Double

open Float.Model (UnpackedFloat)
open Float.Model.UnpackedFloat (Sign unpackSign unpackExponent unpackMantissa)

/-! ### Places of numbers -/

/-- Where a number stands among all others. -/
def place : UnpackedFloat → Int
  | .infinity s => s.apply (2047 * 2 ^ 52)
  | .notANumber => 0
  | .zero _ => 0
  | .finite s m e _ => s.apply ((e + 1074) * 2 ^ 52 + m)

/-- What is packed in the bits of a double that is a number: a mantissa of 53 bits, the first of
    them set unless the exponent is the least. -/
def Packed : UnpackedFloat → Prop
  | .finite _ m e _ => m < 2 ^ 53 ∧ -1074 ≤ e ∧ e ≤ 971 ∧ (-1074 < e → 2 ^ 52 ≤ m)
  | .notANumber => False
  | _ => True

/-- The exponent counts first, then the mantissa. -/
theorem compare_lex {m n : Nat} {e f : Int} (hm : m < 2 ^ 53) (hn : n < 2 ^ 53)
    (he : -1074 ≤ e) (hf : -1074 ≤ f)
    (hem : -1074 < e → 2 ^ 52 ≤ m) (hfn : -1074 < f → 2 ^ 52 ≤ n) :
    (compare e f).then (compare m n) =
      compare ((e + 1074) * 2 ^ 52 + (m : Int)) ((f + 1074) * 2 ^ 52 + n) := by
  rcases Int.lt_trichotomy e f with h | rfl | h
  · have hless : (e + 1074) * 2 ^ 52 + (m : Int) < (f + 1074) * 2 ^ 52 + n := by omega
    rw [Std.compare_eq_lt.2 h, Std.compare_eq_lt.2 hless, Ordering.lt_then]
  · rw [Std.compare_self, Ordering.eq_then]
    rcases Nat.lt_trichotomy m n with h | rfl | h
    · rw [Std.compare_eq_lt.2 h, Std.compare_eq_lt.2 (by omega)]
    · rw [Std.compare_self, Std.compare_self]
    · rw [Std.compare_eq_gt.2 h, Std.compare_eq_gt.2 (by omega)]
  · have hmore : (f + 1074) * 2 ^ 52 + (n : Int) < (e + 1074) * 2 ^ 52 + m := by omega
    rw [Std.compare_eq_gt.2 h, Std.compare_eq_gt.2 hmore, Ordering.gt_then]

theorem compare_neg (a b : Int) : compare (-a) (-b) = compare b a := by
  simp only [compare, compareOfLessAndEq, Int.neg_lt_neg_iff, Int.neg_inj, eq_comm]

section Finite

variable {s s' : Sign} {m n : Nat} {e f : Int} {hm : 0 < m} {hn : 0 < n}

theorem place_positive (h : Packed (.finite .positive m e hm)) :
    0 < place (.finite .positive m e hm) := by
  obtain ⟨-, hleast, -, -⟩ := h
  rw [place, Sign.apply]
  omega

theorem place_negative (h : Packed (.finite .negative m e hm)) :
    place (.finite .negative m e hm) < 0 := by
  obtain ⟨-, hleast, -, -⟩ := h
  rw [place, Sign.apply]
  omega

theorem place_finite (h : Packed (.finite s m e hm)) :
    place (.infinity .negative) < place (.finite s m e hm) ∧
      place (.finite s m e hm) < place (.infinity .positive) := by
  obtain ⟨hshort, hleast, hmost, -⟩ := h
  cases s <;> simp only [place, Sign.apply] <;> omega

theorem compare_finite (h : Packed (.finite s m e hm)) (h' : Packed (.finite s' n f hn)) :
    (UnpackedFloat.finite s m e hm).compare (.finite s' n f hn) =
      some (compare (place (.finite s m e hm)) (place (.finite s' n f hn))) := by
  have hlex := compare_lex h.1 h'.1 h.2.1 h'.2.1 h.2.2.2 h'.2.2.2
  cases s <;> cases s'
  case negative.negative =>
    rw [UnpackedFloat.compare, hlex, ← Std.OrientedCmp.eq_swap, ← compare_neg]
    rfl
  case negative.positive =>
    rw [UnpackedFloat.compare, Std.compare_eq_lt.2 ((place_negative h).trans (place_positive h'))]
  case positive.negative =>
    rw [UnpackedFloat.compare, Std.compare_eq_gt.2 ((place_negative h').trans (place_positive h))]
  case positive.positive => exact congrArg some hlex

end Finite

theorem some_lt {a b : Int} (h : a < b) : some Ordering.lt = some (compare a b) := by
  rw [Std.compare_eq_lt.2 h]

theorem some_gt {a b : Int} (h : b < a) : some Ordering.gt = some (compare a b) := by
  rw [Std.compare_eq_gt.2 h]

/-- Numbers compare as their places do. -/
theorem compare_place : ∀ {u v : UnpackedFloat}, Packed u → Packed v →
    u.compare v = some (compare (place u) (place v))
  | .infinity s, .infinity s', _, _ => by cases s <;> cases s' <;> rfl
  | .infinity s, .zero _, _, _ => by cases s <;> rfl
  | .zero _, .infinity s, _, _ => by cases s <;> rfl
  | .zero _, .zero _, _, _ => rfl
  | .finite .., .finite .., h, h' => compare_finite h h'
  | .infinity s, .finite .., _, h => by
    cases s
    case negative => exact some_lt (place_finite h).1
    case positive => exact some_gt (place_finite h).2
  | .finite .., .infinity s, h, _ => by
    cases s
    case negative => exact some_gt (place_finite h).1
    case positive => exact some_lt (place_finite h).2
  | .zero _, .finite s .., _, h => by
    cases s
    case negative => exact some_gt (place_negative h)
    case positive => exact some_lt (place_positive h)
  | .finite s .., .zero _, h, _ => by
    cases s
    case negative => exact some_lt (place_negative h)
    case positive => exact some_gt (place_positive h)

theorem le_iff_place {u v : UnpackedFloat} (hu : Packed u) (hv : Packed v) :
    u.le v = true ↔ place u ≤ place v := by
  rw [UnpackedFloat.le, compare_place hu hv, Option.any_some, Std.isLE_compare]

/-! ### What is packed in the bits -/

theorem toNat_unpackExponent (b : BitVec 64) :
    (@unpackExponent .binary64 b).toNat = b.toNat / 2 ^ 52 % 2048 := by
  simp [unpackExponent, Nat.shiftRight_eq_div_pow]

theorem toNat_unpackMantissa (b : BitVec 64) :
    (@unpackMantissa .binary64 b).toNat = b.toNat % 2 ^ 52 := by
  simp [unpackMantissa]

theorem unpackExponent_eq_iff (b : BitVec 64) (E : BitVec 11) :
    @unpackExponent .binary64 b = E ↔ b.toNat / 2 ^ 52 % 2048 = E.toNat := by
  rw [← BitVec.toNat_inj, toNat_unpackExponent]

theorem unpackMantissa_eq_zero_iff (b : BitVec 64) :
    @unpackMantissa .binary64 b = 0#52 ↔ b.toNat % 2 ^ 52 = 0 := by
  rw [← BitVec.toNat_inj, toNat_unpackMantissa]
  rfl

theorem toNat_fullMantissa (b : BitVec 64) :
    (1#1 ++ @unpackMantissa .binary64 b).toNat = 2 ^ 52 + b.toNat % 2 ^ 52 := by
  rw [BitVec.toNat_append, toNat_unpackMantissa,
    ← Nat.shiftLeft_add_eq_or_of_lt (Nat.mod_lt _ (by decide))]
  rfl

theorem apply_sign (b : BitVec 64) (n : Int) :
    (Sign.ofBitVec (@unpackSign .binary64 b)).apply n =
      if b.toNat < 2 ^ 63 then n else -n := by
  have hsign : (@unpackSign .binary64 b).toNat = b.toNat / 2 ^ 63 % 2 := by
    simp [unpackSign, Nat.shiftRight_eq_div_pow]
  have hzero : @unpackSign .binary64 b = 0#1 ↔ b.toNat < 2 ^ 63 := by
    rw [← BitVec.toNat_inj, hsign, BitVec.toNat_ofNat]
    have : b.toNat < 2 ^ 64 := b.isLt
    omega
  unfold Sign.ofBitVec
  rw [apply_ite (Sign.apply · n)]
  simp only [hzero]
  rfl

/-- The place of a number is what its bits are without the sign. -/
theorem place_unpack (b : BitVec 64) (hnumber : UnpackedFloat.unpack .binary64 b ≠ .notANumber) :
    place (UnpackedFloat.unpack .binary64 b) =
        (if b.toNat < 2 ^ 63 then (b.toNat : Int) else 2 ^ 63 - b.toNat) ∧
      Packed (UnpackedFloat.unpack .binary64 b) := by
  have hbits : b.toNat < 2 ^ 64 := b.isLt
  have hbias : (Float.Model.Format.binary64.exponentBias : Int) = 1023 := rfl
  have hlast : @unpackExponent .binary64 b = -1#11 ↔ b.toNat / 2 ^ 52 % 2048 = 2047 :=
    unpackExponent_eq_iff b _
  have hfirst : @unpackExponent .binary64 b = 0#11 ↔ b.toNat / 2 ^ 52 % 2048 = 0 :=
    unpackExponent_eq_iff b _
  have hnone := unpackMantissa_eq_zero_iff b
  unfold UnpackedFloat.unpack at hnumber ⊢
  dsimp only at hnumber ⊢
  rw [hbias] at *
  -- The exponent is the last one, the first one or between them; what the outer two mean depends
  -- on the mantissa.
  by_cases hexp : @unpackExponent .binary64 b = -1#11
  · rw [if_pos hexp] at hnumber ⊢
    by_cases hman : @unpackMantissa .binary64 b = 0#52
    · rw [if_pos hman, place, apply_sign]
      rw [hlast] at hexp
      rw [hnone] at hman
      exact ⟨by split <;> omega, trivial⟩
    · exact absurd (if_neg hman) hnumber
  · rw [if_neg hexp]
    rw [hlast] at hexp
    by_cases hexp' : @unpackExponent .binary64 b = 0#11
    · rw [if_pos hexp']
      rw [hfirst] at hexp'
      split
      · next hman =>
        rw [hnone] at hman
        exact ⟨by rw [place]; split <;> omega, trivial⟩
      · next hman =>
        rw [hnone] at hman
        rw [place, apply_sign, Packed, toNat_unpackMantissa, toNat_unpackExponent, hexp']
        exact ⟨by split <;> omega, by omega⟩
    · rw [if_neg hexp']
      rw [hfirst] at hexp'
      rw [place, apply_sign, Packed, toNat_fullMantissa, toNat_unpackExponent]
      exact ⟨by split <;> omega, by omega⟩

/-! ### Ranks and the order of numbers -/

open Match (rank)

/-- The rank without the difference of the two zeros. -/
def magnitude (x : Float) : Int := if rank x < 0 then rank x + 1 else rank x

theorem magnitude_mono {x y : Float} (h : rank x ≤ rank y) : magnitude x ≤ magnitude y := by
  unfold magnitude
  split <;> split <;> omega

theorem place_model {x : Float} (hx : x.toModel.unpack ≠ .notANumber) :
    place x.toModel.unpack = magnitude x ∧ Packed x.toModel.unpack := by
  obtain ⟨hplace, hpacked⟩ := place_unpack x.toModel.toBits.toBitVec hx
  refine ⟨hplace.trans ?_, hpacked⟩
  have hrank : rank x = if x.toModel.toBits.toBitVec.toNat < 2 ^ 63
      then (x.toModel.toBits.toBitVec.toNat : Int)
      else (2 ^ 63 - 1 : Nat) - (x.toModel.toBits.toBitVec.toNat : Int) := rfl
  rw [magnitude, hrank]
  split <;> omega

theorem isNaN_eq_false_iff (x : Float) : x.isNaN = false ↔ x.toModel.unpack ≠ .notANumber := by
  change x.toModel.unpack.isNaN = false ↔ _
  cases x.toModel.unpack <;> simp [UnpackedFloat.isNaN]

/-- Doubles compare as their ranks do, but for the two zeros and what is not a number. -/
theorem le_iff (x y : Float) :
    x ≤ y ↔ x.isNaN = false ∧ y.isNaN = false ∧ magnitude x ≤ magnitude y := by
  have hle : x ≤ y ↔ x.toModel.unpack.le y.toModel.unpack = true := by
    change decide (_ = true) = true ↔ _
    rw [decide_eq_true_iff]
    rfl
  rw [hle, isNaN_eq_false_iff, isNaN_eq_false_iff]
  by_cases hx : x.toModel.unpack = .notANumber
  · simp [hx, UnpackedFloat.le, UnpackedFloat.compare]
  by_cases hy : y.toModel.unpack = .notANumber
  · simp [hy, UnpackedFloat.le, UnpackedFloat.compare]
  obtain ⟨hplace, hpacked⟩ := place_model hx
  obtain ⟨hplace', hpacked'⟩ := place_model hy
  rw [le_iff_place hpacked hpacked', hplace, hplace']
  simp only [ne_eq, hx, hy, not_false_eq_true, true_and]

theorem le_trans {x y z : Float} (hxy : x ≤ y) (hyz : y ≤ z) : x ≤ z := by
  rw [le_iff] at hxy hyz ⊢
  exact ⟨hxy.1, hyz.2.1, Int.le_trans hxy.2.2 hyz.2.2⟩

/-- A bound passes to every number of a better rank. -/
theorem le_of_rank_le {p q x y : Float} (hx : q ≤ x) (hy : p ≤ y) (hrank : rank x ≤ rank y) :
    q ≤ y := by
  rw [le_iff] at hx hy ⊢
  exact ⟨hx.1, hy.2.1, Int.le_trans hx.2.2 (magnitude_mono hrank)⟩

end Double

end TemplateMerge
