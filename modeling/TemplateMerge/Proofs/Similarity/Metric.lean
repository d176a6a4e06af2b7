import Mathlib.Data.Rat.Cast.Order
import Mathlib.Algebra.Order.Field.Basic
import Mathlib.Tactic.NormNum
import TemplateMerge.Proofs.Similarity.EditDistance

/-! The edit distance as a measure of texts.

    That the distance is a metric is not to be seen in the rows, but it is in the scripts: a script
    read backwards turns the second text into the first, and two scripts one after the other turn
    the first into the third.

    An edit changes the length by at most one, and exchanging what stands at the same place and
    giving or taking the rest is a script, so

        max - min   ≤   distance   ≤   max        of the two lengths

    The similarities divide by the greater length.  In exact arithmetic the upper bound keeps the
    similarity of contents from falling below zero, and the lower bound keeps it below that of
    lengths:

        1 - distance / max   ≤   1 - (max - min) / max   =   min / max -/

namespace TemplateMerge

namespace Similarity

variable {n : Nat} {a b c : Text}

/-! ### A metric -/

theorem levenshtein_eq_zero_iff : levenshtein a b = 0 ↔ a = b := by
  constructor
  · intro h
    have hturns := turns_levenshtein a b
    rw [h] at hturns
    cases hturns
    rfl
  · rintro rfl
    exact Nat.le_zero.1 (levenshtein_le_of_turns (.none a))

theorem levenshtein_comm (a b : Text) : levenshtein a b = levenshtein b a :=
  Nat.le_antisymm (levenshtein_le_of_turns (turns_levenshtein b a).symm)
    (levenshtein_le_of_turns (turns_levenshtein a b).symm)

theorem levenshtein_triangle (a b c : Text) :
    levenshtein a c ≤ levenshtein a b + levenshtein b c :=
  levenshtein_le_of_turns ((turns_levenshtein a b).trans (turns_levenshtein b c))

/-! ### Lengths -/

theorem Edited.length_le (h : Edited a b) : a.length ≤ b.length + 1 := by
  cases h <;> simp <;> omega

theorem Turns.length_le (h : Turns n a b) : a.length ≤ b.length + n := by
  induction h with
  | none a => exact Nat.le_refl _
  | more first rest ih =>
    have hfirst := first.length_le
    omega

theorem sub_le_levenshtein (a b : Text) :
    max a.length b.length - min a.length b.length ≤ levenshtein a b := by
  have hturns := turns_levenshtein a b
  have hthere := hturns.length_le
  have hback := hturns.symm.length_le
  omega

theorem dist_le_max (a b : Text) : dist a b ≤ max a.length b.length := by
  induction a, b using dist.induct with
  | case1 b => rw [dist_nil_left]; exact Nat.le_max_right _ _
  | case2 a ha => rw [dist_nil_right]; exact Nat.le_max_left _ _
  | case3 c a d b hpaired hgone hcome =>
    have hcost : (if c = d then 0 else 1) ≤ 1 := by split <;> decide
    rw [dist_cons_cons, List.length_cons, List.length_cons]
    omega

theorem levenshtein_le_max (a b : Text) : levenshtein a b ≤ max a.length b.length := by
  have h := dist_le_max a.reverse b.reverse
  rwa [List.length_reverse, List.length_reverse, ← levenshtein_eq_dist] at h

/-- Of texts of one letter, the longer has the more to take out. -/
theorem dist_replicate_self (c : Char) (m n : Nat) :
    dist (List.replicate m c) (List.replicate n c) ≤ max m n - min m n := by
  induction m generalizing n with
  | zero => simp
  | succ m ih =>
    cases n with
    | zero => simp
    | succ n =>
      have hrest := ih n
      rw [List.replicate_succ, List.replicate_succ, dist_cons_cons, if_pos rfl]
      omega

/-- Texts of two letters have nothing in common. -/
theorem max_le_dist_replicate {c d : Char} (h : c ≠ d) (m n : Nat) :
    max m n ≤ dist (List.replicate m c) (List.replicate n d) := by
  induction m generalizing n with
  | zero => simp
  | succ m ihm =>
    induction n with
    | zero => simp
    | succ n ihn =>
      have hpaired := ihm n
      have hgone := ihm (n + 1)
      rw [List.replicate_succ, List.replicate_succ, dist_cons_cons, if_neg h,
        ← List.replicate_succ, ← List.replicate_succ]
      omega

/-- What the edit distance promises. -/
structure IsTextMetric (d : Text → Text → Nat) : Prop where
  /-- Texts without distance are the same text. -/
  eq_zero_iff : ∀ a b, d a b = 0 ↔ a = b
  /-- The distance is the same both ways. -/
  symm : ∀ a b, d a b = d b a
  /-- A way round is no shorter. -/
  triangle : ∀ a b c, d a c ≤ d a b + d b c
  /-- It is at least the difference of the lengths, and at most the greater of them. -/
  bounds : ∀ a b, max a.length b.length - min a.length b.length ≤ d a b ∧
    d a b ≤ max a.length b.length
  /-- Texts of any two lengths can be as close as that, and as far apart. -/
  tight : ∀ m n, ∃ a b b', a.length = m ∧ b.length = n ∧ b'.length = n ∧
    d a b = max m n - min m n ∧ d a b' = max m n

theorem isTextMetric_levenshtein : IsTextMetric levenshtein where
  eq_zero_iff _ _ := levenshtein_eq_zero_iff
  symm := levenshtein_comm
  triangle := levenshtein_triangle
  bounds a b := ⟨sub_le_levenshtein a b, levenshtein_le_max a b⟩
  tight m n := by
    refine ⟨.replicate m 'x', .replicate n 'x', .replicate n 'y', by simp, by simp, by simp, ?_, ?_⟩
    · have hleast := sub_le_levenshtein (.replicate m 'x') (.replicate n 'x')
      have hmost := dist_replicate_self 'x' m n
      rw [List.length_replicate, List.length_replicate] at hleast
      rw [levenshtein_eq_dist, List.reverse_replicate, List.reverse_replicate] at hleast ⊢
      exact Nat.le_antisymm hmost hleast
    · have hmost := levenshtein_le_max (.replicate m 'x') (.replicate n 'y')
      have hleast := max_le_dist_replicate (c := 'x') (d := 'y') (by decide) m n
      rw [List.length_replicate, List.length_replicate] at hmost
      rw [levenshtein_eq_dist, List.reverse_replicate, List.reverse_replicate] at hmost ⊢
      exact Nat.le_antisymm hmost hleast

/-! ### Similarities in some arithmetic -/

/-- What similarities are computed with. -/
structure Arithmetic (R : Type) where
  zero : R
  one : R
  ofNat : Nat → R
  sub : R → R → R
  div : R → R → R

namespace Arithmetic

/-- Doubles, as the similarities have it. -/
def doubles : Arithmetic Float := ⟨0.0, 1.0, Float.ofNat, (· - ·), (· / ·)⟩

/-- Fractions, without rounding. -/
def exact : Arithmetic ℚ := ⟨0, 1, (↑·), (· - ·), (· / ·)⟩

end Arithmetic

/-- The similarity of contents, computed in some arithmetic. -/
def contentIn {R : Type} (A : Arithmetic R) (a b : Text) : R :=
  if a.length = 0 ∧ b.length = 0 then A.one
  else if a.length = 0 ∨ b.length = 0 then A.zero
  else A.sub A.one (A.div (A.ofNat (levenshtein a b)) (A.ofNat (max a.length b.length)))

/-- The similarity of lengths, computed in some arithmetic. -/
def lengthIn {R : Type} (A : Arithmetic R) (a b : Text) : R :=
  if a.length = 0 ∧ b.length = 0 then A.one
  else if a.length = 0 ∨ b.length = 0 then A.zero
  else A.div (A.ofNat (min a.length b.length)) (A.ofNat (max a.length b.length))

theorem content_eq (a b : Text) : content a b = contentIn .doubles a b := rfl

theorem length_eq (a b : Text) : length a b = lengthIn .doubles a b := rfl

/-- Two empty texts are no case of their own, since zero over zero is zero; nor is one
    empty text, since all of the other is to be edited. -/
theorem contentIn_exact (a b : Text) : contentIn .exact a b =
    1 - (levenshtein a b : ℚ) / (max a.length b.length : Nat) := by
  have hleast := sub_le_levenshtein a b
  have hmost := levenshtein_le_max a b
  unfold contentIn
  split
  · next hempty =>
    have hmax : max a.length b.length = 0 := by omega
    rw [hmax, Nat.cast_zero, div_zero, sub_zero]
    rfl
  · split
    · next hnot hempty =>
      have hmax : levenshtein a b = max a.length b.length := by omega
      have hne : ((max a.length b.length : Nat) : ℚ) ≠ 0 := Nat.cast_ne_zero.2 (by omega)
      rw [hmax, div_self hne, sub_self]
      rfl
    · rfl

theorem lengthIn_exact (h : 0 < max a.length b.length) : lengthIn .exact a b =
    (min a.length b.length : Nat) / (max a.length b.length : Nat) := by
  unfold lengthIn
  split
  · omega
  · split
    · next hempty =>
      have hmin : min a.length b.length = 0 := by omega
      rw [hmin, Nat.cast_zero, zero_div]
      rfl
    · rfl

theorem lengthIn_exact_of_empty (h : max a.length b.length = 0) : lengthIn .exact a b = 1 :=
  if_pos (by omega)

theorem contentIn_exact_nonneg (a b : Text) : 0 ≤ contentIn .exact a b := by
  rw [contentIn_exact, sub_nonneg]
  exact div_le_one_of_le₀ (Nat.cast_le.2 (levenshtein_le_max a b)) (Nat.cast_nonneg _)

theorem contentIn_exact_le_one (a b : Text) : contentIn .exact a b ≤ 1 := by
  rw [contentIn_exact]
  exact sub_le_self 1 (div_nonneg (Nat.cast_nonneg _) (Nat.cast_nonneg _))

theorem contentIn_exact_eq_one_iff : contentIn .exact a b = 1 ↔ a = b := by
  rw [contentIn_exact, sub_eq_self, div_eq_zero_iff, Nat.cast_eq_zero, Nat.cast_eq_zero,
    ← levenshtein_eq_zero_iff]
  have hmost := levenshtein_le_max a b
  omega

theorem contentIn_exact_le_lengthIn (a b : Text) :
    contentIn .exact a b ≤ lengthIn .exact a b := by
  rcases Nat.eq_zero_or_pos (max a.length b.length) with h | h
  · rw [lengthIn_exact_of_empty h]
    exact contentIn_exact_le_one a b
  · have hpos : (0 : ℚ) < (max a.length b.length : Nat) := Nat.cast_pos.2 h
    have hsum : max a.length b.length ≤ min a.length b.length + levenshtein a b := by
      have hleast := sub_le_levenshtein a b
      omega
    rw [contentIn_exact, lengthIn_exact h, sub_le_iff_le_add, ← add_div, one_le_div hpos]
    exact_mod_cast hsum

/-- What the similarities of contents and lengths promise, the numbers being exact. -/
structure AreSimilarities (content length : Text → Text → ℚ) : Prop where
  /-- Two empty texts are alike. -/
  empty : content [] [] = 1 ∧ length [] [] = 1
  /-- Of others, contents are alike as far as they need not be edited, -/
  content_eq : ∀ a b, 0 < max a.length b.length →
    content a b = 1 - (levenshtein a b : ℚ) / (max a.length b.length : Nat)
  /-- and lengths by their ratio. -/
  length_eq : ∀ a b, 0 < max a.length b.length →
    length a b = (min a.length b.length : Nat) / (max a.length b.length : Nat)
  /-- The similarity of contents lies between zero and one, -/
  between : ∀ a b, 0 ≤ content a b ∧ content a b ≤ 1
  /-- it is one just for equal texts, -/
  eq_one_iff : ∀ a b, content a b = 1 ↔ a = b
  /-- and it never exceeds that of lengths. -/
  content_le_length : ∀ a b, content a b ≤ length a b

theorem areSimilarities_exact : AreSimilarities (contentIn .exact) (lengthIn .exact) where
  empty := ⟨rfl, rfl⟩
  content_eq a b _ := contentIn_exact a b
  length_eq _ _ := lengthIn_exact
  between a b := ⟨contentIn_exact_nonneg a b, contentIn_exact_le_one a b⟩
  eq_one_iff _ _ := contentIn_exact_eq_one_iff
  content_le_length := contentIn_exact_le_lengthIn

/-- The edit distance is a metric, bounded by the lengths; and the similarities, which are computed
    in doubles, keep to what they promise when the numbers are exact. -/
theorem distance_is_metric :
    IsTextMetric levenshtein ∧
      (∀ a b, content a b = contentIn .doubles a b ∧ length a b = lengthIn .doubles a b) ∧
      AreSimilarities (contentIn .exact) (lengthIn .exact) :=
  ⟨isTextMetric_levenshtein, fun a b => ⟨content_eq a b, length_eq a b⟩, areSimilarities_exact⟩

/-- Three edits of seven characters, and lengths that differ by one. -/
theorem distance_is_metric_kitten :
    contentIn .exact "kitten".toList "sitting".toList = 4 / 7 ∧
      lengthIn .exact "kitten".toList "sitting".toList = 6 / 7 := by
  have hdistance : levenshtein "kitten".toList "sitting".toList = 3 := by decide
  have hmin : min "kitten".toList.length "sitting".toList.length = 6 := by decide
  have hmax : max "kitten".toList.length "sitting".toList.length = 7 := by decide
  have hlong : 0 < max "kitten".toList.length "sitting".toList.length := by decide
  obtain ⟨-, -, h⟩ := distance_is_metric
  refine ⟨?_, ?_⟩
  · rw [h.content_eq _ _ hlong, hdistance, hmax]
    norm_num
  · rw [h.length_eq _ _ hlong, hmin, hmax]
    norm_num

end Similarity

end TemplateMerge
