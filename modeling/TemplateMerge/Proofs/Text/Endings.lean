import Mathlib.Data.List.TakeWhile
import TemplateMerge.Proofs.Text.Assembly

/-! Line endings count as white space.

    What a format reads of a line does not depend on how the line ends: trimming a line gives the
    same with its ending, without it, and with a line feed put on. -/

namespace TemplateMerge

namespace Text

/-- White space throughout. -/
def AllBlank (w : Text) : Prop := ∀ c ∈ w, isBlankChar c = true

theorem allBlank_newline : AllBlank ['\n'] := by
  intro c hc
  rw [List.mem_singleton.1 hc]; rfl

/-! ### Taking characters off the end -/

theorem dropEndWhile_append {p : Char → Bool} {t w : Text} (h : ∀ c ∈ w, p c = true) :
    dropEndWhile p (t ++ w) = dropEndWhile p t := by
  have hw : w.reverse.dropWhile p = [] := by
    rw [List.dropWhile_eq_nil_iff]
    intro c hc
    exact h c (List.mem_reverse.1 hc)
  rw [dropEndWhile, List.reverse_append, List.dropWhile_append, hw]
  rfl

/-- What is taken off the end all satisfies the predicate. -/
theorem exists_eq_dropEndWhile_append (p : Char → Bool) (t : Text) :
    ∃ w, t = dropEndWhile p t ++ w ∧ ∀ c ∈ w, p c = true := by
  refine ⟨(t.reverse.takeWhile p).reverse, ?_, ?_⟩
  · rw [dropEndWhile, ← List.reverse_append, List.takeWhile_append_dropWhile, List.reverse_reverse]
  · intro c hc
    exact List.mem_takeWhile_imp (List.mem_reverse.1 hc)

theorem exists_eq_chomp_append (t : Text) : ∃ w, t = chomp t ++ w ∧ AllBlank w := by
  obtain ⟨w, ht, hw⟩ := exists_eq_dropEndWhile_append (fun c => c == '\n' || c == '\r') t
  refine ⟨w, ht, fun c hc => ?_⟩
  have hend := hw c hc
  rw [Bool.or_eq_true, beq_iff_eq, beq_iff_eq] at hend
  rcases hend with rfl | rfl <;> rfl

theorem exists_eq_dropTerminator_append (t : Text) :
    ∃ w, t = dropTerminator t ++ w ∧ AllBlank w := by
  unfold dropTerminator
  split
  · exact ⟨[], by simp, by simp [AllBlank]⟩
  · next line hline =>
    rw [stripEnd?_eq_some_iff] at hline
    subst hline
    cases hcr : stripEnd? ['\r'] line with
    | none => exact ⟨['\n'], rfl, allBlank_newline⟩
    | some body =>
      rw [stripEnd?_eq_some_iff] at hcr
      subst hcr
      refine ⟨['\r', '\n'], by simp, fun c hc => ?_⟩
      rcases List.mem_cons.1 hc with rfl | hc
      · rfl
      · exact allBlank_newline c hc

/-! ### White space at the end does not count -/

theorem trimEnd_append {t w : Text} (h : AllBlank w) : trimEnd (t ++ w) = trimEnd t :=
  dropEndWhile_append h

theorem trim_append {t w : Text} (h : AllBlank w) : trim (t ++ w) = trim t := by
  have hw : w.dropWhile isBlankChar = [] := by
    rw [List.dropWhile_eq_nil_iff]; exact h
  unfold trim trimStart
  rw [List.dropWhile_append, hw]
  split
  · next hnil => rw [List.isEmpty_iff.1 hnil]
  · exact trimEnd_append h

theorem exists_close_eq (t : Text) : ∃ w, t.close = t ++ w ∧ AllBlank w := by
  cases ho : t.isOpen with
  | true => exact ⟨['\n'], close_of_open ho, allBlank_newline⟩
  | false => exact ⟨[], by rw [close_of_closed ho, List.append_nil], by simp [AllBlank]⟩

theorem trim_close (t : Text) : trim t.close = trim t := by
  obtain ⟨w, hw, hblank⟩ := exists_close_eq t
  rw [hw, trim_append hblank]

theorem trim_chomp (t : Text) : trim (chomp t) = trim t := by
  obtain ⟨w, hw, hblank⟩ := exists_eq_chomp_append t
  conv_rhs => rw [hw, trim_append hblank]

theorem trim_dropTerminator (t : Text) : trim (dropTerminator t) = trim t := by
  obtain ⟨w, hw, hblank⟩ := exists_eq_dropTerminator_append t
  conv_rhs => rw [hw, trim_append hblank]

theorem trimEnd_dropTerminator (t : Text) : trimEnd (dropTerminator t) = trimEnd t := by
  obtain ⟨w, hw, hblank⟩ := exists_eq_dropTerminator_append t
  conv_rhs => rw [hw, trimEnd_append hblank]

theorem trimEnd_close (t : Text) : trimEnd t.close = trimEnd t := by
  obtain ⟨w, hw, hblank⟩ := exists_close_eq t
  rw [hw, trimEnd_append hblank]

theorem chomp_close (t : Text) : chomp t.close = chomp t := by
  cases ho : t.isOpen with
  | false => rw [close_of_closed ho]
  | true =>
    rw [close_of_open ho]
    exact dropEndWhile_append fun c hc => by rw [List.mem_singleton.1 hc]; rfl

end Text

end TemplateMerge
