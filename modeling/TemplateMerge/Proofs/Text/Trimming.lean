import TemplateMerge.Proofs.Text.Endings

/-! What trimming leaves.

    A text is white space, then something with white space at neither end, then white space again;
    what is between is what trimming leaves, and no other way to cut the text gives another.

        "  a b  "   =   "  " ++ "a b" ++ "  "        trim   =   "a b"

    A text that begins with something bare keeps it: only what follows is trimmed, at its end. -/

namespace TemplateMerge

namespace Text

/-- White space at neither end. -/
structure Bare (t : Text) : Prop where
  head : ∀ c ∈ t.head?, isBlankChar c = false
  last : ∀ c ∈ t.getLast?, isBlankChar c = false

instance (t : Text) : Decidable t.Bare :=
  decidable_of_iff ((t.head?.all (!isBlankChar ·) && t.getLast?.all (!isBlankChar ·)) = true) <| by
    rw [Bool.and_eq_true, Option.all_eq_true, Option.all_eq_true]
    simp only [Bool.not_eq_true']
    exact ⟨fun h => ⟨h.1, h.2⟩, fun h => ⟨h.head, h.last⟩⟩

instance (w : Text) : Decidable w.AllBlank :=
  decidable_of_iff (w.all isBlankChar = true) List.all_eq_true

theorem allBlank_nil : AllBlank [] := nofun

theorem AllBlank.append {v w : Text} (hv : AllBlank v) (hw : AllBlank w) : AllBlank (v ++ w) :=
  List.forall_mem_append.2 ⟨hv, hw⟩

theorem bare_nil : Bare [] := ⟨nofun, nofun⟩

theorem Bare.append_append {a b : Text} (ha : a.Bare) (hb : b.Bare) (hane : a ≠ [])
    (hbne : b ≠ []) (m : Text) : (a ++ m ++ b).Bare := by
  refine ⟨fun c hc => ?_, fun c hc => ?_⟩
  · rw [List.append_assoc, List.head?_append_of_ne_nil _ hane] at hc
    exact ha.head c hc
  · rw [List.getLast?_append_of_ne_nil _ hbne] at hc
    exact hb.last c hc

/-- The end of a bare text is white space only if there is nothing of it. -/
theorem Bare.eq_nil_of_append {t w : Text} (h : (t ++ w).Bare) (hw : AllBlank w) : w = [] := by
  by_contra hne
  have hlast := h.last (w.getLast hne)
    (by rw [List.getLast?_append_of_ne_nil _ hne, List.getLast?_eq_getLast_of_ne_nil hne]; rfl)
  rw [hw _ (List.getLast_mem hne)] at hlast
  cases hlast

/-! ### Trimming one end -/

theorem exists_eq_append_trimStart (t : Text) : ∃ w, AllBlank w ∧ t = w ++ trimStart t :=
  ⟨t.takeWhile isBlankChar, fun _ hc => List.mem_takeWhile_imp hc,
    (List.takeWhile_append_dropWhile).symm⟩

theorem exists_eq_trimEnd_append (t : Text) : ∃ w, AllBlank w ∧ t = trimEnd t ++ w := by
  obtain ⟨w, ht, hw⟩ := exists_eq_dropEndWhile_append isBlankChar t
  exact ⟨w, hw, ht⟩

theorem head?_trimStart {t : Text} : ∀ c ∈ (trimStart t).head?, isBlankChar c = false := by
  intro c hc
  have h := List.head?_dropWhile_not isBlankChar t
  rw [trimStart, Option.mem_def] at hc
  rw [hc] at h
  exact h

theorem getLast?_trimEnd {t : Text} : ∀ c ∈ (trimEnd t).getLast?, isBlankChar c = false := by
  intro c hc
  rw [trimEnd, dropEndWhile, List.getLast?_reverse] at hc
  exact head?_trimStart c hc

theorem trimStart_append {w t : Text} (hw : AllBlank w)
    (ht : ∀ c ∈ t.head?, isBlankChar c = false) : trimStart (w ++ t) = t := by
  rw [trimStart, List.dropWhile_append_of_pos hw]
  cases t with
  | nil => rfl
  | cons c t => rw [List.dropWhile_cons_of_neg (by rw [ht c rfl]; exact Bool.false_ne_true)]

/-- Trimming the end stops at the last character that is not white space. -/
theorem trimEnd_append_of_last {a : Text} (ha : ∀ c ∈ a.getLast?, isBlankChar c = false)
    (m : Text) : trimEnd (a ++ m) = a ++ trimEnd m := by
  have hlast : ∀ c ∈ a.reverse.head?, isBlankChar c = false := by
    rw [List.head?_reverse]
    exact ha
  have hkeep : a.reverse.dropWhile isBlankChar = a.reverse :=
    trimStart_append (w := []) (t := a.reverse) allBlank_nil hlast
  rw [trimEnd, trimEnd, dropEndWhile, dropEndWhile, List.reverse_append, List.dropWhile_append]
  split
  · next hnil => rw [hkeep, List.reverse_reverse, List.isEmpty_iff.1 hnil]; simp
  · rw [List.reverse_append, List.reverse_reverse]

theorem trimEnd_of_last {a : Text} (ha : ∀ c ∈ a.getLast?, isBlankChar c = false) :
    trimEnd a = a := by
  have h := trimEnd_append_of_last ha []
  rwa [List.append_nil, trimEnd_nil, List.append_nil] at h

/-! ### Trimming both ends -/

theorem bare_trim (t : Text) : (trim t).Bare := by
  refine ⟨fun c hc => ?_, getLast?_trimEnd⟩
  obtain ⟨w, -, ht⟩ := exists_eq_trimEnd_append (trimStart t)
  refine head?_trimStart (t := t) c ?_
  rw [ht, List.head?_append, show (trimEnd (trimStart t)).head? = some c from hc]
  rfl

/-- What trimming leaves is what is bare between white space. -/
theorem trim_eq_iff {t b : Text} : trim t = b ↔
    b.Bare ∧ ∃ w w', AllBlank w ∧ AllBlank w' ∧ t = w ++ b ++ w' := by
  constructor
  · rintro rfl
    obtain ⟨w, hw, ht⟩ := exists_eq_append_trimStart t
    obtain ⟨w', hw', ht'⟩ := exists_eq_trimEnd_append (trimStart t)
    refine ⟨bare_trim t, w, w', hw, hw', ?_⟩
    rw [List.append_assoc, trim, ← ht', ← ht]
  · rintro ⟨hb, w, w', hw, hw', rfl⟩
    rw [trim_append hw', trim, trimStart_append hw hb.head, trimEnd_of_last hb.last]

theorem trim_eq_nil_iff {t : Text} : trim t = [] ↔ isBlank t = true := by
  rw [isBlank, List.all_eq_true, trim_eq_iff]
  constructor
  · rintro ⟨-, w, w', hw, hw', rfl⟩
    rw [List.append_nil]
    exact hw.append hw'
  · intro h
    exact ⟨bare_nil, t, [], h, allBlank_nil, by simp⟩

theorem trim_trimEnd (t : Text) : trim (trimEnd t) = trim t := by
  obtain ⟨w, hw, ht⟩ := exists_eq_trimEnd_append t
  conv_rhs => rw [ht, trim_append hw]

/-- A text that begins, after white space, with something bare keeps it. -/
theorem trim_append_of_bare {w a : Text} (hw : AllBlank w) (ha : a.Bare) (hne : a ≠ [])
    (m : Text) : trim (w ++ a ++ m) = a ++ trimEnd m := by
  have hhead : ∀ c ∈ (a ++ m).head?, isBlankChar c = false := by
    rw [List.head?_append_of_ne_nil _ hne]
    exact ha.head
  rw [List.append_assoc, trim, trimStart_append hw hhead, trimEnd_append_of_last ha.last]

end Text

end TemplateMerge
