import Mathlib.Order.MinMax
import TemplateMerge.Similarity

/-! The edit distance is the length of a shortest script.

    A script is a list of edits, each of one character.

        k i t t e n    substitute 0 s
        s i t t e n    substitute 4 i
        s i t t i n    insert 6 g
        s i t t i n g

    A script may go back and forth and edit one place twice, and the rows of the table know nothing
    of scripts.  Between the two stands `dist`, the distance by recursion from the front.

    - The rows hold its values for the beginnings of the two texts, read backwards
      (`levenshtein_eq_dist`).
    - One edit of a text moves it by at most one (`dist_le_of_edited`), so no script has fewer edits
      than it says.
    - Each of the three ways it chooses from is a script (`turns_dist`), so some script has no
      more. -/

namespace TemplateMerge

/-- One edit of a text: a character comes in before a place, the one there goes, or another takes
    its place. -/
inductive CharEdit where
  | insert (place : Nat) (c : Char)
  | delete (place : Nat)
  | substitute (place : Nat) (c : Char)
  deriving DecidableEq, Repr

namespace CharEdit

/-- The text after an edit, if it has the place. -/
def perform? : CharEdit → Text → Option Text
  | .insert place c, t =>
    if place ≤ t.length then some (t.take place ++ c :: t.drop place) else none
  | .delete place, t =>
    if place < t.length then some (t.take place ++ t.drop (place + 1)) else none
  | .substitute place c, t =>
    if place < t.length then some (t.take place ++ c :: t.drop (place + 1)) else none

/-- The text after the edits of a script, one after the other. -/
def performAll? : List CharEdit → Text → Option Text
  | [], t => some t
  | edit :: script, t => (edit.perform? t).bind (performAll? script)

end CharEdit

namespace Similarity

/-- A text and the same with one character more, one less, or one exchanged. -/
inductive Edited : Text → Text → Prop where
  | insert (front back : Text) (c : Char) : Edited (front ++ back) (front ++ c :: back)
  | delete (front back : Text) (c : Char) : Edited (front ++ c :: back) (front ++ back)
  | substitute (front back : Text) (c d : Char) : Edited (front ++ c :: back) (front ++ d :: back)

/-- So many edits, one after the other, turn one text into another. -/
inductive Turns : Nat → Text → Text → Prop where
  | none (a : Text) : Turns 0 a a
  | more {n : Nat} {a b c : Text} (first : Edited a b) (rest : Turns n b c) : Turns (n + 1) a c

variable {n m : Nat} {a b c : Text}

/-! ### Scripts -/

theorem split_at {place : Nat} (h : place < a.length) :
    a = a.take place ++ a[place] :: a.drop (place + 1) := by
  rw [← List.drop_eq_getElem_cons h, List.take_append_drop]

theorem edited_iff : Edited a b ↔ ∃ edit : CharEdit, edit.perform? a = some b := by
  constructor
  · intro h
    cases h with
    | insert front back c => exact ⟨.insert front.length c, by simp [CharEdit.perform?]⟩
    | delete front back c => exact ⟨.delete front.length, by simp [CharEdit.perform?]⟩
    | substitute front back c d => exact ⟨.substitute front.length d, by simp [CharEdit.perform?]⟩
  · rintro ⟨edit, h⟩
    cases edit with
    | insert place c =>
      obtain ⟨-, h⟩ := Option.ite_none_right_eq_some.1 h
      have hedited := Edited.insert (a.take place) (a.drop place) c
      rwa [List.take_append_drop, Option.some.inj h] at hedited
    | delete place =>
      obtain ⟨hplace, h⟩ := Option.ite_none_right_eq_some.1 h
      have hedited := Edited.delete (a.take place) (a.drop (place + 1)) a[place]
      rwa [← split_at hplace, Option.some.inj h] at hedited
    | substitute place c =>
      obtain ⟨hplace, h⟩ := Option.ite_none_right_eq_some.1 h
      have hedited := Edited.substitute (a.take place) (a.drop (place + 1)) a[place] c
      rwa [← split_at hplace, Option.some.inj h] at hedited

/-- Scripts are what turns one text into another. -/
theorem turns_iff : Turns n a b ↔
    ∃ script, CharEdit.performAll? script a = some b ∧ script.length = n := by
  constructor
  · intro h
    induction h with
    | none a => exact ⟨[], rfl, rfl⟩
    | more first rest ih =>
      obtain ⟨edit, hedit⟩ := edited_iff.1 first
      obtain ⟨script, hscript, hlength⟩ := ih
      refine ⟨edit :: script, ?_, by rw [List.length_cons, hlength]⟩
      rw [CharEdit.performAll?, hedit, Option.bind_some, hscript]
  · rintro ⟨script, hscript, rfl⟩
    induction script generalizing a with
    | nil => exact Option.some.inj hscript ▸ .none a
    | cons edit script ih =>
      obtain ⟨next, hedit, hrest⟩ := Option.bind_eq_some_iff.1 hscript
      exact .more (edited_iff.2 ⟨edit, hedit⟩) (ih hrest)

/-! ### Edits one after the other -/

theorem Edited.symm (h : Edited a b) : Edited b a := by
  cases h with
  | insert front back c => exact .delete front back c
  | delete front back c => exact .insert front back c
  | substitute front back c d => exact .substitute front back d c

theorem Edited.cons (h : Edited a b) (x : Char) : Edited (x :: a) (x :: b) := by
  cases h with
  | insert front back c => exact .insert (x :: front) back c
  | delete front back c => exact .delete (x :: front) back c
  | substitute front back c d => exact .substitute (x :: front) back c d

theorem Edited.reverse (h : Edited a b) : Edited a.reverse b.reverse := by
  cases h with
  | insert front back c => simpa using Edited.insert back.reverse front.reverse c
  | delete front back c => simpa using Edited.delete back.reverse front.reverse c
  | substitute front back c d => simpa using Edited.substitute back.reverse front.reverse c d

theorem Turns.trans (h : Turns n a b) (h' : Turns m b c) : Turns (n + m) a c := by
  induction h with
  | none a => rwa [Nat.zero_add]
  | more first rest ih => exact Nat.succ_add _ m ▸ .more first (ih h')

theorem Edited.turns (h : Edited a b) : Turns 1 a b := .more h (.none b)

theorem Turns.symm (h : Turns n a b) : Turns n b a := by
  induction h with
  | none a => exact .none a
  | more first rest ih => exact ih.trans first.symm.turns

theorem Turns.cons (h : Turns n a b) (x : Char) : Turns n (x :: a) (x :: b) := by
  induction h with
  | none a => exact .none (x :: a)
  | more first rest ih => exact .more (first.cons x) ih

theorem Turns.reverse (h : Turns n a b) : Turns n a.reverse b.reverse := by
  induction h with
  | none a => exact .none a.reverse
  | more first rest ih => exact .more first.reverse ih

theorem Turns.min (h : Turns n a b) (h' : Turns m a b) : Turns (min n m) a b := by
  rcases min_choice n m with hmin | hmin <;> rw [hmin]
  · exact h
  · exact h'

/-! ### The distance by recursion -/

/-- The distance of two texts: their first characters are paired, or the first one of `a` goes, or
    the first one of `b` comes in. -/
def dist : Text → Text → Nat
  | [], b => b.length
  | a, [] => a.length
  | c :: a, d :: b =>
    min (min (dist a b + if c = d then 0 else 1) (dist a (d :: b) + 1)) (dist (c :: a) b + 1)
termination_by a b => a.length + b.length

@[simp] theorem dist_nil_left (b : Text) : dist [] b = b.length := by rw [dist]

@[simp] theorem dist_nil_right (a : Text) : dist a [] = a.length := by cases a <;> simp [dist]

theorem dist_cons_cons (c d : Char) (a b : Text) : dist (c :: a) (d :: b) =
    min (min (dist a b + if c = d then 0 else 1) (dist a (d :: b) + 1)) (dist (c :: a) b + 1) := by
  rw [dist]

/-- The ways to a distance are scripts. -/
theorem turns_dist (a b : Text) : Turns (dist a b) a b := by
  induction a, b using dist.induct with
  | case1 b =>
    rw [dist_nil_left]
    induction b with
    | nil => exact .none []
    | cons d b ih => exact ih.trans (Edited.insert [] b d).turns
  | case2 a ha =>
    rw [dist_nil_right]
    clear ha
    induction a with
    | nil => exact .none []
    | cons c a ih => exact .more (Edited.delete [] a c) ih
  | case3 c a d b hpaired hgone hcome =>
    have hpair : Turns (dist a b + if c = d then 0 else 1) (c :: a) (d :: b) := by
      split
      · next heq => exact heq ▸ hpaired.cons c
      · exact (hpaired.cons c).trans (Edited.substitute [] b c d).turns
    have hgo : Turns (dist a (d :: b) + 1) (c :: a) (d :: b) := .more (.delete [] a c) hgone
    have hin : Turns (dist (c :: a) b + 1) (c :: a) (d :: b) :=
      hcome.trans (Edited.insert [] b d).turns
    rw [dist_cons_cons]
    exact (hpair.min hgo).min hin

theorem dist_self (a : Text) : dist a a = 0 := by
  induction a with
  | nil => exact dist_nil_left []
  | cons c a ih => rw [dist_cons_cons, if_pos rfl, ih]; simp

/-! Whatever the first text, one edit of the second moves the distance by at most one. -/

theorem dist_insert_le (a b : Text) (d : Char) : dist a (d :: b) ≤ dist a b + 1 := by
  cases a with
  | nil => simp
  | cons c a => exact dist_cons_cons c d a b ▸ Nat.min_le_right _ _

theorem dist_cons_left_le (c : Char) (a b : Text) : dist (c :: a) b ≤ dist a b + 1 := by
  cases b with
  | nil => simp
  | cons d b => rw [dist_cons_cons]; omega

theorem dist_delete_le (a b : Text) (d : Char) : dist a b ≤ dist a (d :: b) + 1 := by
  induction a with
  | nil => rw [dist_nil_left, dist_nil_left, List.length_cons]; omega
  | cons c a ih =>
    have hgone := dist_cons_left_le c a b
    rw [dist_cons_cons]
    omega

theorem dist_substitute_le (a b : Text) (d e : Char) :
    dist a (e :: b) ≤ dist a (d :: b) + 1 := by
  induction a with
  | nil => simp
  | cons c a ih =>
    rw [dist_cons_cons, dist_cons_cons]
    split <;> omega

/-- What holds of the ends of two texts holds with one character before both. -/
theorem dist_cons_le {b b' : Text} (h : ∀ a, dist a b' ≤ dist a b + 1) (d : Char) (a : Text) :
    dist a (d :: b') ≤ dist a (d :: b) + 1 := by
  induction a with
  | nil => have := h []; simpa using this
  | cons c a ih =>
    have hpaired := h a
    have hcome := h (c :: a)
    rw [dist_cons_cons, dist_cons_cons]
    omega

theorem dist_le_of_edited {b b' : Text} (h : Edited b b') (a : Text) :
    dist a b' ≤ dist a b + 1 := by
  have hfront : ∀ {end₁ end₂ : Text}, (∀ a, dist a end₂ ≤ dist a end₁ + 1) →
      ∀ front a, dist a (front ++ end₂) ≤ dist a (front ++ end₁) + 1 := by
    intro end₁ end₂ hends front
    induction front with
    | nil => exact hends
    | cons d front ih => exact dist_cons_le ih d
  cases h with
  | insert front back c => exact hfront (dist_insert_le · back c) front a
  | delete front back c => exact hfront (dist_delete_le · back c) front a
  | substitute front back c d => exact hfront (dist_substitute_le · back c d) front a

/-- No script has fewer edits than the distance. -/
theorem dist_le_of_turns (h : Turns n a b) : dist a b ≤ n := by
  have hmoved : ∀ start, dist start b ≤ dist start a + n := by
    induction h with
    | none a => exact fun start => Nat.le_refl _
    | more first rest ih =>
      intro start
      have hfirst := dist_le_of_edited first start
      have hrest := ih start
      omega
  have hall := hmoved a
  rwa [dist_self, Nat.zero_add] at hall

/-! ### The rows -/

/-- The row for a beginning of the first text, from a place of the second on: its cells are the
    distances of the two beginnings, which are given backwards. -/
def rowFrom (a before : Text) : Text → List Nat
  | [] => [dist a before]
  | d :: b => dist a before :: rowFrom a (d :: before) b

theorem rowFrom_eq_cons (a before b : Text) :
    ∃ row, rowFrom a before b = dist a before :: row := by
  cases b <;> exact ⟨_, rfl⟩

/-- A row is filled with the distances for one character more. -/
theorem fillRow_rowFrom (c : Char) (a before b : Text) :
    dist (c :: a) before :: fillRow c (dist (c :: a) before) (rowFrom a before b) b =
      rowFrom (c :: a) before b := by
  induction b generalizing before with
  | nil => rfl
  | cons d b ih =>
    obtain ⟨row, hrow⟩ := rowFrom_eq_cons a (d :: before) b
    rw [rowFrom, rowFrom, ← ih, hrow, fillRow, ← dist_cons_cons]

theorem nextRow_rowFrom (c : Char) (a b : Text) :
    nextRow b (rowFrom a [] b) c = rowFrom (c :: a) [] b := by
  have hleft : (rowFrom a [] b).headD 0 + 1 = dist (c :: a) [] := by
    obtain ⟨row, hrow⟩ := rowFrom_eq_cons a [] b
    rw [hrow, List.headD_cons, dist_nil_right, dist_nil_right, List.length_cons]
  rw [nextRow, hleft, fillRow_rowFrom]

theorem rowFrom_nil (before b : Text) :
    rowFrom [] before b = List.range' before.length (b.length + 1) := by
  induction b generalizing before with
  | nil => simp [rowFrom]
  | cons d b ih =>
    rw [rowFrom, ih, dist_nil_left, List.length_cons, List.length_cons, ← List.range'_succ]

theorem lastRow_eq (a b : Text) : lastRow a b = rowFrom a.reverse [] b := by
  have hrows : ∀ rest a : Text,
      rest.foldl (nextRow b) (rowFrom a [] b) = rowFrom (rest.reverse ++ a) [] b := by
    intro rest
    induction rest with
    | nil => exact fun a => rfl
    | cons c rest ih =>
      intro a
      rw [List.foldl_cons, nextRow_rowFrom, ih, List.reverse_cons, List.append_assoc,
        List.singleton_append]
  have hfirst : List.range (b.length + 1) = rowFrom [] [] b := by
    rw [rowFrom_nil, List.range_eq_range', List.length_nil]
  rw [lastRow, hfirst, hrows, List.append_nil]

theorem getLastD_rowFrom (a before b : Text) :
    (rowFrom a before b).getLastD 0 = dist a (b.reverse ++ before) := by
  induction b generalizing before with
  | nil => rfl
  | cons d b ih =>
    obtain ⟨row, hrow⟩ := rowFrom_eq_cons a (d :: before) b
    rw [rowFrom, List.getLastD_cons, List.reverse_cons, List.append_assoc, List.singleton_append,
      ← ih, hrow, List.getLastD_cons, List.getLastD_cons]

/-- The last cell is the distance of the texts read backwards. -/
theorem levenshtein_eq_dist (a b : Text) : levenshtein a b = dist a.reverse b.reverse := by
  rw [levenshtein, lastRow_eq, getLastD_rowFrom, List.append_nil]

/-! ### Shortest scripts -/

theorem turns_levenshtein (a b : Text) : Turns (levenshtein a b) a b := by
  have h := (turns_dist a.reverse b.reverse).reverse
  rwa [List.reverse_reverse, List.reverse_reverse, ← levenshtein_eq_dist] at h

theorem levenshtein_le_of_turns (h : Turns n a b) : levenshtein a b ≤ n := by
  rw [levenshtein_eq_dist]
  exact dist_le_of_turns h.reverse

/-- No script that turns one text into another has fewer edits than their distance, and some script
    has no more. -/
theorem distance_is_shortest_script (a b : Text) :
    (∀ script, CharEdit.performAll? script a = some b → levenshtein a b ≤ script.length) ∧
      ∃ script, CharEdit.performAll? script a = some b ∧ script.length = levenshtein a b :=
  ⟨fun script h => levenshtein_le_of_turns (turns_iff.2 ⟨script, h, rfl⟩),
    turns_iff.1 (turns_levenshtein a b)⟩

/-- A script of three edits, and no shorter one would do. -/
theorem distance_is_shortest_script_kitten :
    let script : List CharEdit := [.substitute 0 's', .substitute 4 'i', .insert 6 'g']
    CharEdit.performAll? script "kitten".toList = some "sitting".toList ∧
      levenshtein "kitten".toList "sitting".toList ≤ script.length ∧
      levenshtein "kitten".toList "sitting".toList = 3 := by
  intro script
  have hscript : CharEdit.performAll? script "kitten".toList = some "sitting".toList := by decide
  exact ⟨hscript, (distance_is_shortest_script _ _).1 script hscript, by decide⟩

end Similarity

end TemplateMerge
