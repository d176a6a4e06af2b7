import TemplateMerge.Proofs.Text.Assembly

/-! Where lines begin.

    There are two ways to tell the lines of a text.  One cuts the text after every line feed; the
    other notes the places, in bytes, where lines begin: the beginning of the text, and the place
    after every line feed, unless the text ends there.

        text          é \n a \n \n b          é \n a \n
        line feeds     2    4   5              2    4
        places        0  3    5   6           0  3               there is no line at 5
        lines         é⏎ a⏎   ⏎   b           é⏎ a⏎

    They agree, for a line that is cut off begins where those before it end
    (`lineStarts_eq_startsFrom`). -/

namespace TemplateMerge

namespace Text

/-- The number of bytes of a text. -/
def byteLength : Text → Nat
  | [] => 0
  | c :: rest => c.utf8Size + byteLength rest

/-- The places of the line feeds of a text that begins at `place`. -/
def lineFeeds : (place : Nat) → Text → List Nat
  | _, [] => []
  | place, c :: rest =>
    if c = '\n' then place :: lineFeeds (place + c.utf8Size) rest
    else lineFeeds (place + c.utf8Size) rest

/-- The places after the line feeds of a text that begins at `place`, but for the one where the text
    ends. -/
def laterStarts (place : Nat) (t : Text) : List Nat :=
  ((lineFeeds place t).map (· + 1)).filter (· < place + byteLength t)

/-- The places where the lines of a text begin. -/
def lineStarts (t : Text) : List Nat := if t = [] then [] else 0 :: laterStarts 0 t

/-- The places where lines begin that stand one after the other from `place` on. -/
def startsFrom : (place : Nat) → List Text → List Nat
  | _, [] => []
  | place, l :: rest => place :: startsFrom (place + byteLength l) rest

@[simp] theorem utf8Size_newline : Char.utf8Size '\n' = 1 := rfl

@[simp] theorem byteLength_cons (c : Char) (t : Text) :
    byteLength (c :: t) = c.utf8Size + byteLength t := rfl

theorem byteLength_pos {t : Text} (h : t ≠ []) : 0 < byteLength t := by
  cases t with
  | nil => exact absurd rfl h
  | cons c t =>
    have := c.utf8Size_pos
    rw [byteLength_cons]
    omega

@[simp] theorem length_startsFrom (ls : List Text) : ∀ place : Nat,
    (startsFrom place ls).length = ls.length := by
  induction ls with
  | nil => simp [startsFrom]
  | cons l rest ih => simp [startsFrom, ih]

/-- After a line feed a line begins, unless the text ends. -/
theorem laterStarts_newline (place : Nat) {rest : Text} (h : rest ≠ []) :
    laterStarts place ('\n' :: rest) = (place + 1) :: laterStarts (place + 1) rest := by
  have hpos := byteLength_pos h
  unfold laterStarts
  rw [lineFeeds, if_pos rfl, List.map_cons, byteLength_cons, utf8Size_newline,
    ← Nat.add_assoc, List.filter_cons_of_pos (by simpa using hpos)]

theorem laterStarts_of_ne (place : Nat) {c : Char} (h : c ≠ '\n') (rest : Text) :
    laterStarts place (c :: rest) = laterStarts (place + c.utf8Size) rest := by
  unfold laterStarts
  rw [lineFeeds, if_neg h, byteLength_cons, Nat.add_assoc]

/-- The lines that are cut off begin at the places after line feeds. -/
theorem startsFrom_splitLines {t : Text} (h : t ≠ []) : ∀ place : Nat,
    startsFrom place (splitLines t) = place :: laterStarts place t := by
  induction t with
  | nil => exact absurd rfl h
  | cons c rest ih =>
    intro place
    rcases Decidable.em (rest = []) with rfl | hrest
    · rcases Decidable.em (c = '\n') with rfl | hc
      · simp [splitLines, startsFrom, laterStarts, lineFeeds, byteLength]
      · rw [splitLines, if_neg hc, laterStarts_of_ne place hc]
        rfl
    · rcases Decidable.em (c = '\n') with rfl | hc
      · rw [splitLines, if_pos rfl, startsFrom, laterStarts_newline place hrest,
          ← ih hrest (place + 1)]
        rfl
      · -- `c` goes to the first line of the rest, and only the beginning of that line changes
        rw [splitLines, if_neg hc, laterStarts_of_ne place hc]
        have hih := ih hrest (place + c.utf8Size)
        cases hlines : splitLines rest with
        | nil => exact absurd (splitLines_eq_nil.1 hlines) hrest
        | cons line more =>
          rw [hlines, startsFrom] at hih
          dsimp only
          rw [startsFrom, byteLength_cons, ← Nat.add_assoc, (List.cons.inj hih).2]

/-- The places where lines begin are those of the lines that are cut off. -/
theorem lineStarts_eq_startsFrom (t : Text) : lineStarts t = startsFrom 0 (splitLines t) := by
  unfold lineStarts
  split
  · next h => rw [h]; rfl
  · next h => exact (startsFrom_splitLines h 0).symm

theorem length_lineStarts (t : Text) : (lineStarts t).length = (splitLines t).length := by
  rw [lineStarts_eq_startsFrom, length_startsFrom]

end Text

end TemplateMerge
