import TemplateMerge.Text.Basic

/-! Lines with their endings.

    A line ends with its line feed; the last one may lack it, and an empty text has no line.

        "a\r\nb\n\nc"   ──▶   "a\r\n" · "b\n" · "\n" · "c"

    Nothing is lost or added: the lines of a text put together are the text again. -/

namespace TemplateMerge

namespace Text

/-- The lines of a text, line feeds included. -/
def splitLines : Text → List Text
  | [] => []
  | c :: rest =>
    if c = '\n' then [c] :: splitLines rest
    else
      match splitLines rest with
      | [] => [[c]]
      | line :: more => (c :: line) :: more

@[simp] theorem splitLines_nil : splitLines [] = [] := rfl

@[simp] theorem flatten_splitLines (t : Text) : (splitLines t).flatten = t := by
  induction t with
  | nil => rfl
  | cons c rest ih =>
    unfold splitLines
    split
    · simp [ih]
    · split
      · next h => rw [h] at ih; simp [← ih]
      · next line more h => rw [h] at ih; simp [← ih]

end Text

end TemplateMerge
