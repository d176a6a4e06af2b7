/-! Texts and the white space around them.

    A text is the list of its characters.  White space is the Unicode property `White_Space`:
    the information separators (U+001C to U+001F) and the zero width space are *not* in it, the
    next line, the no-break space and the ideographic space are.

        trim     "  a b  "   =   "a b"
        trimEnd  "  a b  "   =   "  a b"

    `chomp` takes every line feed and carriage return off the end, `dropTerminator` at most one
    line ending. -/

namespace TemplateMerge

/-- A document, or a part of one, as its characters. -/
abbrev Text := List Char

namespace Text

/-- Membership in the Unicode property `White_Space`. -/
def isBlankChar (c : Char) : Bool :=
  let n := c.toNat
  (0x09 ≤ n && n ≤ 0x0D) || n == 0x20 || n == 0x85 || n == 0xA0 || n == 0x1680 ||
    (0x2000 ≤ n && n ≤ 0x200A) || n == 0x2028 || n == 0x2029 || n == 0x202F || n == 0x205F ||
    n == 0x3000

/-- The text without its longest end whose characters all satisfy `p`. -/
def dropEndWhile (p : Char → Bool) (t : Text) : Text := (t.reverse.dropWhile p).reverse

/-- The text without leading white space. -/
def trimStart (t : Text) : Text := t.dropWhile isBlankChar

/-- The text without trailing white space. -/
def trimEnd (t : Text) : Text := dropEndWhile isBlankChar t

/-- The text without white space at either end. -/
def trim (t : Text) : Text := trimEnd (trimStart t)

/-- Whether the text is white space throughout. -/
def isBlank (t : Text) : Bool := t.all isBlankChar

/-- What follows `start` in `t`, when `t` begins with it. -/
def stripStart? : (start t : Text) → Option Text
  | [], t => some t
  | _ :: _, [] => none
  | s :: start, c :: t => if s = c then stripStart? start t else none

/-- What precedes `ending` in `t`, when `t` ends with it. -/
def stripEnd? (ending t : Text) : Option Text :=
  (stripStart? ending.reverse t.reverse).map List.reverse

/-- The text without any line feeds and carriage returns at its end. -/
def chomp (t : Text) : Text := dropEndWhile (fun c => c == '\n' || c == '\r') t

/-- The text without the line feed, or carriage return and line feed, that ends it. -/
def dropTerminator (t : Text) : Text :=
  match stripEnd? ['\n'] t with
  | none => t
  | some line => (stripEnd? ['\r'] line).getD line

/-- Whether `part` stands somewhere in `t`. -/
def containsText (part : Text) : Text → Bool
  | [] => part.isEmpty
  | c :: t => (stripStart? part (c :: t)).isSome || containsText part t

/-- The texts with `separator` between neighbours. -/
def joinWith (separator : Text) (parts : List Text) : Text := separator.intercalate parts

@[simp] theorem trimStart_nil : trimStart [] = [] := rfl

@[simp] theorem trimEnd_nil : trimEnd [] = [] := rfl

theorem stripStart?_append (start rest : Text) : stripStart? start (start ++ rest) = some rest := by
  induction start with
  | nil => rfl
  | cons c start ih => simp [stripStart?, ih]

theorem eq_append_of_stripStart? {start t rest : Text} (h : stripStart? start t = some rest) :
    t = start ++ rest := by
  fun_induction stripStart? start t with
  | case1 t => simpa using h
  | case2 => simp at h
  | case3 c start t ih => simp [ih h]
  | case4 => simp at h

theorem stripStart?_eq_some_iff {start t rest : Text} :
    stripStart? start t = some rest ↔ t = start ++ rest :=
  ⟨eq_append_of_stripStart?, fun h => h ▸ stripStart?_append start rest⟩

theorem stripEnd?_eq_some_iff {ending t rest : Text} :
    stripEnd? ending t = some rest ↔ t = rest ++ ending := by
  simp only [stripEnd?, Option.map_eq_some_iff, stripStart?_eq_some_iff]
  constructor
  · rintro ⟨front, h, rfl⟩
    simpa using congrArg List.reverse h
  · rintro rfl
    exact ⟨rest.reverse, by simp, by simp⟩

end Text

end TemplateMerge
