import TemplateMerge.Text.Category

/-! Quoted texts, as messages show them.

    A quoted text stands between double quotes.  Inside, a double quote and a backslash get a
    backslash; tab, line feed, carriage return and NUL have letters; whatever else would not be
    seen, or would join the character before it, is written by its code point.

        say "é"⏎   ──▶   "say \"é\"\n" -/

namespace TemplateMerge

namespace Text

/-- The digits of `n` in base sixteen, letters in lower case. -/
def hexDigits (n : Nat) : Text := Nat.toDigits 16 n

/-- How one character is written between quotes. -/
def escapeChar (c : Char) : Text :=
  if c = '\x00' then ['\\', '0']
  else if c = '\t' then ['\\', 't']
  else if c = '\n' then ['\\', 'n']
  else if c = '\r' then ['\\', 'r']
  else if c = '"' then ['\\', '"']
  else if c = '\\' then ['\\', '\\']
  else if isExtender c || !isPrintable c then
    ['\\', 'u', '\x7b'] ++ hexDigits c.toNat ++ ['\x7d']
  else [c]

/-- The text between double quotes. -/
def quote (t : Text) : Text := '"' :: t.flatMap escapeChar ++ ['"']

/-- A name between double quotes. -/
def quoteString (s : String) : String := String.ofList (quote s.toList)

end Text

end TemplateMerge
