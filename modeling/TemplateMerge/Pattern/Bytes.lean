import TemplateMerge.Pattern.CharSet

/-! The bytes of the characters of a set.

    A character takes one to four bytes: a leading byte, and bytes that continue it with six bits
    each.  The characters of a range are those whose bytes lie, place by place, in one of a few
    sequences of byte ranges.

        U+0000–U+07FF      ──▶      00–7F
                                    C2–DF  80–BF -/

namespace TemplateMerge

/-- A range of bytes, ends included. -/
abbrev ByteRange := Nat × Nat

namespace CharSet

/-- The byte ranges that lead over `continuing` more bytes from the bits of `first` to the bits of
    `last`; `mark` is added to the leading byte. -/
def sequencesWithin (mark : Nat) : (continuing first last : Nat) → List (List ByteRange)
  | 0, first, last => [[(mark + first, mark + last)]]
  | continuing + 1, first, last =>
    let unit := Nat.pow 64 (continuing + 1)
    let lead (low high : Nat) : ByteRange := (mark + low, mark + high)
    let inner := sequencesWithin 128 continuing
    if first / unit = last / unit then
      (inner (first % unit) (last % unit)).map (lead (first / unit) (first / unit) :: ·)
    else
      let starts := first % unit ≠ 0
      let stops := last % unit ≠ unit - 1
      let low := first / unit + (if starts then 1 else 0)
      let high := last / unit - (if stops then 1 else 0)
      (if starts then
        (inner (first % unit) (unit - 1)).map (lead (first / unit) (first / unit) :: ·)
        else []) ++
      (if low ≤ high then (inner 0 (unit - 1)).map (lead low high :: ·) else []) ++
      (if stops then (inner 0 (last % unit)).map (lead (last / unit) (last / unit) :: ·) else [])

/-- The lengths of characters in bytes, less one: their first and last code points, and what is
    added to their leading bytes. -/
def lengths : List (Nat × CodeRange × Nat) :=
  [(0, (0, 0x7F), 0), (1, (0x80, 0x7FF), 0xC0), (2, (0x800, 0xFFFF), 0xE0),
    (3, (0x10000, 0x10FFFF), 0xF0)]

/-- The sequences of byte ranges of a range of code points. -/
def rangeSequences (r : CodeRange) : List (List ByteRange) :=
  lengths.flatMap fun (continuing, span, mark) =>
    let first := max r.1 span.1
    let last := min r.2 span.2
    if first ≤ last then sequencesWithin mark continuing first last else []

/-- The sequences of byte ranges of a set, in increasing order. -/
def byteSequences (s : CharSet) : List (List ByteRange) := s.ranges.flatMap rangeSequences

end CharSet

end TemplateMerge
