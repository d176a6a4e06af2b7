import TemplateMerge.Text.Basic

/-! How alike two texts, or two places, are.

    The edit distance counts the insertions, deletions and substitutions of single characters that
    turn one text into the other.  It is computed row by row: cell `j` of the row for a beginning
    of `a` is the distance from that beginning to the first `j` characters of `b`.

              ·   s   i   t             each cell is the least of
          ·   0   1   2   3               diagonal + (0 if the characters agree, else 1)
          k   1   1   2   3               above + 1
          i   2   2   1   2               left + 1
          t   3   3   2   1

    All similarities lie between zero and one, one meaning no difference. -/

namespace TemplateMerge

namespace Similarity

/-- Fills a row to the right of a cell with the value `left`, below `row`, for the character `c`. -/
def fillRow (c : Char) : (left : Nat) → (row : List Nat) → (b : Text) → List Nat
  | left, diagonal :: above :: row, d :: b =>
    let cell := min (min (diagonal + if c = d then 0 else 1) (above + 1)) (left + 1)
    cell :: fillRow c cell (above :: row) b
  | _, _, _ => []

/-- The row below `row`, for the character `c` and the text `b` along the top. -/
def nextRow (b : Text) (row : List Nat) (c : Char) : List Nat :=
  let left := row.headD 0 + 1
  left :: fillRow c left row b

/-- The row of distances from the whole of `a` to the beginnings of `b`. -/
def lastRow (a b : Text) : List Nat := a.foldl (nextRow b) (List.range (b.length + 1))

/-- The edit distance of two texts. -/
def levenshtein (a b : Text) : Nat := (lastRow a b).getLastD 0

/-- One less the distance over the longer length; texts of which exactly one is empty have nothing
    in common. -/
def content (a b : Text) : Float :=
  if a.length = 0 ∧ b.length = 0 then 1.0
  else if a.length = 0 ∨ b.length = 0 then 0.0
  else 1.0 - Float.ofNat (levenshtein a b) / Float.ofNat (max a.length b.length)

/-- The shorter length over the longer; two empty texts are equally long. -/
def length (a b : Text) : Float :=
  if a.length = 0 ∧ b.length = 0 then 1.0
  else if a.length = 0 ∨ b.length = 0 then 0.0
  else Float.ofNat (min a.length b.length) / Float.ofNat (max a.length b.length)

/-- Where item `index` of `count` stands between the first, at zero, and the last, at one.  The
    only item of a list stands at zero. -/
def relativePlace (index count : Nat) : Float :=
  if count ≤ 1 then 0.0 else Float.ofNat index / Float.ofNat (count - 1)

/-- One less the distance of two relative places. -/
def place (indexA countA indexB countB : Nat) : Float :=
  1.0 - (relativePlace indexA countA - relativePlace indexB countB).abs

end Similarity

end TemplateMerge
