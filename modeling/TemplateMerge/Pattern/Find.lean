import TemplateMerge.Pattern.Basic

/-! Finding patterns in texts.

    The pattern is laid out as a track, with one place for every character that a piece of the text
    may take.  Marks move along the track while the text is read: a place is marked when a
    piece that begins somewhere before and ends here can have got so far.

        track          a  (b)*  c              text   a b b c
        after `a`      ●                              ·
        after `b`          ●                            ·
        after `b`          ●                              ·
        after `c`               ●   found                   ·

    In every gap of the text a new piece may begin, and the pattern is found when a mark is on
    a place where it may end. -/

namespace TemplateMerge

/-- The two sides of a gap in a text. -/
abbrev Gap := Option Char × Option Char

namespace Look

/-- Whether a side of a gap is a character of the set. -/
def sideIn (s : CharSet) (c : Option Char) : Bool := c.any s.contains

/-- Whether a gap is as asked. -/
def holds (gap : Gap) : Look → Bool
  | textStart => gap.1.isNone
  | textEnd => gap.2.isNone
  | lineStart false => gap.1.isNone || gap.1 == some '\n'
  | lineStart true =>
    gap.1.isNone || gap.1 == some '\n' || (gap.1 == some '\r' && gap.2 != some '\n')
  | lineEnd false => gap.2.isNone || gap.2 == some '\n'
  | lineEnd true =>
    gap.2.isNone || gap.2 == some '\r' || (gap.2 == some '\n' && gap.1 != some '\r')
  | boundary letters => sideIn letters gap.1 != sideIn letters gap.2
  | noBoundary letters => sideIn letters gap.1 == sideIn letters gap.2
  | wordStart letters => !sideIn letters gap.1 && sideIn letters gap.2
  | wordEnd letters => sideIn letters gap.1 && !sideIn letters gap.2
  | wordStartHalf letters => !sideIn letters gap.1
  | wordEndHalf letters => !sideIn letters gap.2

end Look

/-- A track along which marks move. -/
inductive Track where
  /-- Nothing stands here. -/
  | empty
  /-- Only some gaps let marks through. -/
  | look (l : Look)
  /-- A place for a character of a set, with or without a mark. -/
  | place (s : CharSet) (marked : Bool)
  /-- One track after another. -/
  | seq (a b : Track)
  /-- Two tracks side by side. -/
  | alt (a b : Track)
  /-- A track that is gone along once or more often. -/
  | loop (a : Track)
  deriving Repr

namespace Track

/-- Copies of a track one after another. -/
def copies (a : Track) : Nat → Track
  | 0 => empty
  | 1 => a
  | n + 2 => seq a (copies a (n + 1))

/-- The track of a pattern, without marks, for texts of fewer than `limit` characters.  More than
    `limit` repetitions change nothing there, since some of them have to be empty. -/
def ofPattern (limit : Nat) : Pattern → Track
  | .empty => empty
  | .text t => t.foldr (fun c track => seq (place (.single c) false) track) empty
  | .set s => place s false
  | .look l => look l
  | .seq parts => ofParts parts
  | .alt branches => ofBranches branches
  | .iterate p least most =>
    let body := ofPattern limit p
    match least, most with
    | 0, none => alt (loop body) empty
    | least + 1, none => seq (copies body (min least limit)) (loop body)
    | least, some most =>
      seq (copies body (min least limit)) (copies (alt body empty) (min (most - least) limit))
  | .group _ p => ofPattern limit p
where
  /-- The tracks of patterns one after another. -/
  ofParts : List Pattern → Track
    | [] => empty
    | p :: rest => seq (ofPattern limit p) (ofParts rest)
  /-- The tracks of patterns side by side. -/
  ofBranches : List Pattern → Track
    | [] => place .none false
    | [p] => ofPattern limit p
    | p :: rest => alt (ofPattern limit p) (ofBranches rest)

/-- Whether marks can pass the track in a gap without taking a place, and whether a mark comes to
    its end there. -/
def status (gap : Gap) : Track → Bool × Bool
  | empty => (true, false)
  | look l => (l.holds gap, false)
  | place _ marked => (false, marked)
  | seq a b =>
    let (passA, endA) := a.status gap
    let (passB, endB) := b.status gap
    (passA && passB, (endA && passB) || endB)
  | alt a b =>
    let (passA, endA) := a.status gap
    let (passB, endB) := b.status gap
    (passA || passB, endA || endB)
  | loop a => a.status gap

/-- What `status` says of the track, and the track after one more character, with a mark put in
    front of it first if `enter` says so. -/
def advance (gap : Gap) (enter : Bool) (c : Char) : Track → (Bool × Bool) × Track
  | empty => ((true, false), empty)
  | look l => ((l.holds gap, false), look l)
  | place s marked => ((false, marked), place s (enter && s.contains c))
  | seq a b =>
    let ((passA, endA), nextA) := a.advance gap enter c
    let ((passB, endB), nextB) := b.advance gap ((enter && passA) || endA) c
    ((passA && passB, (endA && passB) || endB), seq nextA nextB)
  | alt a b =>
    let ((passA, endA), nextA) := a.advance gap enter c
    let ((passB, endB), nextB) := b.advance gap enter c
    ((passA || passB, endA || endB), alt nextA nextB)
  | loop a =>
    let (found, next) := a.advance gap (enter || (a.status gap).2) c
    (found, loop next)

/-- Whether a piece ends in the gap after `before` or in one further on, when new pieces may begin
    in all of these gaps. -/
def finds (before : Option Char) (track : Track) : Text → Bool
  | [] =>
    let (passes, ends) := track.status (before, none)
    passes || ends
  | c :: t =>
    let ((passes, ends), next) := track.advance (before, some c) true c
    passes || ends || next.finds (some c) t

end Track

/-- Whether some piece of the text matches the pattern. -/
def Pattern.isFoundIn (p : Pattern) (text : Text) : Bool :=
  (Track.ofPattern (text.length + 1) p).finds none text

end TemplateMerge
