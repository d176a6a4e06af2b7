import TemplateMerge.Pattern.Basic
import TemplateMerge.Pattern.Bytes

/-! The size of patterns.

    A pattern stands for two automata over bytes, one that reads a text forwards and one that reads
    it backwards.  Neither may be larger than ten MiB.  A state takes 32 bytes; an edge that a byte
    is read along takes 8 more where a state has several, and an edge that nothing is read along
    takes 4 more where a state may have several.

        a*          ⟲ ─a─ ●           one state with two edges, one state that reads `a`
        a{3}        ● ─a─ ● ─a─ ● ─a─ three states that read `a`

    What is repeated a bounded number of times is laid out as often, so that sizes multiply where
    repetitions are nested. -/

namespace TemplateMerge

namespace Pattern

/-- The way in which a text is read. -/
inductive Direction where
  | forwards
  | backwards
  deriving DecidableEq, Repr

/-- What a part of an automaton takes. -/
structure Extent where
  /-- The bytes of its states and edges. -/
  bytes : Nat
  /-- Whether its last state may have several edges, so that the edge to what follows counts. -/
  branching : Bool
  deriving DecidableEq, Repr

/-- The bytes of a state. -/
def stateBytes : Nat := 32

/-- The bytes of an edge that a byte is read along. -/
def readingBytes : Nat := 8

/-- The bytes of an edge that nothing is read along. -/
def edgeBytes : Nat := 4

namespace Extent

/-- The bytes of the edge that leads on from a part. -/
def onward (e : Extent) : Nat := if e.branching then edgeBytes else 0

/-- A single state without an edge that counts. -/
def state : Extent := ⟨stateBytes, false⟩

/-- One part after another. -/
def andThen (a b : Extent) : Extent := ⟨a.bytes + a.onward + b.bytes, b.branching⟩

/-- Parts one after another. -/
def chain : List Extent → Extent
  | [] => state
  | [e] => e
  | e :: rest => e.andThen (chain rest)

/-- A part a number of times. -/
def times (e : Extent) (n : Nat) : Extent :=
  if n = 0 then state else ⟨n * e.bytes + (n - 1) * e.onward, e.branching⟩

/-- A part once or not at all: a state with two edges before it and one state behind it. -/
def optional (e : Extent) : Extent :=
  ⟨2 * stateBytes + 2 * edgeBytes + e.bytes + e.onward, false⟩

/-- A part once or more often: a state behind it from which an edge leads back. -/
def loop (e : Extent) : Extent := ⟨e.bytes + e.onward + stateBytes + edgeBytes, true⟩

/-- A part any number of times.  When the part can be passed without reading anything, it is a
    loop that is optional; otherwise one state before it will do. -/
def anyTimes (reads : Bool) (e : Extent) : Extent :=
  if reads then ⟨stateBytes + edgeBytes + e.bytes + e.onward, true⟩
  else ⟨e.loop.bytes + edgeBytes + 2 * stateBytes + 2 * edgeBytes, false⟩

/-- A part at least and, if so said, at most a number of times.  A part that may be left out has a
    state with two edges before it, and all of these lead to one last state. -/
def iterate (reads : Bool) (e : Extent) (least : Nat) : Option Nat → Extent
  | none =>
    match least with
    | 0 => e.anyTimes reads
    | 1 => e.loop
    | least => (e.times (least - 1)).andThen e.loop
  | some most =>
    if least = 0 ∧ most = 1 then e.optional
    else if most ≤ least then e.times least
    else
      let required := e.times least
      let each := stateBytes + 2 * edgeBytes + e.bytes + e.onward
      ⟨required.bytes + required.onward + stateBytes + (most - least) * each, false⟩

/-- Parts side by side, between two states. -/
def sideBySide (parts : List Extent) : Extent :=
  ⟨parts.foldl (fun bytes e => bytes + edgeBytes + e.bytes + e.onward) (2 * stateBytes), false⟩

end Extent

/-! ### Sets -/

/-- The distinct nodes of a graph of byte ranges: the ranges of a node, each with the number of the
    node that it leads to.  Number zero is the end. -/
abbrev ByteGraph := List (List (ByteRange × Nat))

namespace ByteGraph

/-- The number of a node, which is added if it is new. -/
def number (g : ByteGraph) (node : List (ByteRange × Nat)) : ByteGraph × Nat :=
  match g.findIdx? (· == node) with
  | some k => (g, g.length - k)
  | none => (node :: g, g.length + 1)

/-- The graph with the node from which the sequences begin, and the number of that node.  Sequences
    of at most `depth` ranges share what follows, wherever it is the same. -/
def add : (depth : Nat) → ByteGraph → List (List ByteRange) → ByteGraph × Nat
  | 0, g, _ => (g, 0)
  | depth + 1, g, sequences =>
    let groups := (sequences.filter (· ≠ [])).splitBy fun a b => a.head? == b.head?
    if groups.isEmpty then (g, 0)
    else
      let (g, node) := groups.foldl (fun (g, node) group =>
        let (g, next) := add depth g (group.map List.tail)
        (g, node ++ (group.filterMap List.head?).head?.toList.map (·, next))) (g, [])
      g.number node

end ByteGraph

/-- The number of the distinct beginnings of sequences of at most `depth` ranges, the empty one left
    aside; equal beginnings stand in a row. -/
def countBeginnings : (depth : Nat) → List (List ByteRange) → Nat
  | 0, _ => 0
  | depth + 1, sequences =>
    ((sequences.filter (· ≠ [])).splitBy fun a b => a.head? == b.head?).foldl
      (fun n group => n + 1 + countBeginnings depth (group.map List.tail)) 0

/-- What a set takes.  Forwards, characters share the bytes that they end with; backwards, those
    that they begin with.  A set of ASCII is one state with an edge for each range. -/
def setExtent (d : Direction) (s : CharSet) : Extent :=
  if s.isAscii then ⟨2 * stateBytes + readingBytes * s.ranges.length, false⟩
  else
    let sequences := s.byteSequences
    match d with
    | .forwards =>
      let (nodes, _) := ByteGraph.add 4 [] sequences
      ⟨nodes.foldl (fun bytes node => bytes + stateBytes + readingBytes * node.length) stateBytes,
        false⟩
    | .backwards =>
      ⟨2 * stateBytes + edgeBytes * sequences.length + stateBytes * countBeginnings 4 sequences,
        false⟩

/-! ### Choices of texts -/

/-- The bytes of a text, in the order in which they are read. -/
def readBytes (d : Direction) (t : Text) : List Nat :=
  let bytes := (String.ofList t).toUTF8.toList.map UInt8.toNat
  match d with
  | .forwards => bytes
  | .backwards => bytes.reverse

/-- The rests of words that go on after one byte and those of the words before the next end. -/
abbrev Branching := List (Nat × List (List Nat))

/-- The words that go on with one more byte, by that byte. -/
def Branching.add (b : Branching) (byte : Nat) (rest : List Nat) : Branching :=
  if b.any (·.1 == byte) then
    b.map fun (other, rests) => if other == byte then (other, rests ++ [rest]) else (other, rests)
  else b ++ [(byte, [rest])]

/-- The branchings at a node of a tree of words, each up to where a word ends: a word that ends
    is preferred to those that come later, so that what goes on after it branches anew.  An end
    before anything goes on counts once. -/
def branchings (words : List (List Nat)) : List Branching :=
  let close (done : List Branching) (open_ : Branching) : List Branching × Branching :=
    if open_.isEmpty ∧ done.all List.isEmpty ∧ done ≠ [] then (done, open_)
    else (done ++ [open_], [])
  let (done, open_) := words.foldl (fun (done, open_) word =>
    match word with
    | [] => close done open_
    | byte :: rest => (done, Branching.add open_ byte rest)) ([], [])
  done ++ [open_]

/-- What the tree of words takes below a node; words are at most `depth` long. -/
def treeBytes : (depth : Nat) → List (List Nat) → Nat
  | 0, _ => 0
  | depth + 1, words =>
    if words.all List.isEmpty then 0
    else
      let parts := branchings words
      let states := parts.filter (!·.isEmpty)
      let below := states.flatten.foldl (fun n (_, rests) => n + treeBytes depth rests) 0
      let read := states.foldl (fun n b =>
        n + stateBytes + (if b.length = 1 then 0 else readingBytes * b.length)) 0
      below + read + stateBytes + edgeBytes * (states.length + (parts.length - 1))

/-- What a choice of texts takes. -/
def textsExtent (d : Direction) (texts : List Text) : Extent :=
  let words := texts.map (readBytes d)
  ⟨stateBytes + treeBytes (words.foldl (fun n w => max n w.length) 0 + 1) words, false⟩

/-! ### Patterns -/

/-- The text that a pattern is, if it is one. -/
def text? : Pattern → Option Text
  | text t => some t
  | _ => none

/-- What a pattern takes.  Only the automaton that reads forwards notes where groups begin and
    end. -/
def extent (d : Direction) : Pattern → Extent
  | empty | look _ => .state
  | text t => ⟨stateBytes * (readBytes d t).length, false⟩
  | set s => setExtent d s
  | seq parts =>
    let extents := extents parts
    .chain (match d with
      | .forwards => extents
      | .backwards => extents.reverse)
  | alt branches =>
    match branches.mapM text? with
    | some texts => textsExtent d texts
    | none => .sideBySide (extents branches)
  | iterate p least most => (extent d p).iterate ((shortest? p).any (0 < ·)) least most
  | group _ p =>
    match d with
    | .forwards => .chain [.state, extent d p, .state]
    | .backwards => extent d p
where
  /-- What each of several patterns takes. -/
  extents : List Pattern → List Extent
    | [] => []
    | p :: rest => extent d p :: extents rest

/-- Whether a pattern asks where reading begins, before anything is read. -/
def asksFirst (l : Look) (d : Direction) : Pattern → Bool
  | look m => l == m
  | seq parts =>
    match d with
    | .forwards => anyFirst parts
    | .backwards => (lastFirst parts).1
  | alt branches => allFirst branches
  | iterate p least _ => least ≠ 0 && asksFirst l d p
  | group _ p => asksFirst l d p
  | _ => false
where
  /-- Whether a part asks and nothing is read before it. -/
  anyFirst : List Pattern → Bool
    | [] => false
    | p :: rest => asksFirst l d p || (p.isWidthless && anyFirst rest)
  /-- Whether a part asks and nothing is read after it, and whether all parts read nothing. -/
  lastFirst : List Pattern → Bool × Bool
    | [] => (false, true)
    | p :: rest =>
      let (asks, readsNothing) := lastFirst rest
      (asks || (readsNothing && asksFirst l d p), readsNothing && p.isWidthless)
  /-- Whether all branches ask. -/
  allFirst : List Pattern → Bool
    | [] => true
    | p :: rest => asksFirst l d p && allFirst rest

/-- What comes before a pattern: a state, or the states in which anything is read until the pattern
    begins. -/
def lead (bound : Bool) : Extent :=
  if bound then .state else (setExtent .forwards (.ofRanges [(0, 1)])).anyTimes true

/-- The bytes of the automaton of a pattern. -/
def size (d : Direction) (p : Pattern) : Nat :=
  let e := p.extent d
  match d with
  | .forwards =>
    (Extent.chain [lead (p.asksFirst .textStart d), .state, e, .state, .state]).bytes
  | .backwards => (Extent.chain [lead (p.asksFirst .textEnd d), e, .state]).bytes

/-- The greatest size of an automaton. -/
def sizeLimit : Nat := 10 * 1024 * 1024

/-- Whether both automata of a pattern are small enough. -/
def isSmall (p : Pattern) : Bool :=
  p.size .forwards ≤ sizeLimit && p.size .backwards ≤ sizeLimit

/-- Why a text is no pattern. -/
inductive Fault where
  /-- It cannot be read. -/
  | malformed
  /-- An automaton is too large. -/
  | tooLarge
  deriving DecidableEq, Repr

end Pattern

end TemplateMerge
