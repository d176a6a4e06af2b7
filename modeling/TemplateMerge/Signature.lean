import TemplateMerge.Statement

/-! Signatures: which statements of two documents stand for the same thing.

    Statements correspond when their signatures are equal.  A format gives a node a signature, or
    none, and a node without one corresponds to nothing.  `Signature.Index` holds the signatures of
    a document, computed once, and finds the statements of a signature without going through all.

        statement       0   1   2   3
        signature       a   b   a   ·         a ↦ 0 2   b ↦ 1 -/

namespace TemplateMerge

/-- What makes two statements the same. -/
inductive Signature where
  /-- A type and a content. -/
  | content (nodeType : String) (content : Text)
  /-- A region fixed to its lines. -/
  | span (kind : String) (startLine endLine : Nat)
  /-- Anything else that a format distinguishes. -/
  | tuple (parts : List String)
  deriving DecidableEq, Repr

namespace Signature

/-- A signature in words. -/
def describe : Signature → String
  | content nodeType text => "(" ++ nodeType ++ ", " ++ String.ofList (Text.quote text) ++ ")"
  | span kind startLine endLine => s!"({kind}, {startLine}, {endLine})"
  | tuple parts => "(" ++ ", ".intercalate parts ++ ")"

/-- Groups of statements with one more statement, which comes last in the group of its signature;
    a group for a new signature comes after all others. -/
def enter (s : Signature) (index : Nat) :
    List (Signature × List Nat) → List (Signature × List Nat)
  | [] => [(s, [index])]
  | (own, indices) :: rest =>
    if own = s then (own, indices ++ [index]) :: rest else (own, indices) :: enter s index rest

/-- The numbers of statements with the given signatures, grouped by the signatures.  A statement
    without a signature is in no group. -/
def grouped (bySlot : List (Option Signature)) : List (Signature × List Nat) :=
  bySlot.zipIdx.foldl (fun groups e => e.1.elim groups (enter · e.2 groups)) []

/-- The signatures of the statements of a document, and the statements of every signature. -/
structure Index where
  /-- The signature of every statement, in order. -/
  bySlot : List (Option Signature)
  /-- The numbers of the statements of every signature, gathered once. -/
  bySignature : List (Signature × List Nat)
  /-- They are those that have it. -/
  bySignature_eq : bySignature = grouped bySlot
  deriving DecidableEq, Repr

namespace Index

/-- The index of given signatures. -/
def ofSlots (bySlot : List (Option Signature)) : Index := ⟨bySlot, grouped bySlot, rfl⟩

/-- The index of the nodes of a document. -/
def build {N : Type} (signature : N → Option Signature) (nodes : List N) : Index :=
  ofSlots (nodes.map signature)

/-- The signature of a statement. -/
def signatureOf (x : Index) (index : Nat) : Option Signature := (x.bySlot[index]?).join

/-- The numbers of the statements with a signature, in increasing order. -/
def indices (x : Index) (s : Signature) : List Nat := (x.bySignature.lookup s).getD []

/-- The first statement with a signature that is not in use.  Statements for which `used` says
    nothing count as used. -/
def firstUnused (x : Index) (s : Signature) (used : List Bool) : Option Nat :=
  (x.indices s).find? fun index => used[index]? == some false

/-- The number of different signatures. -/
def size (x : Index) : Nat := x.bySignature.length

/-- Whether no statement has a signature. -/
def isEmpty (x : Index) : Bool := x.bySignature.isEmpty

end Index

end Signature

end TemplateMerge
