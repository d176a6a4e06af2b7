import TemplateMerge.Document
import TemplateMerge.Signature
import TemplateMerge.Merge.Outcome

/-! Formats: what a merge must know of a kind of documents.

    A format reads texts into documents, tells which nodes correspond, and may take part in the
    resolution by hooks.  A format that offers no hook fails where a strategy asks for it. -/

namespace TemplateMerge

/-- A format with nodes of type `N`. -/
structure Format (N : Type) [NodeView N] where
  /-- Reads a text. -/
  parse : Text → Except ParseError (Document N)
  /-- What makes a node the same as another; a node without signature is like no other. -/
  signature : N → Option Signature
  /-- Whether a node is carried through whatever the template says. -/
  carriesThrough : N → Bool := fun _ => false
  /-- What of a node's text counts when two nodes are compared. -/
  normalized : N → Text := fun n => Text.trimEnd (NodeView.text n)
  /-- Works on an assembled result. -/
  batchHook : Outcome → Except MergeError Outcome := fun _ => .error (.hookMissing .batch)
  /-- Works on the merge of a replaced range, which ends with the given statement. -/
  boundaryHook : Statement N → Outcome → Except MergeError Outcome :=
    fun _ _ => .error (.hookMissing .boundary)

end TemplateMerge
