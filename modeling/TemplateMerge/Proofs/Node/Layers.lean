import TemplateMerge.Node.Basic

/-! Nodes under layers of marks.

    A node may be marked again and again, and every layer either sets a merge type or leaves it
    open.  Seen from outside, the first layer that sets one counts; where none does, it is what the
    node carries itself.

        outside      ·        heading        ·        table         node
                   (open)    ▲ counts      (open)    (covered)    (covered) -/

namespace TemplateMerge

/-- Nodes under a number of layers. -/
def Layered (N : Type) : Nat → Type
  | 0 => N
  | k + 1 => Typed (Layered N k)

namespace Layered

variable {N : Type}

/-- The node under all layers. -/
def base : {k : Nat} → Layered N k → N
  | 0, n => n
  | _ + 1, ⟨inner, _⟩ => base inner

/-- What the layers set, from the outermost to the innermost. -/
def marks : {k : Nat} → Layered N k → List (Option String)
  | 0, _ => []
  | _ + 1, ⟨inner, mark⟩ => mark :: marks inner

variable [NodeView N]

instance nodeView : (k : Nat) → NodeView (Layered N k)
  | 0 => inferInstanceAs (NodeView N)
  | k + 1 =>
    have := nodeView k
    inferInstanceAs (NodeView (Typed (Layered N k)))

/-- The outermost layer that sets a merge type counts, else what the node carries. -/
theorem mergeOverride_eq : ∀ {k : Nat} (n : Layered N k),
    NodeView.mergeOverride n = (n.marks.findSome? id <|> NodeView.mergeOverride n.base)
  | 0, _ => rfl
  | _ + 1, ⟨inner, none⟩ => mergeOverride_eq inner
  | _ + 1, ⟨_, some _⟩ => rfl

end Layered

end TemplateMerge
