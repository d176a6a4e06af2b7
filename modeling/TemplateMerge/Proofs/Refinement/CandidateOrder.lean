import Mathlib.Data.List.Perm.Basic
import TemplateMerge.Format.KeyValue
import TemplateMerge.Proofs.Merge.Pairing
import TemplateMerge.Proofs.Refinement.GreedyMatching

/-! The order of candidates.

    Pairs are scored in the order in which the candidates come, but they are sorted before any of
    them is taken:

        candidates      t0 t1 · d0 d1                        t1 t0 · d1 d0
        scored          (t0 d0) (t1 d0) (t0 d1) (t1 d1)      (t1 d1) (t0 d1) (t1 d0) (t0 d0)
        sorted          (t0 d0) (t1 d0) (t0 d1) (t1 d1)      (t0 d0) (t1 d0) (t0 d1) (t1 d1)

    Candidates in another order give the same pairs in another order.  Two pairs that the sort does
    not tell apart are of the same two statements, as the statements of a document are told by their
    numbers, and so they are one and the same pair.  Hence the sorted lists are equal, scores that
    tie included, and so is what is taken of them. -/

namespace TemplateMerge

namespace Match

/-- Pairs that may stand on either side of each other are of the same two statements. -/
theorem sameStatements_of_precedes {a b : Match} (hab : a.precedes b = true)
    (hba : b.precedes a = true) :
    a.templateIndex = b.templateIndex ∧ a.destinationIndex = b.destinationIndex := by
  rw [precedes_iff] at hab hba
  omega

end Match

variable {N : Type}

/-- Every candidate is a statement of the given nodes. -/
def Candidates.Of (c : Candidates N) (nodes : List N) : Prop :=
  ∀ s ∈ c.statements, s ∈ TemplateMerge.statements nodes

/-- The same candidates of a document of the same length, in any order. -/
structure Candidates.Shuffled (c c' : Candidates N) : Prop where
  /-- The candidates are the same, each as often as before. -/
  statements : c.statements.Perm c'.statements
  /-- The document is as long as before. -/
  documentLength : c.documentLength = c'.documentLength

namespace Refiner

variable [NodeView N] {r : Refiner} {template template' destination destination' : Candidates N}

/-- Other orders of the candidates give the pairs in another order. -/
theorem eligible_shuffled (ht : template.Shuffled template')
    (hd : destination.Shuffled destination') :
    (r.eligible template destination).Perm (r.eligible template' destination') := by
  unfold eligible
  refine hd.statements.flatMap fun d _ => ?_
  split
  · rw [← ht.documentLength, ← hd.documentLength]
    exact (ht.statements.filter _).filterMap _
  · exact .refl []

/-- There is one pair of two statements, with one score. -/
theorem eq_of_sameStatements {templateNodes destinationNodes : List N}
    (ht : template.Of templateNodes) (hd : destination.Of destinationNodes) {m m' : Match}
    (hm : m ∈ r.eligible template destination) (hm' : m' ∈ r.eligible template destination)
    (hsame : m.templateIndex = m'.templateIndex ∧ m.destinationIndex = m'.destinationIndex) :
    m = m' := by
  obtain ⟨t, d, ⟨htmem, hdmem, -⟩, rfl⟩ := mem_eligible hm
  obtain ⟨t', d', ⟨htmem', hdmem', -⟩, rfl⟩ := mem_eligible hm'
  have htemplate : t = t' := eq_of_index_eq (ht t htmem) (ht t' htmem') hsame.1
  have hdestination : d = d' := eq_of_index_eq (hd d hdmem) (hd d' hdmem') hsame.2
  rw [htemplate, hdestination]

/-- The pairs are gone through in the same order. -/
theorem queue_shuffled {templateNodes destinationNodes : List N}
    (hof : template.Of templateNodes) (hof' : destination.Of destinationNodes)
    (ht : template.Shuffled template') (hd : destination.Shuffled destination') :
    r.queue template destination = r.queue template' destination' := by
  have hperm : (r.queue template destination).Perm (r.queue template' destination') :=
    (List.mergeSort_perm _ _).trans
      ((eligible_shuffled ht hd).trans (List.mergeSort_perm _ _).symm)
  refine hperm.eq_of_pairwise ?_ (r.pairwise_queue _ _) (r.pairwise_queue _ _)
  intro a b ha hb hab hba
  have hb : b ∈ r.queue template destination := hperm.mem_iff.2 hb
  exact eq_of_sameStatements hof hof' (mem_queue.1 ha) (mem_queue.1 hb)
    (Match.sameStatements_of_precedes hab hba)

/-- The pairs that are made do not depend on the order of the candidates on either side, entry for
    entry. -/
theorem refine_shuffled (r : Refiner) (templateNodes destinationNodes : List N)
    (template template' destination destination' : Candidates N)
    (hof : template.Of templateNodes) (hof' : destination.Of destinationNodes)
    (ht : template.Shuffled template') (hd : destination.Shuffled destination') :
    r.refine template' destination' = r.refine template destination :=
  congrArg (Match.takeGreedily [] []) (queue_shuffled hof hof' ht hd).symm

/-- All four pairs have the same score, and the candidates come backwards. -/
theorem refine_shuffled_reversed :
    let entry (key : String) : KeyValue.Node := ⟨.entry, key.toList, "port = 1".toList, 0⟩
    let nodes := [entry "a", entry "b"]
    let forth : Candidates KeyValue.Node := ⟨statements nodes, 2⟩
    let back : Candidates KeyValue.Node := ⟨(statements nodes).reverse, 2⟩
    let r : Refiner := ⟨0.5, ⟨1.0, 0.0, 0.0⟩, []⟩
    let numbers (m : Match) := (m.templateIndex, m.destinationIndex)
    forth.Of nodes ∧ forth.Shuffled back ∧
      (r.eligible back back).map numbers = [(1, 1), (0, 1), (1, 0), (0, 0)] ∧
      r.refine back back = r.refine forth forth ∧
      (r.refine back back).map numbers = [(0, 0), (1, 1)] := by
  intro entry nodes forth back r numbers
  have hof : forth.Of nodes := fun _ hs => hs
  have hback : forth.Shuffled back := ⟨(List.reverse_perm _).symm, rfl⟩
  have hsame : r.refine back back = r.refine forth forth :=
    refine_shuffled r nodes nodes forth back forth back hof hof hback hback
  have hforth := refine_of_sorted r forth forth (by decide +kernel)
  refine ⟨hof, hback, by decide +kernel, hsame, ?_⟩
  rw [hsame, hforth]
  decide +kernel

end Refiner

end TemplateMerge
