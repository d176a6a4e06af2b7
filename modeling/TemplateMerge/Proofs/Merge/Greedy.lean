import Mathlib.Data.List.Basic
import Mathlib.Tactic.Common
import TemplateMerge.Refinement

/-! What a refiner pairs.

    Whatever the scores are, the pairs a refiner makes are pairs of candidates of one type that
    reach the threshold, and no statement is in two of them. -/

namespace TemplateMerge

namespace Match

/-- Two pairs that share no statement. -/
def Apart (a b : Match) : Prop :=
  a.templateIndex ≠ b.templateIndex ∧ a.destinationIndex ≠ b.destinationIndex

/-- What is taken was there, and was not taken before. -/
theorem mem_takeGreedily {m : Match} : ∀ {ms : List Match} {ts ds : List Nat},
    m ∈ takeGreedily ts ds ms → m ∈ ms ∧ m.templateIndex ∉ ts ∧ m.destinationIndex ∉ ds
  | [], _, _, h => by simp [takeGreedily] at h
  | x :: ms, ts, ds, h => by
    rw [takeGreedily] at h
    split at h
    · obtain ⟨hm, hrest⟩ := mem_takeGreedily h
      exact ⟨List.mem_cons_of_mem _ hm, hrest⟩
    · next hfree =>
      rw [Bool.or_eq_true, List.contains_iff_mem, List.contains_iff_mem, not_or] at hfree
      rcases List.mem_cons.1 h with rfl | h
      · exact ⟨List.mem_cons_self, hfree⟩
      · obtain ⟨hm, ht, hd⟩ := mem_takeGreedily h
        rw [List.mem_cons, not_or] at ht hd
        exact ⟨List.mem_cons_of_mem _ hm, ht.2, hd.2⟩

theorem pairwise_takeGreedily : ∀ (ms : List Match) (ts ds : List Nat),
    (takeGreedily ts ds ms).Pairwise Apart
  | [], _, _ => .nil
  | x :: ms, ts, ds => by
    rw [takeGreedily]
    split
    · exact pairwise_takeGreedily ms ts ds
    · refine List.pairwise_cons.2 ⟨fun m hm => ?_, pairwise_takeGreedily ms _ _⟩
      obtain ⟨-, ht, hd⟩ := mem_takeGreedily hm
      rw [List.mem_cons, not_or] at ht hd
      exact ⟨Ne.symm ht.1, Ne.symm hd.1⟩

end Match

namespace Refiner

variable {N : Type} [NodeView N] {r : Refiner} {template destination : Candidates N}

/-- A pair that a refiner may make of two statements. -/
def Eligible (r : Refiner) (template destination : Candidates N) (t d : Statement N) : Prop :=
  t ∈ template.statements ∧ d ∈ destination.statements ∧ t.nodeType = d.nodeType ∧
    r.acceptsType d.nodeType = true ∧
    r.threshold ≤ (r.score t template.documentLength d destination.documentLength).score

theorem mem_eligible {m : Match} (h : m ∈ r.eligible template destination) :
    ∃ t d, r.Eligible template destination t d ∧
      m = r.score t template.documentLength d destination.documentLength := by
  obtain ⟨d, hd, hm⟩ := List.mem_flatMap.1 h
  split at hm
  · next haccepts =>
    obtain ⟨t, ht, hscore⟩ := List.mem_filterMap.1 hm
    obtain ⟨htmem, htype⟩ := List.mem_filter.1 ht
    dsimp only at hscore
    split at hscore
    · next hle =>
      exact ⟨t, d, ⟨htmem, hd, by simpa using htype, haccepts, hle⟩, (Option.some.inj hscore).symm⟩
    · simp at hscore
  · simp at hm

/-- Every pair that is made is one that may be made, with its own score. -/
theorem mem_refine {m : Match} (h : m ∈ r.refine template destination) :
    ∃ t d, r.Eligible template destination t d ∧
      m = r.score t template.documentLength d destination.documentLength :=
  mem_eligible (List.mem_mergeSort.1 (Match.mem_takeGreedily h).1)

theorem pairwise_refine (r : Refiner) (template destination : Candidates N) :
    (r.refine template destination).Pairwise Match.Apart :=
  Match.pairwise_takeGreedily _ _ _

end Refiner

end TemplateMerge
