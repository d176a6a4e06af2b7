import Mathlib.Data.List.Basic
import Mathlib.Tactic.Common
import TemplateMerge.Proofs.Merge.Greedy

/-! The greedy matching.

    A refiner sorts the pairs that reach the threshold and goes through them once.  A pair is taken
    unless one of its statements is in a pair taken before, so whatever is passed over is blocked by
    something better:

        sorted     (t0 d2)  (t1 d2)  (t0 d0)  (t1 d0)
        taken         *                           *
        blocked               by d2    by t0

    What is taken is therefore in order, without repetitions, and leaves no pair of which both
    statements are free.  The order tells any two pairs apart that are not of the same two
    statements, so a pair that is passed over stands after the one that blocks it. -/

namespace TemplateMerge

namespace Match

/-! ### The order of pairs -/

theorem greedyOrder_eq_lt {a b : Match} :
    greedyOrder a b = .lt ↔ rank b.score < rank a.score ∨ rank b.score = rank a.score ∧
      (a.destinationIndex < b.destinationIndex ∨ a.destinationIndex = b.destinationIndex ∧
        a.templateIndex < b.templateIndex) := by
  simp only [greedyOrder, Ordering.then_eq_lt, Std.compare_eq_lt, Ordering.then_eq_eq,
    Std.compare_eq_iff_eq]
  omega

theorem precedes_iff {a b : Match} :
    a.precedes b = true ↔ rank b.score < rank a.score ∨ rank b.score = rank a.score ∧
      (a.destinationIndex < b.destinationIndex ∨ a.destinationIndex = b.destinationIndex ∧
        a.templateIndex ≤ b.templateIndex) := by
  rw [precedes, Ordering.isLE_iff_eq_lt_or_eq_eq, greedyOrder_eq_lt]
  simp only [greedyOrder, Ordering.then_eq_eq, Std.compare_eq_iff_eq]
  omega

theorem precedes_trans {a b c : Match} (hab : a.precedes b = true) (hbc : b.precedes c = true) :
    a.precedes c = true := by
  rw [precedes_iff] at *
  omega

theorem precedes_total (a b : Match) : (a.precedes b || b.precedes a) = true := by
  rw [Bool.or_eq_true, precedes_iff, precedes_iff]
  omega

theorem rank_le_of_precedes {a b : Match} (h : a.precedes b = true) :
    rank b.score ≤ rank a.score := by
  rw [precedes_iff] at h
  omega

theorem greedyOrder_eq_lt_of_precedes {a b : Match} (h : a.precedes b = true)
    (hother : ¬ (a.templateIndex = b.templateIndex ∧ a.destinationIndex = b.destinationIndex)) :
    greedyOrder a b = .lt := by
  rw [precedes_iff] at h
  rw [greedyOrder_eq_lt]
  omega

/-! ### Going through the pairs -/

theorem takeGreedily_sublist : ∀ (ms : List Match) (ts ds : List Nat),
    (takeGreedily ts ds ms).Sublist ms
  | [], _, _ => .slnil
  | m :: ms, ts, ds => by
    rw [takeGreedily]
    split
    · exact (takeGreedily_sublist ms ts ds).cons m
    · exact (takeGreedily_sublist ms _ _).cons_cons m

/-- A pair of the list is taken, or one of its statements was taken before, or it shares a statement
    with one that is taken and stands before it. -/
theorem takeGreedily_blocks {m : Match} : ∀ {ms : List Match} (ts ds : List Nat),
    ms.Pairwise (fun a b => a.precedes b = true) → m ∈ ms →
      m ∈ takeGreedily ts ds ms ∨ m.templateIndex ∈ ts ∨ m.destinationIndex ∈ ds ∨
        ∃ e ∈ takeGreedily ts ds ms, ¬ e.Apart m ∧ e.precedes m = true
  | x :: ms, ts, ds, hsorted, hm => by
    obtain ⟨hfirst, hrest⟩ := List.pairwise_cons.1 hsorted
    rw [takeGreedily]
    split
    · next hused =>
      rw [Bool.or_eq_true, List.contains_iff_mem, List.contains_iff_mem] at hused
      rcases List.mem_cons.1 hm with rfl | hm
      · exact .inr (hused.imp_right .inl)
      · exact takeGreedily_blocks ts ds hrest hm
    · rcases List.mem_cons.1 hm with rfl | hm
      · exact .inl List.mem_cons_self
      -- What keeps `m` out of the rest is either `x`, which stands before it, or was there already.
      · rcases takeGreedily_blocks (x.templateIndex :: ts) (x.destinationIndex :: ds) hrest hm with
          htaken | ht | hd | ⟨e, he, hblocks⟩
        · exact .inl (List.mem_cons_of_mem _ htaken)
        · rcases List.mem_cons.1 ht with ht | ht
          · exact .inr (.inr (.inr
              ⟨x, List.mem_cons_self, fun hapart => hapart.1 ht.symm, hfirst m hm⟩))
          · exact .inr (.inl ht)
        · rcases List.mem_cons.1 hd with hd | hd
          · exact .inr (.inr (.inr
              ⟨x, List.mem_cons_self, fun hapart => hapart.2 hd.symm, hfirst m hm⟩))
          · exact .inr (.inr (.inl hd))
        · exact .inr (.inr (.inr ⟨e, List.mem_cons_of_mem _ he, hblocks⟩))

end Match

namespace Refiner

open Match (greedyOrder)

variable {N : Type} [NodeView N]

theorem mem_eligible_iff {r : Refiner} {template destination : Candidates N} {m : Match} :
    m ∈ r.eligible template destination ↔ ∃ t d, r.Eligible template destination t d ∧
      m = r.score t template.documentLength d destination.documentLength := by
  refine ⟨mem_eligible, ?_⟩
  rintro ⟨t, d, ⟨ht, hd, htype, haccepts, hreaches⟩, rfl⟩
  refine List.mem_flatMap.2 ⟨d, hd, ?_⟩
  rw [if_pos haccepts]
  refine List.mem_filterMap.2 ⟨t, List.mem_filter.2 ⟨ht, by simpa using htype⟩, ?_⟩
  exact if_pos hreaches

/-- The pairs in the order in which the refiner goes through them. -/
def queue (r : Refiner) (template destination : Candidates N) : List Match :=
  (r.eligible template destination).mergeSort Match.precedes

theorem mem_queue {r : Refiner} {template destination : Candidates N} {m : Match} :
    m ∈ r.queue template destination ↔ m ∈ r.eligible template destination :=
  List.mem_mergeSort

theorem pairwise_queue (r : Refiner) (template destination : Candidates N) :
    (r.queue template destination).Pairwise (fun a b => a.precedes b = true) := by
  refine List.pairwise_mergeSort ?_ Match.precedes_total _
  exact fun _ _ _ => Match.precedes_trans

theorem refine_of_sorted (r : Refiner) (template destination : Candidates N)
    (h : (r.eligible template destination).Pairwise fun a b => a.precedes b = true) :
    r.refine template destination =
      Match.takeGreedily [] [] (r.eligible template destination) := by
  rw [refine, List.mergeSort_of_pairwise h]

/-- A pair that may be made is made, or shares a statement with one that is made and stands before
    it. -/
theorem refine_blocks {r : Refiner} {template destination : Candidates N} {m : Match}
    (hm : m ∈ r.eligible template destination) :
    m ∈ r.refine template destination ∨ ∃ e ∈ r.refine template destination,
      (e.templateIndex = m.templateIndex ∨ e.destinationIndex = m.destinationIndex) ∧
        e.precedes m = true := by
  rcases Match.takeGreedily_blocks [] [] (r.pairwise_queue template destination) (mem_queue.2 hm)
    with hmade | hnone | hnone | ⟨e, he, hshares, hbefore⟩
  · exact .inl hmade
  · simp at hnone
  · simp at hnone
  · refine .inr ⟨e, he, ?_, hbefore⟩
    rw [Match.Apart] at hshares
    omega

/-- The pairs that are made stand in strictly increasing order: they are part of what was sorted,
    and no two of them are of the same statements. -/
theorem ordered_refine (r : Refiner) (template destination : Candidates N) :
    (r.refine template destination).Pairwise fun a b => greedyOrder a b = .lt := by
  have hsorted : (r.refine template destination).Pairwise fun a b => a.precedes b = true :=
    (r.pairwise_queue template destination).sublist (Match.takeGreedily_sublist _ _ _)
  refine (hsorted.and (r.pairwise_refine template destination)).imp ?_
  rintro a b ⟨hprecedes, hapart⟩
  exact Match.greedyOrder_eq_lt_of_precedes hprecedes fun hsame => hapart.1 hsame.1

/-- What makes a list of pairs the greedy matching of two lists of candidates. -/
structure GreedyMatching (r : Refiner) (template destination : Candidates N) (ms : List Match) :
    Prop where
  /-- Every entry is a pair that may be made, with its own score. -/
  sound : ∀ m ∈ ms, ∃ t d, r.Eligible template destination t d ∧
    m = r.score t template.documentLength d destination.documentLength
  /-- No statement of the template is in two entries. -/
  templates : (ms.map (·.templateIndex)).Nodup
  /-- No statement of the destination is in two entries. -/
  destinations : (ms.map (·.destinationIndex)).Nodup
  /-- The entries are in strictly increasing order. -/
  ordered : ms.Pairwise fun a b => greedyOrder a b = .lt
  /-- A pair that may be made and is not shares a statement with an entry that precedes it. -/
  blocked : ∀ t d, r.Eligible template destination t d →
    r.score t template.documentLength d destination.documentLength ∉ ms →
      ∃ e ∈ ms, (e.templateIndex = t.index ∨ e.destinationIndex = d.index) ∧
        e.precedes (r.score t template.documentLength d destination.documentLength) = true
  /-- The entry stands strictly before the pair, unless an entry has both numbers of the pair. -/
  blockedBefore : ∀ t d, r.Eligible template destination t d →
    (∀ e ∈ ms, ¬ (e.templateIndex = t.index ∧ e.destinationIndex = d.index)) →
      ∃ e ∈ ms, (e.templateIndex = t.index ∨ e.destinationIndex = d.index) ∧
        greedyOrder e (r.score t template.documentLength d destination.documentLength) = .lt

/-- A refiner makes the greedy matching of its candidates. -/
theorem greedyMatching_refine (r : Refiner) (template destination : Candidates N) :
    r.GreedyMatching template destination (r.refine template destination) where
  sound _ := mem_refine
  templates := List.pairwise_map.2 ((r.pairwise_refine template destination).imp And.left)
  destinations := List.pairwise_map.2 ((r.pairwise_refine template destination).imp And.right)
  ordered := r.ordered_refine template destination
  blocked t d heligible hnot :=
    (refine_blocks (mem_eligible_iff.2 ⟨t, d, heligible, rfl⟩)).resolve_left hnot
  blockedBefore t d heligible hnone := by
    rcases refine_blocks (mem_eligible_iff.2 ⟨t, d, heligible, rfl⟩) with
      hmade | ⟨e, he, hshares, hbefore⟩
    · exact absurd ⟨rfl, rfl⟩ (hnone _ hmade)
    · exact ⟨e, he, hshares, Match.greedyOrder_eq_lt_of_precedes hbefore (hnone e he)⟩

end Refiner

end TemplateMerge
