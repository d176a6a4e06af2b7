import Mathlib.Tactic.Common
import TemplateMerge.Format.KeyValue
import TemplateMerge.Proofs.Refinement.Doubles
import TemplateMerge.Proofs.Refinement.GreedyMatching

/-! Raising the threshold.

    Pairs are sorted by their scores, so the pairs that reach a higher threshold are a beginning of
    those that reach a lower one, and whether a pair is taken depends on what stands before it only:

        threshold p     taken  passed  taken  taken | passed  taken
        threshold q     taken  passed  taken  taken |

    For the cut to be the same on both sides, sorting must not mix up pairs that the order does not
    tell apart: the sorted list of some of the pairs is the part of the sorted list with just those
    pairs (`filter_mergeSort`), for the sort is stable. -/

namespace TemplateMerge

namespace Refiner

/-! ### Sorting a part of a list -/

section Sorting

variable {α : Type} {le : α → α → Bool}

theorem filter_append_cut {p : α → Bool} {u v : List α} (hu : ∀ x ∈ u, p x = true)
    (hv : ∀ x ∈ v, p x = false) : (u ++ v).filter p = u := by
  rw [List.filter_append, List.filter_eq_self.2 hu,
    List.filter_eq_nil_iff.2 fun x hx => by simp [hv x hx], List.append_nil]

/-- Where a list is cut between what satisfies a condition and what does not, there is one cut. -/
theorem append_cut_inj {p : α → Bool} {u v u' v' : List α} (h : u ++ v = u' ++ v')
    (hu : ∀ x ∈ u, p x = true) (hu' : ∀ x ∈ u', p x = true)
    (hv : ∀ x ∈ v, p x = false) (hv' : ∀ x ∈ v', p x = false) : u = u' ∧ v = v' := by
  have hsame : u = u' := by rw [← filter_append_cut hu hv, h, filter_append_cut hu' hv']
  exact ⟨hsame, List.append_cancel_left (hsame ▸ h)⟩

variable (trans : ∀ a b c, le a b = true → le b c = true → le a c = true)
  (total : ∀ a b, (le a b || le b a) = true)

include trans total in
/-- Sorting puts an element between what it may not stand before and what it may. -/
theorem mergeSort_cons_cut (a : α) (l : List α) : ∃ front back : List α,
    (a :: l).mergeSort le = front ++ a :: back ∧ l.mergeSort le = front ++ back ∧
      (∀ b ∈ front, (!le a b) = true) ∧ ∀ b ∈ back, (!le a b) = false := by
  obtain ⟨front, back, hcons, hsort, hfront⟩ := List.mergeSort_cons trans total a l
  refine ⟨front, back, hcons, hsort, hfront, fun b hb => ?_⟩
  have hsorted := List.pairwise_mergeSort trans total (a :: l)
  rw [hcons] at hsorted
  rw [(List.pairwise_cons.1 (List.pairwise_append.1 hsorted).2.1).1 b hb, Bool.not_true]

include trans total in
theorem filter_mergeSort (p : α → Bool) : ∀ l : List α,
    (l.mergeSort le).filter p = (l.filter p).mergeSort le
  | [] => by rw [List.mergeSort_nil, List.filter_nil, List.mergeSort_nil]
  | a :: l => by
    obtain ⟨front, back, hcons, hsort, hfront, hback⟩ := mergeSort_cons_cut trans total a l
    have hih := filter_mergeSort p l
    rw [hsort, List.filter_append] at hih
    rw [hcons, List.filter_append, List.filter_cons, List.filter_cons]
    split
    · -- Both sorts cut at `a` what is left of the others, so they cut it at the same place.
      obtain ⟨front', back', hcons', hsort', hfront', hback'⟩ :=
        mergeSort_cons_cut trans total a (l.filter p)
      obtain ⟨hf, hb⟩ := append_cut_inj (hih.trans hsort')
        (fun b hb => hfront b (List.mem_of_mem_filter hb)) hfront'
        (fun b hb => hback b (List.mem_of_mem_filter hb)) hback'
      rw [hcons', hf, hb]
    · exact hih

end Sorting

/-! ### Going through a beginning of the pairs -/

section Beginning

variable {p : Match → Bool} {m : Match} {ms : List Match}

theorem not_of_not_head (h : (m :: ms).Pairwise fun a b => p b = true → p a = true)
    (hm : ¬ p m = true) : ∀ x ∈ m :: ms, ¬ p x = true := fun x hx hp => by
  rcases List.mem_cons.1 hx with rfl | hx
  · exact hm hp
  · exact hm ((List.pairwise_cons.1 h).1 x hx hp)

/-- What satisfies a condition that does not come back once it is lost is a beginning. -/
theorem filter_isPrefix : ∀ {ms : List Match}, ms.Pairwise (fun a b => p b = true → p a = true) →
    ms.filter p <+: ms
  | [], _ => List.nil_prefix
  | m :: ms, h => by
    by_cases hm : p m = true
    · rw [List.filter_cons_of_pos hm]
      exact (List.prefix_cons_inj m).2 (filter_isPrefix h.tail)
    · rw [List.filter_eq_nil_iff.2 (not_of_not_head h hm)]
      exact List.nil_prefix

/-- What is taken of a beginning is a beginning of what is taken: whether a pair is taken is settled
    by the pairs before it. -/
theorem takeGreedily_filter : ∀ {ms : List Match} (ts ds : List Nat),
    ms.Pairwise (fun a b => p b = true → p a = true) →
      Match.takeGreedily ts ds (ms.filter p) = (Match.takeGreedily ts ds ms).filter p
  | [], _, _, _ => rfl
  | m :: ms, ts, ds, h => by
    by_cases hm : p m = true
    · rw [List.filter_cons_of_pos hm, Match.takeGreedily, Match.takeGreedily]
      split
      · exact takeGreedily_filter ts ds h.tail
      · rw [List.filter_cons_of_pos hm]
        exact congrArg (m :: ·) (takeGreedily_filter _ _ h.tail)
    · have hnone := not_of_not_head h hm
      rw [List.filter_eq_nil_iff.2 hnone, Match.takeGreedily, eq_comm, List.filter_eq_nil_iff]
      exact fun x hx => hnone x (Match.mem_takeGreedily hx).1

end Beginning

/-! ### Two thresholds -/

variable {N : Type} [NodeView N] {r r' : Refiner} {template destination : Candidates N}

/-- What reaches the higher threshold is the part of what reaches the lower one that also reaches
    the higher. -/
theorem eligible_raised (hweights : r'.weights = r.weights) (htypes : r'.nodeTypes = r.nodeTypes)
    (hthreshold : r.threshold ≤ r'.threshold) :
    r'.eligible template destination =
      (r.eligible template destination).filter fun m => r'.threshold ≤ m.score := by
  have hscore : r'.score (N := N) = r.score := by
    unfold score
    rw [hweights]
  have haccepts : r'.acceptsType = r.acceptsType := by
    unfold acceptsType
    rw [htypes]
  rw [eligible, eligible, hscore, haccepts, List.filter_flatMap]
  refine congrArg (List.flatMap · _) (funext fun d => ?_)
  split
  · rw [List.filter_filterMap]
    refine congrArg (List.filterMap · _) (funext fun t => ?_)
    dsimp only
    by_cases hhigh : r'.threshold ≤ (r.score t template.documentLength d
        destination.documentLength).score
    · rw [if_pos hhigh, if_pos (Double.le_trans hthreshold hhigh), Option.filter_some]
      exact (if_pos (decide_eq_true hhigh)).symm
    · rw [if_neg hhigh]
      split
      · rw [Option.filter_some]
        exact (if_neg fun h => hhigh (of_decide_eq_true h)).symm
      · rfl
  · rfl

theorem threshold_le_of_mem_queue {m : Match} (hm : m ∈ r.queue template destination) :
    r.threshold ≤ m.score := by
  obtain ⟨t, d, ⟨-, -, -, -, hreaches⟩, rfl⟩ := mem_eligible (mem_queue.1 hm)
  exact hreaches

/-- Along the pairs that reach a threshold, another one is not reached again once it is missed. -/
theorem pairwise_queue_reaches (q : Float) : (r.queue template destination).Pairwise fun a b =>
    decide (q ≤ b.score) = true → decide (q ≤ a.score) = true := by
  refine (r.pairwise_queue template destination).imp_of_mem fun {a b} ha _ hab hreaches => ?_
  exact decide_eq_true (Double.le_of_rank_le (of_decide_eq_true hreaches)
    (threshold_le_of_mem_queue ha) (Match.rank_le_of_precedes hab))

theorem queue_raised (hweights : r'.weights = r.weights) (htypes : r'.nodeTypes = r.nodeTypes)
    (hthreshold : r.threshold ≤ r'.threshold) :
    r'.queue template destination =
      (r.queue template destination).filter fun m => r'.threshold ≤ m.score := by
  rw [queue, queue, eligible_raised hweights htypes hthreshold]
  refine (filter_mergeSort ?_ Match.precedes_total _ _).symm
  exact fun _ _ _ => Match.precedes_trans

/-- Raising the threshold cuts off the end of the pairs that are made, and changes nothing else:
    what is left are the pairs that reach the higher threshold, and they are a beginning. -/
theorem refine_raised (r r' : Refiner) (hweights : r'.weights = r.weights)
    (htypes : r'.nodeTypes = r.nodeTypes) (hthreshold : r.threshold ≤ r'.threshold)
    (template destination : Candidates N) :
    r'.refine template destination =
        (r.refine template destination).filter (fun m => r'.threshold ≤ m.score) ∧
      r'.refine template destination <+: r.refine template destination := by
  have hreaches : (r.queue template destination).Pairwise fun a b =>
      decide (r'.threshold ≤ b.score) = true → decide (r'.threshold ≤ a.score) = true :=
    pairwise_queue_reaches r'.threshold
  have hpart : r'.refine template destination =
      (r.refine template destination).filter fun m => r'.threshold ≤ m.score := by
    change Match.takeGreedily [] [] (r'.queue template destination) = _
    rw [queue_raised hweights htypes hthreshold]
    exact takeGreedily_filter [] [] hreaches
  refine ⟨hpart, ?_⟩
  rw [hpart]
  exact filter_isPrefix (hreaches.sublist (Match.takeGreedily_sublist _ _ _))

/-- Of four pairs the first blocks the two next; the last is taken, but only if it reaches the
    threshold. -/
theorem refine_raised_past_last :
    let entry (key text : String) : KeyValue.Node := ⟨.entry, key.toList, text.toList, 0⟩
    let template : Candidates KeyValue.Node :=
      ⟨statements [entry "port" "port = 8080", entry "host" "host = 8081"], 2⟩
    let destination : Candidates KeyValue.Node :=
      ⟨statements [entry "port" "port = 8081", entry "port" "port = 2520"], 2⟩
    let low : Refiner := ⟨0.5, .standard, []⟩
    let high : Refiner := ⟨0.65, .standard, []⟩
    let numbers (m : Match) := (m.templateIndex, m.destinationIndex)
    low.threshold ≤ high.threshold ∧
      (low.eligible template destination).map numbers = [(0, 0), (1, 0), (0, 1), (1, 1)] ∧
      (low.refine template destination).map numbers = [(0, 0), (1, 1)] ∧
      (high.refine template destination).map numbers = [(0, 0)] ∧
      high.refine template destination =
        (low.refine template destination).filter (fun m => high.threshold ≤ m.score) ∧
      high.refine template destination <+: low.refine template destination := by
  intro entry template destination low high numbers
  have hthreshold : low.threshold ≤ high.threshold := by decide
  have hlow := refine_of_sorted low template destination (by decide +kernel)
  have hhigh := refine_of_sorted high template destination (by decide +kernel)
  refine ⟨hthreshold, by decide +kernel, ?_, ?_,
    refine_raised low high rfl rfl hthreshold template destination⟩
  · rw [hlow]
    decide +kernel
  · rw [hhigh]
    decide +kernel

end Refiner

end TemplateMerge
