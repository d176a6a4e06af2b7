import TemplateMerge.Format.KeyValue
import TemplateMerge.Proofs.Merge.Conservative
import TemplateMerge.Proofs.Node.Layers

/-! What a policy decides.

    A policy is a preference together with the types that count as others.  It is asked once for
    every pair of statements that differ, with the merge type of the pair, and never for anything
    else: the pairs are made before, and a pair that agrees is left as it is.

        pair         0 ─ 2        1 ─ 0        ·           3 ─ 3
        contents     equal        differ       (frozen)    differ
        log          identical    (policy)     freeze      (policy)

    So the logs of two merges that differ in their policy only are the same entry by entry, but for
    which side won the conflicts. -/

namespace TemplateMerge

variable {N : Type} [NodeView N]

/-- The type by which a conflict is decided: what the template's node carries, else what the
    destination's node carries, else what a rule says of the template's type, else that type. -/
def MergeOptions.conflictType (o : MergeOptions) (template destination : N) : String :=
  (NodeView.mergeOverride template <|> NodeView.mergeOverride destination <|>
    o.typing.mergeTypeFor (NodeView.nodeType template)).getD (NodeView.nodeType template)

/-- The entry of a pair of nodes says which side was to win, if they differ. -/
structure Decision.Settles (format : Format N) (o : MergeOptions) (template destination : N)
    (e : Decision) : Prop where
  /-- The nodes agree, and only then the entry says so. -/
  agreed : (e.kind = .identical ∧ e.source = .destination) ↔
    format.normalized template = format.normalized destination
  /-- They differ, and the template is preferred. -/
  templateWins : format.normalized template ≠ format.normalized destination →
    o.preference.sideFor (o.conflictType template destination) = .template →
      e.kind = .keptTemplate ∧ e.source = .template
  /-- They differ, and the destination is preferred. -/
  destinationWins : format.normalized template ≠ format.normalized destination →
    o.preference.sideFor (o.conflictType template destination) = .destination →
      e.kind = .keptDestination ∧ e.source = .destination

/-- The kinds of entries that no policy has a part in. -/
def DecisionKind.settled : List DecisionKind := [.identical, .appended, .freezeBlock, .added]

/-- Two entries that differ at most in the side that won. -/
structure Decision.SamePair (e e' : Decision) : Prop where
  /-- They name the same statements, -/
  templateIndex : e'.templateIndex = e.templateIndex
  destinationIndex : e'.destinationIndex = e.destinationIndex
  /-- at the same line, -/
  line : e'.line = e.line
  /-- paired for the same reason. -/
  score : e'.score = e.score
  /-- They are the same unless both are about a conflict. -/
  settled : e.kind ∈ DecisionKind.settled ∨ e'.kind ∈ DecisionKind.settled → e' = e

theorem Decision.SamePair.refl (e : Decision) : e.SamePair e := ⟨rfl, rfl, rfl, rfl, fun _ => rfl⟩

namespace Merger

variable {m : Merger N} {t d : Text} {td dd : Document N}

/-! ### One pair -/

theorem mergeType_eq_conflictType (o : MergeOptions) (template destination : N) :
    o.resolver.mergeType template destination = o.conflictType template destination := by
  unfold Resolver.mergeType MergeOptions.conflictType
  cases NodeView.mergeOverride template with
  | some type => rfl
  | none =>
    cases NodeView.mergeOverride destination with
    | some type => rfl
    | none => rfl

theorem preferredSide_eq (o : MergeOptions) (template destination : N) :
    o.resolver.preferredSide template destination =
      o.preference.sideFor (o.conflictType template destination) := by
  rw [← mergeType_eq_conflictType]
  rfl

/-- The entry of a pair settles it. -/
theorem settles_entryOf (s x : Statement N) (score : Option Float) :
    (m.entryOf s (.paired x score)).Settles m.format m.options x.node s.node := by
  have hkind : (m.entryOf s (.paired x score)).kind = (m.resolvePair x s).kind := rfl
  have hsource : (m.entryOf s (.paired x score)).source = (m.resolvePair x s).source := rfl
  have hside := preferredSide_eq m.options x.node s.node
  by_cases hsame : m.format.normalized x.node = m.format.normalized s.node
  · have hagree : m.resolvePair x s = .agreement := if_pos hsame
    rw [hagree] at hkind hsource
    exact ⟨iff_of_true ⟨hkind, hsource⟩ hsame, fun h => absurd hsame h, fun h => absurd hsame h⟩
  · have hconflict : m.resolvePair x s =
        .ofSide (m.options.preference.sideFor (m.options.conflictType x.node s.node)) := by
      rw [← hside]
      exact if_neg hsame
    rw [hconflict] at hkind hsource
    refine ⟨iff_of_false (fun h => ?_) hsame, fun _ hwon => ?_, fun _ hwon => ?_⟩
    · rw [hkind] at h
      cases hwon : m.options.preference.sideFor (m.options.conflictType x.node s.node) <;>
        rw [hwon] at h <;> cases h.1
    · rw [hwon] at hkind hsource
      exact ⟨hkind, hsource⟩
    · rw [hwon] at hkind hsource
      exact ⟨hkind, hsource⟩

/-- A pair whose entry is of a settled kind agrees. -/
theorem normalized_eq_of_settled {s x : Statement N} {score : Option Float}
    (h : (m.entryOf s (.paired x score)).kind ∈ DecisionKind.settled) :
    m.format.normalized x.node = m.format.normalized s.node := by
  by_contra hdiffer
  have hentry := settles_entryOf (m := m) s x score
  cases hwon : m.options.preference.sideFor (m.options.conflictType x.node s.node) with
  | template =>
    rw [(hentry.templateWins hdiffer hwon).1] at h
    exact absurd h (by decide)
  | destination =>
    rw [(hentry.destinationWins hdiffer hwon).1] at h
    exact absurd h (by decide)

theorem samePair_entryOf (preference : Preference) (typing : NodeTyping) (s : Statement N)
    (slot : Slot N) :
    (m.entryOf s slot).SamePair ((m.withPolicy preference typing).entryOf s slot) := by
  cases slot with
  | paired x score =>
    refine ⟨rfl, rfl, rfl, rfl, fun hsettled => ?_⟩
    have hsame : m.format.normalized x.node = m.format.normalized s.node :=
      hsettled.elim normalized_eq_of_settled
        (normalized_eq_of_settled (m := m.withPolicy preference typing))
    -- the two mergers find the same agreement
    have hpair : m.resolvePair x s = .agreement := if_pos hsame
    have hpair' : (m.withPolicy preference typing).resolvePair x s = .agreement := if_pos hsame
    simp only [entryOf, hpair, hpair']
  | _ => exact .refl _

/-! ### Logs -/

theorem settles_of_mem_log {e : Decision} {i j : Nat}
    (he : e ∈ (Outcome.ofPieces (m.wholePieces td dd)).decisions)
    (hj : e.templateIndex = some j) (hi : e.destinationIndex = some i) :
    ∃ n x, td.nodes[j]? = some n ∧ dd.nodes[i]? = some x ∧ e.Settles m.format m.options n x := by
  rw [decisions_whole, List.mem_append] at he
  rcases he with he | he
  · obtain ⟨⟨s, slot⟩, hz, rfl⟩ := List.mem_map.1 he
    obtain ⟨hs, hslot⟩ := List.of_mem_zip hz
    cases slot with
    | paired x score =>
      obtain rfl : x.index = j := Option.some.inj hj
      obtain rfl : s.index = i := Option.some.inj hi
      have hx := (held_of_kept (m.kept_paired td dd) hslot).1
      exact ⟨x.node, s.node, getElem?_nodes hx, getElem?_nodes hs, settles_entryOf s x score⟩
    | _ => cases hj
  · rw [(mem_addedLog he).2.2] at hi
    cases hi

/-- The log under another policy, entry by entry. -/
theorem samePairs_log (preference : Preference) (typing : NodeTyping) :
    List.Forall₂ Decision.SamePair (Outcome.ofPieces (m.wholePieces td dd)).decisions
      (Outcome.ofPieces ((m.withPolicy preference typing).wholePieces td dd)).decisions := by
  rw [decisions_whole, decisions_whole]
  -- the policy has no part in the pairing
  show List.Forall₂ _ (m.statementLog (statements dd.nodes) (m.paired td dd).1 ++ _)
    ((m.withPolicy preference typing).statementLog (statements dd.nodes) (m.paired td dd).1 ++ _)
  refine List.rel_append ?_ (List.forall₂_same.2 fun e _ => .refl e)
  unfold statementLog
  rw [List.forall₂_map_left_iff, List.forall₂_map_right_iff]
  exact List.forall₂_same.2 fun z _ => samePair_entryOf preference typing z.1 z.2

end Merger

/-- Every conflict goes to the side that the policy prefers, and no policy changes anything else.
    What a node carries is decided by its outermost mark. -/
theorem conflicts_follow_policy (format : Format N) (options : MergeOptions) {t d : Text}
    {td dd : Document N} (hs : options.strategy = .nodePair) (ht : format.parse t = .ok td)
    (hd : format.parse d = .ok dd) :
    (∃ o, Merger.merge ⟨format, options⟩ t d = .ok o ∧
      (∀ e ∈ o.decisions, ∀ j i, e.templateIndex = some j → e.destinationIndex = some i →
        ∃ n x, td.nodes[j]? = some n ∧ dd.nodes[i]? = some x ∧ e.Settles format options n x) ∧
      ∀ (preference : Preference) (typing : NodeTyping), ∃ o',
        Merger.merge ⟨format, options.withPolicy preference typing⟩ t d = .ok o' ∧
          List.Forall₂ Decision.SamePair o.decisions o'.decisions) ∧
    ∀ (k : Nat) (n : Layered N k),
      NodeView.mergeOverride n = (n.marks.findSome? id <|> NodeView.mergeOverride n.base) := by
  let m : Merger N := ⟨format, options⟩
  have hbatch : m.options.strategy ≠ .batch := by rw [show m.options.strategy = _ from hs]; decide
  refine ⟨⟨_, Merger.merge_eq (m := m) ht hd hbatch, ?_, fun preference typing => ?_⟩,
    fun k n => n.mergeOverride_eq⟩
  · intro e he j i hj hi
    exact Merger.settles_of_mem_log (m := m) he hj hi
  · have hbatch' : (m.withPolicy preference typing).options.strategy ≠ .batch := hbatch
    exact ⟨_, Merger.merge_eq (m := m.withPolicy preference typing) ht hd hbatch',
      Merger.samePairs_log (m := m) preference typing⟩

/-- Two conflicts, of which a mark decides the first, an agreement and a statement that stands
    alone, under two policies. -/
theorem conflicts_follow_policy_marked :
    let format := KeyValue.format ⟨some ("s.".toList, "secret"), none⟩ .builtin
    let options : MergeOptions := { MergeOptions.standard with
      preference := .perType .destination (.ofList [("secret", .template)]) }
    let t := "s.a=1\nb=2\nc=3".toList
    let d := "s.a=9\nb=8\nc=3\ne=0".toList
    ∃ td dd o o', options.strategy = .nodePair ∧
      format.parse t = .ok td ∧ format.parse d = .ok dd ∧
      Merger.merge ⟨format, options⟩ t d = .ok o ∧
      Merger.merge ⟨format, options.withPolicy (.everywhere .template) .none⟩ t d = .ok o' ∧
      List.Forall₂ Decision.SamePair o.decisions o'.decisions ∧
      o.decisions.map (·.kind) = [.keptTemplate, .keptDestination, .identical, .appended] ∧
      o'.decisions.map (·.kind) = [.keptTemplate, .keptTemplate, .identical, .appended] := by
  intro format options t d
  have hkinds : (Merger.merge ⟨format, options⟩ t d).toOption.map (·.decisions.map (·.kind)) =
      some [.keptTemplate, .keptDestination, .identical, .appended] := by decide +kernel
  have hkinds' : (Merger.merge ⟨format, options.withPolicy (.everywhere .template) .none⟩ t
      d).toOption.map (·.decisions.map (·.kind)) =
        some [.keptTemplate, .keptTemplate, .identical, .appended] := by decide +kernel
  obtain ⟨td, ht⟩ : ∃ td, format.parse t = .ok td := ⟨_, rfl⟩
  obtain ⟨dd, hd⟩ : ∃ dd, format.parse d = .ok dd := ⟨_, rfl⟩
  obtain ⟨⟨o, ho, -, hpolicy⟩, -⟩ := conflicts_follow_policy format options rfl ht hd
  obtain ⟨o', ho', hsame⟩ := hpolicy (.everywhere .template) .none
  rw [ho] at hkinds
  rw [ho'] at hkinds'
  exact ⟨td, dd, o, o', rfl, ht, hd, ho, ho', hsame, Option.some.inj hkinds,
    Option.some.inj hkinds'⟩

end TemplateMerge
