import TemplateMerge.Proofs.Format.KeyValue
import TemplateMerge.Proofs.Format.Outline
import TemplateMerge.Proofs.Merge.Aligned
import TemplateMerge.Proofs.Merge.Fixed

/-! Merging a document with itself.

    A document is aligned with itself, so the walk pairs every statement with itself, unless it is
    frozen, and every pair agrees.

        template        a   ▒   a   b
        destination     a   ▒   a   b
        paired          0   ·   2   3
        log             =   ▒   =   = -/

namespace TemplateMerge

variable {N : Type} [NodeView N]

/-- The entry that a statement leaves when its document is merged with itself. -/
def selfEntry (d : Document N) (x : Statement N) : Decision :=
  if (d.freezeSpanAt x.position).isSome then
    ⟨.freezeBlock, .destination, none, some x.index, some x.position.startLine, none⟩
  else ⟨.identical, .destination, some x.index, some x.index, some x.position.startLine, none⟩

namespace Pairing

variable {format : Format N} {d : Document N}

/-- Every statement that may be paired has a signature, and none is carried through. -/
def Signed (format : Format N) (d : Document N) : Prop :=
  ∀ x ∈ statements d.nodes, ¬ d.Frozen x.node →
    (format.signature x.node).isSome = true ∧ format.carriesThrough x.node = false

/-- A document is paired with itself, statement by statement, whatever the refiner. -/
theorem pair_self (hsigned : Signed format d) (refiner : Option Refiner) :
    (pair format refiner (.make format d) (.make format d) (statements d.nodes)).1 =
        (statements d.nodes).map (selfSlot (.make format d)) ∧
      ∀ j : Nat, (pair format refiner (.make format d) (.make format d)
        (statements d.nodes)).2[j]? ≠ some false := by
  have haligned : ∀ x ∈ statements d.nodes, Aligned format d d x x := fun x hx =>
    ⟨Iff.rfl, fun hfrozen => (hsigned x hx hfrozen).2, fun hfrozen => (hsigned x hx hfrozen).1,
      fun _ => rfl⟩
  exact pair_aligned (List.forall₂_same.2 haligned) (fun _ hx => hx) refiner

end Pairing

namespace Merger

variable {m : Merger N} {r : MarkerRegistry} {s : Text} {d : Document N}

theorem entryOf_selfSlot (x : Statement N) :
    m.entryOf x (Pairing.selfSlot (.make m.format d) x) = selfEntry d x := by
  unfold Pairing.selfSlot selfEntry
  cases hfrozen : (Prepared.make m.format d).isFrozen x with
  | true =>
    have hspan : (d.freezeSpanAt x.position).isSome = true := hfrozen
    rw [if_pos rfl, if_pos hspan]
    rfl
  | false =>
    have hspan : (d.freezeSpanAt x.position).isSome = false := hfrozen
    simp [hspan, entryOf, resolvePair, Resolver.resolve, Resolution.agreement]

theorem taken?_selfSlot (x : Statement N) :
    m.taken? x (Pairing.selfSlot (.make m.format d) x) = none := by
  unfold Pairing.selfSlot
  split
  · rfl
  · exact taken?_of_same rfl none

theorem signed_of_linewise (L : Linewise m.format r) (hd : m.format.parse s = .ok d) :
    Pairing.Signed m.format d := by
  intro x hx hfrozen
  obtain ⟨line, hline⟩ := L.lineStatement hd hx hfrozen
  exact ⟨hline.signed, hline.loose⟩

/-- A text merged with itself stays as it is, and the log says so of every statement. -/
theorem outcome_self (L : Linewise m.format r) (hd : m.format.parse s = .ok d) :
    (Outcome.ofPieces (m.wholePieces d d)).content = s ∧
      (Outcome.ofPieces (m.wholePieces d d)).decisions =
        (statements d.nodes).map (selfEntry d) := by
  obtain ⟨hslots, hnone⟩ : (m.paired d d).1 = _ ∧ ∀ j : Nat, (m.paired d d).2[j]? ≠ some false :=
    Pairing.pair_self (signed_of_linewise L hd) m.options.refiner
  have hfree : freeStatements (.make m.format d) (m.paired d d).2 = [] :=
    freeStatements_eq_nil hnone
  have hlog : addedLog (.make m.format d) (m.paired d d).2 m.options.addTemplateOnly = [] := by
    unfold addedLog
    rw [hfree]
    split <;> rfl
  refine ⟨(content_eq_iff L hd hd).2 ⟨fun z hz => ?_, addedLines_eq_nil.2 hlog⟩, ?_⟩
  · rw [hslots, ← List.map_prod_left_eq_zip] at hz
    obtain ⟨x, -, rfl⟩ := List.mem_map.1 hz
    exact taken?_selfSlot x
  · rw [decisions_whole, hlog, List.append_nil, hslots]
    exact statementLog_of_forall₂ (List.forall₂_same.2 fun x _ => entryOf_selfSlot x)

end Merger

/-- Whatever is merged with itself stays as it is, and the log has one entry for every statement:
    it is frozen, or it is identical with itself. -/
def Format.MergesWithItself (format : Format N) : Prop :=
  ∀ (options : MergeOptions) (s : Text) (d : Document N), options.strategy ≠ .batch →
    format.parse s = .ok d →
      ∃ o, Merger.merge ⟨format, options⟩ s s = .ok o ∧ o.content = s ∧ o.changed = false ∧
        o.decisions = (statements d.nodes).map (selfEntry d)

theorem Linewise.mergesWithItself {format : Format N} {r : MarkerRegistry}
    (L : Linewise format r) : format.MergesWithItself := by
  intro options s d hs hd
  let m : Merger N := ⟨format, options⟩
  have hd : m.format.parse s = .ok d := hd
  obtain ⟨hcontent, hdecisions⟩ := Merger.outcome_self L hd
  exact ⟨_, Merger.merge_eq hd hd hs, hcontent, decide_eq_false (not_not.2 hcontent), hdecisions⟩

/-- An outline, or a key/value file, merged with itself stays as it is under all options. -/
theorem merge_with_itself (markers : MarkerRegistry) (options : KeyValue.Options) :
    (Outline.format markers).MergesWithItself ∧
      (KeyValue.format options markers).MergesWithItself :=
  ⟨(Outline.linewise markers).mergesWithItself,
    (KeyValue.linewise options markers).mergesWithItself⟩

/-- A key that occurs three times, once in a region. -/
theorem merge_with_itself_repeated :
    let m : Merger (Typed KeyValue.Node) := ⟨KeyValue.format ⟨none, none⟩ .builtin,
      ⟨.everywhere .template, true, .none, some ⟨Refiner.standardThreshold, .standard, []⟩,
        .nodePair⟩⟩
    let s := "a=1\r\n# structmerge:freeze\na=2\n# structmerge:unfreeze\na=3".toList
    ∃ d, m.format.parse s = .ok d ∧ m.options.strategy ≠ .batch ∧
      ∃ o, m.merge s s = .ok o ∧ o.content = s ∧ o.changed = false ∧
        o.decisions = (statements d.nodes).map (selfEntry d) := by
  intro m s
  exact ⟨_, rfl, by decide,
    (merge_with_itself .builtin ⟨none, none⟩).2 m.options s _ (by decide) rfl⟩

end TemplateMerge
