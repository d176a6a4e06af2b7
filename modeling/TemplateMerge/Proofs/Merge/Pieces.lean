import TemplateMerge.Merge.Basic
import TemplateMerge.Proofs.Merge.Pairing

/-! The pieces of a merge and what they leave in the log.

    A region is written statement by statement, with the lines between, and every statement leaves
    one entry.  Lines between statements leave none; statements that are added leave one each.

        pieces      lines    statement 0    lines    statement 1    added
        entries       ·        entry 0        ·        entry 1      entry 2

    A merge of documents that were read does not fail, unless the batch hook is asked for. -/

namespace TemplateMerge

variable {N : Type}

namespace Merger

theorem decisions_gap (destination : Prepared N) (first last : Nat) :
    (gap destination first last).filterMap (·.decision) = [] := by
  unfold gap
  split <;> rfl

variable [NodeView N] {m : Merger N} {template destination : Prepared N}

/-! ### Merges that do not fail -/

/-- The pieces of a whole merge. -/
def wholePieces (m : Merger N) (template destination : Document N) : List Piece :=
  m.regionPieces (.make m.format template) (.make m.format destination)
    (wholeRegion (.make m.format destination)) m.options.addTemplateOnly

/-- How a whole merge pairs the statements of the destination, and what of the template is in use
    then. -/
def paired (m : Merger N) (td dd : Document N) : List (Slot N) × List Bool :=
  Pairing.pair m.format m.options.refiner (.make m.format td) (.make m.format dd)
    (statements dd.nodes)

/-- A whole merge keeps the books. -/
theorem kept_paired (m : Merger N) (td dd : Document N) :
    Pairing.Kept m.format (.make m.format td) (.make m.format dd) (statements dd.nodes)
      (m.paired td dd).1 (m.paired td dd).2 :=
  Pairing.kept_pair (numberedFrom_statements td.nodes) (numberedFrom_statements dd.nodes)

/-- Without the batch hook the end of a merge only compares the texts. -/
theorem finish_eq (hs : m.options.strategy ≠ .batch) (source : Text) (o : Outcome) :
    m.finish source o = .ok { o with changed := decide (o.content ≠ source) } := by
  unfold finish
  rw [if_neg hs]
  rfl

/-- The end of a merge tells whether the text has become another. -/
theorem changed_of_finish {source : Text} {o o' : Outcome} (h : m.finish source o = .ok o') :
    o'.changed = decide (o'.content ≠ source) := by
  unfold finish at h
  dsimp only at h
  generalize (if m.options.strategy = .batch then m.format.batchHook o else .ok o) = hooked at h
  cases hooked with
  | error e => cases h
  | ok hooked =>
    obtain rfl := Except.ok.inj h
    rfl

theorem changed_of_merge {t d : Text} {o : Outcome} (h : m.merge t d = .ok o) :
    o.changed = decide (o.content ≠ d) := by
  rw [merge, mergeParsed] at h
  cases ht : m.prepare .template (m.format.parse t) with
  | error e => rw [ht] at h; cases h
  | ok template =>
    cases hd : m.prepare .destination (m.format.parse d) with
    | error e => rw [ht, hd] at h; cases h
    | ok destination =>
      rw [ht, hd] at h
      exact changed_of_finish h

theorem merge_eq {t d : Text} {td dd : Document N} (ht : m.format.parse t = .ok td)
    (hd : m.format.parse d = .ok dd) (hs : m.options.strategy ≠ .batch) :
    m.merge t d = .ok { Outcome.ofPieces (m.wholePieces td dd) with
      changed := decide ((Outcome.ofPieces (m.wholePieces td dd)).content ≠ d) } := by
  rw [merge, ht, hd]
  exact finish_eq hs d _

theorem mergePartialPrepared_of_none {td dd : Document N} {request : Injection.Request N}
    {source : Text} (h : Injection.locate (statements dd.nodes) request = none) :
    m.mergePartialPrepared (.make m.format td) (.make m.format dd) request source =
      .error (.anchorNotFound request.anchor.describe) := by
  have hlocate : Injection.locate (Prepared.make m.format dd).list request = none := h
  rw [mergePartialPrepared, hlocate]

/-- At a place that is found, the template is applied, and the merge comes to its end. -/
theorem mergePartialPrepared_of_some {td dd : Document N} {request : Injection.Request N}
    {source : Text} {point : Injection.Point N}
    (h : Injection.locate (statements dd.nodes) request = some point) :
    m.mergePartialPrepared (.make m.format td) (.make m.format dd) request source =
      (m.applyAt (.make m.format td) (.make m.format dd) point).bind (m.finish source) := by
  have hlocate : Injection.locate (Prepared.make m.format dd).list request = some point := h
  rw [mergePartialPrepared, hlocate]

theorem mergePartial_eq {t d : Text} {td dd : Document N} (ht : m.format.parse t = .ok td)
    (hd : m.format.parse d = .ok dd) {request : Injection.Request N} {point : Injection.Point N}
    (hpoint : Injection.locate (statements dd.nodes) request = some point) :
    m.mergePartial t d request =
      (m.applyAt (.make m.format td) (.make m.format dd) point).bind (m.finish d) := by
  rw [mergePartial, ht, hd]
  exact mergePartialPrepared_of_some hpoint

theorem mergePartial_of_locate_none {t d : Text} {td dd : Document N}
    (ht : m.format.parse t = .ok td) (hd : m.format.parse d = .ok dd)
    {request : Injection.Request N}
    (hnone : Injection.locate (statements dd.nodes) request = none) :
    m.mergePartial t d request = .error (.anchorNotFound request.anchor.describe) := by
  rw [mergePartial, ht, hd]
  exact mergePartialPrepared_of_none hnone

/-! ### Entries -/

/-- The entry that a slot leaves in the log. -/
def entryOf (m : Merger N) (s : Statement N) (slot : Slot N) : Decision :=
  let entry (kind : DecisionKind) (source : DecisionSource) (template : Option Nat)
      (score : Option Float) : Decision :=
    ⟨kind, source, template, some s.index, some s.position.startLine, score⟩
  match slot with
  | .frozen => entry .freezeBlock .destination none none
  | .carried => entry .keptDestination .destination none none
  | .unmatched => entry .appended .destination none none
  | .paired t score =>
    entry (m.resolvePair t s).kind (m.resolvePair t s).source (some t.index) score

/-- The entry of a statement of the template that is added. -/
def addedEntry (t : Statement N) : Decision :=
  ⟨.added, .template, some t.index, none, some t.position.startLine, none⟩

theorem decision_pieceOf (s : Statement N) (slot : Slot N) :
    (m.pieceOf template destination s slot).decision = some (m.entryOf s slot) := by
  cases slot <;> rfl

theorem decisions_bodyPieces (lastLine : Nat) (zs : List (Statement N × Slot N)) :
    ∀ nextLine, (m.bodyPieces template destination lastLine nextLine zs).filterMap (·.decision) =
      zs.map fun z => m.entryOf z.1 z.2 := by
  induction zs with
  | nil => intro nextLine; exact decisions_gap destination nextLine lastLine
  | cons z zs ih =>
    obtain ⟨s, slot⟩ := z
    intro nextLine
    have hbefore : (if nextLine < s.position.startLine then
        gap destination nextLine (s.position.startLine - 1)
        else []).filterMap (·.decision) = [] := by
      split
      · exact decisions_gap _ _ _
      · rfl
    rw [bodyPieces, List.filterMap_append, hbefore, List.nil_append, List.filterMap_cons,
      decision_pieceOf, ih]
    rfl

/-- The statements of the template that are free. -/
def freeStatements (template : Prepared N) (used : List Bool) : List (Statement N) :=
  template.list.filter fun t => used[t.index]? == some false

theorem decisions_addedPieces (used : List Bool) :
    (addedPieces template used).filterMap (·.decision) =
      (freeStatements template used).map addedEntry := by
  rw [addedPieces, List.filterMap_map]
  exact congrFun List.filterMap_eq_map _

/-- The entries of statements with their slots. -/
def statementLog (m : Merger N) (region : List (Statement N)) (slots : List (Slot N)) :
    List Decision :=
  (region.zip slots).map fun z => m.entryOf z.1 z.2

/-- The entries of what is added. -/
def addedLog (template : Prepared N) (used : List Bool) (addTemplateOnly : Bool) : List Decision :=
  if addTemplateOnly then (freeStatements template used).map addedEntry else []

@[simp] theorem addedLog_true (template : Prepared N) (used : List Bool) :
    addedLog template used true = (freeStatements template used).map addedEntry := rfl

@[simp] theorem addedLog_false (template : Prepared N) (used : List Bool) :
    addedLog template used false = [] := rfl

/-- The log of a region: the entries of its statements, and then those of what is added. -/
theorem decisions_regionPieces (region : Region N) (addTemplateOnly : Bool) :
    let paired := Pairing.pair m.format m.options.refiner template destination region.list
    (m.regionPieces template destination region addTemplateOnly).filterMap (·.decision) =
      m.statementLog region.list paired.1 ++ addedLog template paired.2 addTemplateOnly := by
  intro paired
  rw [regionPieces, List.filterMap_append, decisions_bodyPieces]
  cases addTemplateOnly with
  | false => rfl
  | true => rw [if_pos rfl, addedLog_true, decisions_addedPieces]; rfl

end Merger

end TemplateMerge
