import TemplateMerge.Proofs.Merge.Written

/-! When a merge changes nothing.

    A merge gives its destination back exactly when the template wins no conflict and nothing is
    added, and that can be read off the log.  For where the template wins, the two sides differ, so
    another line is written; and an addition makes the text longer.

        log      identical   kept_destination   appended          the text is as it was
        log      identical   kept_template      appended          a line has changed
        log      identical   appended           added             the text is longer -/

namespace TemplateMerge

variable {N : Type} [NodeView N]

namespace Merger

variable {m : Merger N} {r : MarkerRegistry} {t d : Text} {td dd : Document N}

/-! ### Faces decide -/

theorem resolvePair_congr (x : Statement N) {s s' : Statement N}
    (h : m.format.faceOf s'.node = m.format.faceOf s.node) :
    m.resolvePair x s' = m.resolvePair x s := by
  obtain ⟨-, hnormalized, hoverride⟩ := Face.mk.inj h
  unfold resolvePair Resolver.resolve Resolver.preferredSide Resolver.mergeType
  rw [hnormalized, hoverride]

theorem taken?_congr {s s' : Statement N} (h : m.format.faceOf s'.node = m.format.faceOf s.node)
    (slot : Slot N) : m.taken? s' slot = m.taken? s slot := by
  cases slot with
  | paired x score => rw [taken?, taken?, resolvePair_congr x h]
  | _ => rfl

/-- Statements with the same face agree, whichever side is to win. -/
theorem resolvePair_of_same {x s : Statement N}
    (h : m.format.faceOf s.node = m.format.faceOf x.node) : m.resolvePair x s = .agreement := by
  obtain ⟨-, hnormalized, -⟩ := Face.mk.inj h
  exact if_pos hnormalized.symm

theorem taken?_of_same {x s : Statement N} (h : m.format.faceOf s.node = m.format.faceOf x.node)
    (score : Option Float) : m.taken? s (.paired x score) = none := by
  rw [taken?, resolvePair_of_same h]
  rfl

theorem kind_eq_keptTemplate {s : Statement N} {slot : Slot N} :
    (m.entryOf s slot).kind = .keptTemplate ↔ ∃ x, m.taken? s slot = some x := by
  cases slot with
  | paired x score =>
    unfold entryOf taken? resolvePair Resolver.resolve
    dsimp only
    split
    · simp [Resolution.agreement, Resolution.takesTemplate]
    · cases m.options.resolver.preferredSide x.node s.node <;>
        simp [Resolution.ofSide, Resolution.takesTemplate]
  | _ => simp [entryOf, taken?]

/-! ### Fixed points -/

theorem addedLines_eq_nil {template : Prepared N} {used : List Bool} {addTemplateOnly : Bool} :
    addedLines template used addTemplateOnly = [] ↔
      addedLog template used addTemplateOnly = [] := by
  cases addTemplateOnly with
  | false => exact iff_of_true (addedLines_false template used) (addedLog_false template used)
  | true => simp

namespace Written

variable {L : Linewise m.format r} {content : Text} {slots : List (Slot N)} {used : List Bool}

/-- Where nothing is taken from the template and nothing added, the text is the destination. -/
theorem content_eq (h : Written L td dd slots used content) (hd : m.format.parse d = .ok dd)
    (hnone : ∀ z ∈ (statements dd.nodes).zip slots, m.taken? z.1 z.2 = none)
    (hnew : addedLines (.make m.format td) used m.options.addTemplateOnly = []) : content = d := by
  refine Text.eq_of_splitLines ?_
  have hown : ∀ line, m.newLine (.make m.format td) (.make m.format dd)
      ((statements dd.nodes).zip slots) line = dd.line line := by
    intro line
    refine newLine_of_none ?_
    cases hat : m.takenAt? ((statements dd.nodes).zip slots) line with
    | none => rfl
    | some x =>
      obtain ⟨z, hz, -, htaken⟩ := takenAt?_eq_some hat
      rw [hnone z hz] at htaken
      cases htaken
  rw [h.spliced.lines, hnew, List.append_nil, Nat.sub_self, List.range'_zero, List.map_nil,
    List.append_nil, ← L.lines_eq hd]
  conv_rhs => rw [← dd.areLines.2, dd.lines_eq_map]
  exact congrArg Text.sealLines (List.map_congr_left fun line _ => hown line)

/-- Where the text is the destination, nothing was taken: both sides would read the same. -/
theorem taken?_eq_none (h : Written L td dd slots used d) (ht : m.format.parse t = .ok td)
    (hd : m.format.parse d = .ok dd) {z : Statement N × Slot N}
    (hz : z ∈ (statements dd.nodes).zip slots) : m.taken? z.1 z.2 = none := by
  obtain ⟨i, hi⟩ := List.mem_iff_getElem?.1 hz
  obtain ⟨hx, hslot⟩ := List.getElem?_zip_eq_some.1 hi
  cases htaken : m.taken? z.1 z.2 with
  | none => rfl
  | some y =>
    obtain ⟨score, hpaired, -⟩ := taken?_eq_some htaken
    obtain ⟨hfrozen, -⟩ := paired_of_kept h.kept hx (hpaired ▸ hslot)
    obtain ⟨-, hface⟩ := (h.echo ht hd hd hx hslot hx).2 hfrozen
    rw [writtenFace, htaken] at hface
    rw [hpaired, taken?_of_same hface score] at htaken
    cases htaken

end Written

/-- A merge changes nothing exactly when nothing is taken from the template and nothing added. -/
theorem content_eq_iff (L : Linewise m.format r) (ht : m.format.parse t = .ok td)
    (hd : m.format.parse d = .ok dd) :
    (Outcome.ofPieces (m.wholePieces td dd)).content = d ↔
      (∀ z ∈ (statements dd.nodes).zip (m.paired td dd).1, m.taken? z.1 z.2 = none) ∧
        addedLines (.make m.format td) (m.paired td dd).2 m.options.addTemplateOnly = [] := by
  have hwritten := written_merge L ht hd
  constructor
  · intro heq
    rw [heq] at hwritten
    have hlength := hwritten.length_nodes ht hd hd
    refine ⟨fun z hz => hwritten.taken?_eq_none ht hd hz, List.eq_nil_of_length_eq_zero ?_⟩
    exact Nat.left_eq_add.1 hlength
  · rintro ⟨hnone, hnew⟩
    exact hwritten.content_eq hd hnone hnew

theorem decisions_whole (m : Merger N) (td dd : Document N) :
    (Outcome.ofPieces (m.wholePieces td dd)).decisions =
      m.statementLog (statements dd.nodes) (m.paired td dd).1 ++
        addedLog (.make m.format td) (m.paired td dd).2 m.options.addTemplateOnly :=
  decisions_regionPieces (wholeRegion (.make m.format dd)) m.options.addTemplateOnly

/-- A merge changes nothing exactly when its log has no conflict that the template won and no
    addition. -/
theorem content_eq_iff_log (L : Linewise m.format r) (ht : m.format.parse t = .ok td)
    (hd : m.format.parse d = .ok dd) :
    (Outcome.ofPieces (m.wholePieces td dd)).content = d ↔
      ∀ e ∈ (Outcome.ofPieces (m.wholePieces td dd)).decisions,
        e.kind ≠ .keptTemplate ∧ e.kind ≠ .added := by
  refine (content_eq_iff L ht hd).trans ?_
  rw [decisions_whole, List.forall_mem_append]
  refine and_congr ?_ ?_
  · rw [statementLog, List.forall_mem_map]
    refine forall₂_congr fun z _ => ?_
    rw [ne_eq (m.entryOf z.1 z.2).kind .keptTemplate, kind_eq_keptTemplate,
      ← Option.isSome_iff_exists, Bool.not_eq_true, Option.isSome_eq_false_iff,
      Option.isNone_iff_eq_none]
    exact (and_iff_left (kind_entryOf_ne_added z.1 z.2)).symm
  · rw [addedLines_eq_nil]
    constructor
    · intro hnil e he
      rw [hnil] at he
      cases he
    · intro hnone
      refine List.eq_nil_iff_forall_not_mem.2 fun e he => ?_
      exact (hnone e he).2 (mem_addedLog he).2.1

end Merger

end TemplateMerge
