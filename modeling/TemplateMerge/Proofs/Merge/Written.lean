import TemplateMerge.Proofs.Merge.Appended

/-! What was written, statement by statement.

    A merged text has a statement for every statement of the destination, with the face of what was
    written for it, and one for every statement that was added.  It stands where the destination's
    stood, or on the line that was added, and is frozen just when the destination's was.

        template        a   b   c                     a wins, c is added
        destination     a'  d   ▒▒▒           ──▶   a   d   ▒▒▒   c
        written         a   d   ▒▒▒   c -/

namespace TemplateMerge

variable {N : Type} [NodeView N]

namespace Merger

variable {m : Merger N} {r : MarkerRegistry} {t d content : Text} {td dd d' : Document N}
  {slots : List (Slot N)} {used : List Bool}

/-- The face of what is written for a statement. -/
def writtenFace (m : Merger N) (x : Statement N) (slot : Slot N) : Face :=
  match m.taken? x slot with
  | some t => m.format.faceOf t.node
  | none => m.format.faceOf x.node

/-- A merged text with the slots that it was written by. -/
structure Written (L : Linewise m.format r) (td dd : Document N) (slots : List (Slot N))
    (used : List Bool) (content : Text) : Prop where
  /-- The books of the pairing are kept. -/
  kept : Pairing.Kept m.format (.make m.format td) (.make m.format dd) (statements dd.nodes) slots
    used
  /-- The text is made of the destination. -/
  spliced : Spliced L dd dd.lineCount
    (m.newLine (.make m.format td) (.make m.format dd) ((statements dd.nodes).zip slots))
    (addedLines (.make m.format td) used m.options.addTemplateOnly) content

theorem written_merge (L : Linewise m.format r) (ht : m.format.parse t = .ok td)
    (hd : m.format.parse d = .ok dd) :
    Written L td dd (m.paired td dd).1 (m.paired td dd).2
      (Outcome.ofPieces (m.wholePieces td dd)).content :=
  ⟨m.kept_paired td dd, spliced_merge L ht hd⟩

namespace Written

variable {L : Linewise m.format r}

theorem newLine_statement (h : Written L td dd slots used content) (hd : m.format.parse d = .ok dd)
    {i line : Nat} {x : Statement N} {slot : Slot N} (hx : (statements dd.nodes)[i]? = some x)
    (hslot : slots[i]? = some slot) (hline : L.LineStatement dd x line) :
    m.takenAt? ((statements dd.nodes).zip slots) line = m.taken? x slot := by
  have hzip : ((statements dd.nodes).zip slots).map (·.1) = statements dd.nodes :=
    List.map_fst_zip (Nat.le_of_eq h.kept.fits.length_eq)
  have hmem : (x, slot) ∈ (statements dd.nodes).zip slots :=
    Pairing.mem_zip_of_getElem? hx hslot
  have hat := takenAt?_of_mem (m := m) (by rw [hzip]; exact L.inOrder hd) hmem
  dsimp only at hat
  rw [hline.position] at hat
  exact hat

theorem makes_newLine (h : Written L td dd slots used content) (ht : m.format.parse t = .ok td)
    (hd : m.format.parse d = .ok dd) (line : Nat) :
    L.makes (m.newLine (.make m.format td) (.make m.format dd) ((statements dd.nodes).zip slots)
      line) = L.makes (dd.line line) := by
  cases hat : m.takenAt? ((statements dd.nodes).zip slots) line with
  | none => rw [newLine_of_none hat]; rfl
  | some x =>
    obtain ⟨z, hz, rfl, htaken⟩ := takenAt?_eq_some hat
    obtain ⟨hmem, hfrozen, hxmem, hxfrozen⟩ := taken_of_kept h.kept hz htaken
    obtain ⟨line, hline⟩ := L.lineStatement hd hmem hfrozen
    obtain ⟨line', hline'⟩ := L.lineStatement ht hxmem hxfrozen
    rw [newLine_of_some hat, hline'.position, hline.position]
    exact hline'.made.trans hline.made.symm

theorem makes_addedLines (h : Written L td dd slots used content) (ht : m.format.parse t = .ok td) :
    ∀ l ∈ addedLines (.make m.format td) used m.options.addTemplateOnly, L.makes l = true := by
  intro l hl
  unfold addedLines at hl
  split at hl
  · obtain ⟨x, hx, rfl⟩ := List.mem_map.1 hl
    obtain ⟨hmem, hfrozen⟩ := free_of_kept h.kept hx
    obtain ⟨line, hline⟩ := L.lineStatement ht hmem hfrozen
    rw [hline.position]
    exact hline.made
  · cases hl

/-- Statements stand where they stood, and one stands on every line that was added. -/
theorem positions (h : Written L td dd slots used content) (ht : m.format.parse t = .ok td)
    (hd : m.format.parse d = .ok dd) (hd' : m.format.parse content = .ok d') :
    d'.nodes.map NodeView.position = dd.nodes.map NodeView.position ++
      (List.range' (1 + dd.lineCount)
        (addedLines (.make m.format td) used m.options.addTemplateOnly).length).map .single :=
  h.spliced.positions_appended hd hd' (fun line _ _ => h.makes_newLine ht hd line)
    (h.makes_addedLines ht)

theorem length_nodes (h : Written L td dd slots used content) (ht : m.format.parse t = .ok td)
    (hd : m.format.parse d = .ok dd) (hd' : m.format.parse content = .ok d') :
    d'.nodes.length = dd.nodes.length +
      (addedLines (.make m.format td) used m.options.addTemplateOnly).length := by
  have hlen := congrArg List.length (h.positions ht hd hd')
  rwa [List.length_map, List.length_append, List.length_map, List.length_map,
    List.length_range'] at hlen

theorem position_eq (h : Written L td dd slots used content) (ht : m.format.parse t = .ok td)
    (hd : m.format.parse d = .ok dd) (hd' : m.format.parse content = .ok d') {i : Nat}
    {x x' : Statement N} (hx : (statements dd.nodes)[i]? = some x)
    (hx' : (statements d'.nodes)[i]? = some x') : x'.position = x.position := by
  rw [getElem?_statements] at hx hx'
  obtain ⟨n, hn, rfl⟩ := Option.map_eq_some_iff.1 hx
  obtain ⟨n', hn', rfl⟩ := Option.map_eq_some_iff.1 hx'
  have hlt : i < (dd.nodes.map NodeView.position).length := by
    rw [List.length_map]
    exact (List.getElem?_eq_some_iff.1 hn).1
  have hat := congrArg (·[i]?) (h.positions ht hd hd')
  rw [List.getElem?_map, hn', List.getElem?_append_left hlt, List.getElem?_map, hn] at hat
  exact Option.some.inj hat

/-- A statement of the merged text has the face of what was written for it. -/
theorem echo (h : Written L td dd slots used content) (ht : m.format.parse t = .ok td)
    (hd : m.format.parse d = .ok dd) (hd' : m.format.parse content = .ok d') {i : Nat}
    {x x' : Statement N} {slot : Slot N} (hx : (statements dd.nodes)[i]? = some x)
    (hslot : slots[i]? = some slot) (hx' : (statements d'.nodes)[i]? = some x') :
    (d'.Frozen x'.node ↔ dd.Frozen x.node) ∧ (¬ dd.Frozen x.node →
      m.format.carriesThrough x'.node = m.format.carriesThrough x.node ∧
        m.format.faceOf x'.node = m.writtenFace x slot) := by
  have hposition := h.position_eq ht hd hd' hx hx'
  have hfrozen : d'.Frozen x'.node ↔ dd.Frozen x.node := by
    unfold Document.Frozen
    rw [h.spliced.spans_appended hd hd', show NodeView.position x'.node = NodeView.position x.node
      from hposition]
  refine ⟨hfrozen, fun hnot => ?_⟩
  obtain ⟨line, hline⟩ := L.lineStatement hd (List.mem_of_getElem? hx) hnot
  obtain ⟨line', hline'⟩ := L.lineStatement hd' (List.mem_of_getElem? hx') (mt hfrozen.1 hnot)
  rw [hline.position, hline'.position] at hposition
  obtain rfl : line' = line := congrArg Position.startLine hposition
  refine ⟨hline'.loose.trans hline.loose.symm, ?_⟩
  rw [hline'.face, h.spliced.at_line L.face_close hd' hline.first hline.last, writtenFace]
  have hat := h.newLine_statement hd hx hslot hline
  cases htaken : m.taken? x slot with
  | none =>
    rw [newLine_of_none (hat.trans htaken)]
    exact hline.face.symm
  | some y =>
    rw [newLine_of_some (hat.trans htaken)]
    have hmem : (x, slot) ∈ (statements dd.nodes).zip slots :=
      Pairing.mem_zip_of_getElem? hx hslot
    obtain ⟨-, -, hymem, hyfrozen⟩ := taken_of_kept h.kept hmem htaken
    obtain ⟨line, hyline⟩ := L.lineStatement ht hymem hyfrozen
    rw [hyline.position]
    exact hyline.face.symm

/-- A statement of the merged text on a line that was added has the face of what was added. -/
theorem echo_added (h : Written L td dd slots used content) (ht : m.format.parse t = .ok td)
    (hd : m.format.parse d = .ok dd) (hd' : m.format.parse content = .ok d')
    (hadd : m.options.addTemplateOnly = true) {j : Nat} {f y : Statement N}
    (hf : (freeStatements (.make m.format td) used)[j]? = some f)
    (hy : (statements d'.nodes)[dd.nodes.length + j]? = some y) :
    ¬ d'.Frozen y.node ∧ m.format.carriesThrough y.node = false ∧
      m.format.faceOf y.node = m.format.faceOf f.node ∧
      (m.format.signature f.node).isSome = true := by
  have hnew : (addedLines (.make m.format td) used m.options.addTemplateOnly)[j]? =
      some (td.line f.position.startLine) := by
    rw [hadd, addedLines_true, List.getElem?_map, hf]
    rfl
  obtain ⟨hj, -⟩ := List.getElem?_eq_some_iff.1 hnew
  have hposition : y.position = .single (1 + dd.lineCount + j) := by
    have hat := congrArg (·[dd.nodes.length + j]?) (h.positions ht hd hd')
    rw [getElem?_statements] at hy
    obtain ⟨n, hn, rfl⟩ := Option.map_eq_some_iff.1 hy
    rw [List.getElem?_map, hn, List.getElem?_append_right (by rw [List.length_map]; omega),
      List.length_map, Nat.add_sub_cancel_left, List.getElem?_map, List.getElem?_range' hj,
      Nat.one_mul] at hat
    exact Option.some.inj hat
  have hfrozen : ¬ d'.Frozen y.node := by
    rintro ⟨span, hspan, hintersects⟩
    rw [h.spliced.spans_appended hd hd'] at hspan
    obtain ⟨-, hlt, hstop⟩ := (L.spansWithin hd).2 span hspan
    rw [show NodeView.position y.node = .single (1 + dd.lineCount + j) from hposition,
      FreezeSpan.intersects, Position.intersects_iff, FreezeSpan.position,
      Position.endLine_ofLines, Position.startLine_single] at hintersects
    omega
  obtain ⟨line, hline⟩ := L.lineStatement hd' (List.mem_of_getElem? hy) hfrozen
  obtain rfl : line = 1 + dd.lineCount + j :=
    congrArg Position.startLine (hline.position.symm.trans hposition)
  obtain ⟨hfmem, hffrozen⟩ := free_of_kept h.kept (List.mem_of_getElem? hf)
  obtain ⟨line', hline'⟩ := L.lineStatement ht hfmem hffrozen
  refine ⟨hfrozen, hline.loose, ?_, hline'.signed⟩
  rw [hline.face, h.spliced.at_new L.face_close hd' hnew, hline'.position]
  exact hline'.face.symm

end Written

end Merger

end TemplateMerge
