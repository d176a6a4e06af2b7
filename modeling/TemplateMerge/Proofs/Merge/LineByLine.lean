import TemplateMerge.Proofs.Format.Linewise
import TemplateMerge.Proofs.Merge.Lines
import TemplateMerge.Proofs.Merge.Log

/-! Merges of documents that are read line by line.

    With the books of the pairing kept, whatever is taken from the template or added is a line
    outside the template's frozen regions, and it is taken for a line outside those of the
    destination.  So a region is written line for line, and what is added follows line by line.

        template        t   ▒▒▒▒▒   u              ▒ frozen
        destination     1   2   ▒▒▒▒▒▒▒   6
        written         1   t   ▒▒▒▒▒▒▒   6   u -/

namespace TemplateMerge

variable {N : Type} [NodeView N]

namespace Merger

/-- The lines that are added. -/
def addedLines (template : Prepared N) (used : List Bool) (addTemplateOnly : Bool) : List Text :=
  if addTemplateOnly then
    (freeStatements template used).map fun t => template.document.line t.position.startLine
  else []

@[simp] theorem addedLines_true (template : Prepared N) (used : List Bool) :
    addedLines template used true = (freeStatements template used).map fun t =>
      template.document.line t.position.startLine := rfl

@[simp] theorem addedLines_false (template : Prepared N) (used : List Bool) :
    addedLines template used false = [] := rfl

variable {m : Merger N} {r : MarkerRegistry} {t d : Text} {td dd : Document N}
  {region : List (Statement N)} {slots : List (Slot N)} {used : List Bool}

/-! ### What the books say of statements -/

theorem mem_statements_of_getElem? {format : Format N} {doc : Document N} {j : Nat}
    {x : Statement N} (h : (Prepared.make format doc).list[j]? = some x) :
    x ∈ statements doc.nodes := List.mem_of_getElem? h

theorem held_of_kept (h : Pairing.Kept m.format (.make m.format td) (.make m.format dd) region
    slots used) {x : Statement N} {score : Option Float} (hx : .paired x score ∈ slots) :
    x ∈ statements td.nodes ∧ ¬ td.Frozen x.node := by
  have hheld := h.held x score hx
  obtain ⟨y, hy, hfrozen⟩ := h.pairable x.index (Pairing.mem_partners.2 ⟨x, score, hx, rfl⟩)
  rw [hheld] at hy
  rw [← Option.some.inj hy] at hfrozen
  exact ⟨mem_statements_of_getElem? hheld, Pairing.isFrozen_eq_false.1 hfrozen⟩

theorem free_of_kept (h : Pairing.Kept m.format (.make m.format td) (.make m.format dd) region
    slots used) {x : Statement N} (hx : x ∈ freeStatements (.make m.format td) used) :
    x ∈ statements td.nodes ∧ ¬ td.Frozen x.node := by
  obtain ⟨hmem, hfree⟩ := List.mem_filter.1 hx
  obtain ⟨i, hi⟩ := List.mem_iff_getElem?.1 hmem
  have hindex : x.index = i := by
    rw [numberedFrom_statements td.nodes i x hi, Nat.zero_add]
  obtain ⟨n, hn, hfrozen⟩ := pairable_make.1 ((h.free x.index).1 (by simpa using hfree)).1
  rw [getElem?_list_make, ← hindex, hn] at hi
  rw [← Option.some.inj hi]
  refine ⟨?_, hfrozen⟩
  rw [Option.some.inj hi]
  exact hmem

theorem paired_of_kept (h : Pairing.Kept m.format (.make m.format td) (.make m.format dd) region
    slots used) {i : Nat} {x y : Statement N} {score : Option Float} (hx : region[i]? = some x)
    (hslot : slots[i]? = some (.paired y score)) :
    ¬ dd.Frozen x.node ∧ m.format.carriesThrough x.node = false ∧
      y ∈ statements td.nodes ∧ ¬ td.Frozen y.node := by
  obtain ⟨slot, hslot', hfits⟩ := Pairing.exists_getElem?_of_forall₂ h.fits hx
  rw [hslot] at hslot'
  rw [← Option.some.inj hslot'] at hfits
  obtain ⟨hfrozen, hcarried⟩ := hfits
  exact ⟨Pairing.isFrozen_eq_false.1 hfrozen, hcarried, held_of_kept h (List.mem_of_getElem? hslot)⟩

theorem taken_of_kept (h : Pairing.Kept m.format (.make m.format td) (.make m.format dd) region
    slots used) {z : Statement N × Slot N} (hz : z ∈ region.zip slots) {x : Statement N}
    (hx : m.taken? z.1 z.2 = some x) :
    z.1 ∈ region ∧ ¬ dd.Frozen z.1.node ∧ x ∈ statements td.nodes ∧ ¬ td.Frozen x.node := by
  obtain ⟨score, hslot, -⟩ := taken?_eq_some hx
  obtain ⟨i, hi⟩ := List.mem_iff_getElem?.1 hz
  obtain ⟨hleft, hright⟩ := List.getElem?_zip_eq_some.1 hi
  rw [hslot] at hright
  obtain ⟨hfrozen, -, hheld⟩ := paired_of_kept h hleft hright
  exact ⟨List.mem_of_getElem? hleft, hfrozen, hheld⟩

/-! ### Line for line -/

/-- Lines are taken for lines. -/
theorem lineForLine (L : Linewise m.format r) (ht : m.format.parse t = .ok td)
    (hd : m.format.parse d = .ok dd)
    (h : Pairing.Kept m.format (.make m.format td) (.make m.format dd) region slots used)
    (hregion : ∀ x ∈ region, x ∈ statements dd.nodes) :
    m.LineForLine (.make m.format td) (region.zip slots) := by
  intro z hz x hx
  obtain ⟨hmem, hfrozen, hxmem, hxfrozen⟩ := taken_of_kept h hz hx
  obtain ⟨line, hline⟩ := L.lineStatement hd (hregion _ hmem) hfrozen
  obtain ⟨line', hline'⟩ := L.lineStatement ht hxmem hxfrozen
  refine ⟨?_, line', hline'.position, hline'.first, hline'.last⟩
  rw [hline.position]
  rfl

theorem lines_addedPieces (L : Linewise m.format r) (ht : m.format.parse t = .ok td)
    (h : Pairing.Kept m.format (.make m.format td) (.make m.format dd) region slots used) :
    (addedPieces (.make m.format td) used).flatMap (fun p => Text.splitLines p.block) =
      addedLines (.make m.format td) used true := by
  rw [addedLines_true, addedPieces, List.flatMap_map, List.map_eq_flatMap]
  refine List.flatMap_congr fun x hx => ?_
  obtain ⟨hmem, hfrozen⟩ := free_of_kept h hx
  obtain ⟨line, hline⟩ := L.lineStatement ht hmem hfrozen
  show Text.splitLines (td.slice x.position) = [td.line x.position.startLine]
  rw [hline.position]
  exact Document.splitLines_slice_single hline.first hline.last

/-- The lines of a region: those of the destination or of the partners that won, and then those
    that are added. -/
theorem lines_regionPieces (L : Linewise m.format r) (ht : m.format.parse t = .ok td)
    (hd : m.format.parse d = .ok dd) {first last start : Nat} (h1 : 1 ≤ first)
    (h2 : last ≤ dd.lineCount) (hn : NumberedFrom start region) (horder : InOrder first last region)
    (hregion : ∀ x ∈ region, x ∈ statements dd.nodes) (addTemplateOnly : Bool) :
    let paired := Pairing.pair m.format m.options.refiner (.make m.format td) (.make m.format dd)
      region
    (m.regionPieces (.make m.format td) (.make m.format dd) ⟨region, first, last⟩
      addTemplateOnly).flatMap (fun p => Text.splitLines p.block) =
      (List.range' first (last + 1 - first)).map (m.newLine (.make m.format td) (.make m.format dd)
        (region.zip paired.1)) ++ addedLines (.make m.format td) paired.2 addTemplateOnly := by
  intro paired
  have hkept : Pairing.Kept m.format (.make m.format td) (.make m.format dd) region paired.1
      paired.2 := Pairing.kept_pair (numberedFrom_statements td.nodes) hn
  have hzip : (region.zip paired.1).map (·.1) = region :=
    List.map_fst_zip (Nat.le_of_eq hkept.fits.length_eq)
  have hbody : (m.bodyPieces (.make m.format td) (.make m.format dd) last first
      (region.zip paired.1)).flatMap (fun p => Text.splitLines p.block) = _ :=
    lines_bodyPieces h2 h1 (by rw [hzip]; exact horder) (lineForLine L ht hd hkept hregion)
  rw [regionPieces, List.flatMap_append, hbody]
  cases addTemplateOnly with
  | false => rfl
  | true => rw [if_pos rfl, lines_addedPieces L ht hkept]

end Merger

end TemplateMerge
