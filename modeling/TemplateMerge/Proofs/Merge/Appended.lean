import TemplateMerge.Proofs.Merge.FrozenRegions

/-! Reading a merged text again.

    A merged text has the lines of the destination, some exchanged, and then those that were added.
    Read again, it has the regions of the destination, a statement where the destination has one,
    and one statement more for every line that was added.

        destination   1   ▒▒▒▒▒   4
        text          1   ▒▒▒▒▒   t   u
        statements    0     1     2   3 -/

namespace TemplateMerge

variable {N : Type} [NodeView N] {format : Format N} {r : MarkerRegistry}

namespace Spliced

variable {L : Linewise format r} {d d' : Document N} {s content : Text} {sub : Nat → Text}
  {new : List Text}

/-- The lines of a text with lines added at the end, before any line is ended. -/
theorem lines_appended (h : Spliced L d d.lineCount sub new content)
    (hd' : format.parse content = .ok d') :
    d'.lines = Text.sealLines ((List.range' 1 d.lineCount).map sub ++ new) := by
  rw [L.lines_eq hd', h.lines, Nat.sub_self, List.range'_zero, List.map_nil, List.append_nil]

theorem lineCount_appended (h : Spliced L d d.lineCount sub new content)
    (hd' : format.parse content = .ok d') : d'.lineCount = d.lineCount + new.length := by
  rw [Document.lineCount, h.lines_appended hd', Text.length_sealLines, List.length_append,
    List.length_map, List.length_range']

/-- What does not depend on line endings is that of the lines exchanged and added. -/
theorem map_lines_appended {α : Type} {f : Text → α} (hf : ∀ l, f l.close = f l)
    (h : Spliced L d d.lineCount sub new content) (hd' : format.parse content = .ok d') :
    d'.lines.map f = (List.range' 1 d.lineCount).map (fun line => f (sub line)) ++ new.map f := by
  rw [h.lines_appended hd', Text.map_sealLines hf, List.map_append, List.map_map]
  rfl

theorem at_line {α : Type} {f : Text → α} (hf : ∀ l, f l.close = f l)
    (h : Spliced L d d.lineCount sub new content) (hd' : format.parse content = .ok d')
    {line : Nat} (h1 : 1 ≤ line) (h2 : line ≤ d.lineCount) : f (d'.line line) = f (sub line) := by
  obtain ⟨i, rfl⟩ := Nat.exists_eq_add_of_le h1
  have hlt : i < d'.lines.length := by
    have := h.lineCount_appended hd'
    rw [Document.lineCount] at this
    omega
  have hmap := congrArg (·[i]?) (h.map_lines_appended hf hd')
  rw [List.getElem?_map, Document.getElem?_lines hlt,
    List.getElem?_append_left (by rw [List.length_map, List.length_range']; omega),
    List.getElem?_map, List.getElem?_range' (by omega)] at hmap
  rw [Nat.add_comm 1 i]
  simpa [Nat.add_comm 1 i] using hmap

theorem at_new {α : Type} {f : Text → α} (hf : ∀ l, f l.close = f l)
    (h : Spliced L d d.lineCount sub new content) (hd' : format.parse content = .ok d')
    {i : Nat} {l : Text} (hl : new[i]? = some l) : f (d'.line (1 + d.lineCount + i)) = f l := by
  obtain ⟨hi, -⟩ := List.getElem?_eq_some_iff.1 hl
  have hlt : d.lineCount + i < d'.lines.length := by
    have := h.lineCount_appended hd'
    rw [Document.lineCount] at this
    omega
  have hlen : ((List.range' 1 d.lineCount).map fun line => f (sub line)).length = d.lineCount := by
    rw [List.length_map, List.length_range']
  have hmap := congrArg (·[d.lineCount + i]?) (h.map_lines_appended hf hd')
  rw [List.getElem?_map, Document.getElem?_lines hlt,
    List.getElem?_append_right (by rw [hlen]; omega), hlen, Nat.add_sub_cancel_left,
    List.getElem?_map, hl] at hmap
  rw [Nat.add_assoc, Nat.add_comm 1]
  exact Option.some.inj hmap

theorem spans_appended (h : Spliced L d d.lineCount sub new content)
    (hd : format.parse s = .ok d) (hd' : format.parse content = .ok d') : d'.spans = d.spans := by
  obtain ⟨sa, sb, hspans, -, hsb, hscan⟩ := h.scan hd
  have hnone : sb = [] := by
    cases sb with
    | nil => rfl
    | cons span rest =>
      have := hsb.2 span List.mem_cons_self
      omega
  have hscan' := L.scan_lines hd'
  rw [L.lines_eq hd', hscan] at hscan'
  rw [← Except.ok.inj hscan', hspans, hnone]
  rfl

/-- Statements stand where they stood, and one stands on every line that was added. -/
theorem positions_appended (h : Spliced L d d.lineCount sub new content)
    (hd : format.parse s = .ok d) (hd' : format.parse content = .ok d')
    (hsub : ∀ line, 1 ≤ line → line ≤ d.lineCount → L.makes (sub line) = L.makes (d.line line))
    (hnew : ∀ l ∈ new, L.makes l = true) :
    d'.nodes.map NodeView.position = d.nodes.map NodeView.position ++
      (List.range' (1 + d.lineCount) new.length).map .single := by
  have hspans := L.spansWithin hd
  have hflags : d'.lines.map L.makes = d.lines.map L.makes ++ List.replicate new.length true := by
    rw [h.map_lines_appended L.makes_close hd', List.map_eq_replicate_iff.2 hnew]
    congr 1
    rw [d.lines_eq_map, List.map_map]
    refine List.map_congr_left fun line hline => ?_
    have := List.mem_range'_1.1 hline
    exact hsub line (by omega) (by omega)
  rw [Document.lineCount, ← List.length_map L.makes] at hspans
  rw [(L.of_parse hd').2.2.2, (L.of_parse hd).2.2.2, h.spans_appended hd hd', hflags,
    L.layout_append _ hspans, List.length_map]
  rfl

end Spliced

end TemplateMerge
