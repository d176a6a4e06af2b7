import TemplateMerge.Document
import TemplateMerge.Proofs.Text.Assembly

/-! Ranges of a document as lists of its lines.

    A range is a run of lines, and the lines of a range are again these lines
    (`splitLines_sourceRange`).  Neighbouring runs put together are a longer run, so what is copied
    piece by piece is copied whole.

    Positions that tile the lines leave none out, so each begins where the one before has ended. -/

namespace TemplateMerge

/-- Positions one after the other, from line `next` to the line before `stop`, with no line
    between. -/
def Tiles (stop : Nat) : (next : Nat) → List Position → Prop
  | next, [] => next = stop
  | next, p :: rest => p.startLine = next ∧ Tiles stop (p.endLine + 1) rest

/-- A position begins where the one before has ended, and the last ends before line `stop`. -/
theorem Tiles.next {stop : Nat} {ps : List Position} : ∀ {first : Nat}, Tiles stop first ps →
    ∀ {i : Nat} {p : Position}, ps[i]? = some p →
      (∀ q, ps[i + 1]? = some q → q.startLine = p.endLine + 1) ∧
        (ps[i + 1]? = none → stop = p.endLine + 1) := by
  induction ps with
  | nil => intro first _ i p hp; simp at hp
  | cons head ps ih =>
    intro first h i p hp
    cases i with
    | zero =>
      obtain rfl := Option.some.inj hp
      rw [List.getElem?_cons_succ]
      cases ps with
      | nil => exact ⟨by simp, fun _ => h.2.symm⟩
      | cons q ps =>
        refine ⟨fun q' hq => ?_, by simp⟩
        obtain rfl := Option.some.inj hq
        exact h.2.1
    | succ i => exact ih h.2 hp

namespace Document

variable {N : Type}

/-- The line numbered `n`, its ending included. -/
def line (d : Document N) (n : Nat) : Text := (d.lines[n - 1]?).getD []

theorem areLines (d : Document N) : Text.AreLines d.lines := by
  rw [d.lines_eq]; exact Text.areLines_splitLines d.source

theorem line_of_lt {d : Document N} {i : Nat} (h : i < d.lines.length) :
    d.line (i + 1) = d.lines[i] := by
  rw [line, Nat.add_sub_cancel, List.getElem?_eq_getElem h, Option.getD_some]

theorem getElem?_lines {d : Document N} {i : Nat} (h : i < d.lines.length) :
    d.lines[i]? = some (d.line (i + 1)) := by
  rw [line_of_lt h, List.getElem?_eq_getElem h]

theorem line_mem {d : Document N} {n : Nat} (h1 : 1 ≤ n) (h2 : n ≤ d.lineCount) :
    d.line n ∈ d.lines := by
  obtain ⟨i, rfl⟩ := Nat.exists_eq_add_of_le' h1
  have hi : i < d.lines.length := h2
  rw [line_of_lt hi]
  exact List.getElem_mem hi

theorem splitLines_sourceRange (d : Document N) (first last : Nat) :
    Text.splitLines (d.sourceRange first last) = (d.lines.take last).drop (first - 1) :=
  Text.splitLines_flatten ((d.areLines.take last).drop (first - 1))

theorem run_eq_map {d : Document N} {first last : Nat} (h1 : 1 ≤ first) (h2 : last ≤ d.lineCount) :
    (d.lines.take last).drop (first - 1) =
      (List.range' first (last + 1 - first)).map d.line := by
  obtain ⟨first, rfl⟩ := Nat.exists_eq_add_of_le' h1
  have hlen : last ≤ d.lines.length := h2
  apply List.ext_getElem
  · simp only [List.length_drop, List.length_take, List.length_map, List.length_range']
    omega
  · intro i hi hi'
    simp only [List.length_drop, List.length_take] at hi
    have hline : first + i < d.lines.length := by omega
    rw [List.getElem_drop, List.getElem_take, List.getElem_map, List.getElem_range']
    rw [show first + 1 + 1 * i = (first + i) + 1 by omega, line_of_lt hline]
    simp

theorem splitLines_sourceRange_map {d : Document N} {first last : Nat} (h1 : 1 ≤ first)
    (h2 : last ≤ d.lineCount) :
    Text.splitLines (d.sourceRange first last) =
      (List.range' first (last + 1 - first)).map d.line := by
  rw [splitLines_sourceRange, run_eq_map h1 h2]

theorem lines_eq_map (d : Document N) : d.lines = (List.range' 1 d.lineCount).map d.line := by
  have h := run_eq_map (d := d) (Nat.le_refl 1) (Nat.le_refl d.lineCount)
  rw [Nat.sub_self, List.drop_zero, lineCount, List.take_length] at h
  exact h

theorem lines_eq_cut {d : Document N} {place : Nat} (h : place ≤ d.lineCount) :
    d.lines = (List.range' 1 place).map d.line ++
      (List.range' (1 + place) (d.lineCount - place)).map d.line := by
  rw [← List.map_append, List.range'_append_1, Nat.add_sub_of_le h, ← d.lines_eq_map]

/-- The lines of a document before a line, from there to another, and after that. -/
theorem lines_eq_parts (d : Document N) {first last : Nat} (hle : first ≤ last) :
    d.lines = d.lines.take (first - 1) ++
      ((d.lines.take last).drop (first - 1) ++ d.lines.drop last) := by
  have hfront : (d.lines.take last).take (first - 1) = d.lines.take (first - 1) := by
    rw [List.take_take, Nat.min_eq_left (Nat.le_trans (Nat.sub_le first 1) hle)]
  rw [← hfront, ← List.append_assoc, List.take_append_drop, List.take_append_drop]

theorem areLines_run {d : Document N} {first last : Nat} (h1 : 1 ≤ first)
    (h2 : last ≤ d.lineCount) :
    Text.AreLines ((List.range' first (last + 1 - first)).map d.line) := by
  rw [← run_eq_map h1 h2]
  exact (d.areLines.take last).drop (first - 1)

/-- Where the lines of a range have come to stand, so has the range. -/
theorem sourceRange_of_run {d d' : Document N} {a b : List Text} {first last : Nat} (h1 : 1 ≤ first)
    (h2 : last ≤ d.lineCount)
    (hlines : d'.lines =
      Text.sealLines (a ++ (List.range' first (last + 1 - first)).map d.line ++ b)) :
    d'.sourceRange (a.length + 1) (a.length + (last + 1 - first)) = d.sourceRange first last ∨
      d'.sourceRange (a.length + 1) (a.length + (last + 1 - first)) =
        (d.sourceRange first last).close := by
  have hrun := Text.flatten_run_sealed (a := a) (b := b) (areLines_run h1 h2)
  rw [List.length_map, List.length_range', ← hlines] at hrun
  have hown : d.sourceRange first last =
      ((List.range' first (last + 1 - first)).map d.line).flatten := by
    rw [sourceRange, run_eq_map h1 h2]
  rw [hown]
  exact hrun

theorem splitLines_slice_single {d : Document N} {n : Nat} (h1 : 1 ≤ n) (h2 : n ≤ d.lineCount) :
    Text.splitLines (d.slice (Position.single n)) = [d.line n] := by
  rw [slice, Position.startLine_single, Position.endLine_single, splitLines_sourceRange_map h1 h2,
    Nat.add_sub_cancel_left]
  rfl

/-- Blocks that have the lines of a document are put together to its text. -/
theorem assemble_eq_source {d : Document N} {blocks : List Text}
    (h : blocks.flatMap Text.splitLines = d.lines) : Text.assemble blocks = d.source :=
  Text.eq_of_splitLines (by rw [Text.splitLines_assemble, h, d.areLines.2, d.lines_eq])

end Document

end TemplateMerge
