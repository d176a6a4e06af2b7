import TemplateMerge.Proofs.Document.Ranges
import TemplateMerge.Proofs.Merge.Pieces

/-! The lines of a region.

    Where statements stand in order, and only single lines are taken from the template for single
    lines, a region is written line for line: every line is that of the destination, or the line of
    the partner that won (`lines_bodyPieces`).  Lines that are added follow.

        destination     1   2   3   4   5
        statements          s       s'
        written         1   t   3   4   5   +   +        s is paired with t, which won -/

namespace TemplateMerge

/-- Line numbers, cut before line `mid`. -/
theorem range'_cut {first mid stop : Nat} (h1 : first ≤ mid) (h2 : mid ≤ stop) :
    List.range' first (stop - first) =
      List.range' first (mid - first) ++ List.range' mid (stop - mid) := by
  obtain ⟨i, rfl⟩ := Nat.exists_eq_add_of_le h1
  obtain ⟨j, rfl⟩ := Nat.exists_eq_add_of_le h2
  rw [Nat.add_sub_cancel_left, Nat.add_sub_cancel_left, List.range'_append_1, Nat.add_assoc,
    Nat.add_sub_cancel_left]

variable {N : Type}

theorem Merger.lines_gap {destination : Prepared N} {first last : Nat} (h1 : 1 ≤ first)
    (h2 : last ≤ destination.document.lineCount) :
    (gap destination first last).flatMap (fun p => Text.splitLines p.block) =
      (List.range' first (last + 1 - first)).map destination.document.line := by
  unfold gap
  split
  · rw [List.flatMap_singleton, Document.splitLines_sourceRange_map h1 h2]
  · next h =>
    rw [show last + 1 - first = 0 by omega]
    rfl

variable [NodeView N]

/-- Statements one after the other, from line `first` to line `last`. -/
structure InOrder (first last : Nat) (list : List (Statement N)) : Prop where
  /-- Every statement ends before the next begins. -/
  apart : list.Pairwise fun s t => s.position.endLine < t.position.startLine
  /-- All are between the two lines. -/
  within : ∀ s ∈ list, first ≤ s.position.startLine ∧ s.position.endLine ≤ last

theorem InOrder.tail {first last : Nat} {s : Statement N} {list : List (Statement N)}
    (h : InOrder first last (s :: list)) : InOrder (s.position.endLine + 1) last list := by
  obtain ⟨hfirst, hrest⟩ := List.pairwise_cons.1 h.apart
  exact ⟨hrest, fun t ht => ⟨hfirst t ht, (h.within t (List.mem_cons_of_mem _ ht)).2⟩⟩

theorem InOrder.head {first last : Nat} {s : Statement N} {list : List (Statement N)}
    (h : InOrder first last (s :: list)) :
    first ≤ s.position.startLine ∧ s.position.startLine ≤ s.position.endLine ∧
      s.position.endLine ≤ last := by
  obtain ⟨hfirst, hlast⟩ := h.within s List.mem_cons_self
  exact ⟨hfirst, s.position.ordered, hlast⟩

namespace Merger

variable {m : Merger N} {template destination : Prepared N}

/-- The statement of the template whose text is written for a statement of the destination, if the
    template wins. -/
def taken? (m : Merger N) (s : Statement N) : Slot N → Option (Statement N)
  | .paired t _ => if (m.resolvePair t s).takesTemplate then some t else none
  | _ => none

/-- The statement of the template that is written at a line. -/
def takenAt? (m : Merger N) (zs : List (Statement N × Slot N)) (line : Nat) :
    Option (Statement N) :=
  zs.findSome? fun z => if z.1.position.startLine = line then m.taken? z.1 z.2 else none

/-- What is written at a line. -/
def newLine (m : Merger N) (template destination : Prepared N) (zs : List (Statement N × Slot N))
    (line : Nat) : Text :=
  match m.takenAt? zs line with
  | some t => template.document.line t.position.startLine
  | none => destination.document.line line

/-- Only single lines of the template are taken, for single lines. -/
def LineForLine (m : Merger N) (template : Prepared N) (zs : List (Statement N × Slot N)) : Prop :=
  ∀ z ∈ zs, ∀ t, m.taken? z.1 z.2 = some t → z.1.position = .single z.1.position.startLine ∧
    ∃ line, t.position = .single line ∧ 1 ≤ line ∧ line ≤ template.document.lineCount

/-! ### What is taken -/

theorem taken?_eq_some {s t : Statement N} {slot : Slot N} (h : m.taken? s slot = some t) :
    ∃ score, slot = .paired t score ∧ (m.resolvePair t s).takesTemplate = true := by
  cases slot with
  | paired t' score =>
    rw [taken?] at h
    split at h
    · next htakes => cases h; exact ⟨score, rfl, htakes⟩
    · cases h
  | _ => cases h

theorem block_pieceOf (s : Statement N) (slot : Slot N) :
    (m.pieceOf template destination s slot).block =
      match m.taken? s slot with
      | some t => template.document.slice t.position
      | none => destination.document.slice s.position := by
  cases slot with
  | paired t score =>
    show (if (m.resolvePair t s).takesTemplate = true then template.document.slice t.position
      else destination.document.slice s.position) = _
    rw [taken?]
    split <;> rfl
  | _ => rfl

theorem takenAt?_cons (z : Statement N × Slot N) (zs : List (Statement N × Slot N)) (line : Nat) :
    m.takenAt? (z :: zs) line =
      if z.1.position.startLine = line then (m.taken? z.1 z.2).or (m.takenAt? zs line)
      else m.takenAt? zs line := by
  unfold takenAt?
  rw [List.findSome?_cons]
  by_cases hline : z.1.position.startLine = line
  · rw [if_pos hline, if_pos hline]
    cases m.taken? z.1 z.2 <;> rfl
  · rw [if_neg hline, if_neg hline]

/-- Nothing is taken where no statement begins. -/
theorem takenAt?_eq_none {zs : List (Statement N × Slot N)} {line : Nat}
    (h : ∀ z ∈ zs, z.1.position.startLine ≠ line) : m.takenAt? zs line = none := by
  refine List.findSome?_eq_none_iff.2 fun z hz => ?_
  rw [if_neg (h z hz)]

theorem takenAt?_eq_some {zs : List (Statement N × Slot N)} {line : Nat} {t : Statement N}
    (h : m.takenAt? zs line = some t) :
    ∃ z ∈ zs, z.1.position.startLine = line ∧ m.taken? z.1 z.2 = some t := by
  obtain ⟨z, hz, htaken⟩ := List.exists_of_findSome?_eq_some h
  split at htaken
  · next hline => exact ⟨z, hz, hline, htaken⟩
  · cases htaken

theorem startLine_ne_of_inOrder {first last line : Nat} {zs : List (Statement N × Slot N)}
    (h : InOrder first last (zs.map (·.1))) (hline : line < first) :
    ∀ z ∈ zs, z.1.position.startLine ≠ line := by
  intro z hz
  have := (h.within z.1 (List.mem_map_of_mem hz)).1
  omega

/-- What is taken for a statement is written where it begins. -/
theorem takenAt?_of_mem {first last : Nat} {zs : List (Statement N × Slot N)}
    (h : InOrder first last (zs.map (·.1))) {z : Statement N × Slot N} (hz : z ∈ zs) :
    m.takenAt? zs z.1.position.startLine = m.taken? z.1 z.2 := by
  induction zs generalizing first with
  | nil => cases hz
  | cons head zs ih =>
    simp only [List.map_cons] at h
    have hhead := h.head
    rw [takenAt?_cons]
    rcases List.mem_cons.1 hz with rfl | hz
    · rw [if_pos rfl, takenAt?_eq_none (startLine_ne_of_inOrder h.tail (by omega)), Option.or_none]
    · have := (h.tail.within z.1 (List.mem_map_of_mem hz)).1
      rw [if_neg (by omega)]
      exact ih h.tail hz

/-! ### Line for line -/

theorem newLine_of_none {zs : List (Statement N × Slot N)} {line : Nat}
    (h : m.takenAt? zs line = none) :
    m.newLine template destination zs line = destination.document.line line := by
  rw [newLine, h]

theorem newLine_of_some {zs : List (Statement N × Slot N)} {line : Nat} {t : Statement N}
    (h : m.takenAt? zs line = some t) : m.newLine template destination zs line =
      template.document.line t.position.startLine := by
  rw [newLine, h]

theorem lines_pieceOf {first last : Nat} {z : Statement N × Slot N}
    {zs : List (Statement N × Slot N)} (h1 : 1 ≤ first)
    (h2 : last ≤ destination.document.lineCount)
    (hzs : InOrder first last ((z :: zs).map (·.1))) (hline : m.LineForLine template (z :: zs)) :
    Text.splitLines (m.pieceOf template destination z.1 z.2).block =
      (List.range' z.1.position.startLine
        (z.1.position.endLine + 1 - z.1.position.startLine)).map
          (m.newLine template destination (z :: zs)) := by
  have hhead : m.takenAt? (z :: zs) z.1.position.startLine = m.taken? z.1 z.2 :=
    takenAt?_of_mem hzs List.mem_cons_self
  simp only [List.map_cons] at hzs
  obtain ⟨hfirst, hordered, hlast⟩ := hzs.head
  rw [block_pieceOf]
  cases htaken : m.taken? z.1 z.2 with
  | some t =>
    obtain ⟨hsingle, line, ht, hline1, hline2⟩ := hline z List.mem_cons_self t htaken
    have hend : z.1.position.endLine = z.1.position.startLine := congrArg Position.endLine hsingle
    rw [hend, Nat.add_sub_cancel_left, List.range'_one, List.map_singleton,
      newLine_of_some (hhead.trans htaken)]
    dsimp only
    rw [ht]
    exact Document.splitLines_slice_single hline1 hline2
  | none =>
    show Text.splitLines (destination.document.sourceRange _ _) = _
    rw [Document.splitLines_sourceRange_map (Nat.le_trans h1 hfirst) (Nat.le_trans hlast h2)]
    refine List.map_congr_left fun line hmem => (newLine_of_none ?_).symm
    obtain ⟨hle, hlt⟩ := List.mem_range'_1.1 hmem
    have hrest : m.takenAt? zs line = none :=
      takenAt?_eq_none (startLine_ne_of_inOrder hzs.tail (by omega))
    rw [takenAt?_cons, hrest, htaken]
    split <;> rfl

theorem lines_gap_before {first last : Nat} {s : Statement N} {rest : List (Statement N)}
    (h1 : 1 ≤ first) (h2 : last ≤ destination.document.lineCount)
    (h : InOrder first last (s :: rest)) :
    (if first < s.position.startLine then gap destination first (s.position.startLine - 1)
      else []).flatMap (fun p => Text.splitLines p.block) =
      (List.range' first (s.position.startLine - first)).map destination.document.line := by
  obtain ⟨hfirst, hordered, hlast⟩ := h.head
  split
  · rw [lines_gap h1 (by omega), Nat.sub_add_cancel (by omega)]
  · rw [show s.position.startLine - first = 0 by omega]
    rfl

theorem lines_before {first last : Nat} {z : Statement N × Slot N}
    {zs : List (Statement N × Slot N)} (h1 : 1 ≤ first)
    (h2 : last ≤ destination.document.lineCount) (hzs : InOrder first last (z.1 :: zs.map (·.1))) :
    (if first < z.1.position.startLine then
      gap destination first (z.1.position.startLine - 1) else []).flatMap
        (fun p => Text.splitLines p.block) =
      (List.range' first (z.1.position.startLine - first)).map
        (m.newLine template destination (z :: zs)) := by
  obtain ⟨hfirst, hordered, hlast⟩ := hzs.head
  have hown : (List.range' first (z.1.position.startLine - first)).map
      destination.document.line = (List.range' first (z.1.position.startLine - first)).map
        (m.newLine template destination (z :: zs)) := by
    refine List.map_congr_left fun line hmem => (newLine_of_none ?_).symm
    have hlt := (List.mem_range'_1.1 hmem).2
    refine takenAt?_eq_none fun y hy => ?_
    rcases List.mem_cons.1 hy with rfl | hy
    · omega
    · exact startLine_ne_of_inOrder hzs.tail (by omega) y hy
  rw [← hown]
  exact lines_gap_before h1 h2 hzs

/-- A region is written line for line. -/
theorem lines_bodyPieces {last : Nat} (h2 : last ≤ destination.document.lineCount)
    {zs : List (Statement N × Slot N)} : ∀ {first : Nat}, 1 ≤ first →
    InOrder first last (zs.map (·.1)) → m.LineForLine template zs →
    (m.bodyPieces template destination last first zs).flatMap (fun p => Text.splitLines p.block) =
      (List.range' first (last + 1 - first)).map (m.newLine template destination zs) := by
  induction zs with
  | nil =>
    intro first h1 _ _
    rw [bodyPieces, lines_gap h1 h2]
    exact List.map_congr_left fun line _ => (newLine_of_none rfl).symm
  | cons z zs ih =>
    intro first h1 hzs hline
    have hpiece := lines_pieceOf h1 h2 hzs hline
    simp only [List.map_cons] at hzs
    obtain ⟨hfirst, hordered, hlast⟩ := hzs.head
    -- the lines after the statement, as the rest is written
    have hafter : (List.range' (z.1.position.endLine + 1)
        (last + 1 - (z.1.position.endLine + 1))).map (m.newLine template destination zs) =
        (List.range' (z.1.position.endLine + 1) (last + 1 - (z.1.position.endLine + 1))).map
          (m.newLine template destination (z :: zs)) := by
      refine List.map_congr_left fun line hmem => ?_
      have hle := (List.mem_range'_1.1 hmem).1
      rw [newLine, newLine, takenAt?_cons, if_neg (by omega)]
    have hrest := ih (by omega) hzs.tail fun y hy => hline y (List.mem_cons_of_mem _ hy)
    have hcut : List.range' first (last + 1 - first) =
        List.range' first (z.1.position.startLine - first) ++
          List.range' z.1.position.startLine (last + 1 - z.1.position.startLine) :=
      range'_cut hfirst (by omega)
    have hcut' : List.range' z.1.position.startLine (last + 1 - z.1.position.startLine) =
        List.range' z.1.position.startLine
          (z.1.position.endLine + 1 - z.1.position.startLine) ++
          List.range' (z.1.position.endLine + 1) (last + 1 - (z.1.position.endLine + 1)) :=
      range'_cut (by omega) (by omega)
    rw [bodyPieces, List.flatMap_append, List.flatMap_cons, lines_before h1 h2 hzs, hpiece,
      Nat.max_eq_right (by omega), hrest, hafter, hcut, hcut', List.map_append, List.map_append]

end Merger

end TemplateMerge
