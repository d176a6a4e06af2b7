import Mathlib.Data.List.Basic
import Mathlib.Tactic.Common
import TemplateMerge.Merge.Outcome
import TemplateMerge.Text.Lines

/-! The lines of texts that are put together.

    Blocks are put together line by line: the lines of the whole are the lines of the blocks one
    after the other, except that a line which is not the last of all is closed if it was open.

        blocks      "a\nb"        "c"        ""        "d\n"
        lines       a⏎  b         c                    d⏎
        whole       a⏎  b⏎        c⏎                   d⏎

    So everything about an assembled text can be read off a list of lines (`splitLines_assemble`),
    and reading a list of lines back gives that list (`splitLines_flatten`). -/

namespace TemplateMerge

namespace Text

/-- A line: it has a line feed at its end or nowhere, and it is not empty. -/
def IsLine (l : Text) : Prop := ∃ body, '\n' ∉ body ∧ (l = body ++ ['\n'] ∨ l = body ∧ body ≠ [])

/-- The text with its last line ended. -/
def close (t : Text) : Text := if t.isOpen then t ++ ['\n'] else t

/-- The lines with every line ended but the last. -/
def sealLines : List Text → List Text
  | [] => []
  | [l] => [l]
  | l :: next :: rest => l.close :: sealLines (next :: rest)

/-- Lines as a text has them: every line is one, and only the last may be open. -/
def AreLines (ls : List Text) : Prop := (∀ l ∈ ls, IsLine l) ∧ sealLines ls = ls

/-! ### Open and closed texts -/

theorem isOpen_append_newline (t : Text) : (t ++ ['\n']).isOpen = false := by
  rw [isOpen, List.getLast?_concat]
  simp

theorem close_nil : close [] = [] := rfl

theorem close_of_open {t : Text} (h : t.isOpen = true) : t.close = t ++ ['\n'] := by
  rw [close, if_pos h]

theorem close_of_closed {t : Text} (h : t.isOpen = false) : t.close = t := by
  rw [close, h]; rfl

theorem isOpen_close (t : Text) : t.close.isOpen = false := by
  cases h : t.isOpen with
  | true => rw [close_of_open h, isOpen_append_newline]
  | false => rw [close_of_closed h, h]

@[simp] theorem close_close (t : Text) : t.close.close = t.close :=
  close_of_closed (isOpen_close t)

theorem isOpen_append {t block : Text} (h : block ≠ []) : (t ++ block).isOpen = block.isOpen := by
  cases block with
  | nil => exact absurd rfl h
  | cons c rest => simp [isOpen, List.getLast?_append, List.getLast?_cons]

theorem close_append {t block : Text} (h : block ≠ []) : (t ++ block).close = t ++ block.close := by
  unfold close
  rw [isOpen_append h]
  split
  · rw [List.append_assoc]
  · rfl

/-- A block follows a text whose last line has been ended. -/
theorem push_eq {t block : Text} (h : block ≠ []) : t.push block = t.close ++ block := by
  have hb : block.isEmpty = false := by simpa using h
  unfold push close
  rw [hb]
  cases t.isOpen <;> simp

theorem push_nil (t : Text) : t.push [] = t := rfl

/-! ### Single lines -/

theorem IsLine.ne_nil {l : Text} (h : IsLine l) : l ≠ [] := by
  obtain ⟨body, -, rfl | ⟨rfl, hne⟩⟩ := h
  · simp
  · exact hne

theorem IsLine.close {l : Text} (h : IsLine l) : IsLine l.close := by
  cases ho : l.isOpen with
  | false => rwa [close_of_closed ho]
  | true =>
    obtain ⟨body, hbody, rfl | ⟨rfl, -⟩⟩ := h
    · rw [isOpen_append_newline] at ho; exact absurd ho (by decide)
    · exact ⟨_, hbody, .inl (close_of_open ho)⟩

/-- A line that is closed ends with the only line feed it has. -/
theorem IsLine.eq_of_closed {l : Text} (h : IsLine l) (ho : l.isOpen = false) :
    ∃ body, '\n' ∉ body ∧ l = body ++ ['\n'] := by
  obtain ⟨body, hbody, rfl | ⟨rfl, hne⟩⟩ := h
  · exact ⟨body, hbody, rfl⟩
  · have hlast : l.getLast? = some '\n' := by
      simpa [isOpen, hne] using ho
    exact absurd (List.mem_of_getLast? hlast) hbody

theorem splitLines_ended {body : Text} (h : '\n' ∉ body) (rest : Text) :
    splitLines (body ++ '\n' :: rest) = (body ++ ['\n']) :: splitLines rest := by
  induction body with
  | nil => simp [splitLines]
  | cons c body ih =>
    have hc : c ≠ '\n' := fun e => h (e ▸ List.mem_cons_self)
    have hbody : '\n' ∉ body := fun m => h (List.mem_cons_of_mem _ m)
    rw [List.cons_append, splitLines, if_neg hc, ih hbody]
    rfl

theorem splitLines_unended {body : Text} (h : '\n' ∉ body) (hne : body ≠ []) :
    splitLines body = [body] := by
  induction body with
  | nil => exact absurd rfl hne
  | cons c body ih =>
    have hc : c ≠ '\n' := fun e => h (e ▸ List.mem_cons_self)
    have hbody : '\n' ∉ body := fun m => h (List.mem_cons_of_mem _ m)
    rw [splitLines, if_neg hc]
    cases body with
    | nil => rfl
    | cons d body => rw [ih hbody (by simp)]

theorem splitLines_line {l : Text} (h : IsLine l) : splitLines l = [l] := by
  obtain ⟨body, hbody, rfl | ⟨rfl, hne⟩⟩ := h
  · rw [splitLines_ended hbody, splitLines_nil]
  · exact splitLines_unended hbody hne

theorem splitLines_closed_append {l : Text} (h : IsLine l) (ho : l.isOpen = false) (rest : Text) :
    splitLines (l ++ rest) = l :: splitLines rest := by
  obtain ⟨body, hbody, rfl⟩ := h.eq_of_closed ho
  rw [List.append_assoc, List.singleton_append, splitLines_ended hbody]

/-! ### Sealed lines -/

theorem sealLines_cons {l : Text} {rest : List Text} (h : rest ≠ []) :
    sealLines (l :: rest) = l.close :: sealLines rest := by
  cases rest with
  | nil => exact absurd rfl h
  | cons next rest => rfl

@[simp] theorem length_sealLines : ∀ ls : List Text, (sealLines ls).length = ls.length
  | [] => rfl
  | [_] => rfl
  | l :: next :: rest => by
    rw [sealLines, List.length_cons, length_sealLines (next :: rest), List.length_cons (a := l)]

theorem sealLines_append {a b : List Text} (h : b ≠ []) :
    sealLines (a ++ b) = a.map close ++ sealLines b := by
  induction a with
  | nil => rfl
  | cons l a ih => rw [List.cons_append, sealLines_cons (by simp [h]), ih]; rfl

theorem sealLines_concat (a : List Text) (l : Text) : sealLines (a ++ [l]) = a.map close ++ [l] :=
  sealLines_append (by simp)

theorem map_close_sealLines (ls : List Text) : (sealLines ls).map close = ls.map close := by
  rcases List.eq_nil_or_concat ls with rfl | ⟨a, l, rfl⟩
  · rfl
  · rw [List.concat_eq_append, sealLines_concat]; simp

/-- Sealing a part before sealing the whole makes no difference. -/
theorem sealLines_sealLines_append (a b : List Text) :
    sealLines (sealLines a ++ b) = sealLines (a ++ b) := by
  rcases List.eq_nil_or_concat b with rfl | ⟨b, l, rfl⟩
  · rcases List.eq_nil_or_concat a with rfl | ⟨a, l, rfl⟩
    · rfl
    · rw [List.append_nil, List.append_nil, List.concat_eq_append, sealLines_concat,
        sealLines_concat]
      simp
  · rw [List.concat_eq_append, ← List.append_assoc, ← List.append_assoc, sealLines_concat,
      sealLines_concat, List.map_append, List.map_append, map_close_sealLines]

theorem sealLines_append_sealLines (a b : List Text) :
    sealLines (a ++ sealLines b) = sealLines (a ++ b) := by
  rcases List.eq_nil_or_concat b with rfl | ⟨b, l, rfl⟩
  · rfl
  · rw [List.concat_eq_append, sealLines_concat, ← List.append_assoc, ← List.append_assoc,
      sealLines_concat, sealLines_concat]
    simp

/-- Sealing a part in the middle makes no difference either. -/
theorem sealLines_append_sealLines_append (a b c : List Text) :
    sealLines (a ++ sealLines b ++ c) = sealLines (a ++ b ++ c) := by
  rcases Decidable.em (c = []) with rfl | hc
  · rw [List.append_nil, List.append_nil, sealLines_append_sealLines]
  · rw [sealLines_append hc, sealLines_append hc, List.map_append, List.map_append,
      map_close_sealLines]

theorem AreLines.tail {l : Text} {ls : List Text} (h : AreLines (l :: ls)) : AreLines ls := by
  refine ⟨fun k hk => h.1 k (List.mem_cons_of_mem _ hk), ?_⟩
  cases ls with
  | nil => rfl
  | cons next rest => exact (List.cons.inj h.2).2

theorem AreLines.closed_head {l : Text} {ls : List Text} (h : AreLines (l :: ls)) (hne : ls ≠ []) :
    l.isOpen = false := by
  have hl : l.close = l := by
    have := h.2
    rw [sealLines_cons hne] at this
    exact (List.cons.inj this).1
  rw [← hl]; exact isOpen_close l

/-- Splitting a text that was put together from lines gives these lines. -/
theorem splitLines_flatten {ls : List Text} (h : AreLines ls) : splitLines ls.flatten = ls := by
  induction ls with
  | nil => rfl
  | cons l ls ih =>
    have hl : IsLine l := h.1 l List.mem_cons_self
    rw [List.flatten_cons]
    rcases Decidable.em (ls = []) with rfl | hne
    · rw [List.flatten_nil, List.append_nil, splitLines_line hl]
    · rw [splitLines_closed_append hl (h.closed_head hne), ih h.tail]

theorem AreLines.cons_closed {l : Text} {ls : List Text} (hl : IsLine l) (ho : l.isOpen = false)
    (h : AreLines ls) : AreLines (l :: ls) := by
  refine ⟨fun k hk => ?_, ?_⟩
  · rcases List.mem_cons.1 hk with rfl | hk
    · exact hl
    · exact h.1 k hk
  · cases ls with
    | nil => rfl
    | cons next rest => rw [sealLines_cons (by simp), h.2, close_of_closed ho]

theorem areLines_splitLines : ∀ t : Text, AreLines (splitLines t)
  | [] => ⟨by simp, rfl⟩
  | c :: rest => by
    have ih := areLines_splitLines rest
    rw [splitLines]
    split
    · next hc =>
      subst hc
      exact ih.cons_closed ⟨[], by simp, .inl rfl⟩ rfl
    · next hc =>
      split
      · exact ⟨by simpa using ⟨[c], by simpa using Ne.symm hc, .inr ⟨rfl, by simp⟩⟩, rfl⟩
      · next line more hsplit =>
        rw [hsplit] at ih
        have hline : IsLine (c :: line) := by
          obtain ⟨body, hbody, rfl | ⟨rfl, hne⟩⟩ := ih.1 line List.mem_cons_self
          · exact ⟨c :: body, by simp [Ne.symm hc, hbody], .inl rfl⟩
          · exact ⟨c :: line, by simp [Ne.symm hc, hbody], .inr ⟨rfl, by simp⟩⟩
        rcases Decidable.em (more = []) with rfl | hne
        · exact ⟨by simpa using hline, rfl⟩
        · refine ih.tail.cons_closed hline ?_
          have hopen := ih.closed_head hne
          have hline0 : line ≠ [] := (ih.1 line List.mem_cons_self).ne_nil
          rw [← List.singleton_append, isOpen_append hline0]
          exact hopen

theorem eq_of_splitLines {a b : Text} (h : splitLines a = splitLines b) : a = b := by
  rw [← flatten_splitLines a, h, flatten_splitLines]

theorem splitLines_eq_nil {t : Text} : splitLines t = [] ↔ t = [] := by
  constructor
  · intro h
    rw [← flatten_splitLines t, h]; rfl
  · rintro rfl; rfl

/-! ### Parts of lists of lines -/

/-- Lines before others are ended. -/
theorem AreLines.map_close_of_append {a b : List Text} (h : AreLines (a ++ b)) (hb : b ≠ []) :
    a.map close = a := by
  have := h.2
  rw [sealLines_append hb] at this
  exact (List.append_inj this (by simp)).1

theorem AreLines.of_append_left {a b : List Text} (h : AreLines (a ++ b)) : AreLines a := by
  refine ⟨fun l hl => h.1 l (List.mem_append_left _ hl), ?_⟩
  rcases Decidable.em (b = []) with rfl | hb
  · simpa using h.2
  · have ha := h.map_close_of_append hb
    calc sealLines a = sealLines (a.map close) := by rw [ha]
      _ = a := by
        rcases List.eq_nil_or_concat a with rfl | ⟨a', l, rfl⟩
        · rfl
        · rw [List.concat_eq_append, List.map_append, List.map_singleton] at *
          rw [sealLines_concat, List.map_map, ← ha]
          simp

theorem AreLines.of_append_right {a b : List Text} (h : AreLines (a ++ b)) : AreLines b := by
  refine ⟨fun l hl => h.1 l (List.mem_append_right _ hl), ?_⟩
  rcases Decidable.em (b = []) with rfl | hb
  · rfl
  · have := h.2
    rw [sealLines_append hb] at this
    exact (List.append_inj this (by simp)).2

theorem AreLines.take {ls : List Text} (h : AreLines ls) (n : Nat) : AreLines (ls.take n) :=
  AreLines.of_append_left (b := ls.drop n) (by rwa [List.take_append_drop])

theorem AreLines.drop {ls : List Text} (h : AreLines ls) (n : Nat) : AreLines (ls.drop n) :=
  AreLines.of_append_right (a := ls.take n) (by rwa [List.take_append_drop])

/-- To end the last line of a text is to end all its lines. -/
theorem flatten_map_close {ls : List Text} (h : AreLines ls) :
    (ls.map close).flatten = close ls.flatten := by
  induction ls with
  | nil => rfl
  | cons l ls ih =>
    rw [List.map_cons, List.flatten_cons, List.flatten_cons, ih h.tail]
    rcases Decidable.em (ls = []) with rfl | hne
    · simp [close_nil]
    · have hflat : ls.flatten ≠ [] := by
        intro e
        have : splitLines ls.flatten = ls := splitLines_flatten h.tail
        rw [e] at this
        exact hne this.symm
      rw [close_of_closed (h.closed_head hne), close_append hflat]

/-- Ending lines does not change what does not depend on how lines end. -/
theorem map_sealLines {α : Type} {f : Text → α} (hf : ∀ l, f l.close = f l) (ls : List Text) :
    (sealLines ls).map f = ls.map f := by
  rcases List.eq_nil_or_concat ls with rfl | ⟨a, last, rfl⟩
  · rfl
  · rw [List.concat_eq_append, sealLines_concat, List.map_append, List.map_append,
      List.map_map]
    congr 1
    exact List.map_congr_left fun l _ => hf l

theorem mem_sealLines {l : Text} {ls : List Text} (h : l ∈ sealLines ls) :
    ∃ k ∈ ls, l = k ∨ l = k.close := by
  rcases List.eq_nil_or_concat ls with rfl | ⟨a, last, rfl⟩
  · cases h
  · rw [List.concat_eq_append, sealLines_concat] at h
    rcases List.mem_append.1 h with h | h
    · obtain ⟨k, hk, rfl⟩ := List.mem_map.1 h
      exact ⟨k, by simp [hk], .inr rfl⟩
    · exact ⟨last, by simp, .inl (List.mem_singleton.1 h)⟩

/-- A run of lines within sealed lines is that run, its last line perhaps ended. -/
theorem flatten_run_sealed {a x b : List Text} (hx : AreLines x) :
    (((sealLines (a ++ x ++ b)).take (a.length + x.length)).drop a.length).flatten =
      x.flatten ∨
    (((sealLines (a ++ x ++ b)).take (a.length + x.length)).drop a.length).flatten =
      close x.flatten := by
  have hrun : ∀ {a' x' b' : List Text}, a'.length = a.length → x'.length = x.length →
      ((a' ++ x' ++ b').take (a.length + x.length)).drop a.length = x' := by
    intro a' x' b' ha' hx'
    rw [List.take_left' (by rw [List.length_append, ha', hx']), List.drop_left' ha']
  rcases Decidable.em (b = []) with rfl | hb
  · rcases Decidable.em (x = []) with rfl | hne
    · left
      have hlen : (sealLines (a ++ [] ++ [])).length = a.length := by simp
      rw [List.drop_eq_nil_of_le (by rw [List.length_take, hlen]; simp)]
    · left
      rw [List.append_nil, sealLines_append hne, hx.2, ← List.append_nil (a.map _ ++ x),
        hrun (List.length_map _) rfl]
  · right
    rw [sealLines_append hb, List.map_append, hrun (List.length_map _) (List.length_map _),
      flatten_map_close hx]

/-! ### Assembled texts -/

theorem isLine_map_close {ls : List Text} (h : ∀ l ∈ ls, IsLine l) :
    ∀ l ∈ ls.map close, IsLine l := by
  intro l hl
  obtain ⟨k, hk, rfl⟩ := List.mem_map.1 hl
  exact (h k hk).close

theorem areLines_map_close {ls : List Text} (h : ∀ l ∈ ls, IsLine l) : AreLines (ls.map close) := by
  refine ⟨isLine_map_close h, ?_⟩
  rcases List.eq_nil_or_concat ls with rfl | ⟨a, l, rfl⟩
  · rfl
  · rw [List.concat_eq_append, List.map_append, List.map_singleton, sealLines_concat, List.map_map]
    simp

theorem areLines_map_close_append {a b : List Text} (ha : ∀ l ∈ a, IsLine l) (hb : AreLines b) :
    AreLines (a.map close ++ b) := by
  rcases Decidable.em (b = []) with rfl | hne
  · rw [List.append_nil]; exact areLines_map_close ha
  · refine ⟨fun l hl => ?_, ?_⟩
    · rcases List.mem_append.1 hl with hl | hl
      · exact isLine_map_close ha l hl
      · exact hb.1 l hl
    · rw [sealLines_append hne, hb.2]
      simp

theorem map_close_splitLines {t : Text} (h : t.isOpen = false) :
    (splitLines t).map close = splitLines t := by
  have hlines := areLines_splitLines t
  rw [← splitLines_flatten (areLines_map_close hlines.1), flatten_map_close hlines,
    flatten_splitLines, close_of_closed h]

/-- Between lines, ended lines may be exchanged for others. -/
theorem AreLines.exchange {a b c t : List Text} (h : AreLines (a ++ b ++ c)) (hc : c ≠ [])
    (ht : ∀ l ∈ t, IsLine l) (hclosed : t.map close = t) : AreLines (a ++ t ++ c) := by
  have hab := h.map_close_of_append hc
  rw [List.map_append] at hab
  have ha : a.map close = a := (List.append_inj hab (by simp)).1
  have hlines : AreLines (t.map close ++ c) := areLines_map_close_append ht h.of_append_right
  have hall := areLines_map_close_append h.of_append_left.of_append_left.1 hlines
  rwa [ha, hclosed, ← List.append_assoc] at hall

theorem splitLines_close_append (t block : Text) :
    splitLines (t.close ++ block) = (splitLines t).map close ++ splitLines block := by
  have ht := areLines_splitLines t
  have hflat : ((splitLines t).map close ++ splitLines block).flatten = t.close ++ block := by
    rw [List.flatten_append, flatten_map_close ht, flatten_splitLines, flatten_splitLines]
  rw [← hflat, splitLines_flatten (areLines_map_close_append ht.1 (areLines_splitLines block))]

/-- The lines of a text that a block was put on. -/
theorem splitLines_push (t block : Text) :
    splitLines (t.push block) = sealLines (splitLines t ++ splitLines block) := by
  rcases Decidable.em (block = []) with rfl | hb
  · rw [push_nil, splitLines_nil, List.append_nil, (areLines_splitLines t).2]
  · have hlines : splitLines block ≠ [] := fun h => hb (splitLines_eq_nil.1 h)
    rw [push_eq hb, splitLines_close_append, sealLines_append hlines, (areLines_splitLines block).2]

theorem splitLines_foldl_push (t : Text) (blocks : List Text) :
    splitLines (blocks.foldl push t) = sealLines (splitLines t ++ blocks.flatMap splitLines) := by
  induction blocks generalizing t with
  | nil => rw [List.foldl_nil, List.flatMap_nil, List.append_nil, (areLines_splitLines t).2]
  | cons block blocks ih =>
    rw [List.foldl_cons, ih, splitLines_push, sealLines_sealLines_append, List.flatMap_cons,
      List.append_assoc]

/-- The lines of an assembled text are those of the blocks, every one ended but the last. -/
theorem splitLines_assemble (blocks : List Text) :
    splitLines (assemble blocks) = sealLines (blocks.flatMap splitLines) := by
  rw [assemble, splitLines_foldl_push, splitLines_nil, List.nil_append]

end Text

end TemplateMerge
