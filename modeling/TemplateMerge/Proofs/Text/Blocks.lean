import TemplateMerge.Proofs.Text.Assembly

/-! Blocks with line feeds between.

    A text that is put together block by block is the blocks, empty ones left out, with a line feed
    after each that lacks one and is not the last (`assemble_eq_joinBlocks`).

        blocks      "a\nb"        ""        "c\n"        "d"
        joined      "a\nb" ⏎                "c\n"        "d"

    So what follows a block does not depend on the block, only on whether it ends its last line
    (`exists_append_foldl_push`). -/

namespace TemplateMerge

namespace Text

/-- Blocks one after the other, with a line feed between two of them when the first does not end
    with one. -/
def joinBlocks : List Text → Text
  | [] => []
  | [block] => block
  | block :: next :: rest =>
    block ++ (if block.getLast? = some '\n' then [] else ['\n']) ++ joinBlocks (next :: rest)

/-! ### What is joined -/

theorem close_eq {block : Text} (h : block ≠ []) :
    block.close = block ++ if block.getLast? = some '\n' then [] else ['\n'] := by
  cases hopen : block.isOpen with
  | true =>
    have hlast : block.getLast? ≠ some '\n' := by
      simpa [isOpen, h] using hopen
    rw [close_of_open hopen, if_neg hlast]
  | false =>
    have hlast : block.getLast? = some '\n' := by
      simpa [isOpen, h] using hopen
    rw [close_of_closed hopen, if_pos hlast, List.append_nil]

theorem joinBlocks_cons {block : Text} {rest : List Text} (h : block ≠ []) (hrest : rest ≠ []) :
    joinBlocks (block :: rest) = block.close ++ joinBlocks rest := by
  cases rest with
  | nil => exact absurd rfl hrest
  | cons next rest => rw [joinBlocks, close_eq h]

/-- Blocks that are put on a text are joined after its last line has been ended. -/
theorem foldl_push_eq {blocks : List Text} (hblocks : blocks ≠ []) :
    ∀ {t : Text}, (∀ b ∈ blocks, b ≠ []) → blocks.foldl push t = t.close ++ joinBlocks blocks := by
  induction blocks with
  | nil => exact absurd rfl hblocks
  | cons block rest ih =>
    intro t h
    have hblock : block ≠ [] := h block (by simp)
    rw [List.foldl_cons, push_eq hblock]
    rcases Decidable.em (rest = []) with rfl | hrest
    · rfl
    · rw [ih hrest fun b hb => h b (List.mem_cons_of_mem _ hb), close_append hblock,
        joinBlocks_cons hblock hrest, List.append_assoc]

theorem foldl_push_filter (blocks : List Text) : ∀ t : Text,
    blocks.foldl push t = (blocks.filter (· ≠ [])).foldl push t := by
  induction blocks with
  | nil => intro t; rfl
  | cons block rest ih =>
    intro t
    rcases Decidable.em (block = []) with rfl | hblock
    · simpa [push_nil] using ih t
    · simpa [hblock] using ih (t.push block)

/-- A text that is put together is its blocks joined, empty ones left out. -/
theorem assemble_eq_joinBlocks (blocks : List Text) :
    assemble blocks = joinBlocks (blocks.filter (· ≠ [])) := by
  rw [assemble, foldl_push_filter]
  rcases Decidable.em (blocks.filter (· ≠ []) = []) with hnil | hne
  · rw [hnil]
    rfl
  · rw [foldl_push_eq hne fun b hb => by simpa using (List.mem_filter.1 hb).2]
    rfl

theorem joinBlocks_single (block : Text) : joinBlocks ([block].filter (· ≠ [])) = block := by
  rcases Decidable.em (block = []) with rfl | hne
  · rfl
  · rw [List.filter_cons_of_pos (by simpa using hne)]
    rfl

theorem prefix_joinBlocks (block : Text) (rest : List Text) :
    block <+: joinBlocks ((block :: rest).filter (· ≠ [])) := by
  rcases Decidable.em (block = []) with rfl | hne
  · exact List.nil_prefix
  · rw [List.filter_cons_of_pos (by simpa using hne)]
    cases rest.filter (· ≠ []) with
    | nil => exact List.prefix_refl block
    | cons next rest =>
      rw [joinBlocks, List.append_assoc]
      exact List.prefix_append block _

theorem assemble_congr {blocks blocks' : List Text}
    (h : blocks.flatMap splitLines = blocks'.flatMap splitLines) :
    assemble blocks = assemble blocks' :=
  eq_of_splitLines (by rw [splitLines_assemble, splitLines_assemble, h])

/-! ### What follows a block -/

theorem isOpen_push (t block : Text) :
    (t.push block).isOpen = if block = [] then t.isOpen else block.isOpen := by
  split
  · next h => rw [h, push_nil]
  · next h => rw [push_eq h, isOpen_append h]

/-- What a block adds to a text depends only on whether the text ends its last line. -/
theorem exists_append_push {t t' : Text} (h : t.isOpen = t'.isOpen) (block : Text) :
    ∃ y, t.push block = t ++ y ∧ t'.push block = t' ++ y := by
  rcases Decidable.em (block = []) with rfl | hblock
  · exact ⟨[], by simp [push_nil], by simp [push_nil]⟩
  · rw [push_eq hblock, push_eq hblock]
    cases hopen : t.isOpen with
    | true =>
      rw [close_of_open hopen, close_of_open (h ▸ hopen)]
      exact ⟨'\n' :: block, by simp, by simp⟩
    | false =>
      rw [close_of_closed hopen, close_of_closed (h ▸ hopen)]
      exact ⟨block, rfl, rfl⟩

/-- What further blocks add to a text depends only on whether the text ends its last line. -/
theorem exists_append_foldl_push (blocks : List Text) : ∀ {t t' : Text}, t.isOpen = t'.isOpen →
    ∃ y, blocks.foldl push t = t ++ y ∧ blocks.foldl push t' = t' ++ y := by
  induction blocks with
  | nil => intro t t' _; exact ⟨[], by simp, by simp⟩
  | cons block rest ih =>
    intro t t' h
    obtain ⟨y, hy, hy'⟩ := exists_append_push h block
    have hopen : (t.push block).isOpen = (t'.push block).isOpen := by
      rw [isOpen_push, isOpen_push, h]
    obtain ⟨z, hz, hz'⟩ := ih hopen
    refine ⟨y ++ z, ?_, ?_⟩
    · rw [List.foldl_cons, hz, hy, List.append_assoc]
    · rw [List.foldl_cons, hz', hy', List.append_assoc]

/-- When one block is exchanged for another that ends its last line just as the first does, the
    text around it stays. -/
theorem exists_assemble_set {blocks : List Text} {n : Nat} {block block' : Text}
    (h : blocks[n]? = some block) (hne : block ≠ []) (hne' : block' ≠ [])
    (hopen : block.isOpen = block'.isOpen) (rest : List Text) :
    ∃ x y, assemble (blocks ++ rest) = x ++ block ++ y ∧
      assemble (blocks.set n block' ++ rest) = x ++ block' ++ y := by
  obtain ⟨hlt, hget⟩ := List.getElem?_eq_some_iff.1 h
  obtain ⟨before, after, hblocks, -, hset⟩ : ∃ before after, blocks = before ++ blocks[n] :: after ∧
      before.length = n ∧ blocks.set n block' = before ++ block' :: after :=
    List.exists_of_set hlt
  have hsame : ((assemble before).close ++ block).isOpen =
      ((assemble before).close ++ block').isOpen := by
    rw [isOpen_append hne, isOpen_append hne', hopen]
  obtain ⟨y, hy, hy'⟩ := exists_append_foldl_push (after ++ rest) hsame
  refine ⟨(assemble before).close, y, ?_, ?_⟩
  · rw [hblocks, hget, List.append_assoc, List.cons_append, assemble, List.foldl_append,
      List.foldl_cons, push_eq hne]
    exact hy
  · rw [hset, List.append_assoc, List.cons_append, assemble, List.foldl_append, List.foldl_cons,
      push_eq hne']
    exact hy'

end Text

end TemplateMerge
