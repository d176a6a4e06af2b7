import TemplateMerge.Proofs.Merge.FrozenRegions
import TemplateMerge.Proofs.Text.Blocks

/-! Outcomes put together in stages.

    An outcome grows piece by piece.  Some pieces may be put together apart, into an outcome of
    their own that begins with nothing, which is then absorbed; and so may some of these.

        at once       a    b    c    d    e
        in stages     a   (b   (c    d))  e

    Whether a line feed goes before a block depends on what is written already, and apart nothing
    is.  Still the stages make no difference (`run_eq`): absorbing a text asks of its first block
    what the block would have been asked had it come alone. -/

namespace TemplateMerge

namespace Text

/-- A text that takes up blocks put together apart has them as if they had come one by one. -/
theorem push_assemble (t : Text) (blocks : List Text) :
    t.push (assemble blocks) = blocks.foldl push t := by
  refine eq_of_splitLines ?_
  rw [splitLines_push, splitLines_assemble, sealLines_append_sealLines, splitLines_foldl_push]

end Text

namespace Outcome

/-- The outcome with pieces, one after the other. -/
def pushPieces (o : Outcome) (pieces : List Piece) : Outcome := pieces.foldl pushPiece o

@[simp] theorem pushPieces_nil (o : Outcome) : o.pushPieces [] = o := rfl

@[simp] theorem pushPieces_cons (o : Outcome) (p : Piece) (pieces : List Piece) :
    o.pushPieces (p :: pieces) = (o.pushPiece p).pushPieces pieces := rfl

theorem pushPieces_append (o : Outcome) (front back : List Piece) :
    o.pushPieces (front ++ back) = (o.pushPieces front).pushPieces back :=
  List.foldl_append

@[simp] theorem pushPiece_block (o : Outcome) (block : Text) :
    o.pushPiece ⟨block, none⟩ = o.push block := by
  simp [pushPiece, push]

@[simp] theorem pushPiece_decision (o : Outcome) (d : Decision) :
    o.pushPiece ⟨[], some d⟩ = o.record d := by
  simp [pushPiece, record, Text.push_nil]

theorem foldl_push_eq (o : Outcome) (blocks : List Text) :
    blocks.foldl push o = o.pushPieces (blocks.map fun block => ⟨block, none⟩) := by
  induction blocks generalizing o with
  | nil => rfl
  | cons block rest ih => simp [ih]

/-- The text and the log grow side by side. -/
theorem pushPieces_eq (o : Outcome) (pieces : List Piece) :
    o.pushPieces pieces =
      { o with
        content := (pieces.map (·.block)).foldl Text.push o.content
        decisions := o.decisions ++ pieces.filterMap (·.decision) } := by
  induction pieces generalizing o with
  | nil => simp
  | cons p rest ih =>
    rw [pushPieces_cons, ih]
    cases hd : p.decision <;> simp [pushPiece, hd]

theorem ofPieces_eq (pieces : List Piece) : ofPieces pieces = empty.pushPieces pieces := by
  simp [pushPieces_eq, ofPieces, empty, Text.assemble]

/-- Pieces that are put together apart and then absorbed come as if they had come one by one. -/
theorem absorb_pushPieces (o : Outcome) (pieces : List Piece) :
    o.absorb (empty.pushPieces pieces) = o.pushPieces pieces := by
  rw [← ofPieces_eq, pushPieces_eq, absorb, ofPieces, Text.push_assemble]

end Outcome

/-- How an outcome is put together. -/
inductive Staging where
  /-- Nothing more comes. -/
  | done
  /-- A piece comes, and then the rest. -/
  | piece (p : Piece) (rest : Staging)
  /-- A group is put together apart and absorbed, and then the rest comes. -/
  | apart (group rest : Staging)

namespace Staging

/-- All pieces in order, those of groups included. -/
def pieces : Staging → List Piece
  | done => []
  | piece p rest => p :: rest.pieces
  | apart group rest => group.pieces ++ rest.pieces

/-- The outcome with what comes; a group begins with nothing. -/
def run : Staging → Outcome → Outcome
  | done, o => o
  | piece p rest, o => rest.run (o.pushPiece p)
  | apart group rest, o => rest.run (o.absorb (group.run .empty))

/-- Whatever the stages, the outcome is that of the pieces one by one. -/
theorem run_eq (s : Staging) (o : Outcome) : s.run o = o.pushPieces s.pieces := by
  induction s generalizing o with
  | done => rfl
  | piece p rest ih => simp [run, pieces, ih]
  | apart group rest ihGroup ih =>
    rw [run, pieces, ih, ihGroup, Outcome.absorb_pushPieces, Outcome.pushPieces_append]

end Staging

/-- A replacement is written in stages, for the range is merged apart.  It is the outcome of all
    pieces at once: the lines before, the decision to replace, the range, and the lines after. -/
theorem Merger.replacement_eq {N : Type} [NodeView N] (m : Merger N)
    (template destination : Prepared N) (point : Injection.Point N) :
    let region := replacedRegion destination point
    let lines := destination.document.sourceRange
    m.replacement template destination point =
      .ofPieces (⟨lines 1 (region.firstLine - 1), none⟩ ::
        ⟨[], some (replacedDecision point.anchor)⟩ ::
        (m.regionPieces template destination region true ++
          [⟨lines (region.lastLine + 1) destination.document.lineCount, none⟩])) := by
  intro region lines
  simp only [Outcome.ofPieces_eq, Outcome.pushPieces_cons, Outcome.pushPieces_append,
    Outcome.pushPiece_block, Outcome.pushPiece_decision, Outcome.pushPieces_nil]
  rw [← Outcome.absorb_pushPieces, ← Outcome.ofPieces_eq]
  rfl

/-- An outcome does not tell in what stages it was put together: groups put together apart, within
    others or not, leave what their pieces would have left, text and log.  In particular a run of
    blocks may be put together apart.  And the text is that of the blocks that are not empty, with a
    line feed after each that is not the last and does not end with one. -/
theorem stages_leave_no_trace :
    (∀ (s : Staging) (o : Outcome), s.run o = o.pushPieces s.pieces) ∧
      (∀ (o : Outcome) (before group after : List Text),
        after.foldl Outcome.push
            ((before.foldl Outcome.push o).absorb (group.foldl Outcome.push .empty)) =
          (before ++ group ++ after).foldl Outcome.push o) ∧
      ∀ blocks : List Text, (blocks.foldl Outcome.push .empty).content =
        Text.joinBlocks (blocks.filter (· ≠ [])) := by
  refine ⟨Staging.run_eq, fun o before group after => ?_, fun blocks => ?_⟩
  · rw [Outcome.foldl_push_eq .empty group, Outcome.absorb_pushPieces, ← Outcome.foldl_push_eq,
      List.foldl_append, List.foldl_append]
  · have hblocks : (blocks.map fun block => (⟨block, none⟩ : Piece)).map (·.block) = blocks := by
      rw [List.map_map]
      exact List.map_id blocks
    rw [Outcome.foldl_push_eq, ← Outcome.ofPieces_eq, Outcome.ofPieces, hblocks,
      Text.assemble_eq_joinBlocks]

/-- A group whose last line is not ended, one of a line feed alone, and one of nothing. -/
example :
    let block (s : String) : Piece := ⟨s.toList, none⟩
    ((Staging.piece (block "a") (.apart (.piece (block "\n") (.piece (block "b") .done))
      (.apart .done (.piece (block "c\n") .done)))).run .empty).content = "a\n\nb\nc\n".toList := by
  decide

end TemplateMerge
