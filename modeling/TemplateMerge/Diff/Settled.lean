import TemplateMerge.Diff.Edit

/-! Settled scripts: every deletion and insertion in its final place.

    An insertion after kept lines may often stand further up as well, when the lines before it end
    like the inserted ones.  It is slid up as far as it goes, then down as far as it goes; what it
    meets on the way that is not kept lines it joins or passes.

        keep    a b             keep   a
        insert  c b      ⇄      insert b c
                                keep   b

    First all deletions are slid, then all insertions.  A script is gone through with one edit in
    hand, the edits before it with the nearest first, and the edits after it. -/

namespace TemplateMerge

namespace Diff

/-- A script opened at one edit. -/
structure Cursor where
  /-- The edits before, the nearest first. -/
  before : List Edit
  /-- The edit in hand. -/
  here : Edit
  /-- The edits after. -/
  after : List Edit
  deriving Repr

/-- A bound for the number of moves over some edits. -/
def moves : List Edit → Nat
  | [] => 0
  | e :: rest => e.length + 1 + moves rest

@[simp] theorem moves_nil : moves [] = 0 := rfl

@[simp] theorem moves_cons (e : Edit) (rest : List Edit) :
    moves (e :: rest) = e.length + 1 + moves rest := rfl

/-- How many of the last lines that `e` keeps are the last that `here` inserts. -/
def sharedEnd (old new : Array Text) (e here : Edit) : Nat :=
  ({ oldStart := e.oldStart, oldEnd := e.oldEnd,
     newStart := here.newStart, newEnd := here.newEnd } : Window).commonEnd old new

/-- How many of the first lines that `e` keeps are the first that `here` inserts. -/
def sharedStart (old new : Array Text) (e here : Edit) : Nat :=
  ({ oldStart := e.oldStart, oldEnd := e.oldEnd,
     newStart := here.newStart, newEnd := here.newEnd } : Window).commonStart old new

/-- An edit unless it has no lines. -/
def nonempty (e : Edit) : List Edit := if e.length = 0 then [] else [e]

/-- Lines taken off an edit leave fewer moves. -/
theorem moves_nonempty_lt {e f : Edit} {n : Nat} (h : f.length = e.length - n) (hn : 0 < n) :
    moves (nonempty f) < e.length + 1 := by
  unfold nonempty
  split
  · simp
  · simp
    omega

theorem moves_append (a b : List Edit) : moves (a ++ b) = moves a + moves b := by
  induction a with
  | nil => simp
  | cons e rest ih => simp [ih, Nat.add_assoc]

/-- Kept lines added in front of edits: to the next edit if it keeps lines too. -/
def keepBefore (oldStart newStart n : Nat) : List Edit → List Edit
  | [] => [⟨.keep, oldStart, newStart, n⟩]
  | e :: rest =>
    if e.kind = .keep then e.growStart n :: rest
    else ⟨.keep, oldStart, newStart, n⟩ :: e :: rest

/-- Kept lines added after edits, of which the nearest comes first. -/
def keepAfter (oldStart newStart n : Nat) : List Edit → List Edit
  | [] => [⟨.keep, oldStart, newStart, n⟩]
  | e :: rest =>
    if e.kind = .keep then e.growEnd n :: rest
    else ⟨.keep, oldStart, newStart, n⟩ :: e :: rest

namespace Cursor

/-- Slides the edit in hand up as far as it goes. -/
def slideUp (old new : Array Text) (c : Cursor) : Cursor :=
  match _h : c.before with
  | [] => c
  | e :: before =>
    if e.kind = .keep then
      let n := sharedEnd old new e c.here
      if _hn : 0 < n then
        slideUp old new
          ⟨nonempty (e.dropEnd n) ++ before, c.here.shiftUp n,
            keepBefore (e.oldEnd - n) (c.here.newEnd - n) n c.after⟩
      else if e.length = 0 then slideUp old new { c with before }
      else c
    else if e.kind = c.here.kind then
      slideUp old new { c with before, here := e.growEnd c.here.length }
    else slideUp old new ⟨before, c.here, e :: c.after⟩
termination_by moves c.before
decreasing_by
  · simpa [_h, moves_append] using moves_nonempty_lt rfl _hn
  all_goals simp [_h]

/-- Slides the edit in hand down as far as it goes. -/
def slideDown (old new : Array Text) (c : Cursor) : Cursor :=
  match _h : c.after with
  | [] => c
  | e :: after =>
    if e.kind = .keep then
      let n := sharedStart old new e c.here
      if _hn : 0 < n then
        slideDown old new
          ⟨keepAfter e.oldStart c.here.newStart n c.before, c.here.shiftDown n,
            nonempty (e.dropStart n) ++ after⟩
      else if e.length = 0 then slideDown old new { c with after }
      else c
    else if e.kind = c.here.kind then
      slideDown old new { c with here := c.here.growEnd e.length, after }
    else slideDown old new ⟨e :: c.before, c.here, after⟩
termination_by moves c.after
decreasing_by
  · simpa [_h, moves_append] using moves_nonempty_lt rfl _hn
  all_goals simp [_h]

end Cursor

/-- Slides the edits of a kind, in order; `before` are those that are done, the nearest first. -/
def settleKind (old new : Array Text) (kind : EditKind) :
    (fuel : Nat) → (before edits : List Edit) → List Edit
  | 0, before, edits => before.reverse ++ edits
  | _, before, [] => before.reverse
  | fuel + 1, before, e :: edits =>
    if e.kind = kind then
      let c := ((Cursor.mk before e edits).slideUp old new).slideDown old new
      settleKind old new kind fuel (c.here :: c.before) c.after
    else settleKind old new kind fuel (e :: before) edits

/-- A script whose deletions and insertions are in their final places. -/
def settle (old new : Array Text) (edits : List Edit) : List Edit :=
  let deleted := settleKind old new .delete (moves edits) [] edits
  settleKind old new .insert (moves deleted) [] deleted

end Diff

end TemplateMerge
