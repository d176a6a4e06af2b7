import TemplateMerge.Diff.Edit

/-! Edit scripts: which lines to keep.

    Old lines run to the right, new lines run down.  A step to the right deletes a line, a step
    down inserts one, and a diagonal step keeps a line that is the same on both sides.  A shortest
    script is a path from corner to corner with the fewest straight steps.

    The search goes from both corners at once.  After `d` straight steps the *frontier* holds, for
    every diagonal `k` (columns less rows), how far to the right a path can be.  Where the two
    frontiers meet the window is divided, and both parts are searched in turn.

              old ─▶
          new ┌──────────────┐
           │  │ ╲            │
           ▼  │   ╲──╮       │
              │      ×       │     × where the frontiers meet
              │      ╰──╲    │
              │           ╲  │
              └──────────────┘  -/

namespace TemplateMerge

namespace Diff

/-- How far paths have come on every diagonal. -/
structure Frontier where
  /-- The place of diagonal zero. -/
  center : Nat
  /-- How far to the right, diagonal by diagonal. -/
  reach : Array Nat

namespace Frontier

/-- No path has left the corner; diagonals run from `-width` to `width`. -/
def start (width : Nat) : Frontier := ⟨width, Array.replicate (2 * width + 1) 0⟩

/-- How far paths have come on a diagonal. -/
def get (f : Frontier) (diagonal : Int) : Nat := f.reach.getD (diagonal + f.center).toNat 0

/-- A path has come as far as `x` on a diagonal. -/
def set (f : Frontier) (diagonal : Int) (x : Nat) : Frontier :=
  { f with reach := f.reach.setIfInBounds (diagonal + f.center).toNat x }

/-- Where a path with `d` straight steps comes onto a diagonal: by a step down from the next
    diagonal, or by a step to the right from the one before, whichever leads further. -/
def enter (f : Frontier) (d : Nat) (diagonal : Int) : Nat :=
  if diagonal = -d ∨ (diagonal ≠ d ∧ f.get (diagonal - 1) < f.get (diagonal + 1)) then
    f.get (diagonal + 1)
  else f.get (diagonal - 1) + 1

end Frontier

/-- The diagonals that paths with `d` straight steps may end on, from the last to the first. -/
def diagonals (d : Nat) : List Int := (List.range (d + 1)).map fun (i : Nat) => (d : Int) - 2 * i

/-- A search within a window. -/
structure Search where
  /-- The old lines. -/
  old : Array Text
  /-- The new lines. -/
  new : Array Text
  /-- The window. -/
  window : Window

namespace Search

/-- The number of old lines. -/
def width (s : Search) : Nat := s.window.oldEnd - s.window.oldStart

/-- The number of new lines. -/
def height (s : Search) : Nat := s.window.newEnd - s.window.newStart

/-- The diagonal of the far corner. -/
def corner (s : Search) : Int := (s.width : Int) - s.height

/-- How many lines are kept from `x` old and `y` new lines after the near corner. -/
def slideForth (s : Search) (x : Nat) (y : Int) : Nat :=
  if 0 ≤ y ∧ x < s.width ∧ y.toNat < s.height then
    let w := s.window
    { w with oldStart := w.oldStart + x, newStart := w.newStart + y.toNat }.commonStart s.old s.new
  else 0

/-- How many lines are kept from `x` old and `y` new lines before the far corner. -/
def slideBack (s : Search) (x : Nat) (y : Int) : Nat :=
  if 0 ≤ y ∧ x < s.width ∧ y.toNat < s.height then
    let w := s.window
    { w with oldEnd := w.oldEnd - x, newEnd := w.newEnd - y.toNat }.commonEnd s.old s.new
  else 0

/-- One more straight step from the near corner, on the given diagonals; stops where the frontiers
    meet. -/
def advanceForth (s : Search) (d : Nat) (back : Frontier) :
    List Int → Frontier → Except (Nat × Nat) Frontier
  | [], forth => .ok forth
  | k :: rest, forth =>
    let x := forth.enter d k
    let y := (x : Int) - k
    let reached := x + s.slideForth x y
    if s.corner % 2 ≠ 0 ∧ (k - s.corner).natAbs + 1 ≤ d ∧
        s.width ≤ reached + back.get (s.corner - k) then
      .error (s.window.oldStart + x, s.window.newStart + y.toNat)
    else advanceForth s d back rest (forth.set k reached)

/-- One more straight step from the far corner, on the given diagonals; stops where the frontiers
    meet. -/
def advanceBack (s : Search) (d : Nat) (forth : Frontier) :
    List Int → Frontier → Except (Nat × Nat) Frontier
  | [], back => .ok back
  | k :: rest, back =>
    let x := back.enter d k
    let y := (x : Int) - k
    let kept := s.slideBack x y
    if s.corner % 2 = 0 ∧ (k - s.corner).natAbs ≤ d ∧
        s.width ≤ x + kept + forth.get (s.corner - k) then
      .error (s.window.oldEnd - (x + kept), s.window.newEnd - (y.toNat + kept))
    else advanceBack s d forth rest (back.set k (x + kept))

/-- Goes on from both corners, from `d` straight steps to `rounds` more. -/
def advance (s : Search) : (rounds d : Nat) → (forth back : Frontier) → Option (Nat × Nat)
  | 0, _, _, _ => none
  | rounds + 1, d, forth, back =>
    match s.advanceForth d back (diagonals d) forth with
    | .error point => some point
    | .ok forth =>
      match s.advanceBack d forth (diagonals d) back with
      | .error point => some point
      | .ok back => s.advance rounds (d + 1) forth back

/-- Where the frontiers meet. -/
def middle? (s : Search) : Option (Nat × Nat) :=
  let rounds := (s.width + s.height + 1) / 2 + 1
  s.advance rounds 0 (.start rounds) (.start rounds)

end Search

/-- The script of a window whose first lines differ and whose last lines differ, by its parts. -/
def divide (old new : Array Text) (w : Window) (part : (v : Window) → v.size < w.size → List Edit) :
    List Edit :=
  let gone : List Edit := [⟨.delete, w.oldStart, w.newStart, w.oldEnd - w.oldStart⟩]
  let added : List Edit := [⟨.insert, w.oldStart, w.newStart, w.newEnd - w.newStart⟩]
  if w.oldEnd ≤ w.oldStart ∧ w.newEnd ≤ w.newStart then []
  else if w.newEnd ≤ w.newStart then gone
  else if w.oldEnd ≤ w.oldStart then added
  else
    match Search.middle? ⟨old, new, w⟩ with
    | none => gone ++ added
    | some (x, y) =>
      let first : Window := { w with oldEnd := x, newEnd := y }
      let second : Window := { w with oldStart := x, newStart := y }
      if h : first.size < w.size ∧ second.size < w.size then
        part first h.1 ++ part second h.2
      else gone ++ added

theorem Window.size_inner_le (w : Window) (a b : Nat) :
    ({ oldStart := w.oldStart + a, oldEnd := w.oldEnd - b,
       newStart := w.newStart + a, newEnd := w.newEnd - b } : Window).size ≤ w.size := by
  simp only [Window.size]
  omega

/-- The keeping of lines, if there are any. -/
def keeping (oldStart newStart length : Nat) : List Edit :=
  if length = 0 then [] else [⟨.keep, oldStart, newStart, length⟩]

/-- The script of a window. -/
def windowScript (old new : Array Text) (w : Window) : List Edit :=
  let a := w.commonStart old new
  let b := { w with oldStart := w.oldStart + a, newStart := w.newStart + a }.commonEnd old new
  let inner : Window :=
    { oldStart := w.oldStart + a, oldEnd := w.oldEnd - b,
      newStart := w.newStart + a, newEnd := w.newEnd - b }
  keeping w.oldStart w.newStart a ++
    divide old new inner (fun part _ => windowScript old new part) ++
    keeping inner.oldEnd inner.newEnd b
termination_by w.size
decreasing_by exact Nat.lt_of_lt_of_le (by assumption) (Window.size_inner_le w _ _)

/-- A script from the old lines to the new ones. -/
def script (old new : Array Text) : List Edit := windowScript old new ⟨0, old.size, 0, new.size⟩

end Diff

end TemplateMerge
