import TemplateMerge.Proofs.FileTree.Paths

/-! Writing a file changes what stands where its path leads, and nothing else.

    A text goes to the place of a path if there is a directory to hold it and no directory in its
    place.  It may be that no path is given; then nothing is written.  A text may also be added at
    the end of a file that is there.

        path            before                after
        notes/b.md      notes                 notes
                        └── a.md              ├── a.md
                                              └── b.md    the text

    Directories are as they were, so after one text another can be written where it could before. -/

namespace TemplateMerge

namespace FileTree

variable {files : FileTree}

/-- An entry with more text at its end, if it is a text. -/
def Entry.continued (more : Text) : Entry → Entry
  | .text content => .text (content ++ more)
  | e => e

theorem Entry.continued_continued (more rest : Text) (e : Entry) :
    (e.continued more).continued rest = e.continued (more ++ rest) := by
  cases e with
  | text content => exact congrArg Entry.text (List.append_assoc ..)
  | binary => rfl
  | directory => rfl

section Append

variable {path : String} {l location : Location}

theorem find?_appendText_self (more : Text) (hpath : files.resolve? path = some l) :
    (files.appendText path more).find? l = (files.find? l).map (·.continued more) := by
  unfold appendText
  rw [hpath]
  dsimp only
  cases hfound : files.find? l with
  | none => exact hfound
  | some e =>
    cases e with
    | text content =>
      refine find?_put_self _ _ ?_
      rintro rfl
      cases hfound
    | binary => exact hfound
    | directory => exact hfound

theorem find?_appendText_of_ne (more : Text) (hpath : files.resolve? path = some l)
    (h : location ≠ l) : (files.appendText path more).find? location = files.find? location := by
  unfold appendText
  rw [hpath]
  dsimp only
  split
  · exact find?_put_of_ne _ _ h
  · rfl

end Append

end FileTree

end TemplateMerge
