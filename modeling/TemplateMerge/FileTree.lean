import TemplateMerge.Text.Basic

/-! File trees: the files that a command reads and writes.

    A file holds a text, or bytes that are no text.  A location is the list of names from the root
    of the tree down; a path is resolved to a location name by name, from the working directory
    unless it begins with a slash.  Every name but the last must be that of a directory.

        working directory   work
        path                ./notes/../a.md        ──▶   work · a.md     if notes is a directory

    A directory is made with those above it: where the one above is missing, it is made first.  If
    not all can be made, those that were made stay. -/

namespace TemplateMerge

namespace FileTree

/-- What stands at a location. -/
inductive Entry where
  /-- A file that holds a text. -/
  | text (content : Text)
  /-- A file whose bytes are no text. -/
  | binary
  | directory
  deriving DecidableEq, Repr

namespace Entry

/-- Whether an entry is a file. -/
def isFile : Entry → Bool
  | directory => false
  | _ => true

end Entry

/-- The names from the root down to an entry. -/
abbrev Location := List String

/-- Why a file cannot be read. -/
inductive ReadFault where
  | missing
  | directory
  | notText
  deriving DecidableEq, Repr

/-- The message of a read fault. -/
def ReadFault.message : ReadFault → String
  | .missing => "No such file or directory (os error 2)"
  | .directory => "Is a directory (os error 21)"
  | .notText => "stream did not contain valid UTF-8"

/-- Why a directory cannot be made. -/
inductive MakeFault where
  /-- Something has its name. -/
  | taken
  /-- A file stands where a directory above it should. -/
  | notDirectory
  /-- Nothing stands where a directory above it should. -/
  | missing
  /-- A name, or the whole path, is too long. -/
  | tooLong
  /-- There is a NUL in the path. -/
  | nul
  deriving DecidableEq, Repr

/-- The message of a fault of making a directory. -/
def MakeFault.message : MakeFault → String
  | .taken => "File exists (os error 17)"
  | .notDirectory => "Not a directory (os error 20)"
  | .missing => "No such file or directory (os error 2)"
  | .tooLong => "File name too long (os error 36)"
  | .nul => "file name contained an unexpected NUL byte"

/-- The greatest number of bytes in a name. -/
def nameLimit : Nat := 255

/-- The greatest number of bytes in a path. -/
def pathLimit : Nat := 4095

/-- Whether a name is short enough to stand for something. -/
def fits (name : String) : Bool := name.utf8ByteSize ≤ nameLimit

/-- The names of a path.  Two slashes in a row, and a slash at the end, have an empty name between
    or after them. -/
def components (path : String) : List String :=
  (path.toList.splitOn '/').map String.ofList

/-- A path within a directory. -/
def join (directory path : String) : String :=
  if path.toList.head? = some '/' ∨ directory.isEmpty then path
  else if directory.toList.getLast? = some '/' then directory ++ path
  else directory ++ "/" ++ path

end FileTree

open FileTree in
/-- Files and directories, and the directory in which a command works. -/
structure FileTree where
  /-- The working directory. -/
  workingDirectory : Location
  /-- What stands where, but for the root. -/
  entries : List (Location × Entry)

namespace FileTree

/-- What stands at a location; the root is a directory. -/
def find? (t : FileTree) (location : Location) : Option Entry :=
  if location = [] then some .directory else t.entries.lookup location

/-- The tree with an entry in place of what stood there. -/
def put (t : FileTree) (location : Location) (entry : Entry) : FileTree :=
  { t with entries := t.entries.filter (·.1 ≠ location) ++ [(location, entry)] }

theorem lookup_put {entries : List (Location × Entry)} {entry : Entry} (location other : Location) :
    (entries.filter (·.1 ≠ location) ++ [(location, entry)]).lookup other =
      if other = location then some entry else entries.lookup other := by
  induction entries with
  | nil =>
    by_cases ho : other = location
    · simp [ho]
    · simp [List.lookup_cons, ho, beq_eq_false_iff_ne.2 ho]
  | cons head rest ih =>
    by_cases hl : head.1 = location
    · rw [List.filter_cons_of_neg (by simp [hl]), ih, List.lookup_cons]
      by_cases ho : other = location
      · simp [ho]
      · simp [ho, hl, beq_eq_false_iff_ne.2 ho]
    · rw [List.filter_cons_of_pos (by simp [hl]), List.cons_append, List.lookup_cons,
        List.lookup_cons, ih]
      by_cases ho : other = head.1
      · simp [ho, hl]
      · simp [beq_eq_false_iff_ne.2 ho]

theorem find?_put_self (t : FileTree) {location : Location} (entry : Entry) (h : location ≠ []) :
    (t.put location entry).find? location = some entry := by
  simp only [find?, put, if_neg h, lookup_put, if_pos]

theorem find?_put_of_ne (t : FileTree) {location other : Location} (entry : Entry)
    (h : other ≠ location) : (t.put location entry).find? other = t.find? other := by
  simp only [find?, put, lookup_put, if_neg h]

/-- One step along a path, from a directory. -/
def step (location : Location) (name : String) : Location :=
  if name = "" ∨ name = "." then location
  else if name = ".." then location.dropLast
  else location ++ [name]

/-- The locations that names lead through, the first and the last included. -/
def passed (location : Location) : List String → List Location
  | [] => [location]
  | name :: rest => location :: passed (step location name) rest

/-- Where a path begins. -/
def origin (t : FileTree) (path : String) : Location :=
  if path.toList.head? = some '/' then [] else t.workingDirectory

/-- The location that a path leads to, with or without an entry, if there are directories all the
    way and nothing is too long. -/
def resolve? (t : FileTree) (path : String) : Option Location :=
  if pathLimit < path.utf8ByteSize then none
  else
    (components path).foldlM (fun location name =>
      if t.find? location = some .directory ∧ fits name then some (step location name) else none)
      (t.origin path)

/-- What a path leads to. -/
def at? (t : FileTree) (path : String) : Option Entry := (t.resolve? path).bind t.find?

/-- Whether a path leads to a file. -/
def isFile (t : FileTree) (path : String) : Bool := (t.at? path).any Entry.isFile

/-- The text of the file that a path leads to. -/
def readText (t : FileTree) (path : String) : Except ReadFault Text :=
  match t.at? path with
  | some (.text content) => .ok content
  | some .binary => .error .notText
  | some .directory => .error .directory
  | none => .error .missing

/-- The tree with a text in the file that a path leads to.  The file is made if it is missing; there
    is no result where it cannot be made. -/
def writeText? (t : FileTree) (path : String) (content : Text) : Option FileTree :=
  (t.resolve? path).bind fun location =>
    if t.find? location = some .directory then none else some (t.put location (.text content))

/-- The tree with a file at a path: an empty one if nothing was there, and where nothing can be made
    there the tree is as it was. -/
def ensureFile (t : FileTree) (path : String) : FileTree :=
  match t.resolve? path with
  | none => t
  | some location => if (t.find? location).isSome then t else t.put location (.text [])

/-- The tree with more text at the end of the file that a path leads to.  What is no text stays so,
    and where there is no file the tree is as it was. -/
def appendText (t : FileTree) (path : String) (more : Text) : FileTree :=
  match t.resolve? path with
  | none => t
  | some location =>
    match t.find? location with
    | some (.text content) => t.put location (.text (content ++ more))
    | _ => t

/-- The names of the files that stand directly in a directory, in increasing order. -/
def filesIn? (t : FileTree) (path : String) : Option (List String) :=
  (t.resolve? path).bind fun location =>
    if t.find? location ≠ some .directory then none
    else
      let names := t.entries.filterMap fun (l, e) =>
        if l.dropLast = location ∧ e.isFile then l.getLast? else none
      some (names.mergeSort (· ≤ ·))

/-! ### Making directories -/

/-- The names of a path, the empty ones left out. -/
def names (path : String) : List String := (components path).filter (· ≠ "")

/-- The names of the directory above the last name that matters, the names of that one's, and so on.
    A dot does not matter. -/
def above (names : List String) : List (List String) :=
  let names := names.filter (· ≠ ".")
  (List.range (names.length - 1)).map fun k => names.take (names.length - 1 - k)

/-- Whether names lead to a directory. -/
def leadsToDirectory (t : FileTree) : Location → List String → Bool
  | location, [] => t.find? location = some .directory
  | location, name :: rest =>
    t.find? location = some .directory && t.leadsToDirectory (step location name) rest

/-- The tree with one more directory, in a directory that is there. -/
def makeOne (t : FileTree) (location : Location) : List String → Except MakeFault FileTree
  | [] => .error .taken
  | name :: rest =>
    if !fits name then .error .tooLong
    else
      let next := step location name
      match rest with
      | [] =>
        if name = "." ∨ name = ".." ∨ (t.find? next).isSome then .error .taken
        else .ok (t.put next .directory)
      | _ :: _ =>
        match t.find? next with
        | none => .error .missing
        | some .directory => t.makeOne next rest
        | some _ => .error .notDirectory

/-- The tree with a directory, in a directory that is there, or the reason why it cannot be made; it
    may be there already. -/
def makeUnlessThere (t : FileTree) (location : Location) (names : List String) :
    FileTree × Option MakeFault :=
  match t.makeOne location names with
  | .ok made => (made, none)
  | .error .taken => (t, if t.leadsToDirectory location names then none else some .taken)
  | .error fault => (t, some fault)

/-- The tree with a directory, and before it those above it that are missing; the names of these
    are given, the nearest first. -/
def makeAll (t : FileTree) (location : Location) (names : List String) :
    (above : List (List String)) → FileTree × Option MakeFault
  | [] => t.makeUnlessThere location names
  | next :: above =>
    match t.makeUnlessThere location names with
    | (_, some .missing) =>
      match t.makeAll location next above with
      | (made, none) => made.makeUnlessThere location names
      | unfinished => unfinished
    | result => result

/-- The tree with the directory that a path leads to, and those above it, as far as they can be
    made. -/
def makeDirectory (t : FileTree) (path : String) : FileTree × Option MakeFault :=
  let names := names path
  if path.toList.contains '\x00' then (t, some .nul)
  else if pathLimit < path.utf8ByteSize then (t, some .tooLong)
  else if names.isEmpty then (t, none)
  else t.makeAll (t.origin path) names (above names)

/-- The files whose text is not what it was in another tree, with their texts. -/
def changesSince (t before : FileTree) : List (Location × Text) :=
  t.entries.filterMap fun (l, e) =>
    match e with
    | .text content => if before.find? l = some e then none else some (l, content)
    | _ => none

/-- The directories that are not in another tree. -/
def directoriesSince (t before : FileTree) : List Location :=
  t.entries.filterMap fun (l, e) =>
    if e = .directory ∧ before.find? l ≠ some e then some l else none

end FileTree

end TemplateMerge
