import TemplateMerge.Proofs.Document.Ranges
import TemplateMerge.Proofs.Text.LineStarts

/-! Ranges of lines tile the text.

    All output is copied from documents by ranges of lines.  A range is the bytes between the place
    where its first line begins and the place where the line after its last one does, or the end of
    the text if there is no such line.

        text          é \n a \n \n b                 lines 2 – 3      bytes 3 – 6
        places        0    3    5  6  7              lines 4 – 9      bytes 6 – 7

    Two ranges that meet in a place put together are the range from the first to the second, and no
    place is in the middle of a character. -/

namespace TemplateMerge

namespace Text

/-- The place where the line numbered `n` begins; the end of the text if there is no such line. -/
def lineStart (t : Text) (n : Nat) : Nat := ((lineStarts t)[n - 1]?).getD (byteLength t)

@[simp] theorem byteLength_nil : byteLength [] = 0 := rfl

@[simp] theorem byteLength_append (a b : Text) :
    byteLength (a ++ b) = byteLength a + byteLength b := by
  induction a with
  | nil => simp
  | cons c a ih => simp [ih, Nat.add_assoc]

theorem utf8ByteSize_ofList (t : Text) : (String.ofList t).utf8ByteSize = byteLength t := by
  induction t with
  | nil => rfl
  | cons c t ih =>
    have hsplit : String.ofList (c :: t) = String.singleton c ++ String.ofList t := by
      rw [String.singleton_eq_ofList, ← String.ofList_append, List.singleton_append]
    rw [hsplit, String.utf8ByteSize_append, String.utf8ByteSize_singleton, ih, byteLength_cons]

theorem size_utf8Encode (t : Text) : t.utf8Encode.size = byteLength t := by
  rw [← String.toByteArray_ofList, String.size_toByteArray, utf8ByteSize_ofList]

/-- Lines that stand one after the other begin where those before them end. -/
theorem getElem?_startsFrom (ls : List Text) : ∀ place i : Nat,
    (startsFrom place ls)[i]? =
      if i < ls.length then some (place + byteLength (ls.take i).flatten) else none := by
  induction ls with
  | nil => simp [startsFrom]
  | cons l rest ih =>
    intro place i
    cases i with
    | zero => simp [startsFrom]
    | succ i => simp [startsFrom, ih, Nat.add_assoc]

theorem lineStart_succ (t : Text) (i : Nat) :
    lineStart t (i + 1) = byteLength ((splitLines t).take i).flatten := by
  rw [lineStart, Nat.add_sub_cancel, lineStarts_eq_startsFrom, getElem?_startsFrom]
  split
  · next h => simp
  · next h => rw [List.take_of_length_le (Nat.le_of_not_lt h), flatten_splitLines]; rfl

/-- Between two parts of a text there is a boundary of characters. -/
theorem isValid_byteLength (front back : Text) :
    String.Pos.Raw.IsValid (String.ofList (front ++ back)) ⟨byteLength front⟩ := by
  rw [String.Pos.Raw.isValid_ofList]
  exact ⟨front.length, by rw [List.take_left, utf8ByteSize_ofList]⟩

end Text

namespace Document

variable {N : Type} (d : Document N)

/-! ### Ranges that meet -/

theorem sourceRange_append {first last stop : Nat} (hfirst : first ≤ last + 1)
    (hlast : last ≤ stop) :
    d.sourceRange first last ++ d.sourceRange (last + 1) stop = d.sourceRange first stop := by
  obtain ⟨k, hk⟩ : ∃ k, last = first - 1 + k := Nat.exists_eq_add_of_le (by omega)
  have hstop : stop - (first - 1) = k + (stop - last) := by omega
  have hrest : d.lines.drop last = (d.lines.drop (first - 1)).drop k := by
    rw [List.drop_drop, ← hk]
  simp only [sourceRange, Nat.add_sub_cancel, List.drop_take]
  rw [hstop, List.take_add, List.flatten_append, hrest, show last - (first - 1) = k by omega]

theorem sourceRange_of_le {first last : Nat} (h : d.lineCount ≤ last) :
    d.sourceRange first last = d.sourceRange first d.lineCount := by
  rw [sourceRange, sourceRange, List.take_of_length_le h, lineCount, List.take_length]

theorem sourceRange_append_rest (last : Nat) :
    d.sourceRange 1 last ++ d.sourceRange (last + 1) (max last d.lineCount) = d.source := by
  rw [d.sourceRange_append (by omega) (Nat.le_max_left ..),
    d.sourceRange_of_le (Nat.le_max_right ..), sourceRange_all]

/-! ### Ranges in bytes -/

theorem lineStart_eq (n : Nat) :
    Text.lineStart d.source n = Text.byteLength (d.sourceRange 1 (n - 1)) := by
  cases n with
  | zero =>
    rw [Text.lineStart, Nat.zero_sub, ← Nat.sub_self 1, ← Text.lineStart, Text.lineStart_succ]
    simp [sourceRange]
  | succ i => rw [Text.lineStart_succ, sourceRange, d.lines_eq]; rfl

/-- No line begins in the middle of a character. -/
theorem isValid_lineStart (n : Nat) :
    String.Pos.Raw.IsValid (String.ofList d.source) ⟨Text.lineStart d.source n⟩ := by
  rw [lineStart_eq, ← d.sourceRange_append_rest (n - 1)]
  exact Text.isValid_byteLength _ _

/-- The bytes of a range are those between two places where lines begin. -/
theorem utf8Encode_sourceRange (first last : Nat) :
    (d.sourceRange first last).utf8Encode =
      d.source.utf8Encode.extract (Text.lineStart d.source first)
        (Text.lineStart d.source (last + 1)) := by
  let before := d.sourceRange 1 (first - 1)
  rw [lineStart_eq, lineStart_eq, Nat.add_sub_cancel]
  rcases Nat.lt_or_ge (last + 1) first with hempty | hle
  · -- the range is empty, and its end does not come after its beginning
    have hrange : d.sourceRange first last = [] := by
      rw [sourceRange, List.drop_eq_nil_of_le, List.flatten_nil]
      rw [List.length_take]
      omega
    have hmono : Text.byteLength (d.sourceRange 1 last) ≤ Text.byteLength before := by
      have hmeet : d.sourceRange 1 last ++ d.sourceRange (last + 1) (first - 1) = before :=
        d.sourceRange_append (by omega) (by omega)
      simp [← hmeet]
    rw [hrange, List.utf8Encode_nil, eq_comm, ByteArray.extract_eq_empty_iff]
    exact Nat.le_trans (Nat.min_le_left ..) hmono
  · have hparts : before ++ d.sourceRange first last = d.sourceRange 1 last := by
      cases first with
      | zero => simp [before, sourceRange]
      | succ i => exact d.sourceRange_append (by omega) (by omega)
    rw [← d.sourceRange_append_rest last, ← hparts, List.append_assoc, List.utf8Encode_append,
      List.utf8Encode_append, Text.byteLength_append, ← Text.size_utf8Encode before,
      ← Text.size_utf8Encode (d.sourceRange first last)]
    rw [← Nat.add_zero before.utf8Encode.size, Nat.add_assoc, ByteArray.extract_append_size_add,
      Nat.zero_add, ByteArray.extract_append_eq_left rfl]

/-! ### Single lines -/

theorem sourceRange_self {n : Nat} (h1 : 1 ≤ n) (h2 : n ≤ d.lineCount) :
    d.sourceRange n n = d.line n := by
  have hlines := splitLines_slice_single (d := d) h1 h2
  have hflat := congrArg List.flatten hlines
  rw [Text.flatten_splitLines] at hflat
  simpa [slice] using hflat

theorem isOpen_line {n : Nat} (h1 : 1 ≤ n) (h2 : n < d.lineCount) : (d.line n).isOpen = false := by
  have hlines : Text.AreLines (d.lines.take n ++ d.lines.drop n) := by
    rw [List.take_append_drop]
    exact d.areLines
  have hmore : d.lines.drop n ≠ [] := by
    rw [Ne, List.drop_eq_nil_iff]
    exact Nat.not_le_of_lt h2
  have hmem : d.line n ∈ d.lines.take n := by
    obtain ⟨i, rfl⟩ := Nat.exists_eq_add_of_le' h1
    have hi : i < d.lines.length := Nat.lt_of_succ_lt h2
    rw [line_of_lt hi]
    exact List.mem_take_iff_getElem.2 ⟨i, by omega, rfl⟩
  have hclosed := hlines.map_close_of_append hmore
  rw [← hclosed] at hmem
  obtain ⟨l, -, hl⟩ := List.mem_map.1 hmem
  rw [← hl]
  exact Text.isOpen_close l

/-- A line has no line feed but at its end. -/
theorem not_mem_dropLast {l : Text} (h : Text.IsLine l) : '\n' ∉ l.dropLast := by
  obtain ⟨body, hbody, rfl | ⟨rfl, -⟩⟩ := h
  · rwa [List.dropLast_concat]
  · exact fun hmem => hbody (List.dropLast_subset _ hmem)

/-! ### The whole -/

/-- Ranges of lines tile the text of a document. -/
structure RangesTile (d : Document N) : Prop where
  /-- There are as many lines as places where lines begin. -/
  count : d.lineCount = (Text.lineStarts d.source).length
  /-- A range is what stands in bytes between two such places. -/
  bytes : ∀ first last, (d.sourceRange first last).utf8Encode =
    d.source.utf8Encode.extract (Text.lineStart d.source first) (Text.lineStart d.source (last + 1))
  /-- None of them is in the middle of a character. -/
  boundary : ∀ n, String.Pos.Raw.IsValid (String.ofList d.source) ⟨Text.lineStart d.source n⟩
  /-- All lines are the text. -/
  whole : d.sourceRange 1 d.lineCount = d.source
  /-- Ranges that meet are one range, also past the end. -/
  joined : ∀ a b c, 1 ≤ a → a ≤ b + 1 → b ≤ c →
    d.sourceRange a b ++ d.sourceRange (b + 1) c = d.sourceRange a c
  /-- No line is empty. -/
  nonempty : ∀ n, 1 ≤ n → n ≤ d.lineCount → d.sourceRange n n ≠ []
  /-- In a line there is no line feed but at the end. -/
  single : ∀ n, 1 ≤ n → n ≤ d.lineCount → '\n' ∉ (d.sourceRange n n).dropLast
  /-- Every line but the last has one there. -/
  ended : ∀ n, 1 ≤ n → n < d.lineCount → (d.sourceRange n n).getLast? = some '\n'

end Document

/-- Whatever the text, and whatever is found in it, ranges of lines tile it. -/
theorem ranges_tile_text {N : Type} (source : Text) (nodes : List N) (spans : List FreezeSpan) :
    (Document.make source nodes spans).RangesTile := by
  let d := Document.make source nodes spans
  have hline : ∀ n, 1 ≤ n → n ≤ d.lineCount → Text.IsLine (d.sourceRange n n) := by
    intro n h1 h2
    rw [d.sourceRange_self h1 h2]
    exact d.areLines.1 _ (Document.line_mem h1 h2)
  exact {
    count := (Text.length_lineStarts source).symm
    bytes := d.utf8Encode_sourceRange
    boundary := d.isValid_lineStart
    whole := d.sourceRange_all
    joined := fun a b c _ hab hbc => d.sourceRange_append hab hbc
    nonempty := fun n h1 h2 => (hline n h1 h2).ne_nil
    single := fun n h1 h2 => Document.not_mem_dropLast (hline n h1 h2)
    ended := fun n h1 h2 => by
      have hopen := d.isOpen_line h1 h2
      rw [← d.sourceRange_self h1 (Nat.le_of_lt h2)] at hopen
      simpa [Text.isOpen, (hline n h1 (Nat.le_of_lt h2)).ne_nil] using hopen }

/-- The first character takes two bytes, and the last range reaches past the end. -/
example :
    let d : Document Unit := .make "é\na\n\nb".toList [] []
    Text.lineStarts d.source = [0, 3, 5, 6] ∧ d.sourceRange 2 3 = "a\n\n".toList ∧
      d.sourceRange 4 9 = "b".toList := by
  decide

end TemplateMerge
