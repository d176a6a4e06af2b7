import Mathlib.Data.List.Forall2
import TemplateMerge.Freeze.Span
import TemplateMerge.Proofs.Text.Endings

/-! What the scan for frozen regions finds, and when it finds the same again.

    The scan reads a line through its marker only.  So lines without markers may be exchanged for
    others, and may be put in wherever no region is open:

        lines      ·   freeze   ·   unfreeze   ·            regions  2–4
        lines'     ·   freeze   ·   unfreeze   +   +   ·    regions  2–4
        lines''    +   ·   freeze   ·   unfreeze   ·        regions  3–5

    Regions after the place move down, those before it stay, and all keep their markers. -/

namespace TemplateMerge

/-- The region so many lines further down. -/
def FreezeSpan.shift (k : Nat) (s : FreezeSpan) : FreezeSpan :=
  { s with startLine := s.startLine + k, endLine := s.endLine + k }

/-- Whether a line belongs to a region. -/
def FreezeSpan.Covers (s : FreezeSpan) (n : Nat) : Prop := s.startLine ≤ n ∧ n ≤ s.endLine

/-- Whether a region has both line `n` and the line after it. -/
def FreezeSpan.Straddles (s : FreezeSpan) (n : Nat) : Prop := s.startLine ≤ n ∧ n < s.endLine

namespace MarkerRegistry

variable {r : MarkerRegistry}

/-- The open region so many lines further down. -/
def OpenRegion.shift (k : Nat) (o : OpenRegion) : OpenRegion := { o with line := o.line + k }

/-- Regions from line `first` to the line before `stop`, one after the other. -/
def SpansWithin (first stop : Nat) (spans : List FreezeSpan) : Prop :=
  spans.Pairwise (fun s t => s.endLine < t.startLine) ∧
    ∀ s ∈ spans, first ≤ s.startLine ∧ s.startLine < s.endLine ∧ s.endLine < stop

/-- Lines that the scan reads alike. -/
def ReadAlike (r : MarkerRegistry) (l l' : Text) : Prop :=
  (r.classify l = none ∧ r.classify l' = none) ∨
    (r.classify l' = r.classify l ∧ Text.trim l' = Text.trim l)

/-! ### Markers and line endings -/

theorem body?_of_trim {style : CommentStyle} {l l' : Text} (h : Text.trim l' = Text.trim l) :
    style.body? l' = style.body? l := by
  unfold CommentStyle.body?
  rw [h]

theorem classify_of_trim {l l' : Text} (h : Text.trim l' = Text.trim l) :
    r.classify l' = r.classify l := by
  unfold classify CommentStyle.read?
  congr 1
  funext style
  rw [body?_of_trim h]

theorem readAlike_of_trim {l l' : Text} (h : Text.trim l' = Text.trim l) : r.ReadAlike l l' :=
  .inr ⟨classify_of_trim h, h⟩

theorem ReadAlike.refl (l : Text) : r.ReadAlike l l := readAlike_of_trim rfl

theorem readAlike_sealLines : ∀ ls : List Text,
    List.Forall₂ r.ReadAlike ls (Text.sealLines ls)
  | [] => .nil
  | [l] => .cons (ReadAlike.refl l) .nil
  | l :: next :: rest => by
    rw [Text.sealLines_cons (by simp)]
    exact .cons (readAlike_of_trim (Text.trim_close l)) (readAlike_sealLines (next :: rest))

/-! ### Steps of a scan -/

theorem scanFrom_cons (o : Option OpenRegion) (n : Nat) (l : Text) (ls : List Text) :
    r.scanFrom o n (l :: ls) =
      match r.classify l, o with
      | none, _ => r.scanFrom o (n + 1) ls
      | some (.freeze reason), none => r.scanFrom (some ⟨n, Text.trim l, reason⟩) (n + 1) ls
      | some (.freeze _), some opened => .error (.nestedFreeze opened.line n)
      | some .unfreeze, none => .error (.unexpectedUnfreeze n)
      | some .unfreeze, some opened =>
        (r.scanFrom none (n + 1) ls).map
          (⟨opened.line, n, opened.marker, Text.trim l, opened.reason⟩ :: ·) := by
  cases o <;> rfl

theorem scanFrom_nil {o : Option OpenRegion} {n : Nat} {spans : List FreezeSpan}
    (h : r.scanFrom o n [] = .ok spans) : o = none ∧ spans = [] := by
  cases o with
  | none => exact ⟨rfl, (Except.ok.inj h).symm⟩
  | some opened => simp [scanFrom] at h

/-- A successful scan reads over its first line, opens a region there, or closes one. -/
theorem scanFrom_cons_cases {o : Option OpenRegion} {n : Nat} {l : Text} {ls : List Text}
    {spans : List FreezeSpan} (h : r.scanFrom o n (l :: ls) = .ok spans) :
    (r.classify l = none ∧ r.scanFrom o (n + 1) ls = .ok spans) ∨
    (∃ reason, r.classify l = some (.freeze reason) ∧ o = none ∧
      r.scanFrom (some ⟨n, Text.trim l, reason⟩) (n + 1) ls = .ok spans) ∨
    (∃ opened later, r.classify l = some .unfreeze ∧ o = some opened ∧
      r.scanFrom none (n + 1) ls = .ok later ∧
      spans = ⟨opened.line, n, opened.marker, Text.trim l, opened.reason⟩ :: later) := by
  rw [scanFrom_cons] at h
  split at h
  · next hmark => exact .inl ⟨hmark, h⟩
  · next reason hmark => exact .inr (.inl ⟨reason, hmark, rfl, h⟩)
  · simp at h
  · simp at h
  · next opened hmark =>
    cases hrest : r.scanFrom none (n + 1) ls with
    | error e => rw [hrest] at h; simp [Except.map] at h
    | ok later =>
      rw [hrest] at h
      exact .inr (.inr ⟨opened, later, hmark, rfl, rfl, (Except.ok.inj h).symm⟩)

/-! ### Lines read alike -/

theorem scanFrom_congr {ls ls' : List Text} (h : List.Forall₂ r.ReadAlike ls ls') :
    ∀ (o : Option OpenRegion) (n : Nat), r.scanFrom o n ls' = r.scanFrom o n ls := by
  induction h with
  | nil => intro o n; rfl
  | @cons l l' ls ls' hl _ ih =>
    intro o n
    rcases hl with ⟨hnone, hnone'⟩ | ⟨hmark, htrim⟩
    · rw [scanFrom_cons, scanFrom_cons, hnone, hnone']
      exact ih o (n + 1)
    · rw [scanFrom_cons, scanFrom_cons, hmark, htrim]
      simp only [ih]

theorem scan_map_of_trim {f : Text → Text} (hf : ∀ l, Text.trim (f l) = Text.trim l)
    (ls : List Text) : r.scan (ls.map f) = r.scan ls :=
  scanFrom_congr (List.forall₂_map_right_iff.2
    (List.forall₂_same.2 fun l _ => readAlike_of_trim (hf l))) none 1

theorem scanFrom_unmarked {ls : List Text} (h : ∀ l ∈ ls, r.classify l = none)
    (o : Option OpenRegion) (n : Nat) (rest : List Text) :
    r.scanFrom o n (ls ++ rest) = r.scanFrom o (n + ls.length) rest := by
  induction ls generalizing n with
  | nil => rfl
  | cons l ls ih =>
    have hl := h l List.mem_cons_self
    have hrest := ih (fun k hk => h k (List.mem_cons_of_mem _ hk)) (n + 1)
    rw [List.cons_append, scanFrom_cons, hl, List.length_cons, Nat.add_comm ls.length,
      ← Nat.add_assoc]
    exact hrest

/-! ### Scans of joined lines -/

theorem scanFrom_append {a b : List Text} {o : Option OpenRegion} {n : Nat}
    {sa sb : List FreezeSpan} (ha : r.scanFrom o n a = .ok sa)
    (hb : r.scanFrom none (n + a.length) b = .ok sb) :
    r.scanFrom o n (a ++ b) = .ok (sa ++ sb) := by
  induction a generalizing o n sa with
  | nil =>
    obtain ⟨rfl, rfl⟩ := scanFrom_nil ha
    exact hb
  | cons l a ih =>
    have hb' : r.scanFrom none (n + 1 + a.length) b = .ok sb := by
      rw [← hb, List.length_cons, Nat.add_right_comm, Nat.add_assoc n]
    rw [List.cons_append, scanFrom_cons]
    rcases scanFrom_cons_cases ha with ⟨hm, hrest⟩ | ⟨reason, hm, rfl, hrest⟩ |
      ⟨opened, later, hm, rfl, hrest, rfl⟩
    · rw [hm]; exact ih hrest hb'
    · rw [hm]; exact ih hrest hb'
    · rw [hm]; simp only [ih hrest hb']; rfl

/-- An open region becomes the first region that is found. -/
theorem scanFrom_opened {ls : List Text} {opened : OpenRegion} {n : Nat} {spans : List FreezeSpan}
    (h : r.scanFrom (some opened) n ls = .ok spans) :
    ∃ s rest, spans = s :: rest ∧ s.startLine = opened.line ∧ n ≤ s.endLine := by
  induction ls generalizing n with
  | nil => simp [scanFrom] at h
  | cons l ls ih =>
    rcases scanFrom_cons_cases h with ⟨-, hrest⟩ | ⟨_, -, hnone, -⟩ | ⟨_, later, -, ho, -, rfl⟩
    · obtain ⟨s, rest, hs, hstart, hend⟩ := ih hrest
      exact ⟨s, rest, hs, hstart, by omega⟩
    · simp at hnone
    · cases ho
      exact ⟨_, later, rfl, rfl, Nat.le_refl n⟩

/-- Where no region has both of two neighbouring lines, a scan can be cut between them. -/
theorem scanFrom_cut {a b : List Text} {o : Option OpenRegion} {n : Nat} {spans : List FreezeSpan}
    (h : r.scanFrom o n (a ++ b) = .ok spans) (ho : ∀ opened ∈ o, opened.line < n)
    (hcut : ∀ s ∈ spans, ¬ s.Straddles (n + a.length - 1)) :
    ∃ sa sb, spans = sa ++ sb ∧ r.scanFrom o n a = .ok sa ∧
      r.scanFrom none (n + a.length) b = .ok sb := by
  induction a generalizing o n spans with
  | nil =>
    cases o with
    | none => exact ⟨[], spans, rfl, rfl, h⟩
    | some opened =>
      obtain ⟨s, rest, rfl, hstart, hend⟩ := scanFrom_opened h
      have hline := ho opened rfl
      refine absurd ?_ (hcut s List.mem_cons_self)
      exact ⟨by rw [List.length_nil]; omega, by rw [List.length_nil]; omega⟩
  | cons l a ih =>
    have hlen : n + (l :: a).length = n + 1 + a.length := by rw [List.length_cons]; omega
    rw [hlen] at hcut ⊢
    rw [scanFrom_cons]
    rcases scanFrom_cons_cases h with ⟨hm, hrest⟩ | ⟨reason, hm, rfl, hrest⟩ |
      ⟨opened, later, hm, rfl, hrest, rfl⟩
    · rw [hm]
      exact ih hrest (fun opened hopened => Nat.lt_succ_of_lt (ho opened hopened)) hcut
    · rw [hm]
      exact ih hrest (fun opened hopened => by cases hopened; exact Nat.lt_succ_self n) hcut
    · obtain ⟨sa, sb, rfl, hsa, hsb⟩ := ih hrest (by simp)
        (fun s hs => hcut s (List.mem_cons_of_mem _ hs))
      rw [hm]
      exact ⟨_ :: sa, sb, rfl, by simp only [hsa]; rfl, hsb⟩

theorem scanFrom_shift {ls : List Text} {o : Option OpenRegion} {n : Nat} {spans : List FreezeSpan}
    (h : r.scanFrom o n ls = .ok spans) (k : Nat) :
    r.scanFrom (o.map (·.shift k)) (n + k) ls = .ok (spans.map (·.shift k)) := by
  induction ls generalizing o n spans with
  | nil =>
    obtain ⟨rfl, rfl⟩ := scanFrom_nil h
    rfl
  | cons l ls ih =>
    rw [scanFrom_cons]
    rcases scanFrom_cons_cases h with ⟨hm, hrest⟩ | ⟨reason, hm, rfl, hrest⟩ |
      ⟨opened, later, hm, rfl, hrest, rfl⟩
    · have := ih hrest
      rw [hm, Nat.add_right_comm]; exact this
    · have := ih hrest
      rw [hm, Nat.add_right_comm]; exact this
    · have := ih hrest
      rw [hm, Nat.add_right_comm]
      simp only [Option.map_some, Option.map_none] at this ⊢
      simp only [this]; rfl

/-! ### Where regions are -/

theorem SpansWithin.mono {first first' stop : Nat} {spans : List FreezeSpan}
    (h : SpansWithin first stop spans) (hle : first' ≤ first) : SpansWithin first' stop spans :=
  ⟨h.1, fun s hs => ⟨Nat.le_trans hle (h.2 s hs).1, (h.2 s hs).2⟩⟩

/-- What can be said of none that stand apart can be said of one only. -/
theorem eq_of_apart {α : Type} {R : α → α → Prop} {q : α → Prop} {l : List α} (h : l.Pairwise R)
    (hapart : ∀ a b, R a b → q a → q b → False) {a b : α} (ha : a ∈ l) (hb : b ∈ l) (hqa : q a)
    (hqb : q b) : a = b := by
  have hall := List.Pairwise.forall_of_forall_of_flip
    (R := fun a b : α => q a → q b → a = b) (fun _ _ _ _ => rfl)
    (h.imp fun hab ha hb => (hapart _ _ hab ha hb).elim)
    (h.imp fun hba ha hb => (hapart _ _ hba hb ha).elim)
  exact hall ha hb hqa hqb

theorem SpansWithin.eq_of_covers {first stop : Nat} {spans : List FreezeSpan}
    (h : SpansWithin first stop spans) {s t : FreezeSpan} (hs : s ∈ spans) (ht : t ∈ spans)
    {n : Nat} (hsn : s.Covers n) (htn : t.Covers n) : s = t := by
  refine eq_of_apart (q := fun s => s.Covers n) h.1 ?_ hs ht hsn htn
  rintro a b hlt ⟨-, ha⟩ ⟨hb, -⟩
  omega

/-- The lines of one region are before those of the next. -/
theorem SpansWithin.positions_apart {first stop : Nat} {spans : List FreezeSpan}
    (h : SpansWithin first stop spans) :
    spans.Pairwise fun s t => s.position.endLine < t.position.startLine :=
  h.1.imp_of_mem fun {s t} hs _ hlt => by
    have hown := (h.2 s hs).2.1
    simp only [FreezeSpan.position, Position.endLine_ofLines, Position.startLine_ofLines]
    omega

/-- The regions a scan finds follow one another within the lines, save that the first may have been
    open before. -/
theorem spansWithin_scanFrom {ls : List Text} {n : Nat} :
    ∀ {o : Option OpenRegion} {spans : List FreezeSpan}, r.scanFrom o n ls = .ok spans →
      (∀ opened ∈ o, opened.line < n) →
      SpansWithin ((o.map (·.line)).getD n) (n + ls.length) spans := by
  induction ls generalizing n with
  | nil =>
    intro o spans h _
    obtain ⟨rfl, rfl⟩ := scanFrom_nil h
    exact ⟨.nil, by simp⟩
  | cons l ls ih =>
    intro o spans h ho
    have hlen : n + (l :: ls).length = n + 1 + ls.length := by rw [List.length_cons]; omega
    rw [hlen]
    rcases scanFrom_cons_cases h with ⟨-, hrest⟩ | ⟨reason, -, rfl, hrest⟩ |
      ⟨opened, later, -, rfl, hrest, rfl⟩
    · have hin := ih hrest fun opened hopened => Nat.lt_succ_of_lt (ho opened hopened)
      cases o with
      | none => exact hin.mono (Nat.le_succ n)
      | some opened => exact hin
    · exact ih hrest fun opened hopened => by cases hopened; exact Nat.lt_succ_self n
    · obtain ⟨horder, hin⟩ := ih hrest (by simp)
      have hopen : opened.line < n := ho opened rfl
      refine ⟨List.pairwise_cons.2 ⟨fun s hs => ?_, horder⟩, fun s hs => ?_⟩
      · have := (hin s hs).1
        exact this
      · rcases List.mem_cons.1 hs with rfl | hs
        · exact ⟨Nat.le_refl _, hopen, by dsimp only; omega⟩
        · have := hin s hs
          simp only [Option.map_some, Option.getD_some, Option.map_none, Option.getD_none] at this ⊢
          exact ⟨by omega, this.2⟩

theorem spansWithin_scan {ls : List Text} {spans : List FreezeSpan} (h : r.scan ls = .ok spans) :
    SpansWithin 1 (1 + ls.length) spans :=
  spansWithin_scanFrom h (by simp)

/-- Every marker is an end of a region. -/
theorem classify_eq_none {ls : List Text} {o : Option OpenRegion} {n : Nat}
    {spans : List FreezeSpan} (h : r.scanFrom o n ls = .ok spans) {i : Nat} (hi : i < ls.length)
    (hout : ∀ s ∈ spans, ¬ s.Covers (n + i)) (ho : ∀ opened ∈ o, opened.line < n) :
    r.classify ls[i] = none := by
  induction ls generalizing o n spans i with
  | nil => simp at hi
  | cons l ls ih =>
    have hrecur : ∀ {o' : Option OpenRegion} {spans' : List FreezeSpan},
        r.scanFrom o' (n + 1) ls = .ok spans' → (∀ s ∈ spans', s ∈ spans) →
        (∀ opened ∈ o', opened.line < n + 1) → ∀ j, i = j + 1 → r.classify (l :: ls)[i] = none := by
      intro o' spans' hscan hsub ho' j hj
      subst hj
      rw [List.getElem_cons_succ]
      exact ih hscan (by simpa using hi)
        (fun s hs hcov => hout s (hsub s hs) (by rwa [Nat.add_assoc, Nat.add_comm 1] at hcov)) ho'
    rcases scanFrom_cons_cases h with ⟨hm, hrest⟩ | ⟨reason, hm, rfl, hrest⟩ |
      ⟨opened, later, hm, rfl, hrest, rfl⟩
    · cases i with
      | zero => exact hm
      | succ j =>
        exact hrecur hrest (fun _ hs => hs)
          (fun opened hopened => Nat.lt_succ_of_lt (ho opened hopened)) j rfl
    · cases i with
      | zero =>
        -- the region that is opened here has this line
        obtain ⟨s, rest, rfl, hstart, hend⟩ := scanFrom_opened hrest
        refine absurd ?_ (hout s List.mem_cons_self)
        simp only at hstart
        exact ⟨by omega, by omega⟩
      | succ j =>
        exact hrecur hrest (fun _ hs => hs)
          (fun opened hopened => by cases hopened; exact Nat.lt_succ_self n) j rfl
    · cases i with
      | zero =>
        refine absurd ?_ (hout _ List.mem_cons_self)
        have := ho opened rfl
        exact ⟨by dsimp only; omega, by dsimp only; omega⟩
      | succ j => exact hrecur hrest (fun _ hs => List.mem_cons_of_mem _ hs) (by simp) j rfl

/-! ### Lines exchanged and put in -/

/-- Lines are exchanged for others that read alike, and lines without markers are put in where no
    region is open: the regions are those of before, further down after the place. -/
theorem scan_splice {a b a' b' new : List Text} {spans : List FreezeSpan}
    (h : r.scan (a ++ b) = .ok spans) (hcut : ∀ s ∈ spans, ¬ s.Straddles a.length)
    (ha : List.Forall₂ r.ReadAlike a a') (hb : List.Forall₂ r.ReadAlike b b')
    (hnew : ∀ l ∈ new, r.classify l = none) :
    ∃ sa sb, spans = sa ++ sb ∧ SpansWithin 1 (1 + a.length) sa ∧
      SpansWithin (1 + a.length) (1 + a.length + b.length) sb ∧
      r.scan (a' ++ new ++ b') = .ok (sa ++ sb.map (·.shift new.length)) := by
  obtain ⟨sa, sb, hspans, hsa, hsb⟩ := scanFrom_cut h (by simp)
    (by rw [Nat.add_sub_cancel_left]; exact hcut)
  refine ⟨sa, sb, hspans, spansWithin_scanFrom hsa (by simp), spansWithin_scanFrom hsb (by simp),
    ?_⟩
  rw [List.append_assoc, scan]
  refine scanFrom_append (by rw [scanFrom_congr ha]; exact hsa) ?_
  rw [scanFrom_unmarked hnew, scanFrom_congr hb, ← ha.length_eq]
  exact scanFrom_shift hsb new.length

end MarkerRegistry

end TemplateMerge
