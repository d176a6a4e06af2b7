import TemplateMerge.Proofs.Merge.Pairing
import TemplateMerge.Proofs.Signature.Index

/-! Taking statements by their signatures.

    Whoever takes the first free statement with a signature marks it as in use.  So every signature
    has a queue, its free statements in order, and a take shortens the queue of the signature it
    asks for and no other.

        statement       0   1   2   3   4
        signature       a   b   a   ·   a
        in use          ▒                           queues: a ↦ 2 4   b ↦ 1

        asked for       a   b   a   a   b
        taken           2   1   4   ·   ·

    In any series of takes, the one that asks for a signature after `k` others have done so gets
    number `k` of its queue, whatever is taken in between. -/

namespace TemplateMerge

namespace Signature.Index

variable {x : Index} {used : List Bool} {s : Signature}

/-- Takes the first free statement with a signature, if there is one, and marks it as in use. -/
def take (x : Index) (used : List Bool) (s : Signature) : Option Nat × List Bool :=
  match x.firstUnused s used with
  | some index => (some index, used.set index true)
  | none => (none, used)

/-- Takes a statement for each of the signatures, one after the other. -/
def takeAll (x : Index) : List Bool → List Signature → List (Option Nat) × List Bool
  | used, [] => ([], used)
  | used, s :: asked =>
    let (answer, used) := x.take used s
    let (answers, used) := x.takeAll used asked
    (answer :: answers, used)

/-! ### One take -/

theorem fst_take (x : Index) (used : List Bool) (s : Signature) :
    (x.take used s).1 = (x.free used s).head? := by
  rw [← firstUnused_eq_head?, take]
  cases x.firstUnused s used <;> rfl

theorem free_set_true (x : Index) (used : List Bool) (s : Signature) (i : Nat) :
    x.free (used.set i true) s = (x.free used s).filter (· ≠ i) := by
  unfold free
  rw [List.filter_filter]
  refine List.filter_congr fun j _ => ?_
  rw [Bool.eq_iff_iff, Bool.and_eq_true, beq_iff_eq, beq_iff_eq, decide_eq_true_iff,
    Pairing.getElem?_set_true, and_comm]

theorem free_take_self (x : Index) (used : List Bool) (s : Signature) :
    x.free (x.take used s).2 s = (x.free used s).tail := by
  rw [take, firstUnused_eq_head?]
  cases hfree : x.free used s with
  | nil => exact hfree
  | cons i rest =>
    have hsorted := x.pairwise_free used s
    rw [hfree] at hsorted
    dsimp only [List.head?_cons]
    rw [free_set_true, hfree, List.filter_cons_of_neg (by simp), List.tail_cons,
      List.filter_eq_self]
    intro j hj
    simpa using Nat.ne_of_gt ((List.pairwise_cons.1 hsorted).1 j hj)

theorem free_take_of_ne (x : Index) (used : List Bool) {s t : Signature} (h : t ≠ s) :
    x.free (x.take used s).2 t = x.free used t := by
  rw [take]
  cases hfirst : x.firstUnused s used with
  | none => rfl
  | some i =>
    dsimp only
    rw [free_set_true, List.filter_eq_self]
    intro j hj
    rw [decide_eq_true_iff]
    rintro rfl
    -- what was taken would have both signatures
    have hown := (firstUnused_eq_some_iff.1 hfirst).1.1
    exact h (Option.some.inj ((mem_free.1 hj).1.symm.trans hown))

/-! ### Series of takes -/

theorem takeAll_cons (x : Index) (used : List Bool) (s : Signature) (asked : List Signature) :
    x.takeAll used (s :: asked) =
      ((x.take used s).1 :: (x.takeAll (x.take used s).2 asked).1,
        (x.takeAll (x.take used s).2 asked).2) := rfl

/-- A series shortens a queue by as many as ask for its signature. -/
theorem free_takeAll (x : Index) (t : Signature) : ∀ (asked : List Signature) (used : List Bool),
    x.free (x.takeAll used asked).2 t = (x.free used t).drop (asked.count t)
  | [], _ => rfl
  | s :: asked, used => by
    rw [takeAll_cons]
    dsimp only
    rw [free_takeAll x t asked]
    by_cases h : t = s
    · rw [h, free_take_self, List.count_cons_self, ← List.drop_one, List.drop_drop, Nat.add_comm]
    · rw [free_take_of_ne x used h, List.count_cons_of_ne (Ne.symm h)]

/-- Whoever asks gets the first of the queue that those before have left. -/
theorem getElem?_takeAll : ∀ {asked : List Signature} {used : List Bool} {k : Nat},
    asked[k]? = some s →
      (x.takeAll used asked).1[k]? = some ((x.free used s)[(asked.take k).count s]?)
  | s :: asked, used, 0, h => by
    rw [takeAll_cons, List.getElem?_cons_zero, fst_take, ← Option.some.inj h,
      List.head?_eq_getElem?]
    rfl
  | t :: asked, used, k + 1, h => by
    rw [List.getElem?_cons_succ] at h
    rw [takeAll_cons, List.getElem?_cons_succ, getElem?_takeAll h, List.take_succ_cons]
    by_cases hs : s = t
    · rw [← hs, free_take_self, List.getElem?_tail, List.count_cons_self]
    · rw [free_take_of_ne x used hs, List.count_cons_of_ne (Ne.symm hs)]

/-- Asking for one signature again and again gives its queue, and then nothing. -/
theorem takeAll_replicate (m : Nat) : ∀ {queue : List Nat} {used : List Bool},
    x.free used s = queue → (x.takeAll used (List.replicate (queue.length + m) s)).1 =
      queue.map some ++ List.replicate m none := by
  intro queue
  induction queue with
  | nil =>
    intro used hqueue
    rw [List.length_nil, Nat.zero_add, List.map_nil, List.nil_append]
    induction m generalizing used with
    | zero => rfl
    | succ m ih =>
      have hlater : x.free (x.take used s).2 s = [] := by rw [free_take_self, hqueue, List.tail_nil]
      rw [List.replicate_succ, takeAll_cons, fst_take, hqueue, ih hlater]
      rfl
  | cons i queue ih =>
    intro used hqueue
    have hlater : x.free (x.take used s).2 s = queue := by
      rw [free_take_self, hqueue, List.tail_cons]
    rw [List.length_cons, Nat.add_right_comm, List.replicate_succ, takeAll_cons, fst_take, hqueue,
      ih hlater]
    rfl

/-! ### The index of a document -/

/-- An index says which statements of a document have which signature. -/
structure Faithful {N : Type} (signature : N → Option Signature) (nodes : List N) (x : Index) :
    Prop where
  /-- A statement has the signature of its node, -/
  signatureOf : ∀ i, x.signatureOf i = (nodes[i]?).bind signature
  /-- and is one of the statements of that signature, -/
  mem_indices : ∀ s i, i ∈ x.indices s ↔ x.signatureOf i = some s
  /-- which are in increasing order. -/
  increasing : ∀ s, (x.indices s).Pairwise (· < ·)
  /-- Different signatures have no statement in common. -/
  disjoint : ∀ s t, s ≠ t → (x.indices s).Disjoint (x.indices t)
  /-- Every statement whose node has a signature is one of some signature, and no other is. -/
  covers : ∀ i, (∃ s, i ∈ x.indices s) ↔ ∃ n, nodes[i]? = some n ∧ (signature n).isSome
  /-- The size counts the signatures that there are. -/
  size : {s | ∃ n ∈ nodes, signature n = some s}.encard = x.size

/-- Takes drain an index in order, whatever is in use at first. -/
structure Drains (x : Index) : Prop where
  /-- What is found is the least statement that has the signature and is free, -/
  first : ∀ used s i, x.firstUnused s used = some i ↔
    IsLeast {j | x.signatureOf j = some s ∧ used[j]? = some false} i
  /-- and nothing is found just when there is none. -/
  nothing : ∀ used s, x.firstUnused s used = none ↔
    ∀ j, x.signatureOf j = some s → used[j]? ≠ some false
  /-- The free statements of a signature, in increasing order, -/
  free : ∀ used s, (x.free used s).Pairwise (· < ·) ∧
    ∀ i, i ∈ x.free used s ↔ x.signatureOf i = some s ∧ used[i]? = some false
  /-- are what takes of it give, each once, and after them nothing, -/
  drained : ∀ used s m, (x.takeAll used (List.replicate ((x.free used s).length + m) s)).1 =
    (x.free used s).map some ++ List.replicate m none
  /-- while of any other signature the same is found as before. -/
  undisturbed : ∀ used s t m, t ≠ s →
    x.firstUnused t (x.takeAll used (List.replicate m s)).2 = x.firstUnused t used
  /-- In a series of takes of any signatures, an answer is the free statement with the number of
      takes before that have asked for the same. -/
  interleaved : ∀ used asked k s, asked[k]? = some s →
    (x.takeAll used asked).1[k]? = some ((x.free used s)[(asked.take k).count s]?)

theorem signatureOf_build {N : Type} (signature : N → Option Signature) (nodes : List N) (i : Nat) :
    (build signature nodes).signatureOf i = (nodes[i]?).bind signature := by
  rw [Index.signatureOf, show (build signature nodes).bySlot = nodes.map signature from rfl,
    List.getElem?_map]
  cases nodes[i]? <;> rfl

theorem faithful_build {N : Type} (signature : N → Option Signature) (nodes : List N) :
    Faithful signature nodes (build signature nodes) := by
  have hmem : ∀ s i, i ∈ (build signature nodes).indices s ↔
      (build signature nodes).signatureOf i = some s := fun s i =>
    Index.mem_indices.trans signatureOf_eq_some_iff.symm
  refine
    { signatureOf := signatureOf_build signature nodes
      mem_indices := hmem
      increasing := pairwise_indices _
      disjoint := fun s t hne i hs ht => ?_
      covers := fun i => ?_
      size := ?_ }
  · exact hne (Option.some.inj (((hmem s i).1 hs).symm.trans ((hmem t i).1 ht)))
  · simp only [hmem, signatureOf_build, Option.bind_eq_some_iff, Option.isSome_iff_exists]
    exact ⟨fun ⟨s, n, hn, hs⟩ => ⟨n, hn, s, hs⟩, fun ⟨n, hn, s, hs⟩ => ⟨s, n, hn, hs⟩⟩
  · rw [← encard_signatures]
    congr 1
    ext s
    exact List.mem_map.symm

theorem drains (x : Index) : x.Drains where
  first _ _ _ := firstUnused_eq_some_iff
  nothing _ _ := firstUnused_eq_none_iff
  free used s := ⟨x.pairwise_free used s, fun _ => mem_free⟩
  drained _ _ m := takeAll_replicate m rfl
  undisturbed used s t m hne := by
    rw [firstUnused_eq_head?, free_takeAll, List.count_replicate, if_neg (by simpa using hne.symm),
      List.drop_zero, ← firstUnused_eq_head?]
  interleaved _ _ _ _ h := getElem?_takeAll h

end Signature.Index

/-- The index of the nodes of a document says of every statement which signature it has, and takes
    drain it in order. -/
theorem index_faithful_and_drained {N : Type} (signature : N → Option Signature) (nodes : List N) :
    let x := Signature.Index.build signature nodes
    Signature.Index.Faithful signature nodes x ∧ x.Drains :=
  ⟨Signature.Index.faithful_build signature nodes, Signature.Index.drains _⟩

/-- Takes of two signatures in turn, where one statement is in use and one has no signature. -/
example :
    let a := Signature.tuple ["a"]
    let b := Signature.tuple ["b"]
    let x := Signature.Index.build id [some a, some b, some a, none, some a]
    x.indices a = [0, 2, 4] ∧ x.size = 2 ∧
      (x.takeAll [true, false, false, false, false] [a, b, a, a, b]).1 =
        [some 2, some 1, some 4, none, none] := by decide

end TemplateMerge
