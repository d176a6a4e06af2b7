import TemplateMerge.Proofs.Merge.Fixed
import TemplateMerge.Proofs.Merge.Rematch

/-! Two merges that see the same.

    Of a frozen statement a merge sees nothing but that it is frozen, and it never sees where a
    statement stands.  So if two pairs of documents differ in nothing else, statement by statement,
    both merges take the same steps: the walks fill the same slots, the refiner gives the same
    scores, and the logs say the same but for the numbers of lines.

        template        a   b   ▒   c          a   b   ▒   c
        template'       a   b   ▓   c          a   b   ▓   c      ▒ and ▓ are frozen
        paired          0   ·       3          0   ·       3

    The relation is carried from what is read to what is written: documents (`Alike`), slots
    (`SlotAlike`), entries (`unlined`). -/

namespace TemplateMerge

variable {N : Type} [NodeView N]

/-! ### The relation -/

/-- What a merge sees of a statement that is not frozen. -/
structure SameSight (format : Format N) (d d' : Document N) (x x' : Statement N) : Prop where
  carried : format.carriesThrough x'.node = format.carriesThrough x.node
  nodeType : x'.nodeType = x.nodeType
  text : x'.text = x.text
  face : format.faceOf x'.node = format.faceOf x.node
  slice : d'.slice x'.position = d.slice x.position

/-- Statements of two documents that no merge tells apart. -/
structure Alike (format : Format N) (d d' : Document N) (x x' : Statement N) : Prop where
  mem : x ∈ statements d.nodes
  mem' : x' ∈ statements d'.nodes
  index : x'.index = x.index
  /-- Either both are frozen or none is. -/
  frozen : d'.Frozen x'.node ↔ d.Frozen x.node
  /-- If they are not, they look the same. -/
  sight : ¬ d.Frozen x.node → SameSight format d d' x x'

/-- Documents that no merge tells apart, statement by statement. -/
def DocumentsAlike (format : Format N) (d d' : Document N) : Prop :=
  List.Forall₂ (Alike format d d') (statements d.nodes) (statements d'.nodes)

/-- Slots that hold statements that look the same. -/
inductive SlotAlike (format : Format N) (d d' : Document N) : Slot N → Slot N → Prop
  | frozen : SlotAlike format d d' .frozen .frozen
  | carried : SlotAlike format d d' .carried .carried
  | unmatched : SlotAlike format d d' .unmatched .unmatched
  | paired {x x' : Statement N} (score : Option Float) (index : x'.index = x.index)
      (sight : SameSight format d d' x x') :
      SlotAlike format d d' (.paired x score) (.paired x' score)

theorem SlotAlike.isUnmatched {format : Format N} {d d' : Document N} {slot slot' : Slot N}
    (h : SlotAlike format d d' slot slot') : slot'.isUnmatched = slot.isUnmatched := by
  cases h <;> rfl

theorem SameSight.refl (format : Format N) (d : Document N) (x : Statement N) :
    SameSight format d d x x := ⟨rfl, rfl, rfl, rfl, rfl⟩

theorem DocumentsAlike.refl (format : Format N) (d : Document N) : DocumentsAlike format d d :=
  Pairing.forall₂_of_getElem? rfl fun i x x' hx hx' => by
    rw [Option.some.inj (hx'.symm.trans hx)]
    exact ⟨List.mem_of_getElem? hx, List.mem_of_getElem? hx, rfl, Iff.rfl,
      fun _ => SameSight.refl format d x⟩

section Lists

variable {α β γ δ : Type} {R : α → β → Prop} {S : γ → δ → Prop}

theorem forall₂_zip_zip {as : List α} {bs : List β} {cs : List γ} {ds : List δ}
    (h : List.Forall₂ R as bs) (h' : List.Forall₂ S cs ds) :
    List.Forall₂ (fun x y => R x.1 y.1 ∧ S x.2 y.2) (as.zip cs) (bs.zip ds) := by
  induction h generalizing cs ds with
  | nil => exact .nil
  | cons hab _ ih =>
    cases h' with
    | nil => exact .nil
    | cons hcd hrest => exact .cons ⟨hab, hcd⟩ (ih hrest)

theorem forall₂_filter {as : List α} {bs : List β} {p : α → Bool} {q : β → Bool}
    (h : List.Forall₂ R as bs) (hpq : ∀ a b, R a b → p a = q b) :
    List.Forall₂ (fun a b => R a b ∧ p a = true) (as.filter p) (bs.filter q) := by
  have hfilter : List.Forall₂ R (as.filter p) (bs.filter q) :=
    List.rel_filter (fun a b hab => iff_of_eq (congrArg (· = true) (hpq a b hab))) h
  have hpassed : ∀ a ∈ as.filter p, p a = true := fun a ha => (List.mem_filter.1 ha).2
  exact ((List.forall₂_and_left _ _).2 ⟨hpassed, hfilter⟩).imp fun a b hab => hab.symm

theorem forall₂_set_set {as : List α} {bs : List β} (h : List.Forall₂ R as bs) {a : α} {b : β}
    (hab : R a b) (i : Nat) : List.Forall₂ R (as.set i a) (bs.set i b) := by
  induction h generalizing i with
  | nil => exact .nil
  | cons hhead hrest ih =>
    cases i with
    | zero => exact .cons hab hrest
    | succ i => exact .cons hhead (ih i)

theorem map_eq_of_forall₂ {as : List α} {bs : List β} {f : α → γ} {g : β → γ}
    (h : List.Forall₂ R as bs) (hfg : ∀ a b, R a b → f a = g b) : as.map f = bs.map g := by
  rw [← List.forall₂_eq_eq_eq, List.forall₂_map_left_iff, List.forall₂_map_right_iff]
  exact h.imp hfg

theorem filterMap_eq_of_forall₂ {as : List α} {bs : List β} {f : α → Option γ} {g : β → Option γ}
    (h : List.Forall₂ R as bs) (hfg : ∀ a b, R a b → f a = g b) :
    as.filterMap f = bs.filterMap g := by
  induction h with
  | nil => rfl
  | cons hab _ ih => rw [List.filterMap_cons, List.filterMap_cons, hfg _ _ hab, ih]

end Lists

/-! ### The walk -/

/-- What is found by a signature is the same where the free statements have the same signatures. -/
theorem Signature.Index.firstUnused_congr {x x' : Signature.Index} {s : Signature}
    {used : List Bool} (h : ∀ j : Nat, used[j]? = some false → x'.bySlot[j]? = x.bySlot[j]?) :
    x'.firstUnused s used = x.firstUnused s used := by
  have hset : {j | x'.signatureOf j = some s ∧ used[j]? = some false} =
      {j | x.signatureOf j = some s ∧ used[j]? = some false} := by
    ext j
    refine and_congr_left fun hj => ?_
    rw [signatureOf_eq_some_iff, signatureOf_eq_some_iff, h j hj]
  refine Option.ext fun i => ?_
  rw [firstUnused_eq_some_iff, firstUnused_eq_some_iff, hset]

namespace Pairing

variable {format : Format N} {td td' dd dd' : Document N}

theorem isFrozen_eq_of_alike {d d' : Document N} {x x' : Statement N} (h : Alike format d d' x x') :
    (Prepared.make format d').isFrozen x' = (Prepared.make format d).isFrozen x := by
  rw [Bool.eq_iff_iff, isFrozen_iff, isFrozen_iff]
  exact h.frozen

theorem usedAtFirst_alike (ht : DocumentsAlike format td td') :
    usedAtFirst (.make format td') = usedAtFirst (.make format td) :=
  (map_eq_of_forall₂ ht fun _ _ h => (isFrozen_eq_of_alike h).symm).symm

/-- Where one document has a statement that may be paired, so has the other, and the two look the
    same. -/
theorem sight_of_pairable (ht : DocumentsAlike format td td') {j : Nat}
    (hj : Pairable (.make format td) j) :
    ∃ x x', (Prepared.make format td).list[j]? = some x ∧
      (Prepared.make format td').list[j]? = some x' ∧ x'.index = x.index ∧
        SameSight format td td' x x' := by
  obtain ⟨x, hx, hfrozen⟩ := hj
  obtain ⟨x', hx', halike⟩ := exists_getElem?_of_forall₂ ht hx
  exact ⟨x, x', hx, hx', halike.index, halike.sight (isFrozen_eq_false.1 hfrozen)⟩

theorem firstUnused_alike (ht : DocumentsAlike format td td') {used : List Bool}
    (hused : ∀ j : Nat, used[j]? = some false → Pairable (.make format td) j) (s : Signature) :
    (Prepared.make format td').signatures.firstUnused s used =
      (Prepared.make format td).signatures.firstUnused s used := by
  refine Signature.Index.firstUnused_congr fun j hj => ?_
  obtain ⟨x, x', hx, hx', -, hsight⟩ := sight_of_pairable ht (hused j hj)
  rw [Merger.getElem?_list_make] at hx hx'
  obtain ⟨n, hn, rfl⟩ := Option.map_eq_some_iff.1 hx
  obtain ⟨n', hn', rfl⟩ := Option.map_eq_some_iff.1 hx'
  rw [bySlot_make, bySlot_make, hn, hn']
  exact congrArg some (congrArg Face.signature hsight.face)

theorem slotOf_alike (ht : DocumentsAlike format td td') {used : List Bool}
    (hused : ∀ j : Nat, used[j]? = some false → Pairable (.make format td) j) {x x' : Statement N}
    (hx : Alike format dd dd' x x') :
    SlotAlike format td td' (slotOf format (.make format td) (.make format dd) used x)
      (slotOf format (.make format td') (.make format dd') used x') := by
  unfold slotOf
  rw [isFrozen_eq_of_alike hx]
  cases hfrozen : (Prepared.make format dd).isFrozen x with
  | true => exact .frozen
  | false =>
    have hsight := hx.sight (isFrozen_eq_false.1 hfrozen)
    rw [hsight.carried]
    cases hcarried : format.carriesThrough x.node with
    | true => exact .carried
    | false =>
      have hsignature : format.signature x'.node = format.signature x.node :=
        congrArg Face.signature hsight.face
      rw [signatureOf_make dd hx.mem, signatureOf_make dd' hx.mem', hsignature]
      cases format.signature x.node with
      | none => exact .unmatched
      | some s =>
        dsimp only [Option.bind_some]
        rw [firstUnused_alike ht hused]
        cases hfirst : (Prepared.make format td).signatures.firstUnused s used with
        | none => exact .unmatched
        | some j =>
          obtain ⟨y, y', hy, hy', hindex, hsight'⟩ :=
            sight_of_pairable ht (hused j (getElem?_of_firstUnused hfirst))
          dsimp only [Option.bind_some]
          rw [hy, hy']
          exact .paired none hindex hsight'

theorem markUsed_alike {slot slot' : Slot N} (h : SlotAlike format td td' slot slot')
    (used : List Bool) : markUsed used slot' = markUsed used slot := by
  cases h with
  | paired score hindex _ => rw [markUsed, markUsed, hindex]
  | _ => rfl

/-- The walks over statements that are alike fill slots that are, and use the same. -/
theorem exact_alike (ht : DocumentsAlike format td td') {region region' : List (Statement N)}
    (h : List.Forall₂ (Alike format dd dd') region region') : ∀ {used : List Bool},
    (∀ j : Nat, used[j]? = some false → Pairable (.make format td) j) →
    List.Forall₂ (SlotAlike format td td')
        (exact format (.make format td) (.make format dd) used region).1
        (exact format (.make format td') (.make format dd') used region').1 ∧
      (exact format (.make format td') (.make format dd') used region').2 =
        (exact format (.make format td) (.make format dd) used region).2 := by
  induction h with
  | nil => intro used _; exact ⟨.nil, rfl⟩
  | @cons x x' region region' hx _ ih =>
    intro used hused
    have hslot := slotOf_alike ht hused hx
    have hfree : ∀ j : Nat, (markUsed used (slotOf format (.make format td) (.make format dd) used
        x))[j]? = some false → Pairable (.make format td) j :=
      fun j hj => hused j (getElem?_markUsed.1 hj).1
    obtain ⟨hslots, hlater⟩ := ih hfree
    rw [exact_cons, exact_cons]
    dsimp only
    rw [markUsed_alike hslot]
    exact ⟨.cons hslot hslots, hlater⟩

/-! ### The refiner -/

/-- What a refiner sees of a statement. -/
def SameForRefiner (x x' : Statement N) : Prop :=
  x'.index = x.index ∧ x'.nodeType = x.nodeType ∧ x'.text = x.text

theorem score_congr {r : Refiner} {x x' y y' : Statement N} (hx : SameForRefiner x x')
    (hy : SameForRefiner y y') (n k : Nat) : r.score x' n y' k = r.score x n y k := by
  obtain ⟨hindex, -, htext⟩ := hx
  obtain ⟨hindex', -, htext'⟩ := hy
  unfold Refiner.score
  rw [hindex, htext, hindex', htext']

theorem refine_congr {r : Refiner} {ts ts' ys ys' : List (Statement N)}
    (ht : List.Forall₂ SameForRefiner ts ts') (hy : List.Forall₂ SameForRefiner ys ys')
    (n k : Nat) : r.refine ⟨ts', n⟩ ⟨ys', k⟩ = r.refine ⟨ts, n⟩ ⟨ys, k⟩ := by
  have heligible : r.eligible ⟨ts', n⟩ ⟨ys', k⟩ = r.eligible ⟨ts, n⟩ ⟨ys, k⟩ := by
    unfold Refiner.eligible
    rw [List.flatMap_def, List.flatMap_def]
    refine congrArg List.flatten (map_eq_of_forall₂ hy fun y y' h => ?_).symm
    rw [h.2.1]
    split
    · refine filterMap_eq_of_forall₂ (forall₂_filter ht fun t t' h' => ?_) fun t t' h' => ?_
      · rw [h'.2.1]
      · dsimp only
        rw [score_congr h'.1 h]
    · rfl
  unfold Refiner.refine
  rw [heligible]

/-- What is free may be paired, so it looks the same on both sides. -/
theorem freeStatements_alike (ht : DocumentsAlike format td td') {used : List Bool}
    (hused : ∀ j : Nat, used[j]? = some false → Pairable (.make format td) j) :
    List.Forall₂ (fun x x' => x'.index = x.index ∧ SameSight format td td' x x')
      (Merger.freeStatements (.make format td) used)
      (Merger.freeStatements (.make format td') used) := by
  refine (forall₂_filter ht fun x x' h => by rw [h.index]).imp fun x x' h => ?_
  obtain ⟨halike, hfree⟩ := h
  obtain ⟨y, hy, hfrozen⟩ := hused x.index (by simpa using hfree)
  have hown : y = x := Option.some.inj (hy.symm.trans (getElem?_of_mem_statements halike.mem))
  exact ⟨halike.index, halike.sight (isFrozen_eq_false.1 (hown ▸ hfrozen))⟩

theorem templateCandidates_eq (template : Prepared N) (used : List Bool) :
    templateCandidates format template used =
      (Merger.freeStatements template used).filter (!format.carriesThrough ·.node) := by
  unfold templateCandidates Merger.freeStatements
  rw [List.filter_filter]
  exact List.filter_congr fun x _ => Bool.and_comm ..

theorem templateCandidates_alike (ht : DocumentsAlike format td td') {used : List Bool}
    (hused : ∀ j : Nat, used[j]? = some false → Pairable (.make format td) j) :
    List.Forall₂ SameForRefiner (templateCandidates format (.make format td) used)
      (templateCandidates format (.make format td') used) := by
  rw [templateCandidates_eq, templateCandidates_eq]
  refine (forall₂_filter (freeStatements_alike ht hused) fun x x' h => ?_).imp fun x x' h => ?_
  · rw [h.2.carried]
  · exact ⟨h.1.1, h.1.2.nodeType, h.1.2.text⟩

theorem fits_of_mem_zip {destination : Prepared N} {region : List (Statement N)}
    {slots : List (Slot N)} (h : List.Forall₂ (Fits format destination) region slots)
    {z : Statement N × Slot N} (hz : z ∈ region.zip slots) : Fits format destination z.1 z.2 :=
  (List.forall₂_iff_zip.1 h).2 hz

theorem destinationCandidates_alike {region region' : List (Statement N)}
    (hregion : List.Forall₂ (Alike format dd dd') region region') {slots slots' : List (Slot N)}
    (hslots : List.Forall₂ (SlotAlike format td td') slots slots')
    (hfits : List.Forall₂ (Fits format (.make format dd)) region slots) :
    List.Forall₂ SameForRefiner (destinationCandidates region slots)
      (destinationCandidates region' slots') := by
  have hzip := (List.forall₂_and_left _ _).2
    ⟨fun z hz => fits_of_mem_zip hfits hz, forall₂_zip_zip hregion hslots⟩
  refine List.forall₂_map_left_iff.2 (List.forall₂_map_right_iff.2 ((forall₂_filter hzip
    fun z z' h => ?_).imp fun z z' h => ?_))
  · exact h.2.2.isUnmatched.symm
  · obtain ⟨⟨hfit, halike, -⟩, hunmatched⟩ := h
    have hfrozen : (Prepared.make format dd).isFrozen z.1 = false := by
      cases hslot : z.2 with
      | unmatched => rw [hslot] at hfit; exact hfit.1
      | _ => rw [hslot] at hunmatched; cases hunmatched
    have hsight := halike.sight (isFrozen_eq_false.1 hfrozen)
    exact ⟨halike.index, hsight.nodeType, hsight.text⟩

theorem enter_alike (ht : DocumentsAlike format td td') (start : Nat) {m : Match}
    (hm : Pairable (.make format td) m.templateIndex) {slots slots' : List (Slot N)}
    (hslots : List.Forall₂ (SlotAlike format td td') slots slots') (used : List Bool) :
    List.Forall₂ (SlotAlike format td td') (enter (.make format td) start (slots, used) m).1
        (enter (.make format td') start (slots', used) m).1 ∧
      (enter (.make format td') start (slots', used) m).2 =
        (enter (.make format td) start (slots, used) m).2 := by
  obtain ⟨x, x', hx, hx', hindex, hsight⟩ := sight_of_pairable ht hm
  unfold enter
  rw [hx, hx']
  exact ⟨forall₂_set_set hslots (.paired _ hindex hsight) _, rfl⟩

theorem foldl_enter_alike (ht : DocumentsAlike format td td') {start : Nat} {ms : List Match} :
    (∀ m ∈ ms, Pairable (.make format td) m.templateIndex) →
    ∀ {state state' : List (Slot N) × List Bool},
      List.Forall₂ (SlotAlike format td td') state.1 state'.1 → state'.2 = state.2 →
      List.Forall₂ (SlotAlike format td td') (ms.foldl (enter (.make format td) start) state).1
          (ms.foldl (enter (.make format td') start) state').1 ∧
        (ms.foldl (enter (.make format td') start) state').2 =
          (ms.foldl (enter (.make format td) start) state).2 := by
  induction ms with
  | nil => intro _ state state' hslots hused; exact ⟨hslots, hused⟩
  | cons m ms ih =>
    rintro hms ⟨slots, used⟩ ⟨slots', used'⟩ hslots rfl
    obtain ⟨hslots', hused'⟩ := enter_alike ht start (hms m List.mem_cons_self) hslots used'
    exact ih (fun x hx => hms x (List.mem_cons_of_mem _ hx)) hslots' hused'

/-- Documents that are alike are paired alike, with a refiner and without. -/
theorem pair_alike (refiner : Option Refiner) (ht : DocumentsAlike format td td')
    (hd : DocumentsAlike format dd dd') :
    List.Forall₂ (SlotAlike format td td')
        (pair format refiner (.make format td) (.make format dd) (statements dd.nodes)).1
        (pair format refiner (.make format td') (.make format dd') (statements dd'.nodes)).1 ∧
      (pair format refiner (.make format td') (.make format dd') (statements dd'.nodes)).2 =
        (pair format refiner (.make format td) (.make format dd) (statements dd.nodes)).2 := by
  have hkept : Kept format (.make format td) (.make format dd) (statements dd.nodes) _ _ :=
    kept_exact (numberedFrom_statements td.nodes) (statements dd.nodes)
  have hfirst : ∀ j : Nat, (usedAtFirst (.make format td))[j]? = some false →
      Pairable (.make format td) j := fun j hj => (getElem?_usedAtFirst j).1 hj
  obtain ⟨hslots, hused⟩ := exact_alike ht hd hfirst
  unfold pair
  rw [usedAtFirst_alike ht]
  cases refiner with
  | none => exact ⟨hslots, hused⟩
  | some refiner =>
    have hfree := fun j hj => ((hkept.free j).1 hj).1
    have hstart : ((statements dd'.nodes).head?.map (·.index)).getD 0 =
        ((statements dd.nodes).head?.map (·.index)).getD 0 := by
      have hindices := map_eq_of_forall₂ hd (f := (·.index)) (g := (·.index))
        fun x x' h => h.index.symm
      rw [← List.head?_map, ← List.head?_map, hindices]
    have hlength : ∀ {d d' : Document N}, DocumentsAlike format d d' →
        (Prepared.make format d').list.length = (Prepared.make format d).list.length :=
      fun h => h.length_eq.symm
    dsimp only
    unfold refined
    rw [hused, hstart, hlength ht, hlength hd, refine_congr (templateCandidates_alike ht hfree)
      (destinationCandidates_alike hd hslots hkept.fits)]
    refine foldl_enter_alike ht (fun m hm => ?_) hslots hused
    obtain ⟨-, hm, -⟩ := mem_refine_candidates
      (numberedFrom_start (numberedFrom_statements dd.nodes)) hm
    exact hfree _ hm

end Pairing

/-! ### What is written -/

/-- An entry without the line that it names. -/
def Decision.unlined (e : Decision) : Decision := { e with line := none }

namespace Merger

variable {m : Merger N} {td td' dd dd' : Document N}

theorem resolvePair_alike {t t' x x' : Statement N} (ht : SameSight m.format td td' t t')
    (hx : SameSight m.format dd dd' x x') : m.resolvePair t' x' = m.resolvePair t x := by
  obtain ⟨-, hnormalized, hoverride⟩ := Face.mk.inj ht.face
  have htype : NodeView.nodeType t'.node = NodeView.nodeType t.node := ht.nodeType
  rw [resolvePair_congr t' hx.face]
  unfold resolvePair Resolver.resolve Resolver.preferredSide Resolver.mergeType
  rw [hnormalized, hoverride, htype]

theorem sight_of_paired {x x' t : Statement N} {score : Option Float}
    (h : Alike m.format dd dd' x x')
    (hfits : Pairing.Fits m.format (.make m.format dd) x (.paired t score)) :
    SameSight m.format dd dd' x x' :=
  h.sight (Pairing.isFrozen_eq_false.1 hfits.1)

theorem unlined_entryOf {x x' : Statement N} {slot slot' : Slot N} (h : Alike m.format dd dd' x x')
    (hfits : Pairing.Fits m.format (.make m.format dd) x slot)
    (hslot : SlotAlike m.format td td' slot slot') :
    (m.entryOf x' slot').unlined = (m.entryOf x slot).unlined := by
  cases hslot with
  | paired score hindex hsight =>
    simp only [entryOf, Decision.unlined, h.index, hindex,
      resolvePair_alike hsight (sight_of_paired h hfits)]
  | _ => simp only [entryOf, Decision.unlined, h.index]

/-- The blocks are the same, where the statements' own lines are. -/
theorem block_pieceOf_alike {x x' : Statement N} {slot slot' : Slot N}
    (h : Alike m.format dd dd' x x') (hfits : Pairing.Fits m.format (.make m.format dd) x slot)
    (hslot : SlotAlike m.format td td' slot slot')
    (hslice : dd'.slice x'.position = dd.slice x.position) :
    (m.pieceOf (.make m.format td') (.make m.format dd') x' slot').block =
      (m.pieceOf (.make m.format td) (.make m.format dd) x slot).block := by
  cases hslot with
  | paired score hindex hsight =>
    unfold pieceOf
    dsimp only
    rw [resolvePair_alike hsight (sight_of_paired h hfits)]
    split
    · exact hsight.slice
    · exact hslice
  | _ => exact hslice

/-- Whole merges of documents that are alike pair alike. -/
theorem paired_alike (m : Merger N) (ht : DocumentsAlike m.format td td')
    (hd : DocumentsAlike m.format dd dd') :
    List.Forall₂ (SlotAlike m.format td td') (m.paired td dd).1 (m.paired td' dd').1 ∧
      (m.paired td' dd').2 = (m.paired td dd).2 :=
  Pairing.pair_alike m.options.refiner ht hd

theorem unlined_decisions (ht : DocumentsAlike m.format td td')
    (hd : DocumentsAlike m.format dd dd') :
    (Outcome.ofPieces (m.wholePieces td' dd')).decisions.map Decision.unlined =
      (Outcome.ofPieces (m.wholePieces td dd)).decisions.map Decision.unlined := by
  have hkept := m.kept_paired td dd
  obtain ⟨hslots, hused⟩ := m.paired_alike ht hd
  have hzip := (List.forall₂_and_left _ _).2
    ⟨fun z hz => Pairing.fits_of_mem_zip hkept.fits hz, forall₂_zip_zip hd hslots⟩
  have hfree := Pairing.freeStatements_alike ht fun j hj => ((hkept.free j).1 hj).1
  rw [decisions_whole, decisions_whole, List.map_append, List.map_append, statementLog,
    statementLog, List.map_map, List.map_map, hused]
  refine congrArg₂ (· ++ ·) (map_eq_of_forall₂ hzip fun z z' h => ?_).symm ?_
  · exact (unlined_entryOf h.2.1 h.1 h.2.2).symm
  · cases m.options.addTemplateOnly with
    | false => rfl
    | true =>
      rw [addedLog_true, addedLog_true, List.map_map, List.map_map]
      refine (map_eq_of_forall₂ hfree fun x x' h => ?_).symm
      simp only [Function.comp_apply, addedEntry, Decision.unlined, h.1]

end Merger

end TemplateMerge
