import TemplateMerge.Format.KeyValue
import TemplateMerge.Proofs.Merge.Pieces

/-! The log accounts for every statement.

    A whole merge leaves one entry for every statement of the destination, in order, and then one
    for every statement that is added.  With the books of the pairing kept, no statement of the
    template is named twice, and none is lost that may be added.

        destination   0           1           2                     (template: 0 1 2, 2 frozen)
        entry         paired 1    appended    freeze block    added 0 -/

namespace TemplateMerge

variable {N : Type}

/-! ### Numbers -/

theorem NumberedFrom.map_index {list : List (Statement N)} : ∀ {start : Nat},
    NumberedFrom start list → list.map (·.index) = List.range' start list.length := by
  induction list with
  | nil => intro start _; rfl
  | cons s list ih =>
    intro start h
    obtain ⟨hs, hrest⟩ := h.cons
    rw [List.map_cons, ih hrest, hs, List.length_cons, List.range'_succ]

theorem NumberedFrom.pairwise_index {start : Nat} {list : List (Statement N)}
    (h : NumberedFrom start list) : (list.map (·.index)).Pairwise (· < ·) := by
  rw [h.map_index]
  exact List.pairwise_lt_range'

namespace Merger

variable {template : Prepared N}

theorem pairwise_freeStatements (hn : NumberedFrom 0 template.list) (used : List Bool) :
    ((freeStatements template used).map (·.index)).Pairwise (· < ·) :=
  hn.pairwise_index.sublist (List.filter_sublist.map _)

theorem mem_freeStatements (hn : NumberedFrom 0 template.list) {used : List Bool}
    {j : Nat} (hj : ∃ t, template.list[j]? = some t) :
    j ∈ (freeStatements template used).map (·.index) ↔ used[j]? = some false := by
  constructor
  · intro h
    obtain ⟨t, ht, rfl⟩ := List.mem_map.1 h
    simpa using (List.mem_filter.1 ht).2
  · intro h
    obtain ⟨t, ht⟩ := hj
    have hindex : t.index = j := by rw [hn j t ht, Nat.zero_add]
    refine List.mem_map.2 ⟨t, List.mem_filter.2 ⟨List.mem_of_getElem? ht, ?_⟩, hindex⟩
    rw [hindex, h]
    rfl

/-- The statements of the template that are added, by their numbers. -/
def addedIndices (template : Prepared N) (used : List Bool) (addTemplateOnly : Bool) : List Nat :=
  if addTemplateOnly then (freeStatements template used).map (·.index) else []

theorem pairwise_addedIndices (hn : NumberedFrom 0 template.list) (used : List Bool)
    (addTemplateOnly : Bool) :
    (addedIndices template used addTemplateOnly).Pairwise (· < ·) := by
  cases addTemplateOnly with
  | false => exact .nil
  | true => exact pairwise_freeStatements hn used

variable [NodeView N] {m : Merger N}

/-! ### Entries of statements -/

theorem kind_resolvePair (t s : Statement N) :
    (m.resolvePair t s).kind = .identical ∨ (m.resolvePair t s).kind = .keptTemplate ∨
      (m.resolvePair t s).kind = .keptDestination := by
  unfold resolvePair Resolver.resolve
  split
  · exact .inl rfl
  · cases m.options.resolver.preferredSide t.node s.node with
    | template => exact .inr (.inl rfl)
    | destination => exact .inr (.inr rfl)

theorem kind_entryOf_ne_added (s : Statement N) (slot : Slot N) :
    (m.entryOf s slot).kind ≠ .added := by
  cases slot with
  | paired t score =>
    rcases kind_resolvePair (m := m) t s with hkind | hkind | hkind <;> simp [entryOf, hkind]
  | _ => simp [entryOf]

theorem templateIndex_entryOf (s : Statement N) (slot : Slot N) :
    (m.entryOf s slot).templateIndex = slot.partner? := by
  cases slot <;> rfl

theorem destinationIndex_entryOf (s : Statement N) (slot : Slot N) :
    (m.entryOf s slot).destinationIndex = some s.index := by
  cases slot <;> rfl

/-- What the entry of a statement says, given what its slot says. -/
theorem entryOf_of_fits {destination : Prepared N} {s : Statement N} {slot : Slot N}
    (h : Pairing.Fits m.format destination s slot) :
    ((m.entryOf s slot).kind = .freezeBlock ↔ destination.document.Frozen s.node) ∧
    (¬ destination.document.Frozen s.node →
      ((m.entryOf s slot).templateIndex = none ↔
        (m.format.carriesThrough s.node = true ∧ (m.entryOf s slot).kind = .keptDestination) ∨
          (m.entryOf s slot).kind = .appended) ∧
      (m.format.carriesThrough s.node = true → (m.entryOf s slot).kind = .keptDestination)) := by
  rw [← Pairing.isFrozen_iff]
  cases slot with
  | frozen =>
    have hfrozen : destination.isFrozen s = true := h
    simp [entryOf, hfrozen]
  | carried =>
    obtain ⟨hfrozen, hcarried⟩ := h
    simp [entryOf, hfrozen, hcarried]
  | unmatched =>
    obtain ⟨hfrozen, hcarried⟩ := h
    simp [entryOf, hfrozen, hcarried]
  | paired t score =>
    obtain ⟨hfrozen, hcarried⟩ := h
    rcases kind_resolvePair (m := m) t s with hkind | hkind | hkind <;>
      simp [entryOf, hfrozen, hcarried, hkind]

variable {region : List (Statement N)} {slots : List (Slot N)}

theorem length_statementLog (h : region.length = slots.length) :
    (m.statementLog region slots).length = region.length := by
  rw [statementLog, List.length_map, List.length_zip, ← h, Nat.min_self]

theorem destinationIndex_statementLog (h : region.length = slots.length) :
    (m.statementLog region slots).map (·.destinationIndex) =
      (region.map (·.index)).map some := by
  conv_rhs => rw [← List.map_fst_zip (Nat.le_of_eq h)]
  rw [statementLog, List.map_map, List.map_map, List.map_map]
  exact List.map_congr_left fun z _ => destinationIndex_entryOf z.1 z.2

theorem templateIndex_statementLog (h : region.length = slots.length) :
    (m.statementLog region slots).filterMap (·.templateIndex) = Pairing.partners slots := by
  conv_rhs => rw [Pairing.partners, ← List.map_snd_zip (Nat.le_of_eq h.symm), List.filterMap_map]
  rw [statementLog, List.filterMap_map]
  refine congrArg (List.filterMap · _) (funext fun z => ?_)
  exact templateIndex_entryOf z.1 z.2

theorem getElem?_statementLog {i : Nat} {s : Statement N} {slot : Slot N}
    (hs : region[i]? = some s) (hslot : slots[i]? = some slot) :
    (m.statementLog region slots)[i]? = some (m.entryOf s slot) := by
  have hzip : (region.zip slots)[i]? = some (s, slot) :=
    List.getElem?_zip_eq_some.2 ⟨hs, hslot⟩
  rw [statementLog, List.getElem?_map, hzip]
  rfl

/-! ### Entries of additions -/

theorem mem_addedLog {used : List Bool} {addTemplateOnly : Bool} {e : Decision}
    (h : e ∈ addedLog template used addTemplateOnly) :
    addTemplateOnly = true ∧ e.kind = .added ∧ e.destinationIndex = none := by
  cases addTemplateOnly with
  | false => simp [addedLog] at h
  | true =>
    obtain ⟨t, -, rfl⟩ := List.mem_map.1 h
    exact ⟨rfl, rfl, rfl⟩

theorem templateIndex_addedLog (used : List Bool) (addTemplateOnly : Bool) :
    (addedLog template used addTemplateOnly).map (·.templateIndex) =
      (addedIndices template used addTemplateOnly).map some := by
  cases addTemplateOnly with
  | false => rfl
  | true =>
    rw [addedLog_true, addedIndices, if_pos rfl, List.map_map, List.map_map]
    rfl

theorem templateIndex_added (list : List (Statement N)) :
    (list.map addedEntry).filterMap (·.templateIndex) = list.map (·.index) := by
  rw [List.filterMap_map]
  exact congrFun List.filterMap_eq_map _

theorem filterMap_addedLog (used : List Bool) (addTemplateOnly : Bool) :
    (addedLog template used addTemplateOnly).filterMap (·.templateIndex) =
      addedIndices template used addTemplateOnly := by
  cases addTemplateOnly with
  | false => rfl
  | true =>
    rw [addedLog_true, templateIndex_added]
    rfl

end Merger

/-! ### The account -/

/-- A log that accounts for every statement of two documents. -/
structure LogAccounts [NodeView N] (format : Format N) (addTemplateOnly : Bool)
    (template destination : Document N) (log : List Decision) : Prop where
  /-- The first entries name the statements of the destination, in order. -/
  numbered : (log.take destination.nodes.length).map (·.destinationIndex) =
    (List.range destination.nodes.length).map some
  /-- All others are additions. -/
  additions : ∀ e ∈ log.drop destination.nodes.length,
    e.kind = .added ∧ e.destinationIndex = none
  /-- Additions name statements of the template, in order. -/
  increasing : ∃ indices : List Nat,
    (log.drop destination.nodes.length).map (·.templateIndex) = indices.map some ∧
      indices.Pairwise (· < ·)
  /-- The entry of a statement says whether it is frozen, and if not, whether it stands alone. -/
  entry : ∀ (i : Nat) (n : N), destination.nodes[i]? = some n → ∃ e, log[i]? = some e ∧
    (e.kind = .freezeBlock ↔ destination.Frozen n) ∧
    (¬ destination.Frozen n →
      (e.templateIndex = none ↔
        (format.carriesThrough n = true ∧ e.kind = .keptDestination) ∨ e.kind = .appended) ∧
      (format.carriesThrough n = true → e.kind = .keptDestination))
  /-- No statement of the template is named twice. -/
  once : (log.filterMap (·.templateIndex)).Nodup
  /-- What is named is a statement of the template that is not frozen. -/
  unfrozen : ∀ j ∈ log.filterMap (·.templateIndex),
    ∃ n, template.nodes[j]? = some n ∧ ¬ template.Frozen n
  /-- Nothing that may be added is lost. -/
  complete : addTemplateOnly = true → ∀ (j : Nat) (n : N), template.nodes[j]? = some n →
    ¬ template.Frozen n → (log.filterMap (·.templateIndex)).count j = 1
  /-- Nothing is added unasked. -/
  unadded : addTemplateOnly = false → ∀ e ∈ log, e.kind ≠ .added

namespace Merger

variable [NodeView N] {m : Merger N} {td dd : Document N} {region : List (Statement N)}
  {slots : List (Slot N)}

theorem getElem?_list_make (format : Format N) (d : Document N) (i : Nat) :
    (Prepared.make format d).list[i]? = d.nodes[i]?.map (⟨i, ·⟩) :=
  getElem?_statements d.nodes i

theorem pairable_make {format : Format N} {d : Document N} {j : Nat} :
    Pairing.Pairable (.make format d) j ↔ ∃ n, d.nodes[j]? = some n ∧ ¬ d.Frozen n := by
  unfold Pairing.Pairable
  rw [getElem?_list_make]
  constructor
  · rintro ⟨t, ht, hfrozen⟩
    obtain ⟨n, hn, rfl⟩ := Option.map_eq_some_iff.1 ht
    exact ⟨n, hn, Pairing.isFrozen_eq_false.1 hfrozen⟩
  · rintro ⟨n, hn, hfrozen⟩
    exact ⟨⟨j, n⟩, by rw [hn, Option.map_some], Pairing.isFrozen_eq_false.2 hfrozen⟩

theorem mem_addedIndices {used : List Bool}
    (h : Pairing.Kept m.format (.make m.format td) (.make m.format dd) region slots used)
    {addTemplateOnly : Bool} {j : Nat} :
    j ∈ addedIndices (.make m.format td) used addTemplateOnly ↔
      addTemplateOnly = true ∧ Pairing.Pairable (.make m.format td) j ∧
        j ∉ Pairing.partners slots := by
  have hn : NumberedFrom 0 (Prepared.make m.format td).list := numberedFrom_statements td.nodes
  rw [← h.free]
  cases addTemplateOnly with
  | false => simp [addedIndices]
  | true =>
    rw [addedIndices, if_pos rfl]
    constructor
    · intro hj
      obtain ⟨t, ht, rfl⟩ := List.mem_map.1 hj
      exact ⟨rfl, by simpa using (List.mem_filter.1 ht).2⟩
    · rintro ⟨-, hj⟩
      obtain ⟨⟨t, ht, -⟩, -⟩ := (h.free j).1 hj
      exact (mem_freeStatements hn ⟨t, ht⟩).2 hj

/-- What the log of a region names. -/
theorem named_eq (h : region.length = slots.length) (template : Prepared N) (used : List Bool)
    (addTemplateOnly : Bool) :
    (m.statementLog region slots ++ addedLog template used addTemplateOnly).filterMap
      (·.templateIndex) =
        Pairing.partners slots ++ addedIndices template used addTemplateOnly := by
  rw [List.filterMap_append, templateIndex_statementLog h, filterMap_addedLog]

theorem unfrozen_of_named {used : List Bool}
    (h : Pairing.Kept m.format (.make m.format td) (.make m.format dd) region slots used)
    {addTemplateOnly : Bool} {j : Nat}
    (hj : j ∈ (m.statementLog region slots ++
      addedLog (.make m.format td) used addTemplateOnly).filterMap (·.templateIndex)) :
    ∃ n, td.nodes[j]? = some n ∧ ¬ td.Frozen n := by
  rw [named_eq h.fits.length_eq, List.mem_append] at hj
  rcases hj with hj | hj
  · exact pairable_make.1 (h.pairable j hj)
  · exact pairable_make.1 ((mem_addedIndices h).1 hj).2.1

theorem nodup_named {used : List Bool}
    (h : Pairing.Kept m.format (.make m.format td) (.make m.format dd) region slots used)
    (addTemplateOnly : Bool) :
    (Pairing.partners slots ++ addedIndices (.make m.format td) used addTemplateOnly).Nodup := by
  have hn : NumberedFrom 0 (Prepared.make m.format td).list := numberedFrom_statements td.nodes
  have hadded := (pairwise_addedIndices hn used addTemplateOnly).imp Nat.ne_of_lt
  refine List.nodup_append.2 ⟨h.distinct, hadded, fun a ha b hb hab => ?_⟩
  exact ((mem_addedIndices h).1 hb).2.2 (hab ▸ ha)

/-- With the books kept, the log accounts for everything. -/
theorem logAccounts_of_kept {used : List Bool} (addTemplateOnly : Bool)
    (h : Pairing.Kept m.format (.make m.format td) (.make m.format dd)
      (statements dd.nodes) slots used) :
    LogAccounts m.format addTemplateOnly td dd (m.statementLog (statements dd.nodes) slots ++
      addedLog (.make m.format td) used addTemplateOnly) := by
  have hnt : NumberedFrom 0 (Prepared.make m.format td).list := numberedFrom_statements td.nodes
  have hslots : (statements dd.nodes).length = slots.length := h.fits.length_eq
  have hlen : (m.statementLog (statements dd.nodes) slots).length = dd.nodes.length := by
    rw [length_statementLog hslots, length_statements]
  have hnamed := named_eq (m := m) hslots (.make m.format td) used addTemplateOnly
  refine
    { numbered := ?numbered, additions := ?additions, increasing := ?increasing, entry := ?entry
      once := ?once, unfrozen := ?unfrozen, complete := ?complete, unadded := ?unadded }
  case numbered =>
    rw [List.take_left' hlen, destinationIndex_statementLog hslots,
      (numberedFrom_statements dd.nodes).map_index, length_statements, List.range_eq_range']
  case additions =>
    rw [List.drop_left' hlen]
    intro e he
    exact (mem_addedLog he).2
  case increasing =>
    rw [List.drop_left' hlen]
    exact ⟨_, templateIndex_addedLog used addTemplateOnly,
      pairwise_addedIndices hnt used addTemplateOnly⟩
  case entry =>
    intro i n hi
    have hs : (statements dd.nodes)[i]? = some ⟨i, n⟩ := by
      rw [getElem?_statements, hi, Option.map_some]
    obtain ⟨slot, hslot, hfits⟩ := Pairing.exists_getElem?_of_forall₂ h.fits hs
    refine ⟨m.entryOf ⟨i, n⟩ slot, ?_, entryOf_of_fits hfits⟩
    have hlog := getElem?_statementLog (m := m) hs hslot
    rw [List.getElem?_append_left (List.getElem?_eq_some_iff.1 hlog).1, hlog]
  case once => rw [hnamed]; exact nodup_named h addTemplateOnly
  case unfrozen =>
    intro j hj
    exact unfrozen_of_named h hj
  case complete =>
    intro hadd j n hj hfrozen
    have hpairable : Pairing.Pairable (.make m.format td) j := pairable_make.2 ⟨n, hj, hfrozen⟩
    rw [hnamed]
    refine List.count_eq_one_of_mem (nodup_named h addTemplateOnly) ?_
    rw [List.mem_append]
    by_cases hheld : j ∈ Pairing.partners slots
    · exact .inl hheld
    · exact .inr ((mem_addedIndices h).2 ⟨hadd, hpairable, hheld⟩)
  case unadded =>
    intro hadd e he
    rcases List.mem_append.1 he with he | he
    · obtain ⟨z, -, rfl⟩ := List.mem_map.1 he
      exact kind_entryOf_ne_added z.1 z.2
    · rw [(mem_addedLog he).1] at hadd
      cases hadd

/-- The log of a merge accounts for every statement of both documents. -/
theorem merge_log_accounts {t d : Text} (ht : m.format.parse t = .ok td)
    (hd : m.format.parse d = .ok dd) (hs : m.options.strategy ≠ .batch) :
    ∃ o, m.merge t d = .ok o ∧
      LogAccounts m.format m.options.addTemplateOnly td dd o.decisions := by
  refine ⟨_, merge_eq ht hd hs, ?_⟩
  let template := Prepared.make m.format td
  let destination := Prepared.make m.format dd
  have hkept : Pairing.Kept m.format template destination (statements dd.nodes)
      (Pairing.pair m.format m.options.refiner template destination (statements dd.nodes)).1
      (Pairing.pair m.format m.options.refiner template destination (statements dd.nodes)).2 :=
    Pairing.kept_pair (numberedFrom_statements td.nodes) (numberedFrom_statements dd.nodes)
  have hlog : (m.wholePieces td dd).filterMap (·.decision) = _ :=
    decisions_regionPieces (wholeRegion destination) m.options.addTemplateOnly
  rw [Outcome.ofPieces, hlog]
  exact logAccounts_of_kept m.options.addTemplateOnly hkept

/-- A frozen entry, a pair, and an addition. -/
theorem merge_log_accounts_key_value :
    let m : Merger (Typed KeyValue.Node) := ⟨KeyValue.format ⟨none, none⟩ .builtin,
      { MergeOptions.standard with addTemplateOnly := true }⟩
    let t := "a=1\nb=2\n".toList
    let d := "# structmerge:freeze\nb=3\n# structmerge:unfreeze\na=2".toList
    ∃ td dd, m.format.parse t = .ok td ∧ m.format.parse d = .ok dd ∧
      m.options.strategy ≠ .batch ∧ ∃ o, m.merge t d = .ok o ∧
        LogAccounts m.format m.options.addTemplateOnly td dd o.decisions := by
  refine ⟨_, _, rfl, rfl, by decide, ?_⟩
  exact merge_log_accounts rfl rfl (by decide)

end Merger

end TemplateMerge
