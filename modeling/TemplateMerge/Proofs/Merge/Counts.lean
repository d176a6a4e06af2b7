import TemplateMerge.Proofs.Merge.Idempotence
import TemplateMerge.Proofs.Merge.UsedUp

/-! A merge takes the greater count.

    Count the statements outside frozen regions that have a signature.  Those of the template are
    held by a slot, or they are free in the end; those that are held stand opposite statements of
    the destination with the same signature.  If one is free, the walk was never out of them, so
    every statement of the destination with the signature holds one.

        template        a   a   b   ▒           a twice, b once
        destination     a   c   ▒               a once, c once
        merged          a   c   ▒   a   b       a twice, b once, c once

    What is added are the free ones, and what is written for a pair keeps the signature. -/

namespace TemplateMerge

variable {N : Type} [NodeView N]

/-- Whether a node is outside frozen regions and has a signature. -/
def Format.countsFor (format : Format N) (d : Document N) (s : Signature) (n : N) : Bool :=
  ¬ d.Frozen n ∧ format.signature n = some s

/-- How many nodes outside frozen regions have a signature. -/
def Format.countOf (format : Format N) (d : Document N) (s : Signature) : Nat :=
  d.nodes.countP (format.countsFor d s)

theorem Format.countsFor_iff {format : Format N} {d : Document N} {s : Signature} {n : N} :
    format.countsFor d s n = true ↔ ¬ d.Frozen n ∧ format.signature n = some s :=
  decide_eq_true_iff

theorem Format.countOf_eq (format : Format N) (d : Document N) (s : Signature) :
    format.countOf d s = (statements d.nodes).countP fun x => format.countsFor d s x.node := by
  conv_lhs => rw [Format.countOf, ← map_node_statements d.nodes, List.countP_map]
  rfl

/-- Whether a statement has a signature. -/
def Statement.signedBy (format : Format N) (s : Signature) (x : Statement N) : Bool :=
  format.signature x.node == some s

namespace Merger

variable {m : Merger N} {r : MarkerRegistry} {t d content : Text} {td dd d' : Document N}
  {slots : List (Slot N)} {used : List Bool} {s : Signature}

/-! ### The template's statements: held or free -/

theorem mem_held_iff (h : Pairing.Kept m.format (.make m.format td) (.make m.format dd)
    (statements dd.nodes) slots used) {x : Statement N} (hx : x ∈ statements td.nodes) :
    x.index ∈ Pairing.partners (slots.filter (·.holds m.format s)) ↔
      m.format.countsFor td s x.node = true ∧ used[x.index]? ≠ some false := by
  rw [Pairing.mem_partners_holds, Format.countsFor_iff]
  constructor
  · rintro ⟨y, score, hslot, hindex, hs⟩
    obtain ⟨hy, hfrozen⟩ := held_of_kept h hslot
    obtain rfl := eq_of_index_eq hy hx hindex
    refine ⟨⟨hfrozen, hs⟩, fun hfree => ((h.free _).1 hfree).2 ?_⟩
    exact Pairing.mem_partners.2 ⟨y, score, hslot, rfl⟩
  · rintro ⟨⟨hfrozen, hs⟩, hused⟩
    have hpairable : Pairing.Pairable (.make m.format td) x.index :=
      pairable_make.2 ⟨x.node, getElem?_nodes hx, hfrozen⟩
    have hheld : x.index ∈ Pairing.partners slots := by
      by_contra hnot
      exact hused ((h.free _).2 ⟨hpairable, hnot⟩)
    obtain ⟨y, score, hslot, hindex⟩ := Pairing.mem_partners.1 hheld
    exact ⟨y, score, hslot, hindex, eq_of_index_eq (held_of_kept h hslot).1 hx hindex ▸ hs⟩

/-- Of the template's statements with a signature, each is held or free. -/
theorem countOf_template (h : Pairing.Kept m.format (.make m.format td) (.make m.format dd)
    (statements dd.nodes) slots used) (s : Signature) :
    m.format.countOf td s = slots.countP (·.holds m.format s) +
      (freeStatements (.make m.format td) used).countP (·.signedBy m.format s) := by
  let free (x : Statement N) : Bool := used[x.index]? == some false
  let counts (x : Statement N) : Bool := m.format.countsFor td s x.node
  have hfree : ((statements td.nodes).filter free).countP counts =
      (freeStatements (.make m.format td) used).countP (·.signedBy m.format s) := by
    refine List.countP_congr fun x hx => ?_
    have hunfrozen := (free_of_kept h hx).2
    show m.format.countsFor td s x.node = true ↔ (m.format.signature x.node == some s) = true
    rw [Format.countsFor_iff, beq_iff_eq]
    exact and_iff_right hunfrozen
  -- what is not free is held, number by number
  have hheld : ((statements td.nodes).filter fun x => ! free x).countP counts =
      slots.countP (·.holds m.format s) := by
    rw [← Pairing.length_partners_holds, List.countP_eq_length_filter, ← List.length_map (·.index)]
    have hnodup : (statements td.nodes).map (·.index) |>.Nodup :=
      (numberedFrom_statements td.nodes).pairwise_index.imp Nat.ne_of_lt
    refine List.Perm.length_eq ((List.perm_ext_iff_of_nodup
      (hnodup.sublist ((List.filter_sublist.trans List.filter_sublist).map _))
      (Pairing.nodup_partners_holds h.distinct)).2 fun j => ?_)
    constructor
    · intro hj
      obtain ⟨x, hx, rfl⟩ := List.mem_map.1 hj
      obtain ⟨hx, hcounts⟩ := List.mem_filter.1 hx
      obtain ⟨hx, hused⟩ := List.mem_filter.1 hx
      exact (mem_held_iff h hx).2 ⟨hcounts, by simpa [free] using hused⟩
    · intro hj
      obtain ⟨y, score, hslot, rfl, -⟩ := Pairing.mem_partners_holds.1 hj
      have hy := (held_of_kept h hslot).1
      obtain ⟨hcounts, hused⟩ := (mem_held_iff h hy).1 hj
      exact List.mem_map_of_mem (List.mem_filter.2
        ⟨List.mem_filter.2 ⟨hy, by simpa [free] using hused⟩, hcounts⟩)
  rw [Format.countOf_eq, List.countP_eq_countP_filter_add _ _ free, hfree, Nat.add_comm]
  exact congrArg (· + _) hheld

/-! ### The destination's statements: opposite what is held -/

/-- A slot of the walk that holds a signature belongs to a statement with it. -/
theorem countP_holds_le (h : Pairing.Kept m.format (.make m.format td) (.make m.format dd)
    (statements dd.nodes) slots used)
    (hexact : slots = (Pairing.exact m.format (.make m.format td) (.make m.format dd)
      (Pairing.usedAtFirst (.make m.format td)) (statements dd.nodes)).1) (s : Signature) :
    slots.countP (·.holds m.format s) ≤ m.format.countOf dd s := by
  rw [Format.countOf_eq]
  refine Pairing.countP_le_of_forall₂ (Pairing.forall₂_of_getElem? h.fits.length_eq.symm
    fun i slot x hslot hx hholds => ?_)
  obtain ⟨y, score, rfl, hs⟩ := Pairing.holds_eq_true.1 hholds
  have hmem : (x, Slot.paired y score) ∈ (statements dd.nodes).zip slots :=
    Pairing.mem_zip_of_getElem? hx hslot
  rw [hexact] at hmem
  have hsame := Pairing.signature_of_mem_exact (List.mem_of_getElem? hx) hmem
  exact Format.countsFor_iff.2 ⟨(paired_of_kept h hx hslot).1, hsame ▸ hs⟩

/-- While a statement of the template with a signature is free, every statement of the destination
    with it holds one. -/
theorem countOf_le_of_free (L : Linewise m.format r) (hd : m.format.parse d = .ok dd)
    {f : Statement N} (hexact : Pairing.exact m.format (.make m.format td) (.make m.format dd)
      (Pairing.usedAtFirst (.make m.format td)) (statements dd.nodes) = (slots, used))
    (hf : f ∈ freeStatements (.make m.format td) used) (hs : m.format.signature f.node = some s) :
    m.format.countOf dd s ≤ slots.countP (·.holds m.format s) := by
  obtain ⟨hmem, hfree⟩ := List.mem_filter.1 hf
  have hown : (Prepared.make m.format td).signatures.bySlot[f.index]? = some (some s) :=
    (Pairing.signature_of_getElem? (getElem?_of_mem_statements hmem)).2 hs
  have hused : (Pairing.exact m.format (.make m.format td) (.make m.format dd)
      (Pairing.usedAtFirst (.make m.format td)) (statements dd.nodes)).2[f.index]? =
        some false := by
    rw [hexact]
    simpa using hfree
  have hwalk := Pairing.holds_exact hown hused
  rw [hexact] at hwalk
  rw [Format.countOf_eq]
  refine Pairing.countP_le_of_forall₂ (Pairing.forall₂_of_getElem? hwalk.length_eq
    fun i x slot hx hslot hcounts => ?_)
  obtain ⟨hfrozen, hsame⟩ := Format.countsFor_iff.1 hcounts
  have hx' : x ∈ statements dd.nodes := List.mem_of_getElem? hx
  obtain ⟨slot', hslot', hholds⟩ := Pairing.exists_getElem?_of_forall₂ hwalk hx
  rw [hslot] at hslot'
  rw [Option.some.inj hslot']
  obtain ⟨line, hline⟩ := L.lineStatement hd hx' hfrozen
  exact hholds (Pairing.isFrozen_eq_false.2 hfrozen) hline.loose
    ((signatureOf_make dd hx').trans hsame)

/-! ### The merged text -/

namespace Written

variable {L : Linewise m.format r}

/-- A merged text has the statements of the destination, by their signatures, and those that were
    added. -/
theorem countOf_eq (h : Written L td dd slots used content) (ht : m.format.parse t = .ok td)
    (hd : m.format.parse d = .ok dd) (hd' : m.format.parse content = .ok d')
    (hexact : slots = (Pairing.exact m.format (.make m.format td) (.make m.format dd)
      (Pairing.usedAtFirst (.make m.format td)) (statements dd.nodes)).1) (s : Signature) :
    m.format.countOf d' s = m.format.countOf dd s + if m.options.addTemplateOnly then
      (freeStatements (.make m.format td) used).countP (·.signedBy m.format s) else 0 := by
  have hlength := h.length_nodes ht hd hd'
  have hbefore : ((statements d'.nodes).take dd.nodes.length).countP
      (fun x => m.format.countsFor d' s x.node) = m.format.countOf dd s := by
    rw [Format.countOf_eq]
    refine Pairing.countP_eq_of_forall₂ (Pairing.forall₂_of_getElem? ?_ fun i x' x hx' hx => ?_)
    · rw [List.length_take, length_statements, length_statements]
      omega
    · rw [List.getElem?_take] at hx'
      split at hx'
      · obtain ⟨slot, hslot, -⟩ := Pairing.exists_getElem?_of_forall₂ h.kept.fits hx
        have hfrozen := (h.echo ht hd hd' hx hslot hx').1
        rw [Bool.eq_iff_iff, Format.countsFor_iff, Format.countsFor_iff, hfrozen]
        refine and_congr_right fun hunfrozen => ?_
        rw [h.signature_echo ht hd hd' hexact hx hx' hunfrozen]
      · cases hx'
  rw [Format.countOf_eq, ← List.take_append_drop dd.nodes.length (statements d'.nodes),
    List.countP_append, hbefore]
  refine congrArg (m.format.countOf dd s + ·) ?_
  cases hadd : m.options.addTemplateOnly with
  | false =>
    rw [hadd] at hlength
    have hnone : (statements d'.nodes).drop dd.nodes.length = [] :=
      List.drop_of_length_le (by rw [length_statements, hlength]; exact Nat.le_refl _)
    rw [hnone]
    rfl
  | true =>
    rw [if_pos rfl]
    refine Pairing.countP_eq_of_forall₂ (Pairing.forall₂_of_getElem? ?_ fun j y f hy hf => ?_)
    · simp [hlength, hadd]
    · rw [List.getElem?_drop] at hy
      obtain ⟨hunfrozen, -, hface, -⟩ := h.echo_added ht hd hd' hadd hf hy
      have hsame : m.format.signature y.node = m.format.signature f.node :=
        congrArg Face.signature hface
      rw [Bool.eq_iff_iff, Format.countsFor_iff, Statement.signedBy, beq_iff_eq, hsame]
      exact and_iff_right hunfrozen

/-- Where the walk alone filled the slots, a merged text takes the greater count. -/
theorem countOf_eq_max (h : Written L td dd slots used content) (ht : m.format.parse t = .ok td)
    (hd : m.format.parse d = .ok dd) (hd' : m.format.parse content = .ok d')
    (hexact : Pairing.exact m.format (.make m.format td) (.make m.format dd)
      (Pairing.usedAtFirst (.make m.format td)) (statements dd.nodes) = (slots, used))
    (s : Signature) :
    m.format.countOf d' s = if m.options.addTemplateOnly then
      max (m.format.countOf td s) (m.format.countOf dd s) else m.format.countOf dd s := by
  have hslots := (congrArg Prod.fst hexact).symm
  have hmerged := h.countOf_eq ht hd hd' hslots s
  have htemplate := countOf_template h.kept s
  have hle := countP_holds_le h.kept hslots s
  have hfree : 0 < (freeStatements (.make m.format td) used).countP (·.signedBy m.format s) →
      m.format.countOf dd s ≤ slots.countP (·.holds m.format s) := by
    intro hpos
    obtain ⟨f, hf, hs⟩ := List.countP_pos_iff.1 hpos
    exact countOf_le_of_free L hd hexact hf (beq_iff_eq.1 hs)
  rw [hmerged]
  cases m.options.addTemplateOnly with
  | false => simp
  | true =>
    rw [if_pos rfl, if_pos rfl]
    omega

end Written

end Merger

/-! ### Formats -/

/-- Without a refiner, a merged text has of every signature as many statements outside frozen
    regions as the document that has more, if statements are added; as many as the destination, if
    not. -/
def Format.TakesGreaterCount (format : Format N) : Prop :=
  ∀ (options : MergeOptions) (t d : Text) (td dd : Document N), options.refiner = none →
    options.strategy ≠ .batch → format.parse t = .ok td → format.parse d = .ok dd →
      ∃ o merged, Merger.merge ⟨format, options⟩ t d = .ok o ∧
        format.parse o.content = .ok merged ∧
        ∀ s, format.countOf merged s = if options.addTemplateOnly then
          max (format.countOf td s) (format.countOf dd s) else format.countOf dd s

theorem Linewise.takesGreaterCount {format : Format N} {r : MarkerRegistry}
    (L : Linewise format r) : format.TakesGreaterCount := by
  intro options t d td dd hrefiner hs ht hd
  let m : Merger N := ⟨format, options⟩
  have ht : m.format.parse t = .ok td := ht
  have hd : m.format.parse d = .ok dd := hd
  have hL : Linewise m.format r := L
  obtain ⟨merged, hmerged, -⟩ := (Merger.spliced_merge hL ht hd).regions_survive hd
  have hexact : m.paired td dd = Pairing.exact m.format (.make m.format td) (.make m.format dd)
      (Pairing.usedAtFirst (.make m.format td)) (statements dd.nodes) := by
    have hnone : m.options.refiner = none := hrefiner
    rw [Merger.paired, hnone]
    rfl
  exact ⟨_, merged, Merger.merge_eq ht hd hs, hmerged,
    (Merger.written_merge hL ht hd).countOf_eq_max ht hd hmerged hexact.symm⟩

/-- A merge takes the greater of both counts, for outlines and for key/value files. -/
theorem merge_takes_greater_count (markers : MarkerRegistry) (options : KeyValue.Options) :
    (Outline.format markers).TakesGreaterCount ∧
      (KeyValue.format options markers).TakesGreaterCount :=
  ⟨(Outline.linewise markers).takesGreaterCount,
    (KeyValue.linewise options markers).takesGreaterCount⟩

/-- A key that the template has three times, once in a region, and the destination once. -/
theorem merge_takes_greater_count_added :
    let format := KeyValue.format ⟨none, none⟩ .builtin
    let options : MergeOptions := { MergeOptions.standard with addTemplateOnly := true }
    let t := "# structmerge:freeze\na=0\n# structmerge:unfreeze\na=1\na=2\nb=3".toList
    let d := "a=5\nc=6".toList
    let a : Signature := .content "entry" ['a']
    ∃ td dd o merged, options.refiner = none ∧ options.strategy ≠ .batch ∧
      format.parse t = .ok td ∧ format.parse d = .ok dd ∧
      Merger.merge ⟨format, options⟩ t d = .ok o ∧ format.parse o.content = .ok merged ∧
      format.countOf td a = 2 ∧ format.countOf dd a = 1 ∧ format.countOf merged a = 2 ∧
      o.content = "a=5\nc=6\na=2\nb=3".toList := by
  intro format options t d a
  have hcontent : (Merger.merge ⟨format, options⟩ t d).toOption.map (·.content) =
      some "a=5\nc=6\na=2\nb=3".toList := by decide +kernel
  obtain ⟨td, ht⟩ : ∃ td, format.parse t = .ok td := ⟨_, rfl⟩
  obtain ⟨dd, hd⟩ : ∃ dd, format.parse d = .ok dd := ⟨_, rfl⟩
  have htd : (format.parse t).toOption.map (format.countOf · a) = some 2 := by decide +kernel
  have hdd : (format.parse d).toOption.map (format.countOf · a) = some 1 := by decide +kernel
  rw [ht] at htd
  rw [hd] at hdd
  have htd : format.countOf td a = 2 := Option.some.inj htd
  have hdd : format.countOf dd a = 1 := Option.some.inj hdd
  obtain ⟨o, merged, ho, hmerged, hcount⟩ :=
    (merge_takes_greater_count .builtin ⟨none, none⟩).2 options t d td dd rfl (by decide) ht hd
  have hboth : format.countOf merged a = max (format.countOf td a) (format.countOf dd a) := hcount a
  rw [htd, hdd] at hboth
  rw [ho] at hcontent
  exact ⟨td, dd, o, merged, rfl, by decide, ht, hd, ho, hmerged, htd, hdd, hboth,
    Option.some.inj hcontent⟩

end TemplateMerge
