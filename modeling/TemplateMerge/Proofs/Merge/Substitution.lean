import TemplateMerge.Proofs.Format.KeyValue
import TemplateMerge.Proofs.Format.Outline
import TemplateMerge.Proofs.Merge.Fixed
import TemplateMerge.Proofs.Text.Blocks

/-! What the log says is what was written.

    The log alone tells the text of a merge.  An entry whose source is the template either exchanges
    the lines of one statement of the destination for those of one statement of the template, or
    adds the lines of a statement at the end.  Everything else is the destination as it was, and a
    line feed is put between two blocks only where the first lacks one.

        destination    1   2─3   4   5              statements of the template:  s, t, u
        log            ·   t     ·   ·   added u
        written        1   t     4   5   u

    The walk over a region copies gaps and statements one by one; on paper the lines between two
    exchanges are one range.  So lines that were copied and not yet followed by an exchange are
    carried along as pending (`lines_bodyPieces_exchanged`). -/

namespace TemplateMerge

variable {N : Type}

namespace Document

/-- The lines of a document from `next` to `last`, in which positions are exchanged for texts. -/
def exchanged (d : Document N) (last : Nat) : (next : Nat) → List (Position × Text) → List Text
  | next, [] => [d.sourceRange next last]
  | next, (p, text) :: rest =>
    d.sourceRange next (p.startLine - 1) :: text :: d.exchanged last (p.endLine + 1) rest

theorem exchanged_nil (d : Document N) (next last : Nat) :
    d.exchanged last next [] = [d.sourceRange next last] := rfl

end Document

variable [NodeView N]

namespace Decision

/-- What an entry says is exchanged: the lines of a statement of the destination, for those of a
    statement of the template. -/
def exchange? (template destination : Document N) (e : Decision) : Option (Position × Text) :=
  if e.source = .template then do
    let i ← e.destinationIndex
    let j ← e.templateIndex
    let old ← destination.nodes[i]?
    let new ← template.nodes[j]?
    some (NodeView.position old, template.slice (NodeView.position new))
  else none

/-- What an entry says is added: the lines of a statement of the template. -/
def addition? (template : Document N) (e : Decision) : Option Text :=
  if e.kind = .added then do
    let j ← e.templateIndex
    let new ← template.nodes[j]?
    some (template.slice (NodeView.position new))
  else none

end Decision

/-- An outcome that is lines `first` to `last` of the destination with exactly the exchanges and the
    additions that its log records. -/
structure Audited (template destination : Document N) (first last : Nat) (o : Outcome) : Prop where
  /-- Where the template is the source, an entry exchanges a statement or adds one. -/
  resolved : ∀ e ∈ o.decisions, e.source = .template →
    (e.kind = .keptTemplate ∧ (e.exchange? template destination).isSome = true) ∨
      (e.kind = .added ∧ e.destinationIndex = none ∧ (e.addition? template).isSome = true)
  /-- What is exchanged stands in order and apart. -/
  apart : (o.decisions.filterMap (·.exchange? template destination)).Pairwise
    fun x y => x.1.endLine < y.1.startLine
  /-- It is within the lines. -/
  within : ∀ x ∈ o.decisions.filterMap (·.exchange? template destination),
    first ≤ x.1.startLine ∧ x.1.endLine ≤ last
  /-- The text is made of the lines with these exchanges, and then the additions. -/
  content : o.content = Text.joinBlocks
    ((destination.exchanged last first
        (o.decisions.filterMap (·.exchange? template destination)) ++
      o.decisions.filterMap (·.addition? template)).filter (· ≠ []))

theorem Audited.unchanged {template destination : Document N} {first last : Nat} {o : Outcome}
    (h : Audited template destination first last o)
    (hnone : ∀ e ∈ o.decisions, e.kind ≠ .keptTemplate ∧ e.kind ≠ .added) :
    o.content = destination.sourceRange first last := by
  have hexchange : o.decisions.filterMap (·.exchange? template destination) = [] := by
    refine List.filterMap_eq_nil_iff.2 fun e he => if_neg fun hsource => ?_
    rcases h.resolved e he hsource with ⟨hkind, -⟩ | ⟨hkind, -⟩
    · exact (hnone e he).1 hkind
    · exact (hnone e he).2 hkind
  have haddition : o.decisions.filterMap (·.addition? template) = [] :=
    List.filterMap_eq_nil_iff.2 fun e he => if_neg (hnone e he).2
  rw [h.content, hexchange, haddition, Document.exchanged_nil, List.append_nil,
    Text.joinBlocks_single]

namespace Merger

variable {m : Merger N} {template destination : Prepared N}

/-! ### Entries -/

theorem source_entryOf {s : Statement N} {slot : Slot N} :
    (m.entryOf s slot).source = .template ↔ ∃ x, m.taken? s slot = some x := by
  cases slot with
  | paired x score => simp [entryOf, taken?, Resolution.takesTemplate]
  | _ => simp [entryOf, taken?]

variable {td dd : Document N} {region : List (Statement N)} {slots : List (Slot N)}

theorem exchange?_entryOf {s : Statement N} {slot : Slot N} (hs : s ∈ statements dd.nodes)
    (hheld : ∀ x score, slot = .paired x score → x ∈ statements td.nodes) :
    (m.entryOf s slot).exchange? td dd =
      (m.taken? s slot).map fun x => (s.position, td.slice x.position) := by
  cases htaken : m.taken? s slot with
  | none =>
    have hsource : (m.entryOf s slot).source ≠ .template := fun h => by
      obtain ⟨x, hx⟩ := source_entryOf.1 h
      rw [htaken] at hx
      cases hx
    exact if_neg hsource
  | some x =>
    obtain ⟨score, rfl, -⟩ := taken?_eq_some htaken
    have hnode := getElem?_nodes (hheld x score rfl)
    unfold Decision.exchange?
    rw [if_pos (source_entryOf.2 ⟨x, htaken⟩), destinationIndex_entryOf, templateIndex_entryOf]
    simp [Slot.partner?, getElem?_nodes hs, hnode, Statement.position]

theorem addition?_entryOf (s : Statement N) (slot : Slot N) :
    (m.entryOf s slot).addition? td = none :=
  if_neg (kind_entryOf_ne_added s slot)

theorem addition?_addedEntry {x : Statement N} (hx : x ∈ statements td.nodes) :
    (addedEntry x).addition? td = some (td.slice x.position) := by
  unfold Decision.addition? addedEntry
  rw [if_pos rfl]
  simp [getElem?_nodes hx, Statement.position]

/-- What is exchanged in a region, by the slots. -/
def exchanges (m : Merger N) (template : Document N) (zs : List (Statement N × Slot N)) :
    List (Position × Text) :=
  zs.filterMap fun z => (m.taken? z.1 z.2).map fun x => (z.1.position, template.slice x.position)

/-- What is added after a region, by the flags. -/
def additions (template : Prepared N) (used : List Bool) (addTemplateOnly : Bool) : List Text :=
  if addTemplateOnly then
    (freeStatements template used).map fun x => template.document.slice x.position
  else []

theorem exchanges_cons (z : Statement N × Slot N) (zs : List (Statement N × Slot N)) :
    m.exchanges td (z :: zs) = ((m.taken? z.1 z.2).map fun x =>
      (z.1.position, td.slice x.position)).toList ++ m.exchanges td zs := by
  unfold exchanges
  rw [List.filterMap_cons]
  cases m.taken? z.1 z.2 <;> rfl

/-- The entries of statements say what is exchanged. -/
theorem exchange?_statementLog (hregion : ∀ s ∈ region, s ∈ statements dd.nodes)
    (hheld : ∀ x score, .paired x score ∈ slots → x ∈ statements td.nodes) :
    (m.statementLog region slots).filterMap (·.exchange? td dd) =
      m.exchanges td (region.zip slots) := by
  rw [statementLog, List.filterMap_map]
  refine List.filterMap_congr fun z hz => ?_
  obtain ⟨hs, hslot⟩ := List.of_mem_zip hz
  exact exchange?_entryOf (hregion _ hs) fun x score h => hheld x score (h ▸ hslot)

theorem exchange?_addedLog (used : List Bool) (addTemplateOnly : Bool) :
    (addedLog template used addTemplateOnly).filterMap (·.exchange? td dd) = [] := by
  refine List.filterMap_eq_nil_iff.2 fun e he => ?_
  obtain ⟨-, -, hindex⟩ := mem_addedLog he
  unfold Decision.exchange?
  rw [hindex]
  split <;> rfl

theorem addition?_statementLog (region : List (Statement N)) (slots : List (Slot N)) :
    (m.statementLog region slots).filterMap (·.addition? td) = [] := by
  rw [statementLog, List.filterMap_map]
  exact List.filterMap_eq_nil_iff.2 fun z _ => addition?_entryOf z.1 z.2

/-- The entries of additions say what is added. -/
theorem addition?_addedLog (used : List Bool) (addTemplateOnly : Bool) :
    (addedLog (.make m.format td) used addTemplateOnly).filterMap (·.addition? td) =
      additions (.make m.format td) used addTemplateOnly := by
  cases addTemplateOnly with
  | false => rfl
  | true =>
    rw [addedLog_true, List.filterMap_map]
    refine (List.filterMap_congr fun x hx => ?_).trans (congrFun List.filterMap_eq_map _)
    exact addition?_addedEntry (List.mem_filter.1 hx).1

/-! ### Lines -/

/-- The pieces of statements have the lines of the region in which the exchanges are made.  The
    lines from `pending` to the one before `next` have been copied already. -/
theorem lines_bodyPieces_exchanged (m : Merger N) (template destination : Prepared N) {last : Nat}
    (h2 : last ≤ destination.document.lineCount) {zs : List (Statement N × Slot N)} :
    ∀ {pending next : Nat}, 1 ≤ pending → pending ≤ next → next ≤ last + 1 →
      InOrder next last (zs.map (·.1)) →
    (List.range' pending (next - pending)).map destination.document.line ++
        (m.bodyPieces template destination last next zs).flatMap
          (fun p => Text.splitLines p.block) =
      (destination.document.exchanged last pending
        (m.exchanges template.document zs)).flatMap Text.splitLines := by
  induction zs with
  | nil =>
    intro pending next h1 hle hnext _
    rw [bodyPieces, lines_gap (by omega) h2, ← List.map_append, ← range'_cut hle hnext]
    show _ = [destination.document.sourceRange pending last].flatMap Text.splitLines
    rw [List.flatMap_singleton, Document.splitLines_sourceRange_map h1 h2]
  | cons z zs ih =>
    intro pending next h1 hle hnext h
    rw [List.map_cons] at h
    obtain ⟨hfirst, hordered, hlast⟩ := h.head
    have hbefore : (List.range' pending (next - pending)).map destination.document.line ++
        (List.range' next (z.1.position.startLine - next)).map destination.document.line =
          (List.range' pending (z.1.position.startLine - pending)).map
            destination.document.line := by
      rw [← List.map_append, ← range'_cut hle hfirst]
    rw [bodyPieces, List.flatMap_append, List.flatMap_cons, lines_gap_before (by omega) h2 h,
      Nat.max_eq_right (by omega), block_pieceOf, ← List.append_assoc, hbefore, exchanges_cons]
    cases htaken : m.taken? z.1 z.2 with
    | none =>
      -- the statement's own lines become pending as well
      have hown : (List.range' pending (z.1.position.startLine - pending)).map
          destination.document.line ++
          Text.splitLines (destination.document.slice z.1.position) =
            (List.range' pending (z.1.position.endLine + 1 - pending)).map
              destination.document.line := by
        rw [Document.slice, Document.splitLines_sourceRange_map (by omega) (by omega),
          ← List.map_append, ← range'_cut (by omega) (by omega)]
      rw [← List.append_assoc]
      dsimp only [Option.map_none, Option.toList_none, List.nil_append]
      rw [hown]
      exact ih h1 (by omega) (by omega) h.tail
    | some x =>
      -- the exchange ends what is pending
      have hpending : 1 ≤ z.1.position.endLine + 1 := Nat.le_add_left ..
      have hrest := ih hpending (Nat.le_refl _) (by omega) h.tail
      rw [Nat.sub_self, List.range'_zero, List.map_nil, List.nil_append] at hrest
      dsimp only [Option.map_some, Option.toList_some, List.singleton_append]
      rw [Document.exchanged, List.flatMap_cons, List.flatMap_cons, hrest,
        Document.splitLines_sourceRange_map h1 (by omega),
        Nat.sub_add_cancel (by omega : 1 ≤ z.1.position.startLine)]

theorem lines_additions (used : List Bool) (addTemplateOnly : Bool) :
    (if addTemplateOnly then addedPieces template used else []).flatMap
        (fun p => Text.splitLines p.block) =
      (additions template used addTemplateOnly).flatMap Text.splitLines := by
  cases addTemplateOnly with
  | false => rfl
  | true =>
    rw [if_pos rfl, additions, if_pos rfl, addedPieces, List.flatMap_map, List.flatMap_map]
    rfl

/-! ### Regions -/

theorem mem_exchanges {zs : List (Statement N × Slot N)} {x : Position × Text}
    (h : x ∈ m.exchanges td zs) : ∃ z ∈ zs, x.1 = z.1.position := by
  obtain ⟨z, hz, hx⟩ := List.mem_filterMap.1 h
  obtain ⟨t, -, rfl⟩ := Option.map_eq_some_iff.1 hx
  exact ⟨z, hz, rfl⟩

/-- Exchanges stand where their statements do. -/
theorem pairwise_exchanges {zs : List (Statement N × Slot N)}
    (h : (zs.map (·.1)).Pairwise fun s t => s.position.endLine < t.position.startLine) :
    (m.exchanges td zs).Pairwise fun x y => x.1.endLine < y.1.startLine := by
  induction zs with
  | nil => exact .nil
  | cons z zs ih =>
    obtain ⟨hfirst, hrest⟩ := List.pairwise_cons.1 h
    rw [exchanges_cons]
    cases m.taken? z.1 z.2 with
    | none => exact ih hrest
    | some t =>
      refine List.pairwise_cons.2 ⟨fun x hx => ?_, ih hrest⟩
      obtain ⟨y, hy, hposition⟩ := mem_exchanges hx
      rw [hposition]
      exact hfirst y.1 (List.mem_map_of_mem hy)

/-- A region is written as its log says. -/
theorem audited_regionPieces (region : Region N) {start : Nat}
    (hn : NumberedFrom start region.list) (hregion : ∀ s ∈ region.list, s ∈ statements dd.nodes)
    (horder : InOrder region.firstLine region.lastLine region.list) (h1 : 1 ≤ region.firstLine)
    (hle : region.firstLine ≤ region.lastLine + 1) (h2 : region.lastLine ≤ dd.lineCount)
    (addTemplateOnly : Bool) :
    Audited td dd region.firstLine region.lastLine (.ofPieces
      (m.regionPieces (.make m.format td) (.make m.format dd) region addTemplateOnly)) := by
  let paired := Pairing.pair m.format m.options.refiner (.make m.format td) (.make m.format dd)
    region.list
  have hkept : Pairing.Kept m.format (.make m.format td) (.make m.format dd) region.list paired.1
      paired.2 := Pairing.kept_pair (numberedFrom_statements td.nodes) hn
  have hheld : ∀ x score, .paired x score ∈ paired.1 → x ∈ statements td.nodes :=
    fun x score hx => (held_of_kept hkept hx).1
  have hzip : (region.list.zip paired.1).map (·.1) = region.list :=
    List.map_fst_zip (Nat.le_of_eq hkept.fits.length_eq)
  have hlog : (Outcome.ofPieces (m.regionPieces (.make m.format td) (.make m.format dd) region
      addTemplateOnly)).decisions = m.statementLog region.list paired.1 ++
        addedLog (.make m.format td) paired.2 addTemplateOnly :=
    decisions_regionPieces region addTemplateOnly
  have hexchange : (m.statementLog region.list paired.1 ++
      addedLog (.make m.format td) paired.2 addTemplateOnly).filterMap (·.exchange? td dd) =
        m.exchanges td (region.list.zip paired.1) := by
    rw [List.filterMap_append, exchange?_statementLog hregion hheld, exchange?_addedLog,
      List.append_nil]
  have haddition : (m.statementLog region.list paired.1 ++
      addedLog (.make m.format td) paired.2 addTemplateOnly).filterMap (·.addition? td) =
        additions (.make m.format td) paired.2 addTemplateOnly := by
    rw [List.filterMap_append, addition?_statementLog, addition?_addedLog, List.nil_append]
  refine { resolved := ?resolved, apart := ?apart, within := ?within, content := ?content }
  case resolved =>
    rw [hlog]
    intro e he hsource
    rcases List.mem_append.1 he with he | he
    · obtain ⟨z, hz, rfl⟩ := List.mem_map.1 he
      obtain ⟨hs, hslot⟩ := List.of_mem_zip hz
      obtain ⟨x, hx⟩ := source_entryOf.1 hsource
      refine .inl ⟨kind_eq_keptTemplate.2 ⟨x, hx⟩, ?_⟩
      rw [exchange?_entryOf (hregion _ hs) fun x score h => hheld x score (h ▸ hslot), hx]
      rfl
    · obtain ⟨rfl, hkind, hindex⟩ := mem_addedLog he
      obtain ⟨x, hx, rfl⟩ := List.mem_map.1 he
      refine .inr ⟨hkind, hindex, ?_⟩
      rw [addition?_addedEntry (List.mem_filter.1 hx).1]
      rfl
  case apart =>
    rw [hlog, hexchange]
    exact pairwise_exchanges (by rw [hzip]; exact horder.apart)
  case within =>
    rw [hlog, hexchange]
    intro x hx
    obtain ⟨z, hz, hposition⟩ := mem_exchanges hx
    rw [hposition]
    exact horder.within z.1 (List.of_mem_zip hz).1
  case content =>
    rw [hlog, hexchange, haddition, ← Text.assemble_eq_joinBlocks]
    refine Text.assemble_congr ?_
    have hbody := lines_bodyPieces_exchanged m (.make m.format td) (.make m.format dd) h2 h1
      (Nat.le_refl _) hle (by rw [hzip]; exact horder)
    rw [Nat.sub_self, List.range'_zero, List.map_nil, List.nil_append] at hbody
    rw [List.flatMap_map, regionPieces, List.flatMap_append, List.flatMap_append, hbody]
    exact congrArg (List.append _) (lines_additions paired.2 addTemplateOnly)

/-- A whole merge is written as its log says. -/
theorem audited_whole (m : Merger N) (td : Document N)
    (horder : InOrder 1 dd.lineCount (statements dd.nodes)) :
    Audited td dd 1 dd.lineCount (.ofPieces (m.wholePieces td dd)) :=
  audited_regionPieces (wholeRegion (.make m.format dd)) (numberedFrom_statements dd.nodes)
    (fun _ hs => hs) horder (Nat.le_refl 1) (Nat.succ_le_succ (Nat.zero_le _)) (Nat.le_refl _) _

/-- The template wins no pair where the destination is to win everything. -/
theorem taken?_of_destination (h : m.options.preference = .everywhere .destination)
    (s : Statement N) (slot : Slot N) : m.taken? s slot = none := by
  cases slot with
  | paired x score =>
    have hside : m.options.resolver.preferredSide x.node s.node = .destination := by
      simp [Resolver.preferredSide, MergeOptions.resolver, h, Preference.sideFor]
    unfold taken? resolvePair Resolver.resolve
    dsimp only
    rw [hside]
    split <;> rfl
  | _ => rfl

/-- Then the log says that nothing is exchanged, and if nothing is to be added, nothing is. -/
theorem kinds_of_destination (h : m.options.preference = .everywhere .destination)
    (hadd : m.options.addTemplateOnly = false) :
    ∀ e ∈ (Outcome.ofPieces (m.wholePieces td dd)).decisions,
      e.kind ≠ .keptTemplate ∧ e.kind ≠ .added := by
  rw [decisions_whole, hadd, addedLog_false, List.append_nil]
  intro e he
  obtain ⟨z, -, rfl⟩ := List.mem_map.1 he
  refine ⟨fun hkind => ?_, kind_entryOf_ne_added z.1 z.2⟩
  obtain ⟨x, hx⟩ := kind_eq_keptTemplate.1 hkind
  rw [taken?_of_destination h] at hx
  cases hx

end Merger

/-! ### Formats -/

/-- Whatever is merged into a document whose nodes stand in order, the text is what the log says;
    where the log has no exchange and no addition it is the destination, and it has none when the
    destination wins everything and nothing is to be added. -/
def Format.WritesItsLog (format : Format N) : Prop :=
  ∀ (options : MergeOptions) (t d : Text) (td dd : Document N), options.strategy = .nodePair →
    format.parse t = .ok td → format.parse d = .ok dd →
    PositionsWithin dd.lineCount (dd.nodes.map NodeView.position) →
      ∃ o, Merger.merge ⟨format, options⟩ t d = .ok o ∧ Audited td dd 1 dd.lineCount o ∧
        ((∀ e ∈ o.decisions, e.kind ≠ .keptTemplate ∧ e.kind ≠ .added) →
          o.content = dd.source ∧ (dd.source = d → o.changed = false)) ∧
        (options.preference = .everywhere .destination → options.addTemplateOnly = false →
          ∀ e ∈ o.decisions, e.kind ≠ .keptTemplate ∧ e.kind ≠ .added)

/-- Documents that are read keep their text, and their nodes stand in order. -/
def Format.Orderly (format : Format N) : Prop :=
  ∀ (s : Text) (d : Document N), format.parse s = .ok d →
    d.source = s ∧ PositionsWithin d.lineCount (d.nodes.map NodeView.position)

theorem Format.writesItsLog (format : Format N) : format.WritesItsLog := by
  intro options t d td dd hs ht hd hwithin
  let m : Merger N := ⟨format, options⟩
  have ht : m.format.parse t = .ok td := ht
  have hd : m.format.parse d = .ok dd := hd
  have haudited := m.audited_whole td hwithin.inOrder
  refine ⟨_, Merger.merge_eq ht hd (by rw [hs]; decide), ?_, fun hnone => ?_, ?_⟩
  · exact ⟨haudited.resolved, haudited.apart, haudited.within, haudited.content⟩
  · have hsource := (haudited.unchanged hnone).trans dd.sourceRange_all
    exact ⟨hsource, fun hown => decide_eq_false (not_not.2 (hsource.trans hown))⟩
  · exact Merger.kinds_of_destination (m := m)

theorem Linewise.orderly {format : Format N} {r : MarkerRegistry} (L : Linewise format r) :
    format.Orderly := by
  intro s d hd
  refine ⟨Text.eq_of_splitLines ?_, L.positionsWithin hd⟩
  rw [← d.lines_eq, L.lines_eq hd]

/-- The text of a merge is the destination with exactly the exchanges and the additions that the log
    records, for every format whose nodes stand in order, as those of outlines and of key/value
    files do. -/
theorem merge_writes_log (format : Format N) (markers : MarkerRegistry)
    (options : KeyValue.Options) :
    format.WritesItsLog ∧ (Outline.format markers).Orderly ∧
      (KeyValue.format options markers).Orderly :=
  ⟨format.writesItsLog, (Outline.linewise markers).orderly,
    (KeyValue.linewise options markers).orderly⟩

/-- An exchange in the last line, which is not ended, and an addition after it. -/
theorem merge_writes_log_unended :
    let format := KeyValue.format ⟨none, none⟩ .builtin
    let options : MergeOptions := ⟨.everywhere .template, true, .none, none, .nodePair⟩
    let t := "b=2\na=1".toList
    let d := "# note\n\na=3".toList
    ∃ td dd, options.strategy = .nodePair ∧ format.parse t = .ok td ∧ format.parse d = .ok dd ∧
      PositionsWithin dd.lineCount (dd.nodes.map NodeView.position) ∧
      ∃ o, Merger.merge ⟨format, options⟩ t d = .ok o ∧ Audited td dd 1 dd.lineCount o ∧
        o.content = "# note\n\na=1\nb=2\n".toList := by
  intro format options t d
  have hcontent : (Merger.merge ⟨format, options⟩ t d).toOption.map (·.content) =
      some "# note\n\na=1\nb=2\n".toList := by decide +kernel
  obtain ⟨hwrites, -, horderly⟩ := merge_writes_log format .builtin ⟨none, none⟩
  have hwithin := (horderly d _ rfl).2
  obtain ⟨o, ho, haudited, -⟩ := hwrites options t d _ _ rfl rfl rfl hwithin
  rw [ho] at hcontent
  exact ⟨_, _, rfl, rfl, rfl, hwithin, o, ho, haudited, Option.some.inj hcontent⟩

end TemplateMerge
