import TemplateMerge.Format.KeyValue
import TemplateMerge.Proofs.Format.Linewise

/-! Key/value files are read line by line.

    A line is skipped, makes a section or an entry, or cannot be read, and that depends on the line
    without the white space around it.  Regions play no part: lines in them make statements too.

        line         [s]        ; note      a = 1
        statement    single 1               single 3 -/

namespace TemplateMerge

namespace KeyValue

variable {options : Options} {markers : MarkerRegistry}

/-! ### What a line makes -/

/-- Whether a line can be read. -/
def readsLine (l : Text) : Bool := isSkipped (Text.trim l) || (kindAndKey? (Text.trim l)).isSome

/-- Whether a line makes a statement. -/
def makesStatement (l : Text) : Bool := !isSkipped (Text.trim l)

/-- The merge type that a key calls for. -/
def overrideOf (options : Options) (kind : Kind) (key : Text) : Option String :=
  (options.typedStart.filter fun rule => kind = .entry && (Text.stripStart? rule.1 key).isSome).map
    (·.2)

/-- The face of the statement that a line makes. -/
def faceOfLine (options : Options) (l : Text) : Face :=
  let found := kindAndKey? (Text.trim l)
  { signature := found.map fun (kind, key) => .content kind.name key
    normalized := Text.trimEnd l
    mergeOverride := found.bind fun (kind, key) => overrideOf options kind key }

theorem readsLine_of_trim {l l' : Text} (h : Text.trim l' = Text.trim l) :
    readsLine l' = readsLine l := by
  unfold readsLine
  rw [h]

theorem makesStatement_of_trim {l l' : Text} (h : Text.trim l' = Text.trim l) :
    makesStatement l' = makesStatement l := by
  unfold makesStatement
  rw [h]

theorem faceOfLine_of_trim {l l' : Text} (h : Text.trim l' = Text.trim l)
    (hend : Text.trimEnd l' = Text.trimEnd l) : faceOfLine options l' = faceOfLine options l := by
  unfold faceOfLine
  rw [h, hend]

theorem mergeOverride_typedNode (options : Options) (n : Node) :
    (typedNode options n).mergeOverride = overrideOf options n.kind n.key := by
  unfold typedNode overrideOf
  cases options.typedStart with
  | none => rfl
  | some rule =>
    by_cases h : n.kind = .entry ∧ (Text.stripStart? rule.1 n.key).isSome = true
    · rw [Option.filter_some]
      simp [h, Typed.mark]
    · rw [Option.filter_some]
      simp [h, Typed.plain]

theorem inner_typedNode (options : Options) (n : Node) : (typedNode options n).inner = n := by
  unfold typedNode
  split
  · split <;> rfl
  · rfl

theorem faceOf_typedNode {kind : Kind} {key raw : Text} {number : Nat}
    (h : kindAndKey? (Text.trim raw) = some (kind, key)) :
    (format options markers).faceOf (typedNode options ⟨kind, key, raw, number⟩) =
      faceOfLine options raw := by
  let n : Node := ⟨kind, key, raw, number⟩
  show Face.mk
    (some (.content (typedNode options n).inner.kind.name (typedNode options n).inner.key))
    (Text.trimEnd (typedNode options n).inner.text)
    ((typedNode options n).mergeOverride <|> none) = _
  rw [inner_typedNode, mergeOverride_typedNode, faceOfLine, h]
  simp [n]

theorem position_typedNode (options : Options) (n : Node) :
    NodeView.position (typedNode options n) = Position.single n.line := by
  show Position.single (typedNode options n).inner.line = _
  rw [inner_typedNode]

/-! ### Reading lines one by one -/

/-- The lines that make statements, from line `number` on. -/
def layoutFrom : (number : Nat) → List Bool → List Position
  | _, [] => []
  | number, true :: rest => .single number :: layoutFrom (number + 1) rest
  | number, false :: rest => layoutFrom (number + 1) rest

/-- A line that was read is skipped, or makes a node. -/
theorem nodes_cons_cases {number : Nat} {raw : Text} {rest : List Text} {ns : List (Typed Node)}
    (h : nodes options number (raw :: rest) = .ok ns) :
    (isSkipped (Text.trim raw) = true ∧ nodes options (number + 1) rest = .ok ns) ∨
    (∃ kind key later, isSkipped (Text.trim raw) = false ∧
      kindAndKey? (Text.trim raw) = some (kind, key) ∧
      nodes options (number + 1) rest = .ok later ∧
      ns = typedNode options ⟨kind, key, raw, number⟩ :: later) := by
  rw [nodes] at h
  split at h
  · next hskip => exact .inl ⟨hskip, h⟩
  · next hskip =>
    split at h
    · cases h
    · next kind key hfound =>
      cases hrest : nodes options (number + 1) rest with
      | error e => rw [hrest] at h; cases h
      | ok later =>
        rw [hrest] at h
        exact .inr ⟨kind, key, later, by simpa using hskip, hfound, rfl, (Except.ok.inj h).symm⟩

theorem reads_of_nodes {lines : List Text} : ∀ {number : Nat} {ns : List (Typed Node)},
    nodes options number lines = .ok ns → ∀ l ∈ lines, readsLine l = true := by
  induction lines with
  | nil => intro number ns _ l hl; cases hl
  | cons raw rest ih =>
    intro number ns h l hl
    rcases nodes_cons_cases h with ⟨hskip, hrest⟩ | ⟨kind, key, later, hskip, hfound, hrest, rfl⟩
    · rcases List.mem_cons.1 hl with rfl | hl
      · rw [readsLine, hskip, Bool.true_or]
      · exact ih hrest l hl
    · rcases List.mem_cons.1 hl with rfl | hl
      · rw [readsLine, hfound, Option.isSome_some, Bool.or_true]
      · exact ih hrest l hl

theorem nodes_of_reads (options : Options) {lines : List Text} : ∀ number : Nat,
    (∀ l ∈ lines, readsLine l = true) →
    ∃ ns, nodes options number lines = .ok ns := by
  induction lines with
  | nil => intro number _; exact ⟨[], rfl⟩
  | cons raw rest ih =>
    intro number h
    obtain ⟨ns, hns⟩ := ih (number + 1) fun l hl => h l (List.mem_cons_of_mem _ hl)
    have hraw : readsLine raw = true := h raw List.mem_cons_self
    rw [nodes]
    split
    · exact ⟨ns, hns⟩
    · next hskip =>
      rw [readsLine, Bool.or_eq_true] at hraw
      obtain ⟨⟨kind, key⟩, hfound⟩ := Option.isSome_iff_exists.1 (hraw.resolve_left hskip)
      rw [hfound, hns]
      exact ⟨_, rfl⟩

theorem position_nodes {lines : List Text} : ∀ {number : Nat} {ns : List (Typed Node)},
    nodes options number lines = .ok ns →
      ns.map NodeView.position = layoutFrom number (lines.map makesStatement) := by
  induction lines with
  | nil =>
    intro number ns h
    rw [← Except.ok.inj h]
    rfl
  | cons raw rest ih =>
    intro number ns h
    rcases nodes_cons_cases h with ⟨hskip, hrest⟩ | ⟨kind, key, later, hskip, -, hrest, rfl⟩
    · have hmakes : makesStatement raw = false := by rw [makesStatement, hskip]; rfl
      rw [List.map_cons, hmakes, layoutFrom, ih hrest]
    · have hmakes : makesStatement raw = true := by rw [makesStatement, hskip]; rfl
      rw [List.map_cons, List.map_cons, hmakes, layoutFrom, ih hrest, position_typedNode]

theorem node_of_line (markers : MarkerRegistry) {lines : List Text} :
    ∀ {number : Nat} {ns : List (Typed Node)},
    nodes options number lines = .ok ns → ∀ n ∈ ns, ∃ (i : Nat) (hi : i < lines.length),
      NodeView.position n = .single (number + i) ∧ makesStatement lines[i] = true ∧
        (format options markers).faceOf n = faceOfLine options lines[i] := by
  induction lines with
  | nil =>
    intro number ns h n hn
    rw [← Except.ok.inj h] at hn
    cases hn
  | cons raw rest ih =>
    intro number ns h n hn
    have hlater : ∀ {later : List (Typed Node)}, nodes options (number + 1) rest = .ok later →
        n ∈ later → ∃ (i : Nat) (hi : i < (raw :: rest).length),
          NodeView.position n = .single (number + i) ∧ makesStatement (raw :: rest)[i] = true ∧
            (format options markers).faceOf n = faceOfLine options (raw :: rest)[i] := by
      intro later hrest hmem
      obtain ⟨i, hi, hposition, hmakes, hface⟩ := ih hrest n hmem
      refine ⟨i + 1, by simpa using hi, ?_, hmakes, hface⟩
      rw [hposition, Nat.add_assoc, Nat.add_comm 1]
    rcases nodes_cons_cases h with ⟨-, hrest⟩ | ⟨kind, key, later, hskip, hfound, hrest, rfl⟩
    · exact hlater hrest hn
    · rcases List.mem_cons.1 hn with rfl | hn
      · refine ⟨0, by simp, position_typedNode options _, ?_, faceOf_typedNode hfound⟩
        rw [List.getElem_cons_zero, makesStatement, hskip]
        rfl
      · exact hlater hrest hn

/-! ### Layout -/

theorem layoutFrom_append (a b : List Bool) : ∀ number : Nat,
    layoutFrom number (a ++ b) = layoutFrom number a ++ layoutFrom (number + a.length) b := by
  induction a with
  | nil => intro number; rfl
  | cons flag a ih =>
    intro number
    have hlen : number + (flag :: a).length = number + 1 + a.length := by
      rw [List.length_cons, Nat.add_assoc, Nat.add_comm 1]
    rw [List.cons_append, hlen]
    cases flag with
    | true => rw [layoutFrom, layoutFrom, ih, List.cons_append]
    | false => rw [layoutFrom, layoutFrom, ih]

theorem layoutFrom_replicate (k : Nat) : ∀ number : Nat,
    layoutFrom number (List.replicate k true) = (List.range' number k).map .single := by
  induction k with
  | zero => intro number; rfl
  | succ k ih =>
    intro number
    rw [List.replicate_succ, layoutFrom, ih, List.range'_succ, List.map_cons]

theorem layoutFrom_ordered (flags : List Bool) : ∀ number : Nat,
    (layoutFrom number flags).Pairwise (fun p q => p.endLine < q.startLine) ∧
      ∀ p ∈ layoutFrom number flags, number ≤ p.startLine ∧ p.endLine < number + flags.length := by
  induction flags with
  | nil => intro number; exact ⟨.nil, by simp [layoutFrom]⟩
  | cons flag flags ih =>
    intro number
    obtain ⟨hpairwise, hwithin⟩ := ih (number + 1)
    rw [List.length_cons]
    cases flag with
    | true =>
      refine ⟨List.pairwise_cons.2 ⟨fun p hp => (hwithin p hp).1, hpairwise⟩, fun p hp => ?_⟩
      rcases List.mem_cons.1 hp with rfl | hp
      · exact ⟨Nat.le_refl _, by rw [Position.endLine_single]; omega⟩
      · have := hwithin p hp
        omega
    | false =>
      refine ⟨hpairwise, fun p hp => ?_⟩
      have := hwithin p hp
      omega

/-! ### Files -/

/-- What a file that was read is made of. -/
theorem parse_ok {source : Text} {d : Document (Typed Node)}
    (h : parse options markers source = .ok d) :
    ∃ spans ns, markers.scan (Text.splitLines source) = .ok spans ∧
      nodes options 1 ((Text.splitLines source).map Text.dropTerminator) = .ok ns ∧
      d = .make source ns spans := by
  unfold parse at h
  dsimp only at h
  rw [MarkerRegistry.scan_map_of_trim Text.trim_dropTerminator] at h
  split at h
  · cases h
  · next spans hspans =>
    split at h
    · cases h
    · next ns hns => exact ⟨spans, ns, hspans, hns, (Except.ok.inj h).symm⟩

theorem makes_dropTerminator (l : Text) :
    makesStatement (Text.dropTerminator l) = makesStatement l :=
  makesStatement_of_trim (Text.trim_dropTerminator l)

theorem face_dropTerminator (l : Text) :
    faceOfLine options (Text.dropTerminator l) = faceOfLine options l :=
  faceOfLine_of_trim (Text.trim_dropTerminator l) (Text.trimEnd_dropTerminator l)

theorem node_of_parse {source : Text} {d : Document (Typed Node)}
    (h : parse options markers source = .ok d) {n : Typed Node} (hn : n ∈ d.nodes) :
    ∃ line, NodeView.position n = .single line ∧ makesStatement (d.line line) = true ∧
      (format options markers).faceOf n = faceOfLine options (d.line line) ∧
      ((format options markers).signature n).isSome = true ∧
      (format options markers).carriesThrough n = false := by
  obtain ⟨spans, ns, -, hns, rfl⟩ := parse_ok h
  obtain ⟨i, hi, hposition, hmakes, hface⟩ := node_of_line markers hns n hn
  have hlt : i < (Document.make source ns spans).lines.length := by
    rwa [List.length_map] at hi
  rw [List.getElem_map] at hmakes hface
  rw [makes_dropTerminator] at hmakes
  rw [face_dropTerminator] at hface
  refine ⟨i + 1, by rw [hposition, Nat.add_comm], ?_, ?_, rfl, rfl⟩
  · rw [Document.line_of_lt hlt]; exact hmakes
  · rw [Document.line_of_lt hlt]; exact hface

theorem position_of_parse {source : Text} {d : Document (Typed Node)}
    (h : parse options markers source = .ok d) :
    d.nodes.map NodeView.position = layoutFrom 1 (d.lines.map makesStatement) := by
  obtain ⟨spans, ns, -, hns, rfl⟩ := parse_ok h
  have hmakes : (Text.splitLines source).map (makesStatement ∘ Text.dropTerminator) =
      (Text.splitLines source).map makesStatement :=
    List.map_congr_left fun l _ => makes_dropTerminator l
  have hpositions := position_nodes hns
  rwa [List.map_map, hmakes] at hpositions

theorem reads_of_parse {source : Text} {d : Document (Typed Node)}
    (h : parse options markers source = .ok d) : ∀ l ∈ d.lines, readsLine l = true := by
  obtain ⟨spans, ns, -, hns, rfl⟩ := parse_ok h
  intro l hl
  have hreads := reads_of_nodes hns _ (List.mem_map_of_mem hl)
  rwa [readsLine_of_trim (Text.trim_dropTerminator l)] at hreads

/-- A file is read when its markers pair up and its lines can be read. -/
theorem parse_of_reads {source : Text} {spans : List FreezeSpan}
    (hspans : markers.scan (Text.splitLines source) = .ok spans)
    (hreads : ∀ l ∈ Text.splitLines source, readsLine l = true) :
    ∃ d, parse options markers source = .ok d := by
  have hlines : ∀ l ∈ (Text.splitLines source).map Text.dropTerminator, readsLine l = true := by
    intro l hl
    obtain ⟨raw, hraw, rfl⟩ := List.mem_map.1 hl
    rw [readsLine_of_trim (Text.trim_dropTerminator raw)]
    exact hreads raw hraw
  obtain ⟨ns, hns⟩ := nodes_of_reads options 1 hlines
  refine ⟨.make source ns spans, ?_⟩
  unfold parse
  dsimp only
  rw [MarkerRegistry.scan_map_of_trim Text.trim_dropTerminator, hspans, hns]

/-- Key/value files are read line by line. -/
def linewise (options : Options) (markers : MarkerRegistry) :
    Linewise (format options markers) markers where
  reads := readsLine
  makes := makesStatement
  face := faceOfLine options
  layout _ flags := layoutFrom 1 flags
  reads_close l := readsLine_of_trim (Text.trim_close l)
  makes_close l := makesStatement_of_trim (Text.trim_close l)
  face_close l := faceOfLine_of_trim (Text.trim_close l) (Text.trimEnd_close l)
  of_parse h := by
    obtain ⟨spans, ns, hspans, -, rfl⟩ := parse_ok h
    exact ⟨rfl, hspans, reads_of_parse h, position_of_parse h⟩
  parse_of hspans hreads := parse_of_reads hspans hreads
  of_unfrozen h hn _ := node_of_parse h hn
  ordered {_ flags} _ := .of_lt (layoutFrom_ordered flags 1)
  layout_append k _ := by rw [layoutFrom_append, layoutFrom_replicate]

end KeyValue

end TemplateMerge
