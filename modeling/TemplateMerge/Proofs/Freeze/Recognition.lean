import TemplateMerge.Freeze.Marker
import TemplateMerge.Proofs.Text.Trimming

/-! The grammar of markers.

    A marker is a comment with a directive in it, and white space may stand wherever parts meet.

        ␣  <!--  ␣  structmerge:freeze  ␣  local badges  ␣  -->  ␣
           opening       directive          reason         closing

    A style reads just these lines.  Its delimiters are not blank and have white space at neither
    end, so trimming a line never takes anything off them; what stands between them is the body, and
    the body alone says which marker it is.  A reason is what is set apart from the directive, so it
    is never empty.  A registry asks its styles in order, and the first that reads a line has it. -/

namespace TemplateMerge

open Text

/-- The bodies that make a marker. -/
inductive Marker.Words : Marker → Text → Prop
  /-- The directive that closes a region. -/
  | unfreeze : Words .unfreeze unfreezeDirective
  /-- The directive that opens one. -/
  | freeze : Words (.freeze none) freezeDirective
  /-- The directive that opens one, and the reason, set apart by white space. -/
  | because {w reason : Text} (hw : AllBlank w) (hne : w ≠ []) (hreason : reason.Bare)
    (hsome : reason ≠ []) : Words (.freeze (some reason)) (freezeDirective ++ w ++ reason)

namespace CommentStyle

/-- The line is a comment with the body, perhaps with white space around it and in it. -/
def Comments (style : CommentStyle) (body line : Text) : Prop :=
  ∃ w₀ w₁ w₂ w₃, AllBlank w₀ ∧ AllBlank w₁ ∧ AllBlank w₂ ∧ AllBlank w₃ ∧
    line = w₀ ++ style.opening ++ w₁ ++ body ++ w₂ ++ style.closing.getD [] ++ w₃

/-- The style is built in, or was made. -/
def Known (style : CommentStyle) : Prop :=
  style ∈ builtin ∨ ∃ name opening closing, make name opening closing = .ok style

/-- The delimiters are there, with white space at neither end. -/
structure Delimited (style : CommentStyle) : Prop where
  opening_ne_nil : style.opening ≠ []
  opening : style.opening.Bare
  closing : ∀ c ∈ style.closing, c ≠ [] ∧ c.Bare

theorem make_eq_ok_iff {name : String} {opening : Text} {closing : Option Text}
    {style : CommentStyle} : make name opening closing = .ok style ↔
      isBlank name.toList = false ∧ isBlank opening = false ∧
        style = ⟨name, trim opening, (closing.map trim).filter (!·.isEmpty)⟩ := by
  unfold make
  cases isBlank name.toList with
  | true => simp
  | false =>
    cases isBlank opening with
    | true => simp
    | false => simp [eq_comm]

/-- A closing delimiter that is blank is as good as none. -/
theorem closing_of_make {name : String} {opening : Text} {closing : Option Text}
    {style : CommentStyle} (h : make name opening closing = .ok style) :
    style.closing.getD [] = trim (closing.getD []) := by
  obtain ⟨-, -, rfl⟩ := make_eq_ok_iff.1 h
  cases closing with
  | none => rfl
  | some c =>
    rw [Option.map_some, Option.filter_some]
    cases hc : trim c <;> simp [hc]

theorem Known.delimited {style : CommentStyle} (h : style.Known) : style.Delimited := by
  rcases h with hbuiltin | ⟨name, opening, closing, hmake⟩
  · have hall : ∀ s ∈ builtin, s.opening ≠ [] ∧ s.opening.Bare ∧
        ∀ c ∈ s.closing, c ≠ [] ∧ c.Bare := by decide
    obtain ⟨hne, hopening, hclosing⟩ := hall style hbuiltin
    exact ⟨hne, hopening, hclosing⟩
  · obtain ⟨-, hopening, rfl⟩ := make_eq_ok_iff.1 hmake
    refine ⟨fun hnil => ?_, bare_trim opening, fun c hc => ?_⟩
    · rw [trim_eq_nil_iff.1 hnil] at hopening
      cases hopening
    obtain ⟨hc, hne⟩ := Option.filter_eq_some_iff.1 hc
    obtain ⟨given, -, rfl⟩ := Option.map_eq_some_iff.1 hc
    exact ⟨by simpa using hne, bare_trim given⟩

/-! ### Bodies -/

theorem bare_of_body? {style : CommentStyle} {line body : Text}
    (h : style.body? line = some body) : body.Bare := by
  obtain ⟨rest, -, hbody⟩ := Option.bind_eq_some_iff.1 h
  split at hbody
  · cases hbody
    exact bare_trim rest
  · obtain ⟨inner, -, rfl⟩ := Option.map_eq_some_iff.1 hbody
    exact bare_trim inner

theorem comments_of_body? {style : CommentStyle} {line body : Text}
    (h : style.body? line = some body) : style.Comments body line := by
  obtain ⟨rest, hrest, hbody⟩ := Option.bind_eq_some_iff.1 h
  obtain ⟨-, w₀, w₃, hw₀, hw₃, hline⟩ := trim_eq_iff.1 (eq_append_of_stripStart? hrest)
  split at hbody
  · next hclosing =>
    obtain ⟨-, w₁, w₂, hw₁, hw₂, hown⟩ := trim_eq_iff.1 (Option.some.inj hbody)
    refine ⟨w₀, w₁, w₂, w₃, hw₀, hw₁, hw₂, hw₃, ?_⟩
    rw [hline, hown, hclosing]
    simp
  · next closing hclosing =>
    obtain ⟨inner, hinner, htrim⟩ := Option.map_eq_some_iff.1 hbody
    obtain ⟨-, w₁, w₂, hw₁, hw₂, hown⟩ := trim_eq_iff.1 htrim
    refine ⟨w₀, w₁, w₂, w₃, hw₀, hw₁, hw₂, hw₃, ?_⟩
    rw [hline, stripEnd?_eq_some_iff.1 hinner, hown, hclosing]
    simp

theorem body?_of_comments {style : CommentStyle} (h : style.Delimited) {line body : Text}
    (hbody : body.Bare) (hline : style.Comments body line) : style.body? line = some body := by
  obtain ⟨w₀, w₁, w₂, w₃, hw₀, hw₁, hw₂, hw₃, rfl⟩ := hline
  have htrim : ∀ w, AllBlank w → trim (w₁ ++ body ++ w) = body := fun w hw =>
    trim_eq_iff.2 ⟨hbody, w₁, w, hw₁, hw, rfl⟩
  have hopening : trim (w₀ ++ style.opening ++ w₁ ++ body ++ w₂ ++ style.closing.getD [] ++ w₃) =
      style.opening ++ trimEnd (w₁ ++ body ++ w₂ ++ style.closing.getD [] ++ w₃) := by
    have hkept := trim_append_of_bare hw₀ h.opening h.opening_ne_nil
      (w₁ ++ body ++ w₂ ++ style.closing.getD [] ++ w₃)
    simpa only [List.append_assoc] using hkept
  rw [body?, hopening, stripStart?_append, Option.bind_some]
  split
  · next hclosing =>
    have hown := htrim (w₂ ++ w₃) (hw₂.append hw₃)
    rw [trim_trimEnd, hclosing, Option.getD_none, List.append_nil, List.append_assoc, hown]
  · next closing hclosing =>
    obtain ⟨hne, hbare⟩ := h.closing closing hclosing
    have hlast : ∀ c ∈ (w₁ ++ body ++ w₂ ++ closing).getLast?, isBlankChar c = false := by
      rw [List.getLast?_append_of_ne_nil _ hne]
      exact hbare.last
    rw [hclosing, Option.getD_some, trimEnd_append hw₃, trimEnd_of_last hlast,
      stripEnd?_eq_some_iff.2 rfl, Option.map_some, htrim w₂ hw₂]

/-- A style finds a body just in the comments that have it. -/
theorem body?_eq_some_iff {style : CommentStyle} (h : style.Delimited) {line body : Text} :
    style.body? line = some body ↔ body.Bare ∧ style.Comments body line :=
  ⟨fun hbody => ⟨bare_of_body? hbody, comments_of_body? hbody⟩,
    fun ⟨hbare, hline⟩ => body?_of_comments h hbare hline⟩

end CommentStyle

theorem Marker.Words.bare {m : Marker} {body : Text} (h : m.Words body) : body.Bare := by
  cases h with
  | unfreeze => decide
  | freeze => decide
  | because hw hne hreason hsome =>
    exact Bare.append_append (by decide) hreason (by decide) hsome _

/-- What is set apart from a directive is white space and a reason, or nothing is. -/
theorem exists_reason {c : Char} {rest : Text} (hc : isBlankChar c = true)
    (hbare : (Marker.freezeDirective ++ c :: rest).Bare) :
    trim (c :: rest) ≠ [] ∧
      ∃ w, AllBlank w ∧ w ≠ [] ∧ c :: rest = w ++ trim (c :: rest) := by
  obtain ⟨hreason, w, w', hw, hw', hrest⟩ := trim_eq_iff.1 (rfl : trim (c :: rest) = _)
  have hnil : w' = [] := by
    rw [hrest, ← List.append_assoc] at hbare
    exact hbare.eq_nil_of_append hw'
  rw [hnil, List.append_nil] at hrest
  refine ⟨fun hempty => ?_, w, hw, ?_, hrest⟩
  · rw [hempty, List.append_nil] at hrest
    rw [hrest] at hbare
    cases (hbare.eq_nil_of_append hw).symm.trans hrest.symm
  · rintro rfl
    rw [List.nil_append] at hrest
    have hhead := hreason.head c (by rw [← hrest]; rfl)
    rw [hc] at hhead
    cases hhead

theorem Marker.ofBody?_eq_some_iff {m : Marker} {body : Text} (hbody : body.Bare) :
    Marker.ofBody? body = some m ↔ m.Words body := by
  constructor
  · intro h
    unfold ofBody? at h
    split at h
    · next hown =>
      cases h
      rw [hown]
      exact .unfreeze
    split at h
    · cases h
    · next hstrip =>
      cases h
      rw [eq_append_of_stripStart? hstrip, List.append_nil]
      exact .freeze
    · next c rest hstrip =>
      split at h
      · next hc =>
        rw [eq_append_of_stripStart? hstrip] at hbody ⊢
        obtain ⟨hsome, w, hw, hne, hrest⟩ := exists_reason hc hbody
        dsimp only at h
        rw [if_neg (by rwa [List.isEmpty_iff])] at h
        cases h
        rw [hrest, ← List.append_assoc, ← hrest]
        exact .because hw hne (bare_trim _) hsome
      · cases h
  · intro h
    cases h with
    | unfreeze => rfl
    | freeze => rfl
    | @because w reason hw hne hreason hsome =>
      obtain ⟨c, w, rfl⟩ := List.exists_cons_of_ne_nil hne
      have htrim : trim (c :: w ++ reason) = reason :=
        trim_eq_iff.2 ⟨hreason, c :: w, [], hw, allBlank_nil, by simp⟩
      have hstrip : stripStart? freezeDirective (freezeDirective ++ (c :: w) ++ reason) =
          some (c :: (w ++ reason)) := by
        rw [List.append_assoc, stripStart?_append]
        rfl
      have hunlike : freezeDirective ++ (c :: w) ++ reason ≠ unfreezeDirective := by
        intro heq
        rw [heq] at hstrip
        cases hstrip
      rw [ofBody?, if_neg hunlike, hstrip]
      dsimp only
      rw [if_pos (hw c List.mem_cons_self), ← List.cons_append, htrim,
        if_neg (by rwa [List.isEmpty_iff])]

/-! ### Lines -/

variable {style : CommentStyle} {line : Text}

/-- A style reads a marker just in the comments that have its words. -/
theorem CommentStyle.read?_eq_some_iff (h : style.Delimited) {m : Marker} :
    style.read? line = some m ↔ ∃ body, m.Words body ∧ style.Comments body line := by
  rw [read?, Option.bind_eq_some_iff]
  constructor
  · rintro ⟨body, hbody, hm⟩
    obtain ⟨hbare, hline⟩ := (body?_eq_some_iff h).1 hbody
    exact ⟨body, (Marker.ofBody?_eq_some_iff hbare).1 hm, hline⟩
  · rintro ⟨body, hm, hline⟩
    exact ⟨body, (body?_eq_some_iff h).2 ⟨hm.bare, hline⟩,
      (Marker.ofBody?_eq_some_iff hm.bare).2 hm⟩

theorem CommentStyle.reason_ne_nil {reason : Text}
    (h : style.read? line = some (.freeze (some reason))) : reason ≠ [] := by
  obtain ⟨body, hbody, hm⟩ := Option.bind_eq_some_iff.1 h
  cases (Marker.ofBody?_eq_some_iff (bare_of_body? hbody)).1 hm with
  | because _ _ _ hsome => exact hsome

/-- The first style that reads a line, in the order of registration, says what the registry makes of
    it. -/
theorem MarkerRegistry.classify_eq_some_iff {r : MarkerRegistry} {m : Marker} :
    r.classify line = some m ↔ ∃ before first after, r.styles = before ++ first :: after ∧
      first.read? line = some m ∧ ∀ s ∈ before, s.read? line = none :=
  List.findSome?_eq_some_iff

theorem MarkerRegistry.reason_ne_nil {r : MarkerRegistry} {reason : Text}
    (h : r.classify line = some (.freeze (some reason))) : reason ≠ [] := by
  obtain ⟨_, _, _, -, hfirst, -⟩ := classify_eq_some_iff.1 h
  exact CommentStyle.reason_ne_nil hfirst

/-- Each style reads the lines of its grammar as the markers they are, and no other line; the
    delimiters of a style that was made are those given, trimmed; and a registry goes by the first
    style that reads a line. -/
theorem marker_grammar (line : Text) :
    (∀ style : CommentStyle, style.Known →
      (∀ m : Marker, style.read? line = some m ↔
        ∃ body, m.Words body ∧ style.Comments body line) ∧
        (style.read? line = none ↔ ∀ (m : Marker) body, m.Words body → ¬ style.Comments body line)) ∧
    (∀ name opening closing style, CommentStyle.make name opening closing = .ok style →
      style.opening = trim opening ∧ style.closing.getD [] = trim (closing.getD [])) ∧
    ∀ r : MarkerRegistry,
      (∀ m, r.classify line = some m ↔
        ∃ before first after, r.styles = before ++ first :: after ∧
          first.read? line = some m ∧ ∀ s ∈ before, s.read? line = none) ∧
        ∀ reason, r.classify line = some (.freeze (some reason)) → reason ≠ [] := by
  refine ⟨fun style hknown => ?_, fun name opening closing style hmake => ?_, fun r =>
    ⟨fun m => MarkerRegistry.classify_eq_some_iff, fun reason => MarkerRegistry.reason_ne_nil⟩⟩
  case refine_2 =>
    obtain ⟨-, -, hown⟩ := CommentStyle.make_eq_ok_iff.1 hmake
    exact ⟨by rw [hown], CommentStyle.closing_of_make hmake⟩
  have hread : ∀ m, style.read? line = some m ↔ _ := fun m =>
    CommentStyle.read?_eq_some_iff hknown.delimited
  refine ⟨hread, ?_⟩
  rw [Option.eq_none_iff_forall_ne_some]
  refine forall_congr' fun m => ?_
  rw [Ne, hread m]
  exact ⟨fun h body hbody hline => h ⟨body, hbody, hline⟩,
    fun h ⟨body, hbody, hline⟩ => h body hbody hline⟩

/-- A delimiter inside the reason belongs to the reason. -/
theorem marker_grammar_delimiter_inside :
    ∃ style, CommentStyle.make "box" " #".toList (some "# ".toList) = .ok style ∧
      style.read? "\t# structmerge:freeze a # b #".toList =
        some (.freeze (some "a # b".toList)) := by
  have hmake : CommentStyle.make "box" " #".toList (some "# ".toList) =
      .ok ⟨"box", ['#'], some ['#']⟩ := rfl
  refine ⟨_, hmake, ?_⟩
  refine (((marker_grammar _).1 _ (.inr ⟨_, _, _, hmake⟩)).1 _).2 ⟨_, .because (w := [' '])
    (by decide) (by decide) (by decide) (by decide), ['\t'], [' '], [' '], [],
    by decide, by decide, by decide, by decide, by decide⟩

end TemplateMerge
