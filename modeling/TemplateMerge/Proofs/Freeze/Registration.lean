import Mathlib.Data.List.Nodup
import TemplateMerge.Proofs.Freeze.Recognition
import TemplateMerge.Settings

/-! Styles that are registered one after the other.

    A style is put behind those that are there, unless its name is taken; then the call is refused
    and nothing changes.

        calls       sql  --     hash  ;     ini  ;     sql  ##
                    added       refused     added      refused
        styles      html · slash · hash · sql · ini

    So the styles before a call are an initial part of those after it, and what they read they go on
    to read: a line is given to the first style that reads it, and a new one comes last.  The extra
    markers of the settings are such calls, the first that is refused ends them. -/

namespace TemplateMerge

namespace MarkerRegistry

variable {r r' : MarkerRegistry} {style : CommentStyle} {calls : List CommentStyle}

/-! ### One call -/

theorem register_eq_ok_iff : r.register style = .ok r' ↔
    style.name ∉ r.names ∧ r' = ⟨r.styles ++ [style]⟩ := by
  unfold register
  split
  · next htaken => simp [List.contains_iff_mem.1 htaken]
  · next hfree => simp [mt List.contains_iff_mem.2 hfree, eq_comm]

theorem register_eq_error_iff {e : ConfigError} : r.register style = .error e ↔
    style.name ∈ r.names ∧ e = .duplicateMarker style.name := by
  unfold register
  split
  · next htaken => simp [List.contains_iff_mem.1 htaken, eq_comm]
  · next hfree => simp [mt List.contains_iff_mem.2 hfree]

/-- A registry reads what the first of its styles read, and of the rest what the others do. -/
theorem classify_append (before after : List CommentStyle) (line : Text) :
    (⟨before ++ after⟩ : MarkerRegistry).classify line =
      ((⟨before⟩ : MarkerRegistry).classify line).or
        ((⟨after⟩ : MarkerRegistry).classify line) :=
  List.findSome?_append

theorem classify_of_register (h : r.register style = .ok r') (line : Text) :
    r'.classify line = (r.classify line).or (style.read? line) := by
  obtain ⟨-, rfl⟩ := register_eq_ok_iff.1 h
  rw [classify_append]
  congr 1
  exact List.findSome?_singleton

/-! ### Calls one after the other -/

/-- The registry after a call; one that is refused changes nothing. -/
def after (r : MarkerRegistry) (style : CommentStyle) : MarkerRegistry :=
  match r.register style with
  | .ok r' => r'
  | .error _ => r

/-- The registry after calls, one after the other. -/
def afterAll (r : MarkerRegistry) (calls : List CommentStyle) : MarkerRegistry :=
  calls.foldl after r

/-- The styles of the calls that succeed, in order. -/
def accepted : MarkerRegistry → List CommentStyle → List CommentStyle
  | _, [] => []
  | r, style :: calls =>
    match r.register style with
    | .ok r' => style :: accepted r' calls
    | .error _ => accepted r calls

theorem styles_afterAll (r : MarkerRegistry) (calls : List CommentStyle) :
    (r.afterAll calls).styles = r.styles ++ r.accepted calls := by
  induction calls generalizing r with
  | nil => exact (List.append_nil _).symm
  | cons style calls ih =>
    have hstep : (r.afterAll (style :: calls)).styles = ((r.after style).afterAll calls).styles :=
      rfl
    rw [hstep, ih, after, accepted]
    cases hcall : r.register style with
    | error e => rfl
    | ok r' =>
      obtain ⟨-, rfl⟩ := register_eq_ok_iff.1 hcall
      simp

theorem names_nodup_after (h : r.names.Nodup) (style : CommentStyle) :
    (r.after style).names.Nodup := by
  unfold after
  split
  · next hcall =>
    obtain ⟨hfree, rfl⟩ := register_eq_ok_iff.1 hcall
    rw [names, List.map_append]
    refine List.nodup_append.2 ⟨h, List.nodup_singleton _, ?_⟩
    intro name hname own hown heq
    rw [heq, List.mem_singleton.1 hown] at hname
    exact hfree hname
  · exact h

theorem names_nodup_afterAll (h : r.names.Nodup) (calls : List CommentStyle) :
    (r.afterAll calls).names.Nodup := by
  induction calls generalizing r with
  | nil => exact h
  | cons style calls ih => exact ih (names_nodup_after h style)

/-- What holds of a registry after calls, and of the call that comes next. -/
structure Registered (start : MarkerRegistry) (calls : List CommentStyle) : Prop where
  /-- No two styles have the same name. -/
  distinct : (start.afterAll calls).names.Nodup
  /-- The styles are those of the start, then those of the calls that succeeded. -/
  ordered : (start.afterAll calls).names = start.names ++ (start.accepted calls).map (·.name)
  /-- A call is refused just when the name is taken. -/
  refused_iff : ∀ style, (∃ e, (start.afterAll calls).register style = .error e) ↔
    style.name ∈ (start.afterAll calls).names
  /-- Such a call changes nothing. -/
  refused : ∀ style e, (start.afterAll calls).register style = .error e →
    e = .duplicateMarker style.name ∧
      (start.afterAll calls).after style = start.afterAll calls ∧
      ∀ line, ((start.afterAll calls).after style).classify line =
        (start.afterAll calls).classify line
  /-- Any other call leaves every line its marker, -/
  kept : ∀ style r', (start.afterAll calls).register style = .ok r' → ∀ line m,
    (start.afterAll calls).classify line = some m → r'.classify line = some m
  /-- and if it changes what a line is, the line had no marker and has one now. -/
  gained : ∀ style r', (start.afterAll calls).register style = .ok r' → ∀ line,
    r'.classify line ≠ (start.afterAll calls).classify line →
      (start.afterAll calls).classify line = none ∧ ∃ m, r'.classify line = some m

theorem registered (h : r.names.Nodup) (calls : List CommentStyle) : r.Registered calls where
  distinct := names_nodup_afterAll h calls
  ordered := by rw [names, styles_afterAll, List.map_append]; rfl
  refused_iff style := by simp [register_eq_error_iff]
  refused style e hcall := by
    have hsame : (r.afterAll calls).after style = r.afterAll calls := by rw [after, hcall]
    exact ⟨(register_eq_error_iff.1 hcall).2, hsame, fun line => by rw [hsame]⟩
  kept style r' hcall line m hm := by rw [classify_of_register hcall, hm]; rfl
  gained style r' hcall line hne := by
    rw [classify_of_register hcall] at hne ⊢
    cases hm : (r.afterAll calls).classify line with
    | some m => rw [hm] at hne; exact absurd rfl hne
    | none =>
      rw [hm] at hne
      exact ⟨rfl, Option.ne_none_iff_exists'.1 hne⟩

end MarkerRegistry

/-! ### The markers of the settings -/

namespace Settings

open MarkerRegistry

/-- Extra markers that can be registered where some names are taken. -/
structure Registerable (taken : List String) (markers : List MarkerSetting) : Prop where
  given : ∀ m ∈ markers, Text.isBlank m.name.toList = false ∧ Text.isBlank m.opening.toList = false
  distinct : (markers.map (·.name)).Nodup
  free : ∀ m ∈ markers, m.name ∉ taken

theorem registerable_cons_iff {taken : List String} {m : MarkerSetting}
    {markers : List MarkerSetting} : Registerable taken (m :: markers) ↔
      (Text.isBlank m.name.toList = false ∧ Text.isBlank m.opening.toList = false) ∧
        m.name ∉ taken ∧ Registerable (taken ++ [m.name]) markers := by
  constructor
  · rintro ⟨hgiven, hdistinct, hfree⟩
    obtain ⟨hm, hgiven⟩ := List.forall_mem_cons.1 hgiven
    obtain ⟨hnew, hfree⟩ := List.forall_mem_cons.1 hfree
    rw [List.map_cons, List.nodup_cons] at hdistinct
    refine ⟨hm, hnew, hgiven, hdistinct.2, fun x hx htaken => ?_⟩
    rcases List.mem_append.1 htaken with htaken | hown
    · exact hfree x hx htaken
    · exact hdistinct.1 (List.mem_map.2 ⟨x, hx, List.mem_singleton.1 hown⟩)
  · rintro ⟨hm, hnew, hgiven, hdistinct, hfree⟩
    refine ⟨List.forall_mem_cons.2 ⟨hm, hgiven⟩, ?_, List.forall_mem_cons.2 ⟨hnew, fun x hx => ?_⟩⟩
    · rw [List.map_cons, List.nodup_cons]
      refine ⟨fun hown => ?_, hdistinct⟩
      obtain ⟨x, hx, hname⟩ := List.mem_map.1 hown
      exact hfree x hx (List.mem_append_right _ (List.mem_singleton.2 hname))
    · exact fun htaken => hfree x hx (List.mem_append_left _ htaken)

theorem registerAll_cons_eq_ok_iff {r r' : MarkerRegistry} {m : MarkerSetting}
    {markers : List MarkerSetting} : registerAll r (m :: markers) = .ok r' ↔
      ∃ style next, CommentStyle.make m.name m.opening.toList (m.closing.map String.toList) =
        .ok style ∧ r.register style = .ok next ∧ registerAll next markers = .ok r' := by
  rw [registerAll]
  cases CommentStyle.make m.name m.opening.toList (m.closing.map String.toList) with
  | error e => simp [bind, Except.bind]
  | ok style =>
    cases hcall : r.register style with
    | error e => simp [bind, Except.bind, hcall]
    | ok next => simp [bind, Except.bind, hcall]

/-- Extra markers are registered just when they can be, and then they come last, in order. -/
theorem registerAll_iff {markers : List MarkerSetting} : ∀ {r : MarkerRegistry},
    ((∃ r', registerAll r markers = .ok r') ↔ Registerable r.names markers) ∧
      ∀ r', registerAll r markers = .ok r' → r'.names = r.names ++ markers.map (·.name) := by
  induction markers with
  | nil =>
    intro r
    refine ⟨⟨fun _ => ⟨nofun, List.nodup_nil, nofun⟩, fun _ => ⟨r, rfl⟩⟩, fun r' h => ?_⟩
    cases h
    exact (List.append_nil _).symm
  | cons m markers ih =>
    intro r
    -- a style of that name comes last, and the other markers follow
    have hnext : ∀ {style next}, CommentStyle.make m.name m.opening.toList
        (m.closing.map String.toList) = .ok style → r.register style = .ok next →
        m.name ∉ r.names ∧ next.names = r.names ++ [m.name] := by
      intro style next hmake hcall
      obtain ⟨-, -, rfl⟩ := CommentStyle.make_eq_ok_iff.1 hmake
      obtain ⟨hfree, rfl⟩ := register_eq_ok_iff.1 hcall
      exact ⟨hfree, by rw [names, List.map_append]; rfl⟩
    refine ⟨?_, fun r' h => ?_⟩
    · rw [registerable_cons_iff]
      constructor
      · rintro ⟨r', h⟩
        obtain ⟨style, next, hmake, hcall, hrest⟩ := registerAll_cons_eq_ok_iff.1 h
        obtain ⟨hname, hopening, -⟩ := CommentStyle.make_eq_ok_iff.1 hmake
        obtain ⟨hfree, hnames⟩ := hnext hmake hcall
        exact ⟨⟨hname, hopening⟩, hfree, hnames ▸ ih.1.1 ⟨r', hrest⟩⟩
      · rintro ⟨⟨hname, hopening⟩, hfree, hrest⟩
        obtain ⟨style, hmake, hown⟩ : ∃ style, CommentStyle.make m.name m.opening.toList
            (m.closing.map String.toList) = .ok style ∧ style.name = m.name :=
          ⟨_, CommentStyle.make_eq_ok_iff.2 ⟨hname, hopening, rfl⟩, rfl⟩
        rw [← hown] at hfree
        have hcall := register_eq_ok_iff.2 ⟨hfree, rfl⟩
        rw [← (hnext hmake hcall).2] at hrest
        obtain ⟨r', hr'⟩ := ih.1.2 hrest
        exact ⟨r', registerAll_cons_eq_ok_iff.2 ⟨_, _, hmake, hcall, hr'⟩⟩
    · obtain ⟨style, next, hmake, hcall, hrest⟩ := registerAll_cons_eq_ok_iff.1 h
      rw [ih.2 r' hrest, (hnext hmake hcall).2, List.append_assoc]
      rfl

theorem markerRegistry_iff (s : Settings) :
    ((∃ r, s.markerRegistry = .ok r) ↔ Registerable builtin.names s.extraMarkers) ∧
      ∀ r, s.markerRegistry = .ok r → r.names = builtin.names ++ s.extraMarkers.map (·.name) :=
  registerAll_iff

end Settings

/-- Whatever is registered, names stay apart, refused calls change nothing and others leave every
    line its marker; and the extra markers of settings are registered just when each has a name and
    an opening and no two names, of these or the built-in ones, are the same. -/
theorem registration_is_conservative :
    (∀ start, start = MarkerRegistry.empty ∨ start = MarkerRegistry.builtin →
      ∀ calls, start.Registered calls) ∧
    ∀ s : Settings,
      ((∃ r, s.markerRegistry = .ok r) ↔
        (∀ m ∈ s.extraMarkers,
          Text.isBlank m.name.toList = false ∧ Text.isBlank m.opening.toList = false) ∧
        (s.extraMarkers.map (·.name)).Nodup ∧
        ∀ m ∈ s.extraMarkers, m.name ∉ ["html", "slash", "hash"]) ∧
      ∀ r, s.markerRegistry = .ok r →
        r.names = ["html", "slash", "hash"] ++ s.extraMarkers.map (·.name) := by
  refine ⟨fun start hstart calls => ?_, fun s => ?_⟩
  · have hdistinct : start.names.Nodup := by
      rcases hstart with rfl | rfl
      · exact List.nodup_nil
      · decide
    exact MarkerRegistry.registered hdistinct calls
  · obtain ⟨hiff, hnames⟩ := s.markerRegistry_iff
    refine ⟨hiff.trans ⟨fun h => ⟨h.given, h.distinct, h.free⟩, ?_⟩, hnames⟩
    rintro ⟨hgiven, hdistinct, hfree⟩
    exact ⟨hgiven, hdistinct, hfree⟩

/-- A call under a built-in name is refused among others that are not. -/
theorem registration_is_conservative_taken_name :
    let r := MarkerRegistry.builtin.afterAll
      [⟨"sql", "--".toList, none⟩, ⟨"hash", ";".toList, none⟩, ⟨"ini", ";".toList, none⟩]
    r.names = ["html", "slash", "hash", "sql", "ini"] ∧
      ∃ e, r.register ⟨"sql", "##".toList, none⟩ = .error e := by
  have h := registration_is_conservative.1 .builtin (.inr rfl)
    [⟨"sql", "--".toList, none⟩, ⟨"hash", ";".toList, none⟩, ⟨"ini", ";".toList, none⟩]
  exact ⟨h.ordered, (h.refused_iff _).2 (by decide)⟩

end TemplateMerge
