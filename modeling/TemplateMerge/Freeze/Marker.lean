import TemplateMerge.Error

/-! Markers: the comment lines that open and close a frozen region.

    A marker is a comment whose body is a directive.  What a comment looks like is a matter of
    style: an opening delimiter, and for some styles a closing one.

        <!-- structmerge:freeze local badges -->      style html, opens, with a reason
        # structmerge:unfreeze                        style hash, closes

    A registry holds the styles that count, in the order in which they were registered; a line is
    read by the first style that makes a marker of it. -/

namespace TemplateMerge

/-- What comments look like. -/
structure CommentStyle where
  /-- The name of the style. -/
  name : String
  /-- What a comment begins with. -/
  opening : Text
  /-- What a comment ends with, unless it ends with its line. -/
  closing : Option Text
  deriving DecidableEq, Repr

/-- A marker. -/
inductive Marker where
  /-- Opens a region, perhaps for a reason. -/
  | freeze (reason : Option Text)
  /-- Closes a region. -/
  | unfreeze
  deriving DecidableEq, Repr

namespace Marker

/-- The directive that opens a region. -/
def freezeDirective : Text := "structmerge:freeze".toList

/-- The directive that closes a region. -/
def unfreezeDirective : Text := "structmerge:unfreeze".toList

/-- The marker that the body of a comment is.  The reason of a freeze is set apart by white
    space. -/
def ofBody? (body : Text) : Option Marker :=
  if body = unfreezeDirective then some .unfreeze
  else
    match Text.stripStart? freezeDirective body with
    | none => none
    | some [] => some (.freeze none)
    | some (c :: rest) =>
      if Text.isBlankChar c then
        let reason := Text.trim (c :: rest)
        some (.freeze (if reason.isEmpty then none else some reason))
      else none

end Marker

namespace CommentStyle

/-- A style of its own; delimiters lose the white space around them, and a closing delimiter of
    nothing else is none. -/
def make (name : String) (opening : Text) (closing : Option Text) :
    Except ConfigError CommentStyle :=
  if Text.isBlank name.toList then .error (.marker name .blankName)
  else if Text.isBlank opening then .error (.marker name .blankOpening)
  else
    .ok ⟨name, Text.trim opening, (closing.map Text.trim).filter (!·.isEmpty)⟩

/-- The body of a comment line of this style. -/
def body? (style : CommentStyle) (line : Text) : Option Text :=
  (Text.stripStart? style.opening (Text.trim line)).bind fun rest =>
    match style.closing with
    | none => some (Text.trim rest)
    | some closing => (Text.stripEnd? closing rest).map Text.trim

/-- The marker that the style reads on a line. -/
def read? (style : CommentStyle) (line : Text) : Option Marker :=
  (style.body? line).bind Marker.ofBody?

/-- The styles that are always known. -/
def builtin : List CommentStyle := [
  ⟨"html", "<!--".toList, some "-->".toList⟩,
  ⟨"slash", "//".toList, none⟩,
  ⟨"hash", "#".toList, none⟩]

end CommentStyle

/-- The comment styles that count, in the order of their registration. -/
structure MarkerRegistry where
  /-- The styles. -/
  styles : List CommentStyle
  deriving DecidableEq, Repr

namespace MarkerRegistry

/-- No style counts. -/
def empty : MarkerRegistry := ⟨[]⟩

/-- The built-in styles count. -/
def builtin : MarkerRegistry := ⟨CommentStyle.builtin⟩

/-- The names of the styles. -/
def names (r : MarkerRegistry) : List String := r.styles.map (·.name)

/-- The registry with one more style, under a name that is not taken. -/
def register (r : MarkerRegistry) (style : CommentStyle) : Except ConfigError MarkerRegistry :=
  if r.names.contains style.name then .error (.duplicateMarker style.name)
  else .ok ⟨r.styles ++ [style]⟩

/-- The marker on a line. -/
def classify (r : MarkerRegistry) (line : Text) : Option Marker :=
  r.styles.findSome? (·.read? line)

end MarkerRegistry

end TemplateMerge
