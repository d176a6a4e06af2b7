import TemplateMerge.Preference.Lookup
import TemplateMerge.Error

/-! Node typing: rules that have the nodes of some type merged as another. -/

namespace TemplateMerge

/-- The merge types of some node types. -/
structure NodeTyping where
  /-- The merge type of each node type that has a rule. -/
  rules : Table String
  deriving DecidableEq, Repr

namespace NodeTyping

/-- No type has a rule. -/
def none : NodeTyping := ⟨Table.empty⟩

instance : Inhabited NodeTyping := ⟨none⟩

/-- What is wrong with a rule, if anything is. -/
def faultOf? (rule : String × String) : Option ConfigError :=
  if !TypeName.isSymbol rule.1 then some (.nodeTyping rule.1 .nodeType)
  else if !TypeName.isSymbol rule.2 then some (.nodeTyping rule.1 .mergeType)
  else Option.none

/-- The typing of a list of rules; of two rules for one type the later counts. -/
def ofEntries (entries : List (String × String)) : Except ConfigError NodeTyping :=
  match entries.findSome? faultOf? with
  | some error => .error error
  | Option.none => .ok ⟨Table.ofList entries⟩

/-- The merge type that a rule gives to a node type. -/
def mergeTypeFor (typing : NodeTyping) (nodeType : String) : Option String :=
  typing.rules.lookup? nodeType

end NodeTyping

end TemplateMerge
