import FlatJson.Error
import FlatJson.Pattern.Basic

/-!
# Fields of a message

A field stands in a message as its name in double quotes, a colon and its value. It is looked up by
the pattern of its name and kind, not by parsing the message: the leftmost place that fits counts,
at any depth, names are compared up to case, and a message without such a place has no such field.

* `FieldKind.template` is the pattern of a value, `fieldPattern` that of a field.
* `findField?` is the captured part of the leftmost field of a name and a kind.
-/

namespace FlatJson

/-- The pattern of a text in quotes: it ends at the first quote and stays on one line. -/
def stringTemplate : Pattern where
  before := [.many .blank, .one (.letter '"')]
  captured := [.few .inLine]
  after := [.one (.letter '"')]

/-- The pattern of the value of a field. -/
def FieldKind.template : FieldKind → Pattern
  | boolean => ⟨[.many .blank], [.oneOf [truthWord true, truthWord false]], []⟩
  | string => stringTemplate
  | number => ⟨[.many .blank], [.atLeastOne .digit], []⟩
  | object => stringTemplate
  | stringArray =>
    ⟨[.one (.letter '['), .many .blank], [.few .inLine], [.many .blank, .one (.letter ']')]⟩

/-- The pattern that a label selects: any label but a kind of field stands for a string. -/
def KindLabel.template : KindLabel → Except Error Pattern
  | field k => .ok k.template
  | value _ | absent | named _ | other _ => .ok stringTemplate
  | unkeyed => .error .unkeyedKind

/-- The terms of a field's name in quotes and the colon. -/
def nameTerms (name : Text) : List Term :=
  .one (.letter '"') :: name.map (.one <| .letter ·) ++
    [.one (.letter '"'), .many .blank, .one (.letter ':'), .many .blank]

/-- The pattern of a field: its name, a colon and a value. -/
def fieldPattern (name : Text) (template : Pattern) : Pattern where
  before := nameTerms name ++ template.before
  captured := template.captured
  after := template.after

/-- The captured part of the leftmost field of the name and kind. -/
def findField? (name : Text) (kind : FieldKind) (message : Text) : Option Text :=
  (fieldPattern name kind.template).find? message

end FlatJson
