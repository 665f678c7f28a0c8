import FlatJson.Field.Basic

/-!
# Reading string arrays

An array ends at its first closing bracket and is cut at its commas, blanks around a comma
included. Quotes are dropped wherever they stand in an element.

* `findStringArray?` reads an array field, `readStringArray` takes an absent one for empty.
-/

namespace FlatJson

/-- What separates the elements of an array: a comma with the blanks around it. -/
def elementSeparator : List Term := [.many .blank, .one (.letter ','), .many .blank]

/-- The elements of an array, given the text between its brackets. -/
def arrayElements (inner : Text) : List Text :=
  if inner = [] then [] else (pieces elementSeparator inner).map (·.filter (· != '"'))

/-- The elements of an array field, or `none` if the message has no such field. -/
def findStringArray? (name message : Text) : Option (List Text) :=
  (findField? name .stringArray message).map arrayElements

/-- The elements of an array field; an absent field has none. -/
def readStringArray (name message : Text) : List Text := (findStringArray? name message).getD []

end FlatJson
