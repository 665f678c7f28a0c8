import FlatJson.Pattern.Basic

/-!
# The written form of patterns

A pattern is written in the usual notation of regular expressions, the captured part in
parentheses. Characters that have a meaning in that notation are written behind a backslash.

* `Pattern.render` is the written form of a pattern.
-/

namespace FlatJson

/-- The characters that are written behind a backslash. -/
def specialChars : List Char :=
  ['\t', '\n', '\x0b', '\x0c', '\r', ' ', '#', '$', '&', '(', ')', '*', '+', '-', '.', '?', '[',
    '\\', ']', '^', '\x7b', '|', '\x7d', '~']

/-- A character that stands for itself. -/
def escapedChar (c : Char) : Text := if c ∈ specialChars then ['\\', c] else [c]

/-- The written form of a class of characters. -/
def Atom.render : Atom → Text
  | letter c => escapedChar c
  | blank => ['\\', 's']
  | digit => ['\\', 'd']
  | inLine => ['.']

/-- The written form of a term. -/
def Term.render : Term → Text
  | one a => a.render
  | many a => a.render ++ ['*']
  | atLeastOne a => a.render ++ ['+']
  | few a => a.render ++ ['*', '?']
  | oneOf words => ['|'].intercalate (words.map (·.flatMap escapedChar))

/-- The written form of a pattern. -/
def Pattern.render (p : Pattern) : Text :=
  p.before.flatMap Term.render ++ '(' :: p.captured.flatMap Term.render ++
    ')' :: p.after.flatMap Term.render

end FlatJson
