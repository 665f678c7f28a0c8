import FlatJson.Text.Basic
import FlatJson.Text.Blank
import FlatJson.Text.Digit
import FlatJson.Text.Case

/-!
# Patterns

A pattern describes the stretch of a text that holds a field: a row of terms, some of them before,
some inside and some after the part that is captured. A term can be read at the start of a text in
several ways, tried in a fixed order: repetitions read as much as possible first, or as little as
possible first. Reading a row of terms is depth first: the first way of a term counts after which
the following terms can be read too.

* `Term.follow` reads one term and goes on with what is left, `followAll` a row of terms.
* `Pattern.matchAt?` reads a pattern at the start of a text.
* `Pattern.search?` finds the leftmost place where a pattern can be read, `Pattern.occurrences` all
  places, each search starting where the last one ended.
* `pieces` cuts a text at the occurrences of a row of terms.
-/

namespace FlatJson

/-- A class of characters. -/
inductive Atom where
  /-- The character or another case form of it. -/
  | letter (c : Char)
  /-- A blank character. -/
  | blank
  /-- A decimal digit. -/
  | digit
  /-- Any character but the line feed. -/
  | inLine
deriving DecidableEq

/-- The class holds the character. -/
def Atom.accepts : Atom → Char → Bool
  | letter c, d => sameLetter c d
  | blank, d => isBlank d
  | digit, d => isDigit d
  | inLine, d => d != '\n'

/-- One step of a pattern. -/
inductive Term where
  /-- One character of the class. -/
  | one (a : Atom)
  /-- Any number of characters of the class, as many as possible first. -/
  | many (a : Atom)
  /-- At least one character of the class, as many as possible first. -/
  | atLeastOne (a : Atom)
  /-- Any number of characters of the class, as few as possible first. -/
  | few (a : Atom)
  /-- One of the words, up to case, the first one first. -/
  | oneOf (words : List Text)
deriving DecidableEq

variable {β : Type}

/-! ### Reading at the start of a text -/

/-- Read as many characters of the class as possible such that `next` succeeds on the rest. -/
def greedy (a : Atom) (next : Text → Option β) : Text → Option β
  | [] => next []
  | c :: rest =>
    if a.accepts c then (greedy a next rest).orElse fun _ => next (c :: rest) else next (c :: rest)

/-- Read as few characters of the class as possible such that `next` succeeds on the rest. -/
def reluctant (a : Atom) (next : Text → Option β) : Text → Option β
  | [] => next []
  | c :: rest =>
    (next (c :: rest)).orElse fun _ => if a.accepts c then reluctant a next rest else none

/-- What is left of a text after a word, compared up to case. -/
def afterWord? : Text → Text → Option Text
  | [], t => some t
  | _ :: _, [] => none
  | w :: word, c :: rest => if sameLetter w c then afterWord? word rest else none

/-- Read the term in the first way after which `next` succeeds on the rest. -/
def Term.follow (next : Text → Option β) : Term → Text → Option β
  | one a, t =>
    match t with
    | [] => none
    | c :: rest => if a.accepts c then next rest else none
  | many a, t => greedy a next t
  | atLeastOne a, t =>
    match t with
    | [] => none
    | c :: rest => if a.accepts c then greedy a next rest else none
  | few a, t => reluctant a next t
  | oneOf words, t => words.findSome? fun word => (afterWord? word t).bind next

/-- Read the terms in turn, in the first way after which `next` succeeds on the rest. -/
def followAll : List Term → (Text → Option β) → Text → Option β
  | [], next => next
  | term :: terms, next => term.follow (followAll terms next)

/-- A row of terms of which a part is captured. -/
structure Pattern where
  /-- The terms before the captured part. -/
  before : List Term
  /-- The terms of the captured part. -/
  captured : List Term
  /-- The terms after the captured part. -/
  after : List Term

/-- What is left of a text at the three borders of a pattern read at its start. -/
structure Reading where
  /-- The rest of the text from the captured part on. -/
  fromCapture : Text
  /-- The rest of the text behind the captured part. -/
  afterCapture : Text
  /-- The rest of the text behind the pattern. -/
  rest : Text

/-- The captured part. -/
def Reading.captured (r : Reading) : Text :=
  r.fromCapture.take (r.fromCapture.length - r.afterCapture.length)

/-- Where a pattern stands in a text. -/
structure Occurrence where
  /-- The offset of its first character. -/
  start : Nat
  /-- The offset behind its last character. -/
  stop : Nat
  /-- The offset of the captured part. -/
  captureStart : Nat
  /-- The captured part. -/
  captured : Text

namespace Pattern

/-- Read the pattern at the start of a text. -/
def matchAt? (p : Pattern) : Text → Option Reading :=
  followAll p.before fun s =>
    followAll p.captured (fun t => followAll p.after (fun u => some ⟨s, t, u⟩) t) s

/-- The leftmost place in a text where the pattern can be read: the text from there on, and how
it is read. -/
def search? (p : Pattern) : Text → Option (Text × Reading)
  | [] => (p.matchAt? []).map ([], ·)
  | c :: rest =>
    match p.matchAt? (c :: rest) with
    | some r => some (c :: rest, r)
    | none => p.search? rest

/-- The captured part at the leftmost place where the pattern can be read. -/
def find? (p : Pattern) (t : Text) : Option Text := (p.search? t).map (·.2.captured)

/-- The places of the pattern in the end of a text that starts at `offset`, from left to right,
disjoint. After a place without extent nothing more is looked for. -/
def occurrencesFrom (p : Pattern) (offset : Nat) (t : Text) : List Occurrence :=
  match p.search? t with
  | none => []
  | some (u, r) =>
    let start := offset + (t.length - u.length)
    let stop := offset + (t.length - r.rest.length)
    ⟨start, stop, offset + (t.length - r.fromCapture.length), r.captured⟩ ::
      if r.rest.length < t.length then p.occurrencesFrom stop r.rest else []
termination_by t.length

/-- All places of the pattern in a text. -/
def occurrences (p : Pattern) (t : Text) : List Occurrence := p.occurrencesFrom 0 t

end Pattern

/-! ### Cutting a text -/

/-- Put a character in front of the first piece. -/
def consPiece (c : Char) : List Text → List Text
  | [] => [[c]]
  | piece :: more => (c :: piece) :: more

/-- The pieces of a text between the successive places where the separator can be read. -/
def pieces (separator : List Term) : Text → List Text
  | [] => [[]]
  | c :: rest =>
    match followAll separator some (c :: rest) with
    | some t =>
      if t.length ≤ rest.length then [] :: pieces separator t
      else consPiece c (pieces separator rest)
    | none => consPiece c (pieces separator rest)
termination_by t => t.length
decreasing_by all_goals simp only [List.length_cons]; omega

end FlatJson
