import FlatJson.Text.Basic
import Mathlib.Algebra.Field.Rat

/-!
# The grammar of JSON

The texts that are JSON, with the value that each of them stands for. The grammar is the standard
one: space may stand around the six signs only, numbers have no leading zeros, and in a string only
quotes, backslashes and control characters have to be escaped.

* `IsNumber` and `IsString` are the two scalars with a grammar of their own.
* `Derives` is the grammar of values and of the rows of items in brackets.
* `Decodes` is the grammar of whole texts.
-/

namespace FlatJson

/-- What a text in JSON stands for. The members of an object keep their order, and names may come
more than once. -/
inductive Json where
  /-- The null value. -/
  | null
  /-- A truth value. -/
  | bool (b : Bool)
  /-- A number. -/
  | number (q : ℚ)
  /-- A text. -/
  | string (t : Text)
  /-- A list of values. -/
  | array (items : List Json)
  /-- A list of values with names. -/
  | object (members : List (Text × Json))

namespace Json

/-! ### Space and signs -/

/-- The characters of space. -/
def isSpace (c : Char) : Bool := c == ' ' || c == '\t' || c == '\n' || c == '\r'

/-- A text that consists of space. -/
def IsSpaces (t : Text) : Prop := ∀ c ∈ t, isSpace c = true

/-- A sign with space around it. -/
inductive IsMark (c : Char) : Text → Prop where
  | spaced {before after : Text} (hbefore : IsSpaces before) (hafter : IsSpaces after) :
      IsMark c (before ++ c :: after)

/-! ### Numbers -/

/-- The number that a row of digits stands for. -/
def rowValue (row : Text) : Nat := row.foldl (fun n c => 10 * n + (c.toNat - '0'.toNat)) 0

/-- A row of digits. -/
structure IsDigits (row : Text) (n : Nat) : Prop where
  ne_nil : row ≠ []
  digit : ∀ c ∈ row, c.isDigit = true
  value : rowValue row = n

/-- The part of a number before its point: digits without a leading zero. -/
structure IsInt (row : Text) (n : Nat) : Prop extends IsDigits row n where
  leading : ∀ more, row = '0' :: more → more = []

/-- The part of a number behind its point. -/
inductive IsFrac : Text → ℚ → Prop where
  | absent : IsFrac [] 0
  | digits {row : Text} {n : Nat} (h : IsDigits row n) : IsFrac ('.' :: row) (n / 10 ^ row.length)

/-- The power of ten in a number. -/
inductive IsExp : Text → ℤ → Prop where
  | absent : IsExp [] 0
  | bare {e : Char} {row : Text} {n : Nat} (he : e = 'e' ∨ e = 'E') (h : IsDigits row n) :
      IsExp (e :: row) n
  | plus {e : Char} {row : Text} {n : Nat} (he : e = 'e' ∨ e = 'E') (h : IsDigits row n) :
      IsExp (e :: '+' :: row) n
  | minus {e : Char} {row : Text} {n : Nat} (he : e = 'e' ∨ e = 'E') (h : IsDigits row n) :
      IsExp (e :: '-' :: row) (-n)

/-- A number without its sign. -/
inductive IsUnsigned : Text → ℚ → Prop where
  | parts {int frac exp : Text} {n : Nat} {q : ℚ} {e : ℤ} (hint : IsInt int n)
      (hfrac : IsFrac frac q) (hexp : IsExp exp e) :
      IsUnsigned (int ++ (frac ++ exp)) ((n + q) * 10 ^ e)

/-- A number. -/
inductive IsNumber : Text → ℚ → Prop where
  | plus {t : Text} {q : ℚ} (h : IsUnsigned t q) : IsNumber t q
  | minus {t : Text} {q : ℚ} (h : IsUnsigned t q) : IsNumber ('-' :: t) (-q)

/-! ### Strings -/

/-- The letters of the short escapes with the characters that they stand for. -/
def escapes : List (Char × Char) :=
  [('"', '"'), ('\\', '\\'), ('/', '/'), ('b', '\x08'), ('f', '\x0c'), ('n', '\n'), ('r', '\r'),
    ('t', '\t')]

/-- The value of a hexadecimal digit. -/
def hexValue? (c : Char) : Option Nat :=
  if c.isDigit then some (c.toNat - '0'.toNat)
  else if 'a' ≤ c ∧ c ≤ 'f' then some (c.toNat - 'a'.toNat + 10)
  else if 'A' ≤ c ∧ c ≤ 'F' then some (c.toNat - 'A'.toNat + 10)
  else none

/-- The number that four hexadecimal digits stand for. -/
def hexCode? : Text → Option Nat
  | [a, b, c, d] => do
    some (((((← hexValue? a) * 16 + (← hexValue? b)) * 16 + (← hexValue? c)) * 16) +
      (← hexValue? d))
  | _ => none

/-- What stands for one character in a string. A code point beyond four hexadecimal digits is
written as a pair of surrogates; half of a pair stands for no character. -/
inductive IsUnit : Text → Char → Prop where
  | plain {c : Char} (control : 0x20 ≤ c.toNat) (quote : c ≠ '"') (backslash : c ≠ '\\') :
      IsUnit [c] c
  | escape {e c : Char} (h : (e, c) ∈ escapes) : IsUnit ['\\', e] c
  | code {row : Text} {c : Char} (h : hexCode? row = some c.toNat) : IsUnit ('\\' :: 'u' :: row) c
  | pair {row row' : Text} {high low : Nat} {c : Char} (hhigh : hexCode? row = some high)
      (hlow : hexCode? row' = some low) (high_bounds : 0xd800 ≤ high ∧ high < 0xdc00)
      (low_bounds : 0xdc00 ≤ low ∧ low < 0xe000)
      (hc : c.toNat = 0x10000 + (high - 0xd800) * 0x400 + (low - 0xdc00)) :
      IsUnit ('\\' :: 'u' :: (row ++ '\\' :: 'u' :: row')) c

/-- The characters of a string. -/
inductive IsChars : Text → Text → Prop where
  | nil : IsChars [] []
  | cons {u t s : Text} {c : Char} (h : IsUnit u c) (more : IsChars t s) : IsChars (u ++ t) (c :: s)

/-- A string. -/
inductive IsString : Text → Text → Prop where
  | quoted {t s : Text} (h : IsChars t s) : IsString (inQuotes t) s

/-! ### Values -/

/-- A value that is not made of others. -/
inductive IsScalar : Text → Json → Prop where
  | null : IsScalar ['n', 'u', 'l', 'l'] .null
  | true : IsScalar ['t', 'r', 'u', 'e'] (.bool true)
  | false : IsScalar ['f', 'a', 'l', 's', 'e'] (.bool false)
  | number {t : Text} {q : ℚ} (h : IsNumber t q) : IsScalar t (.number q)
  | string {t s : Text} (h : IsString t s) : IsScalar t (.string s)

/-- The two kinds of brackets. -/
inductive Bracket where
  /-- The brackets of an array. -/
  | array
  /-- The braces of an object. -/
  | object

/-- The opening sign. -/
def Bracket.opening : Bracket → Char
  | array => '['
  | object => '\x7b'

/-- The closing sign. -/
def Bracket.closing : Bracket → Char
  | array => ']'
  | object => '\x7d'

/-- What an empty pair of brackets stands for. -/
def Bracket.nothing : Bracket → Json
  | array => .array []
  | object => .object []

/-- What is derived. -/
inductive Symbol where
  /-- A value. -/
  | value
  /-- A row of elements or members, at least one, with commas between them. -/
  | items (b : Bracket)

/-- **The grammar of values.** A row of items stands for the array or object of them. -/
inductive Derives : Symbol → Text → Json → Prop where
  | scalar {t : Text} {v : Json} (h : IsScalar t v) : Derives .value t v
  | empty {b : Bracket} {o c : Text} (ho : IsMark b.opening o) (hc : IsMark b.closing c) :
      Derives .value (o ++ c) b.nothing
  | group {b : Bracket} {o t c : Text} {v : Json} (ho : IsMark b.opening o)
      (h : Derives (.items b) t v) (hc : IsMark b.closing c) : Derives .value (o ++ (t ++ c)) v
  | element {t : Text} {v : Json} (h : Derives .value t v) :
      Derives (.items .array) t (.array [v])
  | elements {t m t' : Text} {v : Json} {vs : List Json} (h : Derives .value t v)
      (hm : IsMark ',' m) (h' : Derives (.items .array) t' (.array vs)) :
      Derives (.items .array) (t ++ (m ++ t')) (.array (v :: vs))
  | member {k m t name : Text} {v : Json} (hk : IsString k name) (hm : IsMark ':' m)
      (h : Derives .value t v) : Derives (.items .object) (k ++ (m ++ t)) (.object [(name, v)])
  | members {k m t m' t' name : Text} {v : Json} {ms : List (Text × Json)} (hk : IsString k name)
      (hm : IsMark ':' m) (h : Derives .value t v) (hm' : IsMark ',' m')
      (h' : Derives (.items .object) t' (.object ms)) :
      Derives (.items .object) (k ++ (m ++ (t ++ (m' ++ t')))) (.object ((name, v) :: ms))

/-- **The grammar of texts.** A text is a value with space around it. -/
inductive Decodes : Text → Json → Prop where
  | spaced {before t after : Text} {v : Json} (hbefore : IsSpaces before) (h : Derives .value t v)
      (hafter : IsSpaces after) : Decodes (before ++ (t ++ after)) v

end Json

end FlatJson
