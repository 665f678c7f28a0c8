import FlatJson.Text.Binary64
import FlatJson.Value.Basic

/-!
# Sets and tables of values

A set holds each of its elements once, and so does a table its keys; of several equal values the
first one stays. Values of different types may be equal: truth values are the numbers 0 and 1, and
numbers are compared by what they stand for.

* `Value.isSame` is this equality, `Value.isKey` says which values can be elements and keys.
* `Value.setOf` and `Value.tableOf` build a set and a table.
-/

namespace FlatJson

/-- A finite floating point number stands for this integer. -/
def Binary64.standsFor (x : Binary64) (n : Nat) : Bool :=
  x.mantissa * Nat.pow 2 x.exponent.toNat == n * Nat.pow 2 (-x.exponent).toNat

/-- A floating point number stands for this integer. -/
def realIsInteger (x : Float) (n : Int) : Bool :=
  x.isFinite && (Binary64.ofBits x.toBits).standsFor n.natAbs &&
    (n == 0 || decide (x < 0) == decide (n < 0))

/-- Two numbers, each an integer or a floating point number, stand for the same one. -/
def isSameNumber : Int ⊕ Float → Int ⊕ Float → Bool
  | .inl n, .inl n' => n == n'
  | .inl n, .inr x | .inr x, .inl n => realIsInteger x n
  | .inr x, .inr x' => x == x'

/-- The two zones are equal: those known by name if they have the same one, others if their offsets
are equal. -/
def Zone.isSame : Zone → Zone → Bool
  | .named name _, .named name' _ => name == name'
  | .utc, .utc => true
  | .utc, .fixed o _ | .fixed o _, .utc => o == .zero
  | .fixed o _, .fixed o' _ => o == o'
  | .named _ _, _ | _, .named _ _ => false

namespace Value

/-- The number that the value is, if it is one. -/
def number? : Value → Option (Int ⊕ Float)
  | bool b => some (.inl (if b then 1 else 0))
  | int n => some (.inl n)
  | real x => some (.inr x)
  | _ => none

/-- Two values without parts are equal. -/
def isSameAtom (v w : Value) : Bool :=
  match v.number?, w.number? with
  | some n, some n' => isSameNumber n n'
  | none, none =>
    match v, w with
    | absent, absent => true
    | text t, text t' => t == t'
    | duration d, duration d' => d == d'
    | dateTime c p, dateTime c' p' => c.isSameTime p c' p'
    | date d, date d' => d.dayNumber == d'.dayNumber
    | bytes l, bytes l' => l == l'
    | fieldKind k, fieldKind k' => k == k'
    | valueKind k, valueKind k' => k == k'
    | zone z, zone z' => z.isSame z'
    | _, _ => false
  | _, _ => false

mutual

/-- Two values are equal, as far as they can be elements or keys. -/
def isSame : Value → Value → Bool
  | tuple vs, tuple ws => areSame vs ws
  | tuple _, _ | _, tuple _ => false
  | v, w => v.isSameAtom w

/-- Two rows of values are equal in length and in every place. -/
def areSame : List Value → List Value → Bool
  | [], [] => true
  | v :: vs, w :: ws => v.isSame w && areSame vs ws
  | _, _ => false

end

mutual

/-- The value can be an element of a set and a key of a table: it is not one that can be changed,
nor a tuple that holds one. -/
def isKey : Value → Bool
  | list _ | table _ | set _ | settings _ => false
  | tuple items => areKeys items
  | _ => true

/-- All the values can be elements and keys. -/
def areKeys : List Value → Bool
  | [] => true
  | v :: vs => v.isKey && areKeys vs

end

/-- The values without those that are equal to an earlier one, if all can be elements and keys. -/
def distinct (items : List Value) : Except Error (List Value) :=
  if areKeys items then .ok (items.eraseDupsBy isSame) else .error .notKey

/-- The set of the values. -/
def setOf (items : List Value) : Except Error Value := (distinct items).map set

/-- The table with these keys. -/
def tableOf (keys : List Value) : Except Error Value := (distinct keys).map table

end Value

end FlatJson
