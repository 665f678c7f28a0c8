/-!
# Texts

A message, a name or a string value is a text, the list of its characters. Offsets and lengths
count characters.

* `fromFirst?` is the part of a text from the first occurrence of a word on.
-/

namespace FlatJson

/-- A text is the list of its characters. -/
abbrev Text := List Char

/-- The text between two double quotes. -/
def inQuotes (t : Text) : Text := '"' :: t ++ ['"']

/-- The word for a truth value in a message. -/
def truthWord : Bool → Text
  | true => ['t', 'r', 'u', 'e']
  | false => ['f', 'a', 'l', 's', 'e']

/-- The text is `word` followed by something. -/
def startsWith : Text → Text → Bool
  | [], _ => true
  | _ :: _, [] => false
  | w :: word, c :: rest => w == c && startsWith word rest

/-- The part of a text from the first occurrence of `word` on, if `word` occurs. -/
def fromFirst? (word : Text) : Text → Option Text
  | [] => if startsWith word [] then some [] else none
  | c :: rest => if startsWith word (c :: rest) then some (c :: rest) else fromFirst? word rest

theorem startsWith_iff {word t : Text} : startsWith word t = true ↔ ∃ rest, t = word ++ rest := by
  induction word generalizing t with
  | nil => simp [startsWith]
  | cons w word ih =>
    cases t with
    | nil => simp [startsWith]
    | cons c rest =>
      simp only [startsWith, Bool.and_eq_true, beq_iff_eq, ih, List.cons_append, List.cons.injEq]
      exact ⟨fun ⟨hc, tail, ht⟩ => ⟨tail, hc.symm, ht⟩, fun ⟨tail, hc, ht⟩ => ⟨hc.symm, tail, ht⟩⟩

/-- The part found starts with the word, and the text ends with it. -/
theorem fromFirst?_eq_some {word t u : Text} (h : fromFirst? word t = some u) :
    startsWith word u = true ∧ ∃ before, t = before ++ u := by
  induction t with
  | nil =>
    simp only [fromFirst?] at h
    split at h
    · rename_i hw
      obtain rfl := Option.some.inj h
      exact ⟨hw, [], rfl⟩
    · contradiction
  | cons c rest ih =>
    simp only [fromFirst?] at h
    split at h
    · rename_i hw
      obtain rfl := Option.some.inj h
      exact ⟨hw, [], rfl⟩
    · obtain ⟨hu, before, rfl⟩ := ih h
      exact ⟨hu, c :: before, rfl⟩

end FlatJson
