import FlatJson.Proofs.Appending

/-!
# Inferred and named kinds

A call that appends a field may name the kind of its value, and then the value is checked against
the kind; or it leaves the kind out, and then the kind is inferred from the value. Inference sees
the type of the value only, the check also sees the elements of a list.

* `inferKind_eq_ok_iff`, `check_eq_ok_iff`: inference finds the kind that a value has by itself, and
  the check accepts what may be written as a kind.
* `admitted_iff`: a value that is there may be written as its own kind and as no other one.
* `kinds_agree`: inference and check agree, and so do the calls with and without a kind.
* `addAll_named`: in a run of calls it makes no difference whether inferred kinds are named.
-/

namespace FlatJson

/-! ### Elements -/

/-- The first value is an element of the second one, a list or a list of fixed length. -/
inductive IsItemOf : Value → Value → Prop where
  /-- An element of a list. -/
  | list {v : Value} {items : List Value} (h : v ∈ items) : IsItemOf v (.list items)
  /-- An element of a list of fixed length. -/
  | tuple {v : Value} {items : List Value} (h : v ∈ items) : IsItemOf v (.tuple items)

/-- All elements of the value are texts. -/
def HoldsTexts (v : Value) : Prop := ∀ item, IsItemOf item v → ∃ t, item = .text t

theorem all_isText_iff {items : List Value} :
    items.all Value.isText = true ↔ ∀ item ∈ items, ∃ t, item = .text t := by
  rw [List.all_eq_true]
  refine forall₂_congr fun item _ => ?_
  cases item <;> simp [Value.isText]

section
variable {v : Value} {items : List Value} (hv : v = .list items ∨ v = .tuple items)
include hv

theorem isItemOf_iff {item : Value} : IsItemOf item v ↔ item ∈ items := by
  rcases hv with rfl | rfl
  · refine ⟨fun h => ?_, .list⟩
    cases h with
    | list h => exact h
  · refine ⟨fun h => ?_, .tuple⟩
    cases h with
    | tuple h => exact h

theorem holdsTexts_iff : HoldsTexts v ↔ ∃ ts : List Text, items = ts.map .text := by
  simp only [HoldsTexts, isItemOf_iff hv]
  constructor
  · exact fun h => exists_map_text (all_isText_iff.2 h)
  · rintro ⟨ts, rfl⟩ item h
    obtain ⟨t, -, rfl⟩ := List.mem_map.1 h
    exact ⟨t, rfl⟩

end

/-! ### Inference and check -/

section
variable {k : ValueKind} {v : Value}

theorem inferKind_eq_ok_iff : v.inferKind = .ok k ↔ OwnKind v k := by
  refine ⟨fun h => ?_, inferKind_of_ownKind⟩
  obtain ⟨k', hown, hinfer⟩ | ⟨-, hinfer⟩ := inferKind_cases v
  · obtain rfl := Except.ok.inj (hinfer.symm.trans h)
    exact hown
  · rw [hinfer] at h
    contradiction

theorem check_eq_ok_iff : k.check v = .ok () ↔ Admitted k v := by
  rw [← admits_iff, ValueKind.check]
  split <;> simp_all

/-- A value that is there may be written as the kind that it has by itself, if its elements are
texts, and as no other kind. -/
theorem admitted_iff (hv : v ≠ .absent) :
    Admitted k v ↔ OwnKind v k ∧ (k = .stringArray → HoldsTexts v) := by
  constructor
  · intro h
    cases h with
    | string t => exact ⟨.text t, by simp⟩
    | boolean b => exact ⟨.bool b, by simp⟩
    | integer n => exact ⟨.int n, by simp⟩
    | duration d => exact ⟨.duration d, by simp⟩
    | list ts => exact ⟨.list _, fun _ => (holdsTexts_iff (.inl rfl)).2 ⟨ts, rfl⟩⟩
    | tuple ts => exact ⟨.tuple _, fun _ => (holdsTexts_iff (.inr rfl)).2 ⟨ts, rfl⟩⟩
    | timestamp c p => exact ⟨.dateTime c p, by simp⟩
    | noString | noArray | noTimestamp => contradiction
  · rintro ⟨hown, htexts⟩
    cases hown with
    | bool b => exact .boolean b
    | int n => exact .integer n
    | duration d => exact .duration d
    | dateTime c p => exact .timestamp c p
    | text t => exact .string t
    | list items =>
      obtain ⟨ts, rfl⟩ := (holdsTexts_iff (.inl rfl)).1 (htexts rfl)
      exact .list ts
    | tuple items =>
      obtain ⟨ts, rfl⟩ := (holdsTexts_iff (.inr rfl)).1 (htexts rfl)
      exact .tuple ts

end

/-! ### Calls -/

/-- A call without a kind brings about what the call does that names the inferred kind. -/
theorem outcome_own (name : Text) {v : Value} (hv : v ≠ .absent) :
    Addition.outcome ⟨name, v, .absent⟩ =
      v.inferKind >>= fun k => Addition.outcome ⟨name, v, .value k⟩ := by
  rw [Addition.outcome, fragment?_own name hv]
  cases v.inferKind <;> rfl

/-- A call that names another kind than the value's own is refused. -/
theorem refused_of_not_ownKind (name : Text) {v : Value} {k : ValueKind} (hv : v ≠ .absent)
    (hk : ¬ OwnKind v k) : Refused ⟨name, v, .value k⟩ (.cannotWrite v.typeName k) :=
  .misfit (.given name v k) fun h => hk ((admitted_iff hv).1 h).1

/-- **Inference and check agree.** A value that is there passes the check of a kind just when the
kind is inferred for it and, for arrays, all of its elements are texts; so it passes the check of
one kind at most. A call without a kind does the same as the call that names the inferred one, and
fails with the error of the inference if there is none. A call that names any other kind is refused,
and nothing is written. -/
theorem kinds_agree (v : Value) (hv : v ≠ .absent) :
    (∀ k : ValueKind,
      k.check v = .ok () ↔ v.inferKind = .ok k ∧ (k = .stringArray → HoldsTexts v)) ∧
      (∀ k k' : ValueKind, k.check v = .ok () → k'.check v = .ok () → k = k') ∧
      (∀ (m : Message) name, m.add ⟨name, v, .absent⟩ =
        v.inferKind >>= fun k => m.add ⟨name, v, .value k⟩) ∧
      ∀ (m : Message) name k, v.inferKind ≠ .ok k →
        m.add ⟨name, v, .value k⟩ = .error (.cannotWrite v.typeName k) ∧
          m.addAll [⟨name, v, .value k⟩] = m := by
  have hcheck (k : ValueKind) :
      k.check v = .ok () ↔ v.inferKind = .ok k ∧ (k = .stringArray → HoldsTexts v) := by
    rw [check_eq_ok_iff, admitted_iff hv, inferKind_eq_ok_iff]
  refine ⟨hcheck, fun k k' h h' => ?_, fun m name => ?_, fun m name k hk => ?_⟩
  · exact Except.ok.inj (((hcheck k).1 h).1.symm.trans ((hcheck k').1 h').1)
  · simp only [Message.add_eq, outcome_own name hv]
    cases v.inferKind <;> rfl
  · rw [ne_eq, inferKind_eq_ok_iff] at hk
    have hfails : m.add ⟨name, v, .value k⟩ = .error (.cannotWrite v.typeName k) := by
      rw [Message.add_eq, outcome_of_refused (refused_of_not_ownKind name hv hk)]
      rfl
    exact ⟨hfails, (actsExactly m _).failed _ hfails⟩

/-- A truth value is not written as an integer, and a list with another list in it not at all. -/
theorem kinds_agree_bool :
    Value.bool true ≠ .absent ∧
      Message.opened.add ⟨['b'], .bool true, .absent⟩ = .ok ⟨"\x7b\"b\": true,".toList⟩ ∧
      Message.opened.add ⟨['b'], .bool true, .value .boolean⟩ =
        .ok ⟨"\x7b\"b\": true,".toList⟩ ∧
      Message.opened.add ⟨['b'], .bool true, .value .integer⟩ =
        .error (.cannotWrite "bool" .integer) ∧
      ¬ ValueKind.stringArray.check (.list [.text ['a'], .list []]) = .ok () := by
  have hbool : Value.bool true ≠ .absent := nofun
  obtain ⟨-, -, hown, hother⟩ := kinds_agree (.bool true) hbool
  obtain ⟨hcheck, -⟩ := kinds_agree (.list [.text ['a'], .list []]) nofun
  have hinteger : (Value.bool true).inferKind ≠ .ok .integer := by simp [Value.inferKind]
  refine ⟨hbool, (hown _ _).trans rfl, rfl, (hother _ _ _ hinteger).1, fun h => ?_⟩
  obtain ⟨t, ht⟩ := ((hcheck _).1 h).2 rfl (.list []) (.list (by simp))
  contradiction

/-! ### Runs -/

/-- The call with its kind named, if it has one or one can be inferred. -/
def Addition.named? (a : Addition) : Option Addition :=
  match a.kind with
  | .absent => a.value.inferKind.toOption.map fun k => { a with kind := .value k }
  | _ => some a

/-- A call appends what it does with its kind named, and nothing if there is no kind to name. -/
theorem appended_named (a : Addition) :
    a.outcome.toOption.getD [] = (a.named?.bind (·.outcome.toOption)).getD [] := by
  obtain ⟨name, v, label⟩ := a
  cases label with
  | absent =>
    by_cases hv : v = .absent
    · subst hv
      rfl
    · rw [outcome_own name hv, Addition.named?]
      cases v.inferKind <;> rfl
  | _ => rfl

/-- **Runs with named kinds.** A run of calls leaves the same message if each call that does not
name a kind names the inferred one, and is left out if there is none. -/
theorem addAll_named (m : Message) (calls : List Addition) :
    m.addAll (calls.filterMap Addition.named?) = m.addAll calls := by
  induction calls generalizing m with
  | nil => rfl
  | cons a calls ih =>
    rw [Message.addAll_cons, appended_named, ← ih]
    cases hnamed : a.named? with
    | none =>
      rw [List.filterMap_cons_none hnamed]
      simp [Message.append]
    | some a' =>
      rw [List.filterMap_cons_some hnamed, Message.addAll_cons]
      rfl

end FlatJson
