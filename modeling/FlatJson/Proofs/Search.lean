import FlatJson.Proofs.Scan

/-!
# Searching for a pattern

A search takes the first place in a text at which the pattern can be read. All places of a pattern
come from searching again and again, from the end of the last place on.

* `Pattern.OccursIn` says that a pattern stands in a text, whether a search finds it or not.
* `IsFirst` and `Successive` are what is found by searching once, and again and again.
* `Pattern.find?_eq_some_iff`, `Pattern.find?_eq_none_iff`: the search finds the first occurrence.
* `Pattern.successive_occurrences`: the places of a pattern are found one after the other.
-/

namespace FlatJson

/-- Where a reading at the end `t` of a text stands in the text. -/
def Reading.occurrence (text t : Text) (r : Reading) : Occurrence where
  start := text.length - t.length
  stop := text.length - r.rest.length
  captureStart := text.length - r.fromCapture.length
  captured := r.captured

/-! ### Occurrences in a row -/

section
variable (occurs : Occurrence → Prop)

/-- The first occurrence from a place on. -/
structure IsFirst (place : Nat) (o : Occurrence) : Prop where
  /-- It is an occurrence. -/
  mem : occurs o
  /-- It starts at the place or behind it. -/
  le_start : place ≤ o.start
  /-- No other one starts between. -/
  least : ∀ o', occurs o' → place ≤ o'.start → o.start ≤ o'.start

/-- The occurrences that are found from a place on, when each search starts where the last one
ended. -/
inductive Successive : Nat → List Occurrence → Prop where
  /-- There is no occurrence from the place on. -/
  | done {place : Nat} (h : ∀ o, occurs o → o.start < place) : Successive place []
  /-- The first occurrence, and those that are found from its end on. -/
  | next {place : Nat} {o : Occurrence} {more : List Occurrence} (h : IsFirst occurs place o)
      (hmore : Successive o.stop more) : Successive place (o :: more)

end

section
variable {occurs : Occurrence → Prop}

theorem Successive.mem {place : Nat} {os : List Occurrence} (h : Successive occurs place os) :
    ∀ o ∈ os, occurs o := by
  induction h with
  | done => simp
  | next h _ ih =>
    rw [List.forall_mem_cons]
    exact ⟨h.mem, ih⟩

/-- If occurrences have an extent, those in a row start from the place on and do not overlap. -/
theorem Successive.disjoint (hextent : ∀ o, occurs o → o.start < o.stop) {place : Nat}
    {os : List Occurrence} (h : Successive occurs place os) :
    (∀ o ∈ os, place ≤ o.start) ∧ os.Pairwise fun o o' => o.stop ≤ o'.start := by
  induction h with
  | done => simp
  | next h _ ih =>
    obtain ⟨hstart, hpairwise⟩ := ih
    refine ⟨List.forall_mem_cons.2 ⟨h.le_start, ?_⟩, List.pairwise_cons.2 ⟨hstart, hpairwise⟩⟩
    intro o ho
    have := hextent _ h.mem
    have := hstart o ho
    have := h.le_start
    omega

end

/-! ### Terms -/

section
variable {β : Type} {next : Text → Option β} {b : β}

theorem greedy_eq_some {a : Atom} {t : Text} (h : greedy a next t = some b) :
    ∃ u, u <:+ t ∧ next u = some b := by
  induction t with
  | nil => exact ⟨[], List.suffix_refl _, h⟩
  | cons c rest ih =>
    rw [greedy] at h
    split at h
    · rcases Option.or_eq_some_iff.1 (Option.orElse_eq_or ▸ h) with h | ⟨-, h⟩
      · obtain ⟨u, hu, hb⟩ := ih h
        exact ⟨u, hu.trans (List.suffix_cons c rest), hb⟩
      · exact ⟨_, List.suffix_refl _, h⟩
    · exact ⟨_, List.suffix_refl _, h⟩

theorem reluctant_eq_some {a : Atom} {t : Text} (h : reluctant a next t = some b) :
    ∃ u, u <:+ t ∧ next u = some b := by
  induction t with
  | nil => exact ⟨[], List.suffix_refl _, h⟩
  | cons c rest ih =>
    rw [reluctant] at h
    rcases Option.or_eq_some_iff.1 (Option.orElse_eq_or ▸ h) with h | ⟨-, h⟩
    · exact ⟨_, List.suffix_refl _, h⟩
    · split at h
      · obtain ⟨u, hu, hb⟩ := ih h
        exact ⟨u, hu.trans (List.suffix_cons c rest), hb⟩
      · contradiction

/-- A term leaves the end of the text to the following ones. -/
theorem Term.follow_eq_some {term : Term} {t : Text} (h : term.follow next t = some b) :
    ∃ u, u <:+ t ∧ next u = some b := by
  cases term with
  | many a => exact greedy_eq_some h
  | few a => exact reluctant_eq_some h
  | one a =>
    cases t with
    | nil => contradiction
    | cons c rest =>
      rw [follow] at h
      split at h
      · exact ⟨rest, List.suffix_cons c rest, h⟩
      · contradiction
  | atLeastOne a =>
    cases t with
    | nil => contradiction
    | cons c rest =>
      rw [follow] at h
      split at h
      · obtain ⟨u, hu, hb⟩ := greedy_eq_some h
        exact ⟨u, hu.trans (List.suffix_cons c rest), hb⟩
      · contradiction
  | oneOf words =>
    obtain ⟨word, -, h⟩ := List.exists_of_findSome?_eq_some h
    obtain ⟨u, hu, hb⟩ := Option.bind_eq_some_iff.1 h
    obtain ⟨v, rfl, -⟩ := afterWord?_eq_some_iff.1 hu
    exact ⟨u, List.suffix_append v u, hb⟩

end

namespace Pattern

variable {β : Type} {p : Pattern}

/-! ### One search -/

/-- The search fails when the pattern can be read at no place. -/
theorem search?_eq_none_iff {t : Text} :
    p.search? t = none ↔ ∀ u, u <:+ t → p.matchAt? u = none := by
  induction t with
  | nil => simp [search?]
  | cons c rest ih =>
    simp only [List.suffix_cons_iff, forall_eq_or_imp, search?]
    cases hmatch : p.matchAt? (c :: rest) with
    | some r => simp
    | none => simpa using ih

/-- The search ends at the first place where the pattern can be read. -/
theorem search?_eq_some {t u : Text} {r : Reading} (h : p.search? t = some (u, r)) :
    u <:+ t ∧ p.matchAt? u = some r ∧
      ∀ u' r', u' <:+ t → p.matchAt? u' = some r' → u'.length ≤ u.length := by
  induction t with
  | nil =>
    simp only [search?, Option.map_eq_some_iff, Prod.mk.injEq] at h
    obtain ⟨r, hmatch, rfl, rfl⟩ := h
    exact ⟨List.suffix_refl _, hmatch, fun u' _ hu' _ => hu'.length_le⟩
  | cons c rest ih =>
    rw [search?] at h
    cases hmatch : p.matchAt? (c :: rest) with
    | some r' =>
      simp only [hmatch, Option.some.injEq, Prod.mk.injEq] at h
      obtain ⟨rfl, rfl⟩ := h
      exact ⟨List.suffix_refl _, hmatch, fun u' _ hu' _ => hu'.length_le⟩
    | none =>
      simp only [hmatch] at h
      obtain ⟨hu, hr, hleast⟩ := ih h
      refine ⟨hu.trans (List.suffix_cons c rest), hr, fun u' r' hu' hr' => ?_⟩
      rcases List.suffix_cons_iff.1 hu' with rfl | hu'
      · rw [hmatch] at hr'
        contradiction
      · exact hleast u' r' hu' hr'

/-! ### Readings -/

/-- What is left of a text to the following terms is its end. -/
theorem followAll_eq_some {terms : List Term} {next : Text → Option β} {t : Text} {b : β}
    (h : followAll terms next t = some b) : ∃ u, u <:+ t ∧ next u = some b := by
  induction terms generalizing t with
  | nil => exact ⟨t, List.suffix_refl t, h⟩
  | cons term terms ih =>
    obtain ⟨u, hu, hnext⟩ := Term.follow_eq_some h
    obtain ⟨v, hv, hb⟩ := ih hnext
    exact ⟨v, hv.trans hu, hb⟩

/-- The captured part and what is behind it stand at the end of the text. -/
theorem suffix_of_matchAt? {t : Text} {r : Reading} (h : p.matchAt? t = some r) :
    r.fromCapture <:+ t ∧ r.rest <:+ t := by
  obtain ⟨s, hs, h⟩ := followAll_eq_some h
  obtain ⟨u, hu, h⟩ := followAll_eq_some h
  obtain ⟨v, hv, h⟩ := followAll_eq_some h
  obtain rfl := Option.some.inj h
  exact ⟨hs, (hv.trans hu).trans hs⟩

/-! ### Occurrences in a text -/

/-- The pattern can be read in the text at the place of the occurrence. -/
def OccursIn (p : Pattern) (text : Text) (o : Occurrence) : Prop :=
  ∃ t r, t <:+ text ∧ p.matchAt? t = some r ∧ o = r.occurrence text t

/-- At one place a pattern is read in one way. -/
theorem OccursIn.eq_of_start {text : Text} {o o' : Occurrence} (h : p.OccursIn text o)
    (h' : p.OccursIn text o') (hstart : o.start = o'.start) : o = o' := by
  obtain ⟨t, r, ht, hr, rfl⟩ := h
  obtain ⟨t', r', ht', hr', rfl⟩ := h'
  have hlength : t.length = t'.length := by
    have := ht.length_le
    have := ht'.length_le
    simp only [Reading.occurrence] at hstart
    omega
  obtain rfl := (List.suffix_of_suffix_length_le ht ht' (Nat.le_of_eq hlength)).eq_of_length hlength
  rw [hr] at hr'
  rw [Option.some.inj hr']

/-- An occurrence that starts behind some text is a reading of the rest. -/
theorem OccursIn.exists_of_le {done t : Text} {o : Occurrence} (h : p.OccursIn (done ++ t) o)
    (hle : done.length ≤ o.start) :
    ∃ u r, u <:+ t ∧ p.matchAt? u = some r ∧ o = r.occurrence (done ++ t) u := by
  obtain ⟨u, r, hu, hr, rfl⟩ := h
  refine ⟨u, r, List.suffix_of_suffix_length_le hu (List.suffix_append done t) ?_, hr, rfl⟩
  have := hu.length_le
  simp only [Reading.occurrence, List.length_append] at hle this
  omega

/-- From a place on, the search fails when there is no occurrence any more. -/
theorem search?_eq_none_iff_occursIn {done t : Text} :
    p.search? t = none ↔ ∀ o, p.OccursIn (done ++ t) o → o.start < done.length := by
  rw [search?_eq_none_iff]
  constructor
  · intro h o ho
    refine Nat.lt_of_not_le fun hle => ?_
    obtain ⟨u, r, hu, hr, -⟩ := ho.exists_of_le hle
    rw [h u hu] at hr
    contradiction
  · intro h u hu
    rw [Option.eq_none_iff_forall_ne_some]
    intro r hr
    have hstart := h _ ⟨u, r, hu.trans (List.suffix_append done t), hr, rfl⟩
    have := hu.length_le
    simp only [Reading.occurrence, List.length_append] at hstart
    omega

/-- From a place on, the search finds the first occurrence. -/
theorem isFirst_of_search? {done t u : Text} {r : Reading} (h : p.search? t = some (u, r)) :
    IsFirst (p.OccursIn (done ++ t)) done.length (r.occurrence (done ++ t) u) := by
  obtain ⟨hu, hr, hleast⟩ := search?_eq_some h
  constructor
  · exact ⟨u, r, hu.trans (List.suffix_append done t), hr, rfl⟩
  · have := hu.length_le
    simp only [Reading.occurrence, List.length_append]
    omega
  · intro o ho hle
    obtain ⟨u', r', hu', hr', rfl⟩ := ho.exists_of_le hle
    exact Nat.sub_le_sub_left (hleast u' r' hu' hr') _

theorem find?_eq_none_iff {text : Text} : p.find? text = none ↔ ∀ o, ¬p.OccursIn text o := by
  rw [find?, Option.map_eq_none_iff, @search?_eq_none_iff_occursIn p [] text]
  simp

/-- What is found is captured at the first occurrence. -/
theorem find?_eq_some_iff {text v : Text} :
    p.find? text = some v ↔ ∃ o, IsFirst (p.OccursIn text) 0 o ∧ o.captured = v := by
  cases hsearch : p.search? text with
  | none =>
    have hnone : p.find? text = none := by rw [find?, hsearch, Option.map_none]
    rw [hnone]
    constructor
    · intro h
      contradiction
    · rintro ⟨o, ho, -⟩
      exact absurd ho.mem (find?_eq_none_iff.1 hnone o)
  | some found =>
    have hfirst := @isFirst_of_search? p [] _ _ _ hsearch
    have hsome : p.find? text = some found.2.captured := by rw [find?, hsearch, Option.map_some]
    rw [hsome, Option.some.injEq]
    constructor
    · rintro rfl
      exact ⟨_, hfirst, rfl⟩
    · rintro ⟨o, ho, rfl⟩
      have hstart := Nat.le_antisymm (hfirst.least o ho.mem (Nat.zero_le _))
        (ho.least _ hfirst.mem (Nat.zero_le _))
      rw [← hfirst.mem.eq_of_start ho.mem hstart]
      rfl

/-- What is found is captured at the first of all places. -/
theorem find?_eq_head? (text : Text) :
    p.find? text = (p.occurrences text).head?.map (·.captured) := by
  rw [find?, occurrences, occurrencesFrom]
  cases p.search? text <;> rfl

/-! ### All places -/

/-- The pattern is never read without going over some text. -/
def Advances (p : Pattern) : Prop :=
  ∀ t r, p.matchAt? t = some r → r.rest.length < t.length

theorem Advances.start_lt_stop (hp : p.Advances) {text : Text} {o : Occurrence}
    (h : p.OccursIn text o) : o.start < o.stop := by
  obtain ⟨t, r, ht, hr, rfl⟩ := h
  have := hp t r hr
  have := ht.length_le
  simp only [Reading.occurrence]
  omega

/-- The places from an offset on are found one after the other. -/
theorem successive_occurrencesFrom (hp : p.Advances) (done t : Text) :
    Successive (p.OccursIn (done ++ t)) done.length (p.occurrencesFrom done.length t) := by
  induction hlength : t.length using Nat.strongRecOn generalizing done t with
  | ind n ih =>
    subst hlength
    rw [occurrencesFrom]
    cases hsearch : p.search? t with
    | none => exact .done (search?_eq_none_iff_occursIn.1 hsearch)
    | some found =>
      obtain ⟨u, r⟩ := found
      obtain ⟨hu, hr, -⟩ := search?_eq_some hsearch
      obtain ⟨hcapture, hrest⟩ := suffix_of_matchAt? hr
      have hlt : r.rest.length < t.length := Nat.lt_of_lt_of_le (hp u r hr) hu.length_le
      -- offsets in the whole text are offsets in its end
      have offset {v : Text} (hv : v <:+ t) :
          (done ++ t).length - v.length = done.length + (t.length - v.length) := by
        rw [List.length_append, Nat.add_sub_assoc hv.length_le]
      have hfirst := @isFirst_of_search? p done _ _ _ hsearch
      simp only [Reading.occurrence, offset hu, offset (hrest.trans hu),
        offset (hcapture.trans hu)] at hfirst
      simp only [if_pos hlt]
      refine .next hfirst ?_
      obtain ⟨read, rfl⟩ := hrest.trans hu
      have := ih _ hlt (done ++ read) r.rest rfl
      simpa using this

/-- **All places of a pattern.** If no reading is empty, the places of the pattern are found one
after the other, each of them from the end of the last one on. -/
theorem successive_occurrences (hp : p.Advances) (text : Text) :
    Successive (p.OccursIn text) 0 (p.occurrences text) :=
  successive_occurrencesFrom hp [] text

end Pattern

end FlatJson
