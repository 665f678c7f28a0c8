import FlatJson.Proofs.TwoScans

/-!
# Objects in a growing text

A reader may ask for an object before all of a message is there, and again with what has come in
since then; and the message may stand behind other text. Neither makes a difference to an object
that has been extracted.

* `isLeast_standsAt_append_iff`: what is put behind a text does not change the first place of a
  stretch that ends before it.
* `ObjectScan.span?_eq_some_iff`: where a scan ends is decided by what it has gone over.
* `extract_final`: text behind an object does not change it, and neither does text in front of the
  first occurrence of its name.
* `exists_arrival`: of a text that comes in bit by bit, an object is extracted as soon as its name
  and the object are there, and not before.
-/

namespace FlatJson

/-! ### Places in a text with more behind it -/

section
variable {stretch t : Text} {place : Nat}

theorem StandsAt.add_length_le (h : StandsAt stretch t place) :
    place + stretch.length ≤ t.length := by
  obtain ⟨before, after, rfl, rfl⟩ := h
  simp

theorem StandsAt.append (h : StandsAt stretch t place) (after : Text) :
    StandsAt stretch (t ++ after) place := by
  obtain ⟨before, rest, rfl, rfl⟩ := h
  exact ⟨before, rest ++ after, by simp, rfl⟩

/-- A stretch that ends inside of the first text stands there already. -/
theorem StandsAt.of_append {after : Text} (h : StandsAt stretch (t ++ after) place)
    (hend : place + stretch.length ≤ t.length) : StandsAt stretch t place := by
  obtain ⟨before, rest, heq, rfl⟩ := h
  have hbegins : before ++ stretch <+: t ++ after := ⟨rest, by simp [heq]⟩
  obtain ⟨rest', rfl⟩ := List.prefix_of_prefix_length_le hbegins (List.prefix_append t after)
    (by simpa using hend)
  exact ⟨before, rest', by simp, rfl⟩

/-- From a place on, the first place of a stretch does not depend on what comes behind. An earlier
occurrence would end before it does, so it would not reach into the other text. -/
theorem isLeast_standsAt_append_iff (start : Nat) {after : Text}
    (hend : place + stretch.length ≤ t.length) :
    IsLeast {q | start ≤ q ∧ StandsAt stretch (t ++ after) q} place ↔
      IsLeast {q | start ≤ q ∧ StandsAt stretch t q} place := by
  constructor
  · rintro ⟨⟨hstart, hstands⟩, hleast⟩
    exact ⟨⟨hstart, hstands.of_append hend⟩, fun q hq => hleast ⟨hq.1, hq.2.append after⟩⟩
  · rintro ⟨⟨hstart, hstands⟩, hleast⟩
    refine ⟨⟨hstart, hstands.append after⟩, ?_⟩
    rintro q ⟨hq, hearlier⟩
    by_contra hlt
    exact hlt (hleast ⟨hq, hearlier.of_append (by omega)⟩)

theorem isLeast_place_append_iff {after : Text} (hend : place + stretch.length ≤ t.length) :
    IsLeast {q | StandsAt stretch (t ++ after) q} place ↔
      IsLeast {q | StandsAt stretch t q} place := by
  simpa using isLeast_standsAt_append_iff 0 hend

theorem OpensAt.append {name : Text} {b : Nat} (h : OpensAt name t b) (after : Text) :
    OpensAt name (t ++ after) b := by
  obtain ⟨p, hname, hbrace⟩ := h
  exact ⟨p, (isLeast_place_append_iff hname.1.add_length_le).2 hname,
    (isLeast_standsAt_append_iff p hbrace.1.2.add_length_le).2 hbrace⟩

/-- The object opens at the same place in the first text if name and brace are inside of it. -/
theorem OpensAt.of_append {name after : Text} {p b : Nat} (h : OpensAt name (t ++ after) b)
    (hname : IsLeast {q | StandsAt name (t ++ after) q} p) (hend : p + name.length ≤ t.length)
    (hb : b < t.length) : OpensAt name t b := by
  obtain ⟨p', hp', hbrace⟩ := h
  obtain rfl := hp'.unique hname
  exact ⟨p', (isLeast_place_append_iff hend).1 hname,
    (isLeast_standsAt_append_iff p' (Nat.succ_le_of_lt hb)).1 hbrace⟩

end

/-! ### The end of an object -/

theorem firstBraceSpan?_eq_some_iff {t v : Text} :
    firstBraceSpan? t = some v ↔ (∃ u, v = u ++ ['\x7d'] ∧ '\x7d' ∉ u) ∧ v <+: t := by
  constructor
  · intro h
    have hmem : '\x7d' ∈ t := by
      by_contra hno
      rw [firstBraceSpan?_eq_none_iff.2 hno] at h
      contradiction
    obtain ⟨u, rest, rfl, hu⟩ := List.eq_append_cons_of_mem hmem
    rw [firstBraceSpan?_append hu] at h
    obtain rfl := Option.some.inj h
    exact ⟨⟨u, rfl, hu⟩, rest, by simp⟩
  · rintro ⟨⟨u, rfl, hu⟩, rest, rfl⟩
    rw [List.append_assoc]
    exact firstBraceSpan?_append hu rest

/-- Where a scan ends is decided by what it has gone over: it goes over a beginning of the text, and
it would do so if there were nothing behind. -/
theorem ObjectScan.span?_eq_some_iff {scan : ObjectScan} {t v : Text} :
    scan.span? t = some v ↔ scan.span? v = some v ∧ v <+: t := by
  cases scan with
  | firstBrace => simp only [span?, firstBraceSpan?_eq_some_iff, List.prefix_refl, and_true]
  | balanced => simp only [span?, balancedSpan?_eq_some_iff, List.prefix_refl, and_true]

/-! ### Extracted objects -/

section
variable {scan : ObjectScan} {name t object : Text}

theorem standsAt_of_extractObject (h : extractObject scan name t = .ok object) :
    ∃ b, OpensAt name t b ∧ StandsAt object t b := by
  obtain ⟨before, inner, v, rfl, hopens, hspan, rfl⟩ := extractObject_eq_ok_iff.1 h
  obtain ⟨-, after, rfl⟩ := ObjectScan.span?_eq_some_iff.1 hspan
  exact ⟨before.length, hopens, standsAt_append before ('\x7b' :: v) after⟩

/-- What comes in later leaves an object as it has been extracted. -/
theorem extractObject_append_of_ok (h : extractObject scan name t = .ok object) (more : Text) :
    extractObject scan name (t ++ more) = .ok object := by
  obtain ⟨before, inner, v, ht, hopens, hspan, rfl⟩ := extractObject_eq_ok_iff.1 h
  obtain ⟨hself, hbegins⟩ := ObjectScan.span?_eq_some_iff.1 hspan
  have hspan' : scan.span? (inner ++ more) = some v :=
    ObjectScan.span?_eq_some_iff.2 ⟨hself, hbegins.trans (List.prefix_append inner more)⟩
  exact extractObject_eq_ok_iff.2 ⟨before, inner ++ more, v, by simp [ht], hopens.append more,
    hspan', rfl⟩

/-- A search does not look at text in which the word does not start. -/
theorem fromFirst?_append_of_le {before : Text}
    (h : ∀ p, StandsAt name (before ++ t) p → before.length ≤ p) :
    fromFirst? name (before ++ t) = fromFirst? name t := by
  induction before with
  | nil => rfl
  | cons c before ih =>
    have hstarts : ¬ startsWith name (c :: (before ++ t)) = true := by
      rw [startsWith_iff_standsAt]
      intro h0
      exact absurd (h 0 h0) (by simp)
    rw [List.cons_append, fromFirst?, if_neg hstarts]
    refine ih fun p hp => ?_
    exact Nat.le_of_succ_le_succ (h (p + 1) (standsAt_cons_iff.2 hp))

/-- What stands in front of the first occurrence of a name makes no difference to its object. -/
theorem extractObject_append_of_le {before : Text}
    (h : ∀ p, StandsAt name (before ++ t) p → before.length ≤ p) :
    extractObject scan name (before ++ t) = extractObject scan name t := by
  simp only [extractObject, fromFirst?_append_of_le h]

end

/-- **An object that has been extracted is final.** Whatever text comes behind, the same object is
extracted. Text in front of the first occurrence of the name changes nothing either, be it that
there is an object or not. -/
theorem extract_final (scan : ObjectScan) (name t : Text) :
    (∀ object, extractObject scan name t = .ok object →
      ∀ after, extractObject scan name (t ++ after) = .ok object) ∧
      ∀ before, (∀ p, IsLeast {q | StandsAt name (before ++ t) q} p → before.length ≤ p) →
        extractObject scan name (before ++ t) = extractObject scan name t := by
  refine ⟨fun object h after => extractObject_append_of_ok h after, fun before hfirst => ?_⟩
  refine extractObject_append_of_le fun q hq => ?_
  -- there is a first occurrence, and it is not in front of the text
  obtain ⟨u, hu⟩ : ∃ u, fromFirst? name (before ++ t) = some u := by
    rw [← Option.ne_none_iff_exists']
    exact fun hnone => fromFirst?_eq_none_iff.1 hnone q hq
  obtain ⟨front, -, hleast⟩ := isLeast_of_fromFirst? hu
  exact (hfirst _ hleast).trans (hleast.2 hq)

/-- A quote that is opened in front of the name and one that follows the object do not count. -/
theorem extract_final_quotes :
    extractObject .balanced ['n'] ("\x7b\"".toList ++ "n: \x7b\"\\\"\x7d\"\x7d".toList) =
        extractObject .balanced ['n'] "n: \x7b\"\\\"\x7d\"\x7d".toList ∧
      extractObject .balanced ['n'] "n: \x7b\"\\\"\x7d\"\x7d".toList =
        .ok "\x7b\"\\\"\x7d\"\x7d".toList ∧
      extractObject .balanced ['n'] ("n: \x7b\"\\\"\x7d\"\x7d".toList ++ "\"n\x7d".toList) =
        .ok "\x7b\"\\\"\x7d\"\x7d".toList := by
  obtain ⟨hlater, hearlier⟩ := extract_final .balanced ['n'] "n: \x7b\"\\\"\x7d\"\x7d".toList
  have hobject : extractObject .balanced ['n'] "n: \x7b\"\\\"\x7d\"\x7d".toList =
      .ok "\x7b\"\\\"\x7d\"\x7d".toList := by rfl
  refine ⟨hearlier _ fun p hp => ?_, hobject, hlater _ hobject _⟩
  obtain ⟨⟨before, rest, heq, rfl⟩, -⟩ := hp
  rcases before with _ | ⟨c, _ | ⟨d, before⟩⟩
  · simp at heq
  · simp at heq
  · simp

/-- **Reading from a growing text.** Of a text that comes in bit by bit, an object is extracted as
soon as both the first occurrence of its name and the object itself are there, and before that there
is none. -/
theorem exists_arrival {scan : ObjectScan} {name t object : Text}
    (h : extractObject scan name t = .ok object) :
    ∃ p b, IsLeast {q | StandsAt name t q} p ∧ OpensAt name t b ∧ StandsAt object t b ∧
      ∀ u, u <+: t →
        if p + name.length ≤ u.length ∧ b + object.length ≤ u.length then
          extractObject scan name u = .ok object
        else ∃ why, extractObject scan name u = .error why := by
  obtain ⟨before, inner, v, ht, hopens, hspan, rfl⟩ := extractObject_eq_ok_iff.1 h
  obtain ⟨hself, after, rfl⟩ := ObjectScan.span?_eq_some_iff.1 hspan
  have ⟨p, hname, _⟩ := hopens
  refine ⟨p, before.length, hname, hopens, ⟨before, after, by simp [ht], rfl⟩, ?_⟩
  rintro u ⟨more, hmore⟩
  rw [← hmore] at hname hopens h
  split
  · rename_i hthere
    have hbegins : before ++ '\x7b' :: v <+: u ++ more := ⟨after, by simp [hmore, ht]⟩
    obtain ⟨rest, rfl⟩ := List.prefix_of_prefix_length_le hbegins (List.prefix_append u more)
      (by simpa using hthere.2)
    have hopens' := hopens.of_append hname hthere.1 (by simp)
    have hspan' := ObjectScan.span?_eq_some_iff.2 ⟨hself, List.prefix_append v rest⟩
    exact extractObject_eq_ok_iff.2 ⟨before, v ++ rest, v, by simp, hopens', hspan', rfl⟩
  · rename_i hlack
    cases hu : extractObject scan name u with
    | error why => exact ⟨why, rfl⟩
    | ok object' =>
      -- the whole text would have the same object at the same place, so nothing would be lacking
      refine absurd ?_ hlack
      obtain rfl := Except.ok.inj ((extractObject_append_of_ok hu more).symm.trans h)
      obtain ⟨b, hopens', hstands'⟩ := standsAt_of_extractObject hu
      have ⟨p', hname', _⟩ := hopens'
      have hend := hname'.1.add_length_le
      obtain rfl := ((isLeast_place_append_iff hend).2 hname').unique hname
      obtain rfl := (hopens'.append more).unique hopens
      exact ⟨hend, hstands'.add_length_le⟩

end FlatJson
