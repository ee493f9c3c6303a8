import PatternSql.Proofs.ZonedTimestamps

/-!
# The two readers of timestamps

What the reader of timestamps with a zone accepts is written in their form: each part that it takes
off a text is the digits of a number in its width, a divider, a fraction or a zone.  So
`zoned?_eq_some_iff` says that it accepts the texts of `Written` timestamps and no others.

With this the two readers can be compared.  A text to which a `Z` has to be added before it has a
zone is a timestamp without one, and the reader for these finds the same instant
(`millis_eq_of_zoned?_append`).  The decorations come off in the same way with and without the
zone, since a timestamp ends with a digit (`undecorated_of_append_zone`).
-/

namespace PatternSql

namespace Timestamp

open Text Json.Numeral

/-! ### Numbers of a fixed width -/

/-- A number is below the power of ten that has as many zeros as the number has digits. -/
lemma digitsValue_lt {digits : List Char} (h : ∀ c ∈ digits, c.isDigit = true) :
    digitsValue digits < 10 ^ digits.length := by
  induction digits using List.reverseRecOn with
  | nil => simp
  | append_singleton digits c ih =>
    rw [List.forall_mem_append, List.forall_mem_singleton] at h
    have hfront := ih h.1
    have hlast := (digitChar_digitValue h.2).2
    rw [digitsValue_append_singleton, List.length_append, List.length_singleton, pow_succ]
    omega

/-- In the same width, no number has two sequences of digits. -/
lemma eq_of_digitsValue_eq {digits others : List Char} (hdigits : ∀ c ∈ digits, c.isDigit = true)
    (hothers : ∀ c ∈ others, c.isDigit = true) (hlength : digits.length = others.length)
    (hvalue : digitsValue digits = digitsValue others) : digits = others := by
  induction digits using List.reverseRecOn generalizing others with
  | nil => exact (List.length_eq_zero_iff.1 hlength.symm).symm
  | append_singleton digits c ih =>
    cases others using List.reverseRecOn with
    | nil => simp at hlength
    | append_singleton others d =>
      rw [List.forall_mem_append, List.forall_mem_singleton] at hdigits hothers
      obtain ⟨hc, hclt⟩ := digitChar_digitValue hdigits.2
      obtain ⟨hd, hdlt⟩ := digitChar_digitValue hothers.2
      rw [digitsValue_append_singleton, digitsValue_append_singleton] at hvalue
      have hlast : digitValue c = digitValue d := by omega
      have hfront : digits = others :=
        ih hdigits.1 hothers.1 (by simpa using hlength) (by omega)
      rw [hfront, ← hc, ← hd, hlast]

/-- Digits are their number, with zeros in front up to their width. -/
lemma padded_digitsValue {digits : List Char} (hdigits : IsRun digits) :
    padded digits.length (digitsValue digits) = digits := by
  have hwidth : 0 < digits.length := List.length_pos_iff.2 hdigits.1
  refine eq_of_digitsValue_eq (fun c hc => isDigit_of_mem_padded hc) hdigits.2 ?_ ?_
  · exact length_padded hwidth (digitsValue_lt hdigits.2)
  · exact digitsValue_padded _ _

/-- The leading digits stand in front of the text, and they are digits. -/
lemma leadingDigits_prefix (count : Nat) (cs : List Char) :
    leadingDigits count cs ++ cs.drop (leadingDigits count cs).length = cs ∧
      ∀ c ∈ leadingDigits count cs, c.isDigit = true := by
  fun_induction leadingDigits count cs with
  | case1 => simp
  | case2 => simp
  | case3 count c rest hc ih => exact ⟨by simp [ih.1], List.forall_mem_cons.2 ⟨hc, ih.2⟩⟩
  | case4 => simp

/-- What is read as a number of a width is a number of this width. -/
lemma takeFixed?_eq_some_iff {width : Nat} (hwidth : 0 < width) {cs rest : List Char} {n : Nat} :
    takeFixed? width cs = some (n, rest) ↔ n < 10 ^ width ∧ cs = padded width n ++ rest := by
  constructor
  · intro h
    obtain ⟨htext, hdigits⟩ := leadingDigits_prefix width cs
    rw [takeFixed?, Option.ite_none_right_eq_some] at h
    obtain ⟨hlength, hparts⟩ := h
    obtain ⟨rfl, rfl⟩ : digitsValue (leadingDigits width cs) = n ∧ cs.drop width = rest := by
      simpa using hparts
    have hrun : IsRun (leadingDigits width cs) :=
      ⟨List.ne_nil_of_length_pos (by rwa [hlength]), hdigits⟩
    have hpadded := padded_digitsValue hrun
    have hlt := digitsValue_lt hdigits
    rw [hlength] at hpadded hlt htext
    exact ⟨hlt, by rw [hpadded, htext]⟩
  · rintro ⟨hlt, rfl⟩
    exact takeFixed?_padded width hwidth hlt rest

/-! ### The other parts -/

/-- A character is taken off just where it stands in front. -/
lemma takeChar?_eq_some_iff {c : Char} {cs rest : List Char} :
    takeChar? c cs = some rest ↔ cs = c :: rest := by
  cases cs with
  | nil => simp [takeChar?]
  | cons d cs => simp [takeChar?, Option.ite_none_right_eq_some]

/-- A divider is a `T` of either case or a blank. -/
lemma takeDivider?_eq_some_iff {cs rest : List Char} :
    takeDivider? cs = some rest ↔
      ∃ divider, (divider = 'T' ∨ divider = 't' ∨ divider = ' ') ∧ cs = divider :: rest := by
  constructor
  · intro h
    unfold takeDivider? at h
    split at h
    · exact ⟨'T', by simp, by simpa using h⟩
    · exact ⟨'t', by simp, by simpa using h⟩
    · exact ⟨' ', by simp, by simpa using h⟩
    · simp at h
  · rintro ⟨divider, rfl | rfl | rfl, rfl⟩ <;> rfl

/-- What is read as a fraction is one. -/
lemma exists_fraction_of_takeFraction? {cs rest : List Char} {millis : Nat}
    (h : takeFraction? cs = some (millis, rest)) :
    ∃ fraction, (∀ c ∈ fraction, c.isDigit = true) ∧ millis = fractionMillis fraction ∧
      cs = fractionText fraction ++ rest := by
  by_cases hpoint : ∃ tail, cs = '.' :: tail
  · obtain ⟨tail, rfl⟩ := hpoint
    rw [takeFraction?_cons, Option.map_eq_some_iff] at h
    obtain ⟨⟨digits, after⟩, hdigits, hparts⟩ := h
    obtain ⟨rfl, rfl⟩ : fractionMillis digits = millis ∧ after = rest := by simpa using hparts
    obtain ⟨rfl, hrun⟩ := of_takeDigits?_eq_some hdigits
    obtain ⟨c, digits, rfl⟩ := List.exists_cons_of_ne_nil hrun.1
    exact ⟨c :: digits, hrun.2, rfl, rfl⟩
  · rw [takeFraction?] at h
    · obtain ⟨rfl, rfl⟩ : 0 = millis ∧ cs = rest := by simpa using h
      exact ⟨[], by simp, rfl, rfl⟩
    · rintro tail rfl
      exact hpoint ⟨tail, rfl⟩

/-- What is read as the minutes of a zone is two numbers with a colon between them. -/
lemma exists_of_zoneMinutes? {cs : List Char} {total : Nat} (h : zoneMinutes? cs = some total) :
    ∃ hours minutes, hours ≤ 23 ∧ minutes ≤ 59 ∧ total = 60 * hours + minutes ∧
      cs = padded 2 hours ++ ':' :: padded 2 minutes := by
  simp only [zoneMinutes?, Option.bind_eq_bind, Option.bind_eq_some_iff, Prod.exists,
    takeFixed?_eq_some_iff (show 0 < 2 by decide), takeChar?_eq_some_iff,
    Option.ite_none_right_eq_some, Bool.and_eq_true, decide_eq_true_eq, List.isEmpty_iff,
    Option.some.injEq] at h
  obtain ⟨hours, _, ⟨_, rfl⟩, _, rfl, minutes, _, ⟨_, rfl⟩, ⟨⟨rfl, hminutes⟩, hhours⟩, rfl⟩ := h
  exact ⟨hours, minutes, hhours, hminutes, rfl, by simp⟩

/-- What is read as a zone is one. -/
lemma spellsZone_of_zone? {cs : List Char} {offset : Int} (h : zone? cs = some offset) :
    SpellsZone offset cs := by
  unfold zone? at h
  split at h
  · obtain rfl : 0 = offset := by simpa using h
    exact .universal (.inl rfl)
  · obtain rfl : 0 = offset := by simpa using h
    exact .universal (.inr rfl)
  · obtain ⟨total, htotal, rfl⟩ := Option.map_eq_some_iff.1 h
    obtain ⟨hours, minutes, hhours, hminutes, rfl, rfl⟩ := exists_of_zoneMinutes? htotal
    push_cast
    exact .ahead hhours hminutes
  · obtain ⟨total, htotal, rfl⟩ := Option.map_eq_some_iff.1 h
    obtain ⟨hours, minutes, hhours, hminutes, rfl, rfl⟩ := exists_of_zoneMinutes? htotal
    push_cast
    exact .behind (.inl rfl) hhours hminutes
  · obtain ⟨total, htotal, rfl⟩ := Option.map_eq_some_iff.1 h
    obtain ⟨hours, minutes, hhours, hminutes, rfl, rfl⟩ := exists_of_zoneMinutes? htotal
    push_cast
    exact .behind (.inr rfl) hhours hminutes
  · simp at h

/-! ### The reader for timestamps with a zone -/

/-- What is read as a timestamp with a zone is one, and it is read as its parts. -/
theorem zoned?_eq_some_iff {cs : List Char} {value : Int} :
    zoned? cs = some value ↔
      ∃ t : Written, cs = t.chars ∧ instant? t.date t.clock t.offset = some value := by
  constructor
  · intro h
    obtain ⟨⟨year, _⟩, hyear, h⟩ := Option.bind_eq_some_iff.1 h
    obtain ⟨_, hyearEnd, h⟩ := Option.bind_eq_some_iff.1 h
    obtain ⟨⟨month, _⟩, hmonth, h⟩ := Option.bind_eq_some_iff.1 h
    obtain ⟨_, hmonthEnd, h⟩ := Option.bind_eq_some_iff.1 h
    obtain ⟨⟨day, _⟩, hday, h⟩ := Option.bind_eq_some_iff.1 h
    obtain ⟨_, hdayEnd, h⟩ := Option.bind_eq_some_iff.1 h
    obtain ⟨⟨hour, _⟩, hhour, h⟩ := Option.bind_eq_some_iff.1 h
    obtain ⟨_, hhourEnd, h⟩ := Option.bind_eq_some_iff.1 h
    obtain ⟨⟨minute, _⟩, hminute, h⟩ := Option.bind_eq_some_iff.1 h
    obtain ⟨_, hminuteEnd, h⟩ := Option.bind_eq_some_iff.1 h
    obtain ⟨⟨second, _⟩, hsecond, h⟩ := Option.bind_eq_some_iff.1 h
    obtain ⟨⟨millis, zone⟩, hmillis, h⟩ := Option.bind_eq_some_iff.1 h
    obtain ⟨offset, hoffset, hvalue⟩ := Option.bind_eq_some_iff.1 h
    obtain ⟨hyearLt, rfl⟩ := (takeFixed?_eq_some_iff (by decide)).1 hyear
    obtain rfl := takeChar?_eq_some_iff.1 hyearEnd
    obtain ⟨hmonthLt, rfl⟩ := (takeFixed?_eq_some_iff (by decide)).1 hmonth
    obtain rfl := takeChar?_eq_some_iff.1 hmonthEnd
    obtain ⟨hdayLt, rfl⟩ := (takeFixed?_eq_some_iff (by decide)).1 hday
    obtain ⟨divider, hdivider, rfl⟩ := takeDivider?_eq_some_iff.1 hdayEnd
    obtain ⟨hhourLt, rfl⟩ := (takeFixed?_eq_some_iff (by decide)).1 hhour
    obtain rfl := takeChar?_eq_some_iff.1 hhourEnd
    obtain ⟨hminuteLt, rfl⟩ := (takeFixed?_eq_some_iff (by decide)).1 hminute
    obtain rfl := takeChar?_eq_some_iff.1 hminuteEnd
    obtain ⟨hsecondLt, rfl⟩ := (takeFixed?_eq_some_iff (by decide)).1 hsecond
    obtain ⟨fraction, hfraction, rfl, rfl⟩ := exists_fraction_of_takeFraction? hmillis
    refine ⟨⟨year, month, day, divider, hour, minute, second, fraction, offset, zone, hyearLt,
      hmonthLt, hdayLt, hdivider, hhourLt, hminuteLt, hsecondLt, hfraction,
      spellsZone_of_zone? hoffset⟩, ?_, hvalue⟩
    rw [Written.chars, Written.bare_append]
  · rintro ⟨t, rfl, hvalue⟩
    rw [t.zoned?_chars, hvalue]

/-! ### Timestamps without their zone -/

/-- The digits of a width are a run. -/
lemma isRun_padded {width n : Nat} (hwidth : 0 < width) (h : n < 10 ^ width) :
    IsRun (padded width n) := by
  obtain ⟨c, digits, _, hcons⟩ := exists_padded_eq_cons hwidth h
  exact ⟨by simp [hcons], fun c hc => isDigit_of_mem_padded hc⟩

/-- A text that ends with digits has a digit for its last character. -/
lemma isDigit_of_getLast?_append {front digits : List Char} (hdigits : IsRun digits) {c : Char}
    (h : (front ++ digits).getLast? = some c) : c.isDigit = true := by
  rw [List.getLast?_append_of_ne_nil front hdigits.1] at h
  exact hdigits.2 c (List.mem_of_getLast? h)

/-- Only universal time is written with a `Z` at its end. -/
lemma SpellsZone.eq_universal {offset : Int} {zone : List Char} (h : SpellsZone offset zone)
    (hlast : zone.getLast? = some 'Z') : offset = 0 ∧ zone = ['Z'] := by
  have hshift : ∀ {sign : Char} {hours minutes : Nat}, minutes ≤ 59 →
      (sign :: (padded 2 hours ++ ':' :: padded 2 minutes)).getLast? ≠ some 'Z' := by
    intro sign hours minutes hminutes hshift
    have hrun : IsRun (padded 2 minutes) := isRun_padded (by decide) (by omega)
    have htext : sign :: (padded 2 hours ++ ':' :: padded 2 minutes) =
        sign :: (padded 2 hours ++ [':']) ++ padded 2 minutes := by simp
    rw [htext] at hshift
    exact absurd (isDigit_of_getLast?_append hrun hshift) (by decide)
  cases h with
  | universal hletter =>
    obtain rfl := Option.some.inj hlast
    exact ⟨rfl, rfl⟩
  | ahead _ hminutes => exact absurd hlast (hshift hminutes)
  | behind _ _ hminutes => exact absurd hlast (hshift hminutes)

namespace Written

variable (t : Written)

/-- Up to its zone, a timestamp ends with digits: those of its fraction, or those of its second. -/
lemma exists_bare_eq_append : ∃ front digits, IsRun digits ∧ t.bare = front ++ digits := by
  have hsecond : IsRun (padded 2 t.second) := isRun_padded (by decide) t.second_lt
  cases hfraction : t.fraction with
  | nil =>
    refine ⟨padded 4 t.year ++ '-' :: (padded 2 t.month ++ '-' :: (padded 2 t.day ++ t.divider ::
      (padded 2 t.hour ++ ':' :: (padded 2 t.minute ++ [':'])))), _, hsecond, ?_⟩
    simp [bare, hfraction, fractionText]
  | cons c digits =>
    have hdigits : IsRun (c :: digits) := ⟨by simp, hfraction ▸ t.fraction_isDigit⟩
    refine ⟨padded 4 t.year ++ '-' :: (padded 2 t.month ++ '-' :: (padded 2 t.day ++ t.divider ::
      (padded 2 t.hour ++ ':' :: (padded 2 t.minute ++ ':' :: (padded 2 t.second ++ ['.']))))), _,
      hdigits, ?_⟩
    simp [bare, hfraction, fractionText]

/-- A timestamp is not empty without its zone. -/
lemma bare_ne_nil : t.bare ≠ [] := by
  obtain ⟨c, rest, _, hbare⟩ := t.exists_bare_eq_cons
  simp [hbare]

/-- Up to its zone, a timestamp does not end with a blank character. -/
lemma isBlank_of_getLast?_bare {c : Char} (h : t.bare.getLast? = some c) : isBlank c = false := by
  obtain ⟨front, digits, hdigits, hbare⟩ := t.exists_bare_eq_append
  rw [hbare] at h
  exact isBlank_of_isDigit (isDigit_of_getLast?_append hdigits h)

/-- The divider comes after the ten characters of the date. -/
lemma getElem?_chars : t.chars[10]? = some t.divider := by
  have hyear : (padded 4 t.year).length = 4 := length_padded (by decide) t.year_lt
  have hmonth : (padded 2 t.month).length = 2 := length_padded (by decide) t.month_lt
  have hday : (padded 2 t.day).length = 2 := length_padded (by decide) t.day_lt
  simp [chars, bare, List.getElem?_append, hyear, hmonth, hday]

/-- Without its zone, a timestamp is not read in the form with one. -/
lemma zoned?_bare : zoned? t.bare = none := by
  have hbare := t.zoned?_append endsRun_nil (by simp)
  rwa [List.append_nil] at hbare

/-- Without its zone, a timestamp is read as its parts in the form without one. -/
lemma zoneless?_bare (hdivider : t.divider = 'T') :
    zoneless? t.bare = instant? t.date t.clock 0 := by
  have hbare := t.zoneless?_append endsRun_nil (by simp)
  rwa [List.append_nil, if_pos ⟨hdivider, rfl⟩] at hbare

end Written

/-- A text without a `t` in front. -/
def withoutMark : List Char → List Char
  | 't' :: rest => rest
  | cs => cs

/-- The quotes come off first, then the blank ends, and at last the mark. -/
lemma undecorated_eq (cs : List Char) :
    undecorated cs = withoutMark (trim (cs.filter fun c => c != '\x27')) := rfl

/-- What comes off in front of a text does not depend on its last character. -/
lemma withoutMark_append {cs : List Char} {c : Char} (hc : c ≠ 't') :
    withoutMark (cs ++ [c]) = withoutMark cs ++ [c] := by
  rcases cs with _ | ⟨first, rest⟩
  · unfold withoutMark
    split <;> simp_all
  · by_cases hfirst : first = 't'
    · subst hfirst
      rfl
    · simp [withoutMark, hfirst]

/-- A text ends as it does without its mark, if anything is left. -/
lemma getLast?_of_withoutMark {cs rest : List Char} (h : withoutMark cs = rest) (hne : rest ≠ []) :
    cs.getLast? = rest.getLast? := by
  subst h
  rcases cs with _ | ⟨first, rest⟩
  · rfl
  · by_cases hfirst : first = 't'
    · subst hfirst
      obtain ⟨second, others, rfl⟩ := List.exists_cons_of_ne_nil (show rest ≠ [] from hne)
      rw [withoutMark, List.getLast?_cons_cons]
    · simp [withoutMark, hfirst]

/-- An end that is not blank is kept, and so only the front is trimmed. -/
lemma trim_append {cs : List Char} {c : Char} (hc : isBlank c = false) :
    trim (cs ++ [c]) = trimStart cs ++ [c] := by
  have hstart : trimStart (cs ++ [c]) = trimStart cs ++ [c] := by
    rw [trimStart, trimStart, List.dropWhile_append]
    split
    · rename_i hempty
      simp [List.isEmpty_iff.1 hempty, hc]
    · rfl
  rw [trim, hstart, trimEnd_eq_self]
  intro last hlast
  obtain rfl : c = last := by simpa using hlast
  exact hc

/-- A zone stays where it is when the decorations come off. -/
lemma undecorated_append_zone (cs : List Char) :
    undecorated (cs ++ ['Z']) =
      withoutMark (trimStart (cs.filter fun c => c != '\x27')) ++ ['Z'] := by
  have hfilter : (cs ++ ['Z']).filter (fun c => c != '\x27') =
      cs.filter (fun c => c != '\x27') ++ ['Z'] := by simp
  rw [undecorated_eq, hfilter, trim_append (by decide), withoutMark_append (by decide)]

/-- What is left of a text when its decorations come off before a zone is also left without the
zone, provided that it does not end with a blank character. -/
lemma undecorated_of_append_zone {cs bare : List Char}
    (h : undecorated (cs ++ ['Z']) = bare ++ ['Z']) (hne : bare ≠ [])
    (hlast : ∀ c, bare.getLast? = some c → isBlank c = false) : undecorated cs = bare := by
  rw [undecorated_append_zone] at h
  have hbare := List.append_cancel_right h
  rw [undecorated_eq, trim, trimEnd_eq_self, hbare]
  rwa [getLast?_of_withoutMark hbare hne]

/-- A text that becomes a timestamp with a zone by a `Z` at its end is a timestamp without a zone
of the same instant, where a capital `T` stands between date and time. -/
theorem millis_eq_of_zoned?_append {text : String} {value : Int}
    (hzoned : zoned? (undecorated (text ++ "Z").toList) = some value)
    (hdivider : (undecorated (text ++ "Z").toList)[10]? = some 'T') :
    zoned? (undecorated text.toList) = none ∧
      zoneless? (undecorated text.toList) = some value ∧
      Temporal.millis text = .ok value ∧ Temporal.millis (text ++ "Z") = .ok value := by
  obtain ⟨t, hchars, hinstant⟩ := zoned?_eq_some_iff.1 hzoned
  have hcapital : t.divider = 'T' := by
    rw [hchars, t.getElem?_chars] at hdivider
    exact Option.some.inj hdivider
  have htext : (text ++ "Z").toList = text.toList ++ ['Z'] := by simp
  have hlast : t.zone.getLast? = some 'Z' := by
    have hend : t.chars.getLast? = some 'Z' := by
      rw [← hchars, htext, undecorated_append_zone, List.getLast?_concat]
    rwa [Written.chars, List.getLast?_append_of_ne_nil _ t.zone_ne_nil] at hend
  obtain ⟨hoffset, hzone⟩ := t.zone_spells.eq_universal hlast
  have hbare : undecorated text.toList = t.bare := by
    refine undecorated_of_append_zone ?_ t.bare_ne_nil fun c => t.isBlank_of_getLast?_bare
    rw [← htext, hchars, Written.chars, hzone]
  have hnone : zoned? (undecorated text.toList) = none := by rw [hbare, t.zoned?_bare]
  have hsome : zoneless? (undecorated text.toList) = some value := by
    rw [hbare, t.zoneless?_bare hcapital, ← hoffset, hinstant]
  refine ⟨hnone, hsome, ?_, ?_⟩
  · rw [Temporal.millis, millis?, plain?, hnone, hsome, Option.none_or]
  · rw [Temporal.millis, millis?, plain?, hzoned, Option.some_or]

/-- The sixty-first second of a minute and a fraction of many digits, with decorations. -/
theorem millis_eq_of_zoned?_append_leapSecond :
    zoneless? "2016-12-31T23:59:60.1239999999999".toList = some 1483228800123 ∧
      Temporal.millis " t'2016-12-31T23:59:60.1239999999999'" = .ok 1483228800123 ∧
      Temporal.millis (" t'2016-12-31T23:59:60.1239999999999'" ++ "Z") = .ok 1483228800123 := by
  have hplain : undecorated " t'2016-12-31T23:59:60.1239999999999'".toList =
      "2016-12-31T23:59:60.1239999999999".toList := by decide +kernel
  have hzoned : zoned? (undecorated (" t'2016-12-31T23:59:60.1239999999999'" ++ "Z").toList) =
      some 1483228800123 := by decide +kernel
  rw [← hplain]
  exact (millis_eq_of_zoned?_append hzoned (by decide +kernel)).2

end Timestamp

end PatternSql
