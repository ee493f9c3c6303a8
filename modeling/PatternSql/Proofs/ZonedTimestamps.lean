import PatternSql.Time.Temporal
import PatternSql.Proofs.DayCount
import PatternSql.Proofs.Json.Numerals
import Mathlib.Data.List.Basic

/-!
# Timestamps with a zone

`Timestamp.Written` is a timestamp in the form with a zone, part by part: numbers with zeros in
front, the dividers between them, an optional fraction of any length, and a zone.  Its text has no
decorations (`undecorated_chars`), it is read in the form with a zone (`zoned?_chars`), and never
in the form without one, since the zone would be left over (`zoneless?_chars`).

So the instant of such a text is the one that its parts name, where the days are those that are
counted one by one (`millis_text_of_counted`).
-/

namespace PatternSql

namespace Timestamp

open Text Json.Numeral

/-! ### Numbers of a fixed width -/

/-- A property of the ten digits is one of every digit. -/
lemma digit_induction {P : Char → Prop} (h : ∀ n < 10, P (Nat.digitChar n)) {c : Char}
    (hc : c.isDigit = true) : P c := by
  obtain ⟨hchar, hlt⟩ := digitChar_digitValue hc
  rw [← hchar]
  exact h _ hlt

/-- A digit is not blank. -/
lemma isBlank_of_isDigit {c : Char} (hc : c.isDigit = true) : isBlank c = false :=
  digit_induction (P := fun c => isBlank c = false) (by decide) hc

/-- A digit is no character but a digit. -/
lemma ne_of_isDigit {c other : Char} (hc : c.isDigit = true) (hother : other.isDigit = false) :
    c ≠ other := by
  rintro rfl
  rw [hc] at hother
  cases hother

/-- The digits of a number, with zeros in front up to a width. -/
def padded (width n : Nat) : List Char :=
  (Nat.toDigits 10 n).leftpad width '0'

/-- The characters of a padded number are digits. -/
lemma isDigit_of_mem_padded {width n : Nat} {c : Char} (h : c ∈ padded width n) :
    c.isDigit = true := by
  rw [padded, List.leftpad, List.mem_append] at h
  rcases h with hzero | hdigit
  · rw [List.eq_of_mem_replicate hzero]
    rfl
  · exact Nat.isDigit_of_mem_toDigits (by decide) (by decide) hdigit

/-- A number that fits a width is padded to it. -/
lemma length_padded {width n : Nat} (hwidth : 0 < width) (h : n < 10 ^ width) :
    (padded width n).length = width := by
  rw [padded, List.length_leftpad]
  exact max_eq_left ((Nat.length_toDigits_le_iff (by decide) hwidth).2 h)

/-- Zeros in front do not change a number. -/
lemma digitsValue_padded (width n : Nat) : digitsValue (padded width n) = n := by
  have hzeros : ∀ k, digitsValue (List.replicate k '0') = 0 := by
    intro k
    induction k with
    | zero => rfl
    | succ k ih => rw [List.replicate_succ', digitsValue_append_singleton, ih]; rfl
  rw [padded, List.leftpad, digitsValue, List.foldl_append, ← digitsValue, hzeros]
  exact digitsValue_toDigits n

/-- A padded number begins with a digit. -/
lemma exists_padded_eq_cons {width n : Nat} (hwidth : 0 < width) (h : n < 10 ^ width) :
    ∃ c digits, c.isDigit = true ∧ padded width n = c :: digits := by
  have hne : padded width n ≠ [] := by
    intro hnil
    have hlength := length_padded hwidth h
    rw [hnil] at hlength
    exact hwidth.ne hlength
  obtain ⟨c, digits, hcons⟩ := List.exists_cons_of_ne_nil hne
  exact ⟨c, digits, isDigit_of_mem_padded (by rw [hcons]; exact List.mem_cons_self), hcons⟩

/-- Digits are read up to their number. -/
lemma leadingDigits_append {digits : List Char} (hdigits : ∀ c ∈ digits, c.isDigit = true)
    (rest : List Char) : leadingDigits digits.length (digits ++ rest) = digits := by
  induction digits with
  | nil => rfl
  | cons c digits ih =>
    obtain ⟨hc, hdigits⟩ := List.forall_mem_cons.1 hdigits
    simp [leadingDigits, hc, ih hdigits]

section Padded

variable (width : Nat) {n : Nat}

/-- The leading digits of a width are those of the number padded to it. -/
lemma leadingDigits_padded (hwidth : 0 < width) (h : n < 10 ^ width) (rest : List Char) :
    leadingDigits width (padded width n ++ rest) = padded width n := by
  have hread : leadingDigits (padded width n).length (padded width n ++ rest) = padded width n :=
    leadingDigits_append (fun c hc => isDigit_of_mem_padded hc) rest
  rwa [length_padded hwidth h] at hread

/-- A number of a width is read as one. -/
lemma takeFixed?_padded (hwidth : 0 < width) (h : n < 10 ^ width) (rest : List Char) :
    takeFixed? width (padded width n ++ rest) = some (n, rest) := by
  have hlength := length_padded hwidth h
  rw [takeFixed?, leadingDigits_padded width hwidth h, if_pos hlength, digitsValue_padded,
    List.drop_left' hlength]

/-- A number of a width is also read as one of at most this width. -/
lemma takeNumber?_padded (hwidth : 0 < width) (h : n < 10 ^ width) (rest : List Char) :
    takeNumber? width (padded width n ++ rest) = some (n, rest) := by
  obtain ⟨c, digits, _, hcons⟩ := exists_padded_eq_cons hwidth h
  have hvalue := digitsValue_padded width n
  rw [takeNumber?, leadingDigits_padded width hwidth h]
  rw [hcons] at hvalue ⊢
  simp [hvalue]

/-- No blank characters stand before a number. -/
lemma trimStart_padded (hwidth : 0 < width) (h : n < 10 ^ width) (rest : List Char) :
    trimStart (padded width n ++ rest) = padded width n ++ rest := by
  obtain ⟨c, digits, hc, hcons⟩ := exists_padded_eq_cons hwidth h
  have hblank := isBlank_of_isDigit hc
  simp [hcons, trimStart, hblank]

end Padded

/-- Reading goes on after a part that was read. -/
lemma bind_eq_of_eq_some {α β : Type} {x : Option α} {a : α} {f : α → Option β} {y : Option β}
    (hx : x = some a) (hf : f a = y) : (x >>= f) = y := by
  rw [hx]
  exact hf

/-! ### Fractions -/

/-- After a point a run of digits is taken. -/
lemma takeFraction?_cons (rest : List Char) :
    takeFraction? ('.' :: rest) =
      (takeDigits? rest).map fun parts => (fractionMillis parts.1, parts.2) := by
  rw [takeFraction?, takeDigits?]
  cases rest.takeWhile Char.isDigit <;> rfl

/-- A fraction is read up to where its digits end. -/
lemma takeFraction?_append {fraction rest : List Char}
    (hfraction : ∀ c ∈ fraction, c.isDigit = true) (hrest : EndsRun rest)
    (hpoint : rest.head? ≠ some '.') :
    takeFraction? (fractionText fraction ++ rest) = some (fractionMillis fraction, rest) := by
  cases fraction with
  | nil =>
    have hzero : fractionMillis [] = 0 := rfl
    rw [fractionText, List.nil_append, takeFraction?, hzero]
    rintro digits rfl
    exact hpoint rfl
  | cons c digits =>
    have hrun : IsRun (c :: digits) := ⟨List.cons_ne_nil c digits, hfraction⟩
    have htext : fractionText (c :: digits) ++ rest = '.' :: (c :: digits ++ rest) := rfl
    rw [htext, takeFraction?_cons, takeDigits?_append hrun hrest]
    rfl

/-- The milliseconds of a fraction are its first three digits, with zeros behind them if there
are fewer. -/
lemma fractionMillis_eq (digits : List Char) :
    fractionMillis digits = digitsValue ((digits.take 3).rightpad 3 '0') := by
  rcases digits with _ | ⟨a, _ | ⟨b, _ | ⟨c, digits⟩⟩⟩ <;> rfl

/-! ### Zones -/

/-- How a zone is written that is some minutes ahead: a letter for universal time, or a sign with
hours and minutes below a day. -/
inductive SpellsZone : Int → List Char → Prop
  | universal {letter : Char} (hletter : letter = 'Z' ∨ letter = 'z') : SpellsZone 0 [letter]
  | ahead {hours minutes : Nat} (hhours : hours ≤ 23) (hminutes : minutes ≤ 59) :
    SpellsZone (60 * hours + minutes) ('+' :: (padded 2 hours ++ ':' :: padded 2 minutes))
  | behind {sign : Char} {hours minutes : Nat} (hsign : sign = '-' ∨ sign = '\u2212')
    (hhours : hours ≤ 23) (hminutes : minutes ≤ 59) :
    SpellsZone (-(60 * hours + minutes)) (sign :: (padded 2 hours ++ ':' :: padded 2 minutes))

/-- A character is taken off where it stands in front. -/
@[simp] lemma takeChar?_cons (c : Char) (rest : List Char) :
    takeChar? c (c :: rest) = some rest := by
  simp [takeChar?]

/-- Hours and minutes with a colon between them are read in minutes. -/
lemma zoneMinutes?_padded {hours minutes : Nat} (hhours : hours ≤ 23) (hminutes : minutes ≤ 59) :
    zoneMinutes? (padded 2 hours ++ ':' :: padded 2 minutes) = some (60 * hours + minutes) := by
  have hlast : takeFixed? 2 (padded 2 minutes) = some (minutes, []) := by
    simpa using takeFixed?_padded 2 (by decide) (show minutes < 10 ^ 2 by omega) []
  rw [zoneMinutes?, takeFixed?_padded 2 (by decide) (show hours < 10 ^ 2 by omega)]
  simp [hlast, hhours, hminutes]

/-- A zone is read as it is written. -/
lemma SpellsZone.zone?_eq {offset : Int} {zone : List Char} (h : SpellsZone offset zone) :
    zone? zone = some offset := by
  cases h with
  | universal hletter => rcases hletter with rfl | rfl <;> rfl
  | ahead hhours hminutes => simp [zone?, zoneMinutes?_padded hhours hminutes]
  | behind hsign hhours hminutes =>
    rcases hsign with rfl | rfl <;> simp [zone?, zoneMinutes?_padded hhours hminutes]

/-- A zone begins with neither a digit nor a point. -/
lemma SpellsZone.exists_head {offset : Int} {zone : List Char} (h : SpellsZone offset zone) :
    ∃ mark rest, (mark.isDigit = false ∧ mark ≠ '.') ∧ zone = mark :: rest := by
  cases h with
  | universal hletter => exact ⟨_, _, by rcases hletter with rfl | rfl <;> decide, rfl⟩
  | ahead _ _ => exact ⟨_, _, by decide, rfl⟩
  | behind hsign _ _ => exact ⟨_, _, by rcases hsign with rfl | rfl <;> decide, rfl⟩

/-- Neither single quotes nor blank characters stand in a zone. -/
lemma SpellsZone.isPlain {offset : Int} {zone : List Char} (h : SpellsZone offset zone) {c : Char}
    (hc : c ∈ zone) : c ≠ '\x27' ∧ isBlank c = false := by
  have hshift : ∀ {hours minutes : Nat}, c ∈ padded 2 hours ++ ':' :: padded 2 minutes →
      c ≠ '\x27' ∧ isBlank c = false := by
    intro hours minutes hmem
    have hcases : c.isDigit = true ∨ c = ':' := by
      simp only [List.mem_append, List.mem_cons] at hmem
      rcases hmem with hdigit | hcolon | hdigit
      · exact .inl (isDigit_of_mem_padded hdigit)
      · exact .inr hcolon
      · exact .inl (isDigit_of_mem_padded hdigit)
    rcases hcases with hdigit | rfl
    · exact ⟨ne_of_isDigit hdigit (by decide), isBlank_of_isDigit hdigit⟩
    · decide
  cases h with
  | universal hletter =>
    obtain rfl := List.mem_singleton.1 hc
    rcases hletter with rfl | rfl <;> decide
  | ahead _ _ =>
    rcases List.mem_cons.1 hc with rfl | hc
    · decide
    · exact hshift hc
  | behind hsign _ _ =>
    rcases List.mem_cons.1 hc with rfl | hc
    · rcases hsign with rfl | rfl <;> decide
    · exact hshift hc

/-! ### Timestamps as they are written -/

/-- A timestamp with a zone, by its parts. -/
structure Written where
  year : Nat
  month : Nat
  day : Nat
  /-- The character between date and time. -/
  divider : Char
  hour : Nat
  minute : Nat
  second : Nat
  /-- The digits after the point, none without a point. -/
  fraction : List Char
  /-- The minutes by which the zone is ahead. -/
  offset : Int
  /-- The text of the zone. -/
  zone : List Char
  year_lt : year < 10000
  month_lt : month < 100
  day_lt : day < 100
  divider_mem : divider = 'T' ∨ divider = 't' ∨ divider = ' '
  hour_lt : hour < 100
  minute_lt : minute < 100
  second_lt : second < 100
  fraction_isDigit : ∀ c ∈ fraction, c.isDigit = true
  zone_spells : SpellsZone offset zone

namespace Written

variable (t : Written)

/-- The date of a timestamp. -/
def date : Date :=
  ⟨t.year, t.month, t.day⟩

/-- The time of day of a timestamp. -/
def clock : Clock :=
  ⟨t.hour, t.minute, t.second, fractionMillis t.fraction⟩

/-- The characters of a timestamp, up to its zone. -/
def bare : List Char :=
  padded 4 t.year ++ '-' :: (padded 2 t.month ++ '-' :: (padded 2 t.day ++ t.divider ::
    (padded 2 t.hour ++ ':' :: (padded 2 t.minute ++ ':' :: (padded 2 t.second ++
      fractionText t.fraction)))))

/-- The characters of a timestamp. -/
def chars : List Char :=
  t.bare ++ t.zone

/-- The text of a timestamp. -/
def text : String :=
  String.ofList t.chars

/-- The parts of a timestamp up to its zone, with what follows them. -/
lemma bare_append (rest : List Char) : t.bare ++ rest =
    padded 4 t.year ++ '-' :: (padded 2 t.month ++ '-' :: (padded 2 t.day ++ t.divider ::
      (padded 2 t.hour ++ ':' :: (padded 2 t.minute ++ ':' :: (padded 2 t.second ++
        (fractionText t.fraction ++ rest)))))) := by
  simp [bare]

/-- The divider of a timestamp is taken off. -/
lemma takeDivider?_cons (rest : List Char) : takeDivider? (t.divider :: rest) = some rest := by
  rcases t.divider_mem with h | h | h <;> rw [h] <;> rfl

/-- Years of four digits are among those that dates may have. -/
lemma isYear_year : isYear t.year = true := by
  have hlt := t.year_lt
  simp only [isYear, Bool.and_eq_true, decide_eq_true_eq]
  omega

/-- A digit comes first. -/
lemma exists_bare_eq_cons : ∃ c rest, c.isDigit = true ∧ t.bare = c :: rest := by
  obtain ⟨c, digits, hc, hcons⟩ := exists_padded_eq_cons (by decide : 0 < 4) t.year_lt
  exact ⟨c, _, hc, by rw [bare, hcons, List.cons_append]⟩

/-- Neither digits nor points stand where the zone begins. -/
lemma endsRun_zone : EndsRun t.zone ∧ t.zone.head? ≠ some '.' := by
  obtain ⟨mark, rest, ⟨hdigit, hpoint⟩, hzone⟩ := t.zone_spells.exists_head
  rw [hzone]
  exact ⟨endsRun_cons hdigit, by simpa using hpoint⟩

/-- The zone of a timestamp is not empty. -/
lemma zone_ne_nil : t.zone ≠ [] := by
  obtain ⟨mark, rest, _, hzone⟩ := t.zone_spells.exists_head
  simp [hzone]

/-- The parts are found again in the form with a zone, and what follows them is read as the zone. -/
lemma zoned?_append {rest : List Char} (hends : EndsRun rest) (hpoint : rest.head? ≠ some '.') :
    zoned? (t.bare ++ rest) = (zone? rest).bind (instant? t.date t.clock) := by
  rw [bare_append]
  refine bind_eq_of_eq_some (takeFixed?_padded 4 (by decide) t.year_lt _) ?_
  refine bind_eq_of_eq_some (takeChar?_cons _ _) ?_
  refine bind_eq_of_eq_some (takeFixed?_padded 2 (by decide) t.month_lt _) ?_
  refine bind_eq_of_eq_some (takeChar?_cons _ _) ?_
  refine bind_eq_of_eq_some (takeFixed?_padded 2 (by decide) t.day_lt _) ?_
  refine bind_eq_of_eq_some (t.takeDivider?_cons _) ?_
  refine bind_eq_of_eq_some (takeFixed?_padded 2 (by decide) t.hour_lt _) ?_
  refine bind_eq_of_eq_some (takeChar?_cons _ _) ?_
  refine bind_eq_of_eq_some (takeFixed?_padded 2 (by decide) t.minute_lt _) ?_
  refine bind_eq_of_eq_some (takeChar?_cons _ _) ?_
  refine bind_eq_of_eq_some (takeFixed?_padded 2 (by decide) t.second_lt _) ?_
  exact bind_eq_of_eq_some (takeFraction?_append t.fraction_isDigit hends hpoint) rfl

/-- With its zone, a timestamp is read as its parts. -/
lemma zoned?_chars : zoned? t.chars = instant? t.date t.clock t.offset := by
  obtain ⟨hends, hpoint⟩ := t.endsRun_zone
  rw [chars, t.zoned?_append hends hpoint, t.zone_spells.zone?_eq, Option.bind_some]

/-- Without a zone, a year of four digits is read as it is with one. -/
lemma takeYear?_padded (rest : List Char) :
    takeYear? (padded 4 t.year ++ rest) = some ((t.year : Int), rest) := by
  obtain ⟨c, digits, hc, hcons⟩ := exists_padded_eq_cons (by decide : 0 < 4) t.year_lt
  have hnumber := takeNumber?_padded 4 (by decide) t.year_lt rest
  rw [takeYear?, trimStart_padded 4 (by decide) t.year_lt]
  rw [hcons] at hnumber ⊢
  split
  · rename_i heq
    exact absurd (List.cons.inj heq).1 (ne_of_isDigit hc (by decide))
  · rename_i heq
    exact absurd (List.cons.inj heq).1 (ne_of_isDigit hc (by decide))
  · rw [hnumber]
    rfl

/-- A number of two digits is taken off. -/
lemma takePair?_padded {n : Nat} (h : n < 100) (rest : List Char) :
    takePair? (padded 2 n ++ rest) = some (n, rest) := by
  rw [takePair?, trimStart_padded 2 (by decide) h, takeNumber?_padded 2 (by decide) h]

/-- In the form without a zone the parts are found too, where a capital `T` stands between date
and time, but nothing may be left over. -/
lemma zoneless?_append {rest : List Char} (hends : EndsRun rest)
    (hpoint : rest.head? ≠ some '.') :
    zoneless? (t.bare ++ rest) =
      if t.divider = 'T' ∧ rest = [] then instant? t.date t.clock 0 else none := by
  rw [bare_append]
  refine bind_eq_of_eq_some (t.takeYear?_padded _) ?_
  refine bind_eq_of_eq_some (takeChar?_cons _ _) ?_
  refine bind_eq_of_eq_some (takePair?_padded t.month_lt _) ?_
  refine bind_eq_of_eq_some (takeChar?_cons _ _) ?_
  refine bind_eq_of_eq_some (takePair?_padded t.day_lt _) ?_
  by_cases hdivider : t.divider = 'T'
  · rw [hdivider]
    refine bind_eq_of_eq_some (takeChar?_cons _ _) ?_
    refine bind_eq_of_eq_some (takePair?_padded t.hour_lt _) ?_
    refine bind_eq_of_eq_some (takeChar?_cons _ _) ?_
    refine bind_eq_of_eq_some (takePair?_padded t.minute_lt _) ?_
    refine bind_eq_of_eq_some (takeChar?_cons _ _) ?_
    refine bind_eq_of_eq_some (takePair?_padded t.second_lt _) ?_
    refine bind_eq_of_eq_some (takeFraction?_append t.fraction_isDigit hends hpoint) ?_
    simp [t.isYear_year, date, clock]
  · have hother : ∀ cs, takeChar? 'T' (t.divider :: cs) = none := fun _ => if_neg hdivider
    rw [if_neg (mt And.left hdivider)]
    exact Option.bind_eq_none_iff.2 fun cs hcs => by simp [hother] at hcs

/-- No timestamp with a zone is read in the form without one. -/
lemma zoneless?_chars : zoneless? t.chars = none := by
  obtain ⟨hends, hpoint⟩ := t.endsRun_zone
  rw [chars, t.zoneless?_append hends hpoint, if_neg (mt And.right t.zone_ne_nil)]

end Written

/-! ### Decorations -/

/-- A text that does not end with a blank character has nothing to drop at its end. -/
lemma trimEnd_eq_self {cs : List Char} (h : ∀ c, cs.getLast? = some c → isBlank c = false) :
    trimEnd cs = cs := by
  cases cs using List.reverseRecOn with
  | nil => rfl
  | append_singleton front c => simp [trimEnd, h c (by simp)]

/-- A text without single quotes, blank ends and a `t` in front has no decorations. -/
lemma undecorated_eq_self {cs : List Char} (hquote : '\x27' ∉ cs)
    (hfirst : ∀ c, cs.head? = some c → isBlank c = false ∧ c ≠ 't')
    (hlast : ∀ c, cs.getLast? = some c → isBlank c = false) : undecorated cs = cs := by
  have hfilter : cs.filter (fun c => c != '\x27') = cs := by
    rw [List.filter_eq_self]
    intro c hc
    rw [bne_iff_ne]
    rintro rfl
    exact hquote hc
  have hstart : trimStart cs = cs := by
    cases cs with
    | nil => rfl
    | cons c rest => simp [trimStart, (hfirst c rfl).1]
  rw [undecorated, hfilter, trim, hstart, trimEnd_eq_self hlast]
  split
  · exact absurd rfl (hfirst 't' rfl).2
  · rfl

namespace Written

variable (t : Written)

/-- No quote stands in a timestamp. -/
lemma quote_notMem_chars : '\x27' ∉ t.chars := by
  have hpadded : ∀ width n, '\x27' ∉ padded width n :=
    fun _ _ hmem => absurd (isDigit_of_mem_padded hmem) (by decide)
  have hfraction : '\x27' ∉ fractionText t.fraction := by
    have hdigits : '\x27' ∉ t.fraction := fun hmem => absurd (t.fraction_isDigit _ hmem) (by decide)
    cases hcases : t.fraction with
    | nil => simp [fractionText]
    | cons c digits => simpa [fractionText, hcases] using hdigits
  have hdivider : '\x27' ≠ t.divider := by
    rcases t.divider_mem with h | h | h <;> rw [h] <;> decide
  have hzone : '\x27' ∉ t.zone := fun hmem => (t.zone_spells.isPlain hmem).1 rfl
  simp [chars, bare, hpadded, hfraction, hdivider, hzone]

/-- A timestamp stands without decorations. -/
lemma undecorated_chars : undecorated t.chars = t.chars := by
  refine undecorated_eq_self t.quote_notMem_chars ?_ ?_
  · obtain ⟨first, rest, hfirst, hbare⟩ := t.exists_bare_eq_cons
    intro c hc
    obtain rfl : first = c := by simpa [chars, hbare] using hc
    exact ⟨isBlank_of_isDigit hfirst, ne_of_isDigit hfirst (by decide)⟩
  · -- the last character is the last one of the zone
    intro c hc
    rw [chars, List.getLast?_append_of_ne_nil _ t.zone_ne_nil] at hc
    exact (t.zone_spells.isPlain (List.mem_of_getLast? hc)).2

/-- The instant of a timestamp is that of its parts. -/
lemma millis?_text : millis? t.text = instant? t.date t.clock t.offset := by
  rw [millis?, text, String.toList_ofList, t.undecorated_chars, plain?, t.zoned?_chars,
    t.zoneless?_chars, Option.or_none]

end Written

/-- A timestamp with a zone names its instant: the days are those that are counted from 1970, one
by one, and of the fraction the first three digits count.  A date that counting does not reach
is a fault. -/
theorem millis_text_of_counted (t : Written) (hhour : t.hour ≤ 23) (hminute : t.minute ≤ 59)
    (hsecond : t.second ≤ 60) :
    (t.date.isValid = true → ∃ days : Int, (∀ n, t.date.Counted n ↔ n = days) ∧
      Temporal.millis t.text = .ok (86400000 * days + 3600000 * t.hour + 60000 * t.minute +
        1000 * t.second + digitsValue ((t.fraction.take 3).rightpad 3 '0') - 60000 * t.offset)) ∧
      (t.date.isValid = false → (∀ n, ¬t.date.Counted n) ∧
        Temporal.millis t.text = .error (.malformedTimestamp t.text)) := by
  have hclock : t.clock.isValid = true := by
    simp [Clock.isValid, Written.clock, hhour, hminute, hsecond]
  constructor
  · intro hdate
    refine ⟨t.date.dayNumber, fun n => by rw [Date.counted_iff, and_iff_right hdate], ?_⟩
    rw [Temporal.millis, t.millis?_text, instant?, if_pos (by simp [hdate, hclock])]
    simp only [epochMillis, Clock.millisOfDay, Written.clock, fractionMillis_eq]
    congr 1
    omega
  · intro hdate
    refine ⟨fun n hcounted => ?_, ?_⟩
    · rw [Date.counted_iff, hdate] at hcounted
      exact absurd hcounted.1 (by decide)
    · rw [Temporal.millis, t.millis?_text, instant?, if_neg (by simp [hdate])]

/-- Shortly after the beginning of a leap day, in a zone where it is still the day before in
universal time. -/
def leapDay (year : Nat) (hyear : year < 10000) : Written where
  year := year
  month := 2
  day := 29
  divider := 'T'
  hour := 0
  minute := 15
  second := 59
  fraction := "0129999999999".toList
  offset := 60 * (23 : Nat) + (59 : Nat)
  zone := '+' :: (padded 2 23 ++ ':' :: padded 2 59)
  year_lt := hyear
  month_lt := by decide
  day_lt := by decide
  divider_mem := .inl rfl
  hour_lt := by decide
  minute_lt := by decide
  second_lt := by decide
  fraction_isDigit := List.all_eq_true.1 (by decide)
  zone_spells := SpellsZone.ahead (by decide) (by decide)

/-- There is a leap day in 1600, and none in 1900. -/
theorem millis_text_of_counted_leapDay :
    Temporal.millis "1600-02-29T00:15:59.0129999999999+23:59" = .ok (-11671083780988) ∧
      Temporal.millis "1900-02-29T00:15:59.0129999999999+23:59" =
        .error (.malformedTimestamp "1900-02-29T00:15:59.0129999999999+23:59") := by
  have htexts : (leapDay 1600 (by decide)).text = "1600-02-29T00:15:59.0129999999999+23:59" ∧
      (leapDay 1900 (by decide)).text = "1900-02-29T00:15:59.0129999999999+23:59" := by
    decide +kernel
  rw [← htexts.1, ← htexts.2]
  constructor
  · obtain ⟨days, hdays, hmillis⟩ :=
      (millis_text_of_counted (leapDay 1600 (by decide)) (by decide) (by decide) (by decide)).1
        (by decide)
    have hcount : (leapDay 1600 (by decide)).date.dayNumber = days :=
      (hdays _).1 (Date.counted_iff.2 ⟨by decide, rfl⟩)
    rw [hmillis, ← hcount]
    decide +kernel
  · exact ((millis_text_of_counted (leapDay 1900 (by decide)) (by decide) (by decide)
      (by decide)).2 (by decide)).2

end Timestamp

end PatternSql
