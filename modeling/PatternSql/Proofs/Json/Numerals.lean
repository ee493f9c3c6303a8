import PatternSql.Json.Printer
import PatternSql.Json.Token
import Mathlib.Data.List.Induction
import Mathlib.Tactic.ByContra
import Mathlib.Tactic.Lemma

/-!
# The grammar of numerals

`Numeral.Spells` says how a numeral is written, part by part: an optional minus sign, digits
without superfluous zeros, an optional point with digits, and an optional exponent.  Reading
accepts exactly the texts of this grammar (`Numeral.read?_eq_some_iff`), and it finds the
parts again.

The text of an integer is such a numeral, and it denotes the integer, as long as that fits 64
bits (`exists_spells_intChars`).
-/

namespace PatternSql

namespace Json

namespace Numeral

/-! ### Runs of digits -/

/-- A run of digits: at least one, and nothing else. -/
def IsRun (digits : List Char) : Prop :=
  digits ≠ [] ∧ ∀ c ∈ digits, c.isDigit = true

/-- Whether a run of digits ends where a text goes on. -/
def EndsRun (rest : List Char) : Prop :=
  ∀ c, rest.head? = some c → c.isDigit = false

/-- A run of digits ends where the text does. -/
lemma endsRun_nil : EndsRun [] := by
  intro c hc
  simp at hc

/-- A run of digits ends in front of a character that is none. -/
lemma endsRun_cons {c : Char} {rest : List Char} (h : c.isDigit = false) : EndsRun (c :: rest) := by
  intro d hd
  obtain rfl : c = d := by simpa using hd
  exact h

/-- A run that ends where the text goes on is taken as a whole. -/
lemma takeDigits?_append {digits rest : List Char} (hdigits : IsRun digits)
    (hrest : EndsRun rest) : takeDigits? (digits ++ rest) = some (digits, rest) := by
  have hnone : rest.takeWhile Char.isDigit = [] ∧ rest.dropWhile Char.isDigit = rest := by
    cases rest with
    | nil => simp
    | cons c rest => simp [hrest c rfl]
  unfold takeDigits?
  rw [List.takeWhile_append_of_pos hdigits.2, List.dropWhile_append_of_pos hdigits.2, hnone.1,
    hnone.2, List.append_nil]
  obtain ⟨c, digits, rfl⟩ := List.exists_cons_of_ne_nil hdigits.1
  rfl

/-- What is taken is a run. -/
lemma of_takeDigits?_eq_some {cs digits rest : List Char}
    (h : takeDigits? cs = some (digits, rest)) : cs = digits ++ rest ∧ IsRun digits := by
  unfold takeDigits? at h
  split at h
  · simp at h
  · rename_i hrun
    obtain ⟨rfl, rfl⟩ : cs.takeWhile Char.isDigit = digits ∧ cs.dropWhile Char.isDigit = rest := by
      simpa using h
    refine ⟨List.takeWhile_append_dropWhile.symm, hrun, ?_⟩
    intro c hc
    exact List.all_eq_true.1 List.all_takeWhile c hc

/-! ### The parts of a numeral -/

/-- How a minus sign is written, where there is one. -/
def minusText (negative : Bool) : List Char :=
  if negative then ['-'] else []

/-- How the digits after the point are written: not at all when there are none. -/
def fractionText : List Char → List Char
  | [] => []
  | digits => '.' :: digits

/-- How the sign of an exponent is written. -/
inductive SpellsSign : Bool → List Char → Prop
  | minus : SpellsSign true ['-']
  | plus : SpellsSign false ['+']
  | nothing : SpellsSign false []

/-- How an exponent is written. -/
inductive SpellsExponent : Option (Bool × List Char) → List Char → Prop
  | absent : SpellsExponent none []
  | present {mark : Char} {negative : Bool} {sign digits : List Char}
    (hmark : mark = 'e' ∨ mark = 'E') (hsign : SpellsSign negative sign)
    (hdigits : IsRun digits) : SpellsExponent (some (negative, digits)) (mark :: (sign ++ digits))

/-- How a numeral is written. -/
structure Spells (n : Numeral) (cs : List Char) : Prop where
  /-- There are digits before the point. -/
  whole : IsRun n.whole
  /-- A zero before the point stands alone. -/
  zero : n.whole.head? = some '0' → n.whole = ['0']
  /-- Only digits stand after the point. -/
  fraction : ∀ c ∈ n.fraction, c.isDigit = true
  /-- The parts follow each other. -/
  text : ∃ power, SpellsExponent n.exponent power ∧
    cs = minusText n.negative ++ (n.whole ++ (fractionText n.fraction ++ power))

/-- A run of digits ends in front of an exponent. -/
lemma SpellsExponent.endsRun {exponent : Option (Bool × List Char)} {cs : List Char}
    (h : SpellsExponent exponent cs) : EndsRun cs := by
  cases h with
  | absent => exact endsRun_nil
  | present hmark _ _ => rcases hmark with rfl | rfl <;> exact endsRun_cons (by decide)

/-- The digits before the point end where the rest of a numeral begins. -/
lemma endsRun_fractionText {exponent : Option (Bool × List Char)} {power : List Char}
    (h : SpellsExponent exponent power) (fraction : List Char) :
    EndsRun (fractionText fraction ++ power) := by
  cases fraction with
  | nil => exact h.endsRun
  | cons c fraction => exact endsRun_cons (by decide)

/-- Digits occur in numerals. -/
lemma isNumeralChar_of_isDigit {c : Char} (h : c.isDigit = true) :
    Lexer.isNumeralChar c = true := by
  simp [Lexer.isNumeralChar, h]

/-- The characters of an exponent occur in numerals. -/
lemma SpellsExponent.isNumeralChar {exponent : Option (Bool × List Char)} {cs : List Char}
    (h : SpellsExponent exponent cs) : ∀ c ∈ cs, Lexer.isNumeralChar c = true := by
  cases h with
  | absent => simp
  | present hmark hsign hdigits =>
    rw [List.forall_mem_cons, List.forall_mem_append]
    refine ⟨?_, ?_, fun c hc => isNumeralChar_of_isDigit (hdigits.2 c hc)⟩
    · rcases hmark with rfl | rfl <;> rfl
    · cases hsign <;> simp [Lexer.isNumeralChar]

/-- The point and the digits of a fraction occur in numerals. -/
lemma isNumeralChar_fractionText {fraction : List Char}
    (h : ∀ c ∈ fraction, c.isDigit = true) :
    ∀ c ∈ fractionText fraction, Lexer.isNumeralChar c = true := by
  cases fraction with
  | nil => simp [fractionText]
  | cons d digits =>
    rw [fractionText, List.forall_mem_cons]
    · exact ⟨rfl, fun c hc => isNumeralChar_of_isDigit (h c hc)⟩
    · simp

/-- Only characters of numerals stand in a numeral. -/
lemma Spells.isNumeralChar {n : Numeral} {cs : List Char} (h : n.Spells cs) :
    ∀ c ∈ cs, Lexer.isNumeralChar c = true := by
  obtain ⟨power, hpower, rfl⟩ := h.text
  simp only [List.forall_mem_append]
  refine ⟨?_, fun c hc => isNumeralChar_of_isDigit (h.whole.2 c hc),
    isNumeralChar_fractionText h.fraction, hpower.isNumeralChar⟩
  cases n.negative <;> simp [minusText, Lexer.isNumeralChar]

/-- A numeral begins with a digit or a minus sign. -/
lemma Spells.exists_head {n : Numeral} {cs : List Char} (h : n.Spells cs) :
    ∃ c rest, cs = c :: rest ∧ (c.isDigit = true ∨ c = '-') := by
  obtain ⟨power, _, rfl⟩ := h.text
  obtain ⟨c, digits, hwhole⟩ := List.exists_cons_of_ne_nil h.whole.1
  have hc := h.whole.2 c (by simp [hwhole])
  rw [hwhole]
  cases n.negative with
  | true => exact ⟨'-', _, rfl, .inr rfl⟩
  | false => exact ⟨c, _, rfl, .inl hc⟩

/-! ### Reading finds the parts -/

/-- A run of digits does not begin with a sign. -/
lemma IsRun.takeSign_eq {digits : List Char} (h : IsRun digits) :
    takeSign digits = (false, digits) := by
  obtain ⟨c, rest, rfl⟩ := List.exists_cons_of_ne_nil h.1
  have hc := h.2 c List.mem_cons_self
  unfold takeSign
  split
  · rename_i heq
    obtain ⟨rfl, _⟩ := List.cons.inj heq
    simp at hc
  · rename_i heq
    obtain ⟨rfl, _⟩ := List.cons.inj heq
    simp at hc
  · rfl

/-- The sign of an exponent is taken off its digits. -/
lemma SpellsSign.takeSign_eq {negative : Bool} {sign digits : List Char}
    (h : SpellsSign negative sign) (hdigits : IsRun digits) :
    takeSign (sign ++ digits) = (negative, digits) := by
  cases h with
  | minus => rfl
  | plus => rfl
  | nothing => exact hdigits.takeSign_eq

/-- A sign and digits are read as a power. -/
lemma readPower?_eq_some {negative : Bool} {sign digits : List Char}
    (hsign : SpellsSign negative sign) (hdigits : IsRun digits) :
    readPower? (sign ++ digits) = some (some (negative, digits)) := by
  have htake := takeDigits?_append hdigits endsRun_nil
  rw [List.append_nil] at htake
  simp only [readPower?, hsign.takeSign_eq hdigits, htake, Option.bind_some, List.isEmpty_nil,
    if_true]

/-- An exponent is read from what it is written as. -/
lemma SpellsExponent.readExponent?_eq {exponent : Option (Bool × List Char)} {cs : List Char}
    (h : SpellsExponent exponent cs) : readExponent? cs = some exponent := by
  cases h with
  | absent => rfl
  | present hmark hsign hdigits =>
    rcases hmark with rfl | rfl
    · exact readPower?_eq_some hsign hdigits
    · exact readPower?_eq_some hsign hdigits

/-- A fraction is read up to the exponent. -/
lemma takeFraction?_append {fraction power : List Char} {exponent : Option (Bool × List Char)}
    (hfraction : ∀ c ∈ fraction, c.isDigit = true) (hpower : SpellsExponent exponent power) :
    takeFraction? (fractionText fraction ++ power) = some (fraction, power) := by
  cases fraction with
  | nil =>
    cases hpower with
    | absent => rfl
    | present hmark _ _ => rcases hmark with rfl | rfl <;> rfl
  | cons c fraction =>
    have hrun : IsRun (c :: fraction) := ⟨List.cons_ne_nil _ _, hfraction⟩
    exact takeDigits?_append hrun hpower.endsRun

/-- A whole part, zero or without a zero in front, is read up to where its digits end. -/
lemma takeWhole?_append {whole rest : List Char} (hwhole : IsRun whole)
    (hzero : whole.head? = some '0' → whole = ['0']) (hrest : EndsRun rest) :
    takeWhole? (whole ++ rest) = some (whole, rest) := by
  obtain ⟨c, digits, rfl⟩ := List.exists_cons_of_ne_nil hwhole.1
  by_cases hc : c = '0'
  · subst hc
    rw [hzero rfl]
    rfl
  · have htake := takeDigits?_append hwhole hrest
    unfold takeWhole?
    split
    · rename_i heq
      exact absurd (List.cons.inj heq).1 hc
    · exact htake

/-- The minus is taken off the whole part. -/
lemma IsRun.takeMinus_eq {whole rest : List Char} (h : IsRun whole) (negative : Bool) :
    takeMinus (minusText negative ++ (whole ++ rest)) = (negative, whole ++ rest) := by
  cases negative with
  | true => rfl
  | false =>
    obtain ⟨c, digits, rfl⟩ := List.exists_cons_of_ne_nil h.1
    have hc := h.2 c List.mem_cons_self
    unfold takeMinus
    split
    · rename_i heq
      obtain ⟨rfl, _⟩ := List.cons.inj heq
      simp at hc
    · rfl

/-- A numeral is read from what it is written as. -/
theorem Spells.read?_eq {n : Numeral} {cs : List Char} (h : n.Spells cs) : read? cs = some n := by
  obtain ⟨power, hpower, rfl⟩ := h.text
  have hwhole := takeWhole?_append h.whole h.zero (endsRun_fractionText hpower n.fraction)
  have hfraction := takeFraction?_append h.fraction hpower
  simp only [read?, h.whole.takeMinus_eq, hwhole, hfraction, hpower.readExponent?_eq, bind,
    Option.bind_some, pure]

/-! ### What is read is written so -/

/-- What is taken off as a sign spells it. -/
lemma spellsSign_of_takeSign (cs : List Char) :
    ∃ sign, SpellsSign (takeSign cs).1 sign ∧ cs = sign ++ (takeSign cs).2 := by
  unfold takeSign
  split
  · exact ⟨['-'], .minus, rfl⟩
  · exact ⟨['+'], .plus, rfl⟩
  · exact ⟨[], .nothing, rfl⟩

/-- What is read as a power is a sign and digits. -/
lemma exists_of_readPower?_eq_some {cs : List Char} {exponent : Option (Bool × List Char)}
    (h : readPower? cs = some exponent) :
    ∃ negative sign digits, SpellsSign negative sign ∧ IsRun digits ∧
      exponent = some (negative, digits) ∧ cs = sign ++ digits := by
  obtain ⟨sign, hsign, hcs⟩ := spellsSign_of_takeSign cs
  obtain ⟨⟨digits, rest⟩, htake, hpower⟩ := Option.bind_eq_some_iff.1 h
  obtain ⟨hdigits, hrun⟩ := of_takeDigits?_eq_some htake
  split at hpower
  · rename_i hrest
    obtain rfl : rest = [] := by simpa using hrest
    refine ⟨_, sign, digits, hsign, hrun, (Option.some.inj hpower).symm, ?_⟩
    rw [hcs, hdigits, List.append_nil]
  · simp at hpower

/-- What is read as an exponent spells it. -/
lemma spellsExponent_of_readExponent?_eq_some {cs : List Char}
    {exponent : Option (Bool × List Char)} (h : readExponent? cs = some exponent) :
    SpellsExponent exponent cs := by
  unfold readExponent? at h
  split at h
  · rw [← Option.some.inj h]
    exact .absent
  · obtain ⟨negative, sign, digits, hsign, hrun, rfl, rfl⟩ := exists_of_readPower?_eq_some h
    exact .present (.inl rfl) hsign hrun
  · obtain ⟨negative, sign, digits, hsign, hrun, rfl, rfl⟩ := exists_of_readPower?_eq_some h
    exact .present (.inr rfl) hsign hrun
  · simp at h

/-- What is taken off as a fraction is its text, and the fraction has digits only. -/
lemma of_takeFraction?_eq_some {cs fraction rest : List Char}
    (h : takeFraction? cs = some (fraction, rest)) :
    cs = fractionText fraction ++ rest ∧ ∀ c ∈ fraction, c.isDigit = true := by
  unfold takeFraction? at h
  split at h
  · obtain ⟨rfl, hrun⟩ := of_takeDigits?_eq_some h
    obtain ⟨c, digits, rfl⟩ := List.exists_cons_of_ne_nil hrun.1
    exact ⟨rfl, hrun.2⟩
  · obtain ⟨rfl, rfl⟩ : [] = fraction ∧ cs = rest := by simpa using h
    exact ⟨rfl, by simp⟩

/-- What is taken off as a whole part is a run of digits, zero or without a zero in front. -/
lemma of_takeWhole?_eq_some {cs whole rest : List Char}
    (h : takeWhole? cs = some (whole, rest)) :
    cs = whole ++ rest ∧ IsRun whole ∧ (whole.head? = some '0' → whole = ['0']) := by
  unfold takeWhole? at h
  split at h
  · obtain ⟨rfl, rfl⟩ : ['0'] = whole ∧ _ = rest := by simpa using h
    exact ⟨rfl, ⟨by simp, by simp⟩, fun _ => rfl⟩
  · rename_i hzero
    obtain ⟨rfl, hrun⟩ := of_takeDigits?_eq_some h
    refine ⟨rfl, hrun, ?_⟩
    intro hhead
    obtain ⟨digits, rfl⟩ := List.head?_eq_some_iff.1 hhead
    exact absurd rfl (hzero _)

/-- What is taken off as a minus is its text. -/
lemma eq_minusText_append (cs : List Char) :
    cs = minusText (takeMinus cs).1 ++ (takeMinus cs).2 := by
  unfold takeMinus
  split <;> rfl

/-- A numeral that is read is written as it was. -/
theorem spells_of_read?_eq_some {cs : List Char} {n : Numeral} (h : read? cs = some n) :
    n.Spells cs := by
  simp only [read?, bind, pure, Option.bind_eq_some_iff, Option.some.injEq, Prod.exists] at h
  obtain ⟨whole, rest, hwhole, fraction, power, hfraction, exponent, hexponent, rfl⟩ := h
  obtain ⟨hrest, hrun, hzero⟩ := of_takeWhole?_eq_some hwhole
  obtain ⟨hpower, hdigits⟩ := of_takeFraction?_eq_some hfraction
  have hspells := spellsExponent_of_readExponent?_eq_some hexponent
  refine ⟨hrun, hzero, hdigits, power, hspells, ?_⟩
  rw [← hpower, ← hrest]
  exact eq_minusText_append cs

/-- Reading accepts exactly the numerals that are written by the grammar. -/
theorem read?_eq_some_iff {cs : List Char} {n : Numeral} : read? cs = some n ↔ n.Spells cs :=
  ⟨spells_of_read?_eq_some, Spells.read?_eq⟩

/-! ### Integers -/

/-- The digits of a number denote the number. -/
lemma digitsValue_toDigits (n : Nat) : Text.digitsValue (Nat.toDigits 10 n) = n :=
  Nat.ofDigitChars_ten_toDigits

/-- The digits of a number do not begin with a superfluous zero. -/
lemma toDigits_eq_of_head? {n : Nat} (h : (Nat.toDigits 10 n).head? = some '0') :
    Nat.toDigits 10 n = ['0'] := by
  induction n using Nat.strongRecOn with
  | ind n ih =>
    by_cases hn : n < 10
    · rw [Nat.toDigits_of_lt_base hn] at h ⊢
      rw [List.head?_cons, Option.some.injEq] at h
      rw [h]
    · -- beyond one digit the first one is that of the tenth part, which is not zero
      have hhead : (Nat.toDigits 10 (n / 10)).head? = some '0' := by
        rw [Nat.toDigits_of_base_le (by decide) (by omega)] at h
        obtain ⟨c, rest, hdigits⟩ := List.exists_cons_of_ne_nil (Nat.toDigits_ne_nil)
        rw [hdigits] at h ⊢
        exact h
      have htenth := ih (n / 10) (by omega) hhead
      have hvalue := digitsValue_toDigits (n / 10)
      rw [htenth] at hvalue
      have hzero : n / 10 = 0 := hvalue.symm
      omega

/-- A digit is written by its value. -/
lemma digitChar_digitValue {c : Char} (h : c.isDigit = true) :
    Nat.digitChar (Text.digitValue c) = c ∧ Text.digitValue c < 10 := by
  have hrange : 48 ≤ c.toNat ∧ c.toNat ≤ 57 := by
    simpa [Char.isDigit, UInt32.le_iff_toNat_le] using h
  have hdigits : ∀ n < 10, Nat.digitChar n = Char.ofNat (48 + n) := by decide
  have hlt : Text.digitValue c < 10 := by
    unfold Text.digitValue
    omega
  refine ⟨?_, hlt⟩
  rw [hdigits _ hlt, Text.digitValue, Nat.add_sub_cancel' hrange.1, Char.ofNat_toNat]

/-- Digits without a superfluous zero are those of the number that they denote. -/
lemma toDigits_digitsValue {digits : List Char} (hrun : IsRun digits)
    (hzero : digits.head? = some '0' → digits = ['0']) :
    Nat.toDigits 10 (Text.digitsValue digits) = digits := by
  induction digits using List.reverseRecOn with
  | nil => exact absurd rfl hrun.1
  | append_singleton front c ih =>
    obtain ⟨hchar, hlt⟩ := digitChar_digitValue (hrun.2 c (by simp))
    rw [Text.digitsValue_append_singleton]
    by_cases hfront : front = []
    · subst hfront
      rw [Text.digitsValue_nil, Nat.mul_zero, Nat.zero_add, Nat.toDigits_of_lt_base hlt, hchar,
        List.nil_append]
    · -- the digits in front have no superfluous zero, so they are not zero
      have hhead : front.head? ≠ some '0' := by
        intro hhead
        obtain ⟨rest, rfl⟩ := List.head?_eq_some_iff.1 hhead
        have hsingle := hzero rfl
        simp at hsingle
      have hdigits := ih ⟨hfront, fun d hd => hrun.2 d (by simp [hd])⟩ fun h => absurd h hhead
      have hpos : Text.digitsValue front ≠ 0 := by
        intro hvalue
        rw [hvalue, Nat.toDigits_zero] at hdigits
        rw [← hdigits] at hhead
        exact hhead rfl
      have hfrontValue : (10 * Text.digitsValue front + Text.digitValue c) / 10 =
          Text.digitsValue front := by omega
      have hlastValue : (10 * Text.digitsValue front + Text.digitValue c) % 10 =
          Text.digitValue c := by omega
      rw [Nat.toDigits_of_base_le (by decide) (by omega), hfrontValue, hlastValue, hdigits, hchar]

/-- Whether an integer can be read as such: within 64 bits, with a sign or without. -/
def IsWord (value : Int) : Prop :=
  -(Nat.pow 2 63 : Int) ≤ value ∧ value < wordLimit

/-- The numeral of an integer. -/
def ofInt (value : Int) : Numeral where
  negative := value < 0
  whole := Nat.toDigits 10 value.natAbs
  fraction := []
  exponent := none

/-- The text of an integer is written like its numeral. -/
lemma spells_ofInt (value : Int) : (ofInt value).Spells (Text.intChars value) where
  whole := ⟨Nat.toDigits_ne_nil, fun _ hc => Nat.isDigit_of_mem_toDigits (by decide) (by decide) hc⟩
  zero := toDigits_eq_of_head?
  fraction := by simp [ofInt]
  text := ⟨[], .absent, by simp [ofInt, fractionText, minusText, Text.intChars]⟩

/-- The numeral of an integer within 64 bits denotes the integer. -/
lemma value?_ofInt {value : Int} (h : IsWord value) : (ofInt value).value? = some (.int value) := by
  have hint : (ofInt value).int? = some value := by
    unfold int? ofInt
    simp only [List.isEmpty_nil, Option.isNone_none, Bool.and_self, if_true, digitsValue_toDigits,
      decide_eq_true_eq]
    unfold IsWord at h
    split
    · rw [if_pos]
      · simp only [Option.some.injEq]
        omega
      · simp only [Bool.and_eq_true, decide_eq_true_eq]
        omega
    · rw [if_pos]
      · simp only [Option.some.injEq]
        omega
      · omega
  simp [value?, hint]

/-- A numeral that denotes an integer is the integer's text, and the integer is within 64 bits. -/
lemma eq_intChars_of_int? {n : Numeral} {cs : List Char} {value : Int} (hspells : n.Spells cs)
    (h : n.int? = some value) : cs = Text.intChars value ∧ IsWord value := by
  have hdigits := toDigits_digitsValue hspells.whole hspells.zero
  obtain ⟨power, hpower, rfl⟩ := hspells.text
  unfold int? at h
  split at h
  · rename_i hplain
    simp only [Bool.and_eq_true, List.isEmpty_iff, Option.isNone_iff_eq_none] at hplain
    rw [hplain.2] at hpower
    cases hpower
    have hpow : Nat.pow 2 63 = 2 ^ 63 ∧ wordLimit = 2 ^ 64 := ⟨rfl, rfl⟩
    rw [hplain.1, fractionText, List.append_nil, List.append_nil]
    unfold Text.intChars IsWord
    cases hnegative : n.negative with
    | true =>
      simp only [hnegative, if_true] at h
      split at h
      · rename_i hrange
        simp only [Bool.and_eq_true, decide_eq_true_eq] at hrange
        obtain rfl := Option.some.inj h
        rw [if_pos (by omega), Int.natAbs_neg, Int.natAbs_natCast, hdigits]
        exact ⟨rfl, by omega, by omega⟩
      · simp at h
    | false =>
      simp only [hnegative, Bool.false_eq_true, if_false] at h
      split at h
      · rename_i hrange
        obtain rfl := Option.some.inj h
        rw [if_neg (by omega), Int.natAbs_natCast, hdigits]
        exact ⟨rfl, by omega, by omega⟩
      · simp at h
  · simp at h

end Numeral

/-! ### Numbers -/

/-- How a number is written: an integer within 64 bits by its digits, and a double by any numeral
that denotes it. -/
inductive SpellsNumber : Number → List Char → Prop
  | int {value : Int} (h : Numeral.IsWord value) : SpellsNumber (.int value) (Text.intChars value)
  | double {numeral : Numeral} {x : Double} {cs : List Char} (htext : numeral.Spells cs)
    (hvalue : numeral.value? = some (.double x)) : SpellsNumber (.double x) cs

/-- A text is that of a number exactly when it is read as a numeral that denotes the number. -/
theorem spellsNumber_iff {number : Number} {cs : List Char} :
    SpellsNumber number cs ↔
      ∃ numeral, Numeral.read? cs = some numeral ∧ numeral.value? = some number := by
  constructor
  · intro h
    cases h with
    | int h => exact ⟨_, (Numeral.spells_ofInt _).read?_eq, Numeral.value?_ofInt h⟩
    | double htext hvalue => exact ⟨_, htext.read?_eq, hvalue⟩
  · rintro ⟨numeral, hread, hvalue⟩
    have hspells := Numeral.spells_of_read?_eq_some hread
    cases hint : numeral.int? with
    | some value =>
      obtain ⟨rfl, hword⟩ := Numeral.eq_intChars_of_int? hspells hint
      obtain rfl : Number.int value = number := by simpa [Numeral.value?, hint] using hvalue
      exact .int hword
    | none =>
      simp only [Numeral.value?, hint, Option.map_eq_some_iff] at hvalue
      obtain ⟨size, hsize, rfl⟩ := hvalue
      refine .double hspells ?_
      simp [Numeral.value?, hint, hsize]

end Json

end PatternSql
