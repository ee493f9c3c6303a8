import PatternSql.Predicate.Operand
import PatternSql.Proofs.Formula
import Mathlib.Data.List.Basic

/-!
# The tokens of a text

When a text determines the tokens that it is made up of.

An atom is delimited when its own text shows where it ends: the column of a test is a name,
its operand stands between quotes that do not occur inside, and all time ranges are of one
column.  Operands and connectives take turns, so that at each place it is known which of
them comes next, and the first characters tell which one it is.  Only an opening
parenthesis can begin two tokens, a group and a time range.  The greater-than sign of a time
range tells these apart: it stands at the same place in every range, and in a group no
range can begin as early as the group does.

`Clause.tokens_eq_of_text_eq` draws the conclusion for clauses: delimited clauses with the
same text have the same tokens.
-/

namespace PatternSql

/-! ### Texts that end where a separator stands -/

namespace Text

/-- A text without blanks, opening parentheses and greater-than signs. -/
def IsName (text : String) : Prop :=
  ' ' ∉ text.toList ∧ '(' ∉ text.toList ∧ '>' ∉ text.toList

/-- Whether a text is a name can be decided. -/
instance (text : String) : Decidable (IsName text) :=
  inferInstanceAs (Decidable (' ' ∉ text.toList ∧ '(' ∉ text.toList ∧ '>' ∉ text.toList))

/-- A name with a blank behind it begins with no parenthesis. -/
lemma IsName.append_blank_ne {text : String} (h : IsName text) (rest rest' : List Char) :
    text.toList ++ ' ' :: rest ≠ '(' :: rest' := by
  intro heq
  cases hchars : text.toList with
  | nil => simp [hchars] at heq
  | cons c cs =>
    rw [hchars, List.cons_append, List.cons.injEq] at heq
    exact h.2.1 (by simp [hchars, heq.1])

/-- Two ways to cut characters at the first place of a separator are the same. -/
lemma append_cons_inj {separator : Char} {before before' after after' : List Char}
    (h : separator ∉ before) (h' : separator ∉ before')
    (heq : before ++ separator :: after = before' ++ separator :: after') :
    before = before' ∧ after = after' := by
  have hcut := cutFirst?_eq_some_iff.2 ⟨heq, h'⟩
  rw [cutFirst?_eq_some_iff.2 ⟨rfl, h⟩, Option.some.injEq, Prod.mk.injEq] at hcut
  exact hcut

/-- The digits of a number determine the number. -/
lemma toDigits_inj {n m : Nat} (h : Nat.toDigits 10 n = Nat.toDigits 10 m) : n = m := by
  rw [← Nat.ofDigitChars_ten_toDigits (n := n), h, Nat.ofDigitChars_ten_toDigits]

/-- No digit is a minus sign. -/
lemma minus_notMem_toDigits (n : Nat) : '-' ∉ Nat.toDigits 10 n := by
  intro h
  have hdigit := Nat.isDigit_of_mem_toDigits (by decide) (by decide) h
  simp at hdigit

/-- The text of an integer determines the integer. -/
lemma intChars_inj {value other : Int} (h : intChars value = intChars other) :
    value = other := by
  unfold intChars at h
  by_cases hvalue : value < 0
  · by_cases hother : other < 0
    · have habs : value.natAbs = other.natAbs := toDigits_inj (by simpa [hvalue, hother] using h)
      omega
    · have hminus : '-' ∈ Nat.toDigits 10 other.natAbs := by
        simp only [hvalue, hother, if_true, if_false, List.nil_append] at h
        rw [← h]
        simp
      exact absurd hminus (minus_notMem_toDigits _)
  · by_cases hother : other < 0
    · have hminus : '-' ∈ Nat.toDigits 10 value.natAbs := by
        simp only [hvalue, hother, if_true, if_false, List.nil_append] at h
        rw [h]
        simp
      exact absurd hminus (minus_notMem_toDigits _)
    · have habs : value.natAbs = other.natAbs := toDigits_inj (by simpa [hvalue, hother] using h)
      omega

/-- No blank and no parenthesis stands in the text of an integer. -/
lemma notMem_intChars {c : Char} (hminus : c ≠ '-') (hdigit : c.isDigit = false) (value : Int) :
    c ∉ intChars value := by
  intro h
  rcases eq_or_isDigit_of_mem_intChars h with rfl | h
  · exact hminus rfl
  · simp [hdigit] at h

end Text

open Text

/-! ### Atoms -/

namespace Atom

/-- Whether the text of an atom shows where it ends, among time ranges of one column: the column of
a test is a name, and its operand is quoted, without a quote and a greater-than sign inside. -/
def IsDelimited (timeColumn : String) : Atom → Prop
  | .test column word operand =>
    IsName column ∧ word = "=" ∧
      ∃ value, operand = Operand.quoted value ∧ '\x27' ∉ value.toList ∧ '>' ∉ value.toList
  | .within column _ => column = timeColumn

/-- The characters of a quoted test, and what follows them. -/
lemma toList_text_test (column value : String) (rest : List Char) :
    (test column "=" (Operand.quoted value)).clause.text.toList ++ rest =
      column.toList ++ ' ' :: '=' :: ' ' :: '\x27' :: (value.toList ++ '\x27' :: rest) := by
  simp [clause, Clause.text, Operand.quoted]

/-- The characters of a time range, and what follows them. -/
lemma toList_text_within (column : String) (range : TimeRange) (rest : List Char) :
    (within column range).clause.text.toList ++ rest =
      '(' :: (column.toList ++ ' ' :: '>' :: '=' :: ' ' :: (intChars range.start ++
        ' ' :: 'A' :: 'N' :: 'D' :: ' ' :: (column.toList ++ ' ' :: '<' :: '=' :: ' ' ::
          (intChars range.stop ++ ')' :: rest)))) := by
  simp [clause, Clause.text]

/-- The text of a quoted test determines the test and where it ends. -/
lemma test_append_inj {column column' value value' : String} {rest rest' : List Char}
    (hcolumn : IsName column) (hcolumn' : IsName column') (hvalue : '\x27' ∉ value.toList)
    (hvalue' : '\x27' ∉ value'.toList)
    (heq : (test column "=" (Operand.quoted value)).clause.text.toList ++ rest =
      (test column' "=" (Operand.quoted value')).clause.text.toList ++ rest') :
    column = column' ∧ value = value' ∧ rest = rest' := by
  rw [toList_text_test, toList_text_test] at heq
  obtain ⟨hnames, heq⟩ := append_cons_inj hcolumn.1 hcolumn'.1 heq
  simp only [List.cons.injEq, true_and] at heq
  obtain ⟨hvalues, hrest⟩ := append_cons_inj hvalue hvalue' heq
  exact ⟨String.toList_inj.1 hnames, String.toList_inj.1 hvalues, hrest⟩

/-- The text of a time range determines the range and where it ends. -/
lemma within_append_inj {column : String} {range range' : TimeRange} {rest rest' : List Char}
    (heq : (within column range).clause.text.toList ++ rest =
      (within column range').clause.text.toList ++ rest') :
    range = range' ∧ rest = rest' := by
  have hblank : ∀ value, ' ' ∉ intChars value := notMem_intChars (by decide) (by decide)
  have hclosing : ∀ value, ')' ∉ intChars value := notMem_intChars (by decide) (by decide)
  rw [toList_text_within, toList_text_within] at heq
  simp only [List.cons.injEq, true_and, List.append_cancel_left_eq] at heq
  obtain ⟨hstart, heq⟩ := append_cons_inj (hblank _) (hblank _) heq
  simp only [List.cons.injEq, true_and, List.append_cancel_left_eq] at heq
  obtain ⟨hstop, hrest⟩ := append_cons_inj (hclosing _) (hclosing _) heq
  have hranges : TimeRange.mk range.start range.stop = ⟨range'.start, range'.stop⟩ := by
    rw [intChars_inj hstart, intChars_inj hstop]
  exact ⟨hranges, hrest⟩

/-- The place of the first greater-than sign in the time ranges of a column. -/
def signPlace (column : String) : Nat :=
  ('(' :: (column.toList ++ [' ', '>'])).idxOf '>'

/-- The first greater-than sign of a time range stands at its place. -/
lemma idxOf_text_within (column : String) (range : TimeRange) (rest : List Char) :
    ((within column range).clause.text.toList ++ rest).idxOf '>' = signPlace column := by
  obtain ⟨more, hmore⟩ : ∃ more, (within column range).clause.text.toList ++ rest =
      '(' :: (column.toList ++ [' ', '>']) ++ more := by
    simp only [toList_text_within, List.cons_append, List.append_assoc, List.nil_append]
    exact ⟨_, rfl⟩
  rw [hmore, List.idxOf_append_of_mem (by simp), signPlace]

/-- A delimited test has no greater-than sign. -/
lemma sign_notMem_test {timeColumn column word operand : String}
    (h : (test column word operand).IsDelimited timeColumn) :
    '>' ∉ (test column word operand).clause.text.toList := by
  obtain ⟨hcolumn, rfl, value, rfl, _, hvalue⟩ := h
  have htext := toList_text_test column value []
  rw [List.append_nil] at htext
  simp [htext, hcolumn.2.2, hvalue]

end Atom

/-! ### Tokens in turn -/

namespace Token

variable {timeColumn : String}

/-- Operands and connectives in turn: where an operand has to follow there is a delimited atom or
an opening parenthesis, and after an operand a connective, a closing parenthesis or the end. -/
def Alternate (timeColumn : String) : (operandNext : Bool) → List Token → Prop
  | true, .atom part :: rest => part.IsDelimited timeColumn ∧ Alternate timeColumn false rest
  | true, .opening :: rest => Alternate timeColumn true rest
  | false, [] => True
  | false, .and :: rest => Alternate timeColumn true rest
  | false, .or :: rest => Alternate timeColumn true rest
  | false, .closing :: rest => Alternate timeColumn false rest
  | _, _ => False

/-- After an operand the tokens end, or a connective or a closing parenthesis follows. -/
lemma Alternate.after_operand {tokens : List Token} (h : Alternate timeColumn false tokens) :
    tokens = [] ∨ ∃ token rest, tokens = token :: rest ∧
      (token = .and ∨ token = .or ∨ token = .closing) ∧
      Alternate timeColumn (decide (token ≠ .closing)) rest := by
  cases tokens with
  | nil => exact .inl rfl
  | cons token rest =>
    right
    cases token with
    | and => exact ⟨_, rest, rfl, .inl rfl, h⟩
    | or => exact ⟨_, rest, rfl, .inr (.inl rfl), h⟩
    | closing => exact ⟨_, rest, rfl, .inr (.inr rfl), h⟩
    | _ => exact h.elim

/-- Where an operand has to follow, there is a delimited atom or an opening parenthesis. -/
lemma Alternate.before_operand {tokens : List Token} (h : Alternate timeColumn true tokens) :
    (∃ part rest, tokens = .atom part :: rest ∧ part.IsDelimited timeColumn ∧
        Alternate timeColumn false rest) ∨
      ∃ rest, tokens = .opening :: rest ∧ Alternate timeColumn true rest := by
  cases tokens with
  | nil => exact h.elim
  | cons token rest =>
    cases token with
    | atom part => exact .inl ⟨part, rest, rfl, h.1, h.2⟩
    | opening => exact .inr ⟨rest, rfl, h⟩
    | _ => exact h.elim

/-- A token in turn is a time range or has no greater-than sign, and tokens in turn follow it. -/
lemma Alternate.uncons {operandNext : Bool} {token : Token} {rest : List Token}
    (h : Alternate timeColumn operandNext (token :: rest)) :
    ((∃ range, token = .atom (.within timeColumn range)) ∨ '>' ∉ token.text.toList) ∧
      ∃ operandNext, Alternate timeColumn operandNext rest := by
  cases operandNext with
  | false =>
    obtain ⟨_, _, htokens, htoken, hrest⟩ := h.after_operand.resolve_left (by simp)
    obtain ⟨rfl, rfl⟩ := List.cons.inj htokens
    refine ⟨.inr ?_, _, hrest⟩
    rcases htoken with rfl | rfl | rfl <;> simp [text]
  | true =>
    rcases h.before_operand with ⟨part, _, htokens, hpart, hrest⟩ | ⟨_, htokens, hrest⟩
    · obtain ⟨rfl, rfl⟩ := List.cons.inj htokens
      refine ⟨?_, _, hrest⟩
      cases part with
      | test column word operand => exact .inr (Atom.sign_notMem_test hpart)
      | within column range =>
        obtain rfl : column = timeColumn := hpart
        exact .inl ⟨range, rfl⟩
    · obtain ⟨rfl, rfl⟩ := List.cons.inj htokens
      exact ⟨.inr (by simp [text]), _, hrest⟩

/-- The characters of tokens begin with those of the first one. -/
lemma toList_concat_cons (token : Token) (rest : List Token) :
    (concat (token :: rest)).toList = token.text.toList ++ (concat rest).toList := by
  rw [concat_cons, String.toList_append]

/-- In tokens in turn there is no greater-than sign before its place in a time range. -/
lemma Alternate.signPlace_le {operandNext : Bool} {tokens : List Token}
    (h : Alternate timeColumn operandNext tokens) (hsign : '>' ∈ (concat tokens).toList) :
    Atom.signPlace timeColumn ≤ (concat tokens).toList.idxOf '>' := by
  induction tokens generalizing operandNext with
  | nil => simp [concat] at hsign
  | cons token rest ih =>
    rw [toList_concat_cons] at hsign ⊢
    obtain ⟨⟨range, rfl⟩ | hnot, _, htail⟩ := h.uncons
    · exact Nat.le_of_eq (Atom.idxOf_text_within timeColumn range _).symm
    · have hrest := ih htail ((List.mem_append.1 hsign).resolve_left hnot)
      rw [List.idxOf_append_of_notMem hnot]
      omega

/-- A time range shows in its text that it does not begin a group. -/
lemma Alternate.within_append_ne_opening {rest : List Token}
    (h : Alternate timeColumn true rest) (range : TimeRange) (cs : List Char) :
    (Atom.within timeColumn range).clause.text.toList ++ cs ≠ '(' :: (concat rest).toList := by
  intro heq
  have hplace := Atom.idxOf_text_within timeColumn range cs
  have hsign : '>' ∈ (Atom.within timeColumn range).clause.text.toList ++ cs := by
    simp [Atom.toList_text_within]
  rw [heq] at hplace hsign
  have hle := h.signPlace_le (by simpa using hsign)
  -- the group has its opening parenthesis before whatever time range it begins with
  rw [List.idxOf_cons_ne _ (by decide)] at hplace
  omega

/-- A connective and a closing parenthesis show in their text which one they are. -/
lemma connective_append_inj {token other : Token} {cs cs' : List Char}
    (h : token = .and ∨ token = .or ∨ token = .closing)
    (h' : other = .and ∨ other = .or ∨ other = .closing)
    (heq : token.text.toList ++ cs = other.text.toList ++ cs') : token = other ∧ cs = cs' := by
  rcases h with rfl | rfl | rfl <;> rcases h' with rfl | rfl | rfl <;> simp_all [text]

/-- A delimited atom shows in its text that it does not begin a group. -/
lemma Alternate.atom_append_ne_opening {part : Atom} {rest : List Token}
    (hpart : part.IsDelimited timeColumn) (h : Alternate timeColumn true rest) (cs : List Char) :
    part.clause.text.toList ++ cs ≠ '(' :: (concat rest).toList := by
  cases part with
  | test column word operand =>
    obtain ⟨hcolumn, rfl, value, rfl, _⟩ := hpart
    rw [Atom.toList_text_test]
    exact hcolumn.append_blank_ne _ _
  | within column range =>
    obtain rfl : column = timeColumn := hpart
    exact h.within_append_ne_opening range cs

/-- A delimited atom shows in its text which one it is and where it ends. -/
lemma atom_append_inj {part other : Atom} {cs cs' : List Char}
    (h : part.IsDelimited timeColumn) (h' : other.IsDelimited timeColumn)
    (heq : part.clause.text.toList ++ cs = other.clause.text.toList ++ cs') :
    part = other ∧ cs = cs' := by
  cases part with
  | test column word operand =>
    obtain ⟨hcolumn, rfl, value, rfl, hvalue, _⟩ := h
    cases other with
    | test column' word' operand' =>
      obtain ⟨hcolumn', rfl, value', rfl, hvalue', _⟩ := h'
      obtain ⟨rfl, rfl, hrest⟩ := Atom.test_append_inj hcolumn hcolumn' hvalue hvalue' heq
      exact ⟨rfl, hrest⟩
    | within column' range' =>
      rw [Atom.toList_text_test, Atom.toList_text_within] at heq
      exact absurd heq (hcolumn.append_blank_ne _ _)
  | within column range =>
    obtain rfl : column = timeColumn := h
    cases other with
    | test column' word' operand' =>
      obtain ⟨hcolumn', rfl, value', rfl, _⟩ := h'
      rw [Atom.toList_text_test, Atom.toList_text_within] at heq
      exact absurd heq.symm (hcolumn'.append_blank_ne _ _)
    | within column' range' =>
      obtain rfl : column' = column := h'
      obtain ⟨rfl, hrest⟩ := Atom.within_append_inj heq
      exact ⟨rfl, hrest⟩

/-- Tokens in turn are determined by their text. -/
theorem eq_of_concat_eq {operandNext : Bool} {tokens others : List Token}
    (h : Alternate timeColumn operandNext tokens) (h' : Alternate timeColumn operandNext others)
    (heq : (concat tokens).toList = (concat others).toList) : tokens = others := by
  induction tokens generalizing operandNext others with
  | nil =>
    cases operandNext with
    | false =>
      rcases h'.after_operand with rfl | ⟨token, rest, rfl, htoken, _⟩
      · rfl
      · rw [toList_concat_cons] at heq
        rcases htoken with rfl | rfl | rfl <;> simp [concat, text] at heq
    | true => exact h.elim
  | cons token rest ih =>
    cases operandNext with
    | false =>
      obtain ⟨_, _, htokens, htoken, hrest⟩ := h.after_operand.resolve_left (by simp)
      obtain ⟨rfl, rfl⟩ := List.cons.inj htokens
      rcases h'.after_operand with rfl | ⟨other, rest', rfl, hother, hrest'⟩
      · rw [toList_concat_cons] at heq
        rcases htoken with rfl | rfl | rfl <;> simp [concat, text] at heq
      · rw [toList_concat_cons, toList_concat_cons] at heq
        obtain ⟨rfl, hrests⟩ := connective_append_inj htoken hother heq
        rw [ih hrest hrest' hrests]
    | true =>
      rcases h.before_operand with ⟨part, _, htokens, hpart, hrest⟩ | ⟨_, htokens, hrest⟩
      · obtain ⟨rfl, rfl⟩ := List.cons.inj htokens
        rcases h'.before_operand with ⟨part', rest', rfl, hpart', hrest'⟩ | ⟨rest', rfl, hrest'⟩
        · rw [toList_concat_cons, toList_concat_cons] at heq
          obtain ⟨rfl, hrests⟩ := atom_append_inj hpart hpart' heq
          rw [ih hrest hrest' hrests]
        · rw [toList_concat_cons, toList_concat_cons] at heq
          exact absurd heq (Alternate.atom_append_ne_opening hpart hrest' _)
      · obtain ⟨rfl, rfl⟩ := List.cons.inj htokens
        rcases h'.before_operand with ⟨part', rest', rfl, hpart', hrest'⟩ | ⟨rest', rfl, hrest'⟩
        · rw [toList_concat_cons, toList_concat_cons] at heq
          exact absurd heq.symm (Alternate.atom_append_ne_opening hpart' hrest _)
        · rw [toList_concat_cons, toList_concat_cons] at heq
          rw [ih hrest hrest' (List.cons.inj heq).2]

end Token

/-! ### Clauses -/

namespace Clause

variable {timeColumn : String}

/-- Clauses of delimited atoms, joined by the two connectives and without negations. -/
def IsDelimited (timeColumn : String) : Clause → Prop
  | .test column word operand => (Atom.test column word operand).IsDelimited timeColumn
  | .within column range => (Atom.within column range).IsDelimited timeColumn
  | .join word left right =>
    (word = "AND" ∨ word = "OR") ∧ left.IsDelimited timeColumn ∧ right.IsDelimited timeColumn
  | .group inner => inner.IsDelimited timeColumn
  | .negation _ => False

/-- A delimited clause is connected. -/
lemma IsDelimited.connected {clause : Clause} (h : clause.IsDelimited timeColumn) :
    clause.Connected := by
  induction clause with
  | test column word operand => trivial
  | within column range => trivial
  | join word left right ihLeft ihRight => exact ⟨h.1, ihLeft h.2.1, ihRight h.2.2⟩
  | group inner ih => exact ih h
  | negation inner _ => exact h.elim

/-- The tokens of a delimited clause are in turn. -/
lemma IsDelimited.alternate {clause : Clause} (h : clause.IsDelimited timeColumn)
    {rest : List Token} (hrest : Token.Alternate timeColumn false rest) :
    Token.Alternate timeColumn true (clause.tokens ++ rest) := by
  induction clause generalizing rest with
  | test column word operand => exact ⟨h, hrest⟩
  | within column range => exact ⟨h, hrest⟩
  | join word left right ihLeft ihRight =>
    obtain ⟨_, hleft, hright⟩ := h
    rw [tokens, List.append_assoc]
    refine ihLeft hleft ?_
    split <;> exact ihRight hright hrest
  | group inner ih =>
    rw [tokens, List.cons_append, List.append_assoc]
    exact ih h hrest
  | negation inner _ => exact h.elim

/-- Delimited clauses with the same text have the same tokens. -/
theorem tokens_eq_of_text_eq {clause other : Clause} (h : clause.IsDelimited timeColumn)
    (h' : other.IsDelimited timeColumn) (heq : clause.text = other.text) :
    clause.tokens = other.tokens := by
  have halternate : Token.Alternate timeColumn true (clause.tokens ++ []) := h.alternate trivial
  have halternate' : Token.Alternate timeColumn true (other.tokens ++ []) := h'.alternate trivial
  rw [List.append_nil] at halternate halternate'
  refine Token.eq_of_concat_eq halternate halternate' ?_
  rw [concat_tokens_of_connected h.connected, concat_tokens_of_connected h'.connected, heq]

end Clause

end PatternSql
