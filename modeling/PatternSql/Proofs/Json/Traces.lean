import PatternSql.Proofs.Json.Spelling
import Mathlib.Data.List.Forall2
import Mathlib.Tactic.Ring

/-!
# What the reader of tokens has read

The tokens that are read from a text are those that the text lays out.

The proof follows a run of the reader from the left to the right.  `Lexer.Traces` ties a state
to the text that led to it: the finished tokens are laid out in the beginning of the text, and
the rest of it is what has been read of the token that is not finished yet.  For a string this
means that the characters so far are spelled, and that behind them stands the first half of a
surrogate pair, the beginning of an escape, or both (`Quoted.Traces`).

A token without a value is spelled by nothing.  Since finished tokens stay, the invariant is
stated for the states whose tokens all have values.
-/

namespace PatternSql

namespace Json

/-! ### Layouts in a row -/

/-- White space before a layout belongs to it. -/
lemma Layout.space_append {tokens : List Token} {cs spaces : List Char} (h : Layout tokens cs)
    (hspaces : ∀ c ∈ spaces, Lexer.isSpace c = true) : Layout tokens (spaces ++ cs) := by
  cases h with
  | space hmore =>
    refine .space ?_
    rw [List.forall_mem_append]
    exact ⟨hspaces, hmore⟩
  | token hmore htoken hrest =>
    rw [← List.append_assoc]
    refine .token ?_ htoken hrest
    rw [List.forall_mem_append]
    exact ⟨hspaces, hmore⟩

/-- Two layouts one after the other lay out the tokens of both. -/
lemma Layout.append {first second : List Token} {cs ds : List Char} (hfirst : Layout first cs)
    (hsecond : Layout second ds) : Layout (first ++ second) (cs ++ ds) := by
  induction hfirst with
  | space hspaces => exact hsecond.space_append hspaces
  | token hspaces htoken _ ih =>
    rw [List.append_assoc, List.append_assoc]
    exact .token hspaces htoken ih

/-- The spelling of a token lays out the token. -/
lemma Token.Spells.layout {token : Token} {cs : List Char} (h : token.Spells cs) :
    Layout [token] cs := by
  have hlayout : Layout [token] ([] ++ (cs ++ [])) := .token (by simp) h (.space (by simp))
  simpa using hlayout

/-! ### Strings -/

/-- A hexadecimal digit is read from its spellings only. -/
lemma spellsHex_of_hexValue? {c : Char} {digit : Nat} (h : Quoted.hexValue? c = some digit) :
    SpellsHex digit c := by
  have hsmall : ∀ n < 6, Nat.digitChar (10 + n) = Char.ofNat (97 + n) := by decide
  have hcapital : ∀ n < 6, (Nat.digitChar (10 + n)).toUpper = Char.ofNat (65 + n) := by decide
  unfold Quoted.hexValue? at h
  split at h
  · rename_i hdigit
    obtain ⟨hchar, hlt⟩ := Numeral.digitChar_digitValue hdigit
    obtain rfl : c.toNat - 48 = digit := Option.some.inj h
    exact ⟨by unfold Text.digitValue at hlt; omega, .inl hchar.symm⟩
  · split at h
    · rename_i hrange
      simp only [Char.le_def, UInt32.le_iff_toNat_le] at hrange
      have hlow : 97 ≤ c.toNat := hrange.1
      have hhigh : c.toNat ≤ 102 := hrange.2
      obtain rfl : c.toNat - 87 = digit := Option.some.inj h
      refine ⟨by omega, .inl ?_⟩
      rw [show c.toNat - 87 = 10 + (c.toNat - 97) by omega, hsmall _ (by omega),
        Nat.add_sub_cancel' hlow, Char.ofNat_toNat]
    · split at h
      · rename_i hrange
        simp only [Char.le_def, UInt32.le_iff_toNat_le] at hrange
        have hlow : 65 ≤ c.toNat := hrange.1
        have hhigh : c.toNat ≤ 70 := hrange.2
        obtain rfl : c.toNat - 55 = digit := Option.some.inj h
        refine ⟨by omega, .inr ?_⟩
        rw [show c.toNat - 55 = 10 + (c.toNat - 65) by omega, hcapital _ (by omega),
          Nat.add_sub_cancel' hlow, Char.ofNat_toNat]
      · simp at h

/-- A short escape is read from its letter only. -/
lemma mem_shortEscapes {letter c : Char} (h : Quoted.escapedChar? letter = some c) :
    (letter, c) ∈ shortEscapes := by
  unfold Quoted.escapedChar? at h
  split at h <;> simp_all [shortEscapes, eq_comm]

/-- A character more at the end of a string. -/
lemma SpellsChars.concat {text cs spelling : List Char} {c : Char} (h : SpellsChars text cs)
    (hc : SpellsChar c spelling) : SpellsChars (text ++ [c]) (cs ++ spelling) := by
  induction h with
  | nil =>
    have hsingle := SpellsChars.cons hc .nil
    simpa using hsingle
  | cons hfirst _ ih =>
    rw [List.append_assoc]
    exact .cons hfirst ih

/-- A digit more at the end of a code unit. -/
lemma hexNumber_concat (digits : List Nat) (digit : Nat) :
    hexNumber 0 (digits ++ [digit]) = 16 * hexNumber 0 digits + digit := by
  simp [hexNumber, List.foldl_append]

/-- Hexadecimal digits denote less than the power of sixteen that follows them. -/
lemma hexNumber_lt {digits : List Nat} {cs : List Char} (h : List.Forall₂ SpellsHex digits cs)
    (front : Nat) : hexNumber front digits < (front + 1) * 16 ^ digits.length := by
  induction h generalizing front with
  | nil => simp [hexNumber]
  | @cons digit c digits cs hdigit _ ih =>
    have hstep : hexNumber front (digit :: digits) = hexNumber (16 * front + digit) digits := rfl
    have hle : 16 * front + digit + 1 ≤ 16 * (front + 1) := by
      have hlt := hdigit.1
      omega
    calc hexNumber front (digit :: digits)
      _ < (16 * front + digit + 1) * 16 ^ digits.length := by rw [hstep]; exact ih _
      _ ≤ 16 * (front + 1) * 16 ^ digits.length := Nat.mul_le_mul_right _ hle
      _ = (front + 1) * 16 ^ (digit :: digits).length := by
        rw [List.length_cons, Nat.pow_succ]
        ring

/-- A code unit has sixteen bits. -/
lemma SpellsUnit.lt {unit : Nat} {cs : List Char} (h : SpellsUnit unit cs) : unit < 0x10000 := by
  obtain ⟨digits, hdigits, hlength, rfl⟩ := h
  have hlt := hexNumber_lt hdigits 0
  rw [hlength] at hlt
  omega

/-- The character of a code point has that code point. -/
lemma toNat_ofNat {n : Nat} (h : n.isValidChar) : (Char.ofNat n).toNat = n := by
  rw [Char.ofNat, dif_pos h]
  rfl

namespace Quoted

/-- What the first half of a surrogate pair is read from, where there is one. -/
inductive SpellsHalf : Option Nat → List Char → Prop
  | absent : SpellsHalf none []
  | present {high : Nat} {cs : List Char} (hhigh : isHigh high = true) (h : SpellsUnit high cs) :
    SpellsHalf (some high) ('\x5c' :: 'u' :: cs)

/-- What the beginning of an escape is read from. -/
inductive Begins : Escape → List Char → Prop
  | none : Begins .none []
  | marked : Begins .marked ['\x5c']
  | unit {missing : Nat} {digits : List Nat} {cs : List Char}
    (h : List.Forall₂ SpellsHex digits cs) (hlength : digits.length + missing = 4)
    (hmissing : 0 < missing) :
    Begins (.unit missing (hexNumber 0 digits)) ('\x5c' :: 'u' :: cs)

/-- What a string is read from that still denotes something: its characters, then half of a
surrogate pair, then the beginning of an escape. -/
structure Parts (q : Quoted) (chars front half begun : List Char) : Prop where
  chars_eq : q.chars = some chars
  spellsChars : SpellsChars chars.reverse front
  spellsHalf : SpellsHalf q.high half
  begins : Begins q.escape begun

/-- A string that has been read from a text; nothing is said of one that denotes nothing. -/
def Traces (q : Quoted) (cs : List Char) : Prop :=
  q.chars = none ∨ ∃ chars front half begun, q.Parts chars front half begun ∧
    cs = front ++ (half ++ begun)

/-- What the next character of a string does to it, the closing quote apart. -/
inductive Step (q : Quoted) : Char → Quoted → Prop
  | plain {c : Char} (h : q.escape = .none) (hquote : c ≠ '\x22') (hslash : c ≠ '\x5c')
    (hcontrol : 0x20 ≤ c.toNat) : Step q c (q.push c)
  | mark (h : q.escape = .none) : Step q '\x5c' { q with escape := .marked }
  | short {letter c : Char} (h : q.escape = .marked) (hc : (letter, c) ∈ shortEscapes) :
    Step q letter (q.push c)
  | unit (h : q.escape = .marked) : Step q 'u' { q with escape := .unit 4 0 }
  | digit {c : Char} {missing value digit : Nat} (h : q.escape = .unit missing value)
    (hdigit : SpellsHex digit c) (hmissing : 1 < missing) :
    Step q c { q with escape := .unit (missing - 1) (16 * value + digit) }
  | last {c : Char} {missing value digit : Nat} (h : q.escape = .unit missing value)
    (hdigit : SpellsHex digit c) (hmissing : missing ≤ 1) :
    Step q c (q.pushUnit (16 * value + digit))

/-- The next character of a string closes it or does what `Step` says. -/
lemma step_of_quotedStep? {done : List Token} {q : Quoted} {c : Char} {next : Lexer}
    (h : Lexer.quotedStep? done q c = some next) :
    (q.escape = .none ∧ c = '\x22' ∧ next = ⟨.string q.text? :: done, .idle⟩) ∨
      ∃ after, q.Step c after ∧ next = ⟨done, .quoted after⟩ := by
  unfold Lexer.quotedStep? at h
  split at h
  · rename_i hescape
    split at h
    · rename_i hquote
      exact .inl ⟨hescape, hquote, (Option.some.inj h).symm⟩
    · rename_i hquote
      right
      split at h
      · rename_i hslash
        subst hslash
        exact ⟨_, .mark hescape, (Option.some.inj h).symm⟩
      · rename_i hslash
        split at h
        · simp at h
        · exact ⟨_, .plain hescape hquote hslash (by omega), (Option.some.inj h).symm⟩
  · rename_i hescape
    right
    split at h
    · rename_i hu
      subst hu
      exact ⟨_, .unit hescape, (Option.some.inj h).symm⟩
    · obtain ⟨escaped, hescaped, rfl⟩ := Option.map_eq_some_iff.1 h
      exact ⟨_, .short hescape (mem_shortEscapes hescaped), rfl⟩
  · rename_i missing value hescape
    right
    obtain ⟨after, hafter, rfl⟩ := Option.map_eq_some_iff.1 h
    obtain ⟨digit, hdigit, rfl⟩ := Option.map_eq_some_iff.1 hafter
    have hspells := spellsHex_of_hexValue? hdigit
    split
    · exact ⟨_, .last hescape hspells ‹_›, rfl⟩
    · exact ⟨_, .digit hescape hspells (by omega), rfl⟩

/-- A string that denotes nothing denotes nothing later on. -/
lemma Step.chars_eq_none {q after : Quoted} {c : Char} (h : q.Step c after)
    (hq : q.chars = none) : after.chars = none := by
  have hpush : ∀ d, (q.push d).chars = none := by
    intro d
    simp [push, hq]
  cases h with
  | plain _ _ _ _ => exact hpush _
  | mark _ => exact hq
  | short _ _ => exact hpush _
  | unit _ => exact hq
  | digit _ _ _ => exact hq
  | last _ _ _ =>
    unfold pushUnit
    split
    · split
      · simp [push, hq]
      · rfl
    · split
      · exact hq
      · split
        · rfl
        · exact hpush _

section Growth

variable {q : Quoted} {chars front half : List Char} (hchars : q.chars = some chars)
  (hfront : SpellsChars chars.reverse front) (hhalf : SpellsHalf q.high half)

include hchars hfront hhalf

/-- A character more, from its spelling.  Behind half of a surrogate pair it spoils the string. -/
lemma traces_push {c : Char} {spelling : List Char} (hc : SpellsChar c spelling) :
    (q.push c).Traces (front ++ (half ++ spelling)) := by
  cases hhigh : q.high with
  | some high =>
    left
    simp [push, hhigh]
  | none =>
    right
    rw [hhigh] at hhalf
    cases hhalf
    have hparts : (q.push c).Parts (c :: chars) (front ++ spelling) [] [] := by
      refine ⟨?_, ?_, ?_, .none⟩
      · simp [push, hhigh, hchars]
      · rw [List.reverse_cons]
        exact hfront.concat hc
      · exact .absent
    exact ⟨_, _, _, _, hparts, by simp⟩

/-- A code unit more, from its escape: half of a surrogate pair, the other half, or a character. -/
lemma traces_pushUnit {unit : Nat} {cs : List Char} (hunit : SpellsUnit unit cs) :
    (q.pushUnit unit).Traces (front ++ (half ++ '\x5c' :: 'u' :: cs)) := by
  have hbits := hunit.lt
  unfold pushUnit
  cases hhigh : q.high with
  | some high =>
    rw [hhigh] at hhalf
    cases hhalf with
    | @present _ first hisHigh hfirst =>
      cases hisLow : isLow unit with
      | false => exact .inl (by simp [spoil])
      | true =>
        simp only [isHigh, isLow, Bool.and_eq_true, decide_eq_true_eq] at hisHigh hisLow
        have hvalid : (0x10000 + (high - 0xD800) * 0x400 + (unit - 0xDC00)).isValidChar :=
          .inr (by omega)
        have hpair : SpellsChar (pairChar high unit)
            ('\x5c' :: 'u' :: (first ++ '\x5c' :: 'u' :: cs)) := by
          refine .pair hisHigh hisLow ?_ hfirst hunit
          rw [pairChar, toNat_ofNat hvalid]
        -- the second half takes the place of the first, so that no half is left before it
        have hchars' : ({ q with high := none } : Quoted).chars = some chars := hchars
        have htraces := traces_push hchars' hfront .absent hpair
        simpa using htraces
  | none =>
    cases hisHigh : isHigh unit with
    | true =>
      rw [hhigh] at hhalf
      cases hhalf
      exact .inr ⟨chars, front, _, [], ⟨hchars, hfront, .present hisHigh hunit, .none⟩, by simp⟩
    | false =>
      cases hisLow : isLow unit with
      | true => exact .inl (by simp [spoil])
      | false =>
        simp only [isHigh, isLow, Bool.and_eq_false_iff, decide_eq_false_iff_not] at hisHigh hisLow
        have hvalid : unit.isValidChar := by
          unfold Nat.isValidChar
          omega
        have hunit' : SpellsUnit (Char.ofNat unit).toNat cs := by
          rwa [toNat_ofNat hvalid]
        simpa using traces_push hchars hfront hhalf (.unit hunit')

end Growth

/-- A character more of a string is a character more of what it is read from. -/
lemma Step.traces {q after : Quoted} {c : Char} {cs : List Char} (h : q.Step c after)
    (hq : q.Traces cs) : after.Traces (cs ++ [c]) := by
  rcases hq with hnone | ⟨chars, front, half, begun, hparts, rfl⟩
  · exact .inl (h.chars_eq_none hnone)
  obtain ⟨hchars, hfront, hhalf, hbegun⟩ := hparts
  cases h with
  | plain hescape hquote hslash hcontrol =>
    rw [hescape] at hbegun
    cases hbegun
    have htraces := traces_push hchars hfront hhalf (.plain hquote hslash hcontrol)
    simpa using htraces
  | mark hescape =>
    rw [hescape] at hbegun
    cases hbegun
    exact .inr ⟨chars, front, half, _, ⟨hchars, hfront, hhalf, .marked⟩, by simp⟩
  | short hescape hc =>
    rw [hescape] at hbegun
    cases hbegun
    have htraces := traces_push hchars hfront hhalf (.short hc)
    simpa using htraces
  | unit hescape =>
    rw [hescape] at hbegun
    cases hbegun
    have hopen : Begins (.unit 4 0) ['\x5c', 'u'] := .unit .nil rfl (by decide)
    exact .inr ⟨chars, front, half, _, ⟨hchars, hfront, hhalf, hopen⟩, by simp⟩
  | @digit _ missing value digit hescape hdigit hmissing =>
    rw [hescape] at hbegun
    cases hbegun with
    | @unit _ digits cs hdigits hlength _ =>
      have hmore : List.Forall₂ SpellsHex (digits ++ [digit]) (cs ++ [c]) :=
        List.rel_append hdigits (.cons hdigit .nil)
      have hbegun : Begins (.unit (missing - 1) (16 * hexNumber 0 digits + digit))
          ('\x5c' :: 'u' :: (cs ++ [c])) := by
        rw [← hexNumber_concat]
        refine .unit hmore ?_ (by omega)
        rw [List.length_append, List.length_singleton]
        omega
      exact .inr ⟨chars, front, half, _, ⟨hchars, hfront, hhalf, hbegun⟩, by simp⟩
  | @last _ missing value digit hescape hdigit hmissing =>
    rw [hescape] at hbegun
    cases hbegun with
    | @unit _ digits cs hdigits hlength hpositive =>
      have hmore : List.Forall₂ SpellsHex (digits ++ [digit]) (cs ++ [c]) :=
        List.rel_append hdigits (.cons hdigit .nil)
      have hunit : SpellsUnit (16 * hexNumber 0 digits + digit) (cs ++ [c]) := by
        refine ⟨_, hmore, ?_, (hexNumber_concat digits digit).symm⟩
        rw [List.length_append, List.length_singleton]
        omega
      have htraces := traces_pushUnit hchars hfront hhalf hunit
      simpa using htraces

/-- A string that ends with a value is spelled by what it is read from. -/
lemma Traces.spellsChars {q : Quoted} {cs : List Char} (h : q.Traces cs)
    (hescape : q.escape = .none) {value : String} (hvalue : q.text? = some value) :
    SpellsChars value.toList cs := by
  unfold text? at hvalue
  split at hvalue
  · rename_i hhigh
    obtain ⟨chars, hchars, rfl⟩ := Option.map_eq_some_iff.1 hvalue
    rcases h with hnone | ⟨chars', front, half, begun, hparts, rfl⟩
    · simp [hnone] at hchars
    · obtain ⟨hchars', hfront, hhalf, hbegun⟩ := hparts
      obtain rfl : chars = chars' := Option.some.inj (hchars.symm.trans hchars')
      rw [Option.isNone_iff_eq_none.1 hhigh] at hhalf
      rw [hescape] at hbegun
      cases hhalf
      cases hbegun
      simpa using hfront
  · simp at hvalue

end Quoted

/-! ### Tokens -/

/-- Whether a token denotes something. -/
def Token.HasValue (token : Token) : Prop :=
  token ≠ .number none ∧ token ≠ .string none

/-- What the token that is being read has been read from. -/
def Pending.Traces : Pending → List Char → Prop
  | .idle, cs => cs = []
  | .word letters, cs => cs = letters.reverse
  | .numeral chars, cs => cs = chars.reverse
  | .quoted q, cs => ∃ body, cs = '\x22' :: body ∧ q.Traces body

namespace Lexer

/-- A state that has been read from a text: its finished tokens are laid out in the beginning of
the text, and the token that is being read has been read from the rest. -/
def Traces (lexer : Lexer) (cs : List Char) : Prop :=
  ∃ front rest, Layout lexer.done.reverse front ∧ lexer.pending.Traces rest ∧ cs = front ++ rest

/-- The token of a name is spelled by it. -/
lemma spells_of_wordToken? {letters : List Char} {token : Token}
    (h : wordToken? letters = some token) : token.Spells letters := by
  refine .name ?_
  unfold wordToken? at h
  split at h
  · simp_all [Token.names]
  · split at h
    · simp_all [Token.names]
    · split at h
      · simp_all [Token.names]
      · simp at h

/-- When the token that is being read is finished, the text lays out all tokens. -/
lemma layout_of_flush? {lexer : Lexer} {done : List Token} {cs : List Char}
    (h : lexer.flush? = some done) (htraces : lexer.Traces cs)
    (hvalues : ∀ token ∈ done, token.HasValue) : Layout done.reverse cs := by
  obtain ⟨front, rest, hfront, hrest, rfl⟩ := htraces
  unfold flush? at h
  split at h
  · rename_i hpending
    rw [hpending] at hrest
    obtain rfl : rest = [] := hrest
    rw [← Option.some.inj h, List.append_nil]
    exact hfront
  · rename_i letters hpending
    rw [hpending] at hrest
    obtain rfl : rest = letters.reverse := hrest
    obtain ⟨token, htoken, rfl⟩ := Option.map_eq_some_iff.1 h
    rw [List.reverse_cons]
    exact hfront.append (spells_of_wordToken? htoken).layout
  · rename_i chars hpending
    rw [hpending] at hrest
    obtain rfl : rest = chars.reverse := hrest
    obtain ⟨numeral, hnumeral, rfl⟩ := Option.map_eq_some_iff.1 h
    obtain ⟨value, hvalue⟩ : ∃ value, numeral.value? = some value := by
      rw [← Option.ne_none_iff_exists']
      intro hnone
      have hnumber := hvalues _ List.mem_cons_self
      rw [hnone] at hnumber
      exact hnumber.1 rfl
    have hspells := spellsNumber_iff.2 ⟨numeral, hnumeral, hvalue⟩
    rw [List.reverse_cons, hvalue]
    exact hfront.append (Token.Spells.number hspells).layout
  · simp at h

/-- The token of a mark is found in the table. -/
lemma mem_marks_of_mark? {c : Char} {token : Token} (h : mark? c = some token) :
    (c, token) ∈ Token.marks := by
  unfold mark? at h
  split at h
  case h_7 => simp at h
  all_goals
    obtain rfl := Option.some.inj h
    simp [Token.marks]

/-- What a character does that belongs to no earlier token. -/
lemma begin?_cases {done : List Token} {c : Char} {next : Lexer} (h : begin? done c = some next) :
    isSpace c = true ∧ next = ⟨done, .idle⟩ ∨ c = '\x22' ∧ next = ⟨done, .quoted .start⟩ ∨
      next = ⟨done, .numeral [c]⟩ ∨ next = ⟨done, .word [c]⟩ ∨
      ∃ token, (c, token) ∈ Token.marks ∧ next = ⟨token :: done, .idle⟩ := by
  unfold begin? at h
  split at h
  · exact .inl ⟨‹_›, (Option.some.inj h).symm⟩
  · split at h
    · exact .inr (.inl ⟨‹_›, (Option.some.inj h).symm⟩)
    · split at h
      · exact .inr (.inr (.inl (Option.some.inj h).symm))
      · split at h
        · exact .inr (.inr (.inr (.inl (Option.some.inj h).symm)))
        · obtain ⟨token, htoken, rfl⟩ := Option.map_eq_some_iff.1 h
          exact .inr (.inr (.inr (.inr ⟨token, mem_marks_of_mark? htoken, rfl⟩)))

/-- What a character does: it belongs to the token that is being read, or that token is finished
before it. -/
lemma step?_cases {lexer next : Lexer} {c : Char} (h : lexer.step? c = some next) :
    (∃ done, lexer.flush? = some done ∧ begin? done c = some next) ∨
      (∃ letters, lexer.pending = .word letters ∧ next = ⟨lexer.done, .word (c :: letters)⟩) ∨
      (∃ chars, lexer.pending = .numeral chars ∧ next = ⟨lexer.done, .numeral (c :: chars)⟩) ∨
      ∃ q, lexer.pending = .quoted q ∧ quotedStep? lexer.done q c = some next := by
  unfold step? at h
  split at h
  · rename_i hpending
    exact .inl ⟨lexer.done, by simp [flush?, hpending], h⟩
  · rename_i letters hpending
    split at h
    · exact .inr (.inl ⟨letters, hpending, (Option.some.inj h).symm⟩)
    · exact .inl (Option.bind_eq_some_iff.1 h)
  · rename_i chars hpending
    split at h
    · exact .inr (.inr (.inl ⟨chars, hpending, (Option.some.inj h).symm⟩))
    · exact .inl (Option.bind_eq_some_iff.1 h)
  · rename_i q hpending
    exact .inr (.inr (.inr ⟨q, hpending, h⟩))

/-- Finished tokens stay when another one is finished. -/
lemma subset_of_flush? {lexer : Lexer} {done : List Token} (h : lexer.flush? = some done) :
    lexer.done ⊆ done := by
  unfold flush? at h
  split at h
  · rw [Option.some.inj h]
    exact List.Subset.refl _
  · obtain ⟨token, _, rfl⟩ := Option.map_eq_some_iff.1 h
    exact List.subset_cons_self _ _
  · obtain ⟨numeral, _, rfl⟩ := Option.map_eq_some_iff.1 h
    exact List.subset_cons_self _ _
  · simp at h

/-- Finished tokens stay when another one begins. -/
lemma subset_of_begin? {done : List Token} {c : Char} {next : Lexer}
    (h : begin? done c = some next) : done ⊆ next.done := by
  rcases begin?_cases h with ⟨_, rfl⟩ | ⟨_, rfl⟩ | rfl | rfl | ⟨token, _, rfl⟩
  · exact List.Subset.refl _
  · exact List.Subset.refl _
  · exact List.Subset.refl _
  · exact List.Subset.refl _
  · exact List.subset_cons_self _ _

/-- Finished tokens stay. -/
lemma subset_of_step? {lexer next : Lexer} {c : Char} (h : lexer.step? c = some next) :
    lexer.done ⊆ next.done := by
  rcases step?_cases h with ⟨done, hflush, hbegin⟩ | ⟨_, _, rfl⟩ | ⟨_, _, rfl⟩ | ⟨q, _, hquoted⟩
  · exact List.Subset.trans (subset_of_flush? hflush) (subset_of_begin? hbegin)
  · exact List.Subset.refl _
  · exact List.Subset.refl _
  · rcases Quoted.step_of_quotedStep? hquoted with ⟨_, _, rfl⟩ | ⟨_, _, rfl⟩
    · exact List.subset_cons_self _ _
    · exact List.Subset.refl _

/-- A character that begins a token, or stands between two, is one more of the text. -/
lemma traces_of_begin? {done : List Token} {cs : List Char} {c : Char} {next : Lexer}
    (h : begin? done c = some next) (hlayout : Layout done.reverse cs) :
    next.Traces (cs ++ [c]) := by
  rcases begin?_cases h with ⟨hspace, rfl⟩ | ⟨rfl, rfl⟩ | rfl | rfl | ⟨token, hmark, rfl⟩
  · have hblank : Layout [] [c] := .space fun d hd => by rwa [List.mem_singleton.1 hd]
    have hmore := hlayout.append hblank
    rw [List.append_nil] at hmore
    exact ⟨cs ++ [c], [], hmore, rfl, (List.append_nil _).symm⟩
  · have hstart : Quoted.start.Traces [] :=
      .inr ⟨[], [], [], [], ⟨rfl, .nil, .absent, .none⟩, rfl⟩
    exact ⟨cs, ['\x22'], hlayout, ⟨[], rfl, hstart⟩, rfl⟩
  · exact ⟨cs, [c], hlayout, rfl, rfl⟩
  · exact ⟨cs, [c], hlayout, rfl, rfl⟩
  · refine ⟨cs ++ [c], [], ?_, rfl, (List.append_nil _).symm⟩
    rw [List.reverse_cons]
    exact hlayout.append (Token.Spells.mark hmark).layout

/-- A character more is a character more of the text that a state has been read from. -/
theorem traces_of_step? {lexer next : Lexer} {c : Char} {cs : List Char}
    (h : lexer.step? c = some next) (hvalues : ∀ token ∈ next.done, token.HasValue)
    (htraces : lexer.Traces cs) : next.Traces (cs ++ [c]) := by
  rcases step?_cases h with ⟨done, hflush, hbegin⟩ | ⟨letters, hpending, rfl⟩ |
    ⟨chars, hpending, rfl⟩ | ⟨q, hpending, hquoted⟩
  · have hdone : ∀ token ∈ done, token.HasValue :=
      fun token htoken => hvalues token (subset_of_begin? hbegin htoken)
    exact traces_of_begin? hbegin (layout_of_flush? hflush htraces hdone)
  · obtain ⟨front, rest, hfront, hrest, rfl⟩ := htraces
    rw [hpending] at hrest
    obtain rfl : rest = letters.reverse := hrest
    exact ⟨front, (c :: letters).reverse, hfront, rfl, by simp⟩
  · obtain ⟨front, rest, hfront, hrest, rfl⟩ := htraces
    rw [hpending] at hrest
    obtain rfl : rest = chars.reverse := hrest
    exact ⟨front, (c :: chars).reverse, hfront, rfl, by simp⟩
  · obtain ⟨front, rest, hfront, hrest, rfl⟩ := htraces
    rw [hpending] at hrest
    obtain ⟨body, rfl, hbody⟩ := hrest
    rcases Quoted.step_of_quotedStep? hquoted with ⟨hescape, rfl, rfl⟩ | ⟨after, hstep, rfl⟩
    · -- the closing quote: a string without a value is excluded
      obtain ⟨value, hvalue⟩ : ∃ value, q.text? = some value := by
        rw [← Option.ne_none_iff_exists']
        intro hnone
        have hstring := hvalues _ List.mem_cons_self
        rw [hnone] at hstring
        exact hstring.2 rfl
      have hspells := Token.Spells.string (hbody.spellsChars hescape hvalue)
      refine ⟨front ++ ('\x22' :: (body ++ ['\x22'])), [], ?_, rfl, by simp⟩
      rw [hvalue, List.reverse_cons]
      exact hfront.append hspells.layout
    · exact ⟨front, '\x22' :: (body ++ [c]), hfront, ⟨_, rfl, hstep.traces hbody⟩, by simp⟩

/-- The state after a run has been read from the text of the run. -/
theorem traces_of_run? {cs : List Char} {lexer : Lexer} (h : start.run? cs = some lexer)
    (hvalues : ∀ token ∈ lexer.done, token.HasValue) : lexer.Traces cs := by
  induction cs using List.reverseRecOn generalizing lexer with
  | nil =>
    obtain rfl := Option.some.inj h
    exact ⟨[], [], .space (by simp), rfl, rfl⟩
  | append_singleton cs c ih =>
    rw [run?_append] at h
    obtain ⟨middle, hmiddle, hlast⟩ := Option.bind_eq_some_iff.1 h
    have hstep : middle.step? c = some lexer := by
      rw [run?_cons] at hlast
      obtain ⟨next, hnext, hnil⟩ := Option.bind_eq_some_iff.1 hlast
      rw [hnext, Option.some.inj hnil]
    have hmiddleTraces : middle.Traces cs :=
      ih hmiddle fun token htoken => hvalues token (subset_of_step? hstep htoken)
    exact traces_of_step? hstep hvalues hmiddleTraces

end Lexer

/-- A text lays out the tokens that are read from it, when they all have values. -/
theorem layout_of_tokens?_eq {cs : List Char} {tokens : List Token} (h : tokens? cs = some tokens)
    (hvalues : ∀ token ∈ tokens, token.HasValue) : Layout tokens cs := by
  obtain ⟨done, hdone, rfl⟩ := Option.map_eq_some_iff.1 h
  obtain ⟨lexer, hlexer, hflush⟩ := Option.bind_eq_some_iff.1 hdone
  have hall : ∀ token ∈ done, token.HasValue := fun token htoken =>
    hvalues token (List.mem_reverse.2 htoken)
  have htraces := Lexer.traces_of_run? hlexer fun token htoken =>
    hall token (Lexer.subset_of_flush? hflush htoken)
  exact Lexer.layout_of_flush? hflush htraces hall

end Json

end PatternSql
