import PatternSql.Json.Token
import PatternSql.Proofs.Json.Numerals
import Mathlib.Data.List.Chain

/-!
# The grammar of tokens

How the tokens of a JSON text are written.  `Token.Spells` gives the texts of one token: a
character of a string may stand as it is, as a short escape, as a code unit or as a surrogate
pair.  `Layout` gives the texts of a sequence of tokens, with white space before, between and
after them.

The reader of tokens and this grammar agree in both directions.  A text that lays out tokens is
read as these tokens, as long as of two neighbours one is a mark (`tokens?_eq_of_layout`);
and where the tokens that are read all have values, the text lays them out
(`layout_of_tokens?_eq`).

A run of the reader over a token ends in a state that is settled: the token is finished as
soon as white space, a mark or the end of the text follows.  A string is followed character by
character: between two characters of a string the reader holds the characters so far and
nothing else.
-/

namespace PatternSql

namespace Json

/-! ### Strings -/

/-- How a hexadecimal digit is written, in small or in capital letters. -/
def SpellsHex (digit : Nat) (c : Char) : Prop :=
  digit < 16 ∧ (c = Nat.digitChar digit ∨ c = (Nat.digitChar digit).toUpper)

/-- The number that hexadecimal digits denote, after a number in front. -/
def hexNumber (front : Nat) (digits : List Nat) : Nat :=
  digits.foldl (fun value digit => 16 * value + digit) front

/-- How a code unit is written: with four hexadecimal digits. -/
def SpellsUnit (unit : Nat) (cs : List Char) : Prop :=
  ∃ digits, List.Forall₂ SpellsHex digits cs ∧ digits.length = 4 ∧ unit = hexNumber 0 digits

/-- The letters of short escapes, each with the character that it stands for. -/
def shortEscapes : List (Char × Char) :=
  [('\x22', '\x22'), ('\x5c', '\x5c'), ('/', '/'), ('b', '\x08'), ('f', '\x0c'), ('n', '\x0a'),
    ('r', '\x0d'), ('t', '\x09')]

/-- How a character of a string is written. -/
inductive SpellsChar : Char → List Char → Prop
  /-- As it is, unless it is a quote, a backslash or a control character. -/
  | plain {c : Char} (hquote : c ≠ '\x22') (hslash : c ≠ '\x5c') (hcontrol : 0x20 ≤ c.toNat) :
    SpellsChar c [c]
  /-- As a backslash and a letter. -/
  | short {letter c : Char} (h : (letter, c) ∈ shortEscapes) : SpellsChar c ['\x5c', letter]
  /-- As one code unit. -/
  | unit {c : Char} {cs : List Char} (h : SpellsUnit c.toNat cs) :
    SpellsChar c ('\x5c' :: 'u' :: cs)
  /-- As a surrogate pair. -/
  | pair {c : Char} {high low : Nat} {first second : List Char}
    (hhigh : 0xD800 ≤ high ∧ high ≤ 0xDBFF) (hlow : 0xDC00 ≤ low ∧ low ≤ 0xDFFF)
    (hc : c.toNat = 0x10000 + (high - 0xD800) * 0x400 + (low - 0xDC00))
    (hfirst : SpellsUnit high first) (hsecond : SpellsUnit low second) :
    SpellsChar c ('\x5c' :: 'u' :: (first ++ '\x5c' :: 'u' :: second))

/-- How the characters of a string are written one after the other. -/
inductive SpellsChars : List Char → List Char → Prop
  | nil : SpellsChars [] []
  | cons {c : Char} {cs spelling rest : List Char} (hc : SpellsChar c spelling)
    (hrest : SpellsChars cs rest) : SpellsChars (c :: cs) (spelling ++ rest)

/-! ### Tokens -/

namespace Token

/-- The marks, each with its character. -/
def marks : List (Char × Token) :=
  [('\x7b', .openObject), ('\x7d', .closeObject), ('[', .openArray), (']', .closeArray),
    (':', .colon), (',', .comma)]

/-- The names, each with its letters. -/
def names : List (List Char × Token) :=
  [(['n', 'u', 'l', 'l'], .null), (['t', 'r', 'u', 'e'], .bool true),
    (['f', 'a', 'l', 's', 'e'], .bool false)]

/-- How a token is written. -/
inductive Spells : Token → List Char → Prop
  | mark {c : Char} {token : Token} (h : (c, token) ∈ marks) : Spells token [c]
  | name {letters : List Char} {token : Token} (h : (letters, token) ∈ names) :
    Spells token letters
  | number {value : Number} {cs : List Char} (h : SpellsNumber value cs) :
    Spells (.number (some value)) cs
  | string {value : String} {cs : List Char} (h : SpellsChars value.toList cs) :
    Spells (.string (some value)) ('\x22' :: (cs ++ ['\x22']))

/-- Whether a token is a mark: a bracket, a colon or a comma. -/
def IsMark (token : Token) : Prop :=
  token ∈ marks.map Prod.snd

/-- Whether a token is a mark can be decided. -/
instance (token : Token) : Decidable token.IsMark :=
  inferInstanceAs (Decidable (token ∈ marks.map Prod.snd))

end Token

/-- How tokens are written one after the other, with white space around them. -/
inductive Layout : List Token → List Char → Prop
  | space {spaces : List Char} (h : ∀ c ∈ spaces, Lexer.isSpace c = true) : Layout [] spaces
  | token {spaces spelling rest : List Char} {token : Token} {tokens : List Token}
    (hspaces : ∀ c ∈ spaces, Lexer.isSpace c = true) (htoken : token.Spells spelling)
    (hrest : Layout tokens rest) : Layout (token :: tokens) (spaces ++ (spelling ++ rest))

/-- Tokens of which no two that stand side by side could run into one. -/
def Separated (tokens : List Token) : Prop :=
  tokens.IsChain fun first second => first.IsMark ∨ second.IsMark

/-! ### Reading strings -/

namespace Quoted

/-- A string of which certain characters have been read, and nothing begun. -/
def between (chars : List Char) : Quoted where
  chars := some chars
  high := none
  escape := .none

/-- A code unit is taken in the same way whatever escape it came by. -/
lemma pushUnit_escape (q : Quoted) (escape : Escape) (unit : Nat) :
    { q with escape }.pushUnit unit = q.pushUnit unit := rfl

end Quoted

/-- The value of a hexadecimal digit is read from each of its spellings. -/
lemma SpellsHex.hexValue?_eq {digit : Nat} {c : Char} (h : SpellsHex digit c) :
    Quoted.hexValue? c = some digit := by
  have hall : ∀ digit < 16, Quoted.hexValue? (Nat.digitChar digit) = some digit ∧
      Quoted.hexValue? (Nat.digitChar digit).toUpper = some digit := by
    decide
  obtain ⟨hdigit, rfl | rfl⟩ := h
  · exact (hall digit hdigit).1
  · exact (hall digit hdigit).2

/-- No character is half of a surrogate pair. -/
lemma not_isHigh_toNat (c : Char) :
    Quoted.isHigh c.toNat = false ∧ Quoted.isLow c.toNat = false := by
  have hvalid : c.toNat < 0xD800 ∨ 0xDFFF < c.toNat ∧ c.toNat < 0x110000 := c.valid
  simp only [Quoted.isHigh, Quoted.isLow, Bool.and_eq_false_iff, decide_eq_false_iff_not]
  omega

namespace Lexer

/-- Without a character the lexer stays as it is. -/
lemma run?_nil (lexer : Lexer) : lexer.run? [] = some lexer := rfl

/-- The lexer takes one character and then the others. -/
lemma run?_cons (lexer : Lexer) (c : Char) (cs : List Char) :
    lexer.run? (c :: cs) = (lexer.step? c).bind (·.run? cs) := rfl

/-- Digits of a code unit are read one after the other. -/
lemma run?_unit (done : List Token) (q : Quoted) {digits : List Nat} {cs : List Char}
    (h : List.Forall₂ SpellsHex digits cs) (hne : digits ≠ []) (value : Nat) :
    run? ⟨done, .quoted { q with escape := .unit digits.length value }⟩ cs =
      some ⟨done, .quoted (q.pushUnit (hexNumber value digits))⟩ := by
  induction h generalizing value with
  | nil => exact absurd rfl hne
  | @cons digit c digits cs hdigit hrest ih =>
    have hstep : step? ⟨done, .quoted { q with escape := .unit (digits.length + 1) value }⟩ c =
        some ⟨done, .quoted (if digits.length + 1 ≤ 1 then q.pushUnit (16 * value + digit)
          else { q with escape := .unit digits.length (16 * value + digit) })⟩ := by
      simp only [step?, quotedStep?, Quoted.hexStep?, hdigit.hexValue?_eq, Option.map_some,
        Quoted.pushUnit_escape, Nat.add_sub_cancel]
    rw [List.length_cons, run?_cons, hstep, Option.bind_some]
    cases hrest with
    | nil => rfl
    | cons hnext hrest => exact ih (List.cons_ne_nil _ _) (16 * value + digit)

/-- A code unit is read from its escape. -/
lemma run?_escapedUnit (done : List Token) (q : Quoted) (hq : q.escape = .none) {unit : Nat}
    {cs : List Char} (h : SpellsUnit unit cs) :
    run? ⟨done, .quoted q⟩ ('\x5c' :: 'u' :: cs) = some ⟨done, .quoted (q.pushUnit unit)⟩ := by
  obtain ⟨digits, hdigits, hlength, rfl⟩ := h
  have hne : digits ≠ [] := by
    rintro rfl
    simp at hlength
  have hopen : run? ⟨done, .quoted q⟩ ['\x5c', 'u'] =
      some ⟨done, .quoted { q with escape := .unit digits.length 0 }⟩ := by
    simp [run?_cons, run?_nil, step?, quotedStep?, hq, hlength]
  have hsplit : '\x5c' :: 'u' :: cs = ['\x5c', 'u'] ++ cs := rfl
  rw [hsplit, run?_append, hopen, Option.bind_some, run?_unit done q hdigits hne 0]

/-- Between two characters of a string, reading takes one character to the next. -/
lemma run?_spellsChar (done : List Token) (chars : List Char) {c : Char} {cs : List Char}
    (h : SpellsChar c cs) :
    run? ⟨done, .quoted (.between chars)⟩ cs = some ⟨done, .quoted (.between (c :: chars))⟩ := by
  cases h with
  | plain hquote hslash hcontrol =>
    have hcontrol' : ¬c.toNat < 0x20 := by omega
    simp [run?_cons, run?_nil, step?, quotedStep?, Quoted.between, Quoted.push, hquote, hslash,
      hcontrol']
  | @short letter _ h =>
    have hall : ∀ pair ∈ shortEscapes, pair.1 ≠ 'u' ∧
        Quoted.escapedChar? pair.1 = some pair.2 := by
      decide
    obtain ⟨hu, hescaped⟩ := hall _ h
    simp [run?_cons, run?_nil, step?, quotedStep?, Quoted.between, Quoted.push, hu, hescaped]
  | unit h =>
    obtain ⟨hhigh, hlow⟩ := not_isHigh_toNat c
    rw [run?_escapedUnit done _ rfl h]
    simp [Quoted.pushUnit, Quoted.between, hhigh, hlow, Quoted.push]
  | @pair _ high low first second hhigh hlow hc hfirst hsecond =>
    have hisHigh : Quoted.isHigh high = true := by simpa [Quoted.isHigh] using hhigh
    have hisLow : Quoted.isLow low = true := by simpa [Quoted.isLow] using hlow
    have hpair : Quoted.pairChar high low = c := by
      rw [Quoted.pairChar, ← hc, Char.ofNat_toNat]
    have hhalf : (Quoted.between chars).pushUnit high =
        { Quoted.between chars with high := some high } := by
      simp [Quoted.pushUnit, Quoted.between, hisHigh]
    have hsplit : '\x5c' :: 'u' :: (first ++ '\x5c' :: 'u' :: second) =
        ('\x5c' :: 'u' :: first) ++ '\x5c' :: 'u' :: second := rfl
    rw [hsplit, run?_append, run?_escapedUnit done _ rfl hfirst, Option.bind_some, hhalf,
      run?_escapedUnit done _ rfl hsecond]
    simp [Quoted.pushUnit, Quoted.between, hisLow, hpair, Quoted.push]

/-- Reading takes the characters of a string one after the other. -/
lemma run?_spellsChars (done : List Token) (chars : List Char) {text cs : List Char}
    (h : SpellsChars text cs) :
    run? ⟨done, .quoted (.between chars)⟩ cs =
      some ⟨done, .quoted (.between (text.reverse ++ chars))⟩ := by
  induction h generalizing chars with
  | nil => rfl
  | cons hc _ ih =>
    rw [run?_append, run?_spellsChar done chars hc, Option.bind_some, ih]
    simp

/-- A string is read from what stands between its quotes. -/
lemma run?_string (done : List Token) {value : String} {cs : List Char}
    (h : SpellsChars value.toList cs) :
    run? ⟨done, .idle⟩ ('\x22' :: (cs ++ ['\x22'])) =
      some ⟨.string (some value) :: done, .idle⟩ := by
  have hopen : step? ⟨done, .idle⟩ '\x22' = some ⟨done, .quoted (.between [])⟩ := by
    simp [step?, begin?, isSpace, Quoted.start, Quoted.between]
  have hclose : step? ⟨done, .quoted (.between (value.toList.reverse ++ []))⟩ '\x22' =
      some ⟨.string (some value) :: done, .idle⟩ := by
    simp [step?, quotedStep?, Quoted.between, Quoted.text?]
  rw [run?_cons, hopen, Option.bind_some, run?_append, run?_spellsChars done [] h,
    Option.bind_some, run?_cons, hclose]
  rfl

/-! ### Reading tokens -/

/-- Whether a character ends every token before it: white space and marks do. -/
def IsDelimiter (c : Char) : Prop :=
  isSpace c = true ∨ ∃ token, (c, token) ∈ Token.marks

/-- A delimiter belongs neither to a name nor to a numeral. -/
lemma IsDelimiter.not_isLower {c : Char} (h : IsDelimiter c) :
    c.isLower = false ∧ isNumeralChar c = false := by
  rcases h with hspace | ⟨token, hmark⟩
  · simp only [isSpace, Bool.or_eq_true, decide_eq_true_eq] at hspace
    rcases hspace with ((rfl | rfl) | rfl) | rfl <;> decide
  · have hall : ∀ pair ∈ Token.marks, pair.1.isLower = false ∧ isNumeralChar pair.1 = false := by
      decide
    exact hall _ hmark

/-- A state in which certain tokens are finished as soon as a delimiter or the end follows. -/
structure Settled (lexer : Lexer) (done : List Token) : Prop where
  flush : lexer.flush? = some done
  next : ∀ c, IsDelimiter c → lexer.step? c = begin? done c

/-- A lexer between tokens has settled on the tokens that are done. -/
lemma settled_idle (done : List Token) : Settled ⟨done, .idle⟩ done :=
  ⟨rfl, fun _ _ => rfl⟩

/-- A name that is read is settled. -/
lemma settled_word {done : List Token} {letters : List Char} {token : Token}
    (h : wordToken? letters = some token) :
    Settled ⟨done, .word letters.reverse⟩ (token :: done) := by
  have hflush : flush? ⟨done, .word letters.reverse⟩ = some (token :: done) := by
    simp [flush?, h]
  refine ⟨hflush, ?_⟩
  intro c hc
  simp [step?, hc.not_isLower.1, hflush]

/-- A numeral that is read is settled. -/
lemma settled_numeral {done : List Token} {cs : List Char} {numeral : Numeral}
    (h : Numeral.read? cs = some numeral) :
    Settled ⟨done, .numeral cs.reverse⟩ (.number numeral.value? :: done) := by
  have hflush : flush? ⟨done, .numeral cs.reverse⟩ = some (.number numeral.value? :: done) := by
    simp [flush?, h]
  refine ⟨hflush, ?_⟩
  intro c hc
  simp [step?, hc.not_isLower.2, hflush]

/-- The characters of a numeral are read into it. -/
lemma run?_numeralChars (done : List Token) (chars : List Char) {cs : List Char}
    (h : ∀ c ∈ cs, isNumeralChar c = true) :
    run? ⟨done, .numeral chars⟩ cs = some ⟨done, .numeral (cs.reverse ++ chars)⟩ := by
  induction cs generalizing chars with
  | nil => rfl
  | cons c cs ih =>
    rw [List.forall_mem_cons] at h
    have hstep : step? ⟨done, .numeral chars⟩ c = some ⟨done, .numeral (c :: chars)⟩ := by
      simp [step?, h.1]
    rw [run?_cons, hstep, Option.bind_some, ih _ h.2]
    simp

/-- A number is read from each of its spellings. -/
lemma exists_run?_number (done : List Token) {value : Number} {cs : List Char}
    (h : SpellsNumber value cs) :
    ∃ lexer, run? ⟨done, .idle⟩ cs = some lexer ∧
      lexer.Settled (.number (some value) :: done) := by
  obtain ⟨numeral, hread, hvalue⟩ := spellsNumber_iff.1 h
  have hspells := Numeral.spells_of_read?_eq_some hread
  have hchars := hspells.isNumeralChar
  obtain ⟨c, rest, rfl, hc⟩ := hspells.exists_head
  have hbegin : step? ⟨done, .idle⟩ c = some ⟨done, .numeral [c]⟩ := by
    have hspace : isSpace c = false := by
      by_contra hspace
      have hnot := IsDelimiter.not_isLower (.inl (by simpa using hspace))
      simp [hchars c List.mem_cons_self] at hnot
    have hquote : c ≠ '\x22' := by
      rintro rfl
      simp at hc
    simp [step?, begin?, hspace, hquote, hc]
  refine ⟨⟨done, .numeral (c :: rest).reverse⟩, ?_, ?_⟩
  · rw [run?_cons, hbegin, Option.bind_some,
      run?_numeralChars done [c] fun d hd => hchars d (List.mem_cons_of_mem _ hd)]
    simp
  · rw [← hvalue]
    exact settled_numeral hread

/-- A name is read from its letters. -/
lemma exists_run?_name (done : List Token) {letters : List Char} {token : Token}
    (h : (letters, token) ∈ Token.names) :
    ∃ lexer, run? ⟨done, .idle⟩ letters = some lexer ∧ lexer.Settled (token :: done) := by
  have hword : ∀ pair ∈ Token.names, wordToken? pair.1 = some pair.2 := by decide
  refine ⟨⟨done, .word letters.reverse⟩, ?_, settled_word (hword _ h)⟩
  simp only [Token.names, List.mem_cons, Prod.mk.injEq, List.not_mem_nil, or_false] at h
  rcases h with ⟨rfl, _⟩ | ⟨rfl, _⟩ | ⟨rfl, _⟩ <;> rfl

/-- A mark is read after any settled state. -/
lemma Settled.step?_mark {lexer : Lexer} {done : List Token} (hlexer : lexer.Settled done)
    {c : Char} {token : Token} (h : (c, token) ∈ Token.marks) :
    lexer.step? c = some ⟨token :: done, .idle⟩ := by
  rw [hlexer.next c (.inr ⟨token, h⟩)]
  simp only [Token.marks, List.mem_cons, Prod.mk.injEq, List.not_mem_nil, or_false] at h
  rcases h with ⟨rfl, rfl⟩ | ⟨rfl, rfl⟩ | ⟨rfl, rfl⟩ | ⟨rfl, rfl⟩ | ⟨rfl, rfl⟩ | ⟨rfl, rfl⟩ <;> rfl

/-- A token is read from each of its spellings. -/
lemma exists_run?_token (done : List Token) {token : Token} {cs : List Char}
    (h : token.Spells cs) :
    ∃ lexer, run? ⟨done, .idle⟩ cs = some lexer ∧ lexer.Settled (token :: done) := by
  cases h with
  | mark h =>
    refine ⟨⟨token :: done, .idle⟩, ?_, settled_idle _⟩
    rw [run?_cons, (settled_idle done).step?_mark h]
    rfl
  | name h => exact exists_run?_name done h
  | number h => exact exists_run?_number done h
  | string h => exact ⟨_, run?_string done h, settled_idle _⟩

/-! ### Reading layouts -/

/-- White space between tokens leads nowhere. -/
lemma run?_spaces (done : List Token) {spaces : List Char}
    (h : ∀ c ∈ spaces, isSpace c = true) :
    run? ⟨done, .idle⟩ spaces = some ⟨done, .idle⟩ := by
  induction spaces with
  | nil => rfl
  | cons c rest ih =>
    rw [List.forall_mem_cons] at h
    have hstep : step? ⟨done, .idle⟩ c = some ⟨done, .idle⟩ := by
      simp [step?, begin?, h.1]
    rw [run?_cons, hstep, Option.bind_some, ih h.2]

/-- White space keeps a state settled. -/
lemma Settled.exists_run?_spaces {lexer : Lexer} {done : List Token} (hlexer : lexer.Settled done)
    {spaces : List Char} (h : ∀ c ∈ spaces, isSpace c = true) :
    ∃ next, lexer.run? spaces = some next ∧ next.Settled done := by
  cases spaces with
  | nil => exact ⟨lexer, rfl, hlexer⟩
  | cons c rest =>
    rw [List.forall_mem_cons] at h
    have hstep : lexer.step? c = some ⟨done, .idle⟩ := by
      rw [hlexer.next c (.inl h.1)]
      simp [begin?, h.1]
    refine ⟨⟨done, .idle⟩, ?_, settled_idle done⟩
    rw [run?_cons, hstep, Option.bind_some, run?_spaces done h.2]

/-- A mark is written as one character. -/
lemma exists_mark_of_spells {token : Token} {spelling : List Char} (hmark : token.IsMark)
    (h : token.Spells spelling) : ∃ c, (c, token) ∈ Token.marks ∧ spelling = [c] := by
  have hnames : ∀ name ∈ Token.names, ¬name.2.IsMark := by decide
  cases h with
  | mark h => exact ⟨_, h, rfl⟩
  | name h => exact absurd hmark (hnames _ h)
  | number h => simp [Token.IsMark, Token.marks] at hmark
  | string h => simp [Token.IsMark, Token.marks] at hmark

/-- A text that lays out separated tokens is read as these tokens, from a state in which nothing is
being read, or from a settled one when a mark comes first. -/
theorem exists_run?_layout {tokens : List Token} {cs : List Char} (h : Layout tokens cs)
    (hseparated : Separated tokens) {lexer : Lexer} {done : List Token}
    (hlexer : lexer.Settled done)
    (hfirst : lexer = ⟨done, .idle⟩ ∨ ∀ token, tokens.head? = some token → token.IsMark) :
    ∃ next, lexer.run? cs = some next ∧ next.Settled (tokens.reverse ++ done) := by
  induction h generalizing lexer done with
  | space hspaces => exact hlexer.exists_run?_spaces hspaces
  | @token spaces spelling rest token tokens hspaces htoken hrest ih =>
    obtain ⟨hneighbour, htail⟩ := List.isChain_cons.1 hseparated
    by_cases hmark : token.IsMark
    · -- a mark ends whatever stands before it, and nothing is being read after it
      obtain ⟨c, hc, rfl⟩ := exists_mark_of_spells hmark htoken
      obtain ⟨middle, hmiddle, hsettled⟩ := hlexer.exists_run?_spaces hspaces
      obtain ⟨next, hnext, hdone⟩ := ih htail (settled_idle (token :: done)) (.inl rfl)
      refine ⟨next, ?_, by simpa using hdone⟩
      rw [run?_append, hmiddle, Option.bind_some, List.singleton_append, run?_cons,
        hsettled.step?_mark hc, Option.bind_some, hnext]
    · -- no mark: nothing is being read before it, and a mark comes next
      obtain rfl : lexer = ⟨done, .idle⟩ :=
        hfirst.resolve_right fun hall => hmark (hall token rfl)
      obtain ⟨middle, hmiddle, hsettled⟩ := exists_run?_token done htoken
      have hnextMark : ∀ second, tokens.head? = some second → second.IsMark :=
        fun second hsecond => (hneighbour second hsecond).resolve_left hmark
      obtain ⟨next, hnext, hdone⟩ := ih htail hsettled (.inr hnextMark)
      refine ⟨next, ?_, by simpa using hdone⟩
      rw [run?_append, run?_spaces done hspaces, Option.bind_some, run?_append, hmiddle,
        Option.bind_some, hnext]

end Lexer

/-- The tokens of a text that lays out separated tokens. -/
theorem tokens?_eq_of_layout {tokens : List Token} {cs : List Char} (h : Layout tokens cs)
    (hseparated : Separated tokens) : tokens? cs = some tokens := by
  obtain ⟨next, hnext, hsettled⟩ :=
    Lexer.exists_run?_layout h hseparated (Lexer.settled_idle []) (.inl rfl)
  simp [tokens?, Lexer.start, hnext, hsettled.flush]

end Json

end PatternSql
