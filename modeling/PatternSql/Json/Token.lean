import PatternSql.Json.Numeral

/-!
# Tokens

The tokens of a JSON text, read character by character.  The reader keeps the
tokens that are finished and the one that is being read; a run over a text is a
fold, so a run over two texts in a row is a run over the first and then over the
second.

A token can be well formed and yet denote nothing: a numeral beyond the finite
doubles, or a string with half of a surrogate pair.  Such a token is kept without a
value, and the reader of values decides whether one is needed.
-/

namespace PatternSql

namespace Json

/-- A token; a number or a string without a value is well formed but denotes nothing. -/
inductive Token where
  | openObject
  | closeObject
  | openArray
  | closeArray
  | colon
  | comma
  | null
  | bool (value : Bool)
  | number (value : Option Number)
  | string (value : Option String)
deriving DecidableEq

/-! ### Quoted strings -/

/-- What a backslash in a string has begun. -/
inductive Escape where
  /-- No escape is being read. -/
  | none
  /-- A backslash has been read. -/
  | marked
  /-- A code unit is being read: the hexadecimal digits still to come and the value so far. -/
  | unit (missing : Nat) (value : Nat)
deriving DecidableEq

/-- A string being read. -/
structure Quoted where
  /-- The characters so far, the last one first; `none` when an escape denoted no character. -/
  chars : Option (List Char)
  /-- The first half of a surrogate pair, when the second half is to come. -/
  high : Option Nat
  /-- The escape being read. -/
  escape : Escape
deriving DecidableEq

namespace Quoted

/-- Nothing read after the opening quote. -/
def start : Quoted where
  chars := some []
  high := none
  escape := .none

/-- Take a character of the string; it may not come between the halves of a surrogate pair. -/
def push (q : Quoted) (c : Char) : Quoted where
  chars := if q.high.isNone then q.chars.map (c :: ·) else none
  high := none
  escape := .none

/-- The string denotes nothing from here on. -/
def spoil : Quoted where
  chars := none
  high := none
  escape := .none

/-- Whether a code unit is the first half of a surrogate pair. -/
def isHigh (unit : Nat) : Bool :=
  0xD800 ≤ unit && unit ≤ 0xDBFF

/-- Whether a code unit is the second half of a surrogate pair. -/
def isLow (unit : Nat) : Bool :=
  0xDC00 ≤ unit && unit ≤ 0xDFFF

/-- The character that a surrogate pair denotes. -/
def pairChar (high low : Nat) : Char :=
  Char.ofNat (0x10000 + (high - 0xD800) * 0x400 + (low - 0xDC00))

/-- Take a code unit written as an escape. -/
def pushUnit (q : Quoted) (unit : Nat) : Quoted :=
  match q.high with
  | some high =>
    if isLow unit then { q with high := none }.push (pairChar high unit) else spoil
  | none =>
    if isHigh unit then { q with high := some unit, escape := .none }
    else if isLow unit then spoil
    else q.push (Char.ofNat unit)

/-- The character that a backslash and a letter stand for. -/
def escapedChar? : Char → Option Char
  | '\x22' => some '\x22'
  | '\x5c' => some '\x5c'
  | '/' => some '/'
  | 'b' => some '\x08'
  | 'f' => some '\x0c'
  | 'n' => some '\x0a'
  | 'r' => some '\x0d'
  | 't' => some '\x09'
  | _ => none

/-- The value of a hexadecimal digit. -/
def hexValue? (c : Char) : Option Nat :=
  if c.isDigit then some (c.toNat - 48)
  else if 'a' ≤ c ∧ c ≤ 'f' then some (c.toNat - 87)
  else if 'A' ≤ c ∧ c ≤ 'F' then some (c.toNat - 55)
  else none

/-- Take the next hexadecimal digit of a code unit. -/
def hexStep? (q : Quoted) (missing value : Nat) (c : Char) : Option Quoted :=
  (hexValue? c).map fun digit =>
    if missing ≤ 1 then q.pushUnit (16 * value + digit)
    else { q with escape := .unit (missing - 1) (16 * value + digit) }

/-- The text of a finished string; half of a surrogate pair at its end denotes nothing. -/
def text? (q : Quoted) : Option String :=
  if q.high.isNone then q.chars.map fun chars => String.ofList chars.reverse else none

end Quoted

/-! ### Reading tokens -/

/-- What is being read. -/
inductive Pending where
  /-- Between tokens. -/
  | idle
  /-- A name, its last letter first. -/
  | word (letters : List Char)
  /-- A numeral, its last character first. -/
  | numeral (chars : List Char)
  /-- A string. -/
  | quoted (state : Quoted)

/-- A reader of tokens: the finished ones, the last one first, and the one being read. -/
structure Lexer where
  done : List Token
  pending : Pending

namespace Lexer

/-- Whether a character may stand between tokens. -/
def isSpace (c : Char) : Bool :=
  c = ' ' || c = '\x09' || c = '\x0a' || c = '\x0d'

/-- Whether a character can stand in a numeral. -/
def isNumeralChar (c : Char) : Bool :=
  c.isDigit || c = '-' || c = '+' || c = '.' || c = 'e' || c = 'E'

/-- The token of a single character. -/
def mark? : Char → Option Token
  | '\x7b' => some .openObject
  | '\x7d' => some .closeObject
  | '[' => some .openArray
  | ']' => some .closeArray
  | ':' => some .colon
  | ',' => some .comma
  | _ => none

/-- The token of a name. -/
def wordToken? (letters : List Char) : Option Token :=
  if letters = ['n', 'u', 'l', 'l'] then some .null
  else if letters = ['t', 'r', 'u', 'e'] then some (.bool true)
  else if letters = ['f', 'a', 'l', 's', 'e'] then some (.bool false)
  else none

/-- Begin with a character that belongs to no earlier token. -/
def begin? (done : List Token) (c : Char) : Option Lexer :=
  if isSpace c then some ⟨done, .idle⟩
  else if c = '\x22' then some ⟨done, .quoted .start⟩
  else if c.isDigit || c = '-' then some ⟨done, .numeral [c]⟩
  else if c.isLower then some ⟨done, .word [c]⟩
  else (mark? c).map fun token => ⟨token :: done, .idle⟩

/-- The finished tokens when no further character belongs to the one being read. -/
def flush? (lexer : Lexer) : Option (List Token) :=
  match lexer.pending with
  | .idle => some lexer.done
  | .word letters => (wordToken? letters.reverse).map (· :: lexer.done)
  | .numeral chars =>
    (Numeral.read? chars.reverse).map fun numeral => .number numeral.value? :: lexer.done
  | .quoted _ => none

/-- Take the next character of a string: no control character may stand in it as such. -/
def quotedStep? (done : List Token) (q : Quoted) (c : Char) : Option Lexer :=
  match q.escape with
  | .none =>
    if c = '\x22' then some ⟨.string q.text? :: done, .idle⟩
    else if c = '\x5c' then some ⟨done, .quoted { q with escape := .marked }⟩
    else if c.toNat < 0x20 then none
    else some ⟨done, .quoted (q.push c)⟩
  | .marked =>
    if c = 'u' then some ⟨done, .quoted { q with escape := .unit 4 0 }⟩
    else (Quoted.escapedChar? c).map fun escaped => ⟨done, .quoted (q.push escaped)⟩
  | .unit missing value => (q.hexStep? missing value c).map fun next => ⟨done, .quoted next⟩

/-- Take the next character. -/
def step? (lexer : Lexer) (c : Char) : Option Lexer :=
  match lexer.pending with
  | .idle => begin? lexer.done c
  | .word letters =>
    if c.isLower then some ⟨lexer.done, .word (c :: letters)⟩
    else lexer.flush?.bind fun done => begin? done c
  | .numeral chars =>
    if isNumeralChar c then some ⟨lexer.done, .numeral (c :: chars)⟩
    else lexer.flush?.bind fun done => begin? done c
  | .quoted q => quotedStep? lexer.done q c

/-- Nothing read. -/
def start : Lexer where
  done := []
  pending := .idle

/-- Take the characters of a text one after the other. -/
def run? (lexer : Lexer) (cs : List Char) : Option Lexer :=
  cs.foldlM step? lexer

/-- Characters are read in two parts, the second from where the first led. -/
theorem run?_append (lexer : Lexer) (first second : List Char) :
    lexer.run? (first ++ second) = (lexer.run? first).bind (·.run? second) := by
  simp [run?, List.foldlM_append, bind]

end Lexer

/-- The tokens of a text. -/
def tokens? (cs : List Char) : Option (List Token) :=
  ((Lexer.start.run? cs).bind Lexer.flush?).map List.reverse

end Json

end PatternSql
