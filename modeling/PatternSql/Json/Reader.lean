import PatternSql.Json.Token

/-!
# Reading values

Tokens are put together to a value by a machine with a stack: one frame for each
array or object that is open around the place reached.  At most `maxDepth` brackets
may be open at once.

Some readers have no use for certain members.  Such a member is passed over: its
value has to be well formed but need not denote anything, and brackets inside it are
not counted.  Passed-over values come out as `null`.
-/

namespace PatternSql

namespace Json

/-- How many brackets may be open at once. -/
def maxDepth : Nat := 127

/-- Which members are passed over: told by the number of open brackets around the member and by
its name. -/
abbrev PassOver := Nat → String → Bool

/-- Pass over no member. -/
def PassOver.nothing : PassOver := fun _ _ => false

/-- An array or object that is open, waiting for a value.  What stands in it so far is kept with
the last one first. -/
inductive Frame where
  | array (items : List Json) (passed : Bool)
  | object (members : List (String × Json)) (name : String) (passed : Bool)

/-- Whether the value that a frame waits for is passed over. -/
def Frame.passed : Frame → Bool
  | .array _ passed => passed
  | .object _ _ passed => passed

/-- Whether the value at the top of a stack is passed over. -/
def isPassed : List Frame → Bool
  | [] => false
  | frame :: _ => frame.passed

/-- What comes next at the place reached. -/
inductive Reader where
  /-- A value, or the end of the array when it has just been opened. -/
  | beforeValue (stack : List Frame) (closable : Bool)
  /-- The name of a member, or the end of the object when it has just been opened. -/
  | beforeName (stack : List Frame) (members : List (String × Json)) (closable : Bool)
  /-- The colon after the name of a member. -/
  | beforeColon (stack : List Frame) (members : List (String × Json)) (name : String)
  /-- A value has been read. -/
  | afterValue (stack : List Frame) (value : Json)

namespace Reader

/-- The value of a token that is needed unless the place is passed over. -/
def needed? {α : Type} (stack : List Frame) (wrap : α → Json) : Option α → Option Reader
  | some value => some (.afterValue stack (wrap value))
  | none => if isPassed stack then some (.afterValue stack .null) else none

/-- Whether one more bracket may be opened. -/
def mayOpen (stack : List Frame) : Bool :=
  isPassed stack || stack.length < maxDepth

/-- A token where a value is to come. -/
def valueStep? (stack : List Frame) (closable : Bool) : Token → Option Reader
  | .null => some (.afterValue stack .null)
  | .bool value => some (.afterValue stack (.bool value))
  | .number value => needed? stack Json.number value
  | .string value => needed? stack Json.string value
  | .openArray =>
    if mayOpen stack then some (.beforeValue (.array [] (isPassed stack) :: stack) true) else none
  | .openObject => if mayOpen stack then some (.beforeName stack [] true) else none
  | .closeArray =>
    match stack with
    | .array [] _ :: outer => if closable then some (.afterValue outer (.array [])) else none
    | _ => none
  | _ => none

/-- A token where the name of a member is to come. -/
def nameStep? (stack : List Frame) (members : List (String × Json)) (closable : Bool) :
    Token → Option Reader
  | .string (some name) => some (.beforeColon stack members name)
  | .string none => if isPassed stack then some (.beforeColon stack members "") else none
  | .closeObject => if closable then some (.afterValue stack (.object [])) else none
  | _ => none

/-- A token after a value. -/
def afterStep? (stack : List Frame) (value : Json) (token : Token) : Option Reader :=
  match token, stack with
  | .comma, .array items passed :: outer =>
    some (.beforeValue (.array (value :: items) passed :: outer) false)
  | .comma, .object members name _ :: outer =>
    some (.beforeName outer ((name, value) :: members) false)
  | .closeArray, .array items _ :: outer =>
    some (.afterValue outer (.array (value :: items).reverse))
  | .closeObject, .object members name _ :: outer =>
    some (.afterValue outer (.object ((name, value) :: members).reverse))
  | _, _ => none

/-- Take the next token. -/
def step? (skip : PassOver) : Reader → Token → Option Reader
  | .beforeValue stack closable, token => valueStep? stack closable token
  | .beforeName stack members closable, token => nameStep? stack members closable token
  | .beforeColon stack members name, .colon =>
    let passed := isPassed stack || skip (stack.length + 1) name
    some (.beforeValue (.object members name passed :: stack) false)
  | .beforeColon _ _ _, _ => none
  | .afterValue stack value, token => afterStep? stack value token

/-- A value is to come, and nothing is open. -/
def start : Reader := .beforeValue [] false

/-- Take tokens one after the other. -/
def run? (skip : PassOver) (reader : Reader) (tokens : List Token) : Option Reader :=
  tokens.foldlM (step? skip) reader

/-- The value that has been read, when nothing is left open. -/
def result? : Reader → Option Json
  | .afterValue [] value => some value
  | _ => none

/-- Tokens are read in two parts, the second from where the first led. -/
theorem run?_append (skip : PassOver) (reader : Reader) (first second : List Token) :
    reader.run? skip (first ++ second) = (reader.run? skip first).bind (·.run? skip second) := by
  simp [run?, List.foldlM_append, bind]

end Reader

/-- The value of a sequence of tokens. -/
def ofTokens? (skip : PassOver) (tokens : List Token) : Option Json :=
  (Reader.start.run? skip tokens).bind Reader.result?

/-- The value of a text, with certain members passed over. -/
def readOver? (skip : PassOver) (text : String) : Option Json :=
  (tokens? text.toList).bind (ofTokens? skip)

/-- The value of a text. -/
def read? (text : String) : Option Json :=
  readOver? PassOver.nothing text

end Json

end PatternSql
