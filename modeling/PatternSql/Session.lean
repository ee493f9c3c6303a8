import PatternSql.Pattern.Decode
import PatternSql.Predicate.Compile
import PatternSql.Query.Select
import PatternSql.Source.Config
import PatternSql.Text.Erasure

/-!
# Sessions

What the command does, apart from input and output.  It describes the data source by
the configuration files that it finds, and then either answers one pattern in a file or
answers patterns line by line until `:quit` or the end of the input.

A text that is no pattern is refused together with what the JSON library says of it.  This library
is not part of the development, so its wording is a parameter: `diagnose` gives what it says of a
text that is no pattern.
-/

namespace PatternSql

namespace Session

/-! ### The data source -/

/-- The file of field columns. -/
def fieldsPath : String := "stix_field_map.json"

/-- The file of operator words. -/
def operatorsPath : String := "operators.json"

/-- The file of column shapes. -/
def registryPath : String := "reference_types.json"

/-- The table that statements ask. -/
def table : String := "events"

/-- The data source described by the files of a directory; the sample mapping and the sample
registry stand in for files that give nothing. -/
def dataSource (directory : Directory) : DataSource where
  mapping := (Mapping.load directory fieldsPath operatorsPath).toOption.getD .sample
  registry := (Registry.load directory registryPath).toOption.getD .sample

/-! ### Answers -/

/-- Why a pattern has no answer. -/
inductive Refusal where
  /-- The text is no pattern, for a reason. -/
  | unreadable (reason : String)
  /-- The pattern has a fault. -/
  | faulty (fault : Fault)
deriving DecidableEq

/-- The wording of a refusal by itself, without its cause. -/
def Refusal.heading : Refusal → String
  | .unreadable _ => "无法解析模式JSON"
  | .faulty fault => fault.message

/-- The wording of a refusal, followed by its cause if it has one. -/
def Refusal.message : Refusal → String
  | .unreadable reason => (unreadable reason).heading ++ ": " ++ reason
  | .faulty fault => (faulty fault).heading

/-- The lines for a predicate. -/
def predicateLines (predicate : String) : List String :=
  match Select.statement? table predicate with
  | some statement => ["[查询条件]: " ++ predicate, "[生成的 SQL]: " ++ statement]
  | none => ["⚠️ 模式中没有适用于该数据源的条件"]

variable (diagnose : String → String) (source : DataSource)

/-- The lines that answer a pattern. -/
def answer (text : String) : Except Refusal (List String) :=
  match Pattern.read? text with
  | none => .error (.unreadable (diagnose text))
  | some pattern =>
    match source.predicate pattern with
    | .error fault => .error (.faulty fault)
    | .ok predicate => .ok (predicateLines predicate)

/-! ### Runs -/

/-- How a run ends. -/
inductive Ending where
  /-- Everything asked for is answered. -/
  | finished
  /-- The run failed, and reports why.  Of the report only the heading is kept, and not the causes
  that are listed under it. -/
  | failed (heading : String)
  /-- The run broke off without a word. -/
  | aborted
deriving DecidableEq

/-- The exit code of a run. -/
def Ending.exitCode : Ending → Nat
  | .finished => 0
  | .failed _ => 1
  | .aborted => 101

/-- The heading of the report on why a run failed, if there is one. -/
def Ending.failure? : Ending → Option String
  | .failed heading => some heading
  | _ => none

/-- What a run leaves: the lines that it printed, and its ending. -/
structure Outcome where
  printed : List String
  ending : Ending
deriving DecidableEq

/-- Print lines before a run. -/
def Outcome.after (outcome : Outcome) (lines : List String) : Outcome :=
  { outcome with printed := lines ++ outcome.printed }

/-- Answer the pattern in a file. -/
def runFile (directory : Directory) (path : String) : Outcome :=
  match (directory path).text? with
  | none => { printed := [], ending := .failed ("无法读取文件 " ++ path) }
  | some text =>
    match answer diagnose source text with
    | .ok lines => { printed := lines, ending := .finished }
    | .error refusal => { printed := [], ending := .failed refusal.heading }

/-- The lines printed before the first line is read. -/
def banner : List String :=
  ["--- STIX Dispatcher: 模式到 SQL 翻译器 ---", "每行输入一个JSON格式的模式, 输入 :quit 退出"]

/-- Why a line of the input cannot be taken up. -/
inductive LineFault where
  /-- The line is not in UTF-8. -/
  | undecodable
  /-- A backspace of the line would cut a character in two. -/
  | unerasable
deriving DecidableEq

/-- The ending of a session at a line that cannot be taken up. -/
def LineFault.ending : LineFault → Ending
  | .undecodable => .failed "stream did not contain valid UTF-8"
  | .unerasable => .aborted

/-- What a line of the input leads to. -/
inductive Reaction where
  /-- The session ends. -/
  | stop (ending : Ending)
  /-- These lines are printed, and the next line is read. -/
  | print (lines : List String)
deriving DecidableEq

/-- A line without the blank characters at its ends. -/
def trimmed (line : String) : String :=
  String.ofList (Text.trim line.toList)

/-- The lines printed for a text: those that answer it, or one that says why there are none. -/
def reply (text : String) : List String :=
  match answer diagnose source text with
  | .ok lines => lines
  | .error refusal => ["✗ 翻译失败: " ++ refusal.message]

/-- The reaction to a line of the input.  A line that cannot be taken up ends the session, and a
line of blank characters prints nothing. -/
def react : Except LineFault String → Reaction
  | .error fault => .stop fault.ending
  | .ok line =>
    if trimmed line = "" then .print []
    else if trimmed line = ":quit" then .stop .finished
    else .print (reply diagnose source (trimmed line))

/-- React to lines one after the other, up to the first one that ends the session. -/
def runLines : List (Except LineFault String) → Outcome
  | [] => { printed := [], ending := .finished }
  | line :: rest =>
    match react diagnose source line with
    | .stop ending => { printed := [], ending }
    | .print lines => (runLines rest).after lines

/-- A line of the input, decoded from UTF-8 and with its backspaces carried out. -/
def decodeLine (bytes : ByteArray) : Except LineFault String :=
  match String.fromUTF8? bytes with
  | none => .error .undecodable
  | some line =>
    match Text.erased? line.toList with
    | none => .error .unerasable
    | some typed => .ok (String.ofList typed)

/-- The lines of an input; the last one may lack its line feed. -/
def decodeLines (input : List UInt8) : List (Except LineFault String) :=
  let lines := Text.pieces 10 input
  let ended := if lines.getLast? = some [] then lines.dropLast else lines
  ended.map fun line => decodeLine ⟨line.toArray⟩

/-- Answer the lines of an input. -/
def runInput (input : List UInt8) : Outcome :=
  (runLines diagnose source (decodeLines input)).after banner

end Session

end PatternSql
