import PatternSql.Json.Reader
import PatternSql.Source.Basic

/-!
# Configuration files

Mappings and registries are read from JSON.  In a file of field columns an object type
may carry further members, which are passed over; everything else has to be as
described.  A repeated key of a map keeps its last value.
-/

namespace PatternSql

/-! ### JSON forms -/

/-- A map from texts, each value read by `read?`. -/
def KeyMap.ofJson? {α : Type} (read? : Json → Option α) (value : Json) : Option (KeyMap α) :=
  value.members?.bind fun members =>
    (members.mapM fun member => (read? member.2).map fun entry => (member.1, entry)).map .ofList

/-- The values of named parts: of an object in which each of the names stands once, or of an array
of just these parts in order. -/
def Json.parts? (names : List String) : Json → Option (List Json)
  | .object members =>
    names.mapM fun name =>
      match members.filter fun member => member.1 == name with
      | [member] => some member.2
      | _ => none
  | .array items => if items.length = names.length then some items else none
  | _ => none

/-- The columns of the fields of one kind of object, under `fields`. -/
def FieldColumns.ofJson? (value : Json) : Option FieldColumns :=
  match value.parts? ["fields"] with
  | some [fields] => KeyMap.ofJson? Json.strings? fields
  | _ => none

/-- The columns of the fields of every kind of object. -/
def Mapping.fieldsOfJson? (value : Json) : Option (KeyMap FieldColumns) :=
  KeyMap.ofJson? FieldColumns.ofJson? value

/-- The words for operators. -/
def Mapping.operatorsOfJson? (value : Json) : Option (KeyMap String) :=
  KeyMap.ofJson? Json.string? value

/-- A mapping, its parts under `fields` and `operators`. -/
def Mapping.ofJson? (value : Json) : Option Mapping :=
  match value.parts? ["fields", "operators"] with
  | some [fields, operators] => do
    let fields ← Mapping.fieldsOfJson? fields
    let operators ← Mapping.operatorsOfJson? operators
    pure { fields, operators }
  | _ => none

/-- A shape, by its name. -/
def Shape.ofJson? (value : Json) : Option Shape :=
  (value.caseName? Json.isNull).bind Shape.ofName?

/-- A list of shapes. -/
def Shape.listOfJson? (value : Json) : Option (List Shape) :=
  value.items?.bind fun items => items.mapM Shape.ofJson?

/-- A registry: the shapes of every column. -/
def Registry.ofJson? (value : Json) : Option Registry :=
  (KeyMap.ofJson? Shape.listOfJson? value).map fun columns => { columns }

/-! ### Files -/

/-- What stands under the name of a file. -/
inductive FileEntry where
  /-- Nothing. -/
  | missing
  /-- Something that has no content, such as a directory. -/
  | unreadable
  /-- A file with its content. -/
  | content (bytes : ByteArray)

/-- A place with files. -/
abbrev Directory := String → FileEntry

/-- The text of a file, when it has a content in UTF-8. -/
def FileEntry.text? : FileEntry → Option String
  | .content bytes => String.fromUTF8? bytes
  | _ => none

/-- Why a configuration file gives nothing. -/
inductive ConfigError where
  | missing (path : String)
  | unreadable (path : String)
  | malformed (path : String)
deriving DecidableEq

/-- The wording of a configuration error. -/
def ConfigError.message : ConfigError → String
  | .missing path => "配置文件不存在: " ++ path
  | .unreadable path => "无法读取配置文件 " ++ path
  | .malformed path => "无法解析JSON配置文件 " ++ path

/-- The text of a configuration file. -/
def Directory.text (directory : Directory) (path : String) : Except ConfigError String :=
  match directory path with
  | .missing => .error (.missing path)
  | entry =>
    match entry.text? with
    | some text => .ok text
    | none => .error (.unreadable path)

/-- What `read?` makes of a configuration file. -/
def Directory.load {α : Type} (directory : Directory) (read? : String → Option α)
    (path : String) : Except ConfigError α :=
  match directory.text path with
  | .error error => .error error
  | .ok text =>
    match read? text with
    | some value => .ok value
    | none => .error (.malformed path)

/-- In a file of field columns an object type is read for its `fields` alone. -/
def Mapping.passOver : Json.PassOver :=
  fun depth name => depth == 2 && name != "fields"

/-- The columns described by a text. -/
def Mapping.readFields? (text : String) : Option (KeyMap FieldColumns) :=
  (Json.readOver? Mapping.passOver text).bind Mapping.fieldsOfJson?

/-- The operator words described by a text. -/
def Mapping.readOperators? (text : String) : Option (KeyMap String) :=
  (Json.read? text).bind Mapping.operatorsOfJson?

/-- The registry described by a text. -/
def Registry.read? (text : String) : Option Registry :=
  (Json.read? text).bind Registry.ofJson?

/-- The mapping in two files, the columns read first. -/
def Mapping.load (directory : Directory) (fieldsPath operatorsPath : String) :
    Except ConfigError Mapping := do
  let fields ← directory.load Mapping.readFields? fieldsPath
  let operators ← directory.load Mapping.readOperators? operatorsPath
  .ok { fields, operators }

/-- The registry in a file. -/
def Registry.load (directory : Directory) (path : String) : Except ConfigError Registry :=
  directory.load Registry.read? path

end PatternSql
