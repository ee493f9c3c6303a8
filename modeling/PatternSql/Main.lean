import PatternSql.Session

/-!
# The command

With the name of a file the command answers the pattern in it; without one it answers
patterns from standard input, line by line.  Reading and printing is all that happens here: what a
line leads to is `Session.react`, the same step that a run over all lines takes.
-/

namespace PatternSql

namespace Main

/-- What is said of a text that is no pattern: the reader of patterns gives no reason of its own. -/
def diagnose (_ : String) : String := "not a pattern"

/-- What stands under the name of a file. -/
def readEntry (path : String) : IO FileEntry := do
  try
    let bytes ← IO.FS.readBinFile path
    return .content bytes
  catch
    | .noFileOrDirectory _ _ _ => return .missing
    | _ => return .unreadable

/-- A directory of the files with given names. -/
def readDirectory (paths : List String) : IO Directory := do
  let entries ← paths.mapM fun path => return (path, ← readEntry path)
  return fun path => (entries.lookup path).getD .missing

/-- The bytes up to a line feed, or `none` at the end of the input. -/
partial def readLine (input : IO.FS.Stream) (line : ByteArray) : IO (Option ByteArray) := do
  let next ← input.read 1
  if next.isEmpty then return if line.isEmpty then none else some line
  else if next.get! 0 = 10 then return some line
  else readLine input (line ++ next)

/-- Print why a run failed, if it says so, and give the exit code. -/
def finish (ending : Session.Ending) : IO UInt32 := do
  if let some heading := ending.failure? then
    IO.eprintln ("Error: " ++ heading)
  return ending.exitCode.toUInt32

/-- React to the lines of an input. -/
partial def readLoop (source : DataSource) (input : IO.FS.Stream) : IO UInt32 := do
  if ← input.isTty then
    IO.print "stix> "
    (← IO.getStdout).flush
  match ← readLine input .empty with
  | none => finish .finished
  | some bytes =>
    match Session.react diagnose source (Session.decodeLine bytes) with
    | .stop ending => finish ending
    | .print lines =>
      lines.forM fun (text : String) => IO.println text
      readLoop source input

/-- Answer the pattern in a file. -/
def runFile (source : DataSource) (path : String) : IO UInt32 := do
  let outcome := Session.runFile diagnose source (← readDirectory [path]) path
  outcome.printed.forM fun (text : String) => IO.println text
  finish outcome.ending

end Main

end PatternSql

open PatternSql in
/-- The command. -/
def main (arguments : List String) : IO UInt32 := do
  let directory ← Main.readDirectory
    [Session.fieldsPath, Session.operatorsPath, Session.registryPath]
  let source := Session.dataSource directory
  match arguments with
  | path :: _ => Main.runFile source path
  | [] =>
    Session.banner.forM fun (text : String) => IO.println text
    Main.readLoop source (← IO.getStdin)
