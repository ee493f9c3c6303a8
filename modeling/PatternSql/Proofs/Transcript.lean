import PatternSql.Session
import PatternSql.Proofs.Json.Documents
import Mathlib.Data.List.DropRight

/-!
# What a session prints

A session answers its lines one after the other, and keeps nothing from one line for the next.
So what it prints is put together from what each line prints when it is the only one
(`printedAlone`), up to the first line that ends the session (`runLines_map_ok`).  This does not
depend on what is said of a text that is no pattern: everything is stated for any `diagnose`.

A line is answered without the blank characters at its ends, a file as it stands.  This makes
no difference when those characters may stand around a JSON value (`HasJsonMargins`): a text of
a value is a text of this value with white space around it.
-/

namespace PatternSql

/-! ### Blank lines -/

namespace Text

/-- Nothing is left of a text without its blank ends exactly when it is blank. -/
lemma trim_eq_nil_iff {cs : List Char} : trim cs = [] ↔ cs.all isBlank = true := by
  rw [trim, trimEnd, List.reverse_eq_nil_iff, List.dropWhile_eq_nil_iff, List.all_eq_true]
  constructor
  · -- what is left at the front begins with a character that is not blank
    intro hrest
    have hstart : trimStart (trimStart cs) = [] :=
      List.dropWhile_eq_nil_iff.2 fun c hc => hrest c (List.mem_reverse.2 hc)
    rw [trimStart, trimStart, List.dropWhile_idempotent] at hstart
    exact List.dropWhile_eq_nil_iff.1 hstart
  · intro hall c hc
    exact hall c ((List.dropWhile_suffix _).mem (List.mem_reverse.1 hc))

end Text

/-! ### White space around a value -/

namespace Json

/-- A text of a value with white space around it is a text of the value. -/
lemma Spells.surround {value : Json} {cs before after : List Char} (h : value.Spells cs)
    (hbefore : ∀ c ∈ before, Lexer.isSpace c = true)
    (hafter : ∀ c ∈ after, Lexer.isSpace c = true) : value.Spells (before ++ cs ++ after) := by
  have hlayout := (h.space_append hbefore).append (.space hafter)
  rwa [List.append_nil] at hlayout

end Json

namespace Session

variable {diagnose : String → String} {source : DataSource}

/-- Whether a line ends the session. -/
def isQuit (line : String) : Bool :=
  trimmed line = ":quit"

/-- What a session on a single line prints after the banner. -/
def printedAlone (diagnose : String → String) (source : DataSource) (line : String) :
    List String :=
  (runLines diagnose source [.ok line]).printed

/-- Whether the blank characters at the ends of a line may all stand around a JSON value. -/
def HasJsonMargins (line : String) : Prop :=
  ∃ before after, line.toList = before ++ (trimmed line).toList ++ after ∧
    ∀ c ∈ before ++ after, Json.Lexer.isSpace c = true

/-! ### The lines of a session -/

/-- Nothing is left of a line without its blank ends exactly when it is blank. -/
lemma trimmed_eq_empty_iff {line : String} :
    trimmed line = "" ↔ Text.isBlankText line = true := by
  rw [Text.isBlankText, ← Text.trim_eq_nil_iff, trimmed, ← String.toList_inj]
  simp

/-- A line that asks for it ends the session, and the session ends well. -/
lemma react_of_isQuit {line : String} (h : isQuit line = true) :
    react diagnose source (.ok line) = .stop .finished := by
  have htrimmed : trimmed line = ":quit" := by simpa [isQuit] using h
  rw [react, htrimmed]
  rfl

/-- Any other line prints what it prints alone. -/
lemma react_of_not_isQuit {line : String} (h : ¬isQuit line = true) :
    react diagnose source (.ok line) = .print (printedAlone diagnose source line) := by
  have hreact : ∃ printed, react diagnose source (.ok line) = .print printed := by
    have htrimmed : trimmed line ≠ ":quit" := by simpa [isQuit] using h
    rw [react, if_neg htrimmed]
    split
    · exact ⟨_, rfl⟩
    · exact ⟨_, rfl⟩
  obtain ⟨printed, hprinted⟩ := hreact
  simp [printedAlone, runLines, hprinted, Outcome.after]

/-- A session prints what its lines print alone, up to the first line that ends it, and it ends
well. -/
theorem runLines_map_ok (lines : List String) :
    runLines diagnose source (lines.map .ok) =
      { printed :=
          (lines.takeWhile fun line => !isQuit line).flatMap (printedAlone diagnose source)
        ending := .finished } := by
  induction lines with
  | nil => rfl
  | cons line rest ih =>
    by_cases hquit : isQuit line = true
    · simp [runLines, react_of_isQuit hquit, hquit]
    · rw [List.map_cons, runLines, react_of_not_isQuit hquit, ih]
      simp [Outcome.after, hquit]

/-! ### A single line -/

/-- A blank line prints nothing. -/
lemma printedAlone_of_isBlankText {line : String} (h : Text.isBlankText line = true) :
    printedAlone diagnose source line = [] := by
  have hreact : react diagnose source (.ok line) = .print [] := by
    rw [react, if_pos (trimmed_eq_empty_iff.2 h)]
  simp [printedAlone, runLines, hreact, Outcome.after]

/-- A line that is neither blank nor the end of the session prints the reply to its text. -/
lemma printedAlone_eq {line : String} (hblank : ¬Text.isBlankText line = true)
    (hquit : ¬isQuit line = true) :
    printedAlone diagnose source line = reply diagnose source (trimmed line) := by
  have htrimmed : trimmed line ≠ ":quit" := by simpa [isQuit] using hquit
  have hreact : react diagnose source (.ok line) = .print (printedAlone diagnose source line) :=
    react_of_not_isQuit hquit
  rw [react, if_neg (mt trimmed_eq_empty_iff.1 hblank), if_neg htrimmed] at hreact
  exact (Reaction.print.inj hreact).symm

/-- A line with a pattern is neither blank nor the end of the session. -/
lemma not_isBlankText_and_not_isQuit {line : String} {pattern : Pattern}
    (h : Pattern.read? (trimmed line) = some pattern) :
    ¬Text.isBlankText line = true ∧ ¬isQuit line = true := by
  have hempty : Pattern.read? "" = none := by decide +kernel
  have hquit : Pattern.read? ":quit" = none := by decide +kernel
  constructor
  · intro hblank
    rw [trimmed_eq_empty_iff.2 hblank, hempty] at h
    cases h
  · intro hline
    rw [of_decide_eq_true hline, hquit] at h
    cases h

/-- The pattern of a line is also the pattern of the line with its ends, when these may stand around
a JSON value. -/
lemma read?_of_hasJsonMargins {line : String} {pattern : Pattern} (hmargins : HasJsonMargins line)
    (h : Pattern.read? (trimmed line) = some pattern) : Pattern.read? line = some pattern := by
  obtain ⟨value, hvalue, hpattern⟩ := Option.bind_eq_some_iff.1 h
  obtain ⟨hspells, hdepth⟩ := Json.read?_eq_some_iff.1 hvalue
  obtain ⟨before, after, hline, hspaces⟩ := hmargins
  rw [List.forall_mem_append] at hspaces
  have hwhole : value.Spells line.toList := by
    rw [hline]
    exact hspells.surround hspaces.1 hspaces.2
  exact Option.bind_eq_some_iff.2 ⟨value, Json.read?_eq_some_iff.2 ⟨hwhole, hdepth⟩, hpattern⟩

/-! ### The whole session -/

/-- A session prints the banner and then what each of its lines prints alone, up to the first line
that ends it, and ends well.  Alone, a blank line prints nothing, a line that is no pattern prints
what is said of its text, a pattern with a fault prints the fault, and any other line prints what
its text does as the content of a file, provided that the characters at its ends may stand around a
JSON value. -/
theorem runInput_answers_lines_apart {input : List UInt8} {lines : List String}
    (hlines : decodeLines input = lines.map .ok) :
    runInput diagnose source input =
        { printed := banner ++
            (lines.takeWhile fun line => !isQuit line).flatMap (printedAlone diagnose source)
          ending := .finished } ∧
      (∀ line, Text.isBlankText line = true → printedAlone diagnose source line = []) ∧
      (∀ line, ¬Text.isBlankText line = true → ¬isQuit line = true →
        Pattern.read? (trimmed line) = none →
          printedAlone diagnose source line =
            ["✗ 翻译失败: 无法解析模式JSON: " ++ diagnose (trimmed line)]) ∧
      (∀ line pattern fault, Pattern.read? (trimmed line) = some pattern →
        source.predicate pattern = .error fault →
          printedAlone diagnose source line = ["✗ 翻译失败: " ++ fault.message]) ∧
      ∀ line pattern predicate, Pattern.read? (trimmed line) = some pattern →
        source.predicate pattern = .ok predicate → HasJsonMargins line →
          ∀ (directory : Directory) path, (directory path).text? = some line →
            runFile diagnose source directory path =
              { printed := printedAlone diagnose source line, ending := .finished } := by
  refine ⟨?_, fun line => printedAlone_of_isBlankText, ?_, ?_, ?_⟩
  · rw [runInput, hlines, runLines_map_ok, Outcome.after]
  · intro line hblank hquit hread
    simp only [printedAlone_eq hblank hquit, reply, answer, hread, Refusal.message, Refusal.heading,
      ← String.append_assoc]
    rfl
  · intro line pattern fault hread hfault
    obtain ⟨hblank, hquit⟩ := not_isBlankText_and_not_isQuit hread
    simp only [printedAlone_eq hblank hquit, reply, answer, hread, hfault, Refusal.message,
      Refusal.heading]
  · intro line pattern predicate hread hpredicate hmargins directory path hfile
    obtain ⟨hblank, hquit⟩ := not_isBlankText_and_not_isQuit hread
    have hwhole := read?_of_hasJsonMargins hmargins hread
    simp only [printedAlone_eq hblank hquit, reply, runFile, hfile, answer, hread, hwhole,
      hpredicate]

/-- A line with a pattern, and with white space around it. -/
def patternLine : String := " [\"comparison\",\"file:name\",\"Equal\",\"a\"]\x0d"

/-- The value that this line is a text of. -/
lemma read?_patternLine : Json.read? (trimmed patternLine) =
    some (.array [.string "comparison", .string "file:name", .string "Equal", .string "a"]) := by
  have htokens : Json.tokens? (trimmed patternLine).toList =
      some (Json.array [.string "comparison", .string "file:name", .string "Equal",
        .string "a"]).tokens := by
    decide +kernel
  have hspells := Json.layout_of_tokens?_eq htokens (Json.hasValue_of_mem_tokens _)
  exact Json.read?_eq_some_iff.2 ⟨hspells, by decide⟩

/-- A blank line, a pattern, two lines that are no pattern, the end of the session, and a line
after it. -/
def mixedLines : List String :=
  ["\x09", patternLine, "nonsense", "\x7b", ":quit ", patternLine]

/-- What is said of the two lines that are no pattern: one breaks off, the other begins like no JSON
value. -/
def complaint (text : String) : String :=
  if text = "\x7b" then "EOF while parsing an object at line 1 column 1"
  else "expected ident at line 1 column 2"

/-- A session over these lines: each of the lines that are no pattern prints what is said of it, and
the pattern prints what it does as the content of a file. -/
theorem runInput_answers_lines_apart_mixedLines :
    runInput complaint (DataSource.sample .last)
          (Text.join "\n" mixedLines).toUTF8.data.toList =
        { printed := banner ++ ["[查询条件]: filename = 'a'",
            "[生成的 SQL]: SELECT * FROM \"events\" WHERE filename = 'a'",
            "✗ 翻译失败: 无法解析模式JSON: expected ident at line 1 column 2",
            "✗ 翻译失败: 无法解析模式JSON: EOF while parsing an object at line 1 column 1"]
          ending := .finished } ∧
      runFile complaint (DataSource.sample .last) (fun _ => .content patternLine.toUTF8)
          "pattern.json" =
        { printed := ["[查询条件]: filename = 'a'",
            "[生成的 SQL]: SELECT * FROM \"events\" WHERE filename = 'a'"]
          ending := .finished } := by
  have hlines : decodeLines (Text.join "\n" mixedLines).toUTF8.data.toList =
      mixedLines.map .ok := by
    decide +kernel
  have hread : Pattern.read? (trimmed patternLine) =
      some (.comparison ⟨"file:name", .equal, .string "a", false⟩) := by
    rw [Pattern.read?, read?_patternLine, Option.bind_some]
    rfl
  have hpredicate : (DataSource.sample .last).predicate
      (.comparison ⟨"file:name", .equal, .string "a", false⟩) = .ok "filename = 'a'" := by
    decide +kernel
  have hmargins : HasJsonMargins patternLine :=
    ⟨[' '], ['\x0d'], by decide +kernel, List.all_eq_true.1 (by decide)⟩
  obtain ⟨hrun, _, _, _, hfile⟩ :=
    @runInput_answers_lines_apart complaint (.sample .last) _ _ hlines
  constructor
  · rw [hrun]
    decide +kernel
  · rw [hfile patternLine _ _ hread hpredicate hmargins _ "pattern.json" (by decide +kernel)]
    decide +kernel

end Session

end PatternSql
