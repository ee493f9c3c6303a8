import PatternSql.Predicate.Clause
import PatternSql.Predicate.Operand
import PatternSql.Source.Basic

/-!
# Predicates of patterns

The clause that a pattern becomes for a data source.  A comparison becomes a test of
each column that holds its field; where no column does, there is no clause, and a
combination with a part that has none has none itself.  A time qualifier is handed
down to the observations in its scope, and an inner qualifier takes the place of an
outer one.
-/

namespace PatternSql

/-- The tests of the columns that accept the shape of a text, in the order given. -/
def Registry.tests (registry : Registry) (columns : List String) (text word operand : String) :
    List Clause :=
  (registry.route columns text).map (Clause.test · word operand)

namespace DataSource

/-! ### Comparisons -/

/-- The word for the operator of a key. -/
def word (source : DataSource) (key : String) : Except Fault String :=
  match source.mapping.word? key with
  | some word => .ok word
  | none => .error (.unsupportedOperator key)

/-- The tests of a field: for a reference in the columns that accept the shape of the value, for
any other field in all that hold it. -/
def tests (source : DataSource) (field : Field) (value : Literal) (word operand : String) :
    List Clause :=
  let columns := source.mapping.columns field
  if isReference field.name then source.registry.tests columns value.display word operand
  else columns.map (Clause.test · word operand)

/-- The disjunction of tests; with `grouped` it stands between parentheses when there is more than
one. -/
def fanOut (grouped : Bool) (tests : List Clause) : Option Clause :=
  (Clause.anyOf? tests).map fun clause =>
    if grouped && 1 < tests.length then .group clause else clause

/-- The clause of a comparison. -/
def comparisonClause (source : DataSource) (comparison : Comparison) :
    Except Fault (Option Clause) :=
  match comparison.field? with
  | none => .error (.malformedObjectPath comparison.path)
  | some field => do
    let word ← source.word comparison.comparator.key
    let literal ← Temporal.literalFor field.name comparison.value
    let operand := comparison.comparator.operand literal
    let tests := source.tests field comparison.value word operand
    let clause := fanOut (!isReference field.name) tests
    .ok (if comparison.negated then clause.map .negation else clause)

/-! ### Combinations and qualifiers -/

/-- Two clauses with a word between them, when there are two. -/
def combine (grouped : Bool) (word : String) : Option Clause → Option Clause → Option Clause
  | some left, some right =>
    let joined := Clause.join word left right
    some (if grouped then .group joined else joined)
  | _, _ => none

/-- A clause within the time range of a qualifier.  The qualifier is read even when there is no
clause. -/
def restrict (source : DataSource) (clause : Option Clause) :
    Option Qualifier → Except Fault (Option Clause)
  | none => .ok clause
  | some qualifier => do
    let range ← qualifier.range
    .ok (clause.map fun inner => .join "AND" inner (.within source.timeColumn range))

/-- The qualifier that the left one of two observations is given. -/
def leftQualifier (source : DataSource) (qualifier : Option Qualifier) : Option Qualifier :=
  match source.scope with
  | .last => none
  | .each => qualifier

/-- The clause of a pattern that is given a qualifier from above.  Conjunctions stand between
parentheses, but not those of qualified observations. -/
def clause (source : DataSource) : Pattern → Option Qualifier → Except Fault (Option Clause)
  | .comparison test, qualifier => do
    let inner ← source.comparisonClause test
    source.restrict inner qualifier
  | .combined connective left right, qualifier => do
    let word ← source.word connective.key
    let leftClause ← source.clause left none
    let rightClause ← source.clause right none
    match combine (connective == .and) word leftClause rightClause with
    | none => .ok none
    | some joined => source.restrict (some joined) qualifier
  | .observation inner, qualifier => source.clause inner qualifier
  | .combinedObservation connective left right, qualifier => do
    let word ← source.word connective.key
    let leftClause ← source.clause left (source.leftQualifier qualifier)
    let rightClause ← source.clause right qualifier
    .ok (combine (qualifier.isNone && connective == .and) word leftClause rightClause)
  | .qualified inner qualifier, _ => source.clause inner (some qualifier)

/-- The predicate of a pattern; it is empty when nothing in the data source answers to the
pattern. -/
def predicate (source : DataSource) (pattern : Pattern) : Except Fault String :=
  (source.clause pattern none).map Clause.textOf

end DataSource

end PatternSql
