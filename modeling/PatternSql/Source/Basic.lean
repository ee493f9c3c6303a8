import PatternSql.Address.Registry
import PatternSql.Source.Mapping

/-!
# Data sources

A data source, as far as patterns are concerned: its mapping, the shapes of addresses
that its columns accept, the column with the time of a record, and how far a time
qualifier reaches over a combination of observations.
-/

namespace PatternSql

/-- Which observations of a combination a time qualifier applies to. -/
inductive Scope where
  /-- The last one only. -/
  | last
  /-- Each of them. -/
  | each
deriving DecidableEq

/-- The time column where none is given. -/
def defaultTimeColumn : String := "entry_time"

/-- A data source. -/
structure DataSource where
  mapping : Mapping
  registry : Registry := Registry.sample
  timeColumn : String := defaultTimeColumn
  scope : Scope := .last

/-- The data source of the sample event table, with a given reach of qualifiers. -/
def DataSource.sample (scope : Scope) : DataSource where
  mapping := .sample
  scope := scope

end PatternSql
