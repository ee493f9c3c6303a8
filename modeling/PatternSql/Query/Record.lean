import PatternSql.KeyMap

/-!
# Records

Fetched rows are labelled with the names of their columns, page by page.
-/

namespace PatternSql

/-- A window on the rows of a result. -/
structure Window where
  /-- The number of rows before the window. -/
  start : Nat
  /-- The greatest number of rows in the window. -/
  limit : Nat
deriving DecidableEq

/-- A row labelled with column names.  Names or cells without a partner are dropped, and of a
repeated name the last cell stays. -/
def labelRow {α : Type} (columns : List String) (row : List α) : KeyMap α :=
  .ofList (columns.zip row)

/-- The records in a window. -/
def Window.records {α : Type} (window : Window) (columns : List String) (rows : List (List α)) :
    List (KeyMap α) :=
  ((rows.drop window.start).take window.limit).map (labelRow columns)

end PatternSql
