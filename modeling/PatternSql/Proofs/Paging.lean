import PatternSql.Query.Record
import Mathlib.Data.List.Forall2
import Mathlib.Data.PNat.Basic

/-!
# Paging

What the records of a result are, and that pages hold all of them.

A record labels a row: it has the names of those columns that the row reaches, and under a name
that stands over several of its cells the last one of these (`Labels`).  A window has one record
for each of its rows, in their order (`Window.forall₂_labels_records`).

The records of a window and of the one that begins where it ends are those of both windows
together (`Window.records_append`).  So nothing is lost or repeated where one page follows the
other, and pages that are taken until one is empty (`pagesFrom`) hold the records of all rows,
whatever their sizes are.
-/

namespace PatternSql

variable {α : Type}

/-! ### Labels -/

/-- Whether a name stands at a position that both the columns and a row have. -/
def IsNameAt (columns : List String) (row : List α) (name : String) (position : Nat) : Prop :=
  position < min columns.length row.length ∧ columns[position]? = some name

/-- Whether a record labels a row: its keys are the names that stand over cells of the row, each of
them once, and the cell of a name is the one at its last position. -/
structure Labels (columns : List String) (row : List α) (record : KeyMap α) : Prop where
  nodup_keys : record.keys.Nodup
  mem_keys_iff : ∀ name, name ∈ record.keys ↔ ∃ position, IsNameAt columns row name position
  get?_eq_some_iff : ∀ name cell, record.get? name = some cell ↔
    ∃ position, IsNameAt columns row name position ∧ row[position]? = some cell ∧
      ∀ other, IsNameAt columns row name other → other ≤ position

/-- A name stands at a position exactly when it is paired with a cell there. -/
lemma isNameAt_iff {columns : List String} {row : List α} {name : String} {position : Nat} :
    IsNameAt columns row name position ↔
      ∃ cell, (columns.zip row)[position]? = some (name, cell) := by
  simp only [IsNameAt, List.getElem?_zip_eq_some]
  constructor
  · rintro ⟨hposition, hname⟩
    exact ⟨row[position], hname, List.getElem?_eq_getElem (by omega)⟩
  · rintro ⟨cell, hname, hcell⟩
    have hcolumns := (List.getElem?_eq_some_iff.1 hname).1
    have hrow := (List.getElem?_eq_some_iff.1 hcell).1
    exact ⟨by omega, hname⟩

/-- The pair behind which a key does not occur again is the one at its last position. -/
lemma exists_append_cons_iff {pairs : List (String × α)} {key : String} {value : α} :
    (∃ before after, pairs = before ++ (key, value) :: after ∧ ∀ later ∈ after, later.1 ≠ key) ↔
      ∃ position : Nat, pairs[position]? = some (key, value) ∧
        ∀ (other : Nat) (found : α), pairs[other]? = some (key, found) → other ≤ position := by
  constructor
  · rintro ⟨before, after, rfl, hafter⟩
    refine ⟨before.length, by simp, fun other found hfound => ?_⟩
    by_contra hlater
    rw [List.getElem?_append_right (by omega), List.getElem?_cons, if_neg (by omega)] at hfound
    exact hafter _ (List.mem_of_getElem? hfound) rfl
  · -- what comes after the last position is the rest behind it
    rintro ⟨position, hposition, hlast⟩
    obtain ⟨hlength, hpair⟩ := List.getElem?_eq_some_iff.1 hposition
    refine ⟨pairs.take position, pairs.drop (position + 1), ?_, ?_⟩
    · rw [← hpair, ← List.drop_eq_getElem_cons hlength, List.take_append_drop]
    · rintro ⟨_, found⟩ hlater rfl
      obtain ⟨k, hk⟩ := List.mem_iff_getElem?.1 hlater
      rw [List.getElem?_drop] at hk
      have := hlast _ _ hk
      omega

/-- Labelling a row gives a record that labels it. -/
lemma labels_labelRow (columns : List String) (row : List α) :
    Labels columns row (labelRow columns row) where
  nodup_keys := KeyMap.nodup_keys_ofList _
  mem_keys_iff name := by
    rw [labelRow, KeyMap.mem_keys_ofList_iff]
    simp only [isNameAt_iff, List.mem_iff_getElem?]
    exact exists_comm
  get?_eq_some_iff name cell := by
    rw [labelRow, KeyMap.get?_ofList_eq_some_iff, exists_append_cons_iff]
    simp only [isNameAt_iff, List.getElem?_zip_eq_some]
    refine exists_congr fun position => ?_
    constructor
    · rintro ⟨⟨hname, hcell⟩, hlast⟩
      refine ⟨⟨cell, hname, hcell⟩, hcell, ?_⟩
      rintro other ⟨found, hfound⟩
      exact hlast other found hfound
    · rintro ⟨⟨_, hname, _⟩, hcell, hlast⟩
      exact ⟨⟨hname, hcell⟩, fun other found hfound => hlast other ⟨found, hfound⟩⟩

/-! ### Windows -/

namespace Window

variable (columns : List String) (rows : List (List α))

/-- The records of a window label its rows one by one. -/
lemma forall₂_labels_records (window : Window) :
    List.Forall₂ (Labels columns) ((rows.drop window.start).take window.limit)
      (window.records columns rows) := by
  rw [records, List.forall₂_map_right_iff]
  exact List.forall₂_same.2 fun row _ => labels_labelRow columns row

/-- The records of a window, and those of one that begins where it ends. -/
lemma records_append (start first second : Nat) :
    (Window.mk start first).records columns rows ++
        (Window.mk (start + first) second).records columns rows =
      (Window.mk start (first + second)).records columns rows := by
  rw [records, records, records, ← List.map_append, List.take_add, List.drop_drop]

/-- A window that reaches behind the last row has the records of the rows that are left. -/
lemma records_of_le {start limit : Nat} (h : rows.length ≤ start + limit) :
    (Window.mk start limit).records columns rows = (rows.drop start).map (labelRow columns) := by
  have hrest : (rows.drop start).length ≤ limit := by
    rw [List.length_drop]
    omega
  rw [records, List.take_of_length_le hrest]

/-- A window has no records when it is of no size or begins behind the last row. -/
lemma records_eq_nil_iff {window : Window} :
    window.records columns rows = [] ↔ window.limit = 0 ∨ rows.length ≤ window.start := by
  simp [records]

end Window

/-! ### Pages -/

/-- The pages from a row on, each of its size, until one of them is empty. -/
def pagesFrom (columns : List String) (rows : List (List α)) (start : Nat) (size : ℕ → ℕ+) :
    List (List (KeyMap α)) :=
  let page := (Window.mk start (size 0)).records columns rows
  if h : page = [] then []
  else page :: pagesFrom columns rows (start + size 0) fun index => size (index + 1)
termination_by rows.length - start
decreasing_by
  have hpage := mt (Window.records_eq_nil_iff columns rows).2 h
  simp only [not_or, not_le] at hpage
  have hsize := (size 0).pos
  omega

/-- The pages from a row on have the records of the rows that are left. -/
theorem flatten_pagesFrom (columns : List String) (rows : List (List α)) (start : Nat)
    (size : ℕ → ℕ+) :
    (pagesFrom columns rows start size).flatten = (rows.drop start).map (labelRow columns) := by
  induction start, size using pagesFrom.induct columns rows with
  | case1 start size page hpage =>
    have hend : rows.length ≤ start :=
      ((Window.records_eq_nil_iff columns rows).1 hpage).resolve_left (size 0).ne_zero
    rw [pagesFrom, dif_pos hpage, List.drop_of_length_le hend]
    rfl
  | case2 start size page hpage ih =>
    -- the later pages are one window over all that is left, and it begins where the first page ends
    have hrest : (rows.drop (start + size 0)).map (labelRow columns) =
        (Window.mk (start + size 0) rows.length).records columns rows :=
      (Window.records_of_le columns rows (by omega)).symm
    rw [pagesFrom, dif_neg hpage, List.flatten_cons, ih, hrest, Window.records_append]
    exact Window.records_of_le columns rows (by omega)

namespace Window

/-- Windows that follow one another have the records of the window over both of them.  So pages of
any sizes, taken until one is empty, have the records of all rows.  The records of a window label
its rows in their order. -/
theorem records_pages (columns : List String) (rows : List (List α)) :
    (∀ start first second, (Window.mk start first).records columns rows ++
        (Window.mk (start + first) second).records columns rows =
          (Window.mk start (first + second)).records columns rows) ∧
      (∀ size : ℕ → ℕ+, (pagesFrom columns rows 0 size).flatten =
        (Window.mk 0 rows.length).records columns rows) ∧
      ∀ window : Window, List.Forall₂ (Labels columns)
        ((rows.drop window.start).take window.limit) (window.records columns rows) := by
  refine ⟨records_append columns rows, fun size => ?_, forall₂_labels_records columns rows⟩
  rw [flatten_pagesFrom, records_of_le columns rows (by omega)]

/-- A name over two cells of a row, and a row without a cell for the last columns. -/
example : ((Window.mk 1 2).records ["id", "name", "id"] [[1], [2, 3, 4, 5], [6], [7]]).map
    KeyMap.entries = [[("name", 3), ("id", 4)], [("id", 6)]] := by
  decide

end Window

end PatternSql
