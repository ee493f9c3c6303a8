import PatternSql.Query.Select
import Mathlib.Data.List.Basic

/-!
# Reading statements

What a select statement says can be read back from its text.

The name of the table stands between double quotes, and a quote that belongs to the name is
written twice.  `Select.readName?` reads such a name from behind its opening quote and stops at the
first quote that is not doubled.  In a statement that is the closing quote and no other, however
many quotes the name has at its end, because the closing quote has a blank behind it and not
another quote (`Select.readName?_eq_some_iff`).  So a name cannot say where it ends, and what
follows it is read as the predicate in full (`Select.read?_eq_some_iff`).
-/

namespace PatternSql

namespace Select

/-! ### Names -/

/-- The characters of a name, with each double quote written twice. -/
def doubled (name : List Char) : List Char :=
  name.flatMap fun c => if c = '\x22' then ['\x22', '\x22'] else [c]

/-- Read a name from behind its opening quote: the name, and what follows the closing quote.  There
is none where no quote closes it. -/
def readName? : List Char → Option (List Char × List Char)
  | [] => none
  | '\x22' :: '\x22' :: rest => (readName? rest).map fun read => ('\x22' :: read.1, read.2)
  | '\x22' :: rest => some ([], rest)
  | c :: rest => (readName? rest).map fun read => (c :: read.1, read.2)

/-- A double quote is doubled. -/
lemma doubled_cons_quote (cs : List Char) :
    doubled ('\x22' :: cs) = '\x22' :: '\x22' :: doubled cs := by
  simp [doubled]

/-- Any other character stays as it is. -/
lemma doubled_cons_of_ne {c : Char} (h : c ≠ '\x22') (cs : List Char) :
    doubled (c :: cs) = c :: doubled cs := by
  simp [doubled, h]

/-- A quote that is written twice belongs to the name. -/
lemma readName?_quotes (rest : List Char) :
    readName? ('\x22' :: '\x22' :: rest) =
      (readName? rest).map fun read => ('\x22' :: read.1, read.2) := by
  rw [readName?]

/-- A quote that is not followed by another one ends the name. -/
lemma readName?_quote {rest : List Char} (h : rest.head? ≠ some '\x22') :
    readName? ('\x22' :: rest) = some ([], rest) := by
  rw [readName?]
  rintro tail rfl
  simp at h

/-- A character that is no quote belongs to the name. -/
lemma readName?_of_ne {c : Char} (h : c ≠ '\x22') (rest : List Char) :
    readName? (c :: rest) = (readName? rest).map fun read => (c :: read.1, read.2) := by
  rw [readName?]
  · exact fun _ heq => absurd heq h
  · exact h

/-- What is read as a name is the text of a name, with a quote behind it that is not doubled. -/
theorem readName?_eq_some_iff {cs name rest : List Char} :
    readName? cs = some (name, rest) ↔
      cs = doubled name ++ '\x22' :: rest ∧ rest.head? ≠ some '\x22' := by
  constructor
  · intro h
    induction cs using readName?.induct generalizing name with
    | case1 => simp [readName?] at h
    | case2 tail ih =>
      rw [readName?_quotes, Option.map_eq_some_iff] at h
      obtain ⟨⟨begun, left⟩, hread, heq⟩ := h
      obtain ⟨rfl, rfl⟩ := Prod.mk.inj heq
      obtain ⟨rfl, hrest⟩ := ih hread
      exact ⟨by rw [doubled_cons_quote, List.cons_append, List.cons_append], hrest⟩
    | case3 tail htail =>
      have hhead : tail.head? ≠ some '\x22' := by
        intro hhead
        obtain ⟨others, rfl⟩ := List.head?_eq_some_iff.1 hhead
        exact htail others rfl
      rw [readName?_quote hhead] at h
      obtain ⟨rfl, rfl⟩ := Prod.mk.inj (Option.some.inj h)
      exact ⟨rfl, hhead⟩
    | case4 c tail _ hc ih =>
      rw [readName?_of_ne hc, Option.map_eq_some_iff] at h
      obtain ⟨⟨begun, left⟩, hread, heq⟩ := h
      obtain ⟨rfl, rfl⟩ := Prod.mk.inj heq
      obtain ⟨rfl, hrest⟩ := ih hread
      exact ⟨by rw [doubled_cons_of_ne hc, List.cons_append], hrest⟩
  · rintro ⟨rfl, hrest⟩
    induction name with
    | nil => exact readName?_quote hrest
    | cons c name ih =>
      by_cases hc : c = '\x22'
      · subst hc
        rw [doubled_cons_quote, List.cons_append, List.cons_append, readName?_quotes, ih,
          Option.map_some]
      · rw [doubled_cons_of_ne hc, List.cons_append, readName?_of_ne hc, ih, Option.map_some]

/-! ### Statements -/

/-- Read a statement: the name of its table, and the predicate behind it. -/
def read? (text : String) : Option (String × String) := do
  let cs ← text.toList.dropPrefix? "SELECT * FROM \x22".toList
  let (name, cs) ← readName? cs
  let predicate ← cs.dropPrefix? " WHERE ".toList
  some (String.ofList name, String.ofList predicate)

/-- The characters of a statement, with its opening quote among those before the name. -/
lemma toList_statement (table predicate : String) :
    ("SELECT * FROM " ++ identifier table ++ " WHERE " ++ predicate).toList =
      "SELECT * FROM \x22".toList ++ (doubled table.toList ++
        '\x22' :: (" WHERE ".toList ++ predicate.toList)) := by
  simp [identifier, identifierChars, doubled]

/-- A prefix is dropped exactly where a text begins with it. -/
lemma dropPrefix?_eq_some_iff {cs start rest : List Char} :
    cs.dropPrefix? start = some rest ↔ cs = start ++ rest := by
  simp [List.dropPrefix?_eq_some_iff]

/-- What is read as a statement is the text of one. -/
theorem read?_eq_some_iff {text table predicate : String} :
    read? text = some (table, predicate) ↔
      text = "SELECT * FROM " ++ identifier table ++ " WHERE " ++ predicate := by
  rw [← String.toList_inj, toList_statement]
  constructor
  · intro h
    obtain ⟨cs, hcs, h⟩ := Option.bind_eq_some_iff.1 h
    obtain ⟨⟨name, rest⟩, hname, h⟩ := Option.bind_eq_some_iff.1 h
    obtain ⟨chars, hchars, h⟩ := Option.bind_eq_some_iff.1 h
    obtain ⟨rfl, rfl⟩ := Prod.mk.inj (Option.some.inj h)
    rw [dropPrefix?_eq_some_iff.1 hcs, (readName?_eq_some_iff.1 hname).1,
      dropPrefix?_eq_some_iff.1 hchars, @String.toList_ofList name, @String.toList_ofList chars]
  · intro h
    have hname : readName? (doubled table.toList ++
        '\x22' :: (" WHERE ".toList ++ predicate.toList)) =
          some (table.toList, " WHERE ".toList ++ predicate.toList) :=
      readName?_eq_some_iff.2 ⟨rfl, by simp⟩
    simp only [read?, dropPrefix?_eq_some_iff.2 h, hname, Option.bind_eq_bind, Option.bind_some,
      dropPrefix?_eq_some_iff.2 rfl, String.ofList_toList]

/-- A statement is told by its table and its predicate, where this is not blank. -/
lemma statement?_eq_some_iff {table predicate text : String} :
    statement? table predicate = some text ↔
      Text.isBlankText predicate = false ∧ read? text = some (table, predicate) := by
  rw [read?_eq_some_iff, statement?]
  cases Text.isBlankText predicate <;> simp [eq_comm]

/-- Statements are the same only for the same tables and the same predicates.  Each of them is read
as the table and the predicate that it was made of, so that whatever quotes the name of the table
has, it ends where it should and the predicate begins behind it. -/
theorem statement?_inj {table table' predicate predicate' text : String}
    (h : statement? table predicate = some text) (h' : statement? table' predicate' = some text) :
    (table = table' ∧ predicate = predicate') ∧ read? text = some (table, predicate) := by
  have hread := (statement?_eq_some_iff.1 h).2
  have hread' := (statement?_eq_some_iff.1 h').2
  rw [hread, Option.some.injEq, Prod.mk.injEq] at hread'
  exact ⟨hread', hread⟩

/-- A name that ends in a quote and holds the words that come behind names, and a predicate that
holds them too. -/
theorem statement?_inj_quotes :
    statement? "a\x22 WHERE \x22b\x22" "c = '\x22 WHERE '" =
        some "SELECT * FROM \x22a\x22\x22 WHERE \x22\x22b\x22\x22\x22 WHERE c = '\x22 WHERE '" ∧
      read? "SELECT * FROM \x22a\x22\x22 WHERE \x22\x22b\x22\x22\x22 WHERE c = '\x22 WHERE '" =
        some ("a\x22 WHERE \x22b\x22", "c = '\x22 WHERE '") := by
  have hstatement : statement? "a\x22 WHERE \x22b\x22" "c = '\x22 WHERE '" =
      some "SELECT * FROM \x22a\x22\x22 WHERE \x22\x22b\x22\x22\x22 WHERE c = '\x22 WHERE '" := by
    decide
  exact ⟨hstatement, (statement?_inj hstatement hstatement).2⟩

end Select

end PatternSql
