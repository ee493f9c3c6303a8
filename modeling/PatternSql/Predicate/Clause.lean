import PatternSql.Text.Integer
import PatternSql.Time.Temporal

/-!
# Clauses

A predicate over the records of a data source, as it is written.  Parentheses stand
around a group and nowhere else, so a clause says how its text is put together and
not how the text is to be understood.
-/

namespace PatternSql

/-- A written predicate. -/
inductive Clause where
  /-- A column, an operator word and an operand. -/
  | test (column word operand : String)
  /-- A column within a time range. -/
  | within (column : String) (range : TimeRange)
  /-- Two clauses with a word between them. -/
  | join (word : String) (left right : Clause)
  /-- A clause between parentheses. -/
  | group (inner : Clause)
  /-- A negated clause, between parentheses. -/
  | negation (inner : Clause)
deriving DecidableEq

namespace Clause

/-- The text of a clause. -/
def text : Clause → String
  | .test column word operand => column ++ " " ++ word ++ " " ++ operand
  | .within column range =>
    "(" ++ column ++ " >= " ++ Text.ofInt range.start ++ " AND " ++
      column ++ " <= " ++ Text.ofInt range.stop ++ ")"
  | .join word left right => left.text ++ " " ++ word ++ " " ++ right.text
  | .group inner => "(" ++ inner.text ++ ")"
  | .negation inner => "NOT(" ++ inner.text ++ ")"

/-- The disjunction of clauses, without parentheses; there is none of no clauses. -/
def anyOf? : List Clause → Option Clause
  | [] => none
  | [clause] => some clause
  | clause :: rest => (anyOf? rest).map (.join "OR" clause)

/-- The text of the clause that there is, or nothing. -/
def textOf : Option Clause → String
  | some clause => clause.text
  | none => ""

/-- No clause is written as the empty text. -/
theorem text_ne_empty (clause : Clause) : clause.text ≠ "" := by
  intro h
  have hlist : clause.text.toList = [] := by rw [h]; rfl
  cases clause <;> simp [text] at hlist

/-- The first of several alternatives is joined to the others by `OR`. -/
theorem anyOf?_cons_cons (first second : Clause) (rest : List Clause) :
    anyOf? (first :: second :: rest) = (anyOf? (second :: rest)).map (.join "OR" first) := rfl

/-- There is a disjunction of any clauses but none. -/
theorem anyOf?_eq_none_iff {clauses : List Clause} : anyOf? clauses = none ↔ clauses = [] := by
  induction clauses with
  | nil => simp [anyOf?]
  | cons clause rest ih =>
    cases rest with
    | nil => simp [anyOf?]
    | cons other rest =>
      rw [anyOf?_cons_cons, Option.map_eq_none_iff, ih]
      simp

/-- What holds of clauses, and of two clauses with `OR` between them when it holds of both, holds
of their disjunction. -/
theorem anyOf?_induction {motive : Clause → Prop} {clauses : List Clause} {clause : Clause}
    (hpart : ∀ part ∈ clauses, motive part)
    (hjoin : ∀ left right, motive left → motive right → motive (.join "OR" left right))
    (h : anyOf? clauses = some clause) : motive clause := by
  induction clauses generalizing clause with
  | nil => simp [anyOf?] at h
  | cons first rest ih =>
    have hfirst := hpart first List.mem_cons_self
    cases rest with
    | nil =>
      rw [anyOf?, Option.some.injEq] at h
      rwa [← h]
    | cons second rest =>
      rw [anyOf?_cons_cons, Option.map_eq_some_iff] at h
      obtain ⟨tail, htail, rfl⟩ := h
      exact hjoin _ _ hfirst (ih (fun part hmem => hpart part (List.mem_cons_of_mem _ hmem)) htail)

/-- The text is empty exactly when there is no clause. -/
theorem textOf_eq_empty_iff {clause : Option Clause} : textOf clause = "" ↔ clause = none := by
  cases clause with
  | none => simp [textOf]
  | some clause => simp [textOf, text_ne_empty]

end Clause

end PatternSql
