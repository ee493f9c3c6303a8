/-!
# Cutting sequences at a separator

A sequence of characters or bytes is cut either once, at the first occurrence of a
separator, or at every occurrence.
-/

namespace PatternSql

namespace Text

variable {α : Type} [DecidableEq α]

/-- The parts before and after the first occurrence of a separator. -/
def cutFirst? (separator : α) : List α → Option (List α × List α)
  | [] => none
  | c :: rest =>
    if c = separator then some ([], rest)
    else (cutFirst? separator rest).map fun parts => (c :: parts.1, parts.2)

/-- The pieces between all occurrences of a separator, one more than there are occurrences. -/
def pieces (separator : α) : List α → List (List α)
  | [] => [[]]
  | c :: rest =>
    if c = separator then [] :: pieces separator rest
    else
      match pieces separator rest with
      | [] => [[c]]
      | piece :: others => (c :: piece) :: others

/-- Joining the two parts gives the text back, and the first part is free of the separator. -/
theorem cutFirst?_eq_some_iff {separator : α} {cs before after : List α} :
    cutFirst? separator cs = some (before, after) ↔
      cs = before ++ separator :: after ∧ separator ∉ before := by
  induction cs generalizing before with
  | nil => simp [cutFirst?]
  | cons c rest ih =>
    by_cases h : c = separator
    · subst h
      cases before with
      | nil => simp [cutFirst?, eq_comm]
      | cons b before => simp [cutFirst?]; rintro rfl; simp
    · cases before with
      | nil => simp [cutFirst?, h]
      | cons b before =>
        simp only [cutFirst?, h, if_false, Option.map_eq_some_iff, Prod.exists, Prod.mk.injEq,
          List.cons.injEq, List.cons_append, List.mem_cons, not_or]
        constructor
        · rintro ⟨x, y, hxy, ⟨rfl, rfl⟩, rfl⟩
          have := ih.1 hxy
          exact ⟨⟨rfl, this.1⟩, fun hs => h hs.symm, this.2⟩
        · rintro ⟨⟨rfl, hrest⟩, _, hfree⟩
          exact ⟨before, after, ih.2 ⟨hrest, hfree⟩, ⟨rfl, rfl⟩, rfl⟩

/-- There is nothing to cut exactly where the separator does not occur. -/
theorem cutFirst?_eq_none_iff {separator : α} {cs : List α} :
    cutFirst? separator cs = none ↔ separator ∉ cs := by
  induction cs with
  | nil => simp [cutFirst?]
  | cons c rest ih =>
    by_cases h : c = separator
    · simp [cutFirst?, h]
    · simp [cutFirst?, h, ih, Ne.symm h]

/-- Every text has a piece, if only an empty one. -/
theorem pieces_ne_nil (separator : α) (cs : List α) : pieces separator cs ≠ [] := by
  induction cs with
  | nil => simp [pieces]
  | cons c rest ih =>
    by_cases h : c = separator
    · simp [pieces, h]
    · simp only [pieces, h, if_false]
      split <;> simp

/-- There is one piece more than there are separators. -/
theorem length_pieces (separator : α) (cs : List α) :
    (pieces separator cs).length = cs.count separator + 1 := by
  induction cs with
  | nil => simp [pieces]
  | cons c rest ih =>
    by_cases h : c = separator
    · simp [pieces, h, ih]
    · have hne := pieces_ne_nil separator rest
      simp only [pieces, h, if_false]
      cases hp : pieces separator rest with
      | nil => exact absurd hp hne
      | cons piece others =>
        have : (c == separator) = false := by simpa using h
        rw [hp] at ih
        simpa [List.count_cons, this] using ih

/-- A text without the separator is its own only piece. -/
theorem pieces_of_not_mem {separator : α} {cs : List α} (h : separator ∉ cs) :
    pieces separator cs = [cs] := by
  induction cs with
  | nil => rfl
  | cons c rest ih =>
    rw [List.mem_cons, not_or] at h
    rw [pieces, if_neg (Ne.symm h.1), ih h.2]

/-- The first piece ends at the first separator. -/
theorem pieces_append_cons {separator : α} {piece : List α} (h : separator ∉ piece)
    (rest : List α) :
    pieces separator (piece ++ separator :: rest) = piece :: pieces separator rest := by
  induction piece with
  | nil => rw [List.nil_append, pieces, if_pos rfl]
  | cons c piece ih =>
    rw [List.mem_cons, not_or] at h
    rw [List.cons_append, pieces, if_neg (Ne.symm h.1), ih h.2]

/-- What the first piece of a text is, and what the others are pieces of. -/
theorem pieces_eq_cons_iff {separator : α} {cs piece : List α} {more : List (List α)} :
    pieces separator cs = piece :: more ↔
      separator ∉ piece ∧ (cs = piece ∧ more = [] ∨
        ∃ rest, cs = piece ++ separator :: rest ∧ pieces separator rest = more) := by
  constructor
  · intro h
    cases hcut : cutFirst? separator cs with
    | none =>
      have hfree := cutFirst?_eq_none_iff.1 hcut
      rw [pieces_of_not_mem hfree, List.cons.injEq] at h
      obtain ⟨rfl, hmore⟩ := h
      exact ⟨hfree, .inl ⟨rfl, hmore.symm⟩⟩
    | some parts =>
      obtain ⟨before, rest⟩ := parts
      obtain ⟨rfl, hfree⟩ := cutFirst?_eq_some_iff.1 hcut
      rw [pieces_append_cons hfree, List.cons.injEq] at h
      obtain ⟨rfl, hmore⟩ := h
      exact ⟨hfree, .inr ⟨rest, rfl, hmore⟩⟩
  · rintro ⟨hfree, ⟨rfl, rfl⟩ | ⟨rest, rfl, rfl⟩⟩
    · exact pieces_of_not_mem hfree
    · exact pieces_append_cons hfree rest

end Text

end PatternSql
