import PatternSql.Json.Printer
import PatternSql.Proofs.Json.Documents

/-!
# Written values are read back

The text that is written for a value is one of the value's texts, as long as its numbers are
written by numerals that denote them (`spells_chars`); so the value is read back from it, if it
is not too deep (`read?_text`).

Integers within 64 bits are always written so.  Whether a double is depends on the arithmetic
by which numerals are read, and `Double.ReadsBack` says that it is.
-/

namespace PatternSql

namespace Json

/-! ### Strings -/

/-- A hexadecimal digit as it is written. -/
lemma spellsHex_hexDigit {digit : Nat} (h : digit < 16) : SpellsHex digit (hexDigit digit) :=
  ⟨h, .inl rfl⟩

/-- A character of a string is written as one of its spellings. -/
lemma spellsChar_charText (c : Char) : SpellsChar c (charText c) := by
  unfold charText
  split
  · exact .short (by decide)
  · exact .short (by decide)
  · exact .short (by decide)
  · exact .short (by decide)
  · exact .short (by decide)
  · exact .short (by decide)
  · exact .short (by decide)
  · rename_i hquote hslash _ _ _ _ _
    split
    · rename_i hcontrol
      have hdigits : List.Forall₂ SpellsHex [0, 0, c.toNat / 16, c.toNat % 16]
          ['0', '0', hexDigit (c.toNat / 16), hexDigit (c.toNat % 16)] :=
        .cons (spellsHex_hexDigit (by decide)) (.cons (spellsHex_hexDigit (by decide))
          (.cons (spellsHex_hexDigit (by omega)) (.cons (spellsHex_hexDigit (by omega)) .nil)))
      refine .unit ⟨_, hdigits, rfl, ?_⟩
      simp only [hexNumber, List.foldl_cons, List.foldl_nil]
      omega
    · exact .plain hquote hslash (by omega)

/-- The characters of a string are written as spellings of them. -/
lemma spellsChars_flatMap (cs : List Char) : SpellsChars cs (cs.flatMap charText) := by
  induction cs with
  | nil => exact .nil
  | cons c cs ih =>
    rw [List.flatMap_cons]
    exact .cons (spellsChar_charText c) ih

/-- A string is written as one of its spellings. -/
lemma spells_stringText (value : String) :
    Token.Spells (.string (some value)) (stringText value) :=
  .string (spellsChars_flatMap value.toList)

/-! ### Numbers -/

/-- Whether the text that a number is written as denotes it. -/
def IsWritable (number : Number) : Prop :=
  SpellsNumber number (numberText number)

end Json

/-- Whether a double is read back from the text that it is written as. -/
def Double.ReadsBack (x : Double) : Prop :=
  (Json.Numeral.read? (Json.doubleText x)).bind Json.Numeral.value? = some (.double x)

/-- Whether a number reads back can be decided. -/
instance (x : Double) : Decidable x.ReadsBack :=
  inferInstanceAs (Decidable (_ = _))

namespace Json

/-- A double that is read back is written by a numeral that denotes it. -/
lemma isWritable_double {x : Double} (h : x.ReadsBack) : IsWritable (.double x) :=
  spellsNumber_iff.2 (Option.bind_eq_some_iff.1 h)

/-- An integer within 64 bits is written by a numeral that denotes it. -/
lemma isWritable_int {value : Int} (h : Numeral.IsWord value) : IsWritable (.int value) :=
  .int h

/-! ### Values -/

/-- A mark is laid out as its character. -/
lemma layout_mark {c : Char} {token : Token} (h : (c, token) ∈ Token.marks) :
    Layout [token] [c] :=
  (Token.Spells.mark h).layout

/-- An item is followed by a comma and by the other items. -/
lemma itemsChars_cons_cons (first second : Json) (rest : List Json) :
    itemsChars (first :: second :: rest) = first.chars ++ ',' :: itemsChars (second :: rest) := by
  rw [itemsChars]
  simp

/-- A member is followed by a comma and by the other members. -/
lemma membersChars_cons_cons (first second : String × Json) (rest : List (String × Json)) :
    membersChars (first :: second :: rest) =
      stringText first.1 ++ ':' :: (first.2.chars ++ ',' :: membersChars (second :: rest)) := by
  rw [membersChars]
  simp

mutual

/-- A value is written as one of its texts. -/
theorem spells_chars (value : Json)
    (h : ∀ number, .number (some number) ∈ value.tokens → IsWritable number) :
    Layout value.tokens value.chars := by
  cases value with
  | null => exact (Token.Spells.name (by decide)).layout
  | bool value => cases value <;> exact (Token.Spells.name (by decide)).layout
  | number value => exact (Token.Spells.number (h value List.mem_cons_self)).layout
  | string value => exact (spells_stringText value).layout
  | array items =>
    have hitems := layout_itemsChars items fun number hnumber =>
      h number (by simp [tokens, hnumber])
    exact (layout_mark (c := '[') (by decide)).append (hitems.append (layout_mark (by decide)))
  | object members =>
    have hmembers := layout_membersChars members fun number hnumber =>
      h number (by simp [tokens, hnumber])
    exact (layout_mark (c := '\x7b') (by decide)).append (hmembers.append (layout_mark (by decide)))

/-- Items are written as a layout of their tokens. -/
theorem layout_itemsChars (items : List Json)
    (h : ∀ number, .number (some number) ∈ itemsTokens items → IsWritable number) :
    Layout (itemsTokens items) (itemsChars items) := by
  cases items with
  | nil => exact .space (by simp [itemsChars])
  | cons item rest =>
    cases rest with
    | nil => exact spells_chars item h
    | cons second rest =>
      rw [itemsTokens_cons_cons, itemsChars_cons_cons]
      rw [itemsTokens_cons_cons] at h
      have hitem := spells_chars item fun number hnumber => h number (by simp [hnumber])
      have hrest := layout_itemsChars (second :: rest) fun number hnumber =>
        h number (by simp [hnumber])
      exact hitem.append ((layout_mark (c := ',') (by decide)).append hrest)

/-- Members are written as a layout of their tokens. -/
theorem layout_membersChars (members : List (String × Json))
    (h : ∀ number, .number (some number) ∈ membersTokens members → IsWritable number) :
    Layout (membersTokens members) (membersChars members) := by
  cases members with
  | nil => exact .space (by simp [membersChars])
  | cons member rest =>
    have hname := (spells_stringText member.1).layout
    cases rest with
    | nil =>
      have hvalue := spells_chars member.2 fun number hnumber =>
        h number (by simp [membersTokens, hnumber])
      exact hname.append ((layout_mark (c := ':') (by decide)).append hvalue)
    | cons second rest =>
      rw [membersTokens_cons_cons, membersChars_cons_cons]
      rw [membersTokens_cons_cons] at h
      have hvalue := spells_chars member.2 fun number hnumber => h number (by simp [hnumber])
      have hrest := layout_membersChars (second :: rest) fun number hnumber =>
        h number (by simp [hnumber])
      exact hname.append ((layout_mark (c := ':') (by decide)).append
        (hvalue.append ((layout_mark (c := ',') (by decide)).append hrest)))

end

/-- The written text of a value is one of its texts. -/
theorem spells_text (value : Json)
    (h : ∀ number, .number (some number) ∈ value.tokens → IsWritable number) :
    value.Spells value.text.toList := by
  rw [text, String.toList_ofList]
  exact spells_chars value h

/-- A value that is not too deep is read back from its written text. -/
theorem read?_text (value : Json)
    (h : ∀ number, .number (some number) ∈ value.tokens → IsWritable number)
    (hdepth : value.depth ≤ maxDepth) : read? value.text = some value :=
  read?_eq_some_iff.2 ⟨spells_text value h, hdepth⟩

/-! ### Where the numbers of a value stand -/

/-- A number among the tokens of items belongs to one of the items. -/
lemma exists_mem_of_number_mem_itemsTokens {items : List Json} {number : Option Number}
    (h : .number number ∈ itemsTokens items) : ∃ item ∈ items, .number number ∈ item.tokens := by
  induction items with
  | nil => simp [itemsTokens] at h
  | cons item rest ih =>
    cases rest with
    | nil => exact ⟨item, List.mem_cons_self, h⟩
    | cons second rest =>
      rw [itemsTokens_cons_cons] at h
      simp only [List.mem_append, List.mem_cons, reduceCtorEq, false_or] at h
      rcases h with hitem | hrest
      · exact ⟨item, List.mem_cons_self, hitem⟩
      · obtain ⟨other, hother, hnumber⟩ := ih hrest
        exact ⟨other, List.mem_cons_of_mem _ hother, hnumber⟩

/-- A number among the tokens of members belongs to the value of one of the members. -/
lemma exists_mem_of_number_mem_membersTokens {members : List (String × Json)}
    {number : Option Number} (h : .number number ∈ membersTokens members) :
    ∃ member ∈ members, .number number ∈ member.2.tokens := by
  induction members with
  | nil => simp [membersTokens] at h
  | cons member rest ih =>
    cases rest with
    | nil =>
      simp only [membersTokens, List.mem_cons, reduceCtorEq, false_or] at h
      exact ⟨member, List.mem_cons_self, h⟩
    | cons second rest =>
      rw [membersTokens_cons_cons] at h
      simp only [List.mem_append, List.mem_cons, reduceCtorEq, false_or] at h
      rcases h with hmember | hrest
      · exact ⟨member, List.mem_cons_self, hmember⟩
      · obtain ⟨other, hother, hnumber⟩ := ih hrest
        exact ⟨other, List.mem_cons_of_mem _ hother, hnumber⟩

end Json

end PatternSql
