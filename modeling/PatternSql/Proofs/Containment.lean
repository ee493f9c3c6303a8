import PatternSql.Proofs.Normalization

/-!
# Containment of texts

A text is contained when its quotes and parentheses are closed within it.  `Scan` goes
through a text from left to right: a backslash takes the next character away, a single
quote begins or ends a quotation, and outside quotations parentheses are counted.

The text of a predicate is put together from operands, and an operand from what the user
wrote.  `Scan.Settled` is a grammar for the latter: characters without a role, special
characters behind a backslash, and groups between parentheses.  A settled text leaves every
scan as it was, inside a quotation as well as outside, and it stays settled when the anchors
of a regular expression are taken off, since an anchor is never what a backslash takes away.

Scalars are settled.  A set is displayed with the strings in it as they are, unless it is the
set that membership is tested in: these strings are exposed, and the operand is contained when
each of them leaves a scan as it was (`Literal.closed_operand_of_exposed`).
-/

namespace PatternSql

/-! ### Scanning -/

/-- What is known of a text up to a place in it. -/
structure Scan where
  /-- Whether the place is inside a quotation. -/
  quoted : Bool := false
  /-- Whether a backslash takes the next character away. -/
  escaping : Bool := false
  /-- The number of parentheses that are open. -/
  depth : Nat := 0
deriving DecidableEq

namespace Scan

/-- Go past a character.  There is no way past a parenthesis that closes what is not open. -/
def next? (scan : Scan) (c : Char) : Option Scan :=
  if scan.escaping then some { scan with escaping := false }
  else if c = '\x5c' then some { scan with escaping := true }
  else if c = '\x27' then some { scan with quoted := !scan.quoted }
  else if scan.quoted then some scan
  else if c = '(' then some { scan with depth := scan.depth + 1 }
  else if c = ')' then
    match scan.depth with
    | 0 => none
    | depth + 1 => some { scan with depth }
  else some scan

/-- Go past characters one after the other. -/
def run? : List Char → Scan → Option Scan
  | [], scan => some scan
  | c :: rest, scan => (scan.next? c).bind (run? rest)

/-- Characters are gone past in two parts, one after the other. -/
lemma run?_append (cs rest : List Char) (scan : Scan) :
    run? (cs ++ rest) scan = (run? cs scan).bind (run? rest) := by
  induction cs generalizing scan with
  | nil => rfl
  | cons c cs ih =>
    rw [List.cons_append, run?, run?, Option.bind_assoc]
    cases scan.next? c with
    | none => rfl
    | some scan => simp [ih]

/-- Characters that leave every scan as it was, outside quotations. -/
def Closed (cs : List Char) : Prop :=
  ∀ depth, run? cs { depth } = some { depth }

/-- Characters that leave every scan as it was, inside quotations as well as outside. -/
def Neutral (cs : List Char) : Prop :=
  ∀ quoted depth, run? cs { quoted, depth } = some { quoted, depth }

/-- Characters that leave every scan as it was, inside quotations or outside, as `quoted` says. -/
def Steady (quoted : Bool) (cs : List Char) : Prop :=
  ∀ depth, run? cs { quoted, depth } = some { quoted, depth }

/-- Whether a character has no role for a scan. -/
def isPlain (c : Char) : Bool :=
  !(c = '\x5c' || c = '\x27' || c = '(' || c = ')')

/-- A character without a role leaves every scan as it was. -/
lemma next?_of_isPlain {c : Char} (h : isPlain c = true) (quoted : Bool) (depth : Nat) :
    next? { quoted, depth } c = some { quoted, depth } := by
  simp only [isPlain, Bool.not_eq_true', Bool.or_eq_false_iff, decide_eq_false_iff_not] at h
  obtain ⟨⟨⟨hbackslash, hquote⟩, hopening⟩, hclosing⟩ := h
  simp [next?, hbackslash, hquote, hopening, hclosing]

/-- Steady characters may follow each other. -/
lemma Steady.append {quoted : Bool} {cs rest : List Char} (hcs : Steady quoted cs)
    (hrest : Steady quoted rest) : Steady quoted (cs ++ rest) := by
  intro depth
  rw [run?_append, hcs, Option.bind_some, hrest]

/-- Steady characters may stand between parentheses, which are counted outside quotations and
passed over inside. -/
lemma Steady.parenthesized {quoted : Bool} {cs : List Char} (h : Steady quoted cs) :
    Steady quoted ('(' :: (cs ++ [')'])) := by
  intro depth
  cases quoted with
  | false =>
    have hopening : next? { depth } '(' = some { depth := depth + 1 } := rfl
    rw [run?, hopening, Option.bind_some, run?_append, h, Option.bind_some]
    rfl
  | true =>
    have hopening : next? { quoted := true, depth } '(' = some { quoted := true, depth } := rfl
    rw [run?, hopening, Option.bind_some, run?_append, h, Option.bind_some]
    rfl

/-- Characters that are steady inside quotations may be quoted. -/
lemma Steady.quotation {cs : List Char} (h : Steady true cs) :
    Closed ('\x27' :: (cs ++ ['\x27'])) := by
  intro depth
  have hopening : next? { depth } '\x27' = some { quoted := true, depth } := rfl
  rw [run?, hopening, Option.bind_some, run?_append, h, Option.bind_some]
  rfl

/-- Neutral characters are steady inside quotations and outside. -/
lemma Neutral.steady {cs : List Char} (h : Neutral cs) (quoted : Bool) : Steady quoted cs :=
  h quoted

/-- Neutral characters are closed. -/
lemma Neutral.closed {cs : List Char} (h : Neutral cs) : Closed cs :=
  h false

/-- Closed characters may follow each other. -/
lemma Closed.append {cs rest : List Char} (hcs : Closed cs) (hrest : Closed rest) :
    Closed (cs ++ rest) :=
  Steady.append hcs hrest

/-- Closed characters may stand between parentheses. -/
lemma Closed.parenthesized {cs : List Char} (h : Closed cs) : Closed ('(' :: (cs ++ [')'])) :=
  Steady.parenthesized h

/-! ### Settled characters -/

/-- Characters without a role, special characters behind a backslash, and groups between
parentheses. -/
inductive Settled : List Char → Prop
  | nil : Settled []
  | plain {c : Char} {rest : List Char} (hc : isPlain c = true) (hrest : Settled rest) :
    Settled (c :: rest)
  | escape {c : Char} {rest : List Char} (hc : Operand.isSpecial c = true)
    (hrest : Settled rest) : Settled ('\x5c' :: c :: rest)
  | group {inner rest : List Char} (hinner : Settled inner) (hrest : Settled rest) :
    Settled ('(' :: (inner ++ ')' :: rest))

namespace Settled

variable {cs rest : List Char}

/-- Settled characters leave every scan as it was. -/
theorem neutral (h : Settled cs) : Neutral cs := by
  induction h with
  | nil => exact fun quoted depth => rfl
  | plain hc _ ih =>
    intro quoted depth
    rw [run?, next?_of_isPlain hc, Option.bind_some, ih]
  | escape _ _ ih => exact fun quoted depth => ih quoted depth
  | group _ _ ihInner ihRest =>
    intro quoted
    have hgroup := (ihInner.steady quoted).parenthesized.append (ihRest.steady quoted)
    rw [List.cons_append, List.append_assoc, List.singleton_append] at hgroup
    exact hgroup

/-- Settled characters are steady inside quotations and outside. -/
lemma steady (h : Settled cs) (quoted : Bool) : Steady quoted cs :=
  h.neutral quoted

/-- Settled characters may follow each other. -/
lemma append (hcs : Settled cs) (hrest : Settled rest) : Settled (cs ++ rest) := by
  induction hcs with
  | nil => exact hrest
  | plain hc _ ih => exact .plain hc ih
  | escape hc _ ih => exact .escape hc ih
  | group hinner _ _ ih =>
    have hgroup := group hinner ih
    simpa using hgroup

/-- Settled characters may stand between parentheses. -/
lemma parenthesized (hcs : Settled cs) : Settled ('(' :: (cs ++ [')'])) :=
  .group hcs .nil

/-- Characters without a role are settled. -/
lemma of_isPlain (h : ∀ c ∈ cs, isPlain c = true) : Settled cs := by
  induction cs with
  | nil => exact .nil
  | cons c cs ih =>
    rw [List.forall_mem_cons] at h
    exact .plain h.1 (ih h.2)

/-- What follows a leading `^` is settled. -/
lemma of_cons_caret (h : Settled ('^' :: cs)) : Settled cs := by
  cases h with
  | plain _ hrest => exact hrest

/-- What stands before a trailing `$` is settled: no backslash takes the `$` away, and no group
ends with it. -/
lemma of_append_dollar (h : Settled (cs ++ ['$'])) : Settled cs := by
  generalize hall : cs ++ ['$'] = all at h
  induction h generalizing cs with
  | nil => simp at hall
  | plain hc hrest ih =>
    cases cs with
    | nil => exact .nil
    | cons first cs =>
      rw [List.cons_append, List.cons.injEq] at hall
      obtain ⟨rfl, hall⟩ := hall
      exact .plain hc (ih hall)
  | escape hc hrest ih =>
    match cs with
    | [] => simp at hall
    | [first] =>
      simp only [List.cons_append, List.nil_append, List.cons.injEq] at hall
      obtain ⟨_, rfl, _⟩ := hall
      simp [Operand.isSpecial] at hc
    | first :: second :: cs =>
      simp only [List.cons_append, List.cons.injEq] at hall
      obtain ⟨rfl, rfl, hall⟩ := hall
      exact .escape hc (ih hall)
  | @group inner rest hinner hrest _ ih =>
    -- the `$` is not the parenthesis that closes the group, so it stands in what follows
    rcases List.eq_nil_or_concat rest with rfl | ⟨init, last, rfl⟩
    · have hlast := congrArg List.getLast? hall
      rw [List.getLast?_concat, ← List.cons_append, List.getLast?_concat] at hlast
      simp at hlast
    · have hsplit : cs ++ ['$'] = ('(' :: (inner ++ ')' :: init)) ++ [last] := by
        simpa using hall
      obtain ⟨rfl, hlast⟩ := List.append_inj' hsplit rfl
      obtain rfl : '$' = last := by simpa using hlast
      exact .group hinner (ih List.concat_eq_append.symm)

end Settled

end Scan

open Scan

namespace Text

/-- A text without a backslash, a single quote or a parenthesis. -/
def IsPlain (text : String) : Prop :=
  ∀ c ∈ text.toList, isPlain c = true

/-- Whether a text is plain can be decided. -/
instance (text : String) : Decidable (IsPlain text) :=
  decidable_of_iff (text.toList.all isPlain = true) List.all_eq_true

/-- A plain text is settled. -/
lemma IsPlain.settled {text : String} (h : IsPlain text) : Settled text.toList :=
  .of_isPlain h

/-- A plain text is closed. -/
lemma IsPlain.closed {text : String} (h : IsPlain text) : Closed text.toList :=
  h.settled.neutral.closed

end Text

/-! ### Operands -/

namespace Operand

/-- A string with its special characters behind backslashes is settled. -/
lemma settled_escapeChars (cs : List Char) : Settled (escapeChars cs) := by
  induction cs with
  | nil => exact .nil
  | cons c cs ih =>
    rw [escapeChars, List.flatMap_cons]
    split
    · rename_i hspecial
      exact .escape hspecial ih
    · rename_i hspecial
      refine .plain ?_ ih
      simp only [isSpecial, Bool.or_eq_true, decide_eq_true_eq, not_or] at hspecial
      simp [isPlain, hspecial]

/-- Taking a leading anchor off, or putting a wildcard there, keeps characters settled. -/
lemma settled_openStart {cs : List Char} (h : Settled cs) : Settled (openStart cs) := by
  unfold openStart
  split
  · exact h.of_cons_caret
  · exact .plain rfl (.plain rfl h)

/-- Taking a trailing anchor off, or putting a wildcard there, keeps characters settled. -/
lemma settled_openEnd {cs : List Char} (h : Settled cs) : Settled (openEnd cs) := by
  unfold openEnd
  split
  · rename_i hlast
    obtain ⟨init, rfl⟩ := List.getLast?_eq_some_iff.1 hlast
    rw [List.dropLast_concat]
    exact h.of_append_dollar
  · exact h.append (.plain rfl (.plain rfl .nil))

/-- Steady texts are steady when they are joined by a steady one. -/
lemma steady_join {quoted : Bool} {separator : String} (hseparator : Steady quoted separator.toList)
    {texts : List String} (h : ∀ text ∈ texts, Steady quoted text.toList) :
    Steady quoted (Text.join separator texts).toList := by
  induction texts with
  | nil => exact fun depth => rfl
  | cons first rest ih =>
    rw [List.forall_mem_cons] at h
    cases rest with
    | nil => exact h.1
    | cons second rest =>
      rw [Text.join_cons_cons, String.toList_append, String.toList_append]
      exact (h.1.append hseparator).append (ih h.2)

end Operand

/-! ### Literals -/

namespace Literal

/-- Whether a literal is no set. -/
def isScalar : Literal → Bool
  | .set _ => false
  | _ => true

/-- A digit has no role. -/
lemma isPlain_of_isDigit {c : Char} (h : c.isDigit = true) : isPlain c = true := by
  unfold isPlain
  by_contra hrole
  simp only [Bool.not_eq_true, Bool.not_eq_false', Bool.or_eq_true, decide_eq_true_eq] at hrole
  rcases hrole with ((rfl | rfl) | rfl) | rfl <;> simp at h

/-- The text of an integer has no role. -/
lemma settled_intChars (value : Int) : Settled (Text.intChars value) := by
  refine .of_isPlain fun c hc => ?_
  rcases Text.eq_or_isDigit_of_mem_intChars hc with rfl | hdigit
  · rfl
  · exact isPlain_of_isDigit hdigit

/-- The digits of a decimal, each in its place, have no role. -/
lemma settled_positional (d : Decimal) : Settled d.positional := by
  refine .of_isPlain fun c hc => ?_
  rcases d.isDecimal_positional.1 c hc with hdigit | rfl
  · exact isPlain_of_isDigit hdigit
  · rfl

/-- The text of a double has no role. -/
lemma settled_doubleText (x : Double) : Settled x.text := by
  unfold Double.text Double.signText
  split
  · exact .plain rfl (settled_positional _)
  · exact settled_positional _

/-- The characters of a scalar are settled. -/
lemma settled_escapedChars {literal : Literal} (h : literal.isScalar = true) :
    Settled (Operand.escapedChars literal) := by
  cases literal with
  | boolean value => cases value <;> exact Text.IsPlain.settled (by decide)
  | integer value =>
    rw [Operand.escapedChars, display, Text.toList_ofInt]
    · exact settled_intChars _
    · simp
  | float value =>
    rw [Operand.escapedChars, display, String.toList_ofList]
    · exact settled_doubleText _
    · simp
  | string value => exact Operand.settled_escapeChars _
  | set members => simp [isScalar] at h

/-! ### Exposed strings -/

mutual

/-- The display text of a literal leaves a scan as it was when its strings do. -/
theorem steady_display {quoted : Bool} (literal : Literal)
    (h : ∀ text, .string text ∈ literal.scalars → Steady quoted text.toList) :
    Steady quoted literal.display.toList := by
  cases literal with
  | boolean value =>
    have hscalar : Settled (Operand.escapedChars (.boolean value)) := settled_escapedChars rfl
    exact hscalar.steady quoted
  | integer value =>
    have hscalar : Settled (Operand.escapedChars (.integer value)) := settled_escapedChars rfl
    exact hscalar.steady quoted
  | float value =>
    have hscalar : Settled (Operand.escapedChars (.float value)) := settled_escapedChars rfl
    exact hscalar.steady quoted
  | string text => exact h text List.mem_cons_self
  | set members =>
    rw [display, String.toList_append, String.toList_append]
    exact (steady_displayList members h).parenthesized

/-- The display texts of literals leave a scan as it was when their strings do. -/
theorem steady_displayList {quoted : Bool} (members : List Literal)
    (h : ∀ text, .string text ∈ scalarsList members → Steady quoted text.toList) :
    Steady quoted (displayList members).toList := by
  cases members with
  | nil => exact Settled.nil.steady quoted
  | cons member rest =>
    have hmember := steady_display member fun text hmem => h text (List.mem_append_left _ hmem)
    cases rest with
    | nil => exact hmember
    | cons second rest =>
      have hrest := steady_displayList (second :: rest) fun text hmem =>
        h text (List.mem_append_right _ hmem)
      have hcomma : Settled ", ".toList := Text.IsPlain.settled (by decide)
      rw [displayList, String.toList_append, String.toList_append]
      · exact (hmember.append (hcomma.steady quoted)).append hrest
      · simp

end

/-- The scalars that stand in a set, at any depth; a scalar by itself stands in none. -/
def enclosed : Literal → List Literal
  | .set members => scalarsList members
  | _ => []

/-- The characters of a literal leave a scan as it was when the strings in its sets do. -/
lemma steady_escapedChars {quoted : Bool} {literal : Literal}
    (h : ∀ text, .string text ∈ literal.enclosed → Steady quoted text.toList) :
    Steady quoted (Operand.escapedChars literal) := by
  cases literal with
  | set members => exact steady_display (.set members) h
  | _ => exact (settled_escapedChars rfl).steady quoted

/-- A set has no anchors, as it is displayed between parentheses, so wildcards stand on both sides
of it. -/
lemma openEnd_openStart_set (members : List Literal) :
    Operand.openEnd (Operand.openStart (Operand.escapedChars (.set members))) =
      ['.', '*'] ++ Operand.escapedChars (.set members) ++ ['.', '*'] := by
  have hdisplay : Operand.escapedChars (.set members) =
      '(' :: (displayList members).toList ++ [')'] := by
    simp [Operand.escapedChars, display]
  have hlast : ('.' :: '*' :: '(' :: (displayList members).toList ++ [')']).getLast? ≠
      some '$' := by
    rw [List.getLast?_concat]
    decide
  rw [hdisplay]
  exact if_neg hlast

/-- The characters of a literal with wildcards for its anchors leave a scan as it was when the
strings in its sets do. -/
lemma steady_openEnd_openStart {quoted : Bool} {literal : Literal}
    (h : ∀ text, .string text ∈ literal.enclosed → Steady quoted text.toList) :
    Steady quoted (Operand.openEnd (Operand.openStart (Operand.escapedChars literal))) := by
  cases literal with
  | set members =>
    have hwildcard : Settled ['.', '*'] := .plain rfl (.plain rfl .nil)
    rw [openEnd_openStart_set]
    exact ((hwildcard.steady quoted).append (steady_escapedChars h)).append
      (hwildcard.steady quoted)
  | _ =>
    refine Settled.steady (Operand.settled_openEnd (Operand.settled_openStart ?_)) quoted
    exact settled_escapedChars rfl

end Literal

namespace Comparator

/-- Whether the operand of a comparator stands between quotes. -/
def quotes : Comparator → Bool
  | .equal | .notEqual | .like | .matching => true
  | _ => false

/-- The scalars that an operand shows as they are displayed within a set. -/
def exposed (comparator : Comparator) (literal : Literal) : List Literal :=
  match comparator, literal with
  | .isIn, .set members => members.flatMap Literal.enclosed
  | _, literal => literal.enclosed

end Comparator

namespace Literal

/-- A text that is steady inside quotations, between quotes, is closed. -/
lemma closed_quoted {text : String} (h : Steady true text.toList) :
    Closed (Operand.quoted text).toList := by
  have hquotation := h.quotation
  simpa [Operand.quoted] using hquotation

/-- The operand of membership is closed when the strings in the sets among its members are. -/
lemma closed_operand_isIn {literal : Literal}
    (h : ∀ text, .string text ∈ Comparator.isIn.exposed literal → Closed text.toList) :
    Closed (Comparator.isIn.operand literal).toList := by
  have halternatives : ∀ text ∈ Operand.alternatives literal, Closed text.toList := by
    intro text htext
    cases literal with
    | set members =>
      obtain ⟨member, hmember, rfl⟩ := List.mem_map.1 htext
      rw [Operand.escaped, String.toList_ofList]
      exact steady_escapedChars fun text hmem => h text (List.mem_flatMap.2 ⟨member, hmember, hmem⟩)
    | _ =>
      obtain rfl := List.mem_singleton.1 htext
      rw [Operand.escaped, String.toList_ofList]
      exact steady_escapedChars h
  have hseparator : Closed " OR ".toList := Text.IsPlain.closed (by decide)
  have hjoin : Closed (Text.join " OR " (Operand.alternatives literal)).toList :=
    Operand.steady_join hseparator halternatives
  have hparenthesized := hjoin.parenthesized
  simpa [Comparator.operand] using hparenthesized

/-- The operand that a literal becomes is closed when its exposed strings leave a scan as it was. -/
theorem closed_operand_of_exposed {comparator : Comparator} {literal : Literal}
    (h : ∀ text, .string text ∈ comparator.exposed literal →
      Steady comparator.quotes text.toList) : Closed (comparator.operand literal).toList := by
  have hescaped (quoted : Bool)
      (hliteral : ∀ text, .string text ∈ literal.enclosed → Steady quoted text.toList) :
      Steady quoted (Operand.escaped literal).toList := by
    rw [Operand.escaped, String.toList_ofList]
    exact steady_escapedChars hliteral
  cases comparator with
  | equal => exact closed_quoted (hescaped true h)
  | notEqual => exact closed_quoted (hescaped true h)
  | like =>
    refine closed_quoted ?_
    rw [String.toList_append, String.toList_append]
    have hwildcard : Steady true "%".toList := fun _ => rfl
    exact (hwildcard.append (hescaped true h)).append hwildcard
  | matching =>
    refine closed_quoted ?_
    rw [String.toList_ofList]
    exact steady_openEnd_openStart h
  | isIn => exact closed_operand_isIn h
  | _ => exact hescaped false h

/-- A literal that a comparator can render: a scalar, a normalised literal, or for membership a
set of scalars. -/
def Renderable (comparator : Comparator) (literal : Literal) : Prop :=
  literal.isScalar = true ∨ literal.IsNormal ∨
    comparator = .isIn ∧ ∃ members, literal = .set members ∧
      ∀ member ∈ members, member.isScalar = true

/-- A scalar encloses nothing. -/
lemma enclosed_of_isScalar {literal : Literal} (h : literal.isScalar = true) :
    literal.enclosed = [] := by
  cases literal with
  | set members => simp [isScalar] at h
  | _ => rfl

/-- What a literal encloses is among its scalars. -/
lemma enclosed_subset_scalars (literal : Literal) : literal.enclosed ⊆ literal.scalars := by
  cases literal with
  | set members => exact List.Subset.refl _
  | _ => exact List.nil_subset _

/-- Only what a literal encloses is exposed. -/
lemma exposed_subset_enclosed (comparator : Comparator) (literal : Literal) :
    comparator.exposed literal ⊆ literal.enclosed := by
  intro scalar hscalar
  unfold Comparator.exposed at hscalar
  split at hscalar
  · obtain ⟨member, hmember, hmem⟩ := List.mem_flatMap.1 hscalar
    exact scalars_subset_scalarsList hmember (enclosed_subset_scalars member hmem)
  · exact hscalar

/-- A renderable literal exposes no string. -/
lemma Renderable.string_notMem_exposed {comparator : Comparator} {literal : Literal}
    (h : Renderable comparator literal) (text : String) :
    .string text ∉ comparator.exposed literal := by
  intro hmem
  have henclosed := exposed_subset_enclosed comparator literal hmem
  rcases h with hscalar | hnormal | ⟨rfl, members, rfl, hscalars⟩
  · simp [enclosed_of_isScalar hscalar] at henclosed
  · obtain ⟨value, hvalue⟩ := hnormal _ (enclosed_subset_scalars literal henclosed)
    cases hvalue
  · obtain ⟨member, hmember, hmem⟩ := List.mem_flatMap.1 hmem
    simp [enclosed_of_isScalar (hscalars member hmember)] at hmem

/-- The operand that a renderable literal becomes is closed. -/
theorem closed_operand {comparator : Comparator} {literal : Literal}
    (h : Renderable comparator literal) : Closed (comparator.operand literal).toList := by
  refine closed_operand_of_exposed fun text hmem => ?_
  exact absurd hmem (h.string_notMem_exposed text)

end Literal

/-! ### Predicates -/

/-- A text whose quotes and parentheses are closed within it. -/
def Text.IsContained (text : String) : Prop :=
  run? text.toList {} = some {}

/-- Whether a text is contained can be decided. -/
instance (text : String) : Decidable (Text.IsContained text) :=
  inferInstanceAs (Decidable (run? text.toList {} = some {}))

/-- A comparison with a scalar, with a set of scalars for membership, or on a field that holds
times. -/
def Comparison.IsRenderable (test : Comparison) : Prop :=
  test.value.isScalar = true ∨
    (test.comparator = .isIn ∧ ∃ members, test.value = .set members ∧
      ∀ member ∈ members, member.isScalar = true) ∨
    ∃ field, test.field? = some field ∧ Temporal.isTemporal field.name = true

/-- The literal that a renderable comparison is made with can be rendered. -/
lemma Comparison.IsRenderable.literal {test : Comparison} {field : Field} {literal : Literal}
    (h : test.IsRenderable) (hfield : test.field? = some field)
    (hliteral : Temporal.literalFor field.name test.value = .ok literal) :
    Literal.Renderable test.comparator literal := by
  unfold Temporal.literalFor at hliteral
  split at hliteral
  · exact .inr (.inl (Temporal.isNormal_of_normalize _ hliteral))
  · rename_i htemporal
    obtain rfl : test.value = literal := by simpa using hliteral
    rcases h with hscalar | hset | ⟨field', hfield', htemporal'⟩
    · exact .inl hscalar
    · exact .inr (.inr hset)
    · obtain rfl : field = field' := Option.some.inj (hfield.symm.trans hfield')
      exact absurd htemporal' htemporal

namespace DataSource

variable {source : DataSource}

/-- The names and words of a data source are plain. -/
structure IsPlain (source : DataSource) : Prop where
  columns : ∀ field, ∀ column ∈ source.mapping.columns field, Text.IsPlain column
  words : ∀ key word, source.mapping.word? key = some word → Text.IsPlain word
  timeColumn : Text.IsPlain source.timeColumn

/-- The names and words of the sample event table are plain. -/
lemma isPlain_sample (scope : Scope) : (DataSource.sample scope).IsPlain := by
  have hcolumns : ∀ entry ∈ Mapping.sample.fields.entries, ∀ columns ∈ entry.2.entries,
      ∀ column ∈ columns.2, Text.IsPlain column := by
    decide +kernel
  have hwords : ∀ entry ∈ Mapping.sample.operators.entries, Text.IsPlain entry.2 := by
    decide +kernel
  have htimeColumn : Text.IsPlain defaultTimeColumn := by
    decide +kernel
  refine ⟨Mapping.forall_mem_columns hcolumns, fun key word hword => ?_, htimeColumn⟩
  exact hwords _ (KeyMap.mem_entries_of_get? hword)

/-- A word between clauses is plain. -/
lemma IsPlain.joiner (h : source.IsPlain) {word : String} (hword : source.IsJoiner word) :
    Text.IsPlain word := by
  rcases hword with rfl | rfl | ⟨key, hkey⟩
  · decide
  · decide
  · exact h.words key word hkey

/-- A clause built from renderable comparisons of a plain data source is closed. -/
theorem closed_text_of_builtFrom (hsource : source.IsPlain) {pattern : Pattern}
    (htests : ∀ test, .comparison test ∈ pattern.subpatterns → test.IsRenderable)
    {clause : Clause} (h : clause.BuiltFrom source pattern) : Closed clause.text.toList := by
  have hblank : Closed " ".toList := Text.IsPlain.closed (by decide)
  induction h with
  | test h =>
    obtain ⟨test, field, literal, htest, hfield, hword, hliteral, hcolumn, rfl⟩ := h
    have hoperand := Literal.closed_operand ((htests test htest).literal hfield hliteral)
    simp only [Clause.text, String.toList_append]
    exact ((((hsource.columns field _ hcolumn).closed.append hblank).append
      (hsource.words _ _ hword).closed).append hblank).append hoperand
  | within range =>
    have hcolumn := hsource.timeColumn.settled
    have hstart : Settled (Text.ofInt range.start).toList := by
      rw [Text.toList_ofInt]
      exact Literal.settled_intChars _
    have hstop : Settled (Text.ofInt range.stop).toList := by
      rw [Text.toList_ofInt]
      exact Literal.settled_intChars _
    have hlower : Settled " >= ".toList := Text.IsPlain.settled (by decide)
    have hand : Settled " AND ".toList := Text.IsPlain.settled (by decide)
    have hupper : Settled " <= ".toList := Text.IsPlain.settled (by decide)
    have hinner := (((((hcolumn.append hlower).append hstart).append hand).append
      hcolumn).append hupper).append hstop
    have hparenthesized := hinner.parenthesized.neutral.closed
    simpa [Clause.text] using hparenthesized
  | join hword _ _ ihLeft ihRight =>
    simp only [Clause.text, String.toList_append]
    exact (((ihLeft.append hblank).append (hsource.joiner hword).closed).append hblank).append
      ihRight
  | group _ ih =>
    have hparenthesized := ih.parenthesized
    simpa [Clause.text] using hparenthesized
  | negation _ ih =>
    have hnot : Closed "NOT".toList := Text.IsPlain.closed (by decide)
    have hnegation := hnot.append ih.parenthesized
    simpa [Clause.text] using hnegation

/-- The predicate of a pattern is contained, whatever the texts of its literals are, when the
names and words of the data source are plain and its comparisons can be rendered. -/
theorem predicate_isContained (hsource : source.IsPlain) {pattern : Pattern}
    (htests : ∀ test, .comparison test ∈ pattern.subpatterns → test.IsRenderable)
    {text : String} (htext : source.predicate pattern = .ok text) : Text.IsContained text := by
  obtain ⟨result, hresult, rfl⟩ := predicate_eq_ok_iff.1 htext
  cases result with
  | none => rfl
  | some clause => exact closed_text_of_builtFrom hsource htests (builtFrom_of_clause hresult) 0

/-- Comparisons with texts that have quotes, parentheses, backslashes and anchors in them. -/
def quotingPattern : Pattern :=
  .combined .and
    (.comparison ⟨"file:name", .matching, .string "^(\\'$", true⟩)
    (.comparison ⟨"process:name", .isIn, .set [.string "a')", .integer 3], false⟩)

/-- The predicate of a pattern with quotes and parentheses in its values is contained. -/
theorem predicate_isContained_sample :
    ∃ text, (DataSource.sample .last).predicate quotingPattern = .ok text ∧
      Text.IsContained text := by
  have htests : ∀ test, .comparison test ∈ quotingPattern.subpatterns → test.IsRenderable := by
    intro test htest
    simp only [quotingPattern, Pattern.subpatterns, List.cons_append, List.nil_append,
      List.mem_cons, List.not_mem_nil, reduceCtorEq, Pattern.comparison.injEq, false_or,
      or_false] at htest
    rcases htest with rfl | rfl
    · exact .inl rfl
    · exact .inr (.inl ⟨rfl, _, rfl, by simp [Literal.isScalar]⟩)
  have htext : (DataSource.sample .last).predicate quotingPattern = .ok
      ("(NOT(filename ~ '\\(\\\\\\'') AND (process_name IN (a\\'\\) OR 3) OR " ++
        "parent_process_name IN (a\\'\\) OR 3)))") := by
    decide +kernel
  exact ⟨_, htext, predicate_isContained (isPlain_sample .last) htests htext⟩

end DataSource

end PatternSql
