import PatternSql.Predicate.Clause
import PatternSql.Text.Join
import Mathlib.Tactic.Lemma

/-!
# Clauses as formulas

How the text of a clause is understood by a reader who knows that negation binds tighter
than conjunction, and conjunction tighter than disjunction.

The text is cut into tokens: atoms, the two connectives, and three kinds of brackets.
`Formula.parse?` reads tokens from left to right.  Within a pair of brackets it keeps the
disjuncts that are finished and the conjuncts of the current disjunct that are finished;
an `AND` adds to the latter, an `OR` closes the current disjunct.

A clause is a tree of its own, and `Clause.eval` evaluates it along this tree.  The two
readings may differ, since only some nodes of the tree are written with parentheses.
`Clause.Separated` says that no conjunction has a disjunction as an operand, and
`Clause.exists_parse?_tokens` that the two readings then agree.
-/

namespace PatternSql

/-! ### Atoms and formulas -/

/-- A part of a clause whose inner structure does not matter. -/
inductive Atom where
  /-- A column, an operator word and an operand. -/
  | test (column word operand : String)
  /-- A column within a time range. -/
  | within (column : String) (range : TimeRange)
deriving DecidableEq

/-- An atom as a clause. -/
def Atom.clause : Atom → Clause
  | .test column word operand => .test column word operand
  | .within column range => .within column range

/-- A Boolean combination of atoms. -/
inductive Formula where
  | atom (part : Atom)
  | negation (inner : Formula)
  | conjunction (left right : Formula)
  | disjunction (left right : Formula)
deriving DecidableEq

/-- The value of a formula under a truth assignment. -/
def Formula.eval (truth : Atom → Bool) : Formula → Bool
  | .atom part => truth part
  | .negation inner => !inner.eval truth
  | .conjunction left right => left.eval truth && right.eval truth
  | .disjunction left right => left.eval truth || right.eval truth

/-! ### Tokens -/

/-- A token of a predicate. -/
inductive Token where
  | atom (part : Atom)
  | and
  | or
  /-- A parenthesis that begins a negated group. -/
  | negation
  /-- A parenthesis that begins a group. -/
  | opening
  /-- A parenthesis that ends a group. -/
  | closing
deriving DecidableEq

namespace Token

/-- The text of a token; connectives stand between blanks. -/
def text : Token → String
  | .atom part => part.clause.text
  | .and => " AND "
  | .or => " OR "
  | .negation => "NOT("
  | .opening => "("
  | .closing => ")"

/-- The texts of tokens one after the other. -/
def concat (tokens : List Token) : String :=
  Text.join "" (tokens.map text)

/-- The text of tokens begins with that of the first one. -/
lemma concat_cons (token : Token) (tokens : List Token) :
    concat (token :: tokens) = token.text ++ concat tokens := by
  cases tokens with
  | nil => simp [concat]
  | cons second tokens => simp [concat, Text.join_cons_cons]

/-- The text of tokens is put together from those of its parts. -/
lemma concat_append (tokens rest : List Token) :
    concat (tokens ++ rest) = concat tokens ++ concat rest := by
  induction tokens with
  | nil => simp [concat]
  | cons token tokens ih => rw [List.cons_append, concat_cons, concat_cons, ih, String.append_assoc]

end Token

/-! ### Reading with precedence -/

namespace Formula

/-- What stands to the left within a pair of brackets. -/
structure Frame where
  /-- The disjuncts before the last `OR`. -/
  disjuncts : Option Formula := none
  /-- The conjuncts after that and before the last `AND`. -/
  conjuncts : Option Formula := none
  /-- Whether the brackets negate what they enclose. -/
  negated : Bool := false

namespace Frame

/-- The current disjunct, when an operand ends it. -/
def conjoin (frame : Frame) (last : Formula) : Formula :=
  match frame.conjuncts with
  | none => last
  | some earlier => .conjunction earlier last

/-- All disjuncts, when an operand ends the last one. -/
def disjoin (frame : Frame) (last : Formula) : Formula :=
  match frame.disjuncts with
  | none => frame.conjoin last
  | some earlier => .disjunction earlier (frame.conjoin last)

/-- The whole bracket, when an operand ends it. -/
def close (frame : Frame) (last : Formula) : Formula :=
  if frame.negated then .negation (frame.disjoin last) else frame.disjoin last

end Frame

/-- A reader of tokens; the frames of the outer brackets stand innermost first. -/
inductive Reader where
  /-- An operand has to follow. -/
  | before (frame : Frame) (outer : List Frame)
  /-- An operand has been read. -/
  | after (frame : Frame) (outer : List Frame) (last : Formula)

namespace Reader

/-- Read a token. -/
def next? : Token → Reader → Option Reader
  | .atom part, .before frame outer => some (.after frame outer (.atom part))
  | .opening, .before frame outer => some (.before {} (frame :: outer))
  | .negation, .before frame outer => some (.before { negated := true } (frame :: outer))
  | .and, .after frame outer last =>
    some (.before { frame with conjuncts := some (frame.conjoin last) } outer)
  | .or, .after frame outer last =>
    some (.before { frame with disjuncts := some (frame.disjoin last), conjuncts := none } outer)
  | .closing, .after frame (enclosing :: outer) last =>
    some (.after enclosing outer (frame.close last))
  | _, _ => none

/-- Read tokens one after the other. -/
def run? : List Token → Reader → Option Reader
  | [], reader => some reader
  | token :: rest, reader => (reader.next? token).bind (run? rest)

/-- Tokens are read in two parts, one after the other. -/
lemma run?_append (tokens rest : List Token) (reader : Reader) :
    run? (tokens ++ rest) reader = (run? tokens reader).bind (run? rest) := by
  induction tokens generalizing reader with
  | nil => rfl
  | cons token tokens ih =>
    rw [List.cons_append, run?, run?, Option.bind_assoc]
    cases h : reader.next? token with
    | none => rfl
    | some reader => simp [ih]

end Reader

/-- The formula that tokens denote, where negation binds tightest and conjunction tighter than
disjunction. -/
def parse? (tokens : List Token) : Option Formula :=
  match Reader.run? tokens (.before {} []) with
  | some (.after frame [] last) => some (frame.close last)
  | _ => none

end Formula

/-! ### Precedence classes

A run of tokens is read in one of three ways.  An operand leaves the frame as it was; a
conjunction may add conjuncts to it; a disjunction may add disjuncts as well, and then must
stand where a disjunct begins.  Each class is part of the next one.
-/

namespace Formula

namespace Frame

/-- The value of the finished disjuncts. -/
def disjunctsValue (frame : Frame) (truth : Atom → Bool) : Bool :=
  match frame.disjuncts with
  | none => false
  | some earlier => earlier.eval truth

/-- The value of the finished conjuncts. -/
def conjunctsValue (frame : Frame) (truth : Atom → Bool) : Bool :=
  match frame.conjuncts with
  | none => true
  | some earlier => earlier.eval truth

/-- The value of the current disjunct when an operand ends it. -/
lemma eval_conjoin (frame : Frame) (last : Formula) (truth : Atom → Bool) :
    (frame.conjoin last).eval truth = (frame.conjunctsValue truth && last.eval truth) := by
  unfold conjoin conjunctsValue
  cases frame.conjuncts <;> simp [eval]

/-- The value of all disjuncts when an operand ends the last one. -/
lemma eval_disjoin (frame : Frame) (last : Formula) (truth : Atom → Bool) :
    (frame.disjoin last).eval truth =
      (frame.disjunctsValue truth || (frame.conjoin last).eval truth) := by
  unfold disjoin disjunctsValue
  cases frame.disjuncts <;> simp [eval]

end Frame

open Reader

/-- Tokens that are read as one operand of a given value. -/
def ReadsOperand (tokens : List Token) (value : (Atom → Bool) → Bool) : Prop :=
  ∀ frame outer, ∃ last,
    run? tokens (.before frame outer) = some (.after frame outer last) ∧
      ∀ truth, last.eval truth = value truth

/-- Tokens that are read as conjuncts of a given value. -/
def ReadsConjunction (tokens : List Token) (value : (Atom → Bool) → Bool) : Prop :=
  ∀ frame outer, ∃ conjuncts last,
    run? tokens (.before frame outer) = some (.after { frame with conjuncts } outer last) ∧
      ∀ truth, (({ frame with conjuncts } : Frame).conjoin last).eval truth =
        (frame.conjunctsValue truth && value truth)

/-- Tokens that are read as disjuncts of a given value, where a disjunct begins. -/
def ReadsDisjunction (tokens : List Token) (value : (Atom → Bool) → Bool) : Prop :=
  ∀ frame outer, frame.conjuncts = none → ∃ disjuncts conjuncts last,
    run? tokens (.before frame outer) =
        some (.after { frame with disjuncts, conjuncts } outer last) ∧
      ∀ truth, (({ frame with disjuncts, conjuncts } : Frame).disjoin last).eval truth =
        (frame.disjunctsValue truth || value truth)

variable {tokens rest : List Token} {value other : (Atom → Bool) → Bool}

/-- An atom is an operand. -/
lemma readsOperand_atom (part : Atom) : ReadsOperand [.atom part] fun truth => truth part := by
  intro frame outer
  exact ⟨.atom part, rfl, fun truth => rfl⟩

/-- An operand is a conjunction. -/
lemma ReadsOperand.conjunction (h : ReadsOperand tokens value) :
    ReadsConjunction tokens value := by
  intro frame outer
  obtain ⟨last, hrun, hvalue⟩ := h frame outer
  refine ⟨frame.conjuncts, last, hrun, fun truth => ?_⟩
  rw [Frame.eval_conjoin, hvalue]

/-- A conjunction is a disjunction. -/
lemma ReadsConjunction.disjunction (h : ReadsConjunction tokens value) :
    ReadsDisjunction tokens value := by
  intro frame outer hstart
  obtain ⟨conjuncts, last, hrun, hvalue⟩ := h frame outer
  refine ⟨frame.disjuncts, conjuncts, last, hrun, fun truth => ?_⟩
  have hnone : frame.conjunctsValue truth = true := by
    unfold Frame.conjunctsValue
    rw [hstart]
  rw [Frame.eval_disjoin, hvalue, hnone, Bool.true_and]
  rfl

/-- Two conjunctions with an `AND` between them are a conjunction. -/
lemma ReadsConjunction.and (hfirst : ReadsConjunction tokens value)
    (hsecond : ReadsConjunction rest other) :
    ReadsConjunction (tokens ++ .and :: rest) fun truth => value truth && other truth := by
  intro frame outer
  obtain ⟨conjuncts, last, hrun, hvalue⟩ := hfirst frame outer
  obtain ⟨conjuncts', last', hrun', hvalue'⟩ := hsecond
    { frame with conjuncts := some (({ frame with conjuncts } : Frame).conjoin last) } outer
  refine ⟨conjuncts', last', ?_, fun truth => ?_⟩
  · rw [run?_append, hrun]
    exact hrun'
  · calc (({ frame with conjuncts := conjuncts' } : Frame).conjoin last').eval truth
        = ((({ frame with conjuncts } : Frame).conjoin last).eval truth && other truth) :=
          hvalue' truth
      _ = (frame.conjunctsValue truth && (value truth && other truth)) := by
          rw [hvalue, Bool.and_assoc]

/-- Two disjunctions with an `OR` between them are a disjunction. -/
lemma ReadsDisjunction.or (hfirst : ReadsDisjunction tokens value)
    (hsecond : ReadsDisjunction rest other) :
    ReadsDisjunction (tokens ++ .or :: rest) fun truth => value truth || other truth := by
  intro frame outer hstart
  obtain ⟨disjuncts, conjuncts, last, hrun, hvalue⟩ := hfirst frame outer hstart
  obtain ⟨disjuncts', conjuncts', last', hrun', hvalue'⟩ := hsecond
    { frame with
      disjuncts := some (({ frame with disjuncts, conjuncts } : Frame).disjoin last)
      conjuncts := none } outer rfl
  refine ⟨disjuncts', conjuncts', last', ?_, fun truth => ?_⟩
  · rw [run?_append, hrun]
    exact hrun'
  · calc (({ frame with disjuncts := disjuncts', conjuncts := conjuncts' } : Frame).disjoin
          last').eval truth
        = ((({ frame with disjuncts, conjuncts } : Frame).disjoin last).eval truth ||
            other truth) := hvalue' truth
      _ = (frame.disjunctsValue truth || (value truth || other truth)) := by
          rw [hvalue, Bool.or_assoc]

/-- A disjunction between parentheses is an operand. -/
lemma ReadsDisjunction.group (h : ReadsDisjunction tokens value) :
    ReadsOperand (.opening :: (tokens ++ [.closing])) value := by
  intro frame outer
  obtain ⟨disjuncts, conjuncts, last, hrun, hvalue⟩ := h {} (frame :: outer) rfl
  refine ⟨({ disjuncts, conjuncts } : Frame).close last, ?_, fun truth => ?_⟩
  · rw [run?, next?, Option.bind_some, run?_append, hrun]
    rfl
  · exact (hvalue truth).trans (Bool.false_or _)

/-- A negated disjunction between parentheses is an operand. -/
lemma ReadsDisjunction.negation (h : ReadsDisjunction tokens value) :
    ReadsOperand (.negation :: (tokens ++ [.closing])) fun truth => !value truth := by
  intro frame outer
  obtain ⟨disjuncts, conjuncts, last, hrun, hvalue⟩ :=
    h { negated := true } (frame :: outer) rfl
  refine ⟨({ disjuncts, conjuncts, negated := true } : Frame).close last, ?_, fun truth => ?_⟩
  · rw [run?, next?, Option.bind_some, run?_append, hrun]
    rfl
  · have hinner := (hvalue truth).trans (Bool.false_or _)
    exact congrArg not hinner

/-- A disjunction that is all there is denotes a formula of its value. -/
lemma ReadsDisjunction.exists_parse? (h : ReadsDisjunction tokens value) :
    ∃ formula, parse? tokens = some formula ∧ ∀ truth, formula.eval truth = value truth := by
  obtain ⟨disjuncts, conjuncts, last, hrun, hvalue⟩ := h {} [] rfl
  refine ⟨({ disjuncts, conjuncts } : Frame).close last, ?_, fun truth => ?_⟩
  · rw [parse?, hrun]
  · exact (hvalue truth).trans (Bool.false_or _)

example (a b c : Atom) :
    parse? [.negation, .atom a, .or, .atom b, .closing, .and, .atom c, .or, .atom a] =
      some (.disjunction (.conjunction (.negation (.disjunction (.atom a) (.atom b))) (.atom c))
        (.atom a)) := rfl

end Formula

/-! ### Clauses

A clause is tokenised and evaluated along its tree.  Reading its tokens with precedence gives
the same value when no conjunction has a bare disjunction as an operand.
-/

namespace Clause

/-- The tokens of a clause.  A word between clauses is one of the two connectives. -/
def tokens : Clause → List Token
  | .test column word operand => [.atom (.test column word operand)]
  | .within column range => [.atom (.within column range)]
  | .join word left right =>
    left.tokens ++ (if word = "AND" then .and else .or) :: right.tokens
  | .group inner => .opening :: (inner.tokens ++ [.closing])
  | .negation inner => .negation :: (inner.tokens ++ [.closing])

/-- The value of a clause along its tree. -/
def eval (truth : Atom → Bool) : Clause → Bool
  | .test column word operand => truth (.test column word operand)
  | .within column range => truth (.within column range)
  | .join word left right =>
    if word = "AND" then left.eval truth && right.eval truth
    else left.eval truth || right.eval truth
  | .group inner => inner.eval truth
  | .negation inner => !inner.eval truth

/-- Whether a clause is a disjunction without parentheses around it. -/
def isDisjunction : Clause → Bool
  | .join word _ _ => word = "OR"
  | _ => false

/-- A join is a disjunction when its word is `OR`. -/
@[simp] lemma isDisjunction_join (word : String) (left right : Clause) :
    (join word left right).isDisjunction = decide (word = "OR") := rfl

/-- A group is no disjunction. -/
@[simp] lemma isDisjunction_group (inner : Clause) : (group inner).isDisjunction = false := rfl

/-- A negation is no disjunction. -/
@[simp] lemma isDisjunction_negation (inner : Clause) :
    (negation inner).isDisjunction = false := rfl

/-- Clauses joined by the two connectives only, without a disjunction as an operand of a
conjunction. -/
def Separated : Clause → Prop
  | .test _ _ _ => True
  | .within _ _ => True
  | .join word left right =>
    (word = "AND" ∧ left.isDisjunction = false ∧ right.isDisjunction = false ∨ word = "OR") ∧
      left.Separated ∧ right.Separated
  | .group inner => inner.Separated
  | .negation inner => inner.Separated

/-- Clauses joined by the two connectives only. -/
def Connected : Clause → Prop
  | .test _ _ _ => True
  | .within _ _ => True
  | .join word left right => (word = "AND" ∨ word = "OR") ∧ left.Connected ∧ right.Connected
  | .group inner => inner.Connected
  | .negation inner => inner.Connected

/-- A separated clause is connected. -/
lemma Separated.connected {clause : Clause} (h : clause.Separated) : clause.Connected := by
  induction clause with
  | test column word operand => trivial
  | within column range => trivial
  | join word left right ihLeft ihRight =>
    obtain ⟨hword, hleft, hright⟩ := h
    exact ⟨hword.imp_left And.left, ihLeft hleft, ihRight hright⟩
  | group inner ih => exact ih h
  | negation inner ih => exact ih h

/-- The tokens of a connected clause make up its text. -/
lemma concat_tokens_of_connected {clause : Clause} (h : clause.Connected) :
    Token.concat clause.tokens = clause.text := by
  induction clause with
  | test column word operand => rfl
  | within column range => rfl
  | join word left right ihLeft ihRight =>
    obtain ⟨hword, hleft, hright⟩ := h
    have htoken : (if word = "AND" then Token.and else Token.or).text = " " ++ word ++ " " := by
      rcases hword with rfl | rfl <;> decide
    rw [tokens, Token.concat_append, Token.concat_cons, ihLeft hleft, ihRight hright, htoken, text]
    simp only [String.append_assoc]
  | group inner ih =>
    rw [tokens, Token.concat_cons, Token.concat_append, ih h, text]
    rfl
  | negation inner ih =>
    rw [tokens, Token.concat_cons, Token.concat_append, ih h, text]
    rfl

/-- The tokens of a clause make up its text. -/
theorem concat_tokens {clause : Clause} (h : clause.Separated) :
    Token.concat clause.tokens = clause.text :=
  concat_tokens_of_connected h.connected

/-- The tokens of a separated clause are read as a disjunction of its value, and as a conjunction
unless the clause is a disjunction itself. -/
lemma readsDisjunction_tokens {clause : Clause} (h : clause.Separated) :
    Formula.ReadsDisjunction clause.tokens (fun truth => clause.eval truth) ∧
      (clause.isDisjunction = false →
        Formula.ReadsConjunction clause.tokens fun truth => clause.eval truth) := by
  induction clause with
  | test column word operand =>
    have hatom := (Formula.readsOperand_atom (.test column word operand)).conjunction
    exact ⟨hatom.disjunction, fun _ => hatom⟩
  | within column range =>
    have hatom := (Formula.readsOperand_atom (.within column range)).conjunction
    exact ⟨hatom.disjunction, fun _ => hatom⟩
  | join word left right ihLeft ihRight =>
    obtain ⟨hword, hleft, hright⟩ := h
    rcases hword with ⟨rfl, hleftNot, hrightNot⟩ | rfl
    · have hand := ((ihLeft hleft).2 hleftNot).and ((ihRight hright).2 hrightNot)
      exact ⟨hand.disjunction, fun _ => hand⟩
    · exact ⟨(ihLeft hleft).1.or (ihRight hright).1, fun hnot => by simp at hnot⟩
  | group inner ih =>
    have hgroup := (ih h).1.group.conjunction
    exact ⟨hgroup.disjunction, fun _ => hgroup⟩
  | negation inner ih =>
    have hnegation := (ih h).1.negation.conjunction
    exact ⟨hnegation.disjunction, fun _ => hnegation⟩

/-- Reading the tokens of a separated clause with precedence gives the value of the clause. -/
theorem exists_parse?_tokens {clause : Clause} (h : clause.Separated) :
    ∃ formula, Formula.parse? clause.tokens = some formula ∧
      ∀ truth, formula.eval truth = clause.eval truth :=
  (readsDisjunction_tokens h).1.exists_parse?

/-! ### Disjunctions of clauses -/

variable {clauses : List Clause} {clause : Clause}

/-- A disjunction of separated clauses is separated. -/
lemma separated_of_anyOf? (hall : ∀ part ∈ clauses, part.Separated)
    (h : anyOf? clauses = some clause) : clause.Separated := by
  refine anyOf?_induction hall (fun left right hleft hright => ?_) h
  exact ⟨.inr rfl, hleft, hright⟩

/-- A disjunction holds when one of its parts does. -/
lemma eval_of_anyOf? (h : anyOf? clauses = some clause) (truth : Atom → Bool) :
    clause.eval truth = clauses.any fun part => part.eval truth := by
  induction clauses generalizing clause with
  | nil => simp [anyOf?] at h
  | cons first rest ih =>
    cases rest with
    | nil =>
      rw [anyOf?, Option.some.injEq] at h
      simp [h]
    | cons second rest =>
      rw [anyOf?_cons_cons, Option.map_eq_some_iff] at h
      obtain ⟨tail, htail, rfl⟩ := h
      rw [List.any_cons, ← ih htail]
      simp [eval]

/-- Only of two or more clauses is the disjunction a bare one, unless a part is. -/
lemma one_lt_length_of_anyOf? (hall : ∀ part ∈ clauses, part.isDisjunction = false)
    (h : anyOf? clauses = some clause) (hbare : clause.isDisjunction = true) :
    1 < clauses.length := by
  match clauses with
  | [] => simp [anyOf?] at h
  | [single] =>
    rw [anyOf?, Option.some.injEq] at h
    have hsingle := hall single List.mem_cons_self
    rw [h, hbare] at hsingle
    simp at hsingle
  | _ :: _ :: _ => simp

end Clause

end PatternSql
