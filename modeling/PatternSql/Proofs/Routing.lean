import PatternSql.Proofs.Applicability
import PatternSql.Proofs.Address.Grammar

/-!
# Routing references

A comparison on a reference goes to the columns that accept the shape of its value.

Which columns these are is decided by the registrations that were made, and of a column that was
registered several times by the last one (`Registry.takes_iff`).  The tests that come of it stand
in the order of the columns, one for each occurrence (`Registry.texts_tests_registerAll`).

Which values can go anywhere is decided by their display texts.  No number has the text of an
address: it has too few points, no colon, and no hyphen but in front (`Shape.not_spells_decimal`).
A set is displayed between parentheses, and a Boolean with letters that are no hexadecimal digits,
and neither occurs in an address (`Shape.Spells.isOver`).  So a reference that is compared with
anything but a string has no column, and its pattern has no clause
(`DataSource.predicate_of_unroutable`).
-/

namespace PatternSql

/-! ### Registrations -/

namespace Registry

/-- A registry after registrations that are made one after the other. -/
def registerAll (registry : Registry) (registrations : List (String × List Shape)) : Registry :=
  registrations.foldl (fun registry entry => registry.register entry.1 entry.2) registry

/-- Whether a column was registered with some shapes, and not registered again later. -/
def IsLast (registrations : List (String × List Shape)) (column : String) (shapes : List Shape) :
    Prop :=
  ∃ before after, registrations = before ++ (column, shapes) :: after ∧
    ∀ later ∈ after, later.1 ≠ column

/-- Whether a column takes a text: the text has a shape, and the last registration of the column
is one with this shape. -/
def Takes (registrations : List (String × List Shape)) (column text : String) : Prop :=
  ∃ shape shapes, Shape.ofText? text = some shape ∧ IsLast registrations column shapes ∧
    shape ∈ shapes

variable {registrations : List (String × List Shape)}

/-- The columns after a history of registrations are a fold of insertions. -/
lemma columns_registerAll (registry : Registry) (registrations : List (String × List Shape)) :
    (registry.registerAll registrations).columns =
      registrations.foldl (fun m entry => m.insert entry.1 entry.2) registry.columns := by
  induction registrations generalizing registry with
  | nil => rfl
  | cons entry rest ih => exact ih (registry.register entry.1 entry.2)

/-- A column accepts the shapes of its last registration. -/
lemma accepts_registerAll_iff {column : String} {shape : Shape} :
    (empty.registerAll registrations).accepts column shape = true ↔
      ∃ shapes, IsLast registrations column shapes ∧ shape ∈ shapes := by
  have hfound : ∀ shapes, (empty.registerAll registrations).columns.get? column = some shapes ↔
      IsLast registrations column shapes := by
    intro shapes
    rw [columns_registerAll]
    exact KeyMap.get?_ofList_eq_some_iff
  simp only [← hfound, accepts]
  cases (empty.registerAll registrations).columns.get? column <;> simp

/-- A column takes a text exactly when it accepts the shape of the text. -/
lemma takes_iff {column text : String} :
    (Shape.ofText? text).any ((empty.registerAll registrations).accepts column) = true ↔
      Takes registrations column text := by
  simp only [Option.any_eq_true, accepts_registerAll_iff, Takes]
  constructor
  · rintro ⟨shape, hshape, shapes, hlast, hmem⟩
    exact ⟨shape, shapes, hshape, hlast, hmem⟩
  · rintro ⟨shape, shapes, hshape, hlast, hmem⟩
    exact ⟨shape, hshape, shapes, hlast, hmem⟩

/-- Whether a column takes a text can be decided. -/
instance (column text : String) : Decidable (Takes registrations column text) :=
  decidable_of_iff _ takes_iff

/-- A text is routed to the columns that take it. -/
lemma route_registerAll (columns : List String) (text : String) :
    (empty.registerAll registrations).route columns text =
      columns.filter fun column => Takes registrations column text := by
  have htakes : ∀ column, decide (Takes registrations column text) =
      (Shape.ofText? text).any ((empty.registerAll registrations).accepts column) := by
    intro column
    rw [Bool.eq_iff_iff, decide_eq_true_eq, takes_iff]
  simp only [htakes, route]
  cases Shape.ofText? text with
  | none => simp
  | some shape => rfl

/-- After any registrations, the tests of a text are those of the columns that take it, in their
order and as often as they occur.  A text without a shape is tested nowhere, and neither is any
text in a column that was never registered. -/
theorem texts_tests_registerAll (registrations : List (String × List Shape))
    (columns : List String) (text word operand : String) :
    ((empty.registerAll registrations).tests columns text word operand).map Clause.text =
        (columns.filter fun column => Takes registrations column text).map
          (fun column => column ++ " " ++ word ++ " " ++ operand) ∧
      (Shape.ofText? text = none →
        (empty.registerAll registrations).tests columns text word operand = []) ∧
      ∀ column, column ∉ registrations.map Prod.fst → ¬Takes registrations column text := by
  refine ⟨?_, ?_, ?_⟩
  · rw [tests, route_registerAll, List.map_map]
    rfl
  · intro hshape
    simp [tests, route, hshape]
  · rintro column hcolumn ⟨shape, shapes, _, ⟨before, after, rfl, _⟩, _⟩
    simp at hcolumn

/-- One column registered twice and tested twice, and one that is not registered. -/
theorem texts_tests_registerAll_repeated :
    ((empty.registerAll
        [("src", [.ipv6]), ("dst", [.ipv4, .mac]), ("src", [.ipv4Cidr, .ipv4])]).tests
          ["src", "gateway", "dst", "src"] "10.0.0.1" "=" "'10.0.0.1'").map Clause.text =
        ["src = '10.0.0.1'", "dst = '10.0.0.1'", "src = '10.0.0.1'"] ∧
      Shape.ofText? "example.com" = none ∧
      (empty.registerAll [("src", [.ipv4])]).tests ["src"] "example.com" "=" "'x'" = [] := by
  have hshape : Shape.ofText? "example.com" = none := by decide +kernel
  refine ⟨?_, hshape, (texts_tests_registerAll [("src", [.ipv4])] _ _ _ _).2.1 hshape⟩
  rw [(texts_tests_registerAll _ _ _ _ _).1]
  decide +kernel

end Registry

/-! ### Values without a shape -/

namespace Shape

open Address Text

/-- No number is written as an address. -/
lemma not_spells_decimal {shape : Shape} {sign cs : List Char} (hsign : sign = [] ∨ sign = ['-'])
    (h : IsDecimal cs) : ¬shape.Spells (sign ++ cs) := by
  have hchars : ∀ c ∈ sign ++ cs, c.isDigit = true ∨ c = '.' ∨ c = '-' := by
    intro c hc
    rcases List.mem_append.1 hc with hc | hc
    · rcases hsign with rfl | rfl
      · simp at hc
      · exact .inr (.inr (by simpa using hc))
    · exact (h.1 c hc).imp_right .inl
  intro hspells
  cases shape with
  | ipv6 => exact absurd (hchars ':' (IsIpv6.colon_mem hspells)) (by decide)
  | ipv6Cidr => exact absurd (hchars '/' (hspells.slash_mem_iff.2 rfl)) (by decide)
  | ipv4 =>
    have hcount := IsIpv4.count_dot hspells
    have hpoint := h.2
    rcases hsign with rfl | rfl <;> simp at hcount <;> omega
  | ipv4Cidr => exact absurd (hchars '/' (hspells.slash_mem_iff.2 rfl)) (by decide)
  | mac =>
    -- after two digits comes a divider, but a hyphen can only stand in front
    obtain ⟨high, low, divider, rest, hhigh, _, hdivider, _, htext⟩ := isPairs_succ_iff.1 hspells
    have hmem : divider ∈ cs := by
      rcases hsign with rfl | rfl
      · rw [List.nil_append] at htext
        simp [htext]
      · obtain ⟨rfl, rfl⟩ := List.cons.inj htext
        exact absurd hhigh (by decide)
    have hdecimal := h.1 divider hmem
    rcases hdivider with rfl | rfl <;> exact absurd hdecimal (by decide)

/-- Only strings have a shape. -/
lemma ofText?_display_eq_none {literal : Literal} (h : ∀ text, literal ≠ .string text) :
    ofText? literal.display = none := by
  rw [Option.eq_none_iff_forall_ne_some]
  intro shape hshape
  have hspells : shape.Spells literal.display.toList := spells_of_firstOf? hshape
  have hforeign : ∀ c ∈ literal.display.toList, isHexDigit c = false →
      c ∈ ['/', ':', '.', '-'] := by
    intro c hc hdigit
    exact (hspells.isOver c hc).resolve_left (by simp [hdigit])
  cases literal with
  | boolean value =>
    cases value with
    | true => exact absurd (hforeign 't' (by simp [Literal.display]) (by decide)) (by decide)
    | false => exact absurd (hforeign 'l' (by simp [Literal.display]) (by decide)) (by decide)
  | integer value =>
    have hdigits : IsDecimal (Nat.toDigits 10 value.toInt.natAbs) :=
      isDecimal_of_isDigit fun c hc => Nat.isDigit_of_mem_toDigits (by decide) (by decide) hc
    rw [Literal.display, toList_ofInt, intChars] at hspells
    refine not_spells_decimal ?_ hdigits hspells
    split <;> simp
  | float value =>
    rw [Literal.display, String.toList_ofList, Double.text, Double.signText] at hspells
    refine not_spells_decimal ?_ value.shortest.isDecimal_positional hspells
    split <;> simp
  | string text => exact h text rfl
  | set members =>
    have hopening : '(' ∈ (Literal.set members).display.toList := by simp [Literal.display]
    exact absurd (hforeign '(' hopening (by decide)) (by decide)

end Shape

/-! ### Patterns with a reference that cannot be routed -/

namespace DataSource

variable {source : DataSource}

/-- A comparison of a reference with anything but a string is inapplicable. -/
lemma inapplicable_of_ne_string {test : Comparison} {field : Field}
    (hfield : test.field? = some field) (hreference : isReference field.name = true)
    (hvalue : ∀ text, test.value ≠ .string text) : source.Inapplicable test :=
  ⟨field, hfield, .inr ⟨hreference, .inl (Shape.ofText?_display_eq_none hvalue)⟩⟩

/-- A pattern in which a reference is compared with anything but a string, such as a Boolean, a
number or a set, has the empty predicate or a fault. -/
theorem predicate_of_unroutable {pattern : Pattern} {test : Comparison} {field : Field}
    (htest : .comparison test ∈ pattern.subpatterns) (hfield : test.field? = some field)
    (hname : field.name = "src_ref.value" ∨ field.name = "dst_ref.value")
    (hvalue : ∀ text, test.value ≠ .string text) :
    source.predicate pattern = .ok "" ∨ ∃ fault, source.predicate pattern = .error fault := by
  have hreference : isReference field.name = true := by
    rcases hname with hname | hname <;> rw [hname] <;> decide
  cases hpredicate : source.predicate pattern with
  | error fault => exact .inr ⟨fault, rfl⟩
  | ok text =>
    obtain ⟨result, hresult, rfl⟩ := predicate_eq_ok_iff.1 hpredicate
    have hnone : result = none :=
      (clause_eq_none_iff hresult).2
        ⟨test, htest, inapplicable_of_ne_string hfield hreference hvalue⟩
    rw [hnone]
    exact .inl rfl

/-- Traffic from elsewhere than two addresses.  The addresses stand in a set, so that the reference
has nowhere to go. -/
def listedTest : Comparison :=
  ⟨"network-traffic:src_ref.value", .isIn, .set [.string "10.0.0.1", .string "10.0.0.2"], true⟩

/-- A file of a name or such traffic, in a time range. -/
def listedPattern : Pattern :=
  .qualified (.observation (.combined .or (nameIs "evil") (.comparison listedTest))) dayQualifier

/-- The addresses in the set leave the pattern without a predicate, the file beside them and the
negation included. -/
theorem predicate_of_unroutable_listedPattern :
    (DataSource.sample .each).predicate listedPattern = .ok "" := by
  have htest : .comparison listedTest ∈ listedPattern.subpatterns := by
    simp [listedPattern, nameIs, Pattern.subpatterns]
  have hfield : listedTest.field? = some ⟨"network-traffic", "src_ref.value"⟩ := by decide +kernel
  have hunroutable : (DataSource.sample .each).predicate listedPattern = .ok "" ∨
      ∃ fault, (DataSource.sample .each).predicate listedPattern = .error fault :=
    predicate_of_unroutable htest hfield (.inl rfl) (by simp [listedTest])
  have hcompiles : ((DataSource.sample .each).predicate listedPattern).isOk = true := by
    decide +kernel
  rcases hunroutable with hempty | ⟨fault, hfault⟩
  · exact hempty
  · rw [hfault] at hcompiles
    cases hcompiles

end DataSource

end PatternSql
