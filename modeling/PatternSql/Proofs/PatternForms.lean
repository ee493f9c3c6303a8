import Mathlib.Data.List.Nodup
import PatternSql.Pattern.Decode
import PatternSql.Proofs.Normalization
import PatternSql.Proofs.Json.CanonicalText

/-!
# The forms of a pattern

A pattern can be written in many ways.  Each node is an object, with its members in any order
and unknown members between them, or an array, and a comparison that is not negated may leave
that out; the parts of a node are written in any of these ways again.  `Pattern.WrittenAs` says
which values these are, and `read?_eq_some_of_writtenAs` that the pattern is read from every
text of every such value that is not too deep.  The canonical form is one of them.

What a reader of nodes sees of the parts it is given are the parts under each name
(`Part.under`).  Putting members in another order or adding unknown ones keeps these, as long as
no name stands twice, and this is all that the forms of one node differ in
(`ofJsonAt?_of_nodeForm`).
-/

namespace PatternSql

/-! ### Parts under a name -/

namespace Part

/-- The parts that stand under a name. -/
def under {α : Type} (parts : List (String × α)) (name : String) : List (String × α) :=
  parts.filter fun part => part.1 == name

/-- The only part of a name depends on the parts under the name. -/
lemma only?_congr {parts others : List (String × Part)} {name : String}
    (h : under parts name = under others name) : only? parts name = only? others name := by
  unfold under at h
  rw [only?, only?, h]

/-- The truth value of a name depends on the parts under the name. -/
lemma flag?_congr {parts others : List (String × Part)} {name : String}
    (h : under parts name = under others name) : flag? parts name = flag? others name := by
  have hany (parts : List (String × Part)) : (parts.any fun part => part.1 == name) =
      (under parts name).any fun part => part.1 == name := by
    rw [under, List.any_filter]
    simp only [Bool.and_self]
  rw [flag?, flag?, hany parts, hany others, h, only?_congr h]

/-- Parts of other names are not under a name. -/
lemma under_filter {α : Type} (parts : List (String × α)) {names : List String} {name : String}
    (h : name ∈ names) :
    under (parts.filter fun part => part.1 ∈ names) name = under parts name := by
  rw [under, under, List.filter_filter]
  refine List.filter_congr fun part _ => ?_
  by_cases hname : part.1 = name <;> simp [hname, h]

/-- Where no name stands twice, at most one part is under a name. -/
lemma length_under_le_one {α : Type} {parts : List (String × α)}
    (h : (parts.map Prod.fst).Nodup) (name : String) : (under parts name).length ≤ 1 := by
  have hcount := List.nodup_iff_count_le_one.1 h name
  rw [List.count_eq_countP, List.countP_map, List.countP_eq_length_filter] at hcount
  exact hcount

/-- The order of parts does not matter to what is under a name, where no name stands twice. -/
lemma under_eq_of_perm {α : Type} {parts others : List (String × α)} (hperm : parts.Perm others)
    (hnodup : (others.map Prod.fst).Nodup) (name : String) :
    under parts name = under others name := by
  have hunder : (under parts name).Perm (under others name) := hperm.filter _
  have hlength := length_under_le_one hnodup name
  match hothers : under others name, hlength with
  | [], _ =>
    rw [hothers] at hunder
    exact List.perm_nil.1 hunder
  | [part], _ =>
    rw [hothers] at hunder
    exact List.perm_singleton.1 hunder

end Part

namespace Pattern

/-- A node depends on the parts under the names of its kind. -/
lemma ofParts?_congr {kind : NodeKind} {parts others : List (String × Part)}
    (h : ∀ name ∈ kind.partNames, Part.under parts name = Part.under others name) :
    ofParts? kind parts = ofParts? kind others := by
  have honly : ∀ name ∈ kind.partNames, Part.only? parts name = Part.only? others name :=
    fun name hname => Part.only?_congr (h name hname)
  cases kind with
  | comparison =>
    have hflag : Part.flag? parts "negated" = Part.flag? others "negated" :=
      Part.flag?_congr (h "negated" (by decide))
    simp only [ofParts?, comparisonOfParts?, Part.text?, Part.caseName?, Part.literal?, hflag,
      honly "object_path" (by decide), honly "comparator" (by decide), honly "value" (by decide)]
  | combined | combinedObservation =>
    simp only [ofParts?, Part.node?, Part.caseName?, honly "left" (by decide),
      honly "right" (by decide), honly "operator" (by decide)]
  | observation => simp only [ofParts?, Part.node?, honly "comparison" (by decide)]
  | qualified =>
    simp only [ofParts?, Part.node?, Part.text?, honly "inner" (by decide),
      honly "qualifier" (by decide)]

/-! ### The forms of a node -/

/-- The part of a node that a value below the root is. -/
def partOf (value : Json) : Part :=
  ⟨value, ofJsonAt? true value⟩

/-- The parts under the names of an object, one by one. -/
lemma memberParts_eq_map (members : List (String × Json)) :
    memberParts members = members.map fun member => (member.1, partOf member.2) := by
  induction members with
  | nil => rw [memberParts, List.map_nil]
  | cons member rest ih => rw [memberParts, ih, List.map_cons, partOf]

/-- The parts of an array, one by one. -/
lemma itemParts_eq_map (items : List Json) : itemParts items = items.map partOf := by
  induction items with
  | nil => rw [itemParts, List.map_nil]
  | cons item rest ih => rw [itemParts, ih, List.map_cons, partOf]

/-- The members of a node: its kind, and its parts under their names. -/
def nodeMembers (kind : NodeKind) (parts : List Json) : List (String × Json) :=
  ("type", .string kind.name) :: kind.partNames.zip parts

/-- The forms of a node with given parts: an object with the members of the node in any order, and
with any others of names that the kind does not know, or an array of the kind and the parts. -/
inductive NodeForm (kind : NodeKind) (parts : List Json) : Json → Prop
  | object {members : List (String × Json)}
    (h : (members.filter fun member => member.1 ∈ "type" :: kind.partNames).Perm
      (nodeMembers kind parts)) : NodeForm kind parts (.object members)
  | array : NodeForm kind parts (.array (.string kind.name :: parts))

/-- The names that values are given are among the names at hand. -/
lemma map_fst_zip_sublist {α : Type} (names : List String) (values : List α) :
    ((names.zip values).map Prod.fst).Sublist names := by
  induction names generalizing values with
  | nil => exact .slnil
  | cons name names ih =>
    cases values with
    | nil => exact List.nil_sublist _
    | cons value values => exact (ih values).cons_cons name

/-- No name stands twice among the members of a node. -/
lemma nodup_nodeMembers (kind : NodeKind) (parts : List Json) :
    ((nodeMembers kind parts).map Prod.fst).Nodup := by
  have hnames : ("type" :: kind.partNames).Nodup := by cases kind <;> decide
  exact hnames.sublist ((map_fst_zip_sublist kind.partNames parts).cons_cons "type")

/-- The members of a node as parts. -/
lemma memberParts_nodeMembers (kind : NodeKind) (parts : List Json) :
    memberParts (nodeMembers kind parts) =
      ("type", partOf (.string kind.name)) :: kind.partNames.zip (parts.map partOf) := by
  rw [nodeMembers, memberParts, memberParts_zip]
  rfl

/-- Whatever the order of its members is and whatever stands between them, an object of a node has
the members of the node under the names of the kind. -/
lemma under_memberParts {kind : NodeKind} {parts : List Json} {members : List (String × Json)}
    (h : (members.filter fun member => member.1 ∈ "type" :: kind.partNames).Perm
      (nodeMembers kind parts)) {name : String} (hname : name ∈ "type" :: kind.partNames) :
    Part.under (memberParts members) name =
      Part.under (memberParts (nodeMembers kind parts)) name := by
  have hunder : Part.under members name = Part.under (nodeMembers kind parts) name := by
    rw [← Part.under_filter members hname]
    exact Part.under_eq_of_perm h (nodup_nodeMembers kind parts) name
  have hmap (members : List (String × Json)) : Part.under (memberParts members) name =
      (Part.under members name).map fun member => (member.1, partOf member.2) := by
    rw [memberParts_eq_map, Part.under, List.filter_map]
    rfl
  rw [hmap, hmap, hunder]

/-- Every form of a node is read as the node with its parts, at the root and below it. -/
theorem ofJsonAt?_of_nodeForm {kind : NodeKind} {parts : List Json} {value : Json}
    (hform : NodeForm kind parts value) (hlength : parts.length ≤ kind.partNames.length)
    (below : Bool) :
    ofJsonAt? below value = ofParts? kind (kind.partNames.zip (parts.map partOf)) := by
  have htag : NodeKind.ofTag? below (partOf (.string kind.name)).value = some kind :=
    kind.ofName?_name
  cases hform with
  | object h =>
    rename_i members
    have hunder : ∀ name ∈ "type" :: kind.partNames, Part.under (memberParts members) name =
        Part.under (("type", partOf (.string kind.name)) ::
          kind.partNames.zip (parts.map partOf)) name := by
      intro name hname
      rw [under_memberParts h hname, memberParts_nodeMembers]
    have htype : Part.only? (memberParts members) "type" = some (partOf (.string kind.name)) := by
      rw [Part.only?_congr (hunder "type" List.mem_cons_self), only?_type_cons]
    have hparts : ofParts? kind (memberParts members) =
        ofParts? kind (kind.partNames.zip (parts.map partOf)) := by
      refine ofParts?_congr fun name hname => ?_
      have hne : ("type" == name) = false :=
        beq_false_of_ne fun heq => kind.type_notMem_partNames (heq ▸ hname)
      rw [hunder name (List.mem_cons_of_mem _ hname), Part.under, List.filter_cons, hne]
      rfl
    rw [ofJsonAt?, ofMembers?, htype, Option.bind_some, htag, Option.bind_some, hparts]
  | array =>
    have hfit : (parts.map partOf).length ≤ kind.partNames.length := by
      rw [List.length_map]
      exact hlength
    rw [ofJsonAt?, itemParts_eq_map, List.map_cons, ofItems?, htag, Option.bind_some, if_pos hfit]

/-! ### The forms of a pattern -/

/-- The ways to write a pattern: each node in one of its forms, and a comparison that is not
negated with or without saying so. -/
inductive WrittenAs : Pattern → Json → Prop
  | comparison {test : Comparison} {flag : List Json} {value : Json}
    (hflag : flag = [.bool test.negated] ∨ test.negated = false ∧ flag = [])
    (hform : NodeForm .comparison
      (.string test.path :: .string test.comparator.name :: test.value.toJson :: flag) value) :
    WrittenAs (.comparison test) value
  | combined {connective : Connective} {left right : Pattern} {first second value : Json}
    (hleft : WrittenAs left first) (hright : WrittenAs right second)
    (hform : NodeForm .combined [first, second, .string connective.name] value) :
    WrittenAs (.combined connective left right) value
  | observation {inner : Pattern} {part value : Json} (hinner : WrittenAs inner part)
    (hform : NodeForm .observation [part] value) : WrittenAs (.observation inner) value
  | combinedObservation {connective : ObservationConnective} {left right : Pattern}
    {first second value : Json} (hleft : WrittenAs left first) (hright : WrittenAs right second)
    (hform : NodeForm .combinedObservation [first, second, .string connective.name] value) :
    WrittenAs (.combinedObservation connective left right) value
  | qualified {inner : Pattern} {qualifier : Qualifier} {part value : Json}
    (hinner : WrittenAs inner part)
    (hform : NodeForm .qualified [part, .string qualifier.text] value) :
    WrittenAs (.qualified inner qualifier) value

/-- A pattern is read from every value that it is written as, at the root and below it. -/
theorem ofJsonAt?_of_writtenAs {pattern : Pattern} {value : Json} (h : pattern.WrittenAs value)
    (below : Bool) : ofJsonAt? below value = some pattern := by
  induction h generalizing below with
  | comparison hflag hform =>
    rename_i test flag value
    rcases hflag with rfl | ⟨hnegated, rfl⟩
    · rw [ofJsonAt?_of_nodeForm hform (by simp [NodeKind.partNames])]
      simp [ofParts?, comparisonOfParts?, NodeKind.partNames, Part.text?, Part.only?,
        Part.caseName?, Part.literal?, Part.flag?, partOf, Json.string?, Json.caseName?,
        Json.bool?, Literal.ofJson?_toJson, Comparator.ofName?_name]
    · -- the flag that is left out counts as false
      obtain ⟨path, comparator, literal, negated⟩ := test
      obtain rfl : negated = false := hnegated
      rw [ofJsonAt?_of_nodeForm hform (by simp [NodeKind.partNames])]
      simp [ofParts?, comparisonOfParts?, NodeKind.partNames, Part.text?, Part.only?,
        Part.caseName?, Part.literal?, Part.flag?, partOf, Json.string?, Json.caseName?,
        Literal.ofJson?_toJson, Comparator.ofName?_name]
  | combined _ _ hform ihLeft ihRight =>
    rw [ofJsonAt?_of_nodeForm hform (by simp [NodeKind.partNames])]
    simp [ofParts?, NodeKind.partNames, Part.node?, Part.only?, Part.caseName?, Json.caseName?,
      partOf, ihLeft, ihRight, Connective.ofName?_name]
  | observation _ hform ih =>
    rw [ofJsonAt?_of_nodeForm hform (by simp [NodeKind.partNames])]
    simp [ofParts?, NodeKind.partNames, Part.node?, Part.only?, partOf, ih]
  | combinedObservation _ _ hform ihLeft ihRight =>
    rw [ofJsonAt?_of_nodeForm hform (by simp [NodeKind.partNames])]
    simp [ofParts?, NodeKind.partNames, Part.node?, Part.only?, Part.caseName?, Json.caseName?,
      partOf, ihLeft, ihRight, ObservationConnective.ofName?_name]
  | qualified _ hform ih =>
    rw [ofJsonAt?_of_nodeForm hform (by simp [NodeKind.partNames])]
    simp [ofParts?, NodeKind.partNames, Part.node?, Part.only?, Part.text?, partOf, Json.string?,
      ih]

/-- The canonical object of a node is one of its forms. -/
lemma nodeForm_nodeObject (kind : NodeKind) (parts : List Json) :
    NodeForm kind parts (nodeObject kind parts) := by
  refine .object ?_
  have hall : ∀ member ∈ nodeMembers kind parts, member.1 ∈ "type" :: kind.partNames := by
    intro member hmember
    rcases List.mem_cons.1 hmember with rfl | hpart
    · exact List.mem_cons_self
    · exact List.mem_cons_of_mem _ (List.of_mem_zip hpart).1
  have hfilter : (nodeMembers kind parts).filter (fun member => member.1 ∈ "type" :: kind.partNames)
      = nodeMembers kind parts :=
    List.filter_eq_self.2 fun member hmember => decide_eq_true (hall member hmember)
  exact .of_eq hfilter

/-- The canonical form of a pattern is one of the ways to write it. -/
theorem writtenAs_toJson (pattern : Pattern) : pattern.WrittenAs pattern.toJson := by
  induction pattern with
  | comparison test => exact .comparison (.inl rfl) (nodeForm_nodeObject _ _)
  | combined connective left right ihLeft ihRight =>
    exact .combined ihLeft ihRight (nodeForm_nodeObject _ _)
  | observation inner ih => exact .observation ih (nodeForm_nodeObject _ _)
  | combinedObservation connective left right ihLeft ihRight =>
    exact .combinedObservation ihLeft ihRight (nodeForm_nodeObject _ _)
  | qualified inner qualifier ih => exact .qualified ih (nodeForm_nodeObject _ _)

/-- A pattern is read back from its canonical form, at the root and below it. -/
theorem ofJsonAt?_toJson (below : Bool) (pattern : Pattern) :
    ofJsonAt? below pattern.toJson = some pattern :=
  ofJsonAt?_of_writtenAs pattern.writtenAs_toJson below

end Pattern

/-! ### The numbers of a pattern -/

namespace Literal

mutual

/-- The numbers of a literal can be written, if its doubles are read back. -/
theorem isWritable_of_mem_tokens (literal : Literal)
    (h : ∀ x, .float x ∈ literal.scalars → x.ReadsBack) {number : Number}
    (hnumber : .number (some number) ∈ literal.toJson.tokens) : Json.IsWritable number := by
  cases literal with
  | boolean value => simp [toJson, Json.tokens] at hnumber
  | integer value =>
    obtain rfl : number = .int value.toInt := by simpa [toJson, Json.tokens] using hnumber
    have hlow := value.le_toInt
    have hhigh := value.toInt_lt
    have hlimit : (2 : Int) ^ 63 < Json.Numeral.wordLimit := by decide
    exact Json.isWritable_int ⟨hlow, hhigh.trans hlimit⟩
  | float value =>
    obtain rfl : number = .double value := by simpa [toJson, Json.tokens] using hnumber
    exact Json.isWritable_double (h value (List.mem_singleton.2 rfl))
  | string value => simp [toJson, Json.tokens] at hnumber
  | set members =>
    have hitems : .number (some number) ∈ Json.itemsTokens (toJsonList members) := by
      simpa [toJson, Json.tokens] using hnumber
    obtain ⟨item, hitem, hnumber⟩ := Json.exists_mem_of_number_mem_itemsTokens hitems
    exact isWritable_of_mem_tokens_list members h hitem hnumber

/-- The numbers of literals can be written, if their doubles are read back. -/
theorem isWritable_of_mem_tokens_list (members : List Literal)
    (h : ∀ x, .float x ∈ scalarsList members → x.ReadsBack) {item : Json} {number : Number}
    (hitem : item ∈ toJsonList members) (hnumber : .number (some number) ∈ item.tokens) :
    Json.IsWritable number := by
  cases members with
  | nil => simp [toJsonList] at hitem
  | cons first rest =>
    rw [toJsonList] at hitem
    simp only [scalarsList, List.mem_append] at h
    rcases List.mem_cons.1 hitem with rfl | hrest
    · exact isWritable_of_mem_tokens first (fun x hx => h x (.inl hx)) hnumber
    · exact isWritable_of_mem_tokens_list rest (fun x hx => h x (.inr hx)) hrest hnumber

end

end Literal

namespace Pattern

/-- Whether every double that a pattern compares with is read back from its written text. -/
def FloatsReadBack (pattern : Pattern) : Prop :=
  ∀ test x, .comparison test ∈ pattern.subpatterns → .float x ∈ test.value.scalars → x.ReadsBack

/-- The doubles of a part of a pattern are doubles of the pattern. -/
lemma FloatsReadBack.of_mem {pattern part : Pattern} (h : pattern.FloatsReadBack)
    (hpart : part ∈ pattern.subpatterns) : part.FloatsReadBack :=
  fun test x htest hx => h test x (mem_subpatterns_trans htest hpart) hx

/-- A number among the tokens of a node belongs to one of its parts. -/
lemma exists_mem_of_number_mem_nodeObject {kind : NodeKind} {parts : List Json}
    {number : Option Number} (h : .number number ∈ (nodeObject kind parts).tokens) :
    ∃ part ∈ parts, .number number ∈ part.tokens := by
  have hmembers : .number number ∈ Json.membersTokens (nodeMembers kind parts) := by
    simpa [nodeObject, nodeMembers, Json.tokens] using h
  obtain ⟨member, hmember, hnumber⟩ := Json.exists_mem_of_number_mem_membersTokens hmembers
  rcases List.mem_cons.1 hmember with rfl | hpart
  · simp [Json.tokens] at hnumber
  · exact ⟨member.2, (List.of_mem_zip hpart).2, hnumber⟩

/-- The numbers of a pattern can be written, if its doubles are read back. -/
theorem isWritable_of_mem_tokens {pattern : Pattern} (h : pattern.FloatsReadBack) {number : Number}
    (hnumber : .number (some number) ∈ pattern.toJson.tokens) : Json.IsWritable number := by
  induction pattern with
  | comparison test =>
    obtain ⟨part, hpart, hnumber⟩ := exists_mem_of_number_mem_nodeObject hnumber
    simp only [List.mem_cons, List.not_mem_nil, or_false] at hpart
    rcases hpart with rfl | rfl | rfl | rfl
    · simp [Json.tokens] at hnumber
    · simp [Json.tokens] at hnumber
    · exact test.value.isWritable_of_mem_tokens
        (fun x hx => h test x (mem_subpatterns_self _) hx) hnumber
    · simp [Json.tokens] at hnumber
  | combined connective left right ihLeft ihRight
  | combinedObservation connective left right ihLeft ihRight =>
    obtain ⟨part, hpart, hnumber⟩ := exists_mem_of_number_mem_nodeObject hnumber
    simp only [List.mem_cons, List.not_mem_nil, or_false] at hpart
    rcases hpart with rfl | rfl | rfl
    · exact ihLeft (h.of_mem (by simp [subpatterns])) hnumber
    · exact ihRight (h.of_mem (by simp [subpatterns])) hnumber
    · simp [Json.tokens] at hnumber
  | observation inner ih =>
    obtain ⟨part, hpart, hnumber⟩ := exists_mem_of_number_mem_nodeObject hnumber
    obtain rfl := List.mem_singleton.1 hpart
    exact ih (h.of_mem (by simp [subpatterns])) hnumber
  | qualified inner qualifier ih =>
    obtain ⟨part, hpart, hnumber⟩ := exists_mem_of_number_mem_nodeObject hnumber
    simp only [List.mem_cons, List.not_mem_nil, or_false] at hpart
    rcases hpart with rfl | rfl
    · exact ih (h.of_mem (by simp [subpatterns])) hnumber
    · simp [Json.tokens] at hnumber

/-! ### Reading -/

/-- A pattern is read from every text of a value that it is written as. -/
lemma read?_of_spells {pattern : Pattern} {value : Json} {text : String}
    (hwritten : pattern.WrittenAs value) (hspells : value.Spells text.toList)
    (hdepth : value.depth ≤ Json.maxDepth) : read? text = some pattern := by
  have hvalue : Json.read? text = some value := Json.read?_eq_some_iff.2 ⟨hspells, hdepth⟩
  rw [read?, hvalue, Option.bind_some, ofJson?, ofJsonAt?_of_writtenAs hwritten]

/-- A pattern is read back from its canonical text. -/
lemma read?_text_toJson {pattern : Pattern} (h : pattern.FloatsReadBack)
    (hdepth : pattern.toJson.depth ≤ Json.maxDepth) :
    read? pattern.toJson.text = some pattern := by
  have hvalue : Json.read? pattern.toJson.text = some pattern.toJson := by
    refine Json.read?_text pattern.toJson ?_ hdepth
    intro number hnumber
    exact isWritable_of_mem_tokens h hnumber
  rw [read?, hvalue, Option.bind_some, ofJson?, ofJsonAt?_toJson]

/-- However a pattern is written, it is read from every text of what is written in which at most
`maxDepth` brackets are open at once.  Its canonical form is one of the ways to write it, and it is
read back from its canonical text if its doubles are. -/
theorem read?_eq_some_of_writtenAs (pattern : Pattern) :
    (∀ value text, pattern.WrittenAs value → value.Spells text.toList →
      value.depth ≤ Json.maxDepth → read? text = some pattern) ∧
    pattern.WrittenAs pattern.toJson ∧
    (pattern.FloatsReadBack → pattern.toJson.depth ≤ Json.maxDepth →
      read? pattern.toJson.text = some pattern) := by
  refine ⟨?_, pattern.writtenAs_toJson, fun h hdepth => read?_text_toJson h hdepth⟩
  intro value text hwritten hspells hdepth
  exact read?_of_spells hwritten hspells hdepth

/-- The double nearest to `10 ^ 300`. -/
def vastDouble : Double where
  negative := false
  rank := 9094988921128908188
  rank_lt := by decide

/-- The vast number reads back. -/
lemma readsBack_vastDouble : vastDouble.ReadsBack := by
  decide +kernel

/-- A comparison with nested sets under a qualifier, beside one with an integer. -/
def mixedPattern : Pattern :=
  .qualified (.observation (.combined .and
    (.comparison ⟨"file:size", .isIn, .set [.float vastDouble, .set [.string "b", .boolean true]],
      false⟩)
    (.comparison ⟨"file:name", .notEqual, .integer (-7), true⟩))) ⟨"now"⟩

/-- The pattern with objects and arrays for its nodes, members in reverse order, unknown ones
between them, and one flag left out. -/
def mixedValue : Json :=
  .object [
    ("qualifier", .string "now"),
    ("note", .array [.number (.int 3), .object [("type", .null)]]),
    ("inner", .array [.string "observation", .array [.string "combined_comparison",
      .object [
        ("value", .array [.number (.double vastDouble), .array [.string "b", .bool true]]),
        ("comparator", .string "In"), ("left", .bool false), ("left", .null),
        ("object_path", .string "file:size"),
        ("type", .string "comparison")],
      .array [.string "comparison", .string "file:name", .string "NotEqual", .number (.int (-7)),
        .bool true],
      .string "And"]]),
    ("type", .string "qualified")]

/-- A text of the value, with white space, an escape and an exponent. -/
def mixedText : String :=
  String.join [
    " \x7b\"qualifier\": \"now\", \"note\":[3,\x7b\"type\": null\x7d],",
    "\"inner\": [\"observation\", [\"combined_comparison\",",
    "\x7b\"value\":[1E+300, [\"\\u0062\", true]], ",
    "\"comparator\":\"In\",\"left\":false,\"left\":null,",
    "\"object_path\": \"file:size\",\"type\":\"comparison\" \x7d,",
    "[ \"comparison\",\"file:name\",\"NotEqual\", -7,true],",
    " \"And\"]], \"type\":\"qualified\"\x7d "]

/-- The text spells the value. -/
lemma spells_mixedText : mixedValue.Spells mixedText.toList := by
  have htokens : Json.tokens? mixedText.toList = some mixedValue.tokens := by
    rw [mixedText, String.toList_join]
    decide +kernel
  exact Json.layout_of_tokens?_eq htokens (Json.hasValue_of_mem_tokens mixedValue)

/-- The value is one of the ways to write the pattern. -/
lemma writtenAs_mixedValue : mixedPattern.WrittenAs mixedValue := by
  have hsize : NodeForm .comparison [.string "file:size", .string "In",
      .array [.number (.double vastDouble), .array [.string "b", .bool true]]]
      (.object [
        ("value", .array [.number (.double vastDouble), .array [.string "b", .bool true]]),
        ("comparator", .string "In"), ("left", .bool false), ("left", .null),
        ("object_path", .string "file:size"),
        ("type", .string "comparison")]) := by
    refine .object (.trans (.of_eq ?_) (List.reverse_perm _))
    simp [nodeMembers, NodeKind.partNames, NodeKind.name]
  have hroot (inner : Json) : NodeForm .qualified [inner, .string "now"] (.object [
      ("qualifier", .string "now"),
      ("note", .array [.number (.int 3), .object [("type", .null)]]),
      ("inner", inner), ("type", .string "qualified")]) := by
    refine .object (.trans (.of_eq ?_) (List.reverse_perm _))
    simp [nodeMembers, NodeKind.partNames, NodeKind.name]
  exact .qualified (.observation (.combined (.comparison (.inr ⟨rfl, rfl⟩) hsize)
    (.comparison (.inl rfl) .array) .array) .array) (hroot _)

/-- The pattern is read from its mixed text, and from its canonical one. -/
theorem read?_eq_some_of_writtenAs_mixedPattern :
    mixedPattern.WrittenAs mixedValue ∧ mixedValue.Spells mixedText.toList ∧
      mixedPattern.FloatsReadBack ∧ read? mixedText = some mixedPattern ∧
      read? mixedPattern.toJson.text = some mixedPattern := by
  have hfloats : mixedPattern.FloatsReadBack := by
    intro test x htest hx
    simp only [mixedPattern, subpatterns, List.mem_cons, List.mem_append, reduceCtorEq,
      comparison.injEq, List.not_mem_nil, or_false, false_or] at htest
    rcases htest with rfl | rfl
    · obtain rfl : x = vastDouble := by simpa [Literal.scalars, Literal.scalarsList] using hx
      exact readsBack_vastDouble
    · simp [Literal.scalars] at hx
  have hread := read?_eq_some_of_writtenAs mixedPattern
  exact ⟨writtenAs_mixedValue, spells_mixedText, hfloats,
    hread.1 mixedValue mixedText writtenAs_mixedValue spells_mixedText (by decide),
    hread.2.2 hfloats (by decide)⟩

end Pattern

end PatternSql
