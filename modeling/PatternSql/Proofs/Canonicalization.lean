import PatternSql.Proofs.PatternForms

/-!
# Canonical texts of what has been read

Reading is lenient: a node may be an object or an array, its kind may be a number below the
root, a case may be a string or an object over nothing, and unknown members are passed by.
Whatever has been read, its canonical text is read again, to the same pattern
(`read?_canonical`).

The canonical text is not too deep because it nests no deeper than the text that was read
(`depth_toJson_le`).  This is an induction over the depth of the value: what a node is read from
are parts that stand below it, and the canonical form of the node has, beside names and flags,
only the canonical forms of what these parts denote (`toJson_of_ofParts?`).
-/

namespace PatternSql

/-! ### Literals -/

namespace Literal

/-- The literal of a number is written without brackets. -/
lemma depth_toJson_of_ofNumber? {number : Number} {literal : Literal}
    (h : ofNumber? number = some literal) : literal.toJson.depth = 0 := by
  cases number with
  | int value =>
    rw [ofNumber?] at h
    split at h
    · obtain rfl := Option.some.inj h
      rfl
    · obtain ⟨x, _, rfl⟩ := Option.map_eq_some_iff.1 h
      rfl
  | double value =>
    obtain rfl := Option.some.inj h
    rfl

mutual

/-- The canonical form of a literal nests no deeper than what the literal is read from. -/
theorem depth_toJson_le (value : Json) {literal : Literal} (h : ofJson? value = some literal) :
    literal.toJson.depth ≤ value.depth := by
  cases value with
  | null => simp [ofJson?] at h
  | bool value =>
    obtain rfl := Option.some.inj h
    exact Nat.zero_le _
  | number value =>
    rw [ofJson?] at h
    exact Nat.le_of_eq (depth_toJson_of_ofNumber? h)
  | string value =>
    obtain rfl := Option.some.inj h
    exact Nat.zero_le _
  | array items =>
    rw [ofJson?] at h
    obtain ⟨members, hmembers, rfl⟩ := Option.map_eq_some_iff.1 h
    rw [toJson, Json.depth, Json.depth]
    exact Nat.succ_le_succ (itemsDepth_toJsonList_le items hmembers)
  | object members => simp [ofJson?] at h

/-- The canonical forms of literals nest no deeper than what the literals are read from. -/
theorem itemsDepth_toJsonList_le (items : List Json) {members : List Literal}
    (h : ofJsonList? items = some members) :
    Json.itemsDepth (toJsonList members) ≤ Json.itemsDepth items := by
  cases items with
  | nil =>
    obtain rfl := Option.some.inj h
    exact Nat.le_refl _
  | cons item rest =>
    rw [ofJsonList?] at h
    obtain ⟨first, hfirst, h⟩ := Option.bind_eq_some_iff.1 h
    obtain ⟨others, hothers, rfl⟩ := Option.map_eq_some_iff.1 h
    have hitem := depth_toJson_le item hfirst
    have hrest := itemsDepth_toJsonList_le rest hothers
    rw [toJsonList, Json.itemsDepth, Json.itemsDepth]
    omega

end

end Literal

/-! ### Parts -/

namespace Part

/-- The only part of a name is one of the parts. -/
lemma mem_of_only? {parts : List (String × Part)} {name : String} {part : Part}
    (h : only? parts name = some part) : (name, part) ∈ parts := by
  unfold only? at h
  split at h
  · rename_i found hfound
    have hmem : found ∈ parts.filter fun part => part.1 == name := by
      rw [hfound]
      exact List.mem_singleton_self found
    obtain ⟨hparts, hname⟩ := List.mem_filter.1 hmem
    obtain rfl := Option.some.inj h
    rw [← beq_iff_eq.1 hname]
    exact hparts
  · simp at h

/-- The pattern under a name is the one that a part denotes. -/
lemma exists_mem_of_node? {parts : List (String × Part)} {name : String} {pattern : Pattern}
    (h : node? parts name = some pattern) :
    ∃ part, (name, part) ∈ parts ∧ part.node = some pattern := by
  obtain ⟨part, hpart, hnode⟩ := Option.bind_eq_some_iff.1 h
  exact ⟨part, mem_of_only? hpart, hnode⟩

/-- The literal under a name is the one that a part denotes. -/
lemma exists_mem_of_literal? {parts : List (String × Part)} {name : String} {literal : Literal}
    (h : literal? parts name = some literal) :
    ∃ part, (name, part) ∈ parts ∧ Literal.ofJson? part.value = some literal := by
  obtain ⟨part, hpart, hliteral⟩ := Option.bind_eq_some_iff.1 h
  exact ⟨part, mem_of_only? hpart, hliteral⟩

/-- The canonical form of what a part denotes, as a pattern or as a literal. -/
inductive Canonical (part : Part) : Json → Prop
  | node {pattern : Pattern} (h : part.node = some pattern) : Canonical part pattern.toJson
  | literal {literal : Literal} (h : Literal.ofJson? part.value = some literal) :
    Canonical part literal.toJson

end Part

/-! ### Nodes -/

namespace Pattern

/-- A node is as deep as its parts, and its own bracket. -/
lemma depth_nodeObject_le {kind : NodeKind} {values : List Json} {bound : Nat}
    (h : ∀ value ∈ values, value.depth ≤ bound) : (nodeObject kind values).depth ≤ bound + 1 := by
  rw [nodeObject, Json.depth]
  refine Nat.succ_le_succ (Json.membersDepth_le_iff.2 ?_)
  intro member hmember
  rcases List.mem_cons.1 hmember with rfl | hpart
  · exact Nat.zero_le _
  · exact h member.2 (List.of_mem_zip hpart).2

/-- The canonical form of a node has names and flags, and the canonical forms of what the parts
denote that the node is made of. -/
theorem toJson_of_ofParts? {kind : NodeKind} {parts : List (String × Part)} {pattern : Pattern}
    (h : ofParts? kind parts = some pattern) :
    ∃ values, pattern.toJson = nodeObject kind values ∧
      ∀ value ∈ values, value.depth = 0 ∨ ∃ part ∈ parts, part.2.Canonical value := by
  cases kind with
  | comparison =>
    simp only [ofParts?, comparisonOfParts?, Option.bind_eq_bind, Option.bind_eq_some_iff] at h
    obtain ⟨path, _, comparator, _, literal, hliteral, negated, _, hpattern⟩ := h
    obtain rfl := Option.some.inj hpattern
    obtain ⟨part, hpart, hread⟩ := Part.exists_mem_of_literal? hliteral
    refine ⟨_, rfl, ?_⟩
    simp only [List.forall_mem_cons]
    exact ⟨.inl rfl, .inl rfl, .inr ⟨_, hpart, .literal hread⟩, .inl rfl, by simp⟩
  | combined | combinedObservation =>
    simp only [ofParts?, Option.bind_eq_bind, Option.bind_eq_some_iff] at h
    obtain ⟨left, hleft, right, hright, connective, _, hpattern⟩ := h
    obtain rfl := Option.some.inj hpattern
    obtain ⟨first, hfirst, hfirstNode⟩ := Part.exists_mem_of_node? hleft
    obtain ⟨second, hsecond, hsecondNode⟩ := Part.exists_mem_of_node? hright
    refine ⟨_, rfl, ?_⟩
    simp only [List.forall_mem_cons]
    exact ⟨.inr ⟨_, hfirst, .node hfirstNode⟩, .inr ⟨_, hsecond, .node hsecondNode⟩, .inl rfl,
      by simp⟩
  | observation =>
    obtain ⟨inner, hinner, rfl⟩ := Option.map_eq_some_iff.1 h
    obtain ⟨part, hpart, hnode⟩ := Part.exists_mem_of_node? hinner
    refine ⟨_, rfl, ?_⟩
    simp only [List.forall_mem_cons]
    exact ⟨.inr ⟨_, hpart, .node hnode⟩, by simp⟩
  | qualified =>
    simp only [ofParts?, Option.bind_eq_bind, Option.bind_eq_some_iff] at h
    obtain ⟨inner, hinner, text, _, hpattern⟩ := h
    obtain rfl := Option.some.inj hpattern
    obtain ⟨part, hpart, hnode⟩ := Part.exists_mem_of_node? hinner
    refine ⟨_, rfl, ?_⟩
    simp only [List.forall_mem_cons]
    exact ⟨.inr ⟨_, hpart, .node hnode⟩, .inl rfl, by simp⟩

/-- A value that denotes a pattern is read as a node from parts that are values below it. -/
lemma exists_parts_of_ofJsonAt? {below : Bool} {value : Json} {pattern : Pattern}
    (h : ofJsonAt? below value = some pattern) :
    ∃ kind parts bound, ofParts? kind parts = some pattern ∧ value.depth = bound + 1 ∧
      ∀ part ∈ parts, ∃ inner, part.2 = partOf inner ∧ inner.depth ≤ bound := by
  cases value with
  | object members =>
    rw [ofJsonAt?, ofMembers?] at h
    obtain ⟨tag, _, h⟩ := Option.bind_eq_some_iff.1 h
    obtain ⟨kind, _, h⟩ := Option.bind_eq_some_iff.1 h
    refine ⟨kind, memberParts members, Json.membersDepth members, h, by rw [Json.depth], ?_⟩
    intro part hpart
    rw [memberParts_eq_map] at hpart
    obtain ⟨member, hmember, rfl⟩ := List.mem_map.1 hpart
    have hdepth : member.2.depth ≤ Json.membersDepth members :=
      Json.membersDepth_le_iff.1 (Nat.le_refl _) member hmember
    exact ⟨member.2, rfl, hdepth⟩
  | array items =>
    rw [ofJsonAt?, itemParts_eq_map] at h
    cases items with
    | nil => simp [ofItems?] at h
    | cons tag rest =>
      rw [List.map_cons, ofItems?] at h
      obtain ⟨kind, _, h⟩ := Option.bind_eq_some_iff.1 h
      split at h
      · refine ⟨kind, kind.partNames.zip (rest.map partOf), Json.itemsDepth (tag :: rest), h,
          by rw [Json.depth], ?_⟩
        intro part hpart
        obtain ⟨inner, hinner, heq⟩ := List.mem_map.1 (List.of_mem_zip hpart).2
        have hdepth : inner.depth ≤ Json.itemsDepth (tag :: rest) :=
          Json.itemsDepth_le_iff.1 (Nat.le_refl _) inner (List.mem_cons_of_mem _ hinner)
        exact ⟨inner, heq.symm, hdepth⟩
      · simp at h
  | null | bool _ | number _ | string _ => simp [ofJsonAt?] at h

/-- The canonical form of a pattern nests no deeper than what the pattern is read from. -/
theorem depth_toJson_le {below : Bool} {value : Json} {pattern : Pattern}
    (h : ofJsonAt? below value = some pattern) : pattern.toJson.depth ≤ value.depth := by
  -- the induction is on the depth of what is read, since parts are values of lesser depth
  induction hdepth : value.depth using Nat.strong_induction_on
    generalizing below value pattern with
  | _ depth ih =>
    obtain ⟨kind, parts, bound, hparts, hvalue, hbelow⟩ := exists_parts_of_ofJsonAt? h
    obtain ⟨canonical, htoJson, hcanonical⟩ := toJson_of_ofParts? hparts
    have hbound : ∀ form ∈ canonical, form.depth ≤ bound := by
      intro form hform
      rcases hcanonical form hform with hzero | ⟨part, hpart, hdenotes⟩
      · omega
      · obtain ⟨inner, hinner, hle⟩ := hbelow part hpart
        rw [hinner] at hdenotes
        cases hdenotes with
        | node hnode =>
          have hform := ih inner.depth (by omega) hnode rfl
          omega
        | literal hliteral =>
          have hform := Literal.depth_toJson_le inner hliteral
          omega
    rw [htoJson, ← hdepth, hvalue]
    exact depth_nodeObject_le hbound

/-! ### Reading again -/

/-- A pattern that has been read has a canonical text that is not too deep, and the same pattern
is read from this text if its doubles are read back. -/
theorem read?_canonical {text : String} {pattern : Pattern} (hread : read? text = some pattern) :
    pattern.toJson.depth ≤ Json.maxDepth ∧
      (pattern.FloatsReadBack → read? pattern.toJson.text = some pattern) := by
  obtain ⟨value, hvalue, hpattern⟩ := Option.bind_eq_some_iff.1 hread
  have hdepth : pattern.toJson.depth ≤ Json.maxDepth := by
    calc pattern.toJson.depth ≤ value.depth := depth_toJson_le hpattern
      _ ≤ Json.maxDepth := (Json.read?_eq_some_iff.1 hvalue).2
  exact ⟨hdepth, fun hfloats => read?_text_toJson hfloats hdepth⟩

/-- A comparison with a set, observed in a time range. -/
def loosePattern : Pattern :=
  .qualified (.observation (.comparison
    ⟨"file:size", .isIn, .set [.float vastDouble, .string "b"], false⟩)) ⟨"now"⟩

/-- The pattern with kinds by number below the root, a case as an object, and an unknown member. -/
def looseValue : Json :=
  .array [.string "qualified", .array [.number (.int 2), .object [
    ("comparator", .object [("In", .null)]), ("left", .array []), ("type", .number (.int 0)),
    ("value", .array [.number (.double vastDouble), .string "b"]),
    ("object_path", .string "file:size")]], .string "now"]

/-- A text of the value. -/
def looseText : String :=
  String.join [
    "[ \"qualified\", [2, \x7b\"comparator\": \x7b\"In\":null\x7d,",
    "\"left\": [], \"type\" :0, \"value\": [1.0E300,\"b\"],",
    "\"object_path\":\"file:size\"\x7d],\n\"now\"]"]

/-- The text is read as the pattern. -/
lemma read?_looseText : read? looseText = some loosePattern := by
  have htokens : Json.tokens? looseText.toList = some looseValue.tokens := by
    rw [looseText, String.toList_join]
    decide +kernel
  have hspells : looseValue.Spells looseText.toList :=
    Json.layout_of_tokens?_eq htokens (Json.hasValue_of_mem_tokens looseValue)
  have hvalue : Json.read? looseText = some looseValue :=
    Json.read?_eq_some_iff.2 ⟨hspells, by decide⟩
  rw [read?, hvalue, Option.bind_some]
  rfl

/-- A loosely written pattern is read, written in the canonical form, and read again. -/
theorem read?_canonical_looseText :
    read? looseText = some loosePattern ∧ loosePattern.FloatsReadBack ∧
      loosePattern.toJson.depth ≤ Json.maxDepth ∧
      read? loosePattern.toJson.text = some loosePattern := by
  have hfloats : loosePattern.FloatsReadBack := by
    intro test x htest hx
    simp only [loosePattern, subpatterns, List.mem_cons, reduceCtorEq, comparison.injEq,
      List.not_mem_nil, or_false, false_or] at htest
    subst htest
    obtain rfl : x = vastDouble := by simpa [Literal.scalars, Literal.scalarsList] using hx
    exact readsBack_vastDouble
  obtain ⟨hdepth, hagain⟩ := read?_canonical read?_looseText
  exact ⟨read?_looseText, hfloats, hdepth, hagain hfloats⟩

end Pattern

end PatternSql
