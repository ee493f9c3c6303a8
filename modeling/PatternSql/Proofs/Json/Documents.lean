import PatternSql.Json.Reader
import PatternSql.Proofs.Json.Traces

/-!
# The grammar of values

`Json.tokens` lists the tokens of a value, and `Json.Spells` says which texts are texts of a
value: those that lay out its tokens.  The main statement is `read?_eq_some_iff`: a value is
read from exactly those of its texts in which at most `maxDepth` brackets are open at once.

The reader of values is a machine with a stack.  In one direction, a run over the tokens of a
value takes the place where a value is to come to the place after this value, whatever is open
around it (`Reader.run?_tokens`).  In the other, `Reader.Traces` ties a state of the machine to
the tokens that led to it: each open array or object stands for its bracket and for what has
been read in it.
-/

namespace PatternSql

namespace Json

/-! ### The tokens of a value -/

mutual

/-- The tokens of a value. -/
def tokens : Json → List Token
  | .null => [.null]
  | .bool value => [.bool value]
  | .number value => [.number (some value)]
  | .string value => [.string (some value)]
  | .array items => .openArray :: (itemsTokens items ++ [.closeArray])
  | .object members => .openObject :: (membersTokens members ++ [.closeObject])

/-- The tokens of items, with commas between them. -/
def itemsTokens : List Json → List Token
  | [] => []
  | [item] => item.tokens
  | item :: rest => item.tokens ++ .comma :: itemsTokens rest

/-- The tokens of members, with commas between them. -/
def membersTokens : List (String × Json) → List Token
  | [] => []
  | [member] => .string (some member.1) :: .colon :: member.2.tokens
  | member :: rest =>
    .string (some member.1) :: .colon :: (member.2.tokens ++ .comma :: membersTokens rest)

end

/-- The texts of a value. -/
def Spells (value : Json) (cs : List Char) : Prop :=
  Layout value.tokens cs

/-- An item is followed by a comma and by the other items. -/
lemma itemsTokens_cons_cons (first second : Json) (rest : List Json) :
    itemsTokens (first :: second :: rest) =
      first.tokens ++ .comma :: itemsTokens (second :: rest) := by
  rw [itemsTokens]
  simp

/-- A member is followed by a comma and by the other members. -/
lemma membersTokens_cons_cons (first second : String × Json) (rest : List (String × Json)) :
    membersTokens (first :: second :: rest) =
      .string (some first.1) :: .colon ::
        (first.2.tokens ++ .comma :: membersTokens (second :: rest)) := by
  rw [membersTokens]
  simp

/-- A mark keeps what stands before it from running into what follows it. -/
lemma Separated.append_mark {left right : List Token} {mark : Token} (hleft : Separated left)
    (hmark : mark.IsMark) (hright : Separated right) : Separated (left ++ mark :: right) := by
  refine List.isChain_append.2 ⟨hleft, List.isChain_cons.2 ⟨?_, hright⟩, ?_⟩
  · exact fun second _ => .inl hmark
  · intro first _ second hsecond
    obtain rfl : mark = second := by simpa using hsecond
    exact .inr hmark

/-- No tokens run into one. -/
lemma separated_nil : Separated [] := List.isChain_nil

/-- A single token runs into no other. -/
lemma separated_singleton (token : Token) : Separated [token] := List.isChain_singleton token

mutual

/-- No two tokens of a value run into one. -/
theorem separated_tokens (value : Json) : Separated value.tokens := by
  cases value with
  | null => exact separated_singleton _
  | bool value => exact separated_singleton _
  | number value => exact separated_singleton _
  | string value => exact separated_singleton _
  | array items =>
    have hclose := (separated_itemsTokens items).append_mark
      (show Token.closeArray.IsMark by decide) separated_nil
    exact separated_nil.append_mark (by decide) hclose
  | object members =>
    have hclose := (separated_membersTokens members).append_mark
      (show Token.closeObject.IsMark by decide) separated_nil
    exact separated_nil.append_mark (by decide) hclose

/-- No two tokens of items run into one. -/
theorem separated_itemsTokens (items : List Json) : Separated (itemsTokens items) := by
  cases items with
  | nil => exact separated_nil
  | cons item rest =>
    cases rest with
    | nil => exact separated_tokens item
    | cons second rest =>
      rw [itemsTokens_cons_cons]
      exact (separated_tokens item).append_mark (by decide)
        (separated_itemsTokens (second :: rest))

/-- No two tokens of members run into one. -/
theorem separated_membersTokens (members : List (String × Json)) :
    Separated (membersTokens members) := by
  cases members with
  | nil => exact separated_nil
  | cons member rest =>
    have hmember : Separated ([.string (some member.1)] ++ .colon :: member.2.tokens) :=
      (separated_singleton _).append_mark (by decide) (separated_tokens member.2)
    cases rest with
    | nil => exact hmember
    | cons second rest =>
      rw [membersTokens_cons_cons]
      exact hmember.append_mark (by decide) (separated_membersTokens (second :: rest))

end

mutual

/-- The tokens of a value have values. -/
theorem hasValue_of_mem_tokens (value : Json) : ∀ token ∈ value.tokens, token.HasValue := by
  cases value with
  | null => simp [tokens, Token.HasValue]
  | bool value => simp [tokens, Token.HasValue]
  | number value => simp [tokens, Token.HasValue]
  | string value => simp [tokens, Token.HasValue]
  | array items =>
    rw [tokens, List.forall_mem_cons, List.forall_mem_append]
    exact ⟨by simp [Token.HasValue], hasValue_of_mem_itemsTokens items, by simp [Token.HasValue]⟩
  | object members =>
    rw [tokens, List.forall_mem_cons, List.forall_mem_append]
    exact ⟨by simp [Token.HasValue], hasValue_of_mem_membersTokens members,
      by simp [Token.HasValue]⟩

/-- The tokens of items have values. -/
theorem hasValue_of_mem_itemsTokens (items : List Json) :
    ∀ token ∈ itemsTokens items, token.HasValue := by
  cases items with
  | nil => simp [itemsTokens]
  | cons item rest =>
    cases rest with
    | nil => exact hasValue_of_mem_tokens item
    | cons second rest =>
      rw [itemsTokens_cons_cons, List.forall_mem_append, List.forall_mem_cons]
      exact ⟨hasValue_of_mem_tokens item, by simp [Token.HasValue],
        hasValue_of_mem_itemsTokens (second :: rest)⟩

/-- The tokens of members have values. -/
theorem hasValue_of_mem_membersTokens (members : List (String × Json)) :
    ∀ token ∈ membersTokens members, token.HasValue := by
  cases members with
  | nil => simp [membersTokens]
  | cons member rest =>
    have hvalue := hasValue_of_mem_tokens member.2
    cases rest with
    | nil =>
      rw [membersTokens, List.forall_mem_cons, List.forall_mem_cons]
      exact ⟨by simp [Token.HasValue], by simp [Token.HasValue], hvalue⟩
    | cons second rest =>
      rw [membersTokens_cons_cons, List.forall_mem_cons, List.forall_mem_cons,
        List.forall_mem_append, List.forall_mem_cons]
      exact ⟨by simp [Token.HasValue], by simp [Token.HasValue], hvalue, by simp [Token.HasValue],
        hasValue_of_mem_membersTokens (second :: rest)⟩

end

/-! ### Depth -/

/-- Items are as deep as the deepest of them. -/
lemma itemsDepth_le_iff {items : List Json} {bound : Nat} :
    itemsDepth items ≤ bound ↔ ∀ item ∈ items, item.depth ≤ bound := by
  induction items with
  | nil => simp [itemsDepth]
  | cons item rest ih => rw [itemsDepth, Nat.max_le, ih, List.forall_mem_cons]

/-- Members are as deep as the deepest of them. -/
lemma membersDepth_le_iff {members : List (String × Json)} {bound : Nat} :
    membersDepth members ≤ bound ↔ ∀ member ∈ members, member.2.depth ≤ bound := by
  induction members with
  | nil => simp [membersDepth]
  | cons member rest ih => rw [membersDepth, Nat.max_le, ih, List.forall_mem_cons]

/-! ### Reading the tokens of a value -/

namespace Reader

/-- Without a token the reader stays where it is. -/
lemma run?_nil (skip : PassOver) (reader : Reader) : reader.run? skip [] = some reader := rfl

/-- The reader takes one token and then the others. -/
lemma run?_cons (skip : PassOver) (reader : Reader) (token : Token) (rest : List Token) :
    reader.run? skip (token :: rest) = (reader.step? skip token).bind (·.run? skip rest) := rfl

/-- Below the deepest level one more bracket may be opened. -/
lemma mayOpen_of_lt {stack : List Frame} (h : stack.length < maxDepth) : mayOpen stack = true := by
  simp [mayOpen, h]

mutual

/-- A run over the tokens of a value leads from the place before it to the place after it. -/
theorem run?_tokens (value : Json) (stack : List Frame) (hplain : isPassed stack = false)
    (hdepth : value.depth + stack.length ≤ maxDepth) (closable : Bool) :
    run? .nothing (.beforeValue stack closable) value.tokens = some (.afterValue stack value) := by
  cases value with
  | null => rfl
  | bool value => rfl
  | number value => rfl
  | string value => rfl
  | array items =>
    rw [depth] at hdepth
    have hmay : mayOpen stack = true := mayOpen_of_lt (by omega)
    have hopen : step? .nothing (.beforeValue stack closable) .openArray =
        some (.beforeValue (.array [] false :: stack) true) := by
      simp [step?, valueStep?, hmay, hplain]
    rw [tokens, run?_cons, hopen, Option.bind_some]
    cases items with
    | nil => rfl
    | cons item rest =>
      refine run?_itemsTokens (item :: rest) (List.cons_ne_nil _ _) [] ?_ true
      intro other hother
      have hle := itemsDepth_le_iff.1 (Nat.le_refl (itemsDepth (item :: rest))) other hother
      omega
  | object members =>
    rw [depth] at hdepth
    have hmay : mayOpen stack = true := mayOpen_of_lt (by omega)
    have hopen : step? .nothing (.beforeValue stack closable) .openObject =
        some (.beforeName stack [] true) := by
      simp [step?, valueStep?, hmay]
    rw [tokens, run?_cons, hopen, Option.bind_some]
    cases members with
    | nil => rfl
    | cons member rest =>
      refine run?_membersTokens (member :: rest) (List.cons_ne_nil _ _) hplain [] ?_ true
      intro other hother
      have hle := membersDepth_le_iff.1 (Nat.le_refl (membersDepth (member :: rest))) other hother
      omega

/-- A run over the tokens of items and the closing bracket leads to the place after the array. -/
theorem run?_itemsTokens (items : List Json) (hne : items ≠ []) {stack : List Frame}
    (before : List Json)
    (hdepth : ∀ item ∈ items, item.depth + (stack.length + 1) ≤ maxDepth) (closable : Bool) :
    run? .nothing (.beforeValue (.array before false :: stack) closable)
        (itemsTokens items ++ [.closeArray]) =
      some (.afterValue stack (.array (before.reverse ++ items))) := by
  cases items with
  | nil => exact absurd rfl hne
  | cons item rest =>
    have hitem : run? .nothing (.beforeValue (.array before false :: stack) closable) item.tokens =
        some (.afterValue (.array before false :: stack) item) :=
      run?_tokens item (.array before false :: stack) rfl (hdepth item List.mem_cons_self) closable
    cases rest with
    | nil =>
      rw [itemsTokens, run?_append, hitem]
      simp [run?_cons, run?_nil, step?, afterStep?]
    | cons second rest =>
      rw [itemsTokens_cons_cons, List.append_assoc, List.cons_append, run?_append, hitem,
        Option.bind_some, run?_cons]
      have hrest := run?_itemsTokens (second :: rest) (List.cons_ne_nil _ _) (item :: before)
        (fun other hother => hdepth other (List.mem_cons_of_mem _ hother)) false
      simpa [step?, afterStep?] using hrest

/-- A run over the tokens of members and the closing brace leads to the place after the object. -/
theorem run?_membersTokens (members : List (String × Json)) (hne : members ≠ [])
    {stack : List Frame} (hplain : isPassed stack = false) (before : List (String × Json))
    (hdepth : ∀ member ∈ members, member.2.depth + (stack.length + 1) ≤ maxDepth)
    (closable : Bool) :
    run? .nothing (.beforeName stack before closable) (membersTokens members ++ [.closeObject]) =
      some (.afterValue stack (.object (before.reverse ++ members))) := by
  cases members with
  | nil => exact absurd rfl hne
  | cons member rest =>
    have hname : run? .nothing (.beforeName stack before closable)
        [.string (some member.1), .colon] =
          some (.beforeValue (.object before member.1 false :: stack) false) := by
      simp [run?_cons, run?_nil, step?, nameStep?, hplain, PassOver.nothing]
    have hvalue : run? .nothing (.beforeValue (.object before member.1 false :: stack) false)
        member.2.tokens = some (.afterValue (.object before member.1 false :: stack) member.2) :=
      run?_tokens member.2 (.object before member.1 false :: stack) rfl
        (hdepth member List.mem_cons_self) false
    cases rest with
    | nil =>
      have hsplit : membersTokens [member] ++ [.closeObject] =
          [.string (some member.1), .colon] ++ (member.2.tokens ++ [.closeObject]) := rfl
      rw [hsplit, run?_append, hname, Option.bind_some, run?_append, hvalue]
      simp [run?_cons, run?_nil, step?, afterStep?]
    | cons second rest =>
      have hsplit : membersTokens (member :: second :: rest) ++ [.closeObject] =
          [.string (some member.1), .colon] ++ (member.2.tokens ++
            .comma :: (membersTokens (second :: rest) ++ [.closeObject])) := by
        simp [membersTokens_cons_cons]
      have hrest := run?_membersTokens (second :: rest) (List.cons_ne_nil _ _) hplain
        (member :: before) (fun other hother => hdepth other (List.mem_cons_of_mem _ hother)) false
      rw [hsplit, run?_append, hname, Option.bind_some, run?_append, hvalue, Option.bind_some,
        run?_cons]
      simpa [step?, afterStep?] using hrest

end

end Reader

/-! ### What has been read -/

/-- The tokens of items that a comma follows each. -/
def closedItems (items : List Json) : List Token :=
  items.flatMap fun item => item.tokens ++ [.comma]

/-- The tokens of members that a comma follows each. -/
def closedMembers (members : List (String × Json)) : List Token :=
  members.flatMap fun member =>
    .string (some member.1) :: .colon :: (member.2.tokens ++ [.comma])

/-- An item more at the end. -/
lemma itemsTokens_concat (items : List Json) (item : Json) :
    itemsTokens (items ++ [item]) = closedItems items ++ item.tokens := by
  induction items with
  | nil => rfl
  | cons first rest ih =>
    obtain ⟨second, others, hrest⟩ : ∃ second others, rest ++ [item] = second :: others :=
      List.exists_cons_of_ne_nil (by simp)
    rw [List.cons_append, hrest, itemsTokens_cons_cons, ← hrest, ih]
    simp [closedItems]

/-- A member more at the end. -/
lemma membersTokens_concat (members : List (String × Json)) (member : String × Json) :
    membersTokens (members ++ [member]) =
      closedMembers members ++ .string (some member.1) :: .colon :: member.2.tokens := by
  induction members with
  | nil => rfl
  | cons first rest ih =>
    obtain ⟨second, others, hrest⟩ : ∃ second others, rest ++ [member] = second :: others :=
      List.exists_cons_of_ne_nil (by simp)
    rw [List.cons_append, hrest, membersTokens_cons_cons, ← hrest, ih]
    simp [closedMembers]

/-- The tokens of an array or object that is open. -/
def Frame.tokens : Frame → List Token
  | .array items _ => .openArray :: closedItems items.reverse
  | .object members name _ =>
    .openObject :: (closedMembers members.reverse ++ [.string (some name), .colon])

/-- The tokens of all that is open, the innermost last. -/
def stackTokens : List Frame → List Token
  | [] => []
  | frame :: outer => stackTokens outer ++ frame.tokens

/-- Whether what stands in an open array or object is not too deep, under so many brackets. -/
def Frame.Fits (brackets : Nat) : Frame → Prop
  | .array items _ => ∀ item ∈ items, item.depth + brackets ≤ maxDepth
  | .object members _ _ => ∀ member ∈ members, member.2.depth + brackets ≤ maxDepth

/-- Whether nothing that is open is passed over or too deep. -/
def StackFits : List Frame → Prop
  | [] => True
  | frame :: outer =>
    frame.passed = false ∧ frame.Fits (outer.length + 1) ∧ outer.length < maxDepth ∧
      StackFits outer

/-- Of a stack that fits, nothing is passed over. -/
lemma StackFits.isPassed_eq {stack : List Frame} (h : StackFits stack) :
    isPassed stack = false := by
  cases stack with
  | nil => rfl
  | cons frame outer => exact h.1

/-- A stack that fits is no deeper than allowed. -/
lemma StackFits.length_le {stack : List Frame} (h : StackFits stack) :
    stack.length ≤ maxDepth := by
  cases stack with
  | nil => exact Nat.zero_le _
  | cons frame outer => exact h.2.2.1

/-- An array of items that are not too deep one level further in is not too deep itself. -/
lemma depth_array_add_le {items : List Json} {brackets : Nat} (hbrackets : brackets < maxDepth)
    (h : ∀ item ∈ items, item.depth + (brackets + 1) ≤ maxDepth) :
    (Json.array items).depth + brackets ≤ maxDepth := by
  have hle : itemsDepth items ≤ maxDepth - (brackets + 1) :=
    itemsDepth_le_iff.2 fun item hitem => Nat.le_sub_of_add_le (h item hitem)
  rw [depth]
  omega

/-- An object of members that are not too deep one level further in is not too deep itself. -/
lemma depth_object_add_le {members : List (String × Json)} {brackets : Nat}
    (hbrackets : brackets < maxDepth)
    (h : ∀ member ∈ members, member.2.depth + (brackets + 1) ≤ maxDepth) :
    (Json.object members).depth + brackets ≤ maxDepth := by
  have hle : membersDepth members ≤ maxDepth - (brackets + 1) :=
    membersDepth_le_iff.2 fun member hmember => Nat.le_sub_of_add_le (h member hmember)
  rw [depth]
  omega

namespace Reader

/-- A state of the reader that has been reached over tokens. -/
def Traces : Reader → List Token → Prop
  | .beforeValue stack _, tokens => StackFits stack ∧ tokens = stackTokens stack
  | .beforeName stack members closable, tokens =>
    StackFits (.object members "" false :: stack) ∧ (closable = true → members = []) ∧
      tokens = stackTokens stack ++ .openObject :: closedMembers members.reverse
  | .beforeColon stack members name, tokens =>
    StackFits (.object members name false :: stack) ∧
      tokens = stackTokens stack ++
        .openObject :: (closedMembers members.reverse ++ [.string (some name)])
  | .afterValue stack value, tokens =>
    StackFits stack ∧ value.depth + stack.length ≤ maxDepth ∧
      tokens = stackTokens stack ++ value.tokens

/-- What a token does where a value is to come that is not passed over. -/
lemma valueStep?_cases {stack : List Frame} {closable : Bool} {token : Token} {next : Reader}
    (hplain : isPassed stack = false) (h : valueStep? stack closable token = some next) :
    (∃ value, next = .afterValue stack value ∧ value.depth = 0 ∧ value.tokens = [token]) ∨
      (token = .openArray ∧ stack.length < maxDepth ∧
        next = .beforeValue (.array [] false :: stack) true) ∨
      (token = .openObject ∧ stack.length < maxDepth ∧ next = .beforeName stack [] true) ∨
      ∃ passed outer, token = .closeArray ∧ stack = .array [] passed :: outer ∧
        next = .afterValue outer (.array []) := by
  have hmay : mayOpen stack = decide (stack.length < maxDepth) := by simp [mayOpen, hplain]
  cases token with
  | null => exact .inl ⟨.null, (Option.some.inj h).symm, rfl, rfl⟩
  | bool value => exact .inl ⟨.bool value, (Option.some.inj h).symm, rfl, rfl⟩
  | number value =>
    cases value with
    | none => simp [valueStep?, needed?, hplain] at h
    | some value => exact .inl ⟨.number value, (Option.some.inj h).symm, rfl, rfl⟩
  | string value =>
    cases value with
    | none => simp [valueStep?, needed?, hplain] at h
    | some value => exact .inl ⟨.string value, (Option.some.inj h).symm, rfl, rfl⟩
  | openArray =>
    simp only [valueStep?, hmay, decide_eq_true_eq, hplain] at h
    split at h
    · exact .inr (.inl ⟨rfl, ‹_›, (Option.some.inj h).symm⟩)
    · simp at h
  | openObject =>
    simp only [valueStep?, hmay, decide_eq_true_eq] at h
    split at h
    · exact .inr (.inr (.inl ⟨rfl, ‹_›, (Option.some.inj h).symm⟩))
    · simp at h
  | closeArray =>
    simp only [valueStep?] at h
    split at h
    · split at h
      · exact .inr (.inr (.inr ⟨_, _, rfl, rfl, (Option.some.inj h).symm⟩))
      · simp at h
    · simp at h
  | closeObject => simp [valueStep?] at h
  | colon => simp [valueStep?] at h
  | comma => simp [valueStep?] at h

/-- A token where a value is to come is one more of those that led to the state. -/
lemma traces_of_valueStep? {stack : List Frame} {closable : Bool} {token : Token} {next : Reader}
    (hfits : StackFits stack) (h : valueStep? stack closable token = some next) :
    next.Traces (stackTokens stack ++ [token]) := by
  rcases valueStep?_cases hfits.isPassed_eq h with ⟨value, rfl, hdepth, htokens⟩ |
    ⟨rfl, hlt, rfl⟩ | ⟨rfl, hlt, rfl⟩ | ⟨passed, outer, rfl, rfl, rfl⟩
  · refine ⟨hfits, ?_, by rw [htokens]⟩
    rw [hdepth, Nat.zero_add]
    exact hfits.length_le
  · exact ⟨⟨rfl, by simp [Frame.Fits], hlt, hfits⟩, rfl⟩
  · exact ⟨⟨rfl, by simp [Frame.Fits], hlt, hfits⟩, fun _ => rfl, rfl⟩
  · obtain ⟨_, _, hlt, houter⟩ := hfits
    refine ⟨houter, depth_array_add_le hlt (by simp), ?_⟩
    simp [stackTokens, Frame.tokens, closedItems, tokens, itemsTokens]

/-- A token where a name is to come is one more of those that led to the state. -/
lemma traces_of_nameStep? {stack : List Frame} {members : List (String × Json)} {closable : Bool}
    {token : Token} {next : Reader} (hfits : StackFits (.object members "" false :: stack))
    (hclosable : closable = true → members = [])
    (h : nameStep? stack members closable token = some next) :
    next.Traces (stackTokens stack ++ .openObject :: closedMembers members.reverse ++ [token]) := by
  obtain ⟨_, hmembers, hlt, hstack⟩ := hfits
  unfold nameStep? at h
  split at h
  · obtain rfl := Option.some.inj h
    exact ⟨⟨rfl, hmembers, hlt, hstack⟩, by simp⟩
  · simp [hstack.isPassed_eq] at h
  · split at h
    · rename_i hclose
      obtain rfl := Option.some.inj h
      obtain rfl := hclosable hclose
      refine ⟨hstack, depth_object_add_le hlt (by simp), ?_⟩
      simp [closedMembers, tokens, membersTokens]
    · simp at h
  · simp at h

/-- A token after a value is one more of those that led to the state. -/
lemma traces_of_afterStep? {stack : List Frame} {value : Json} {token : Token} {next : Reader}
    (hfits : StackFits stack) (hdepth : value.depth + stack.length ≤ maxDepth)
    (h : afterStep? stack value token = some next) :
    next.Traces (stackTokens stack ++ value.tokens ++ [token]) := by
  unfold afterStep? at h
  split at h
  · -- a comma in an array: the value is one more item
    rename_i items passed outer
    obtain rfl := Option.some.inj h
    obtain ⟨hpassed, hitems, hlt, houter⟩ := hfits
    have hall : ∀ item ∈ value :: items, item.depth + (outer.length + 1) ≤ maxDepth :=
      List.forall_mem_cons.2 ⟨hdepth, hitems⟩
    refine ⟨⟨hpassed, hall, hlt, houter⟩, ?_⟩
    simp [stackTokens, Frame.tokens, closedItems]
  · -- a comma in an object: the value is one more member
    obtain rfl := Option.some.inj h
    obtain ⟨_, hmembers, hlt, houter⟩ := hfits
    refine ⟨⟨rfl, List.forall_mem_cons.2 ⟨hdepth, hmembers⟩, hlt, houter⟩, by simp, ?_⟩
    simp [stackTokens, Frame.tokens, closedMembers]
  · -- the end of an array, with the value as its last item
    rename_i items passed outer
    obtain rfl := Option.some.inj h
    obtain ⟨_, hitems, hlt, houter⟩ := hfits
    have hall : ∀ item ∈ value :: items, item.depth + (outer.length + 1) ≤ maxDepth :=
      List.forall_mem_cons.2 ⟨hdepth, hitems⟩
    refine ⟨houter, depth_array_add_le hlt ?_, ?_⟩
    · exact fun item hitem => hall item (List.mem_reverse.1 hitem)
    · simp [stackTokens, Frame.tokens, tokens, itemsTokens_concat]
  · -- the end of an object, with the value as its last member
    rename_i members name passed outer
    obtain rfl := Option.some.inj h
    obtain ⟨_, hmembers, hlt, houter⟩ := hfits
    have hall : ∀ member ∈ (name, value) :: members,
        member.2.depth + (outer.length + 1) ≤ maxDepth :=
      List.forall_mem_cons.2 ⟨hdepth, hmembers⟩
    refine ⟨houter, depth_object_add_le hlt ?_, ?_⟩
    · exact fun member hmember => hall member (List.mem_reverse.1 hmember)
    · simp [stackTokens, Frame.tokens, tokens, membersTokens_concat]
  · simp at h

/-- A token more is a token more of those that led to a state. -/
theorem traces_of_step? {reader next : Reader} {token : Token} {tokens : List Token}
    (htraces : reader.Traces tokens) (h : reader.step? .nothing token = some next) :
    next.Traces (tokens ++ [token]) := by
  cases reader with
  | beforeValue stack closable =>
    obtain ⟨hfits, rfl⟩ := htraces
    exact traces_of_valueStep? hfits h
  | beforeName stack members closable =>
    obtain ⟨hfits, hclosable, rfl⟩ := htraces
    exact traces_of_nameStep? hfits hclosable h
  | beforeColon stack members name =>
    obtain ⟨hfits, rfl⟩ := htraces
    cases token with
    | colon =>
      have hpassed := hfits.2.2.2.isPassed_eq
      obtain rfl := Option.some.inj h
      simp only [hpassed, PassOver.nothing, Bool.or_self]
      exact ⟨hfits, by simp [stackTokens, Frame.tokens]⟩
    | _ => simp [step?] at h
  | afterValue stack value =>
    obtain ⟨hfits, hdepth, rfl⟩ := htraces
    exact traces_of_afterStep? hfits hdepth h

/-- The state after a run has been reached over the tokens of the run. -/
theorem traces_of_run? {tokens : List Token} {reader : Reader}
    (h : start.run? .nothing tokens = some reader) : reader.Traces tokens := by
  induction tokens using List.reverseRecOn generalizing reader with
  | nil =>
    obtain rfl := Option.some.inj h
    exact ⟨trivial, rfl⟩
  | append_singleton tokens token ih =>
    rw [run?_append] at h
    obtain ⟨middle, hmiddle, hlast⟩ := Option.bind_eq_some_iff.1 h
    have hstep : middle.step? .nothing token = some reader := by
      rw [run?_cons] at hlast
      obtain ⟨next, hnext, hnil⟩ := Option.bind_eq_some_iff.1 hlast
      rw [hnext, Option.some.inj hnil]
    exact traces_of_step? (ih hmiddle) hstep

end Reader

/-! ### Reading texts -/

/-- A value is read from tokens exactly when they are the value's own and the value is not too
deep. -/
theorem ofTokens?_eq_some_iff {tokens : List Token} {value : Json} :
    ofTokens? .nothing tokens = some value ↔ tokens = value.tokens ∧ value.depth ≤ maxDepth := by
  constructor
  · intro h
    obtain ⟨reader, hreader, hresult⟩ := Option.bind_eq_some_iff.1 h
    have htraces := Reader.traces_of_run? hreader
    unfold Reader.result? at hresult
    split at hresult
    · obtain rfl := Option.some.inj hresult
      obtain ⟨_, hdepth, htokens⟩ := htraces
      exact ⟨htokens, hdepth⟩
    · simp at hresult
  · rintro ⟨rfl, hdepth⟩
    have hrun := Reader.run?_tokens value [] rfl hdepth false
    simp [ofTokens?, Reader.start, hrun, Reader.result?]

/-- A value is read from a text exactly when the text is one of the value's texts and the value is
not too deep. -/
theorem read?_eq_some_iff {text : String} {value : Json} :
    read? text = some value ↔ value.Spells text.toList ∧ value.depth ≤ maxDepth := by
  constructor
  · intro h
    obtain ⟨tokens, htokens, hvalue⟩ := Option.bind_eq_some_iff.1 h
    obtain ⟨rfl, hdepth⟩ := ofTokens?_eq_some_iff.1 hvalue
    exact ⟨layout_of_tokens?_eq htokens (hasValue_of_mem_tokens value), hdepth⟩
  · rintro ⟨hspells, hdepth⟩
    have htokens := tokens?_eq_of_layout hspells (separated_tokens value)
    have hvalue := ofTokens?_eq_some_iff.2 ⟨rfl, hdepth⟩
    simp [read?, readOver?, htokens, hvalue]

end Json

end PatternSql
