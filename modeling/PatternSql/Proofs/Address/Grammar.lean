import PatternSql.Address.Shape
import PatternSql.Proofs.Json.Numerals
import Mathlib.Data.List.Basic

/-!
# The grammar of addresses

Which texts are addresses of a shape, said by how they are put together: `Address.IsIpv4` and
`Address.IsIpv6` by fields and groups that are joined, `Address.IsNetwork` by an address and the
numeral of a length, `Address.IsMac` by pairs of digits and the dividers between them.

The recognizers take a text apart instead.  `Shape.recognizes_iff_spells` says that they
recognize exactly the texts of the grammar.  A double colon is the place to look at: it can
only stand where groups are missing, since the joined groups before it hold none
(`cutGap?_intercalate_append`).

No text is of two shapes (`Shape.Spells.unique`).  Dots and slashes tell most of them apart,
and a hardware address has neither a double colon nor enough single ones to be an address of
version six.
-/

namespace PatternSql

namespace Text

/-- The pieces of a text are those of the library's cut at a separator. -/
lemma pieces_eq_splitOn {α : Type} [DecidableEq α] (separator : α) (cs : List α) :
    pieces separator cs = cs.splitOn separator := by
  induction cs with
  | nil => rfl
  | cons c rest ih =>
    rw [pieces, List.splitOn_cons_eq_if_modifyHead, ih]
    by_cases hc : c = separator
    · simp [hc]
    · obtain ⟨piece, others, hcut⟩ :=
        List.exists_cons_of_ne_nil (List.splitOn_ne_nil separator rest)
      simp [hc, hcut]

end Text

namespace Address

/-! ### The grammar -/

/-- A group of a version six address: one to four hexadecimal digits. -/
def IsGroup (cs : List Char) : Prop :=
  (1 ≤ cs.length ∧ cs.length ≤ 4) ∧ ∀ c ∈ cs, isHexDigit c = true

/-- A number of groups, joined by single colons. -/
def IsGroups (count : Nat) (cs : List Char) : Prop :=
  ∃ groups : List (List Char), groups.length = count ∧ (∀ group ∈ groups, IsGroup group) ∧
    cs = [':'].intercalate groups

/-- An address of version six: eight groups, or up to seven with a double colon before, among or
after them. -/
def IsIpv6 (cs : List Char) : Prop :=
  IsGroups 8 cs ∨
    ∃ m n before after, IsGroups m before ∧ IsGroups n after ∧ m + n ≤ 7 ∧
      cs = before ++ ':' :: ':' :: after

/-- A field of a version four address: one to three digits of a number up to 255. -/
def IsField (cs : List Char) : Prop :=
  (1 ≤ cs.length ∧ cs.length ≤ 3) ∧ (∀ c ∈ cs, c.isDigit = true) ∧ Text.digitsValue cs ≤ 255

/-- An address of version four: four fields, joined by dots. -/
def IsIpv4 (cs : List Char) : Prop :=
  ∃ fields : List (List Char), fields.length = 4 ∧ (∀ field ∈ fields, IsField field) ∧
    cs = ['.'].intercalate fields

/-- The numeral of a number up to a bound, without leading zeros. -/
def IsNumeral (bound : Nat) (cs : List Char) : Prop :=
  ∃ n ≤ bound, cs = Nat.toDigits 10 n

/-- An address, a slash, and the numeral of a length up to a bound. -/
def IsNetwork (IsAddress : List Char → Prop) (bound : Nat) (cs : List Char) : Prop :=
  ∃ address length, IsAddress address ∧ IsNumeral bound length ∧ cs = address ++ '/' :: length

/-- Two hexadecimal digits. -/
def IsPair (cs : List Char) : Prop :=
  cs.length = 2 ∧ ∀ c ∈ cs, isHexDigit c = true

/-- A pair, and a number of further pairs, each after a colon or a hyphen. -/
def IsPairs (count : Nat) (cs : List Char) : Prop :=
  ∃ (first : List Char) (others : List (Char × List Char)),
    IsPair first ∧ others.length = count ∧
      (∀ other ∈ others, (other.1 = ':' ∨ other.1 = '-') ∧ IsPair other.2) ∧
      cs = first ++ others.flatMap fun other => other.1 :: other.2

/-- A hardware address: six pairs. -/
def IsMac (cs : List Char) : Prop :=
  IsPairs 5 cs

end Address

/-- The texts of a shape. -/
def Shape.Spells : Shape → List Char → Prop
  | .ipv6 => Address.IsIpv6
  | .ipv6Cidr => Address.IsNetwork Address.IsIpv6 128
  | .ipv4 => Address.IsIpv4
  | .ipv4Cidr => Address.IsNetwork Address.IsIpv4 32
  | .mac => Address.IsMac

namespace Address

/-! ### Digits and dividers -/

/-- A hexadecimal digit is no divider. -/
lemma ne_of_isHexDigit {c divider : Char} (h : isHexDigit c = true)
    (hdivider : isHexDigit divider = false) : c ≠ divider := by
  rintro rfl
  rw [hdivider] at h
  cases h

/-- A text of hexadecimal digits and certain dividers. -/
def IsOver (dividers cs : List Char) : Prop :=
  ∀ c ∈ cs, isHexDigit c = true ∨ c ∈ dividers

/-- Other dividers do not stand in such a text. -/
lemma IsOver.notMem {dividers cs : List Char} (h : IsOver dividers cs) {divider : Char}
    (hdivider : isHexDigit divider = false) (hother : divider ∉ dividers) : divider ∉ cs := by
  intro hmem
  rcases h divider hmem with hdigit | hlisted
  · exact ne_of_isHexDigit hdigit hdivider rfl
  · exact hother hlisted

/-- A text over certain dividers is one over more of them. -/
lemma IsOver.mono {dividers others cs : List Char} (h : IsOver dividers cs)
    (hsubset : dividers ⊆ others) : IsOver others cs :=
  fun c hc => (h c hc).imp_right (@hsubset c)

/-- Decimal digits are hexadecimal ones. -/
lemma isOver_of_isDigit {dividers cs : List Char} (h : ∀ c ∈ cs, c.isDigit = true) :
    IsOver dividers cs :=
  fun c hc => .inl (by simp [isHexDigit, h c hc])

/-- Joined texts have their digits, and the separator between them. -/
lemma isOver_intercalate {separator : Char} {parts : List (List Char)}
    (h : ∀ part ∈ parts, IsOver [] part) : IsOver [separator] ([separator].intercalate parts) := by
  induction parts with
  | nil => simp [IsOver]
  | cons part rest ih =>
    obtain ⟨hpart, hrest⟩ := List.forall_mem_cons.1 h
    have hfirst : IsOver [separator] part := hpart.mono (by simp)
    cases rest with
    | nil => simpa using hfirst
    | cons second rest =>
      rw [List.intercalate_cons_cons]
      intro c hc
      simp only [List.mem_append] at hc
      rcases hc with (hc | hc) | hc
      · exact hfirst c hc
      · exact .inr hc
      · exact ih hrest c hc

/-- The test for a group accepts just the groups. -/
lemma isGroup_iff {cs : List Char} : isGroup cs = true ↔ IsGroup cs := by
  simp [isGroup, IsGroup, and_assoc]

/-- The test for the field of a byte accepts just the fields. -/
lemma isByteField_iff {cs : List Char} : isByteField cs = true ↔ IsField cs := by
  simp [isByteField, IsField, and_assoc]

/-- A group is not empty. -/
lemma IsGroup.ne_nil {cs : List Char} (h : IsGroup cs) : cs ≠ [] := by
  rintro rfl
  simp [IsGroup] at h

/-- A group consists of hexadecimal digits. -/
lemma IsGroup.isOver {cs : List Char} (h : IsGroup cs) : IsOver [] cs :=
  fun c hc => .inl (h.2 c hc)

/-- A field consists of digits. -/
lemma IsField.isOver {cs : List Char} (h : IsField cs) : IsOver [] cs :=
  isOver_of_isDigit h.2.1

/-! ### Addresses of version four -/

/-- The fields of version four are found by the cut at the dots. -/
lemma isIpv4_iff {cs : List Char} : isIpv4 cs = true ↔ IsIpv4 cs := by
  simp only [isIpv4, Text.pieces_eq_splitOn, Bool.and_eq_true, decide_eq_true_eq,
    List.all_eq_true, isByteField_iff]
  constructor
  · rintro ⟨hlength, hfields⟩
    exact ⟨cs.splitOn '.', hlength, hfields, (List.intercalate_splitOn '.').symm⟩
  · rintro ⟨fields, hlength, hfields, rfl⟩
    have hne : fields ≠ [] := by
      rintro rfl
      cases hlength
    have hdots : ∀ field ∈ fields, '.' ∉ field :=
      fun field hmem => (hfields field hmem).isOver.notMem (by decide) (by decide)
    rw [List.splitOn_intercalate '.' hdots hne]
    exact ⟨hlength, hfields⟩

/-! ### Addresses of version six -/

/-- No groups are written as the empty text. -/
lemma isGroups_zero_iff {cs : List Char} : IsGroups 0 cs ↔ cs = [] := by
  constructor
  · rintro ⟨groups, hlength, _, rfl⟩
    rw [List.length_eq_zero_iff.1 hlength, List.intercalate_nil]
  · rintro rfl
    exact ⟨[], rfl, by simp, by simp⟩

/-- The empty text has no groups. -/
lemma isGroups_nil_iff {count : Nat} : IsGroups count [] ↔ count = 0 := by
  constructor
  · rintro ⟨groups, rfl, hgroups, hnil⟩
    cases groups with
    | nil => rfl
    | cons group rest =>
      -- the first group would have to be empty
      have hgroup := (hgroups group (by simp)).ne_nil
      cases rest with
      | nil => exact absurd (by simpa using hnil.symm) hgroup
      | cons second rest =>
        rw [List.intercalate_cons_cons] at hnil
        simp at hnil
  · rintro rfl
    exact isGroups_zero_iff.2 rfl

/-- The groups of version six are found by the cut at the colons. -/
lemma groupCount?_eq_some_iff {cs : List Char} {count : Nat} :
    groupCount? cs = some count ↔ IsGroups count cs := by
  unfold groupCount?
  by_cases hempty : cs = []
  · subst hempty
    simp [isGroups_nil_iff, eq_comm]
  · simp only [List.isEmpty_iff, if_neg hempty, Text.pieces_eq_splitOn]
    constructor
    · intro h
      obtain ⟨hgroups, hcount⟩ := Option.ite_none_right_eq_some.1 h
      rw [List.all_eq_true] at hgroups
      exact ⟨cs.splitOn ':', Option.some.inj hcount,
        fun group hmem => isGroup_iff.1 (hgroups group hmem), (List.intercalate_splitOn ':').symm⟩
    · rintro ⟨groups, rfl, hgroups, rfl⟩
      have hne : groups ≠ [] := by
        rintro rfl
        exact hempty List.intercalate_nil
      have hcolons : ∀ group ∈ groups, ':' ∉ group :=
        fun group hmem => (hgroups group hmem).isOver.notMem (by decide) (by decide)
      rw [List.splitOn_intercalate ':' hcolons hne, if_pos]
      rw [List.all_eq_true]
      exact fun group hmem => isGroup_iff.2 (hgroups group hmem)

/-- A character that does not begin a double colon stands before the cut. -/
lemma cutGap?_cons {c : Char} {rest : List Char} (h : c = ':' → rest.head? ≠ some ':') :
    cutGap? (c :: rest) = (cutGap? rest).map fun parts => (c :: parts.1, parts.2) := by
  rw [cutGap?]
  rintro tail rfl rfl
  exact h rfl rfl

/-- Characters without a colon stand before the cut. -/
lemma cutGap?_append {cs : List Char} (h : ':' ∉ cs) (rest : List Char) :
    cutGap? (cs ++ rest) = (cutGap? rest).map fun parts => (cs ++ parts.1, parts.2) := by
  induction cs with
  | nil => simp
  | cons c cs ih =>
    have hc : c = ':' → (cs ++ rest).head? ≠ some ':' := by
      rintro rfl
      exact absurd List.mem_cons_self h
    rw [List.cons_append, cutGap?_cons hc, ih (fun hmem => h (List.mem_cons_of_mem _ hmem))]
    simp [Function.comp_def]

/-- Joined groups stand before the cut, whatever follows them. -/
lemma cutGap?_intercalate_append {groups : List (List Char)}
    (h : ∀ group ∈ groups, IsGroup group) (rest : List Char) :
    cutGap? ([':'].intercalate groups ++ rest) =
      (cutGap? rest).map fun parts => ([':'].intercalate groups ++ parts.1, parts.2) := by
  induction groups with
  | nil => simp
  | cons group others ih =>
    have hgroup : ':' ∉ group := (h group (by simp)).isOver.notMem (by decide) (by decide)
    have hothers : ∀ group ∈ others, IsGroup group :=
      fun other hmem => h other (List.mem_cons_of_mem _ hmem)
    cases others with
    | nil => simpa using cutGap?_append hgroup rest
    | cons second others =>
      -- the colon after the group is followed by a digit of the next one
      have hdigit : ([':'].intercalate (second :: others) ++ rest).head? ≠ some ':' := by
        have hsecond := hothers second List.mem_cons_self
        obtain ⟨c, cs, rfl⟩ := List.exists_cons_of_ne_nil hsecond.ne_nil
        have hc : c ≠ ':' := ne_of_isHexDigit (hsecond.2 c List.mem_cons_self) (by decide)
        cases others <;> simpa [List.intercalate_cons_cons] using hc
      rw [List.intercalate_cons_cons, List.append_assoc, List.append_assoc, cutGap?_append hgroup,
        List.singleton_append, cutGap?_cons (fun _ => hdigit), ih hothers]
      simp [Function.comp_def]

/-- The two parts around a cut, put together, are the text. -/
lemma eq_append_of_cutGap? {cs before after : List Char}
    (h : cutGap? cs = some (before, after)) : cs = before ++ ':' :: ':' :: after := by
  induction cs generalizing before with
  | nil => simp [cutGap?] at h
  | cons c rest ih =>
    by_cases hgap : c = ':' ∧ rest.head? = some ':'
    · obtain ⟨rfl, hhead⟩ := hgap
      obtain ⟨tail, rfl⟩ := List.head?_eq_some_iff.1 hhead
      obtain ⟨rfl, rfl⟩ : [] = before ∧ tail = after := by simpa [cutGap?] using h
      rfl
    · rw [cutGap?_cons fun hc hhead => hgap ⟨hc, hhead⟩] at h
      obtain ⟨⟨front, back⟩, hcut, heq⟩ := Option.map_eq_some_iff.1 h
      obtain ⟨rfl, rfl⟩ := Prod.mk.inj heq
      rw [ih hcut, List.cons_append]

/-- The groups of version six and their gap are found by the cut at the double colon. -/
lemma isIpv6_iff {cs : List Char} : isIpv6 cs = true ↔ IsIpv6 cs := by
  constructor
  · intro h
    unfold isIpv6 at h
    split at h
    · exact .inl (groupCount?_eq_some_iff.1 (by simpa using h))
    · rename_i before after hcut
      split at h
      · rename_i m n hbefore hafter
        exact .inr ⟨m, n, before, after, groupCount?_eq_some_iff.1 hbefore,
          groupCount?_eq_some_iff.1 hafter, by simpa using h, eq_append_of_cutGap? hcut⟩
      · cases h
  · rintro (height | ⟨m, n, before, after, hbefore, hafter, hcount, rfl⟩)
    · obtain ⟨groups, _, hgroups, rfl⟩ := id height
      have hcut : cutGap? ([':'].intercalate groups) = none := by
        simpa [cutGap?] using cutGap?_intercalate_append hgroups []
      simp [isIpv6, hcut, groupCount?_eq_some_iff.2 height]
    · obtain ⟨groups, _, hgroups, rfl⟩ := id hbefore
      have hcut : cutGap? ([':'].intercalate groups ++ ':' :: ':' :: after) =
          some ([':'].intercalate groups, after) := by
        simp [cutGap?_intercalate_append hgroups, cutGap?]
      simp [isIpv6, hcut, groupCount?_eq_some_iff.2 hbefore, groupCount?_eq_some_iff.2 hafter,
        hcount]

/-! ### Networks -/

/-- Numerals are the runs of digits without a superfluous zero in front. -/
lemma isNumeral_iff {bound : Nat} {cs : List Char} :
    IsNumeral bound cs ↔ Json.Numeral.IsRun cs ∧ (cs.head? = some '0' → cs = ['0']) ∧
      Text.digitsValue cs ≤ bound := by
  constructor
  · rintro ⟨n, hn, rfl⟩
    refine ⟨⟨Nat.toDigits_ne_nil, fun c hc => ?_⟩, Json.Numeral.toDigits_eq_of_head?, ?_⟩
    · exact Nat.isDigit_of_mem_toDigits (by decide) (by decide) hc
    · rwa [Json.Numeral.digitsValue_toDigits]
  · rintro ⟨hrun, hhead, hvalue⟩
    exact ⟨_, hvalue, (Json.Numeral.toDigits_digitsValue hrun hhead).symm⟩

/-- The lengths of network parts are numerals. -/
lemma isBounded_iff {bound : Nat} {cs : List Char} :
    isBounded bound cs = true ↔ IsNumeral bound cs := by
  have hzero : isBounded bound cs = true ↔
      ((∀ c ∈ cs, c.isDigit = true) ∧ Text.digitsValue cs ≤ bound) ∧
        cs ≠ [] ∧ (cs.head? = some '0' → cs = ['0']) := by
    unfold isBounded
    rw [Bool.and_eq_true, Bool.and_eq_true, List.all_eq_true, decide_eq_true_eq]
    refine and_congr_right fun _ => ?_
    split <;> simp_all
  rw [hzero, isNumeral_iff, Json.Numeral.IsRun]
  tauto

/-- A network is recognized when its address is, provided that no slash stands in addresses. -/
lemma isNetwork_iff {isAddress : List Char → Bool} {IsAddress : List Char → Prop} {bound : Nat}
    {cs : List Char} (haddress : ∀ cs, isAddress cs = true ↔ IsAddress cs)
    (hslash : ∀ cs, IsAddress cs → '/' ∉ cs) :
    isNetwork isAddress bound cs = true ↔ IsNetwork IsAddress bound cs := by
  constructor
  · intro h
    unfold isNetwork at h
    split at h
    · rename_i address length hcut
      rw [Bool.and_eq_true, haddress, isBounded_iff] at h
      exact ⟨address, length, h.1, h.2, (Text.cutFirst?_eq_some_iff.1 hcut).1⟩
    · cases h
  · rintro ⟨address, length, hvalid, hlength, rfl⟩
    have hcut : Text.cutFirst? '/' (address ++ '/' :: length) = some (address, length) :=
      Text.cutFirst?_eq_some_iff.2 ⟨rfl, hslash address hvalid⟩
    simp [isNetwork, hcut, haddress, hvalid, isBounded_iff.2 hlength]

/-! ### Hardware addresses -/

/-- A pair is two hexadecimal digits. -/
lemma isPair_iff {cs : List Char} :
    IsPair cs ↔ ∃ high low, isHexDigit high = true ∧ isHexDigit low = true ∧ cs = [high, low] := by
  constructor
  · rintro ⟨hlength, hdigits⟩
    obtain ⟨high, low, rfl⟩ := List.length_eq_two.1 hlength
    exact ⟨high, low, hdigits high (by simp), hdigits low (by simp), rfl⟩
  · rintro ⟨high, low, hhigh, hlow, rfl⟩
    exact ⟨rfl, by simp [hhigh, hlow]⟩

/-- A single pair has nothing behind it. -/
lemma isPairs_zero_iff {cs : List Char} : IsPairs 0 cs ↔ IsPair cs := by
  constructor
  · rintro ⟨first, others, hfirst, hlength, _, rfl⟩
    simpa [List.length_eq_zero_iff.1 hlength] using hfirst
  · exact fun h => ⟨cs, [], h, rfl, by simp, by simp⟩

/-- One pair more is a pair and a divider in front. -/
lemma isPairs_succ_iff {count : Nat} {cs : List Char} :
    IsPairs (count + 1) cs ↔
      ∃ high low divider rest, isHexDigit high = true ∧ isHexDigit low = true ∧
        (divider = ':' ∨ divider = '-') ∧ IsPairs count rest ∧
        cs = high :: low :: divider :: rest := by
  constructor
  · rintro ⟨first, others, hfirst, hlength, hothers, rfl⟩
    obtain ⟨high, low, hhigh, hlow, rfl⟩ := isPair_iff.1 hfirst
    obtain ⟨⟨divider, second⟩, others, rfl⟩ := List.exists_cons_of_length_eq_add_one hlength
    obtain ⟨⟨hdivider, hsecond⟩, hothers⟩ := List.forall_mem_cons.1 hothers
    exact ⟨high, low, divider, _, hhigh, hlow, hdivider,
      ⟨second, others, hsecond, by simpa using hlength, hothers, rfl⟩, by simp⟩
  · rintro ⟨high, low, divider, _, hhigh, hlow, hdivider,
      ⟨second, others, hsecond, hlength, hothers, rfl⟩, rfl⟩
    exact ⟨[high, low], (divider, second) :: others, isPair_iff.2 ⟨high, low, hhigh, hlow, rfl⟩,
      by simp [hlength], List.forall_mem_cons.2 ⟨⟨hdivider, hsecond⟩, hothers⟩, by simp⟩

/-- Pairs are recognized one after the other. -/
lemma isPairs_iff {count : Nat} {cs : List Char} :
    isPairs (count + 1) cs = true ↔ IsPairs count cs := by
  induction count generalizing cs with
  | zero =>
    rw [isPairs_zero_iff, isPair_iff]
    rcases cs with _ | ⟨high, _ | ⟨low, _ | ⟨divider, rest⟩⟩⟩ <;> simp [isPairs]
  | succ count ih =>
    rw [isPairs_succ_iff]
    rcases cs with _ | ⟨high, _ | ⟨low, _ | ⟨divider, rest⟩⟩⟩ <;>
      simp [isPairs, ih, and_assoc]

/-! ### The dividers of addresses -/

/-- Groups consist of hexadecimal digits and colons. -/
lemma IsGroups.isOver {count : Nat} {cs : List Char} (h : IsGroups count cs) : IsOver [':'] cs := by
  obtain ⟨groups, _, hgroups, rfl⟩ := h
  exact isOver_intercalate fun group hmem => (hgroups group hmem).isOver

/-- In an address of version six the only dividers are colons. -/
lemma IsIpv6.isOver {cs : List Char} (h : IsIpv6 cs) : IsOver [':'] cs := by
  rcases h with height | ⟨m, n, before, after, hbefore, hafter, _, rfl⟩
  · exact height.isOver
  · intro c hc
    simp only [List.mem_append, List.mem_cons] at hc
    rcases hc with hleft | rfl | rfl | hright
    · exact hbefore.isOver c hleft
    · exact .inr (by simp)
    · exact .inr (by simp)
    · exact hafter.isOver c hright

/-- In an address of version four the only dividers are dots. -/
lemma IsIpv4.isOver {cs : List Char} (h : IsIpv4 cs) : IsOver ['.'] cs := by
  obtain ⟨fields, _, hfields, rfl⟩ := h
  exact isOver_intercalate fun field hmem => (hfields field hmem).isOver

/-- The separator stands between joined texts when there are two. -/
lemma separator_mem_intercalate {separator : Char} {parts : List (List Char)}
    (h : 2 ≤ parts.length) : separator ∈ [separator].intercalate parts := by
  match parts, h with
  | first :: second :: rest, _ => simp [List.intercalate_cons_cons]

/-- There are colons in an address of version six. -/
lemma IsIpv6.colon_mem {cs : List Char} (h : IsIpv6 cs) : ':' ∈ cs := by
  rcases h with ⟨groups, hlength, _, rfl⟩ | ⟨_, _, before, after, _, _, _, rfl⟩
  · exact separator_mem_intercalate (by omega)
  · simp

/-- There are dots in an address of version four. -/
lemma IsIpv4.dot_mem {cs : List Char} (h : IsIpv4 cs) : '.' ∈ cs := by
  obtain ⟨fields, hlength, _, rfl⟩ := h
  exact separator_mem_intercalate (by omega)

/-- There are three dots in an address of version four. -/
lemma IsIpv4.count_dot {cs : List Char} (h : IsIpv4 cs) : cs.count '.' = 3 := by
  have hrecognized := isIpv4_iff.2 h
  simp only [isIpv4, Bool.and_eq_true, decide_eq_true_eq, Text.length_pieces] at hrecognized
  omega

/-- In a network the only further divider is the slash. -/
lemma IsNetwork.isOver {IsAddress : List Char → Prop} {bound : Nat} {dividers cs : List Char}
    (h : IsNetwork IsAddress bound cs) (haddress : ∀ cs, IsAddress cs → IsOver dividers cs) :
    IsOver ('/' :: dividers) cs := by
  obtain ⟨address, length, hvalid, hlength, rfl⟩ := h
  intro c hc
  simp only [List.mem_append, List.mem_cons] at hc
  rcases hc with hleft | rfl | hright
  · exact (haddress address hvalid c hleft).imp_right (List.mem_cons_of_mem _)
  · exact .inr List.mem_cons_self
  · exact isOver_of_isDigit (isNumeral_iff.1 hlength).1.2 c hright

/-- In a hardware address the only dividers are colons and hyphens. -/
lemma IsPairs.isOver {count : Nat} {cs : List Char} (h : IsPairs count cs) :
    IsOver [':', '-'] cs := by
  obtain ⟨first, others, hfirst, _, hothers, rfl⟩ := h
  intro c hc
  simp only [List.mem_append, List.mem_flatMap, List.mem_cons] at hc
  rcases hc with hleft | ⟨other, hother, rfl | hright⟩
  · exact .inl (hfirst.2 c hleft)
  · exact .inr (by simpa using (hothers other hother).1)
  · exact .inl ((hothers other hother).2.2 c hright)

/-- Pairs have no double colon, and at most one colon before each pair but the first. -/
lemma IsPairs.cutGap?_eq_none {count : Nat} {cs : List Char} (h : IsPairs count cs) :
    cutGap? cs = none ∧ cs.count ':' ≤ count ∧ cs.head? ≠ some ':' := by
  induction count generalizing cs with
  | zero =>
    obtain ⟨high, low, hhigh, hlow, rfl⟩ := isPair_iff.1 (isPairs_zero_iff.1 h)
    have hcolon : high ≠ ':' ∧ low ≠ ':' :=
      ⟨ne_of_isHexDigit hhigh (by decide), ne_of_isHexDigit hlow (by decide)⟩
    simp [cutGap?, hcolon.1, hcolon.2]
  | succ count ih =>
    obtain ⟨high, low, divider, rest, hhigh, hlow, hdivider, hrest, rfl⟩ := isPairs_succ_iff.1 h
    obtain ⟨hcut, hcount, hhead⟩ := ih hrest
    have hcolon : high ≠ ':' ∧ low ≠ ':' :=
      ⟨ne_of_isHexDigit hhigh (by decide), ne_of_isHexDigit hlow (by decide)⟩
    refine ⟨?_, ?_, by simpa using hcolon.1⟩
    · rw [cutGap?_cons fun heq => absurd heq hcolon.1, cutGap?_cons fun heq => absurd heq hcolon.2,
        cutGap?_cons fun _ => hhead, hcut]
      rfl
    · have hone : [divider].count ':' ≤ 1 := List.count_le_length
      simp only [List.count_cons] at hone ⊢
      simp [hcolon.1, hcolon.2] at hone ⊢
      omega

/-- No hardware address is an address of version six. -/
lemma IsMac.not_isIpv6 {cs : List Char} (h : IsMac cs) : ¬IsIpv6 cs := by
  intro hipv6
  obtain ⟨hcut, hcount, _⟩ := IsPairs.cutGap?_eq_none h
  have hgroups : groupCount? cs = some 8 := by
    simpa [isIpv6, hcut] using isIpv6_iff.2 hipv6
  unfold groupCount? at hgroups
  split at hgroups
  · cases hgroups
  · have hlength := (Option.ite_none_right_eq_some.1 hgroups).2
    rw [Option.some.injEq, Text.length_pieces] at hlength
    omega

end Address

/-! ### Shapes -/

namespace Shape

open Address

/-- The recognizers recognize exactly the texts of the grammar. -/
theorem recognizes_iff_spells {shape : Shape} {cs : List Char} :
    shape.recognizes cs = true ↔ shape.Spells cs := by
  have hslash6 : ∀ cs, IsIpv6 cs → '/' ∉ cs :=
    fun cs h => h.isOver.notMem (by decide) (by decide)
  have hslash4 : ∀ cs, IsIpv4 cs → '/' ∉ cs :=
    fun cs h => h.isOver.notMem (by decide) (by decide)
  cases shape with
  | ipv6 => exact isIpv6_iff
  | ipv6Cidr => exact isNetwork_iff (fun _ => isIpv6_iff) hslash6
  | ipv4 => exact isIpv4_iff
  | ipv4Cidr => exact isNetwork_iff (fun _ => isIpv4_iff) hslash4
  | mac => exact isPairs_iff

/-- Whether a shape has the length of a network part. -/
def hasLength : Shape → Bool
  | .ipv6Cidr | .ipv4Cidr => true
  | _ => false

/-- Whether a shape has the fields of version four. -/
def hasFields : Shape → Bool
  | .ipv4 | .ipv4Cidr => true
  | _ => false

/-- A slash tells the shapes with a length from the others. -/
lemma Spells.slash_mem_iff {shape : Shape} {cs : List Char} (h : shape.Spells cs) :
    '/' ∈ cs ↔ shape.hasLength = true := by
  cases shape with
  | ipv6 => exact iff_of_false (IsIpv6.isOver h |>.notMem (by decide) (by decide)) (by decide)
  | ipv6Cidr =>
    obtain ⟨address, length, _, _, rfl⟩ := h
    exact iff_of_true (by simp) rfl
  | ipv4 => exact iff_of_false (IsIpv4.isOver h |>.notMem (by decide) (by decide)) (by decide)
  | ipv4Cidr =>
    obtain ⟨address, length, _, _, rfl⟩ := h
    exact iff_of_true (by simp) rfl
  | mac => exact iff_of_false (IsPairs.isOver h |>.notMem (by decide) (by decide)) (by decide)

/-- A dot tells the shapes with fields from the others. -/
lemma Spells.dot_mem_iff {shape : Shape} {cs : List Char} (h : shape.Spells cs) :
    '.' ∈ cs ↔ shape.hasFields = true := by
  cases shape with
  | ipv6 => exact iff_of_false (IsIpv6.isOver h |>.notMem (by decide) (by decide)) (by decide)
  | ipv6Cidr =>
    have hover := IsNetwork.isOver h fun _ => IsIpv6.isOver
    exact iff_of_false (hover.notMem (by decide) (by decide)) (by decide)
  | ipv4 => exact iff_of_true (IsIpv4.dot_mem h) rfl
  | ipv4Cidr =>
    obtain ⟨address, length, haddress, _, rfl⟩ := h
    exact iff_of_true (List.mem_append_left _ haddress.dot_mem) rfl
  | mac => exact iff_of_false (IsPairs.isOver h |>.notMem (by decide) (by decide)) (by decide)

/-- In an address stand hexadecimal digits and four dividers only. -/
lemma Spells.isOver {shape : Shape} {cs : List Char} (h : shape.Spells cs) :
    IsOver ['/', ':', '.', '-'] cs := by
  cases shape with
  | ipv6 => exact (IsIpv6.isOver h).mono (by simp)
  | ipv6Cidr => exact (IsNetwork.isOver h fun _ => IsIpv6.isOver).mono (by simp)
  | ipv4 => exact (IsIpv4.isOver h).mono (by simp)
  | ipv4Cidr => exact (IsNetwork.isOver h fun _ => IsIpv4.isOver).mono (by simp)
  | mac => exact (IsPairs.isOver h).mono (by simp)

/-- No text is of two shapes. -/
theorem Spells.unique {shape other : Shape} {cs : List Char} (h : shape.Spells cs)
    (hother : other.Spells cs) : shape = other := by
  have hlength : shape.hasLength = other.hasLength :=
    Bool.eq_iff_iff.2 (h.slash_mem_iff.symm.trans hother.slash_mem_iff)
  have hfields : shape.hasFields = other.hasFields :=
    Bool.eq_iff_iff.2 (h.dot_mem_iff.symm.trans hother.dot_mem_iff)
  -- slash and dot leave one pair of shapes to tell apart
  have hrest : shape = other ∨ shape = .ipv6 ∧ other = .mac ∨ shape = .mac ∧ other = .ipv6 := by
    revert hlength hfields
    cases shape <;> cases other <;> decide
  rcases hrest with heq | ⟨rfl, rfl⟩ | ⟨rfl, rfl⟩
  · exact heq
  · exact absurd h (IsMac.not_isIpv6 hother)
  · exact absurd hother (IsMac.not_isIpv6 h)

/-- The first of some shapes that a text is of is of its grammar. -/
lemma spells_of_firstOf? {shapes : List Shape} {text : String} {shape : Shape}
    (h : firstOf? shapes text = some shape) : shape.Spells text.toList := by
  have hrecognized := List.find?_some h
  exact recognizes_iff_spells.1 hrecognized

/-- The first of some shapes that a text is of is the only one among them. -/
lemma firstOf?_eq_some_iff {shapes : List Shape} {text : String} {shape : Shape} :
    firstOf? shapes text = some shape ↔ shape ∈ shapes ∧ shape.Spells text.toList := by
  constructor
  · exact fun h => ⟨List.mem_of_find?_eq_some h, spells_of_firstOf? h⟩
  · rintro ⟨hmem, hspells⟩
    have hfound : (firstOf? shapes text).isSome = true :=
      List.find?_isSome.2 ⟨shape, hmem, recognizes_iff_spells.2 hspells⟩
    obtain ⟨first, hfirst⟩ := Option.isSome_iff_exists.1 hfound
    rw [hfirst, (spells_of_firstOf? hfirst).unique hspells]

end Shape

end PatternSql
