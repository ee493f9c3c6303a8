import PatternSql.Proofs.Address.Grammar
import Mathlib.Computability.Language

/-!
# Addresses as regular languages

The shapes of addresses as regular expressions: characters of a class, sequences, alternatives,
and repetitions between two bounds.  `Shape.form` gives the expression of each shape.

The expression of version six has nine alternatives, each for certain numbers of groups before
and after a double colon.  Together they cover every gap in up to seven groups, and nothing else
(`mem_ipv6`).  The numbers of version four and of network lengths are expressed digit by digit,
by alternatives for the ranges of their first digits (`mem_field`, `mem_length128`,
`mem_length32`).

No text is of the expressions of two shapes (`Shape.eq_of_mem_form`), so it does not matter in which
order the shapes are tried.
-/

namespace PatternSql

namespace Address

namespace Form

/-! ### Expressions -/

/-- One character of a class. -/
def one (isMember : Char → Bool) : Language Char :=
  {cs | ∃ c, isMember c = true ∧ cs = [c]}

/-- One character. -/
def char (c : Char) : Language Char :=
  {[c]}

/-- One digit of a value between two bounds. -/
def digit (least most : Nat) : Language Char :=
  one fun c => c.isDigit && least ≤ Text.digitValue c && Text.digitValue c ≤ most

/-- A number of texts between two bounds, one after the other. -/
def times (least most : Nat) (l : Language Char) : Language Char :=
  {cs | ∃ n, (least ≤ n ∧ n ≤ most) ∧ cs ∈ l ^ n}

/-- A text or none. -/
def optional (l : Language Char) : Language Char :=
  1 + l

/-! ### The expressions of addresses -/

/-- A group of version six. -/
def group : Language Char :=
  times 1 4 (one isHexDigit)

/-- Groups of a number between two bounds, each with a colon behind it. -/
def leading (least most : Nat) : Language Char :=
  times least most (group * char ':')

/-- Groups of a number between two bounds, each with a colon before it. -/
def trailing (least most : Nat) : Language Char :=
  times least most (char ':' * group)

/-- An address of version six. -/
def ipv6 : Language Char :=
  leading 7 7 * group +
    leading 1 7 * char ':' +
    leading 1 6 * (char ':' * group) +
    leading 1 5 * trailing 1 2 +
    leading 1 4 * trailing 1 3 +
    leading 1 3 * trailing 1 4 +
    leading 1 2 * trailing 1 5 +
    group * char ':' * trailing 1 6 +
    char ':' * (trailing 1 7 + char ':')

/-- A field of version four. -/
def field : Language Char :=
  digit 2 2 * digit 5 5 * digit 0 5 +
    digit 2 2 * digit 0 4 * digit 0 9 +
    optional (digit 0 1) * digit 0 9 * optional (digit 0 9)

/-- An address of version four. -/
def ipv4 : Language Char :=
  times 3 3 (field * char '.') * field

/-- The length of a network part of version six. -/
def length128 : Language Char :=
  digit 1 1 * digit 2 2 * digit 0 8 +
    digit 1 1 * digit 0 1 * digit 0 9 +
    optional (digit 1 9) * digit 0 9

/-- The length of a network part of version four. -/
def length32 : Language Char :=
  digit 3 3 * digit 0 2 + optional (digit 1 2) * digit 0 9

/-- Two hexadecimal digits. -/
def pair : Language Char :=
  times 2 2 (one isHexDigit)

/-- A hardware address. -/
def mac : Language Char :=
  times 5 5 (pair * one fun c => c = ':' || c = '-') * pair

end Form

end Address

/-- The expression of a shape. -/
def Shape.form : Shape → Language Char
  | .ipv6 => Address.Form.ipv6
  | .ipv6Cidr => Address.Form.ipv6 * Address.Form.char '/' * Address.Form.length128
  | .ipv4 => Address.Form.ipv4
  | .ipv4Cidr => Address.Form.ipv4 * Address.Form.char '/' * Address.Form.length32
  | .mac => Address.Form.mac

namespace Address

namespace Form

/-! ### Repetitions -/

variable {cs : List Char} {l : Language Char}

/-- The texts of one character are those of a character of the class. -/
lemma mem_one {isMember : Char → Bool} :
    cs ∈ one isMember ↔ ∃ c, isMember c = true ∧ cs = [c] := Iff.rfl

/-- A repetition is a number, between the bounds, of texts one after the other. -/
lemma mem_times {least most : Nat} :
    cs ∈ times least most l ↔ ∃ n, (least ≤ n ∧ n ≤ most) ∧ cs ∈ l ^ n := Iff.rfl

/-- A fixed number of repetitions is a power. -/
lemma times_self (n : Nat) : times n n l = l ^ n := by
  ext cs
  rw [mem_times]
  constructor
  · rintro ⟨m, hm, hmem⟩
    rwa [show n = m by omega]
  · exact fun h => ⟨n, ⟨le_refl n, le_refl n⟩, h⟩

/-- Characters of a class, one after the other. -/
lemma mem_one_pow {isMember : Char → Bool} {n : Nat} :
    cs ∈ one isMember ^ n ↔ cs.length = n ∧ ∀ c ∈ cs, isMember c = true := by
  induction n generalizing cs with
  | zero =>
    rw [pow_zero, Language.mem_one, List.length_eq_zero_iff]
    constructor
    · rintro rfl
      simp
    · exact fun h => h.1
  | succ n ih =>
    rw [pow_succ', Language.mem_mul]
    constructor
    · rintro ⟨_, ⟨c, hc, rfl⟩, rest, hrest, rfl⟩
      obtain ⟨hlength, hall⟩ := ih.1 hrest
      exact ⟨by simp [hlength], by simpa [hc] using hall⟩
    · rintro ⟨hlength, hall⟩
      obtain ⟨c, rest, rfl⟩ := List.exists_cons_of_length_eq_add_one hlength
      rw [List.forall_mem_cons] at hall
      exact ⟨[c], ⟨c, hall.1, rfl⟩, rest, ih.2 ⟨by simpa using hlength, hall.2⟩, rfl⟩

/-- Texts with a separator behind each but the last are the joined texts. -/
lemma mem_pow_mul {separator : Char} {n : Nat} :
    cs ∈ (l * char separator) ^ n * l ↔
      ∃ parts : List (List Char), parts.length = n + 1 ∧ (∀ part ∈ parts, part ∈ l) ∧
        cs = [separator].intercalate parts := by
  induction n generalizing cs with
  | zero =>
    rw [pow_zero, one_mul]
    constructor
    · exact fun h => ⟨[cs], rfl, by simpa using h, by simp⟩
    · rintro ⟨parts, hlength, hparts, rfl⟩
      obtain ⟨part, rfl⟩ := List.length_eq_one_iff.1 hlength
      simpa using hparts
  | succ n ih =>
    rw [pow_succ', mul_assoc, Language.mem_mul]
    constructor
    · rintro ⟨_, ⟨part, hpart, _, rfl, rfl⟩, rest, hrest, rfl⟩
      obtain ⟨parts, hlength, hparts, rfl⟩ := ih.1 hrest
      have hne : parts ≠ [] := List.ne_nil_of_length_eq_add_one hlength
      refine ⟨part :: parts, by simp [hlength], List.forall_mem_cons.2 ⟨hpart, hparts⟩, ?_⟩
      simp [List.intercalate_cons_of_ne_nil hne]
    · rintro ⟨parts, hlength, hparts, rfl⟩
      obtain ⟨part, parts, rfl⟩ := List.exists_cons_of_length_eq_add_one hlength
      have hlength : parts.length = n + 1 := by simpa using hlength
      have hne : parts ≠ [] := List.ne_nil_of_length_eq_add_one hlength
      rw [List.forall_mem_cons] at hparts
      refine ⟨part ++ [separator], ⟨part, hparts.1, [separator], rfl, rfl⟩,
        [separator].intercalate parts, ih.2 ⟨parts, hlength, hparts.2, rfl⟩, ?_⟩
      simp [List.intercalate_cons_of_ne_nil hne]

/-! ### Addresses of version six -/

/-- The expression of a group describes the groups. -/
lemma mem_group : cs ∈ group ↔ IsGroup cs := by
  simp only [group, mem_times, mem_one_pow, IsGroup]
  constructor
  · rintro ⟨n, hn, rfl, hall⟩
    exact ⟨hn, hall⟩
  · rintro ⟨hlength, hall⟩
    exact ⟨cs.length, hlength, rfl, hall⟩

/-- Groups with a colon behind each but the last are joined groups. -/
lemma mem_pow_mul_group {n : Nat} :
    cs ∈ (group * char ':') ^ n * group ↔ IsGroups (n + 1) cs := by
  simp only [mem_pow_mul, mem_group, IsGroups]

/-- Groups with a colon behind each are joined groups before a colon. -/
lemma mem_leading {least most : Nat} (hleast : 1 ≤ least) :
    cs ∈ leading least most ↔
      ∃ m before, (least ≤ m ∧ m ≤ most) ∧ IsGroups m before ∧ cs = before ++ [':'] := by
  simp only [leading, mem_times]
  refine exists_congr fun m => ?_
  constructor
  · rintro ⟨hm, hmem⟩
    obtain ⟨n, rfl⟩ := Nat.exists_eq_add_of_le' (hleast.trans hm.1)
    rw [pow_succ, ← mul_assoc] at hmem
    obtain ⟨before, hbefore, _, rfl, rfl⟩ := hmem
    exact ⟨before, hm, mem_pow_mul_group.1 hbefore, rfl⟩
  · rintro ⟨before, hm, hbefore, rfl⟩
    obtain ⟨n, rfl⟩ := Nat.exists_eq_add_of_le' (hleast.trans hm.1)
    rw [pow_succ, ← mul_assoc]
    exact ⟨hm, before, mem_pow_mul_group.2 hbefore, [':'], rfl, rfl⟩

/-- Groups with a colon before each are joined groups after a colon. -/
lemma mem_trailing {least most : Nat} (hleast : 1 ≤ least) :
    cs ∈ trailing least most ↔
      ∃ n after, (least ≤ n ∧ n ≤ most) ∧ IsGroups n after ∧ cs = ':' :: after := by
  simp only [trailing, mem_times]
  refine exists_congr fun n => ?_
  constructor
  · rintro ⟨hn, hmem⟩
    obtain ⟨k, rfl⟩ := Nat.exists_eq_add_of_le' (hleast.trans hn.1)
    rw [pow_succ, ← mul_assoc, mul_pow_mul, mul_assoc] at hmem
    obtain ⟨_, rfl, after, hafter, rfl⟩ := hmem
    exact ⟨after, hn, mem_pow_mul_group.1 hafter, rfl⟩
  · rintro ⟨after, hn, hafter, rfl⟩
    obtain ⟨k, rfl⟩ := Nat.exists_eq_add_of_le' (hleast.trans hn.1)
    rw [pow_succ, ← mul_assoc, mul_pow_mul, mul_assoc]
    exact ⟨hn, [':'], rfl, after, mem_pow_mul_group.2 hafter, rfl⟩

/-- A number of groups, a double colon, and a number of groups. -/
def IsGap (m n : Nat) (cs : List Char) : Prop :=
  ∃ before after, IsGroups m before ∧ IsGroups n after ∧ cs = before ++ ':' :: ':' :: after

/-- An address of version six has eight groups, or a gap in up to seven. -/
lemma isIpv6_iff_isGap : IsIpv6 cs ↔ IsGroups 8 cs ∨ ∃ m n, m + n ≤ 7 ∧ IsGap m n cs := by
  refine or_congr_right (exists_congr fun m => exists_congr fun n => ?_)
  constructor
  · rintro ⟨before, after, hbefore, hafter, hcount, rfl⟩
    exact ⟨hcount, before, after, hbefore, hafter, rfl⟩
  · rintro ⟨hcount, before, after, hbefore, hafter, rfl⟩
    exact ⟨before, after, hbefore, hafter, hcount, rfl⟩

/-- Groups before and after a gap. -/
lemma mem_leading_mul_trailing {a b c d : Nat} (ha : 1 ≤ a) (hc : 1 ≤ c) :
    cs ∈ leading a b * trailing c d ↔
      ∃ m n, (a ≤ m ∧ m ≤ b) ∧ (c ≤ n ∧ n ≤ d) ∧ IsGap m n cs := by
  rw [Language.mem_mul]
  constructor
  · rintro ⟨first, hfirst, second, hsecond, rfl⟩
    obtain ⟨m, before, hm, hbefore, rfl⟩ := (mem_leading ha).1 hfirst
    obtain ⟨n, after, hn, hafter, rfl⟩ := (mem_trailing hc).1 hsecond
    exact ⟨m, n, hm, hn, before, after, hbefore, hafter, by simp⟩
  · rintro ⟨m, n, hm, hn, before, after, hbefore, hafter, rfl⟩
    exact ⟨before ++ [':'], (mem_leading ha).2 ⟨m, before, hm, hbefore, rfl⟩, ':' :: after,
      (mem_trailing hc).2 ⟨n, after, hn, hafter, rfl⟩, by simp⟩

/-- Groups before a gap only. -/
lemma mem_leading_mul_char {a b : Nat} (ha : 1 ≤ a) :
    cs ∈ leading a b * char ':' ↔ ∃ m, (a ≤ m ∧ m ≤ b) ∧ IsGap m 0 cs := by
  rw [Language.mem_mul]
  constructor
  · rintro ⟨first, hfirst, _, rfl, rfl⟩
    obtain ⟨m, before, hm, hbefore, rfl⟩ := (mem_leading ha).1 hfirst
    exact ⟨m, hm, before, [], hbefore, isGroups_zero_iff.2 rfl, by simp⟩
  · rintro ⟨m, hm, before, after, hbefore, hafter, rfl⟩
    obtain rfl := isGroups_zero_iff.1 hafter
    exact ⟨before ++ [':'], (mem_leading ha).2 ⟨m, before, hm, hbefore, rfl⟩, [':'], rfl, by simp⟩

/-- Groups after a gap only, or none at all. -/
lemma mem_char_mul_trailing {d : Nat} :
    cs ∈ char ':' * (trailing 1 d + char ':') ↔ ∃ n ≤ d, IsGap 0 n cs := by
  rw [Language.mem_mul]
  constructor
  · rintro ⟨_, rfl, second, hsecond, rfl⟩
    rcases hsecond with hsecond | rfl
    · obtain ⟨n, after, hn, hafter, rfl⟩ := (mem_trailing le_rfl).1 hsecond
      exact ⟨n, hn.2, [], after, isGroups_zero_iff.2 rfl, hafter, rfl⟩
    · exact ⟨0, Nat.zero_le d, [], [], isGroups_zero_iff.2 rfl, isGroups_zero_iff.2 rfl, rfl⟩
  · rintro ⟨n, hn, before, after, hbefore, hafter, rfl⟩
    obtain rfl := isGroups_zero_iff.1 hbefore
    refine ⟨[':'], rfl, ':' :: after, ?_, rfl⟩
    cases n with
    | zero =>
      rw [isGroups_zero_iff.1 hafter]
      exact .inr rfl
    | succ n => exact .inl ((mem_trailing le_rfl).2 ⟨n + 1, after, ⟨by omega, hn⟩, hafter, rfl⟩)

/-- The nine alternatives of version six cover eight groups and every gap in up to seven. -/
lemma mem_ipv6 : cs ∈ ipv6 ↔ IsIpv6 cs := by
  have height : cs ∈ leading 7 7 * group ↔ IsGroups 8 cs := by
    rw [leading, times_self, mem_pow_mul_group]
  have hlast : char ':' * group = trailing 1 1 := by rw [trailing, times_self, pow_one]
  have hfirst : group * char ':' = leading 1 1 := by rw [leading, times_self, pow_one]
  simp only [ipv6, hlast, hfirst, Language.mem_add, height, mem_leading_mul_char le_rfl,
    mem_leading_mul_trailing le_rfl le_rfl, mem_char_mul_trailing, isIpv6_iff_isGap, or_assoc]
  refine or_congr_right ?_
  constructor
  · rintro (⟨m, hm, h⟩ | ⟨m, n, hm, hn, h⟩ | ⟨m, n, hm, hn, h⟩ | ⟨m, n, hm, hn, h⟩ |
      ⟨m, n, hm, hn, h⟩ | ⟨m, n, hm, hn, h⟩ | ⟨m, n, hm, hn, h⟩ | ⟨n, hn, h⟩)
    · exact ⟨m, 0, by omega, h⟩
    · exact ⟨m, n, by omega, h⟩
    · exact ⟨m, n, by omega, h⟩
    · exact ⟨m, n, by omega, h⟩
    · exact ⟨m, n, by omega, h⟩
    · exact ⟨m, n, by omega, h⟩
    · exact ⟨m, n, by omega, h⟩
    · exact ⟨0, n, by omega, h⟩
  · rintro ⟨m, n, hcount, h⟩
    by_cases hm : m = 0
    · subst hm
      exact .inr (.inr (.inr (.inr (.inr (.inr (.inr ⟨n, by omega, h⟩))))))
    -- with groups on both sides, those after the gap tell the alternative
    have hn : n = 0 ∨ n = 1 ∨ n = 2 ∨ n = 3 ∨ n = 4 ∨ n = 5 ∨ n = 6 := by omega
    rcases hn with rfl | rfl | rfl | rfl | rfl | rfl | rfl
    · exact .inl ⟨m, by omega, h⟩
    · exact .inr (.inl ⟨m, 1, by omega, by omega, h⟩)
    · exact .inr (.inr (.inl ⟨m, 2, by omega, by omega, h⟩))
    · exact .inr (.inr (.inr (.inl ⟨m, 3, by omega, by omega, h⟩)))
    · exact .inr (.inr (.inr (.inr (.inl ⟨m, 4, by omega, by omega, h⟩))))
    · exact .inr (.inr (.inr (.inr (.inr (.inl ⟨m, 5, by omega, by omega, h⟩)))))
    · exact .inr (.inr (.inr (.inr (.inr (.inr (.inl ⟨m, 6, by omega, by omega, h⟩))))))

/-! ### Numbers -/

/-- A digit of a value between two bounds. -/
def IsDigitIn (least most : Nat) (c : Char) : Prop :=
  c.isDigit = true ∧ least ≤ Text.digitValue c ∧ Text.digitValue c ≤ most

/-- The texts of a digit are those of one digit between the bounds. -/
lemma mem_digit {least most : Nat} :
    cs ∈ digit least most ↔ ∃ c, IsDigitIn least most c ∧ cs = [c] := by
  simp [digit, mem_one, IsDigitIn, and_assoc]

/-- A digit in front of an expression is the first character of its texts. -/
lemma mem_digit_mul {least most : Nat} :
    cs ∈ digit least most * l ↔ ∃ c rest, IsDigitIn least most c ∧ rest ∈ l ∧ cs = c :: rest := by
  rw [Language.mem_mul]
  constructor
  · rintro ⟨first, hfirst, rest, hrest, rfl⟩
    obtain ⟨c, hc, rfl⟩ := mem_digit.1 hfirst
    exact ⟨c, rest, hc, hrest, rfl⟩
  · rintro ⟨c, rest, hc, hrest, rfl⟩
    exact ⟨[c], mem_digit.2 ⟨c, hc, rfl⟩, rest, hrest, rfl⟩

/-- Every digit has a value up to nine. -/
lemma isDigitIn_nine {c : Char} : IsDigitIn 0 9 c ↔ c.isDigit = true := by
  constructor
  · exact fun h => h.1
  · intro h
    have hlt := (Json.Numeral.digitChar_digitValue h).2
    exact ⟨h, Nat.zero_le _, by omega⟩

/-- A digit between bounds is a digit from zero to nine. -/
lemma IsDigitIn.nine {least most : Nat} {c : Char} (h : IsDigitIn least most c) :
    IsDigitIn 0 9 c :=
  isDigitIn_nine.2 h.1

/-- The digit of a number has this number as its value. -/
lemma isDigitIn_digitChar {least most n : Nat} (h : (least ≤ n ∧ n ≤ most) ∧ n ≤ 9) :
    IsDigitIn least most (Nat.digitChar n) := by
  have hdigit : ∀ n ≤ 9, (Nat.digitChar n).isDigit = true ∧
      Text.digitValue (Nat.digitChar n) = n := by decide
  obtain ⟨hisDigit, hvalue⟩ := hdigit n h.2
  exact ⟨hisDigit, by omega, by omega⟩

/-- The value of two digits. -/
lemma digitsValue_pair {x y : Char} :
    Text.digitsValue [x, y] = 10 * Text.digitValue x + Text.digitValue y := by
  simp [Text.digitsValue, mul_comm]

/-- The value of three digits. -/
lemma digitsValue_triple {x y z : Char} :
    Text.digitsValue [x, y, z] =
      100 * Text.digitValue x + 10 * Text.digitValue y + Text.digitValue z := by
  simp only [Text.digitsValue, List.foldl_cons, List.foldl_nil]
  omega

/-- One or two digits are always a field. -/
lemma isField_of_length_le {cs : List Char} (hlength : cs.length = 1 ∨ cs.length = 2)
    (hdigits : ∀ c ∈ cs, IsDigitIn 0 9 c) : IsField cs := by
  refine ⟨by omega, fun c hc => (hdigits c hc).1, ?_⟩
  rcases hlength with hlength | hlength
  · obtain ⟨x, rfl⟩ := List.length_eq_one_iff.1 hlength
    have hx := (hdigits x (by simp)).2
    simp only [Text.digitsValue, List.foldl_cons, List.foldl_nil]
    omega
  · obtain ⟨x, y, rfl⟩ := List.length_eq_two.1 hlength
    have hx := (hdigits x (by simp)).2
    have hy := (hdigits y (by simp)).2
    rw [digitsValue_pair]
    omega

/-- Three digits are a field when their number is. -/
lemma isField_three_iff {x y z : Char} :
    IsField [x, y, z] ↔ (IsDigitIn 0 9 x ∧ IsDigitIn 0 9 y ∧ IsDigitIn 0 9 z) ∧
      100 * Text.digitValue x + 10 * Text.digitValue y + Text.digitValue z ≤ 255 := by
  simp [IsField, digitsValue_triple, isDigitIn_nine]

/-- The alternatives for a field are the numbers of one to three digits up to 255. -/
lemma mem_field : cs ∈ field ↔ IsField cs := by
  simp only [field, optional, add_mul, mul_add, one_mul, mul_one, mul_assoc, Language.mem_add,
    mem_digit_mul, mem_digit]
  constructor
  · rintro ((⟨x, _, hx, ⟨y, _, hy, ⟨z, hz, rfl⟩, rfl⟩, rfl⟩ |
      ⟨x, _, hx, ⟨y, _, hy, ⟨z, hz, rfl⟩, rfl⟩, rfl⟩) |
      ((⟨x, hx, rfl⟩ | ⟨x, _, hx, ⟨y, hy, rfl⟩, rfl⟩) |
        ⟨x, _, hx, ⟨y, hy, rfl⟩, rfl⟩ | ⟨x, _, hx, ⟨y, _, hy, ⟨z, hz, rfl⟩, rfl⟩, rfl⟩))
    · obtain ⟨hx', hy', hz'⟩ := And.intro hx.2 (And.intro hy.2 hz.2)
      exact isField_three_iff.2 ⟨⟨hx.nine, hy.nine, hz.nine⟩, by omega⟩
    · obtain ⟨hx', hy', hz'⟩ := And.intro hx.2 (And.intro hy.2 hz.2)
      exact isField_three_iff.2 ⟨⟨hx.nine, hy.nine, hz.nine⟩, by omega⟩
    · exact isField_of_length_le (.inl rfl) (by simpa using hx)
    · exact isField_of_length_le (.inr rfl) (by simpa using ⟨hx.nine, hy⟩)
    · exact isField_of_length_le (.inr rfl) (by simpa using ⟨hx, hy⟩)
    · obtain ⟨hx', hy', hz'⟩ := And.intro hx.2 (And.intro hy.2 hz.2)
      exact isField_three_iff.2 ⟨⟨hx.nine, hy.nine, hz.nine⟩, by omega⟩
  · intro h
    rcases cs with _ | ⟨x, _ | ⟨y, _ | ⟨z, _ | ⟨w, rest⟩⟩⟩⟩
    · simp [IsField] at h
    · have hx := isDigitIn_nine.2 (h.2.1 x (by simp))
      exact .inr (.inl (.inl ⟨x, hx, rfl⟩))
    · have hx := isDigitIn_nine.2 (h.2.1 x (by simp))
      have hy := isDigitIn_nine.2 (h.2.1 y (by simp))
      exact .inr (.inr (.inl ⟨x, _, hx, ⟨y, hy, rfl⟩, rfl⟩))
    · obtain ⟨⟨hx, hy, hz⟩, hvalue⟩ := isField_three_iff.1 h
      -- the first digits tell the alternative
      by_cases hone : Text.digitValue x ≤ 1
      · exact .inr (.inr (.inr
          ⟨x, _, ⟨hx.1, Nat.zero_le _, hone⟩, ⟨y, _, hy, ⟨z, hz, rfl⟩, rfl⟩, rfl⟩))
      · have htwo : IsDigitIn 2 2 x := ⟨hx.1, by omega, by omega⟩
        by_cases hfour : Text.digitValue y ≤ 4
        · exact .inl (.inr
            ⟨x, _, htwo, ⟨y, _, ⟨hy.1, Nat.zero_le _, hfour⟩, ⟨z, hz, rfl⟩, rfl⟩, rfl⟩)
        · have hfive : IsDigitIn 5 5 y := ⟨hy.1, by omega, by omega⟩
          have hlast : IsDigitIn 0 5 z := ⟨hz.1, Nat.zero_le _, by omega⟩
          exact .inl (.inl ⟨x, _, htwo, ⟨y, _, hfive, ⟨z, hlast, rfl⟩, rfl⟩, rfl⟩)
    · have hlength := h.1.2
      simp only [List.length_cons] at hlength
      omega

/-- Digits with a first one that is not zero are the numeral of their number. -/
lemma isNumeral_of_digits {bound : Nat} {first : Char} {rest : List Char}
    (hfirst : IsDigitIn 1 9 first) (hrest : ∀ c ∈ rest, IsDigitIn 0 9 c)
    (hvalue : Text.digitsValue (first :: rest) ≤ bound) : IsNumeral bound (first :: rest) := by
  refine isNumeral_iff.2 ⟨⟨by simp, ?_⟩, ?_, hvalue⟩
  · exact List.forall_mem_cons.2 ⟨hfirst.1, fun c hc => (hrest c hc).1⟩
  · intro hhead
    obtain rfl : first = '0' := by simpa using hhead
    exact absurd hfirst.2.1 (by decide)

/-- A single digit is a numeral. -/
lemma isNumeral_of_digit {bound : Nat} {c : Char} (hc : IsDigitIn 0 9 c) (hbound : 9 ≤ bound) :
    IsNumeral bound [c] := by
  refine isNumeral_iff.2 ⟨⟨by simp, by simpa using hc.1⟩, by simp, ?_⟩
  have hnine := hc.2.2
  simp only [Text.digitsValue, List.foldl_cons, List.foldl_nil]
  omega

/-- The digits of a number below a hundred. -/
lemma toDigits_eq_pair {n : Nat} (hten : 10 ≤ n) (hundred : n < 100) :
    Nat.toDigits 10 n = [Nat.digitChar (n / 10), Nat.digitChar (n % 10)] := by
  rw [Nat.toDigits_of_base_le (by decide) hten, Nat.toDigits_of_lt_base (by omega)]
  rfl

/-- The alternatives for the length of version six are the numerals up to 128. -/
lemma mem_length128 : cs ∈ length128 ↔ IsNumeral 128 cs := by
  simp only [length128, optional, add_mul, one_mul, mul_assoc, Language.mem_add,
    mem_digit_mul, mem_digit]
  constructor
  · rintro ((⟨x, _, hx, ⟨y, _, hy, ⟨z, hz, rfl⟩, rfl⟩, rfl⟩ |
      ⟨x, _, hx, ⟨y, _, hy, ⟨z, hz, rfl⟩, rfl⟩, rfl⟩) |
      ⟨x, hx, rfl⟩ | ⟨x, _, hx, ⟨y, hy, rfl⟩, rfl⟩)
    · obtain ⟨hx', hy', hz'⟩ := And.intro hx.2 (And.intro hy.2 hz.2)
      refine isNumeral_of_digits ⟨hx.1, by omega⟩ (by simpa using ⟨hy.nine, hz.nine⟩) ?_
      rw [digitsValue_triple]
      omega
    · obtain ⟨hx', hy', hz'⟩ := And.intro hx.2 (And.intro hy.2 hz.2)
      refine isNumeral_of_digits ⟨hx.1, by omega⟩ (by simpa using ⟨hy.nine, hz.nine⟩) ?_
      rw [digitsValue_triple]
      omega
    · exact isNumeral_of_digit hx (by decide)
    · obtain ⟨hx', hy'⟩ := And.intro hx.2 hy.2
      refine isNumeral_of_digits hx (by simpa using hy) ?_
      rw [digitsValue_pair]
      omega
  · rintro ⟨n, hn, rfl⟩
    by_cases hten : n < 10
    · rw [Nat.toDigits_of_lt_base hten]
      exact .inr (.inl ⟨_, isDigitIn_digitChar (by omega), rfl⟩)
    by_cases hundred : n < 100
    · rw [toDigits_eq_pair (by omega) hundred]
      exact .inr (.inr ⟨_, _, isDigitIn_digitChar (by omega),
        ⟨_, isDigitIn_digitChar (by omega), rfl⟩, rfl⟩)
    · -- the first digit is one, and the second tells the alternative
      rw [Nat.toDigits_of_base_le (by decide) (by omega), toDigits_eq_pair (by omega) (by omega)]
      by_cases htwo : n < 120
      · exact .inl (.inr ⟨_, _, isDigitIn_digitChar (by omega),
          ⟨_, _, isDigitIn_digitChar (by omega),
            ⟨_, isDigitIn_digitChar (by omega), rfl⟩, rfl⟩, rfl⟩)
      · exact .inl (.inl ⟨_, _, isDigitIn_digitChar (by omega),
          ⟨_, _, isDigitIn_digitChar (by omega),
            ⟨_, isDigitIn_digitChar (by omega), rfl⟩, rfl⟩, rfl⟩)

/-- The alternatives for the length of version four are the numerals up to 32. -/
lemma mem_length32 : cs ∈ length32 ↔ IsNumeral 32 cs := by
  simp only [length32, optional, add_mul, one_mul, Language.mem_add, mem_digit_mul, mem_digit]
  constructor
  · rintro (⟨x, _, hx, ⟨y, hy, rfl⟩, rfl⟩ | ⟨x, hx, rfl⟩ | ⟨x, _, hx, ⟨y, hy, rfl⟩, rfl⟩)
    · obtain ⟨hx', hy'⟩ := And.intro hx.2 hy.2
      refine isNumeral_of_digits ⟨hx.1, by omega⟩ (by simpa using hy.nine) ?_
      rw [digitsValue_pair]
      omega
    · exact isNumeral_of_digit hx (by decide)
    · obtain ⟨hx', hy'⟩ := And.intro hx.2 hy.2
      refine isNumeral_of_digits ⟨hx.1, by omega⟩ (by simpa using hy) ?_
      rw [digitsValue_pair]
      omega
  · rintro ⟨n, hn, rfl⟩
    by_cases hten : n < 10
    · rw [Nat.toDigits_of_lt_base hten]
      exact .inr (.inl ⟨_, isDigitIn_digitChar (by omega), rfl⟩)
    · rw [toDigits_eq_pair (by omega) (by omega)]
      by_cases hthirty : n < 30
      · exact .inr (.inr ⟨_, _, isDigitIn_digitChar (by omega),
          ⟨_, isDigitIn_digitChar (by omega), rfl⟩, rfl⟩)
      · exact .inl ⟨_, _, isDigitIn_digitChar (by omega),
          ⟨_, isDigitIn_digitChar (by omega), rfl⟩, rfl⟩

/-! ### Addresses of version four, networks and hardware addresses -/

/-- The expression of version four describes the addresses of version four. -/
lemma mem_ipv4 : cs ∈ ipv4 ↔ IsIpv4 cs := by
  rw [ipv4, times_self, mem_pow_mul]
  simp only [mem_field, IsIpv4]

/-- A network is expressed as its address and its length are. -/
lemma mem_network {address length : Language Char} {IsAddress : List Char → Prop} {bound : Nat}
    (haddress : ∀ cs, cs ∈ address ↔ IsAddress cs)
    (hlength : ∀ cs, cs ∈ length ↔ IsNumeral bound cs) :
    cs ∈ address * char '/' * length ↔ IsNetwork IsAddress bound cs := by
  constructor
  · rintro ⟨_, ⟨front, hfront, _, rfl, rfl⟩, back, hback, rfl⟩
    exact ⟨front, back, (haddress front).1 hfront, (hlength back).1 hback, by simp⟩
  · rintro ⟨front, back, hfront, hback, rfl⟩
    exact ⟨front ++ ['/'], ⟨front, (haddress front).2 hfront, ['/'], rfl, rfl⟩, back,
      (hlength back).2 hback, by simp⟩

/-- The expression of a pair describes the pairs of hexadecimal digits. -/
lemma mem_pair : cs ∈ pair ↔ IsPair cs := by
  rw [pair, times_self, mem_one_pow, IsPair]

/-- Pairs with a divider behind each but the last. -/
lemma mem_pow_mul_pair {n : Nat} :
    cs ∈ (pair * one fun c => c = ':' || c = '-') ^ n * pair ↔ IsPairs n cs := by
  induction n generalizing cs with
  | zero => rw [pow_zero, one_mul, mem_pair, isPairs_zero_iff]
  | succ n ih =>
    rw [pow_succ', mul_assoc, isPairs_succ_iff]
    constructor
    · rintro ⟨_, ⟨first, hfirst, _, ⟨divider, hdivider, rfl⟩, rfl⟩, rest, hrest, rfl⟩
      obtain ⟨high, low, hhigh, hlow, rfl⟩ := isPair_iff.1 (mem_pair.1 hfirst)
      exact ⟨high, low, divider, rest, hhigh, hlow, by simpa using hdivider, ih.1 hrest, rfl⟩
    · rintro ⟨high, low, divider, rest, hhigh, hlow, hdivider, hrest, rfl⟩
      have hpair : [high, low] ∈ pair := mem_pair.2 (isPair_iff.2 ⟨high, low, hhigh, hlow, rfl⟩)
      exact ⟨[high, low, divider], ⟨[high, low], hpair, [divider],
        ⟨divider, by simpa using hdivider, rfl⟩, rfl⟩, rest, ih.2 hrest, rfl⟩

/-- The expression of hardware addresses describes them. -/
lemma mem_mac : cs ∈ mac ↔ IsMac cs := by
  rw [mac, times_self, mem_pow_mul_pair, IsMac]

end Form

end Address

namespace Shape

open Address.Form

/-- The expressions and the grammar have the same texts. -/
lemma mem_form_iff_spells {shape : Shape} {cs : List Char} :
    cs ∈ shape.form ↔ shape.Spells cs := by
  cases shape with
  | ipv6 => exact mem_ipv6
  | ipv6Cidr => exact mem_network (fun _ => mem_ipv6) (fun _ => mem_length128)
  | ipv4 => exact mem_ipv4
  | ipv4Cidr => exact mem_network (fun _ => mem_ipv4) (fun _ => mem_length32)
  | mac => exact mem_mac

/-- The shape of a text is the one whose grammar it is of, and it has none if it is of no
grammar.  The grammar of a shape is that of its expression: the nine alternatives of version six
leave out no gap in up to seven groups, and the ranges of digits leave out no number. -/
theorem ofText?_eq_some_iff_spells (text : String) :
    (∀ shape, ofText? text = some shape ↔ shape.Spells text.toList) ∧
      (ofText? text = none ↔ ∀ shape : Shape, ¬shape.Spells text.toList) ∧
      ∀ shape : Shape, shape.Spells text.toList ↔ text.toList ∈ shape.form := by
  have hsome : ∀ shape, ofText? text = some shape ↔ shape.Spells text.toList := by
    intro shape
    have hmem : shape ∈ all := by cases shape <;> decide
    rw [ofText?, firstOf?_eq_some_iff, and_iff_right hmem]
  refine ⟨hsome, ?_, fun shape => mem_form_iff_spells.symm⟩
  rw [Option.eq_none_iff_forall_ne_some]
  exact forall_congr' fun shape => not_congr (hsome shape)

-- seven groups before the gap, and one before it with six behind it
example : ofText? "1:2:3:4:5:6:7::" = some .ipv6 ∧ ofText? "1::2:3:4:5:6:7" = some .ipv6 ∧
    ofText? "1:2:3:4:5:6:7:8::" = none ∧ ofText? "::1::" = none := by decide +kernel

-- the ends of the ranges of digits
example : ofText? "249.250.255.0/32" = some .ipv4Cidr ∧ ofText? "256.0.0.1" = none ∧
    ofText? "::/128" = some .ipv6Cidr ∧ ofText? "::/129" = none := by decide +kernel

/-! ### The order of the shapes -/

/-- The expressions of two shapes have no text in common. -/
lemma eq_of_mem_form {shape other : Shape} {cs : List Char} (h : cs ∈ shape.form)
    (hother : cs ∈ other.form) : shape = other := by
  rw [mem_form_iff_spells] at h hother
  exact h.unique hother

/-- Lists with the same shapes, in whatever order, give a text the same one. -/
lemma firstOf?_congr {shapes others : List Shape} (h : ∀ shape, shape ∈ shapes ↔ shape ∈ others)
    (text : String) : firstOf? shapes text = firstOf? others text := by
  apply Option.ext
  intro shape
  rw [firstOf?_eq_some_iff, firstOf?_eq_some_iff, h shape]

/-- A text is of the expression of one shape at most, so the shapes may be tried in any order: what
recognizes a text first is what recognizes it. -/
theorem firstOf?_eq_ofText?_of_perm (text : String) :
    (∀ shape other : Shape, text.toList ∈ shape.form → text.toList ∈ other.form →
        shape = other) ∧
      (∀ shape : Shape, shape.recognizes text.toList = true ↔ text.toList ∈ shape.form) ∧
      ∀ shapes : List Shape, shapes.Perm all → firstOf? shapes text = ofText? text := by
  refine ⟨fun shape other => eq_of_mem_form, ?_, ?_⟩
  · intro shape
    rw [recognizes_iff_spells, mem_form_iff_spells]
  · intro shapes hperm
    exact firstOf?_congr (fun shape => hperm.mem_iff) text

/-- A hardware address with colons is of no other shape, also when version six is tried last. -/
theorem firstOf?_eq_ofText?_of_perm_reverse :
    (∀ other : Shape, "00:1a:2b:3c:4d:5e".toList ∈ other.form → Shape.mac = other) ∧
      firstOf? [.mac, .ipv4Cidr, .ipv4, .ipv6Cidr, .ipv6] "00:1a:2b:3c:4d:5e" =
        ofText? "00:1a:2b:3c:4d:5e" := by
  obtain ⟨hunique, hrecognizes, horder⟩ := firstOf?_eq_ofText?_of_perm "00:1a:2b:3c:4d:5e"
  have hmac : "00:1a:2b:3c:4d:5e".toList ∈ Shape.mac.form :=
    (hrecognizes .mac).1 (by decide +kernel)
  exact ⟨fun other => hunique .mac other hmac, horder _ (by decide)⟩

end Shape

end PatternSql
