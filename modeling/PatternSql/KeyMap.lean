/-!
# Keyed maps

A finite map from texts to values, kept as the list of its entries.  Inserting
removes the entry of the same key first, so a key stands at most once and the
value found for it is the last one given.
-/

namespace PatternSql

/-- A finite map from texts to values. -/
structure KeyMap (α : Type) where
  /-- The entries, in the order of their last insertion. -/
  entries : List (String × α)

namespace KeyMap

variable {α β : Type}

/-- The map without entries. -/
def empty : KeyMap α where
  entries := []

/-- The value standing under a key. -/
def get? (m : KeyMap α) (key : String) : Option α :=
  m.entries.lookup key

/-- Put a value under a key, in place of any value standing there. -/
def insert (m : KeyMap α) (key : String) (value : α) : KeyMap α where
  entries := m.entries.filter (fun entry => entry.1 != key) ++ [(key, value)]

/-- The keys of a map. -/
def keys (m : KeyMap α) : List String :=
  m.entries.map Prod.fst

/-- Insert pairs from left to right, so that the last value of a repeated key stays. -/
def ofList (pairs : List (String × α)) : KeyMap α :=
  pairs.foldl (fun m pair => m.insert pair.1 pair.2) empty

/-- Change every value. -/
def map (f : α → β) (m : KeyMap α) : KeyMap β where
  entries := m.entries.map fun entry => (entry.1, f entry.2)

/-- Nothing stands under a key of the empty map. -/
@[simp] theorem get?_empty (key : String) : (empty : KeyMap α).get? key = none := rfl

/-- A value that stands under a key is in an entry with the key. -/
theorem mem_entries_of_get? {m : KeyMap α} {key : String} {value : α}
    (h : m.get? key = some value) : (key, value) ∈ m.entries := by
  obtain ⟨before, after, hentries, _⟩ := List.lookup_eq_some_iff.1 h
  simp [hentries]

/-- The keys of a map are those under which a value stands. -/
theorem mem_keys_iff {m : KeyMap α} {key : String} :
    key ∈ m.keys ↔ ∃ value, m.get? key = some value := by
  constructor
  · intro hkey
    cases hvalue : m.get? key with
    | some value => exact ⟨value, rfl⟩
    | none =>
      obtain ⟨entry, hentry, rfl⟩ := List.mem_map.1 hkey
      simpa using List.lookup_eq_none_iff.1 hvalue entry hentry
  · rintro ⟨value, hvalue⟩
    exact List.mem_map.2 ⟨_, mem_entries_of_get? hvalue, rfl⟩

/-- The key of an insertion becomes the last one. -/
theorem keys_insert (m : KeyMap α) (key : String) (value : α) :
    (m.insert key value).keys = m.keys.filter (fun other => other != key) ++ [key] := by
  simp [keys, insert, List.filter_map, Function.comp_def]

/-- Insertions keep the keys of a map apart. -/
theorem nodup_keys_foldl_insert (pairs : List (String × α)) {m : KeyMap α} (h : m.keys.Nodup) :
    (pairs.foldl (fun m pair => m.insert pair.1 pair.2) m).keys.Nodup := by
  induction pairs generalizing m with
  | nil => exact h
  | cons pair rest ih =>
    apply ih
    rw [keys_insert, List.nodup_append]
    exact ⟨h.filter _, by simp, by simp⟩

/-- No key of a map that is made of pairs stands twice. -/
theorem nodup_keys_ofList (pairs : List (String × α)) : (ofList pairs).keys.Nodup :=
  nodup_keys_foldl_insert pairs List.nodup_nil

/-- The entries of a key do not matter to another key. -/
theorem lookup_filter_ne {key other : String} (h : other ≠ key) (entries : List (String × α)) :
    (entries.filter (fun entry => entry.1 != key)).lookup other = entries.lookup other := by
  induction entries with
  | nil => rfl
  | cons entry rest ih =>
    obtain ⟨k, v⟩ := entry
    by_cases hkey : k = key
    · have hne : (other == key) = false := by simp [h]
      simpa [hkey, List.lookup_cons, hne] using ih
    · simp only [List.filter_cons, bne_iff_ne, ne_eq, hkey, not_false_eq_true, if_true,
        List.lookup_cons, ih]

/-- Nothing is left under a key without its entries. -/
theorem lookup_filter_self (key : String) (entries : List (String × α)) :
    (entries.filter (fun entry => entry.1 != key)).lookup key = none := by
  simp only [List.lookup_eq_none_iff, List.mem_filter, bne_iff_ne]
  exact fun entry h => fun heq => h.2 heq.symm

/-- Under the key of an insertion stands the value. -/
@[simp] theorem get?_insert_self (m : KeyMap α) (key : String) (value : α) :
    (m.insert key value).get? key = some value := by
  simp [get?, insert, List.lookup_append, lookup_filter_self]

/-- An insertion changes nothing under other keys. -/
theorem get?_insert_of_ne (m : KeyMap α) {key other : String} (h : other ≠ key) (value : α) :
    (m.insert key value).get? other = m.get? other := by
  have hne : (other == key) = false := by simpa using h
  simp [get?, insert, List.lookup_append, lookup_filter_ne h, List.lookup_cons, hne]

/-- After insertions from left to right, a key has the last value inserted under it, and without
one the value that it had before. -/
theorem get?_foldl_insert (pairs : List (String × α)) (m : KeyMap α) (key : String) :
    (pairs.foldl (fun m pair => m.insert pair.1 pair.2) m).get? key =
      (pairs.reverse.lookup key).or (m.get? key) := by
  induction pairs generalizing m with
  | nil => rfl
  | cons pair rest ih =>
    obtain ⟨k, value⟩ := pair
    rw [List.foldl_cons, ih, List.reverse_cons, List.lookup_append]
    by_cases hkey : key = k
    · simp [hkey]
    · have hne : (key == k) = false := by simpa using hkey
      simp [get?_insert_of_ne m hkey, List.lookup_cons, hne]

/-- The value found for a key is the last one given: no later pair has the key. -/
theorem get?_ofList_eq_some_iff {pairs : List (String × α)} {key : String} {value : α} :
    (ofList pairs).get? key = some value ↔
      ∃ before after, pairs = before ++ (key, value) :: after ∧ ∀ later ∈ after, later.1 ≠ key := by
  rw [ofList, get?_foldl_insert, get?_empty, Option.or_none, List.lookup_eq_some_iff]
  constructor
  · rintro ⟨after, before, hpairs, hafter⟩
    refine ⟨before.reverse, after.reverse, by simpa using congrArg List.reverse hpairs, ?_⟩
    intro later hlater
    exact (bne_iff_ne.1 (hafter later (List.mem_reverse.1 hlater))).symm
  · rintro ⟨before, after, rfl, hafter⟩
    refine ⟨after.reverse, before.reverse, by simp, ?_⟩
    intro later hlater
    exact bne_iff_ne.2 (hafter later (List.mem_reverse.1 hlater)).symm

/-- The keys of a map that is made of pairs are those of the pairs. -/
theorem mem_keys_ofList_iff {pairs : List (String × α)} {key : String} :
    key ∈ (ofList pairs).keys ↔ ∃ value, (key, value) ∈ pairs := by
  rw [mem_keys_iff]
  constructor
  · rintro ⟨value, hvalue⟩
    obtain ⟨before, after, rfl, _⟩ := get?_ofList_eq_some_iff.1 hvalue
    exact ⟨value, by simp⟩
  · rintro ⟨value, hpair⟩
    cases hfound : (ofList pairs).get? key with
    | some found => exact ⟨found, rfl⟩
    | none =>
      rw [ofList, get?_foldl_insert, get?_empty, Option.or_none] at hfound
      simpa using List.lookup_eq_none_iff.1 hfound _ (List.mem_reverse.2 hpair)

end KeyMap

end PatternSql
