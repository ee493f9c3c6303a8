import PatternSql.Text.Cluster

/-!
# Erasure

A backspace in a typed line takes back the cluster before it.  The size of a cluster is
kept in a single byte, so of a cluster of 256 bytes or more only what exceeds a multiple
of 256 is taken back, from the end; when that would cut a character in two, the line has
no erased form.  A line without a backspace is its own erased form.
-/

namespace PatternSql

namespace Text

/-- The backspace. -/
def backspace : Char := '\x08'

/-- The number of bytes of a text in UTF-8. -/
def byteCount (cs : List Char) : Nat :=
  cs.foldr (fun c count => c.utf8Size + count) 0

/-- Drop characters of a number of bytes altogether, or nothing if they end within a character. -/
def dropBytes? : Nat → List Char → Option (List Char)
  | _, [] => some []
  | count, c :: rest =>
    if count = 0 then some (c :: rest)
    else if c.utf8Size ≤ count then dropBytes? (count - c.utf8Size) rest
    else none

/-- A line as far as it is typed. -/
structure Draft where
  /-- The characters, last one first. -/
  typed : List Char
  /-- The sizes of the clusters that can be taken back, last one first. -/
  sizes : List Nat

namespace Draft

/-- The draft of a line before anything is typed. -/
def empty : Draft where
  typed := []
  sizes := []

/-- Take back the last cluster, if there is one. -/
def erase? (draft : Draft) : Option Draft :=
  match draft.sizes with
  | [] => some draft
  | size :: sizes => (dropBytes? size draft.typed).map fun typed => { typed, sizes }

/-- Type a cluster. -/
def put (draft : Draft) (cluster : List Char) : Draft where
  typed := cluster.reverse ++ draft.typed
  sizes := byteCount cluster % 256 :: draft.sizes

/-- Go on with a cluster, which may be a backspace. -/
def next? (draft : Draft) (cluster : List Char) : Option Draft :=
  if cluster = [backspace] then draft.erase? else some (draft.put cluster)

/-- Go on with clusters one after the other. -/
def run? (draft : Draft) : List (List Char) → Option Draft
  | [] => some draft
  | cluster :: rest => (draft.next? cluster).bind (run? · rest)

/-- Clusters without a backspace are typed as they stand. -/
theorem typed_run? (draft : Draft) (parts : List (List Char)) (h : [backspace] ∉ parts) :
    (draft.run? parts).map Draft.typed = some (parts.flatten.reverse ++ draft.typed) := by
  induction parts generalizing draft with
  | nil => rfl
  | cons part rest ih =>
    obtain ⟨hpart, hrest⟩ := not_or.1 (mt List.mem_cons.2 h)
    rw [run?, next?, if_neg (Ne.symm hpart), Option.bind_some, ih _ hrest]
    simp [put]

end Draft

/-- A line with its backspaces carried out. -/
def erased? (line : List Char) : Option (List Char) :=
  (Draft.empty.run? (clusters line)).map fun draft => draft.typed.reverse

/-- A line without a backspace stays as it is. -/
theorem erased?_of_notMem {line : List Char} (h : backspace ∉ line) :
    erased? line = some line := by
  have hparts : [backspace] ∉ clusters line := by
    intro hmem
    apply h
    rw [← flatten_clusters line]
    exact List.mem_flatten.2 ⟨_, hmem, List.mem_singleton_self _⟩
  have htyped := Draft.typed_run? .empty (clusters line) hparts
  rw [flatten_clusters] at htyped
  obtain ⟨draft, hdraft, htext⟩ := Option.map_eq_some_iff.1 htyped
  rw [erased?, hdraft, Option.map_some, htext]
  simp [Draft.empty]

end Text

end PatternSql
