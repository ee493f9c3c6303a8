import PatternSql.Text.ClusterClass

/-!
# Clusters

The cut of a text into clusters, by the rules of Unicode for extended grapheme clusters.
Whether a character continues the cluster before it is decided by its class and by the
classes before it, of which only a last run is looked at: the marks after a consonant or
a pictograph, or the letters of flags.  The clusters of a text, put together, are the text.
-/

namespace PatternSql

namespace Text

namespace ClusterClass

/-- Controls and line ends, which no cluster goes across. -/
def isBarrier : ClusterClass → Bool
  | .control | .carriageReturn | .lineFeed => true
  | _ => false

/-- The marks without a width, the joiner apart. -/
def isMark : ClusterClass → Bool
  | .mark | .linker | .nonJoiner => true
  | _ => false

/-- The marks that may stand within a conjunct. -/
def isConjunctMark : ClusterClass → Bool
  | .mark | .linker | .joiner => true
  | _ => false

/-- Whether two parts of a Hangul syllable follow each other in one syllable. -/
def inSyllable : ClusterClass → ClusterClass → Bool
  | .leading, .leading | .leading, .vowel | .leading, .openSyllable | .leading, .closedSyllable
  | .openSyllable, .vowel | .openSyllable, .trailing | .vowel, .vowel | .vowel, .trailing
  | .closedSyllable, .trailing | .trailing, .trailing => true
  | _, _ => false

/-- Whether a text ends in a consonant and marks, a linker among them; here and below the
classes of a text come last one first. -/
def endsLinked (before : List ClusterClass) : Bool :=
  (before.takeWhile isConjunctMark).contains .linker &&
    (before.dropWhile isConjunctMark).head? == some .consonant

/-- Whether a text ends in a pictograph, marks and a joiner. -/
def endsJoined : List ClusterClass → Bool
  | .joiner :: before => (before.dropWhile isMark).head? == some .pictograph
  | _ => false

/-- Whether a text ends in an odd number of letters of flags, so that the last is one half of
a flag. -/
def endsInHalfFlag (before : List ClusterClass) : Bool :=
  (before.takeWhile (· == .regional)).length % 2 == 1

/-- Whether a character of a class continues the last cluster of a text. -/
def continues (before : List ClusterClass) (next : ClusterClass) : Bool :=
  match before with
  | [] => false
  | last :: _ =>
    if last.isBarrier || next.isBarrier then last == .carriageReturn && next == .lineFeed
    else
      next.isMark || next == .joiner || next == .spacing || last == .prepend ||
        inSyllable last next ||
        (next == .consonant && endsLinked before) ||
        (next == .pictograph && endsJoined before) ||
        (next == .regional && endsInHalfFlag before)

end ClusterClass

/-- What continues the last cluster of the text before, and the clusters after it. -/
def clustersAfter (before : List ClusterClass) : List Char → List Char × List (List Char)
  | [] => ([], [])
  | c :: rest =>
    let kind := ClusterClass.ofChar c
    let after := clustersAfter (kind :: before) rest
    if ClusterClass.continues before kind then (c :: after.1, after.2)
    else ([], (c :: after.1) :: after.2)

/-- The clusters of a text. -/
def clusters (cs : List Char) : List (List Char) :=
  (clustersAfter [] cs).2

/-- Nothing is lost at the cuts. -/
theorem clustersAfter_append_flatten (before : List ClusterClass) (cs : List Char) :
    (clustersAfter before cs).1 ++ (clustersAfter before cs).2.flatten = cs := by
  induction cs generalizing before with
  | nil => rfl
  | cons c rest ih =>
    have h := ih (ClusterClass.ofChar c :: before)
    simp only [clustersAfter]
    split <;> simp [h]

/-- No character continues a cluster at the beginning of a text. -/
theorem clustersAfter_nil_fst (cs : List Char) : (clustersAfter [] cs).1 = [] := by
  cases cs <;> rfl

/-- The clusters of a text, put together, are the text. -/
theorem flatten_clusters (cs : List Char) : (clusters cs).flatten = cs := by
  have h := clustersAfter_append_flatten [] cs
  rwa [clustersAfter_nil_fst, List.nil_append] at h

end Text

end PatternSql
