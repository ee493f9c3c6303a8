import PatternSql.Proofs.Normalization
import PatternSql.Proofs.TimestampReaders
import Mathlib.Data.List.DropRight

/-!
# Decorations of timestamps

A timestamp may stand behind a `t`, between blank characters, and with single quotes anywhere in
it.  `Decorates` says on its own what such a text is: it is put together from the plain timestamp
outwards, the quotes last, so a quote may stand outside the blank characters, among them, or between
the `t` and the timestamp.

The reader takes these decorations off in the opposite order, quotes first.  Every text decorates
what is left of it (`decorates_undecorated`), and a plain timestamp is left of the texts that
decorate it (`Decorates.undecorated_eq`).  The latter rests on what a plain timestamp is not: one
with a quote, a blank end or a `t` in front would lose that as well.
-/

namespace PatternSql

namespace Text

/-! ### Blank ends -/

/-- Blank characters around a text come off, and nothing else when the text has no blank ends. -/
lemma trim_surround {before cs after : List Char} (hbefore : ∀ c ∈ before, isBlank c = true)
    (hafter : ∀ c ∈ after, isBlank c = true) (hfirst : ∀ c ∈ cs.head?, isBlank c = false)
    (hlast : ∀ c ∈ cs.getLast?, isBlank c = false) : trim (before ++ (cs ++ after)) = cs := by
  have hfront : trimStart (before ++ (cs ++ after)) = trimStart (cs ++ after) :=
    List.dropWhile_append_of_pos hbefore
  rw [trim, hfront]
  cases cs with
  | nil =>
    have hnil : trimStart after = [] := List.dropWhile_eq_nil_iff.2 hafter
    rw [List.nil_append, hnil]
    rfl
  | cons c rest =>
    have hstays : trimStart (c :: rest ++ after) = c :: rest ++ after :=
      List.dropWhile_cons_of_neg (by simp [hfirst c rfl])
    have hback : trimEnd (c :: rest ++ after) = trimEnd (c :: rest) := by
      rw [trimEnd, trimEnd, List.reverse_append,
        List.dropWhile_append_of_pos fun d hd => hafter d (List.mem_reverse.1 hd)]
    rw [hstays, hback, Timestamp.trimEnd_eq_self hlast]

/-- A text is what is left of it without its blank ends, between blank characters. -/
lemma exists_eq_append_trim (cs : List Char) :
    ∃ before after, (∀ c ∈ before, isBlank c = true) ∧ (∀ c ∈ after, isBlank c = true) ∧
      cs = before ++ (trim cs ++ after) := by
  refine ⟨cs.takeWhile isBlank, (trimStart cs).rtakeWhile isBlank, ?_, ?_, ?_⟩
  · exact fun c hc => List.mem_takeWhile_imp hc
  · exact fun c hc => List.mem_rtakeWhile_imp hc
  · have hback : trim cs ++ (trimStart cs).rtakeWhile isBlank = trimStart cs :=
      List.rdropWhile_append_rtakeWhile
    rw [hback]
    exact (List.takeWhile_append_dropWhile).symm

end Text

namespace Timestamp

open Text

/-! ### Quotes -/

/-- `WithQuotes cs ds`: the text `ds` is the text `cs` with single quotes put into it, at any
places. -/
inductive WithQuotes : List Char → List Char → Prop
  | nil : WithQuotes [] []
  | keep {cs ds : List Char} (c : Char) : WithQuotes cs ds → WithQuotes (c :: cs) (c :: ds)
  | quote {cs ds : List Char} : WithQuotes cs ds → WithQuotes cs ('\x27' :: ds)

/-- For a text without quotes, the quotes that were put into it are all that have to go. -/
lemma withQuotes_iff_filter_eq {cs ds : List Char} (hquote : '\x27' ∉ cs) :
    WithQuotes cs ds ↔ ds.filter (fun c => c != '\x27') = cs := by
  constructor
  · intro h
    induction h with
    | nil => rfl
    | keep c _ ih =>
      rw [List.mem_cons, not_or] at hquote
      rw [List.filter_cons_of_pos (by simpa using Ne.symm hquote.1), ih hquote.2]
    | quote _ ih => rw [List.filter_cons_of_neg (by simp), ih hquote]
  · rintro rfl
    clear hquote
    induction ds with
    | nil => exact .nil
    | cons c ds ih =>
      by_cases hc : c = '\x27'
      · subst hc
        rw [List.filter_cons_of_neg (by simp)]
        exact .quote ih
      · rw [List.filter_cons_of_pos (by simpa using hc)]
        exact .keep c ih

/-! ### Plain and decorated texts -/

/-- A text without decorations: no quotes, no blank ends and no `t` in front. -/
structure IsPlain (cs : List Char) : Prop where
  quote_notMem : '\x27' ∉ cs
  first : ∀ c ∈ cs.head?, isBlank c = false ∧ c ≠ 't'
  last : ∀ c ∈ cs.getLast?, isBlank c = false

/-- `Decorates cs ds`: the text `ds` is the text `cs` with a `t` put before it or not, blank
characters put around that, and quotes put into the whole. -/
def Decorates (cs ds : List Char) : Prop :=
  ∃ mark before after, (mark = [] ∨ mark = ['t']) ∧ (∀ c ∈ before, isBlank c = true) ∧
    (∀ c ∈ after, isBlank c = true) ∧ WithQuotes (before ++ (mark ++ cs ++ after)) ds

/-- A text is what is left of it without a `t` in front, behind a `t` or nothing. -/
lemma exists_eq_append_withoutMark (cs : List Char) :
    ∃ mark, (mark = [] ∨ mark = ['t']) ∧ cs = mark ++ withoutMark cs := by
  unfold withoutMark
  split
  · exact ⟨['t'], .inr rfl, rfl⟩
  · exact ⟨[], .inl rfl, rfl⟩

/-- A plain text has no mark to take off. -/
lemma IsPlain.withoutMark_eq {cs : List Char} (h : IsPlain cs) : withoutMark cs = cs := by
  unfold withoutMark
  split
  · exact absurd rfl (h.first 't' rfl).2
  · rfl

/-- A text decorates what is left of it without its decorations. -/
theorem decorates_undecorated (ds : List Char) : Decorates (undecorated ds) ds := by
  obtain ⟨before, after, hbefore, hafter, htrim⟩ :=
    exists_eq_append_trim (ds.filter fun c => c != '\x27')
  obtain ⟨mark, hmark, hwithout⟩ :=
    exists_eq_append_withoutMark (trim (ds.filter fun c => c != '\x27'))
  refine ⟨mark, before, after, hmark, hbefore, hafter, ?_⟩
  rw [undecorated_eq, ← hwithout, ← htrim]
  exact (withQuotes_iff_filter_eq (by simp)).2 rfl

/-- Of a text that decorates a plain one, the plain one is left. -/
theorem Decorates.undecorated_eq {cs ds : List Char} (h : Decorates cs ds) (hplain : IsPlain cs) :
    undecorated ds = cs := by
  obtain ⟨mark, before, after, hmark, hbefore, hafter, hquotes⟩ := h
  have hblank : ∀ {cs : List Char}, (∀ c ∈ cs, isBlank c = true) → '\x27' ∉ cs :=
    fun hcs hmem => absurd (hcs _ hmem) (by decide)
  have hfree : '\x27' ∉ before ++ (mark ++ cs ++ after) := by
    rcases hmark with rfl | rfl <;> simp [hblank hbefore, hblank hafter, hplain.quote_notMem]
  rw [Timestamp.undecorated_eq, (withQuotes_iff_filter_eq hfree).1 hquotes]
  rcases hmark with rfl | rfl
  · have hfirst : ∀ c ∈ ([] ++ cs).head?, isBlank c = false := fun c hc => (hplain.first c hc).1
    rw [trim_surround hbefore hafter hfirst hplain.last]
    exact hplain.withoutMark_eq
  · -- the mark is not blank, and it is the last character only of a mark with nothing behind it
    have hfirst : ∀ c ∈ (['t'] ++ cs).head?, isBlank c = false := by
      rintro c ⟨⟩
      rfl
    have hlast : ∀ c ∈ (['t'] ++ cs).getLast?, isBlank c = false := by
      cases cs with
      | nil =>
        rintro c ⟨⟩
        rfl
      | cons c rest => exact hplain.last
    rw [trim_surround hbefore hafter hfirst hlast]
    rfl

/-- What is left of a text without its decorations is a plain text exactly when the text decorates
this plain text. -/
theorem undecorated_eq_iff_decorates {cs ds : List Char} (hplain : IsPlain cs) :
    undecorated ds = cs ↔ Decorates cs ds := by
  constructor
  · rintro rfl
    exact decorates_undecorated ds
  · intro h
    exact h.undecorated_eq hplain

/-- Decorations make no difference to the instant of a timestamp, nor to whether it has one. -/
theorem millis_iff_of_decorates {plain text : String} (hplain : IsPlain plain.toList)
    (h : Decorates plain.toList text.toList) :
    (∀ value, Temporal.millis text = .ok value ↔ Temporal.millis plain = .ok value) ∧
      ((∃ fault, Temporal.millis text = .error fault) ↔
        ∃ fault, Temporal.millis plain = .error fault) := by
  have hmillis : millis? text = millis? plain := by
    rw [millis?, millis?, (undecorated_eq_iff_decorates hplain).2 h,
      undecorated_eq_self hplain.quote_notMem hplain.first hplain.last]
  constructor
  · intro value
    rw [Temporal.millis_eq_ok_iff, Temporal.millis_eq_ok_iff, hmillis]
  · simp only [Temporal.millis_eq_error_iff, hmillis]
    simp

/-- Quotes outside the blank characters, behind the mark and within the timestamp; and a mark with
nothing behind it. -/
theorem millis_iff_of_decorates_scattered :
    Temporal.millis "'\u3000t'2020-'01-01T00:00:00Z' '" = .ok 1577836800000 ∧
      ∃ fault, Temporal.millis "' t\u00a0'" = .error fault := by
  have hplain : IsPlain "2020-01-01T00:00:00Z".toList := by
    refine ⟨by decide, ?_, ?_⟩
    · rintro c ⟨⟩
      decide
    · rintro c ⟨⟩
      decide
  have hempty : IsPlain "".toList := ⟨by simp, by simp, by simp⟩
  have hvalue : Temporal.millis "2020-01-01T00:00:00Z" = .ok 1577836800000 := by decide
  have hfault : ∃ fault, Temporal.millis "" = .error fault := ⟨_, rfl⟩
  have hblank : isBlank ' ' = true ∧ isBlank '\u3000' = true ∧ isBlank '\u00a0' = true := by decide
  have hscattered : Decorates "2020-01-01T00:00:00Z".toList
      "'\u3000t'2020-'01-01T00:00:00Z' '".toList :=
    ⟨['t'], ['\u3000'], [' '], .inr rfl, by simp [hblank], by simp [hblank],
      (withQuotes_iff_filter_eq (by decide)).2 (by decide)⟩
  have hmark : Decorates "".toList "' t\u00a0'".toList :=
    ⟨['t'], [' '], ['\u00a0'], .inr rfl, by simp [hblank], by simp [hblank],
      (withQuotes_iff_filter_eq (by decide)).2 (by decide)⟩
  exact ⟨((millis_iff_of_decorates hplain hscattered).1 _).2 hvalue,
    (millis_iff_of_decorates hempty hmark).2.2 hfault⟩

end Timestamp

end PatternSql
