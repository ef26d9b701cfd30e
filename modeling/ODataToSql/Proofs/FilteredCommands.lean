import ODataToSql.Proofs.CommandGrammar
import ODataToSql.Proofs.QuotedSegments

/-!
# Commands that filter their rows

Main statement: `Translation.isFiltered_iff_of_segmented`. A base command has a `WHERE` of its own
just if the word stands in its plain text, and what is quoted in it makes no difference.
-/

namespace ODataToSql

namespace Text.Keyword

/-- Beside the letters that two other characters fold to, folding is the lower case of ASCII. -/
lemma fold_eq_iff_toLower {c k : Char} (hk : k.isAlpha = true) (hs : k ≠ 's') (hkelvin : k ≠ 'k') :
    fold c = k ↔ c.toLower = k := by
  unfold fold
  split
  · next hc =>
    rw [hc]
    exact iff_of_false (Ne.symm hs) fun h => by rw [← h] at hk; cases hk
  · split
    · next hc =>
      rw [hc]
      exact iff_of_false (Ne.symm hkelvin) fun h => by rw [← h] at hk; cases hk
    · exact Iff.rfl

lemma spells_where_iff {word : List Char} :
    Spells "WHERE".toList word ↔ word.map Char.toLower = "where".toList := by
  have hletters : ∀ k ∈ "where".toList, k.isAlpha = true ∧ k ≠ 's' ∧ k ≠ 'k' := by simp
  have hfold : "WHERE".toList.map fold = "where".toList := by decide
  rw [Spells, hfold]
  generalize "where".toList = letters at hletters
  induction word generalizing letters with
  | nil => rfl
  | cons c word ih =>
    cases letters with
    | nil => simp
    | cons k letters =>
      obtain ⟨⟨hk, hs, hkelvin⟩, hletters⟩ := List.forall_mem_cons.1 hletters
      rw [List.map_cons, List.map_cons, List.cons.injEq, List.cons.injEq]
      exact and_congr (fold_eq_iff_toLower hk hs hkelvin) (ih letters hletters)

lemma isLetters_where : IsLetters "WHERE".toList := ⟨by decide, List.all_eq_true.1 (by decide)⟩

end Text.Keyword

namespace Translation

open Text

/-- The mark of a base command says whether `WHERE` is found in its masked text. -/
lemma isFiltered_eq {command : String} {base : BaseCommand} (h : baseCommand command = .ok base) :
    base.isFiltered = Keyword.containsWord "WHERE".toList (maskQuoted (trim command.toList)) := by
  obtain ⟨_, _, _, _, _, _, _, _, _, rfl⟩ :=
    BaseCommand.ofText?_eq_some_iff.1 (baseCommand_eq_ok_iff.1 h)
  rfl

/-- A base command in segments filters its rows just if in some stretch of its plain text there are
the letters `WHERE` between two boundaries. The characters around a stretch are brackets and quotes,
where words end, so that a boundary of the stretch is one of the command. It makes no difference
what stands in the names and the literals. -/
theorem isFiltered_iff_of_segmented {command : String} {base : BaseCommand}
    {segments : List Segment} (hbase : baseCommand command = .ok base)
    (hsegmented : Segmented segments) (htext : textOf segments = trim command.toList) :
    (base.isFiltered = true ↔ ∃ stretch ∈ stretches segments, ∃ before word after : List Char,
      stretch = before ++ word ++ after ∧ word.map Char.toLower = "where".toList ∧
      IsBoundary before (word ++ after) ∧ IsBoundary (before ++ word) after) ∧
    (∀ (other : String) (otherBase : BaseCommand) (others : List Segment),
      baseCommand other = .ok otherBase → Segmented others → textOf others = trim other.toList →
      List.Forall₂ Segment.SameOutside segments others →
      otherBase.isFiltered = base.isFiltered) := by
  constructor
  · rw [isFiltered_eq hbase, ← htext,
      containsWord_maskQuoted_iff Keyword.isLetters_where hsegmented]
    simp only [Keyword.Occurs, Keyword.spells_where_iff]
  · intro other otherBase others hother hothers htextOther hsame
    have hstretches : stretches segments = stretches others :=
      stretchesAfter_eq_of_sameOutside hsame []
    rw [isFiltered_eq hbase, isFiltered_eq hother, ← htext, ← htextOther, Bool.eq_iff_iff,
      containsWord_maskQuoted_iff Keyword.isLetters_where hsegmented,
      containsWord_maskQuoted_iff Keyword.isLetters_where hothers, hstretches]

/-- A command whose label holds the word in a name and in a literal, and which has a condition. -/
def labelledSegments : List Segment :=
  [.plain "SELECT ".toList, .literal "where it's".toList, .plain " AS ".toList,
    .identifier "Where".toList, .plain " FROM T ".toList, .plain "where ".toList,
    .identifier "x".toList, .plain "=1".toList]

/-- The same without the word in what is quoted, nor a condition that follows. -/
def unlabelledSegments : List Segment :=
  [.plain "SELECT ".toList, .literal [], .plain " AS ".toList,
    .identifier "'".toList, .plain " FROM T ".toList, .plain "where ".toList,
    .identifier " WHERE ".toList, .plain "=1".toList]

/-- The condition is found, and it is found as well with other names and literals. -/
theorem isFiltered_labelled :
    ∃ base otherBase,
      baseCommand "SELECT 'where it\x27\x27s' AS [Where] FROM T where [x]=1" = .ok base ∧
      baseCommand "SELECT '' AS ['] FROM T where [ WHERE ]=1" = .ok otherBase ∧
      base.isFiltered = true ∧ otherBase.isFiltered = base.isFiltered := by
  have hbase : baseCommand "SELECT 'where it\x27\x27s' AS [Where] FROM T where [x]=1" =
      .ok ⟨"", "'where it\x27\x27s' AS [Where]", "FROM T where [x]=1", true⟩ := by
    decide +kernel
  have hother : baseCommand "SELECT '' AS ['] FROM T where [ WHERE ]=1" =
      .ok ⟨"", "'' AS [']", "FROM T where [ WHERE ]=1", true⟩ := by
    decide +kernel
  have hlabelled : Segmented labelledSegments := by decide
  have htext : textOf labelledSegments =
      trim "SELECT 'where it\x27\x27s' AS [Where] FROM T where [x]=1".toList := by
    decide +kernel
  have hsame : List.Forall₂ Segment.SameOutside labelledSegments unlabelledSegments :=
    .cons (.plain _) (.cons (.literal _ _) (.cons (.plain _) (.cons (.identifier _ _)
      (.cons (.plain _) (.cons (.plain _) (.cons (.identifier _ _) (.cons (.plain _) .nil)))))))
  obtain ⟨hiff, hsameMark⟩ := isFiltered_iff_of_segmented hbase hlabelled htext
  refine ⟨_, _, hbase, hother, hiff.2 ?_,
    hsameMark _ _ _ hother (by decide) (by decide +kernel) hsame⟩
  exact ⟨" FROM T where ".toList, by decide, " FROM T ".toList, "where".toList, [' '],
    by decide +kernel⟩

end Translation
end ODataToSql
