import ODataToSql.Proofs.Templates
import Mathlib.Data.List.TakeDrop

/-!
# Names in their brackets

Where nothing else is known of a property, its column is its name in brackets, and the name comes
from the request. A closing bracket in it is not doubled, so what comes behind it is outside of the
brackets.

* `Naming.nameless` leaves the names out. The command that it has for a query does not depend on
  them.
* The main result is `confines_iff_of_yields`. Under the standard naming, a command is the one
  without names with each name in its place as one identifier, if and only if there is no closing
  bracket in the names that the query puts there.
-/

namespace ODataToSql

/-! ## The limit of a base command -/

/-- What is read as a keyword consists of its letters, in any case. -/
lemma Text.Keyword.fold_mem_of_strip? {keyword text rest : List Char}
    (h : strip? keyword text = some rest) :
    ∀ c ∈ text.take keyword.length, fold c ∈ keyword.map fold := by
  induction keyword generalizing text with
  | nil => simp
  | cons k keyword ih =>
    cases text with
    | nil => cases h
    | cons c text =>
      rw [strip?] at h
      by_cases hfold : fold c = fold k
      · rw [if_pos hfold] at h
        rw [List.length_cons, List.take_succ_cons, List.map_cons]
        refine List.forall_mem_cons.2 ⟨hfold ▸ List.mem_cons_self, ?_⟩
        intro d hmem
        exact List.mem_cons_of_mem _ (ih h d hmem)
      · rw [if_neg hfold] at h
        cases h

namespace BaseCommand

open Text

/-- The `TOP` of a base command consists of the keyword, of digits and of a parenthesis. -/
lemma not_mem_splitTop {c : Char} (hkeyword : Keyword.fold c ∉ "TOP(".toList.map Keyword.fold)
    (hdigit : isDecimalDigit c = false) (hclose : c ≠ ')') (text : List Char) :
    c ∉ (splitTop text).1 := by
  unfold splitTop
  cases hstrip : Keyword.strip? "TOP(".toList text with
  | none => exact List.not_mem_nil
  | some rest =>
    dsimp only
    split
    · next digit digits after hspan =>
      rw [List.span_eq_takeWhile_dropWhile, Prod.mk.injEq] at hspan
      have hdigits : c ∉ digit :: digits := by
        rw [← hspan.1]
        intro hmem
        rw [List.mem_takeWhile_imp hmem] at hdigit
        cases hdigit
      have htake : c ∉ text.take 4 := fun hmem =>
        hkeyword (Keyword.fold_mem_of_strip? hstrip c hmem)
      simp only [List.mem_append, List.mem_singleton, htake, hdigits, hclose, or_self,
        not_false_eq_true]
    · exact List.not_mem_nil

/-- Neither brackets nor quotes are part of it. -/
lemma bare_top {text : String} {base : BaseCommand} (h : ofText? text = some base) :
    Sql.Bare base.top := by
  unfold ofText? at h
  obtain ⟨afterSelect, -, h⟩ := Option.bind_eq_some_iff.1 h
  obtain ⟨_, -, h⟩ := Option.bind_eq_some_iff.1 h
  obtain ⟨split, -, h⟩ := Option.bind_eq_some_iff.1 h
  cases h
  apply Sql.bare_of_not_mem
  all_goals
    rw [String.toList_ofList]
    exact not_mem_splitTop (by decide) (by decide) (by decide) _

end BaseCommand

/-- The naming under which no column has a name. -/
def Naming.nameless {σ : Type} : Naming σ :=
  ofFunctions (fun _ => some Sql.nameless.text) fun _ => standardKey

namespace Translation

open Sql

variable {σ : Type} {command : String} {arguments : List Datum} {query : Query}
  {statement : Statement} {state after : σ}

/-! ## Standard columns -/

lemma columnOf_standard (property : Property) :
    (Naming.standard : Naming σ).columnOf property = pure (some (quoted property.name).text) := by
  have hblank : Text.isBlankText (quoted property.name).text = false := by
    have hopen : Text.isBlank '[' = false := by decide
    simp [Text.isBlankText, quoted, hopen]
  have hanswer : (some (quoted property.name).text).filter (fun text => !Text.isBlankText text) =
      some (quoted property.name).text := by
    rw [Option.filter_some, hblank]
    rfl
  show (pure ((some (quoted property.name).text).filter fun text => !Text.isBlankText text) :
    StateM σ (Option String)) = _
  rw [hanswer]

/-- The standard naming calls a property by its name in brackets. -/
lemma eq_quoted_of_calls {property : Property} {name : Column}
    (h : Calls (Naming.standard : Naming σ) property name) : name = quoted property.name :=
  congrArg Column.mk (Option.some.inj (eq_some_of_calls h)).symm

/-- So the columns of properties are their names in brackets. -/
lemma eq_map_quoted {properties : List Property} {columns : List Column}
    (h : List.Forall₂ (Calls (Naming.standard : Naming σ)) properties columns) :
    columns = (properties.map Property.name).map quoted := by
  induction h with
  | nil => rfl
  | cons hcalls hrest ih => rw [List.map_cons, List.map_cons, eq_quoted_of_calls hcalls, ih]

/-- Without their names, the standard columns are all the same. -/
lemma column_nameless (property : Property) :
    column (Naming.nameless : Naming σ) property =
      (fun _ => nameless) <$> column Naming.standard property := by
  unfold column
  by_cases hroot : property.isRoot
  · rw [if_pos hroot, if_pos hroot, columnOf_standard]
    rfl
  · rw [if_neg hroot, if_neg hroot]
    rfl

/-! ## Commands -/

section Select

variable {select : Select}

/-- Behind the source, the names of the properties that the condition mentions and of those that the
rows are sorted by are put into the command without names. -/
lemma fills_ending_of_yields
    (h : Yields (rowsSelect (Naming.standard : Naming σ) command query) state select after) :
    Fills (((query.filtered ++ query.sorted).map Property.name).map quoted)
      (select.mapColumns fun _ => nameless).ending select.ending := by
  obtain ⟨base, list, condition, keys, first, second, -, -, hcondition, hkeys, rfl⟩ :=
    yields_rowsSelect.1 h
  have hfiltered := eq_map_quoted (forall₂_of_yields_condition hcondition)
  have hsorted := eq_map_quoted (forall₂_of_yields_orderBy hkeys)
  rw [List.map_append, List.map_append, ← hfiltered, ← hsorted]
  exact fills_ending ⟨chosenTop base query, list, base.source, condition, keys, paging query⟩

/-- In front of it, they are the names of the properties that the query selects, if the base command
selects nothing. -/
lemma fills_opening_of_yields {base : BaseCommand} (hbase : baseCommand command = .ok base)
    (hcolumns : base.columns = "")
    (h : Yields (rowsSelect (Naming.standard : Naming σ) command query) state select after) :
    Fills ((query.selected.map Property.name).map quoted)
      (select.mapColumns fun _ => nameless).opening select.opening := by
  obtain ⟨base', list, condition, keys, first, second, hbase', hlist, -, -, rfl⟩ :=
    yields_rowsSelect.1 h
  obtain rfl : base = base' := Except.ok.inj (hbase.symm.trans hbase')
  have htop : ∀ text, chosenTop base query = .verbatim text → Bare text := by
    intro text htext
    unfold chosenTop at htext
    split at htext
    · unfold top at htext
      split at htext <;> cases htext
    · cases htext
      exact BaseCommand.bare_top (baseCommand_eq_ok_iff.1 hbase)
  apply fills_opening htop
  rcases yields_chosenList_of_empty hcolumns hlist with ⟨rfl, hselected⟩ | ⟨columns, rfl, hselected⟩
  · exact .inl ⟨rfl, by rw [hselected]; rfl⟩
  · exact .inr (congrArg SelectList.columns (eq_map_quoted hselected))

/-- If it does select columns, the query has no part in the opening. -/
lemma opening_mapColumns_of_yields {base : BaseCommand} (hbase : baseCommand command = .ok base)
    (hcolumns : base.columns ≠ "")
    (h : Yields (rowsSelect (Naming.standard : Naming σ) command query) state select after)
    (f : Column → Column) : (select.mapColumns f).opening = select.opening := by
  obtain ⟨base', list, condition, keys, first, second, hbase', hlist, -, -, rfl⟩ :=
    yields_rowsSelect.1 h
  obtain rfl : base = base' := Except.ok.inj (hbase.symm.trans hbase')
  obtain rfl := yields_chosenList_of_ne_empty hcolumns hlist
  rfl

end Select

/-- Under the standard naming, a command is its source between an opening and an ending, and the
command that has no names differs from it in these two only. The properties behind the source are
read as identifiers, one for each and nothing else, if and only if there is no closing bracket in
their names; and so are those in front of the source, where the columns are not the base command's.
What is read in the ending is a part of what is read in the whole command, if the text in front of
it does not end in quotes. -/
theorem confines_iff_of_yields
    (h : Yields (rows (Naming.standard : Naming σ) command arguments query) state statement
      after) :
    ∃ base template opening ending opening' ending',
      baseCommand command = .ok base ∧
      Yields (rows (Naming.nameless : Naming σ) command arguments query) state template after ∧
      statement.text.toList = opening ++ ' ' :: (base.source.toList ++ ending) ∧
      template.text.toList = opening' ++ ' ' :: (base.source.toList ++ ending') ∧
      (Confines ((query.filtered ++ query.sorted).map Property.name) ending' ending ↔
        ∀ property ∈ query.filtered ++ query.sorted, ']' ∉ property.name.toList) ∧
      (base.columns = "" →
        (Confines (query.selected.map Property.name) opening' opening ↔
          ∀ property ∈ query.selected, ']' ∉ property.name.toList)) ∧
      (base.columns ≠ "" → opening = opening') ∧
      ((lex .outside (opening ++ ' ' :: base.source.toList)).2 = .outside →
        lex .outside statement.text.toList =
          ((lex .outside (opening ++ ' ' :: base.source.toList)).1 ++ (lex .outside ending).1,
            (lex .outside ending).2)) := by
  obtain ⟨select, hselect, rfl⟩ := yields_rows.1 h
  obtain ⟨base, hbase, hsource⟩ :
      ∃ base, baseCommand command = .ok base ∧ select.source = base.source := by
    obtain ⟨base, _, _, _, _, _, hbase, -, -, -, rfl⟩ := yields_rowsSelect.1 hselect
    exact ⟨base, hbase, rfl⟩
  have htemplate : Yields (rowsSelect (Naming.nameless : Naming σ) command query) state
      (select.mapColumns fun _ => nameless) after := by
    rw [rowsSelect_eq_map column_nameless]
    exact hselect.map _
  have hne : select.source ≠ "" := hsource ▸ source_ne_empty_of_baseCommand hbase
  have htext := Select.toList_text_around_source hne arguments
  have htemplateText := Select.toList_text_around_source
    (show (select.mapColumns fun _ => nameless).source ≠ "" from hne) arguments
  have hending := fills_ending_of_yields hselect
  rw [hsource] at htext
  rw [show (select.mapColumns fun _ => nameless).source = base.source from hsource] at htemplateText
  refine ⟨base, _, _, _, _, _, hbase, yields_rows.2 ⟨_, htemplate, rfl⟩, htext, htemplateText,
    ?_, ?_, ?_, ?_⟩
  · rw [hending.confines_iff, List.forall_mem_map]
  · intro hcolumns
    rw [(fills_opening_of_yields hbase hcolumns hselect).confines_iff, List.forall_mem_map]
  · intro hcolumns
    rw [opening_mapColumns_of_yields hbase hcolumns hselect]
  · intro hclosed
    have hhead := (hending.heads_ne arguments.length).2
    rw [htext, ← List.cons_append, ← List.append_assoc, lex_append _ _ hhead, hclosed]

/-- The users with the number one in the column of a property, sorted by their age. -/
def withOneIn (name : String) : Query where
  entityType := "User"
  filter := some (.binary .equal (.ofName name) (.constant (.ofInt 1)))
  orderBy := some [.ofName "Age" .ascending]
  select := some (.items [.property (.ofName "Id")])

set_option maxRecDepth 10000 in
/-- Quotes and opening brackets stay within the brackets of a name. -/
theorem confines_quoteAndBracket :
    ∃ opening ending opening' ending',
      "SELECT [Id] FROM Users WHERE ([O'Neil [x] = @p0) ORDER BY [Age]".toList =
        opening ++ ' ' :: ("FROM Users".toList ++ ending) ∧
      Confines ["O'Neil [x", "Age"] ending' ending ∧ Confines ["Id"] opening' opening := by
  have h : Yields (rows (Naming.standard : Naming Unit) "SELECT FROM Users" []
      (withOneIn "O'Neil [x")) ()
      ⟨"SELECT [Id] FROM Users WHERE ([O'Neil [x] = @p0) ORDER BY [Age]", [.ofInt 1]⟩ () := rfl
  have hcommand : baseCommand "SELECT FROM Users" = .ok ⟨"", "", "FROM Users", false⟩ := by
    decide +kernel
  obtain ⟨base, template, opening, ending, opening', ending', hbase, -, htext, -, hending,
    hopening, -, -⟩ := confines_iff_of_yields h
  obtain rfl := Except.ok.inj (hcommand.symm.trans hbase)
  exact ⟨opening, ending, opening', ending', htext, hending.2 (by decide),
    (hopening rfl).2 (by decide)⟩

set_option maxRecDepth 10000 in
/-- A closing bracket ends the name, and the rest of it is a comparison with a second column. -/
theorem bracket_closes_name :
    Yields (rows (Naming.standard : Naming Unit) "SELECT FROM Users" []
      (withOneIn "a] = 1 OR [b")) ()
      ⟨"SELECT [Id] FROM Users WHERE ([a] = 1 OR [b] = @p0) ORDER BY [Age]", [.ofInt 1]⟩ () ∧
    (withOneIn "a] = 1 OR [b").filtered.map Property.name = ["a] = 1 OR [b"] ∧
    (lex .outside
      "SELECT [Id] FROM Users WHERE ([a] = 1 OR [b] = @p0) ORDER BY [Age]".toList).1.filterMap
        Lexeme.name? = ["Id", "a", "b", "Age"] := by
  refine ⟨rfl, rfl, ?_⟩
  decide

end Translation
end ODataToSql
