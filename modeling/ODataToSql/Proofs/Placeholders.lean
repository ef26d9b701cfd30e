import ODataToSql.Proofs.Columns
import ODataToSql.Proofs.Legible

/-!
# Placeholders and arguments

The arguments of a command are those of the caller and then the values that the condition binds, and
the placeholders behind the base command are read as the numbers of these values, each once and in
order. So no placeholder runs into a digit, none is without an argument, and no argument of the
caller is bound again.

* `Select.toList_text_around_source`: both what stands in front of the source of a command and what
  stands behind it are numbered after the given arguments, since nothing is bound in front of it.
* `Select.Aligned` says of a statement how its arguments and the placeholders behind the source
  belong together.
* The main result is `aligned_of_yields`. The columns of the properties that are filtered and sorted
  by must not contain the sign of placeholders; for the columns that are selected, for the key that
  is counted and for the text of the caller, nothing is asked.
-/

namespace ODataToSql

/-- The source of a base command starts with its `FROM`, so it is not empty. -/
lemma BaseCommand.splitAtSource?_ne_nil {text columns source : List Char}
    (h : splitAtSource? text = some (columns, source)) : source ≠ [] := by
  induction text generalizing columns with
  | nil => cases h
  | cons c rest ih =>
    rw [splitAtSource?] at h
    by_cases hword : Text.Keyword.startsWithWord "FROM".toList (c :: rest)
    · rw [if_pos hword] at h
      cases h
      exact List.cons_ne_nil c rest
    · rw [if_neg hword] at h
      obtain ⟨⟨columns, source'⟩, hsplit, heq⟩ := Option.map_eq_some_iff.1 h
      cases heq
      exact ih hsplit

lemma BaseCommand.source_ne_empty {text : String} {base : BaseCommand}
    (h : BaseCommand.ofText? text = some base) : base.source ≠ "" := by
  unfold ofText? at h
  obtain ⟨afterSelect, -, h⟩ := Option.bind_eq_some_iff.1 h
  obtain ⟨_, -, h⟩ := Option.bind_eq_some_iff.1 h
  obtain ⟨⟨columns, source⟩, hsplit, h⟩ := Option.bind_eq_some_iff.1 h
  cases h
  intro hempty
  exact splitAtSource?_ne_nil hsplit (String.ofList_eq_empty_iff.1 hempty)

lemma Translation.source_ne_empty_of_baseCommand {command : String} {base : BaseCommand}
    (h : baseCommand command = .ok base) : base.source ≠ "" :=
  BaseCommand.source_ne_empty (baseCommand_eq_ok_iff.1 h)

namespace Sql.Select

/-- The text of a command is the source between its opening and its ending. -/
lemma fragment_eq {select : Select} (hsource : select.source ≠ "") :
    select.fragment = select.opening ++ .text " " :: .text select.source :: select.ending := by
  have hempty : select.source.isEmpty = false := by simpa using hsource
  rw [fragment, hempty]
  simp [Fragment.spaced, Fragment.ofText]

/-- Nothing is bound in front of the source. -/
lemma values_opening (select : Select) : select.opening.values = [] := by
  simp [opening]

/-- So both the opening and the ending are numbered after the given arguments. -/
lemma toList_text_around_source {select : Select} (hsource : select.source ≠ "")
    (arguments : List Datum) :
    (select.statement arguments).text.toList =
      select.opening.textFrom arguments.length ++
        ' ' :: (select.source.toList ++ select.ending.textFrom arguments.length) := by
  rw [statement_eq, toList_text_append, fragment_eq hsource, Fragment.textFrom_append,
    values_opening]
  simp [Statement.start, Fragment.textFrom]

/-- Behind the source, it is the condition alone that binds values. -/
lemma values_ending (select : Select) : select.ending.values = select.condition.parameters := by
  simp [ending]

/-! ## Clauses that can be read -/

/-- A condition is legible, if no column in it contains the sign of placeholders. -/
lemma legible_condition {condition : Condition}
    (hpredicate : ∀ predicate ∈ condition.predicate,
      predicate.Everywhere (Term.OnColumn fun name => '@' ∉ name.text.toList)) :
    condition.fragment.Legible := by
  have hkeyword : '@' ∉ condition.keyword.text.toList := by
    cases condition.keyword <;> decide
  unfold Condition.fragment
  cases hcases : condition.predicate with
  | none => exact Fragment.legible_nil
  | some predicate => exact (legible_term (hpredicate predicate hcases)).text_cons hkeyword

/-- So are sort keys. -/
lemma legible_orderBy {keys : List SortKey} (hkeys : ∀ key ∈ keys, '@' ∉ key.column.text.toList) :
    (orderByFragment keys).Legible := by
  have hkey : ∀ fragment ∈ keys.map SortKey.fragment, fragment.Legible := by
    intro fragment hmem
    obtain ⟨key, hkey, rfl⟩ := List.mem_map.1 hmem
    have hdirection : '@' ∉ key.direction.text.toList := by cases key.direction <;> decide
    exact (Fragment.legible_text hdirection).text_cons (hkeys key hkey)
  cases keys with
  | nil => exact Fragment.legible_nil
  | cons key rest => exact (Fragment.legible_separated hkey).text_cons (by decide)

/-- The numbers of rows are no placeholders. -/
lemma legible_paging (paging : Paging) : paging.fragment.Legible := by
  have hoffset : ∀ n, '@' ∉ ("OFFSET " ++ Text.decimal n ++ " ROWS").toList := by
    intro n
    simpa using Text.not_mem_decimal (c := '@') rfl n
  have hfetch : ∀ n, '@' ∉ (" FETCH NEXT " ++ Text.decimal n ++ " ROWS ONLY").toList := by
    intro n
    simpa using Text.not_mem_decimal (c := '@') rfl n
  unfold Paging.fragment
  split
  · exact Fragment.legible_nil
  · exact Fragment.legible_text (hoffset _)
  · exact (Fragment.legible_text (hfetch _)).text_cons (hoffset _)

/-- What stands behind the source is legible, if no column contains the sign of placeholders. -/
lemma legible_ending {select : Select}
    (hpredicate : ∀ predicate ∈ select.condition.predicate,
      predicate.Everywhere (Term.OnColumn fun name => '@' ∉ name.text.toList))
    (hkeys : ∀ key ∈ select.orderBy, '@' ∉ key.column.text.toList) : select.ending.Legible := by
  have hcondition := (legible_condition hpredicate).spaced select.condition.isEmpty
  have horderBy := (legible_orderBy hkeys).spaced select.orderBy.isEmpty
  have hpaging := (legible_paging select.paging).spaced select.paging.isEmpty
  unfold ending
  -- a space keeps each clause apart from the placeholders in front of it
  exact (hcondition.append (Fragment.stops_spaced _ _) horderBy).append
    (Fragment.stops_spaced _ _) hpaging

/-! ## Aligned statements -/

/-- The statement binds the values of the condition after the given arguments, and behind the source
the placeholders are read as the numbers of these values. -/
def Aligned (arguments : List Datum) (select : Select) (statement : Statement) : Prop :=
  statement.arguments = arguments ++ select.condition.parameters ∧
    ∃ tail,
      statement.text.toList =
        select.opening.textFrom arguments.length ++ ' ' :: (select.source.toList ++ tail) ∧
      placeholders tail =
        (List.range' arguments.length (statement.arguments.length - arguments.length)).map
          Text.decimal

/-- The statement of a command is aligned, if what stands behind its source is legible. -/
lemma aligned_statement {select : Select} (hsource : select.source ≠ "")
    (hending : select.ending.Legible) (arguments : List Datum) :
    Aligned arguments select (select.statement arguments) := by
  have harguments := select.arguments_statement arguments
  have htext := toList_text_around_source hsource arguments
  refine ⟨harguments, select.ending.textFrom arguments.length, htext, ?_⟩
  have hread := hending arguments.length [] endsNumeral_nil
  rw [List.append_nil, values_ending] at hread
  rw [hread, harguments, List.length_append, Nat.add_sub_cancel_left]
  exact List.append_nil _

end Sql.Select

namespace Translation

open Sql

variable {σ : Type} {naming : Naming σ}

/-! ## The columns of a command -/

section Columns

variable {P : Column → Prop} {query : Query} {state after : σ}

/-- Rows are sorted by columns of properties. -/
lemma forall_of_yields_orderBy
    (hcalls : ∀ property ∈ query.sorted, ∀ name, Calls naming property name → P name)
    {keys : List SortKey} (h : Yields (orderBy naming query.orderBy) state keys after) :
    ∀ key ∈ keys, P key.column :=
  List.forall_mem_map.1 (forall_of_forall₂ (forall₂_of_yields_orderBy h) hcalls)

/-- The columns of a condition are columns of properties. -/
lemma onColumn_of_yields_condition
    (hcalls : ∀ property ∈ query.filtered, ∀ name, Calls naming property name → P name)
    {keyword : ConditionKeyword} {result : Condition}
    (h : Yields (condition naming query.filter keyword) state result after) :
    ∀ predicate ∈ result.predicate, predicate.Everywhere (Term.OnColumn P) := by
  intro predicate hmem
  have hcolumns := forall_of_forall₂ (forall₂_of_yields_condition h) hcalls
  rw [Condition.columns, Option.mem_def.1 hmem] at hcolumns
  exact Term.everywhere_onColumn.2 hcolumns

end Columns

/-! ## Commands -/

section Command

variable {command : String} {arguments : List Datum} {query : Query} {statement : Statement}
  {state after : σ}

/-- Every command is aligned with its arguments, where the properties behind its source have columns
without the sign of placeholders. These are the properties that the filter mentions, and in the
command for the rows also those that the rows are sorted by. -/
theorem aligned_of_yields :
    ((∀ property ∈ query.filtered ++ query.sorted, ∀ name,
        Calls naming property name → '@' ∉ name.text.toList) →
      Yields (rows naming command arguments query) state statement after →
      ∃ base select, baseCommand command = .ok base ∧ select.source = base.source ∧
        Yields (rowsSelect naming command query) state select after ∧
        select.Aligned arguments statement) ∧
    ((∀ property ∈ query.filtered, ∀ name,
        Calls naming property name → '@' ∉ name.text.toList) →
      Yields (total naming command arguments query) state statement after →
      ∃ base select, baseCommand command = .ok base ∧ select.source = base.source ∧
        Yields (countSelect naming command query) state select after ∧
        select.Aligned arguments statement) := by
  constructor
  · intro hcalls h
    obtain ⟨hfiltered, hsorted⟩ := List.forall_mem_append.1 hcalls
    obtain ⟨select, hselect, rfl⟩ := yields_rows.1 h
    obtain ⟨base, list, condition, keys, first, second, hbase, -, hcondition, hkeys, rfl⟩ :=
      yields_rowsSelect.1 hselect
    refine ⟨base, _, hbase, rfl, hselect, ?_⟩
    have hpredicate := onColumn_of_yields_condition hfiltered hcondition
    have hkeys := forall_of_yields_orderBy hsorted hkeys
    exact Select.aligned_statement (source_ne_empty_of_baseCommand hbase)
      (Select.legible_ending hpredicate hkeys) arguments
  · intro hfiltered h
    obtain ⟨select, hselect, rfl⟩ := yields_total.1 h
    obtain ⟨base, condition, key, first, hbase, hcondition, -, rfl⟩ :=
      yields_countSelect.1 hselect
    refine ⟨base, _, hbase, rfl, hselect, ?_⟩
    have hpredicate := onColumn_of_yields_condition hfiltered hcondition
    -- rows are not sorted to be counted
    have hkeys : ∀ key ∈ ([] : List SortKey), '@' ∉ key.column.text.toList :=
      fun _ hmem => nomatch hmem
    exact Select.aligned_statement (source_ne_empty_of_baseCommand hbase)
      (Select.legible_ending hpredicate hkeys) arguments

end Command

/-- Users are counted by their logins, and their names are held by a column of another name. -/
def logins : Catalogue :=
  ⟨.ofList [("User", ⟨some "[Login]", .ofList [("Name", "[Alias]")]⟩)]⟩

/-- The users whose name contains a text, sorted by age. -/
def usersByName : Query where
  entityType := "User"
  filter := some (.call "contains" [.ofName "Name", .constant (.ofString "a")])
  orderBy := some [.ofName "Age" .ascending]

/-- The columns of the users have no sign of placeholders in them. -/
lemma noSigil_logins : ∀ property ∈ usersByName.filtered ++ usersByName.sorted, ∀ name,
    Calls (Naming.ofCatalogue logins "User" : Naming Unit) property name →
      '@' ∉ name.text.toList :=
  forall_calls_of_answers (by decide)

set_option maxRecDepth 10000 in
/-- The argument of the caller keeps its number, and the value of the filter gets the next one. -/
theorem aligned_usersByName :
    (∃ base select, baseCommand "SELECT FROM Users WHERE Id = @p0" = .ok base ∧
      select.source = base.source ∧
      Yields (rowsSelect (Naming.ofCatalogue logins "User" : Naming Unit)
        "SELECT FROM Users WHERE Id = @p0" usersByName) () select () ∧
      select.Aligned [.null]
        ⟨"SELECT * FROM Users WHERE Id = @p0 AND [Alias] LIKE ('%' + @p1 + '%') ORDER BY [Age]",
          [.null, .ofString "a"]⟩) ∧
    (∃ base select, baseCommand "SELECT FROM Users WHERE Id = @p0" = .ok base ∧
      select.source = base.source ∧
      Yields (countSelect (Naming.ofCatalogue logins "User" : Naming Unit)
        "SELECT FROM Users WHERE Id = @p0" usersByName) () select () ∧
      select.Aligned [.null]
        ⟨"SELECT COUNT([Login]) FROM Users WHERE Id = @p0 AND [Alias] LIKE ('%' + @p1 + '%')",
          [.null, .ofString "a"]⟩) := by
  have hfiltered : ∀ property ∈ usersByName.filtered, ∀ name,
      Calls (Naming.ofCatalogue logins "User" : Naming Unit) property name →
        '@' ∉ name.text.toList := (List.forall_mem_append.1 noSigil_logins).1
  exact ⟨aligned_of_yields.1 noSigil_logins rfl, aligned_of_yields.2 hfiltered rfl⟩

end Translation
end ODataToSql
