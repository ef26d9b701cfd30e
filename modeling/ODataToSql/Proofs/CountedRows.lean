import ODataToSql.Proofs.Placeholders
import ODataToSql.Proofs.Stateless

/-!
# The rows that are counted

The command for the number of rows is put together apart from the one for the rows. Both have one
part in common, the source and the condition behind it, and the rows that are counted are those that
the other command would return without its limits.

* `Condition.textFrom` is the text of a condition behind a source, and `Select.trailer` is what
  stands behind the condition.
* `SharesRows` says of the two commands how their texts are made of the common part.
* `count_eq_of_agree`: the command for the number of rows depends on the filter, the entity type and
  the source alone.
* The main result is `sharesRows_of_yields`.
-/

namespace ODataToSql

namespace Sql

/-- The condition behind a source, after one space and with its values numbered from a position on.
Where there is no condition, there is no space. -/
def Condition.textFrom (condition : Condition) (position : Nat) : List Char :=
  match condition.predicate with
  | some predicate =>
    ' ' :: (condition.keyword.text.toList ++ predicate.fragment.textFrom position)
  | .none => []

lemma Condition.textFrom_spaced (condition : Condition) (position : Nat) :
    (Fragment.spaced condition.isEmpty condition.fragment).textFrom position =
      condition.textFrom position := by
  unfold textFrom isEmpty fragment
  cases condition.predicate with
  | none => rfl
  | some predicate => simp [Fragment.spaced, Fragment.textFrom]

namespace Select

/-- The `ORDER BY` clause and the paging, each after one space if it is there. -/
def trailer (select : Select) : Fragment :=
  Fragment.spaced select.orderBy.isEmpty (orderByFragment select.orderBy) ++
    Fragment.spaced select.paging.isEmpty select.paging.fragment

/-- The text of a command: what it selects, the source with the condition behind it, and how the
rows are sorted and limited. -/
lemma toList_text_statement {select : Select} (hsource : select.source ≠ "")
    (arguments : List Datum) :
    (select.statement arguments).text.toList =
      select.opening.textFrom arguments.length ++
        ' ' :: (select.source.toList ++ select.condition.textFrom arguments.length ++
          select.trailer.textFrom (select.statement arguments).arguments.length) := by
  have hending : select.ending =
      Fragment.spaced select.condition.isEmpty select.condition.fragment ++ select.trailer := by
    unfold ending trailer
    rw [List.append_assoc]
  have hvalues : (Fragment.spaced select.condition.isEmpty select.condition.fragment).values =
      select.condition.parameters := by simp
  rw [toList_text_around_source hsource, hending, Fragment.textFrom_append,
    Condition.textFrom_spaced, hvalues, select.arguments_statement, List.length_append,
    List.append_assoc]

/-- What is counted stands in front of the source, and nothing behind the condition. -/
lemma toList_text_counting {key : Column} {source : String} (hsource : source ≠ "")
    (condition : Condition) (arguments : List Datum) :
    ((Select.counting key source condition).statement arguments).text.toList =
      "SELECT COUNT(".toList ++ key.text.toList ++ ") ".toList ++
        (source.toList ++ condition.textFrom arguments.length) := by
  rw [toList_text_statement hsource]
  simp [counting, opening, trailer, Fragment.spaced, Fragment.textFrom, Top.isEmpty,
    SelectList.isEmpty, SelectList.fragment, Paging.isEmpty, Paging.none]

end Select

/-- The two commands are over the same rows. Their arguments are the same, and the text in common is
all that stands behind what the one counts; in the other, it stands between what is selected and how
the rows are sorted and limited. -/
structure SharesRows (common : List Char) (key : Column) (select : Select) (arguments : List Datum)
    (rows counted : Statement) : Prop where
  sameArguments : counted.arguments = rows.arguments
  countedText : counted.text.toList =
    "SELECT COUNT(".toList ++ key.text.toList ++ ") ".toList ++ common
  rowsText : rows.text.toList =
    select.opening.textFrom arguments.length ++
      ' ' :: (common ++ select.trailer.textFrom rows.arguments.length)

end Sql

namespace Translation

open Sql

variable {σ : Type} {naming : Naming σ} {command : String} {arguments : List Datum} {query : Query}

/-- Counting asks for the filter, the entity type and the source of the base command, and whether
the base command has a condition. Nothing else has an effect on how it ends. -/
lemma count_eq_of_agree {command' : String} {other : Query} {base base' : BaseCommand}
    (hbase : baseCommand command = .ok base) (hbase' : baseCommand command' = .ok base')
    (hsource : base'.source = base.source) (hfiltered : base'.isFiltered = base.isFiltered)
    (hfilter : other.filter = query.filter) (htype : other.entityType = query.entityType)
    (hcount : other.count = query.count) :
    count naming command' arguments other = count naming command arguments query := by
  have hkeyword : conditionKeyword base' = conditionKeyword base := by
    unfold conditionKeyword
    rw [hfiltered]
  have hselect : countSelect naming command' other = countSelect naming command query := by
    unfold countSelect
    rw [hbase, hbase', hfilter, htype]
    show (do
      let condition ← condition naming query.filter (conditionKeyword base')
      let key ← keyColumn naming query.entityType
      return Select.counting key base'.source condition) = _
    rw [hkeyword, hsource]
    rfl
  unfold count Query.wantsCount total
  rw [hcount, hselect]

/-- A condition is made of a term of the filter, if there is one. -/
lemma rel_of_yields_condition {filter : Option Expr} {keyword : ConditionKeyword}
    {result : Condition} {state : σ}
    (h : Yields (condition naming filter keyword) state result state) :
    result.keyword = keyword ∧
      Option.Rel (fun filter term => Yields (Translation.term naming filter) state term state)
        filter result.predicate := by
  rw [yields_condition] at h
  cases filter with
  | none =>
    obtain ⟨rfl, -⟩ := h
    exact ⟨rfl, .none⟩
  | some filter =>
    obtain ⟨predicate, hpredicate, rfl⟩ := h
    exact ⟨rfl, .some hpredicate⟩

/-- A naming always has a key. -/
lemma yields_keyColumn_of_stateless (hnaming : naming.IsStateless) (entityType : String)
    (state : σ) : ∃ key, Yields (keyColumn naming entityType) state key state := by
  obtain ⟨answer, hanswer⟩ := hnaming.key entityType
  refine ⟨⟨answer⟩, ?_⟩
  unfold keyColumn
  rw [yields_bind_pure]
  exact ⟨answer, by rw [yields_ask, hanswer]; rfl, rfl⟩

/-- Where a query that asks for the number of rows has a command for the rows, it has one for their
number, over the same rows. And the latter is the same for all queries and base commands with the
same filter, entity type and source, or fails with the same error. -/
theorem sharesRows_of_yields :
    (naming.IsStateless → query.count = some true → ∀ state after main,
      Yields (rows naming command arguments query) state main after →
      ∃ base select predicate key counted,
        baseCommand command = .ok base ∧
        Yields (rowsSelect naming command query) state select state ∧
        Option.Rel (fun filter term => Yields (Translation.term naming filter) state term state)
          query.filter predicate ∧
        Yields (keyColumn naming query.entityType) state key state ∧
        Yields (count naming command arguments query) state (some counted) state ∧
        SharesRows
          (base.source.toList ++
            Condition.textFrom ⟨conditionKeyword base, predicate⟩ arguments.length)
          key select arguments main counted) ∧
    ∀ command' other base base',
      baseCommand command = .ok base → baseCommand command' = .ok base' →
      base'.source = base.source → base'.isFiltered = base.isFiltered →
      other.filter = query.filter → other.entityType = query.entityType →
      other.count = query.count →
      count naming command' arguments other = count naming command arguments query := by
  constructor
  · intro hnaming hcount state after main h
    obtain rfl : after = state := (stateless_rows hnaming command arguments query).after_eq h
    obtain ⟨select, hselect, rfl⟩ := yields_rows.1 h
    obtain ⟨base, list, condition, keys, first, second, hbase, -, hcondition, -, hmade⟩ :=
      yields_rowsSelect.1 hselect
    -- the same condition is found from the state in which the columns were not asked for yet
    have hcondition : Yields (Translation.condition naming query.filter (conditionKeyword base))
        after condition after := (stateless_condition hnaming _ _).yields hcondition after
    obtain ⟨hkeyword, hpredicate⟩ := rel_of_yields_condition hcondition
    obtain ⟨key, hkey⟩ := yields_keyColumn_of_stateless hnaming query.entityType after
    have hcounted : Yields (count naming command arguments query) after
        (some ((Select.counting key base.source condition).statement arguments)) after := by
      rw [yields_count, yields_total]
      refine ⟨by rw [Query.wantsCount, hcount]; rfl, _, ?_, rfl⟩
      exact yields_countSelect.2 ⟨base, condition, key, after, hbase, hcondition, hkey, rfl⟩
    refine ⟨base, select, condition.predicate, key, _, hbase, hselect, hpredicate, hkey, hcounted,
      ?_⟩
    have hsource := source_ne_empty_of_baseCommand hbase
    rw [← hkeyword]
    subst hmade
    constructor
    · rw [Select.arguments_statement, Select.arguments_statement]
      rfl
    · exact Select.toList_text_counting hsource condition arguments
    · refine Select.toList_text_statement ?_ arguments
      exact hsource
  · intro command' other base base' hbase hbase' hsource hfiltered hfilter htype hcount
    exact count_eq_of_agree hbase hbase' hsource hfiltered hfilter htype hcount

/-- A page of the users whose name contains a text, and their number. -/
def pageOfUsers : Query where
  entityType := "User"
  filter := some (.call "contains" [.ofName "Name", .constant (.ofString "a")])
  orderBy := some [.ofName "Name" .descending]
  select := some (.items [.property (Property.ofName "Name")])
  skip := some 10
  top := some 5
  count := some true

/-- All users whose name contains the text, and their number. -/
def allOfUsers : Query where
  entityType := "User"
  filter := some (.call "contains" [.ofName "Name", .constant (.ofString "a")])
  count := some true

set_option maxRecDepth 10000 in
/-- A page is counted as all rows are, also where the base command has a limit and columns. -/
theorem sharesRows_pageOfUsers :
    (∃ base select predicate key counted,
      baseCommand "SELECT FROM Users WHERE Id = @p0" = .ok base ∧
      Yields (rowsSelect Naming.standard "SELECT FROM Users WHERE Id = @p0" pageOfUsers) () select
        () ∧
      Option.Rel (fun filter term => Yields (Translation.term Naming.standard filter) () term ())
        pageOfUsers.filter predicate ∧
      Yields (keyColumn Naming.standard "User") () key () ∧
      Yields (count Naming.standard "SELECT FROM Users WHERE Id = @p0" [.null] pageOfUsers) ()
        (some counted) () ∧
      SharesRows
        (base.source.toList ++ Condition.textFrom ⟨conditionKeyword base, predicate⟩ 1)
        key select [.null]
        ⟨"SELECT [Name] FROM Users WHERE Id = @p0 AND [Name] LIKE ('%' + @p1 + '%') " ++
            "ORDER BY [Name] DESC OFFSET 10 ROWS FETCH NEXT 5 ROWS ONLY",
          [.null, .ofString "a"]⟩
        counted) ∧
    count (Naming.standard : Naming Unit) "SELECT TOP(3) [Id] FROM Users WHERE Id = @p0" [.null]
        allOfUsers =
      count Naming.standard "SELECT FROM Users WHERE Id = @p0" [.null] pageOfUsers := by
  have hnaming : (Naming.standard : Naming Unit).IsStateless := Naming.isStateless_ofFunctions _ _
  have hrows : Yields
      (rows Naming.standard "SELECT FROM Users WHERE Id = @p0" [.null] pageOfUsers) ()
      ⟨"SELECT [Name] FROM Users WHERE Id = @p0 AND [Name] LIKE ('%' + @p1 + '%') " ++
          "ORDER BY [Name] DESC OFFSET 10 ROWS FETCH NEXT 5 ROWS ONLY",
        [.null, .ofString "a"]⟩ () := rfl
  have hbase : baseCommand "SELECT FROM Users WHERE Id = @p0" =
      .ok ⟨"", "", "FROM Users WHERE Id = @p0", true⟩ := rfl
  have hlimited : baseCommand "SELECT TOP(3) [Id] FROM Users WHERE Id = @p0" =
      .ok ⟨"TOP(3)", "[Id]", "FROM Users WHERE Id = @p0", true⟩ := rfl
  exact ⟨sharesRows_of_yields.1 hnaming rfl () () _ hrows,
    sharesRows_of_yields.2 _ allOfUsers _ _ hbase hlimited rfl rfl rfl rfl rfl⟩

end Translation
end ODataToSql
