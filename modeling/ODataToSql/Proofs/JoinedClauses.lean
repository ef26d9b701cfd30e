import ODataToSql.Proofs.Columns
import ODataToSql.Proofs.Placeholders

/-!
# Clauses and the spaces between them

Whether a clause is empty is decided on the clause, and its text is written elsewhere. The two
agree: a clause is empty if and only if it has no text. So a command is the word `SELECT` and the
clauses that are not empty, with one space between any two of them.

* `Select.clauses` are the clauses of a command in their order, and `Fragment.alone` is the text of
  one of them by itself.
* `isBlankText_of_calls`: a column that a property is called by is more than white space. The select
  list would have no text without that.
* `Select.IsJoined` says how the text of a command is made of the texts of its clauses.
* The main result is `joined_of_yields`.
-/

namespace ODataToSql

namespace Sql

/-! ## Clauses by themselves -/

namespace Fragment

/-- The fragment as a statement of its own, whose placeholders are numbered after the given
arguments. -/
def alone (fragment : Fragment) (arguments : List Datum) : Statement :=
  (Statement.start arguments).append fragment

lemma toList_text_alone (fragment : Fragment) (arguments : List Datum) :
    (fragment.alone arguments).text.toList = fragment.textFrom arguments.length := by
  unfold alone
  rw [toList_text_append]
  rfl

lemma text_alone_eq_empty_iff {fragment : Fragment} {arguments : List Datum} :
    (fragment.alone arguments).text = "" ↔ fragment.textFrom arguments.length = [] := by
  rw [← toList_text_alone, String.toList_eq_nil_iff]

/-- The texts of fragments that follow each other, each by itself. Its placeholders are numbered
after all arguments that are bound in front of it. -/
def textsAlone : List Datum → List Fragment → List String
  | _, [] => []
  | arguments, fragment :: rest =>
    (fragment.alone arguments).text :: textsAlone (fragment.alone arguments).arguments rest

/-- Without a text, nothing is bound: every value has a placeholder. -/
lemma values_eq_nil {fragment : Fragment} {position : Nat} (h : fragment.textFrom position = []) :
    fragment.values = [] := by
  induction fragment with
  | nil => rfl
  | cons piece rest ih =>
    cases piece with
    | text text => exact ih (List.append_eq_nil_iff.1 h).2
    | argument value =>
      have hplaceholder : (Statement.placeholder position).toList ≠ [] := by
        simp [Statement.placeholder, Statement.placeholderSigil]
      exact absurd (List.append_eq_nil_iff.1 h).1 hplaceholder

end Fragment

/-- The clauses of a command in their order, each behind whether it is left out. -/
def Select.clauses (select : Select) : List (Bool × Fragment) :=
  [(select.top.isEmpty, select.top.fragment),
    (select.list.isEmpty, select.list.fragment),
    (select.source.isEmpty, .ofText select.source),
    (select.condition.isEmpty, select.condition.fragment),
    (select.orderBy.isEmpty, orderByFragment select.orderBy),
    (select.paging.isEmpty, select.paging.fragment)]

lemma Select.fragment_eq_clauses (select : Select) :
    select.fragment =
      .text "SELECT" ::
        select.clauses.flatMap fun clause => Fragment.spaced clause.1 clause.2 := by
  unfold fragment opening ending clauses
  simp

/-- A clause that is left out is one that has no text, wherever its placeholders start. -/
def DecidesEmptiness (clause : Bool × Fragment) : Prop :=
  ∀ arguments : List Datum, clause.1 = true ↔ (clause.2.alone arguments).text = ""

/-- Clauses that are left out where they have no text are written with a space in front of each one
that has a text. -/
lemma textFrom_spaced {clauses : List (Bool × Fragment)}
    (h : ∀ clause ∈ clauses, DecidesEmptiness clause) (arguments : List Datum) :
    Fragment.textFrom arguments.length
        (clauses.flatMap fun clause => Fragment.spaced clause.1 clause.2) =
      ((Fragment.textsAlone arguments (clauses.map Prod.snd)).filter (· ≠ "")).flatMap
        fun text => ' ' :: text.toList := by
  induction clauses generalizing arguments with
  | nil => rfl
  | cons clause rest ih =>
    obtain ⟨leftOut, fragment⟩ := clause
    obtain ⟨hclause, hrest⟩ := List.forall_mem_cons.1 h
    have hempty : leftOut = true ↔ (fragment.alone arguments).text = "" := hclause arguments
    have hnext := ih hrest (fragment.alone arguments).arguments
    have harguments : (fragment.alone arguments).arguments = arguments ++ fragment.values :=
      Statement.arguments_append _ _
    rw [List.map_cons, Fragment.textsAlone, List.flatMap_cons, Fragment.textFrom_append,
      Fragment.values_spaced]
    cases leftOut with
    | true =>
      -- an empty clause binds nothing, so the next one is numbered from the same position
      have htext := hempty.1 rfl
      have hvalues := Fragment.values_eq_nil (Fragment.text_alone_eq_empty_iff.1 htext)
      rw [harguments, hvalues, List.append_nil] at hnext
      rw [List.filter_cons_of_neg (by simp [htext]), harguments, hvalues, List.append_nil]
      exact hnext
    | false =>
      have htext : (fragment.alone arguments).text ≠ "" := mt hempty.2 Bool.false_ne_true
      rw [harguments, List.length_append] at hnext
      rw [List.filter_cons_of_pos (by simp [htext]), List.flatMap_cons, harguments,
        Fragment.toList_text_alone]
      exact congrArg (' ' :: fragment.textFrom arguments.length ++ ·) hnext

/-- Texts behind a first one, with a space between any two. -/
lemma toList_intercalate_space (first : String) (texts : List String) :
    (" ".intercalate (first :: texts)).toList =
      first.toList ++ texts.flatMap fun text => ' ' :: text.toList := by
  induction texts generalizing first with
  | nil => simp
  | cons text rest ih =>
    rw [String.intercalate_cons_cons, String.toList_append, String.toList_append, ih]
    simp

/-! ## Which clauses are empty -/

/-- What is to be shown of a clause, with the position at which its placeholders start. -/
lemma decidesEmptiness_of_textFrom {leftOut : Bool} {fragment : Fragment}
    (h : ∀ position, leftOut = true ↔ fragment.textFrom position = []) :
    DecidesEmptiness (leftOut, fragment) := by
  intro arguments
  rw [Fragment.text_alone_eq_empty_iff]
  exact h arguments.length

lemma decidesEmptiness_top (top : Top) : DecidesEmptiness (top.isEmpty, top.fragment) := by
  apply decidesEmptiness_of_textFrom
  intro position
  cases top <;> simp [Top.isEmpty, Top.fragment, Fragment.textFrom]

/-- The columns of the query must not be without a text: one of them alone would be a list that is
not empty and has none. -/
lemma decidesEmptiness_list {list : SelectList}
    (hcolumns : ∀ columns, list = .columns columns → ∀ name ∈ columns, name.text ≠ "") :
    DecidesEmptiness (list.isEmpty, list.fragment) := by
  apply decidesEmptiness_of_textFrom
  intro position
  cases list with
  | verbatim text => simp [SelectList.isEmpty, SelectList.fragment, Fragment.textFrom]
  | star => simp [SelectList.isEmpty, SelectList.fragment, Fragment.textFrom]
  | count key => simp [SelectList.isEmpty, SelectList.fragment, Fragment.textFrom]
  | columns columns =>
    cases columns with
    | nil => simp [SelectList.isEmpty, SelectList.fragment, Fragment.separated, Fragment.textFrom]
    | cons name rest =>
      have hname : name.text ≠ "" := hcolumns _ rfl name List.mem_cons_self
      cases rest <;>
        simp [SelectList.isEmpty, SelectList.fragment, Fragment.separated, Fragment.textFrom, hname]

lemma decidesEmptiness_source (source : String) :
    DecidesEmptiness (source.isEmpty, .ofText source) := by
  apply decidesEmptiness_of_textFrom
  intro position
  simp [Fragment.ofText, Fragment.textFrom]

/-- A condition has a keyword. -/
lemma decidesEmptiness_condition (condition : Condition) :
    DecidesEmptiness (condition.isEmpty, condition.fragment) := by
  apply decidesEmptiness_of_textFrom
  intro position
  obtain ⟨keyword, predicate⟩ := condition
  cases predicate with
  | none => simp [Condition.isEmpty, Condition.fragment, Fragment.textFrom]
  | some predicate =>
    cases keyword <;>
      simp [Condition.isEmpty, Condition.fragment, Fragment.textFrom, ConditionKeyword.text]

lemma decidesEmptiness_orderBy (keys : List SortKey) :
    DecidesEmptiness (keys.isEmpty, orderByFragment keys) := by
  apply decidesEmptiness_of_textFrom
  intro position
  cases keys <;> simp [orderByFragment, Fragment.textFrom]

lemma decidesEmptiness_paging (paging : Paging) :
    DecidesEmptiness (paging.isEmpty, paging.fragment) := by
  apply decidesEmptiness_of_textFrom
  intro position
  obtain ⟨offset, fetch⟩ := paging
  cases offset with
  | none => simp [Paging.isEmpty, Paging.fragment, Fragment.textFrom]
  | some offset => cases fetch <;> simp [Paging.isEmpty, Paging.fragment, Fragment.textFrom]

/-! ## Joined commands -/

namespace Select

/-- The clauses that are left out are those without a text. The command is the word `SELECT` and the
texts of the other ones, which are what they are by themselves, with one space between any two. -/
structure IsJoined (select : Select) : Prop where
  emptiness : ∀ clause ∈ select.clauses, DecidesEmptiness clause
  text : ∀ arguments, (select.statement arguments).text =
    " ".intercalate ("SELECT" ::
      (Fragment.textsAlone arguments (select.clauses.map Prod.snd)).filter (· ≠ ""))

lemma isJoined {select : Select}
    (hcolumns : ∀ columns, select.list = .columns columns → ∀ name ∈ columns, name.text ≠ "") :
    select.IsJoined := by
  have hemptiness : ∀ clause ∈ select.clauses, DecidesEmptiness clause := by
    simp only [clauses, List.forall_mem_cons, List.not_mem_nil, false_implies, implies_true,
      and_true]
    exact ⟨decidesEmptiness_top _, decidesEmptiness_list hcolumns, decidesEmptiness_source _,
      decidesEmptiness_condition _, decidesEmptiness_orderBy _, decidesEmptiness_paging _⟩
  refine ⟨hemptiness, fun arguments => ?_⟩
  rw [← String.toList_inj, toList_intercalate_space, ← textFrom_spaced hemptiness, statement_eq,
    toList_text_append, fragment_eq_clauses]
  rfl

/-- The parts of the base command stand in the command as they are: the source, and what the base
command has of a `TOP` and of columns. -/
structure TakesOver (base : BaseCommand) (select : Select) : Prop where
  top : base.top ≠ "" → ∀ arguments, (select.top.fragment.alone arguments).text = base.top
  columns : base.columns ≠ "" → ∀ arguments,
    (select.list.fragment.alone arguments).text = base.columns
  source : ∀ arguments, ((Fragment.ofText select.source).alone arguments).text = base.source

end Select

lemma Fragment.text_ofText_alone (text : String) (arguments : List Datum) :
    ((ofText text).alone arguments).text = text := by
  rw [← String.toList_inj, toList_text_alone, ofText, textFrom, textFrom, List.append_nil]

end Sql

namespace Translation

open Sql

variable {σ : Type} {naming : Naming σ} {command : String} {query : Query} {select : Select}
  {state after : σ}

/-- A column that a property is called by is more than white space. -/
lemma isBlankText_of_calls {property : Property} {name : Column}
    (h : Calls naming property name) : Text.isBlankText name.text = false := by
  obtain ⟨-, state, after, hanswer⟩ := h
  unfold Naming.columnOf at hanswer
  have hfilter : (Option.filter (fun text => !Text.isBlankText text)
      ((naming.column property).run state).1) = some name.text := congrArg Prod.fst hanswer
  simpa using (Option.filter_eq_some_iff.1 hfilter).2

lemma text_ne_empty_of_calls {property : Property} {name : Column}
    (h : Calls naming property name) : name.text ≠ "" := by
  intro hempty
  have hblank := isBlankText_of_calls h
  rw [hempty] at hblank
  cases hblank

/-- The columns that a query selects have texts. -/
lemma text_ne_empty_of_yields_chosenList {base : BaseCommand} {list : SelectList}
    (h : Yields (chosenList naming base query) state list after) :
    ∀ columns, list = .columns columns → ∀ name ∈ columns, name.text ≠ "" := by
  rintro columns rfl name hmem
  by_cases hcolumns : base.columns = ""
  · rcases yields_chosenList_of_empty hcolumns h with ⟨hstar, -⟩ | ⟨columns', heq, hselected⟩
    · cases hstar
    · obtain rfl : columns = columns' := SelectList.columns.inj heq
      exact forall_of_forall₂ hselected (fun _ _ _ => text_ne_empty_of_calls) name hmem
  · cases yields_chosenList_of_ne_empty hcolumns h

/-- The command for the rows takes over what the base command has. -/
lemma takesOver_of_yields {base : BaseCommand} (hbase : baseCommand command = .ok base)
    (h : Yields (rowsSelect naming command query) state select after) : select.TakesOver base := by
  obtain ⟨base', list, condition, keys, first, second, hbase', hlist, -, -, rfl⟩ :=
    yields_rowsSelect.1 h
  obtain rfl : base = base' := Except.ok.inj (hbase.symm.trans hbase')
  refine ⟨?_, ?_, Fragment.text_ofText_alone base.source⟩
  · intro htop arguments
    have hchosen : chosenTop base query = .verbatim base.top := by
      rw [chosenTop, if_neg (mt String.isEmpty_iff.1 htop)]
    rw [hchosen]
    exact Fragment.text_ofText_alone base.top arguments
  · intro hcolumns arguments
    obtain rfl := yields_chosenList_of_ne_empty hcolumns hlist
    exact Fragment.text_ofText_alone base.columns arguments

/-- Every command is its clauses that have a text, with one space between any two. In the command
for the rows, these are those parts of the base command that are there and else what the query asks
for; the command for the number of rows has the source of the base command. -/
theorem joined_of_yields :
    (Yields (rowsSelect naming command query) state select after →
      ∃ base, baseCommand command = .ok base ∧ select.IsJoined ∧ select.TakesOver base) ∧
    (Yields (countSelect naming command query) state select after →
      ∃ base, baseCommand command = .ok base ∧ select.IsJoined ∧
        ∀ arguments, ((Fragment.ofText select.source).alone arguments).text = base.source) := by
  constructor
  · intro h
    have hselect := yields_rowsSelect.1 h
    obtain ⟨base, list, condition, keys, first, second, hbase, hlist, -, -, rfl⟩ := hselect
    exact ⟨base, hbase, Select.isJoined (text_ne_empty_of_yields_chosenList hlist),
      takesOver_of_yields hbase h⟩
  · intro h
    obtain ⟨base, condition, key, first, hbase, -, -, rfl⟩ := yields_countSelect.1 h
    -- what is counted is no list of columns
    exact ⟨base, hbase, Select.isJoined (fun _ heq => nomatch heq),
      Fragment.text_ofText_alone base.source⟩

/-- A base command with a `TOP` and a condition of its own. -/
def sevenUsers : String := "SELECT TOP(7) FROM Users WHERE Id = @p0"

/-- The users whose name contains a text, behind the first twenty in an ordering. -/
def sortedByName : Query where
  entityType := "User"
  filter := some (.call "contains" [.ofName "Name", .constant (.ofString "a")])
  orderBy := some [.ofName "Name" .descending]
  skip := some 20

/-- The condition that the name contains the text. -/
def nameCondition : Condition :=
  ⟨.extend, some (.like (.column ⟨"[Name]"⟩) .contains (.parameter (.ofString "a")))⟩

/-- The command for these rows. All its clauses have a text. -/
def sevenByName : Select :=
  ⟨.verbatim "TOP(7)", .star, "FROM Users WHERE Id = @p0", nameCondition,
    [⟨⟨"[Name]"⟩, .descending⟩], ⟨some 20, none⟩⟩

/-- The command for the number of rows. -/
def countedByName : Select := .counting ⟨"[Id]"⟩ "FROM Users WHERE Id = @p0" nameCondition

set_option maxRecDepth 10000 in
/-- Six clauses are joined in the one command, and three in the other. -/
theorem joined_sevenByName :
    (∃ base, baseCommand sevenUsers = .ok base ∧ sevenByName.IsJoined ∧
      sevenByName.TakesOver base) ∧
    (∃ base, baseCommand sevenUsers = .ok base ∧ countedByName.IsJoined ∧
      ∀ arguments, ((Fragment.ofText countedByName.source).alone arguments).text = base.source) ∧
    (sevenByName.statement [.null]).text =
      "SELECT TOP(7) * FROM Users WHERE Id = @p0 AND [Name] LIKE ('%' + @p1 + '%') " ++
        "ORDER BY [Name] DESC OFFSET 20 ROWS" ∧
    (countedByName.statement [.null]).text =
      "SELECT COUNT([Id]) FROM Users WHERE Id = @p0 AND [Name] LIKE ('%' + @p1 + '%')" := by
  have hbase : baseCommand sevenUsers =
      .ok ⟨"TOP(7)", "", "FROM Users WHERE Id = @p0", true⟩ := by decide +kernel
  have hrows : Yields (rowsSelect (Naming.standard : Naming Unit) sevenUsers sortedByName) ()
      sevenByName () :=
    yields_rowsSelect.2 ⟨_, _, _, _, (), (), hbase, rfl, rfl, rfl, rfl⟩
  have hcount : Yields (countSelect (Naming.standard : Naming Unit) sevenUsers sortedByName) ()
      countedByName () :=
    yields_countSelect.2 ⟨_, _, _, (), hbase, rfl, rfl, rfl⟩
  exact ⟨joined_of_yields.1 hrows, joined_of_yields.2 hcount, rfl, rfl⟩

end Translation
end ODataToSql
