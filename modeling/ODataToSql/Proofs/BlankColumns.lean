import ODataToSql.Proofs.CommandStructure
import ODataToSql.Proofs.Connectives
import ODataToSql.Proofs.JoinedClauses

/-!
# Columns without a name

White space is no name of a column. What a naming answers for a property is looked at before it is
used, and so the columns of a command have names, wherever they stand; a query that needs a column
for a property has no command if there is none but white space. What a naming answers for the key is
taken as it is.

* `Select.allColumns` are the columns of a command, the key that is counted among them.
* `HasNoColumn`: a naming has nothing but white space for a property.
* The main result is `columns_have_names`, and `blank_key_is_counted` is a command with a column
  without a name.
-/

namespace ODataToSql

namespace Sql

/-- The column is white space only. -/
def Column.IsBlank (column : Column) : Prop :=
  Text.isBlankText column.text = true

/-- The key that is counted, if there is one. -/
def SelectList.counted : SelectList → List Column
  | .count key => [key]
  | _ => []

/-- The columns that a translation puts into a command. -/
def Select.allColumns (select : Select) : List Column :=
  select.list.counted ++ select.columns

end Sql

namespace Translation

open Sql

variable {σ : Type} {naming : Naming σ} {command : String} {query : Query} {base : BaseCommand}
  {select : Select} {state after : σ}

/-! ## The columns of properties -/

/-- Whatever it was asked before, the naming has no column for the property, or one that is white
space only. -/
def HasNoColumn (naming : Naming σ) (property : Property) : Prop :=
  ∀ state text after, (naming.column property).run state = (some text, after) →
    Text.isBlankText text = true

lemma HasNoColumn.not_calls {property : Property} (h : HasNoColumn naming property)
    (name : Column) : ¬ Calls naming property name := by
  intro hcalls
  have hblank := isBlankText_of_calls hcalls
  obtain ⟨-, state, after, hanswer⟩ := hcalls
  have hfilter : (Option.filter (fun text => !Text.isBlankText text)
      ((naming.column property).run state).1) = some name.text := congrArg Prod.fst hanswer
  have htext := (Option.filter_eq_some_iff.1 hfilter).1
  rw [h state name.text _ (Prod.ext htext rfl)] at hblank
  cases hblank

section Columns

variable {properties : List Property} {columns : List Column}
  (h : List.Forall₂ (Calls naming) properties columns)

include h

/-- Columns that properties are called by have names. -/
lemma not_isBlank_of_forall₂ : ∀ column ∈ columns, ¬ column.IsBlank := by
  refine forall_of_forall₂ h fun property _ name hcalls => ?_
  unfold Column.IsBlank
  rw [isBlankText_of_calls hcalls]
  exact Bool.false_ne_true

/-- Each of the properties has one. -/
lemma exists_calls_of_forall₂ : ∀ property ∈ properties, ∃ name, Calls naming property name := by
  induction h with
  | nil => exact fun _ hmem => nomatch hmem
  | cons hcalls hrest ih => exact List.forall_mem_cons.2 ⟨⟨_, hcalls⟩, ih⟩

end Columns

/-! ## Commands -/

/-- A translation that yields nothing fails. -/
lemma exists_error_of_not_yields {α : Type} {translation : Translation σ α} {state : σ}
    (h : ∀ result after, ¬ Yields translation state result after) :
    ∃ e, (outcome translation state).1 = .error e := by
  unfold Yields at h
  generalize outcome translation state = ends at h ⊢
  obtain ⟨e | result, after⟩ := ends
  · exact ⟨e, rfl⟩
  · exact absurd rfl (h result after)

/-- The columns of the command for the rows are columns of properties. -/
lemma not_isBlank_of_yields_rowsSelect
    (h : Yields (rowsSelect naming command query) state select after) :
    ∀ column ∈ select.allColumns, ¬ column.IsBlank := by
  have hclauses := yields_rowsSelect.1 h
  obtain ⟨base, list, condition, keys, first, second, hbase, hlist, -, -, hmade⟩ := hclauses
  have hcounted : select.list.counted = [] := by
    rw [hmade]
    by_cases hcolumns : base.columns = ""
    · rcases yields_chosenList_of_empty hcolumns hlist with ⟨rfl, -⟩ | ⟨columns, rfl, -⟩ <;> rfl
    · obtain rfl := yields_chosenList_of_ne_empty hcolumns hlist
      rfl
  rw [Select.allColumns, hcounted, List.nil_append]
  exact not_isBlank_of_forall₂ (forall₂_of_yields_rowsSelect hbase h)

/-- The columns of the command for the number of rows are those of the condition, and the key. -/
lemma forall₂_of_yields_countSelect
    (h : Yields (countSelect naming command query) state select after) :
    ∃ key between, Yields (keyColumn naming query.entityType) between key after ∧
      select.list = .count key ∧ List.Forall₂ (Calls naming) query.filtered select.columns := by
  obtain ⟨base, condition, key, between, -, hcondition, hkey, rfl⟩ := yields_countSelect.1 h
  refine ⟨key, between, hkey, rfl, ?_⟩
  have hcolumns : (Select.counting key base.source condition).columns = condition.columns :=
    List.append_nil _
  rw [hcolumns]
  exact forall₂_of_yields_condition hcondition

/-- Every column of a command has a name, but for the key that is counted: that has one if and only
if the naming answers with one. A property that has to have a column and has none but white space
makes the translation fail. -/
theorem columns_have_names (naming : Naming σ) (command : String) (query : Query) (state : σ) :
    (∀ select after, Yields (rowsSelect naming command query) state select after →
      ∀ column ∈ select.allColumns, ¬ column.IsBlank) ∧
    (∀ select after, Yields (countSelect naming command query) state select after →
      ∃ key between, Yields (keyColumn naming query.entityType) between key after ∧
        select.list = .count key ∧ (∀ column ∈ select.columns, ¬ column.IsBlank) ∧
        ((∀ column ∈ select.allColumns, ¬ column.IsBlank) ↔ ¬ key.IsBlank)) ∧
    (∀ base, baseCommand command = .ok base →
      ∀ property ∈ query.placed base, HasNoColumn naming property →
        ∃ e, (outcome (rowsSelect naming command query) state).1 = .error e) ∧
    ∀ property ∈ query.filtered, HasNoColumn naming property →
      ∃ e, (outcome (countSelect naming command query) state).1 = .error e := by
  refine ⟨fun select after h => not_isBlank_of_yields_rowsSelect h, ?_, ?_, ?_⟩
  · intro select after h
    obtain ⟨key, between, hkey, hlist, hcolumns⟩ := forall₂_of_yields_countSelect h
    have hnamed := not_isBlank_of_forall₂ hcolumns
    refine ⟨key, between, hkey, hlist, hnamed, ?_⟩
    rw [Select.allColumns, hlist, SelectList.counted, List.singleton_append, List.forall_mem_cons]
    exact and_iff_left hnamed
  · intro base hbase property hmem hnone
    apply exists_error_of_not_yields
    intro select after h
    have hcolumns := forall₂_of_yields_rowsSelect hbase h
    obtain ⟨name, hcalls⟩ := exists_calls_of_forall₂ hcolumns property hmem
    exact hnone.not_calls name hcalls
  · intro property hmem hnone
    apply exists_error_of_not_yields
    intro select after h
    obtain ⟨key, between, -, -, hcolumns⟩ := forall₂_of_yields_countSelect h
    obtain ⟨name, hcalls⟩ := exists_calls_of_forall₂ hcolumns property hmem
    exact hnone.not_calls name hcalls

/-- A naming with white space for the key of the users, and for their names. -/
def blankNaming : Naming Unit :=
  .ofCatalogue ⟨.ofList [("User", ⟨some " ", .ofList [("Name", "\t ")]⟩)]⟩ "User"

/-- The users above an age, and their number. -/
def countedByAge : Query where
  entityType := "User"
  filter := some ageAbove
  orderBy := some [.ofName "Id" .ascending]
  count := some true

/-- The users whose name contains a text, and their number. -/
def countedByMatch : Query where
  entityType := "User"
  filter := some nameContains
  count := some true

/-- The command for the users above the age. -/
def rowsByAge : Select :=
  ⟨.empty, .star, "FROM Users", ⟨.introduce, some ageGreater⟩, [⟨⟨"[Id]"⟩, .ascending⟩], .none⟩

/-- The command for their number. -/
def totalByAge : Select := .counting ⟨" "⟩ "FROM Users" ⟨.introduce, some ageGreater⟩

lemma hasNoColumn_blankNaming : HasNoColumn blankNaming (.ofName "Name") := by
  intro state text after hanswer
  have htext : some "\t " = some text := congrArg Prod.fst hanswer
  rw [← Option.some.inj htext]
  decide

set_option maxRecDepth 10000 in
/-- The columns of the age and of the ordering have names, and that of the name has none. -/
theorem columns_have_names_blankNaming :
    (Yields (rowsSelect blankNaming "SELECT FROM Users" countedByAge) () rowsByAge () ∧
      ∀ column ∈ rowsByAge.allColumns, ¬ column.IsBlank) ∧
    (Yields (countSelect blankNaming "SELECT FROM Users" countedByAge) () totalByAge () ∧
      ∃ key between, Yields (keyColumn blankNaming "User") between key () ∧
        totalByAge.list = .count key ∧ (∀ column ∈ totalByAge.columns, ¬ column.IsBlank) ∧
        ((∀ column ∈ totalByAge.allColumns, ¬ column.IsBlank) ↔ ¬ key.IsBlank)) ∧
    (baseCommand "SELECT FROM Users" = .ok ⟨"", "", "FROM Users", false⟩ ∧
      .ofName "Name" ∈ countedByMatch.placed ⟨"", "", "FROM Users", false⟩ ∧
      HasNoColumn blankNaming (.ofName "Name") ∧
      ∃ e, (outcome (rowsSelect blankNaming "SELECT FROM Users" countedByMatch) ()).1 =
        .error e) ∧
    .ofName "Name" ∈ countedByMatch.filtered ∧
    ∃ e,
      (outcome (countSelect blankNaming "SELECT FROM Users" countedByMatch) ()).1 = .error e := by
  have hbase : baseCommand "SELECT FROM Users" = .ok ⟨"", "", "FROM Users", false⟩ := by
    decide +kernel
  have hrows : Yields (rowsSelect blankNaming "SELECT FROM Users" countedByAge) () rowsByAge () :=
    yields_rowsSelect.2 ⟨_, _, _, _, (), (), hbase, rfl, rfl, rfl, rfl⟩
  have htotal :
      Yields (countSelect blankNaming "SELECT FROM Users" countedByAge) () totalByAge () :=
    yields_countSelect.2 ⟨_, _, _, (), hbase, rfl, rfl, rfl⟩
  have hfiltered : Property.ofName "Name" ∈ countedByMatch.filtered := List.mem_singleton.2 rfl
  have hplaced : Property.ofName "Name" ∈ countedByMatch.placed ⟨"", "", "FROM Users", false⟩ :=
    List.mem_singleton.2 rfl
  have hage := columns_have_names blankNaming "SELECT FROM Users" countedByAge ()
  have hmatch := columns_have_names blankNaming "SELECT FROM Users" countedByMatch ()
  exact ⟨⟨hrows, hage.1 _ _ hrows⟩, ⟨htotal, hage.2.1 _ _ htotal⟩,
    ⟨hbase, hplaced, hasNoColumn_blankNaming,
      hmatch.2.2.1 _ hbase _ hplaced hasNoColumn_blankNaming⟩,
    hfiltered, hmatch.2.2.2 _ hfiltered hasNoColumn_blankNaming⟩

set_option maxRecDepth 10000 in
/-- The white space is counted as if it were a column. -/
theorem blank_key_is_counted :
    Yields (countSelect blankNaming "SELECT FROM Users" countedByAge) () totalByAge () ∧
    ⟨" "⟩ ∈ totalByAge.allColumns ∧ Column.IsBlank ⟨" "⟩ ∧
    (totalByAge.statement []).text = "SELECT COUNT( ) FROM Users WHERE ([Age] > @p0)" := by
  have hbase : baseCommand "SELECT FROM Users" = .ok ⟨"", "", "FROM Users", false⟩ := by
    decide +kernel
  refine ⟨?_, List.mem_cons_self, by unfold Column.IsBlank; decide, rfl⟩
  exact yields_countSelect.2 ⟨_, _, _, (), hbase, rfl, rfl, rfl⟩

end Translation
end ODataToSql
