import ODataToSql.Proofs.JoinedClauses
import ODataToSql.Proofs.NamingIndependence

/-!
# What the command for the rows depends on

Two queries have the same command if they agree where it looks: at the filter, the ordering and the
offset, at the projection unless the base command has columns, and at the limit unless the base
command has one and no rows are paged. Nothing else is looked at, neither for the text nor for an
error.

* `LimitsAlone`: the base command has a limit, and the query has no use for one of its own.
* `Query.AgreesWith`: the queries are the same where the command for the rows looks.
* The main result is `rows_eq_of_agreesWith`.
-/

namespace ODataToSql

/-- The base command limits the rows and the query does not page them, for which it would have to
leave some out and to sort the other ones. -/
def BaseCommand.LimitsAlone (base : BaseCommand) (query : Query) : Prop :=
  base.top ≠ "" ∧ (query.skip = none ∨ query.orderBy.getD [] = [])

/-- The queries are the same in all that a command for the rows has from a query where the base
command does not have it. -/
structure Query.AgreesWith (query other : Query) (base : BaseCommand) : Prop where
  filter : query.filter = other.filter
  orderBy : query.orderBy = other.orderBy
  skip : query.skip = other.skip
  select : base.columns = "" → query.select = other.select
  top : ¬ base.LimitsAlone query → query.top = other.top

namespace Translation

open Sql

variable {σ : Type}

/-! ## Clauses -/

section Clauses

variable {query other : Query} {base : BaseCommand} (h : query.AgreesWith other base)

include h

lemma chosenTop_congr : chosenTop base query = chosenTop base other := by
  unfold chosenTop
  by_cases htop : base.top = ""
  · have hsame : query.top = other.top := h.top fun hlimits => hlimits.1 htop
    rw [if_pos (String.isEmpty_iff.2 htop), if_pos (String.isEmpty_iff.2 htop)]
    unfold top
    rw [hsame, h.skip]
  · rw [if_neg (mt String.isEmpty_iff.1 htop), if_neg (mt String.isEmpty_iff.1 htop)]

/-- The limit of a page is the query's, whatever the base command has. -/
lemma paging_congr : paging query = paging other := by
  unfold paging
  rw [← h.skip, ← h.orderBy]
  cases hskip : query.skip with
  | none => rfl
  | some skip =>
    cases horder : query.orderBy with
    | none => rfl
    | some items =>
      cases items with
      | nil => rfl
      | cons item rest =>
        have hsame : query.top = other.top := by
          apply h.top
          rintro ⟨-, hnone | hempty⟩
          · rw [hskip] at hnone
            cases hnone
          · rw [horder] at hempty
            cases hempty
        dsimp only
        rw [hsame]

lemma chosenList_congr (naming : Naming σ) :
    chosenList naming base query = chosenList naming base other := by
  unfold chosenList
  by_cases hcolumns : base.columns = ""
  · rw [h.select hcolumns]
  · rw [if_neg (mt String.isEmpty_iff.1 hcolumns), if_neg (mt String.isEmpty_iff.1 hcolumns)]

end Clauses

/-! ## Commands -/

section Commands

variable {command : String} {query other : Query}

lemma rowsSelect_eq_of_agreesWith
    (h : ∀ base, baseCommand command = .ok base → query.AgreesWith other base)
    (naming : Naming σ) : rowsSelect naming command query = rowsSelect naming command other := by
  unfold rowsSelect
  cases hbase : baseCommand command with
  | error error => rfl
  | ok base =>
    have hagrees := h base hbase
    rw [← hbase, lift_baseCommand_bind hbase, lift_baseCommand_bind hbase,
      chosenList_congr hagrees, chosenTop_congr hagrees, paging_congr hagrees, hagrees.filter,
      hagrees.orderBy]

/-- Two queries have the same command for the rows, or the same error, if they agree where it looks
and the columns come from the same source. So the projection has no effect where the base command
has columns, and the limit has none where the base command has one and no rows are paged; and what
the base command has of both stands in the command as it is. -/
theorem rows_eq_of_agreesWith (naming source : Naming σ) (hcolumn : naming.column = source.column)
    (command : String) (arguments : List Datum) :
    (∀ query other : Query,
      (∀ base, baseCommand command = .ok base → query.AgreesWith other base) →
        rows naming command arguments query = rows source command arguments other) ∧
    ∀ base, baseCommand command = .ok base → ∀ query : Query,
      (base.columns ≠ "" → ∀ select,
        rows naming command arguments { query with select := select } =
          rows naming command arguments query) ∧
      (base.LimitsAlone query → ∀ top,
        rows naming command arguments { query with top := top } =
          rows naming command arguments query) ∧
      ∀ state select after, Yields (rowsSelect naming command query) state select after →
        select.TakesOver base := by
  have hagrees {naming : Naming σ} {query other : Query}
      (h : ∀ base, baseCommand command = .ok base → query.AgreesWith other base) :
      rows naming command arguments query = rows naming command arguments other := by
    unfold rows
    rw [rowsSelect_eq_of_agreesWith h]
  constructor
  · intro query other h
    have hsource : rowsSelect naming command other = rowsSelect source command other :=
      rowsSelect_congr (fun property _ => congrFun hcolumn property) command
    rw [hagrees h]
    unfold rows
    rw [hsource]
  · intro base hbase query
    refine ⟨fun hcolumns select => ?_, fun hlimits top => ?_, fun state select after h =>
      takesOver_of_yields hbase h⟩
    · apply hagrees
      intro read hread
      obtain rfl : base = read := Except.ok.inj (hbase.symm.trans hread)
      exact ⟨rfl, rfl, rfl, fun hempty => absurd hempty hcolumns, fun _ => rfl⟩
    · apply hagrees
      intro read hread
      obtain rfl : base = read := Except.ok.inj (hbase.symm.trans hread)
      exact ⟨rfl, rfl, rfl, fun _ => rfl, fun hnot => absurd hlimits hnot⟩

end Commands

/-- Users like those of `withOneIn`, but the query is for the seven first ones, for the orders of
each and for how many there are. -/
def withOrders : Query :=
  { withOneIn "Name" with
    entityType := "Customer"
    select := some (.items [.expansion (.ofName "Orders")])
    top := some 7
    count := some true
    rawValues := .ofPairs [("$top", "seven")] }

/-- The standard columns, and a key of its own for every entity type. -/
def otherKeys : Naming Unit :=
  .ofFunctions (fun property => some (Naming.standardColumn property)) fun name => name ++ "Id"

/-- A base command that has columns and limits the rows. -/
def threeAddresses : String := "SELECT TOP(3) [Email] FROM Users"

/-- The command for the rows. -/
def threeByAge : Select :=
  ⟨.verbatim "TOP(3)", .verbatim "[Email]", "FROM Users",
    ⟨.introduce, some (.binary (.column ⟨"[Name]"⟩) .equals (.parameter (.ofInt 1)))⟩,
    [⟨⟨"[Age]"⟩, .ascending⟩], .none⟩

set_option maxRecDepth 10000 in
/-- There is no column for the orders, and no more than three rows. -/
theorem rows_eq_withOrders :
    (baseCommand threeAddresses = .ok ⟨"TOP(3)", "[Email]", "FROM Users", false⟩ ∧
      withOrders.AgreesWith (withOneIn "Name") ⟨"TOP(3)", "[Email]", "FROM Users", false⟩ ∧
      rows (Naming.standard : Naming Unit) threeAddresses [] withOrders =
        rows otherKeys threeAddresses [] (withOneIn "Name")) ∧
    (∀ select,
      rows (Naming.standard : Naming Unit) threeAddresses [] { withOrders with select := select } =
        rows Naming.standard threeAddresses [] withOrders) ∧
    (∀ top,
      rows (Naming.standard : Naming Unit) threeAddresses [] { withOrders with top := top } =
        rows Naming.standard threeAddresses [] withOrders) ∧
    Yields (rowsSelect (Naming.standard : Naming Unit) threeAddresses withOrders) () threeByAge () ∧
    threeByAge.TakesOver ⟨"TOP(3)", "[Email]", "FROM Users", false⟩ ∧
    (threeByAge.statement []).text =
      "SELECT TOP(3) [Email] FROM Users WHERE ([Name] = @p0) ORDER BY [Age]" := by
  have hbase : baseCommand threeAddresses =
      .ok ⟨"TOP(3)", "[Email]", "FROM Users", false⟩ := by decide +kernel
  have hlimits : BaseCommand.LimitsAlone ⟨"TOP(3)", "[Email]", "FROM Users", false⟩ withOrders :=
    ⟨by decide, .inl rfl⟩
  have hagrees : withOrders.AgreesWith (withOneIn "Name")
      ⟨"TOP(3)", "[Email]", "FROM Users", false⟩ :=
    ⟨rfl, rfl, rfl, fun hempty => absurd hempty (by decide), fun hnot => absurd hlimits hnot⟩
  have hselect : Yields (rowsSelect (Naming.standard : Naming Unit) threeAddresses withOrders) ()
      threeByAge () :=
    yields_rowsSelect.2 ⟨_, _, _, _, (), (), hbase, rfl, rfl, rfl, rfl⟩
  have h := rows_eq_of_agreesWith (Naming.standard : Naming Unit) otherKeys rfl threeAddresses []
  obtain ⟨hcolumns, htop, htakes⟩ := h.2 _ hbase withOrders
  refine ⟨⟨hbase, hagrees, h.1 _ _ ?_⟩, hcolumns (by decide), htop hlimits, hselect,
    htakes _ _ _ hselect, rfl⟩
  intro base hread
  obtain rfl := Except.ok.inj (hbase.symm.trans hread)
  exact hagrees

end Translation
end ODataToSql
