import ODataToSql.Proofs.Columns
import ODataToSql.Proofs.Legible
import ODataToSql.Proofs.PolicyCheck

/-!
# How rows are limited

Two clauses limit the rows of a command. A `TOP` stands in front of the columns, and it is the base
command's own or the query's; `OFFSET` and `FETCH` stand behind the ordering. Each of them is chosen
without a look at the other, and there are two cases in which they do not meet:

* Where rows are skipped without an ordering, neither clause takes up the number of rows that is
  asked for, and the command has no limit. `limitsRows_iff_of_check` says that this is the only case
  of that kind.
* Where the base command has a `TOP` of its own and the rows are skipped in an ordering, both
  clauses are there. `limited_twice_iff` says that this is the only case of that kind.
-/

namespace ODataToSql

/-- Whether the query has a criterion to sort by. An empty list of criteria is none. -/
def Query.isOrdered (query : Query) : Bool :=
  query.orderBy.any fun items => !items.isEmpty

namespace Translation

open Sql

variable {σ : Type} {naming : Naming σ} {command : String} {query : Query} {base : BaseCommand}
  {select : Select} {state after : σ}

/-! ## The clauses of a query -/

/-- Rows are paged if some are skipped and there is an ordering. -/
lemma paging_eq (query : Query) :
    paging query =
      if query.skip.isSome = true ∧ query.isOrdered = true then ⟨query.skip, query.top⟩
      else .none := by
  unfold paging Query.isOrdered
  cases query.skip with
  | none => rfl
  | some skip =>
    cases query.orderBy with
    | none => rfl
    | some items => cases items <;> rfl

/-- A query has a `TOP` if no rows are skipped. -/
lemma top_eq (query : Query) :
    top query =
      match query.top with
      | some count => if query.skip = none then .rows count else .empty
      | none => .empty := by
  unfold top
  cases query.top with
  | none => rfl
  | some count => cases query.skip <;> rfl

/-- The base command's own `TOP` comes first. -/
lemma chosenTop_eq (base : BaseCommand) (query : Query) :
    chosenTop base query = if base.top = "" then top query else .verbatim base.top := by
  unfold chosenTop
  by_cases hbase : base.top = ""
  · rw [if_pos hbase, if_pos (String.isEmpty_iff.2 hbase)]
  · rw [if_neg hbase, if_neg (mt String.isEmpty_iff.1 hbase)]

/-! ## The limit that is asked for -/

/-- The rows of the command are limited by the base command's own `TOP`, or to the number. -/
def LimitsRows (base : BaseCommand) (count : UInt64) (select : Select) : Prop :=
  (base.top ≠ "" ∧ select.top = .verbatim base.top) ∨ select.top = .rows count ∨
    (select.paging.offset.isSome = true ∧ select.paging.fetch = some count)

/-- A number of rows that is asked for has no effect if rows are skipped without an ordering, unless
the base command has a limit. -/
lemma limitsRows_iff {count : UInt64} (htop : query.top = some count)
    (hselectTop : select.top = chosenTop base query)
    (hselectPaging : select.paging = paging query) :
    LimitsRows base count select ↔
      base.top ≠ "" ∨ query.skip = none ∨ query.isOrdered = true := by
  unfold LimitsRows
  rw [hselectTop, hselectPaging, chosenTop_eq, top_eq, paging_eq, htop]
  by_cases hbase : base.top = ""
  · cases hskip : query.skip with
    | none => simp [hbase]
    | some skip => cases hordered : query.isOrdered <;> simp [hbase, Paging.none]
  · simp [hbase]

/-- A query that passes a policy with a ceiling asks for no more rows than that, and its command is
limited to so many rows, or by the base command, if and only if the base command has a limit, no
rows are skipped, or there is an ordering. -/
theorem limitsRows_iff_of_check {policy : Policy} {max count : UInt64}
    (hcheck : Policy.check policy query = .ok ()) (hmax : policy.maxTop = some max)
    (htop : query.top = some count)
    (h : Yields (rowsSelect naming command query) state select after) :
    ∃ base, baseCommand command = .ok base ∧ count ≤ max ∧
      (LimitsRows base count select ↔
        base.top ≠ "" ∨ query.skip = none ∨ query.isOrdered = true) := by
  obtain ⟨base, list, condition, keys, first, second, hbase, -, -, -, rfl⟩ :=
    yields_rowsSelect.1 h
  exact ⟨base, hbase, (Policy.top_of_check hcheck htop).2 max hmax, limitsRows_iff htop rfl rfl⟩

/-- A policy with a ceiling. -/
def tenRows : Policy where
  maxTop := some 10

/-- Five of the users, after the first twenty. -/
def afterTwenty (orderBy : Option (List OrderItem)) : Query where
  entityType := "User"
  orderBy := orderBy
  skip := some 20
  top := some 5

/-- The command for five of the users after the first twenty, where they are sorted. -/
def sortedAfterTwenty : Select :=
  ⟨.empty, .star, "FROM", .none .introduce, [⟨⟨"[Id]"⟩, .ascending⟩], ⟨some 20, some 5⟩⟩

/-- In an ordering, the limit follows the offset. -/
theorem limitsRows_afterTwenty :
    ∃ base, baseCommand "SELECT FROM" = .ok base ∧ (5 : UInt64) ≤ 10 ∧
      (LimitsRows base 5 sortedAfterTwenty ↔
        base.top ≠ "" ∨ (some 20 : Option UInt64) = none ∨
          (afterTwenty (some [.ofName "Id" .ascending])).isOrdered = true) := by
  let query := afterTwenty (some [.ofName "Id" .ascending])
  have hbase : baseCommand "SELECT FROM" = .ok ⟨"", "", "FROM", false⟩ := by decide +kernel
  have hcheck : Policy.check tenRows query = .ok () := rfl
  have h : Yields (rowsSelect (Naming.standard : Naming Unit) "SELECT FROM" query) ()
      sortedAfterTwenty () :=
    yields_rowsSelect.2 ⟨_, _, _, _, (), (), hbase, rfl, rfl, rfl, rfl⟩
  exact @limitsRows_iff_of_check Unit Naming.standard "SELECT FROM" query sortedAfterTwenty () ()
    tenRows 10 5 hcheck rfl rfl h

/-- Without an ordering, all users are returned though no more than five are asked for. -/
theorem skip_drops_limit :
    Policy.check tenRows (afterTwenty none) = .ok () ∧
    Yields (rows (Naming.standard : Naming Unit) "SELECT FROM" [] (afterTwenty none)) ()
      ⟨"SELECT * FROM", []⟩ () ∧
    ∃ base select, baseCommand "SELECT FROM" = .ok base ∧
      Yields (rowsSelect (Naming.standard : Naming Unit) "SELECT FROM" (afterTwenty none)) () select
        () ∧
      ¬ LimitsRows base 5 select := by
  have hbase : baseCommand "SELECT FROM" = .ok ⟨"", "", "FROM", false⟩ := by decide +kernel
  have hselect : Yields (rowsSelect (Naming.standard : Naming Unit) "SELECT FROM"
      (afterTwenty none)) () ⟨.empty, .star, "FROM", .none .introduce, [], .none⟩ () :=
    yields_rowsSelect.2 ⟨_, _, _, _, (), (), hbase, rfl, rfl, rfl, rfl⟩
  have htext : (Select.statement ⟨.empty, .star, "FROM", .none .introduce, [], .none⟩ []) =
      ⟨"SELECT * FROM", []⟩ := rfl
  refine ⟨rfl, yields_rows.2 ⟨_, hselect, htext.symm⟩, _, _, hbase, hselect, ?_⟩
  rintro (⟨htop, -⟩ | htop | ⟨hoffset, -⟩)
  · exact htop rfl
  · cases htop
  · cases hoffset

/-! ## Two limits at once -/

/-- A `TOP` has a text if it is there. -/
lemma textFrom_chosenTop_ne_nil (base : BaseCommand) (query : Query) (position : Nat) :
    (chosenTop base query).fragment.textFrom position ≠ [] ↔
      base.top ≠ "" ∨ (query.top.isSome = true ∧ query.skip = none) := by
  rw [chosenTop_eq, top_eq]
  by_cases hbase : base.top = ""
  · cases query.top with
    | none => simp [hbase, Top.fragment, Fragment.textFrom]
    | some count => cases query.skip <;> simp [hbase, Top.fragment, Fragment.textFrom]
  · simp [hbase, Top.fragment, Fragment.textFrom]

/-- So has paging, and it starts with the offset. -/
lemma textFrom_paging_ne_nil (query : Query) (position : Nat) :
    (paging query).fragment.textFrom position ≠ [] ↔
      query.skip.isSome = true ∧ query.isOrdered = true := by
  rw [paging_eq]
  by_cases hpaged : query.skip.isSome = true ∧ query.isOrdered = true
  · obtain ⟨skip, hskip⟩ := Option.isSome_iff_exists.1 hpaged.1
    rw [if_pos hpaged, hskip]
    cases query.top <;> simp [Paging.fragment, Fragment.textFrom, hpaged.2]
  · rw [if_neg hpaged]
    simp [Paging.none, Paging.fragment, Fragment.textFrom, hpaged]

/-- An ordering has a text. -/
lemma textFrom_orderBy_ne_nil {keys : List SortKey} (hordered : query.isOrdered = true)
    (h : Yields (orderBy naming query.orderBy) state keys after) (position : Nat) :
    (orderByFragment keys).textFrom position ≠ [] := by
  have hlength := (forall₂_of_yields_sortKeys h).length_eq
  unfold Query.isOrdered at hordered
  cases hitems : query.orderBy with
  | none =>
    rw [hitems] at hordered
    cases hordered
  | some items =>
    rw [hitems] at hordered hlength
    cases keys with
    | nil =>
      -- no key is left out, so there was no criterion
      obtain rfl : items = [] := List.length_eq_zero_iff.1 hlength
      cases hordered
    | cons key rest => simp [orderByFragment, Fragment.textFrom]

/-- The word `FETCH` stands behind an offset only. -/
lemma textFrom_paging_of_fetch {paging : Paging} {position : Nat}
    (h : "FETCH".toList <:+: paging.fragment.textFrom position) :
    ∃ offset fetch, paging.fragment.textFrom position =
      ("OFFSET " ++ Text.decimal offset ++ " ROWS FETCH NEXT " ++ Text.decimal fetch ++
        " ROWS ONLY").toList := by
  obtain ⟨offset, fetch⟩ := paging
  cases offset with
  | none => exact absurd (List.infix_nil.1 h) (by decide)
  | some offset =>
    cases fetch with
    | some fetch => exact ⟨offset.toNat, fetch.toNat, by simp [Paging.fragment, Fragment.textFrom]⟩
    | none =>
      -- there is no `C` in an offset
      have hmem : 'C' ∈ (Paging.fragment ⟨some offset, none⟩).textFrom position :=
        h.subset (by decide)
      have hdigits := Text.not_mem_decimal (c := 'C') rfl offset.toNat
      rw [Text.toList_decimal] at hdigits
      simp [Paging.fragment, Fragment.textFrom, hdigits] at hmem

/-- A command has a `TOP` and an offset at once if and only if the base command has a `TOP` of its
own, and rows are skipped in an ordering. Paging stands behind an ordering, and a `FETCH` behind an
offset. -/
theorem limited_twice_iff (h : Yields (rowsSelect naming command query) state select after) :
    ∃ base, baseCommand command = .ok base ∧ ∀ position,
      (select.top.fragment.textFrom position ≠ [] ∧ select.paging.fragment.textFrom position ≠ [] ↔
        base.top ≠ "" ∧ query.skip.isSome = true ∧ query.isOrdered = true) ∧
      (select.paging.fragment.textFrom position ≠ [] →
        (orderByFragment select.orderBy).textFrom position ≠ []) ∧
      ("FETCH".toList <:+: select.paging.fragment.textFrom position →
        ∃ offset fetch, select.paging.fragment.textFrom position =
          ("OFFSET " ++ Text.decimal offset ++ " ROWS FETCH NEXT " ++ Text.decimal fetch ++
            " ROWS ONLY").toList) := by
  obtain ⟨base, list, condition, keys, first, second, hbase, -, -, hkeys, rfl⟩ :=
    yields_rowsSelect.1 h
  refine ⟨base, hbase, fun position => ⟨?_, ?_, textFrom_paging_of_fetch⟩⟩
  · rw [textFrom_chosenTop_ne_nil, textFrom_paging_ne_nil]
    cases query.skip <;> simp
  · intro hpaging
    obtain ⟨-, hordered⟩ := (textFrom_paging_ne_nil query position).1 hpaging
    exact textFrom_orderBy_ne_nil hordered hkeys position

/-- The users behind the first forty, in an ordering. -/
def behindForty : Query where
  entityType := "User"
  orderBy := some [.ofName "Id" .ascending]
  skip := some 40

/-- The command for them, on a base command for forty users. -/
def fortyBehindForty : Select :=
  ⟨.verbatim "TOP(40)", .star, "FROM", .none .introduce, [⟨⟨"[Id]"⟩, .ascending⟩], ⟨some 40, none⟩⟩

/-- The base command keeps its `TOP`, and the offset follows. -/
lemma yields_fortyBehindForty :
    Yields (rowsSelect (Naming.standard : Naming Unit) "SELECT TOP(40) FROM" behindForty) ()
      fortyBehindForty () := by
  have hbase : baseCommand "SELECT TOP(40) FROM" = .ok ⟨"TOP(40)", "", "FROM", false⟩ := by
    decide +kernel
  exact yields_rowsSelect.2 ⟨_, _, _, _, (), (), hbase, rfl, rfl, rfl, rfl⟩

/-- The base command has a `TOP`, and the rows are skipped in an ordering. -/
theorem limited_fortyBehindForty :
    ∃ base, baseCommand "SELECT TOP(40) FROM" = .ok base ∧ ∀ position,
      (fortyBehindForty.top.fragment.textFrom position ≠ [] ∧
        fortyBehindForty.paging.fragment.textFrom position ≠ [] ↔
        base.top ≠ "" ∧ behindForty.skip.isSome = true ∧ behindForty.isOrdered = true) ∧
      (fortyBehindForty.paging.fragment.textFrom position ≠ [] →
        (orderByFragment fortyBehindForty.orderBy).textFrom position ≠ []) ∧
      ("FETCH".toList <:+: fortyBehindForty.paging.fragment.textFrom position →
        ∃ offset fetch, fortyBehindForty.paging.fragment.textFrom position =
          ("OFFSET " ++ Text.decimal offset ++ " ROWS FETCH NEXT " ++ Text.decimal fetch ++
            " ROWS ONLY").toList) :=
  limited_twice_iff yields_fortyBehindForty

/-- The text of the command has a `TOP` and an offset. -/
theorem top_meets_offset :
    Yields (rows (Naming.standard : Naming Unit) "SELECT TOP(40) FROM" [] behindForty) ()
      ⟨"SELECT TOP(40) * FROM ORDER BY [Id] OFFSET 40 ROWS", []⟩ () ∧
    ∃ select,
      Yields (rowsSelect (Naming.standard : Naming Unit) "SELECT TOP(40) FROM" behindForty) ()
        select () ∧
      select.top.fragment.textFrom 0 ≠ [] ∧ select.paging.fragment.textFrom 0 ≠ [] := by
  have htext : fortyBehindForty.statement [] =
      ⟨"SELECT TOP(40) * FROM ORDER BY [Id] OFFSET 40 ROWS", []⟩ := rfl
  exact ⟨yields_rows.2 ⟨_, yields_fortyBehindForty, htext.symm⟩, _, yields_fortyBehindForty,
    by decide, by decide⟩

end Translation
end ODataToSql
