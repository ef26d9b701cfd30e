import ODataToSql.Proofs.TranslationSteps

/-!
# What a naming is asked

The questions that a translation asks of its naming, one after the other, and their answers.

* `AskFor`: steps ask for the columns of properties until one of them fails. The steps of a query
  ask for the properties that it mentions, in the order of the text.
* `Naming.recorded` answers like a naming and keeps a record, and `asked` is the record of a
  translation. `IsRecord` says which records there are for a list of steps.
* `ColumnRecord` puts the two together.
* The main result is `columnRecord_of_baseCommand`: the record of the command for the rows, and that
  of the command for their number.
-/

namespace ODataToSql

/-- A question and its answer. A key is always answered. -/
structure Exchange where
  call : Naming.Call
  answer : Option String

/-- The naming that keeps a record of what it is asked. -/
def Naming.recorded {σ : Type} (naming : Naming σ) : Naming (List Exchange × σ) where
  column property := fun (record, state) =>
    let ending := (naming.column property).run state
    (ending.1, record ++ [⟨.column property, ending.1⟩], ending.2)
  key entityType := fun (record, state) =>
    let ending := (naming.key entityType).run state
    (ending.1, record ++ [⟨.key entityType, some ending.1⟩], ending.2)

section Recorded

variable {σ : Type} {naming : Naming σ} {state after : σ}

lemma run_recorded_column {property : Property} {answer : Option String}
    (hrun : (naming.column property).run state = (answer, after)) (record : List Exchange) :
    (naming.recorded.column property).run (record, state) =
      (answer, record ++ [⟨.column property, answer⟩], after) := by
  obtain ⟨rfl, rfl⟩ := Prod.ext_iff.1 hrun
  rfl

lemma run_recorded_key {entityType answer : String}
    (hrun : (naming.key entityType).run state = (answer, after)) (record : List Exchange) :
    (naming.recorded.key entityType).run (record, state) =
      (answer, record ++ [⟨.key entityType, some answer⟩], after) := by
  obtain ⟨rfl, rfl⟩ := Prod.ext_iff.1 hrun
  rfl

end Recorded

namespace Translation

open Sql

variable {σ α : Type}

/-! ## Steps and properties -/

/-- The steps ask for the columns of the properties, from first to last, but no further than to a
step that fails by itself. -/
inductive AskFor : List Step → List Property → Prop where
  | nil : AskFor [] []
  | cons {property : Property} {steps : List Step} {properties : List Property}
      (hroot : property.isRoot = true) (hrest : AskFor steps properties) :
      AskFor (.ask (.column property) :: steps) (property :: properties)
  | fail (error : Error) (steps : List Step) (properties : List Property) :
      AskFor (.fail error :: steps) properties

lemma AskFor.append {first second : List Step} {properties rest : List Property}
    (hfirst : AskFor first properties) (hsecond : AskFor second rest) :
    AskFor (first ++ second) (properties ++ rest) := by
  induction hfirst with
  | nil => exact hsecond
  | cons hroot hrest ih => exact .cons hroot ih
  | fail error steps properties => exact .fail error _ _

lemma askFor_columnStep (property : Property) : AskFor [columnStep property] [property] := by
  unfold columnStep
  by_cases hroot : property.isRoot
  · rw [if_pos hroot]
    exact .cons hroot .nil
  · rw [if_neg hroot]
    exact .fail _ _ _

lemma askFor_operatorSteps (op : BinaryOp) : AskFor (operatorSteps op) [] := by
  cases op with
  | has => exact .fail _ _ _
  | _ => exact .nil

section Calls

variable {arguments : List Expr}
  (harguments : ∀ argument ∈ arguments, AskFor (steps argument) (mentioned argument))

include harguments

lemma askFor_argument (error : Error) (position : Nat) :
    AskFor ((arguments.map steps)[position]?.getD [.fail error])
      ((arguments[position]?.map mentioned).getD []) := by
  rw [List.getElem?_map]
  cases hposition : arguments[position]? with
  | none => exact .fail _ _ _
  | some argument => exact harguments argument (List.mem_of_getElem? hposition)

lemma askFor_flatten : AskFor (arguments.map steps).flatten (arguments.flatMap mentioned) := by
  induction arguments with
  | nil => exact .nil
  | cons argument rest ih =>
    obtain ⟨hargument, hrest⟩ := List.forall_mem_cons.1 harguments
    rw [List.map_cons, List.flatten_cons, List.flatMap_cons]
    exact hargument.append (ih hrest)

/-- The arguments of a call are asked for in the order in which they stand in its text. -/
lemma askFor_callSteps {name : String} {function : FilterFunction}
    (hname : FilterFunction.ofName? name = some function) :
    AskFor (callSteps function (arguments.map steps)) (mentioned (.call name arguments)) := by
  have hshape : callShape? name = some (shape function) := by rw [callShape?, hname]; rfl
  have hargument := askFor_argument harguments
  rw [mentioned_call hshape, callSteps]
  cases shape function with
  | like pattern | indexOf =>
    simp only [CallShape.positions, List.flatMap_cons, List.flatMap_nil, List.append_nil]
    exact (hargument _ _).append (hargument _ _)
  | trim | part | convert | totalSeconds =>
    simp only [CallShape.positions, List.flatMap_cons, List.flatMap_nil, List.append_nil]
    exact hargument _ _
  | direct scalar =>
    simp only [CallShape.positions, flatMap_range_getElem?]
    exact askFor_flatten harguments
  | unsupported => exact .fail _ _ _

end Calls

/-- An expression asks for the columns of the properties in its text. By induction on the
expression. -/
lemma askFor_steps (expr : Expr) : AskFor (steps expr) (mentioned expr) := by
  induction expr with
  | constant value =>
    rw [steps, mentioned]
    exact .nil
  | property property =>
    rw [steps, mentioned]
    exact askFor_columnStep property
  | binary op left right hleft hright =>
    rw [steps, mentioned]
    by_cases hlike : isLikeCall left
    · rw [if_pos hlike, if_pos hlike]
      exact hleft
    · rw [if_neg hlike, if_neg hlike]
      have hleft := hleft.append (askFor_operatorSteps op)
      rw [List.append_nil] at hleft
      exact hleft.append hright
  | unary op operand ih =>
    rw [mentioned]
    cases op with
    | not =>
      rw [steps]
      exact ih
    | negate => exact .fail _ _ _
  | call name arguments ih =>
    rw [steps, stepsOfAll_eq_map]
    cases hname : FilterFunction.ofName? name with
    | none => exact .fail _ _ _
    | some function => exact askFor_callSteps ih hname
  | cast operand ih =>
    rw [steps, mentioned]
    exact ih
  | lambda quantifier collection predicate => exact .fail _ _ _

/-! ## The properties of a query -/

section Query

variable (query : Query)

lemma askFor_selectSteps : AskFor query.selectSteps query.selected := by
  unfold Query.selectSteps Query.selected
  cases query.select with
  | none => exact .nil
  | some projection =>
    cases projection with
    | all => exact .nil
    | items items =>
      dsimp only
      by_cases hall : (Projection.items items).isAll
      · rw [if_pos hall, if_pos hall]
        exact .nil
      · rw [if_neg hall, if_neg hall]
        clear hall
        induction items with
        | nil => exact .nil
        | cons item rest ih =>
          cases item with
          | property property => exact (askFor_columnStep property).append ih
          | expansion | wildcard => exact .fail _ _ _

lemma askFor_filterSteps : AskFor query.filterSteps query.filtered := by
  unfold Query.filterSteps Query.filtered
  cases query.filter with
  | none => exact .nil
  | some filter => exact askFor_steps filter

lemma askFor_sortSteps : AskFor query.sortSteps query.sorted := by
  unfold Query.sortSteps Query.sorted
  induction query.orderBy.getD [] with
  | nil => exact .nil
  | cons item rest ih =>
    rw [List.map_cons, sortStep]
    cases hexpr : item.expr with
    | property property =>
      rw [List.filterMap_cons_some (by rw [OrderItem.property?, hexpr])]
      exact (askFor_columnStep property).append ih
    | _ => exact .fail _ _ _

/-- The command for the rows asks for the properties whose columns the query puts into it. -/
lemma askFor_rowSteps (base : BaseCommand) : AskFor (query.rowSteps base) (query.placed base) := by
  have hselect : AskFor (if base.columns = "" then query.selectSteps else [])
      (if base.columns = "" then query.selected else []) := by
    by_cases hcolumns : base.columns = ""
    · rw [if_pos hcolumns, if_pos hcolumns]
      exact askFor_selectSteps query
    · rw [if_neg hcolumns, if_neg hcolumns]
      exact .nil
  exact (hselect.append (askFor_filterSteps query)).append (askFor_sortSteps query)

end Query

/-! ## Records -/

/-- The answer is a column that is more than white space. -/
def HasColumn (answer : Option String) : Prop :=
  ∃ text ∈ answer, Text.isBlankText text = false

/-- The record of a translation that has the steps and ends so: every question up to the first
error, which is that of a step or that a property has no column. -/
inductive IsRecord : List Step → List Exchange → Except Error Unit → Prop where
  | done : IsRecord [] [] (.ok ())
  | column {property : Property} {answer : Option String} {steps : List Step}
      {record : List Exchange} {result : Except Error Unit} (hanswer : HasColumn answer)
      (hrest : IsRecord steps record result) :
      IsRecord (.ask (.column property) :: steps) (⟨.column property, answer⟩ :: record) result
  | noColumn {property : Property} {answer : Option String} {steps : List Step}
      (hanswer : ¬ HasColumn answer) :
      IsRecord (.ask (.column property) :: steps) [⟨.column property, answer⟩]
        (.error (.invalidColumn property))
  | key {entityType answer : String} {steps : List Step} {record : List Exchange}
      {result : Except Error Unit} (hrest : IsRecord steps record result) :
      IsRecord (.ask (.key entityType) :: steps) (⟨.key entityType, some answer⟩ :: record) result
  | fail {error : Error} {steps : List Step} : IsRecord (.fail error :: steps) [] (.error error)

/-- Nothing is asked before a step that fails by itself. -/
lemma IsRecord.eq_nil_of_fail {error : Error} {steps : List Step} {record : List Exchange}
    {result : Except Error Unit} (h : IsRecord (.fail error :: steps) record result) :
    record = [] := by
  cases h
  rfl

/-- How a translation ends, whatever its result is. -/
def ending (translation : Translation σ α) (state : σ) : Except Error Unit :=
  (outcome translation state).1.map fun _ => ()

/-- What a translation asks of a naming in a state, one question after the other. -/
def asked (naming : Naming σ)
    (translation : Naming (List Exchange × σ) → Translation (List Exchange × σ) α) (state : σ) :
    List Exchange :=
  (outcome (translation naming.recorded) ([], state)).2.1

section Follows

variable {naming : Naming σ} {steps : List Step}

lemma Follows.outcome_follow {translation : Translation σ α} (h : Follows naming translation steps)
    (state : σ) :
    outcome (follow naming steps) state =
      (ending translation state, (outcome translation state).2) := by
  unfold Follows at h
  unfold ending
  rw [← h, outcome_bind]
  rcases outcome translation state with ⟨e | a, after⟩ <;> rfl

lemma run_columnOf (naming : Naming σ) (property : Property) (state : σ) :
    (naming.columnOf property).run state =
      (((naming.column property).run state).1.filter fun column => !Text.isBlankText column,
        ((naming.column property).run state).2) :=
  rfl

section Column

variable {property : Property} {answer : Option String} {state after : σ}
  (hrun : (naming.column property).run state = (answer, after))

include hrun

lemma run_columnOf_of_hasColumn (hanswer : HasColumn answer) :
    (naming.columnOf property).run state = (answer, after) := by
  obtain ⟨text, rfl, hblank⟩ := hanswer
  rw [run_columnOf, hrun, Option.filter_some, hblank]
  rfl

lemma run_columnOf_of_not_hasColumn (hanswer : ¬ HasColumn answer) :
    (naming.columnOf property).run state = (none, after) := by
  have hnone : answer.filter (fun column => !Text.isBlankText column) = none := by
    rw [Option.filter_eq_none_iff]
    intro text htext hblank
    exact hanswer ⟨text, htext, by simpa using hblank⟩
  rw [run_columnOf, hrun, hnone]

lemma outcome_follow_column (hanswer : HasColumn answer) :
    outcome (follow naming (.ask (.column property) :: steps)) state =
      outcome (follow naming steps) after := by
  have hcolumn := run_columnOf_of_hasColumn hrun hanswer
  obtain ⟨text, rfl, -⟩ := hanswer
  rw [follow, outcome_bind, outcome_ask, hcolumn]

lemma outcome_follow_noColumn (hanswer : ¬ HasColumn answer) :
    outcome (follow naming (.ask (.column property) :: steps)) state =
      (.error (.invalidColumn property), after) := by
  rw [follow, outcome_bind, outcome_ask, run_columnOf_of_not_hasColumn hrun hanswer]
  rfl

end Column

lemma outcome_follow_key {entityType answer : String} {state after : σ}
    (hrun : (naming.key entityType).run state = (answer, after)) :
    outcome (follow naming (.ask (.key entityType) :: steps)) state =
      outcome (follow naming steps) after := by
  rw [follow, outcome_bind, outcome_ask, hrun]

end Follows

/-- The record of steps is behind what was recorded before, and recording changes nothing else. By
induction on the steps. -/
lemma exists_isRecord (naming : Naming σ) (steps : List Step) (before : List Exchange) (state : σ) :
    ∃ record,
      outcome (follow naming.recorded steps) (before, state) =
        ((outcome (follow naming steps) state).1, before ++ record,
          (outcome (follow naming steps) state).2) ∧
      IsRecord steps record (outcome (follow naming steps) state).1 := by
  induction steps generalizing before state with
  | nil => exact ⟨[], by rw [List.append_nil]; rfl, .done⟩
  | cons step rest ih =>
    cases step with
    | ask call =>
      cases call with
      | column property =>
        rcases hrun : (naming.column property).run state with ⟨answer, after⟩
        have hrecorded := run_recorded_column hrun before
        by_cases hanswer : HasColumn answer
        · rw [outcome_follow_column hrecorded hanswer, outcome_follow_column hrun hanswer]
          obtain ⟨record, houtcome, hrecord⟩ := ih (before ++ [⟨.column property, answer⟩]) after
          refine ⟨⟨.column property, answer⟩ :: record, ?_, .column hanswer hrecord⟩
          rw [houtcome, List.append_assoc, List.singleton_append]
        · rw [outcome_follow_noColumn hrecorded hanswer, outcome_follow_noColumn hrun hanswer]
          exact ⟨_, rfl, .noColumn hanswer⟩
      | key entityType =>
        rcases hrun : (naming.key entityType).run state with ⟨answer, after⟩
        rw [outcome_follow_key (run_recorded_key hrun before), outcome_follow_key hrun]
        obtain ⟨record, houtcome, hrecord⟩ :=
          ih (before ++ [⟨.key entityType, some answer⟩]) after
        refine ⟨⟨.key entityType, some answer⟩ :: record, ?_, .key hrecord⟩
        rw [houtcome, List.append_assoc, List.singleton_append]
    | fail error => exact ⟨[], by rw [List.append_nil]; rfl, .fail⟩

/-- A translation that follows steps has a record of them. -/
lemma isRecord_of_follows (naming : Naming σ) {steps : List Step}
    {translation : {τ : Type} → Naming τ → Translation τ α}
    (h : ∀ {τ : Type} (naming : Naming τ), Follows naming (translation naming) steps) (state : σ) :
    IsRecord steps (asked naming translation state) (ending (translation naming) state) := by
  obtain ⟨record, houtcome, hrecord⟩ := exists_isRecord naming steps [] state
  rw [(h naming).outcome_follow] at houtcome hrecord
  rw [(h naming.recorded).outcome_follow] at houtcome
  have hasked : asked naming translation state = record :=
    congrArg (fun outcome => outcome.2.1) houtcome
  rw [hasked]
  exact hrecord

section Properties

variable {steps : List Step} {properties : List Property} {record : List Exchange}
  {result : Except Error Unit} (hask : AskFor steps properties)
  (hrecord : IsRecord steps record result)

include hask hrecord

lemma AskFor.isRoot :
    ∀ exchange ∈ record, ∃ property, exchange.call = .column property ∧ property.isRoot = true := by
  induction hask generalizing record with
  | nil =>
    cases hrecord
    exact fun _ hmem => nomatch hmem
  | cons hroot hrest ih =>
    cases hrecord with
    | column hanswer hrecord =>
      exact List.forall_mem_cons.2 ⟨⟨_, rfl, hroot⟩, ih hrecord⟩
    | noColumn hanswer => exact List.forall_mem_singleton.2 ⟨_, rfl, hroot⟩
  | fail error steps properties =>
    cases hrecord
    exact fun _ hmem => nomatch hmem

lemma AskFor.begins :
    record.map Exchange.call <+: properties.map Naming.Call.column := by
  induction hask generalizing record with
  | nil =>
    cases hrecord
    exact List.prefix_rfl
  | cons hroot hrest ih =>
    cases hrecord with
    | column hanswer hrecord => exact (List.prefix_cons_inj _).2 (ih hrecord)
    | noColumn hanswer => exact (List.prefix_cons_inj _).2 List.nil_prefix
  | fail error steps properties =>
    cases hrecord
    exact List.nil_prefix

lemma AskFor.complete (hresult : result = .ok ()) :
    record.map Exchange.call = properties.map Naming.Call.column := by
  subst hresult
  induction hask generalizing record with
  | nil =>
    cases hrecord
    rfl
  | cons hroot hrest ih =>
    cases hrecord with
    | column hanswer hrecord => exact congrArg (_ :: ·) (ih hrecord)
  | fail error steps properties => cases hrecord

end Properties

/-! ## Commands -/

/-- The record of steps that ask for the columns of properties: each is a property of the queried
entity, they are asked for in their order, and all of them if there is a result. -/
structure ColumnRecord (steps : List Step) (properties : List Property) (record : List Exchange)
    (result : Except Error Unit) : Prop where
  isRecord : IsRecord steps record result
  isRoot : ∀ exchange ∈ record, ∃ property,
    exchange.call = .column property ∧ property.isRoot = true
  begins : record.map Exchange.call <+: properties.map Naming.Call.column
  complete : result = .ok () → record.map Exchange.call = properties.map Naming.Call.column

lemma AskFor.columnRecord {steps : List Step} {properties : List Property} {record : List Exchange}
    {result : Except Error Unit} (hask : AskFor steps properties)
    (hrecord : IsRecord steps record result) : ColumnRecord steps properties record result :=
  ⟨hrecord, hask.isRoot hrecord, hask.begins hrecord, hask.complete hrecord⟩

/-- The one question for the key, if there is a condition. -/
def keyExchanges (naming : Naming σ) (entityType : String) :
    Except Error Condition × σ → List Exchange
  | (.ok _, state) => [⟨.key entityType, some ((naming.key entityType).run state).1⟩]
  | (.error _, _) => []

section Commands

variable {command : String} {base : BaseCommand}

/-- The key is asked for behind all of the columns. -/
lemma asked_total (hbase : baseCommand command = .ok base) (naming : Naming σ)
    (arguments : List Datum) (query : Query) (state : σ) :
    asked naming (total · command arguments query) state =
      asked naming (condition · query.filter (conditionKeyword base)) state ++
        keyExchanges naming query.entityType
          (outcome (condition naming query.filter (conditionKeyword base)) state) := by
  obtain ⟨record, houtcome, -⟩ := exists_isRecord naming query.filterSteps [] state
  have hfilter {τ : Type} (naming : Naming τ) : Follows naming
      (condition naming query.filter (conditionKeyword base)) query.filterSteps :=
    follows_condition query (conditionKeyword base)
  have hfollows : Follows naming.recorded (total naming.recorded command arguments query)
      query.totalSteps := follows_total hbase arguments query
  have htotal := hfollows.outcome_follow ([], state)
  rw [Query.totalSteps, follow_append, outcome_bind, houtcome, (hfilter naming).outcome_follow]
    at htotal
  rw [(hfilter naming.recorded).outcome_follow, (hfilter naming).outcome_follow] at houtcome
  have hcondition :
      asked naming (condition · query.filter (conditionKeyword base)) state = record :=
    congrArg (fun outcome => outcome.2.1) houtcome
  have htotal : asked naming (total · command arguments query) state = _ :=
    (congrArg (fun outcome => outcome.2.1) htotal).symm
  rw [hcondition, htotal]
  -- recording does not change how the condition ends, and so the key is asked for in the same state
  unfold ending
  rcases outcome (condition naming query.filter (conditionKeyword base)) state with ⟨e | a, after⟩
  · exact (List.append_nil _).symm
  · rfl

/-- The number of rows is not translated unless the query asks for it. -/
lemma asked_count (naming : Naming σ) (command : String) (arguments : List Datum) (query : Query)
    (state : σ) :
    asked naming (count · command arguments query) state =
      if query.wantsCount then asked naming (total · command arguments query) state else [] := by
  unfold asked count
  by_cases hwants : query.wantsCount
  · simp only [if_pos hwants, outcome_bind]
    rcases outcome (total naming.recorded command arguments query) ([], state) with
      ⟨e | statement, after⟩ <;> rfl
  · simp only [if_neg hwants]
    rfl

/-- What a naming is asked. Nothing, if there is no base command. The command for the rows asks for
the columns of the projection, unless the base command has some, then for those of the filter and
then for those of the ordering. The command for the number of rows asks for those of the filter and
then for the key. -/
theorem columnRecord_of_baseCommand (naming : Naming σ) (command : String) (arguments : List Datum)
    (query : Query) (state : σ) :
    (∀ error, baseCommand command = .error error →
      asked naming (rows · command arguments query) state = [] ∧
      asked naming (total · command arguments query) state = [] ∧
      asked naming (count · command arguments query) state = []) ∧
    ∀ base, baseCommand command = .ok base →
      ColumnRecord (query.rowSteps base) (query.placed base)
        (asked naming (rows · command arguments query) state)
        (ending (rows naming command arguments query) state) ∧
      ColumnRecord query.filterSteps query.filtered
        (asked naming (condition · query.filter (conditionKeyword base)) state)
        (ending (condition naming query.filter (conditionKeyword base)) state) ∧
      asked naming (total · command arguments query) state =
        asked naming (condition · query.filter (conditionKeyword base)) state ++
          keyExchanges naming query.entityType
            (outcome (condition naming query.filter (conditionKeyword base)) state) ∧
      asked naming (count · command arguments query) state =
        if query.wantsCount then asked naming (total · command arguments query) state else [] := by
  have hcount := asked_count naming command arguments query state
  constructor
  · intro error hbase
    have hrows := isRecord_of_follows naming
      (fun _ => follows_rows_of_error hbase arguments query) state
    have htotal := isRecord_of_follows naming
      (fun _ => follows_total_of_error hbase arguments query) state
    rw [hcount]
    exact ⟨hrows.eq_nil_of_fail, htotal.eq_nil_of_fail, by rw [htotal.eq_nil_of_fail, ite_self]⟩
  · intro base hbase
    have hrows := isRecord_of_follows naming (fun _ => follows_rows hbase arguments query) state
    have hfilter := isRecord_of_follows naming
      (fun _ => follows_condition query (conditionKeyword base)) state
    exact ⟨(askFor_rowSteps query base).columnRecord hrows,
      (askFor_filterSteps query).columnRecord hfilter,
      asked_total hbase naming arguments query state, hcount⟩

end Commands

/-- A naming that has columns for the first three properties it is asked for. -/
def threeColumns : Naming ℕ where
  column _ := fun asked => (if asked < 3 then some "c" else none, asked + 1)
  key _ := fun asked => ("k", asked + 1)

/-- The numbers of the users whose address stands in their name at the place of their age, and how
many there are. -/
def placedByAge : Query where
  entityType := "User"
  select := some (.items [.property (.ofName "Id")])
  filter := some (.binary .equal
    (.call "indexof" [.property (.ofName "Name"), .property (.ofName "Email")])
    (.property (.ofName "Age")))
  count := some true

/-- The questions of the condition, the sought text before the text that it is sought in. -/
def placedByAgeRecord : List Exchange :=
  [⟨.column (.ofName "Email"), some "c"⟩, ⟨.column (.ofName "Name"), some "c"⟩,
    ⟨.column (.ofName "Age"), some "c"⟩]

set_option maxRecDepth 10000 in
/-- There is no column left for the age when the rows are asked for, and there is one when they are
counted. -/
theorem columnRecord_threeColumns :
    (baseCommand "SELECT" = .error (.unsupportedShape "SELECT") ∧
      asked threeColumns (rows · "SELECT" [] placedByAge) 0 = [] ∧
      asked threeColumns (total · "SELECT" [] placedByAge) 0 = []) ∧
    baseCommand "SELECT FROM Users" = .ok ⟨"", "", "FROM Users", false⟩ ∧
    ColumnRecord (placedByAge.rowSteps ⟨"", "", "FROM Users", false⟩)
      [.ofName "Id", .ofName "Email", .ofName "Name", .ofName "Age"]
      [⟨.column (.ofName "Id"), some "c"⟩, ⟨.column (.ofName "Email"), some "c"⟩,
        ⟨.column (.ofName "Name"), some "c"⟩, ⟨.column (.ofName "Age"), none⟩]
      (.error (.invalidColumn (.ofName "Age"))) ∧
    ColumnRecord placedByAge.filterSteps [.ofName "Email", .ofName "Name", .ofName "Age"]
      placedByAgeRecord (.ok ()) ∧
    asked threeColumns (count · "SELECT FROM Users" [] placedByAge) 0 =
      placedByAgeRecord ++ [⟨.key "User", some "k"⟩] := by
  have hnone : baseCommand "SELECT" = .error (.unsupportedShape "SELECT") := by decide +kernel
  have hbase : baseCommand "SELECT FROM Users" = .ok ⟨"", "", "FROM Users", false⟩ := by
    decide +kernel
  have h := (columnRecord_of_baseCommand threeColumns "SELECT" [] placedByAge 0).1 _ hnone
  obtain ⟨hrows, hfilter, htotal, hcount⟩ :=
    (columnRecord_of_baseCommand threeColumns "SELECT FROM Users" [] placedByAge 0).2 _ hbase
  exact ⟨⟨hnone, h.1, h.2.1⟩, hbase, hrows, hfilter, hcount.trans htotal⟩

end Translation
end ODataToSql
