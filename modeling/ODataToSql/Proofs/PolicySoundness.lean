import ODataToSql.Proofs.CommandClauses
import ODataToSql.Proofs.PolicyCheck
import ODataToSql.Proofs.TermOf

/-!
# What a policy promises of commands

The check looks at a query and the translation at the same query, each in its own way. A query that
passes has no command with anything in it that the policy does not allow.

* `operatorSource`, `likeSource`, `partSource`, `typeSource` and `callSource?` lead back from what
  occurs in a condition to the operator or function of the filter language that it stems from.
* `Permitted` says of one node of a condition that its source is allowed, and `Admits` says what the
  clauses of a command contain.
* `permitted_of_checkExpr` is the step for filters, by induction on how a term comes about.
* The main result is `admits_of_check`.
-/

namespace ODataToSql.Policy

open Sql Translation

/-! ## Sources -/

/-- The operator that an operator of a condition stems from. -/
def operatorSource : Sql.Operator → Operator
  | .and => .and
  | .or => .or
  | .equals | .is => .equal
  | .notEquals | .isNot => .notEqual
  | .greaterThan => .greaterThan
  | .greaterThanOrEqualTo => .greaterThanOrEqual
  | .lessThan => .lessThan
  | .lessThanOrEqualTo => .lessThanOrEqual
  | .add => .add
  | .subtract => .subtract
  | .multiply => .multiply
  | .divide => .divide
  | .modulo => .modulo

/-- The function that a `LIKE` with the pattern stems from. -/
def likeSource : LikePattern → FilterFunction
  | .contains => .contains
  | .startsWith => .startsWith
  | .endsWith => .endsWith

/-- The function that a `DATEPART` of the part stems from. -/
def partSource : DatePart → FilterFunction
  | .hour => .hour
  | .minute => .minute
  | .second => .second
  | .tzOffset => .totalOffsetMinutes

/-- The function that a `CAST` to the type stems from. -/
def typeSource : ScalarType → FilterFunction
  | .date => .date
  | .time => .time

/-- The function that a call stems from. Of a `DATEPART` it is the part that says so. -/
def callSource? : ScalarFunction → List Term → Option FilterFunction
  | .charIndex, _ => some .indexOf
  | .lTrim, _ | .rTrim, _ => some .trim
  | .datePart, .datePart part :: _ => some (partSource part)
  | .datePart, _ => none
  | .dateDiff, _ => some .totalSeconds
  | .len, _ => some .length
  | .lower, _ => some .toLower
  | .upper, _ => some .toUpper
  | .getUtcDate, _ => some .now
  | .substring, _ => some .substring
  | .concat, _ => some .concat
  | .year, _ => some .year
  | .month, _ => some .month
  | .day, _ => some .day
  | .round, _ => some .round
  | .floor, _ => some .floor
  | .ceiling, _ => some .ceiling

/-- What the node of a condition stems from is allowed. Columns, literals, bound values and
parentheses are. -/
def Permitted (policy : Policy) : Term → Prop
  | .binary _ operator _ => policy.operators.allows (operatorSource operator) = true
  | .not _ => policy.operators.allows .not = true
  | .like _ pattern _ => policy.functions.allows (likeSource pattern) = true
  | .call function arguments =>
    ∃ source ∈ callSource? function arguments, policy.functions.allows source = true
  | .datePart part =>
    policy.functions.allows (partSource part) = true ∨
      part = .second ∧ policy.functions.allows .totalSeconds = true
  | .cast _ type => policy.functions.allows (typeSource type) = true
  | .column _ | .null | .int _ | .parameter _ | .nested _ => True

/-! ## Sources of what is translated -/

/-- The operator of a term stems from the operator of the filter. -/
lemma operatorSource_eq {op : BinaryOp} {sign : Sql.Operator}
    (h : Translation.operator op = .ok sign) : operatorSource sign = .ofBinary op := by
  cases op <;> cases h <;> rfl

lemma operatorSource_eq_of_nullOperator {op : BinaryOp} {sign : Sql.Operator}
    (h : nullOperator op = .ok sign) : operatorSource sign = .ofBinary op := by
  cases op <;> cases h <;> rfl

/-- The function that calls of the shape stem from. -/
def shapeSource? : CallShape → Option FilterFunction
  | .like pattern => some (likeSource pattern)
  | .indexOf => some .indexOf
  | .trim => some .trim
  | .part part => some (partSource part)
  | .convert type => some (typeSource type)
  | .totalSeconds => some .totalSeconds
  | .direct function => callSource? function []
  | .unsupported => none

lemma shapeSource?_shape {function : FilterFunction} (h : shape function ≠ .unsupported) :
    shapeSource? (shape function) = some function := by
  cases function <;> first | rfl | exact absurd rfl h

/-- Only of a `DATEPART` do the arguments matter, and there have to be some. -/
lemma callSource?_of_nil {function : ScalarFunction} {source : FilterFunction}
    (h : callSource? function [] = some source) (arguments : List Term) :
    callSource? function arguments = some source := by
  cases function <;> first | exact h | cases h

section Filters

variable {policy : Policy}

/-- A call that passes the check stems from a function that is allowed, and each of its arguments
passes. -/
lemma source_of_checkExpr_call {name : String} {arguments : List Expr} {shape : CallShape}
    (hcheck : checkExpr policy (.call name arguments) = .ok ())
    (hshape : callShape? name = some shape) (hsupported : shape ≠ .unsupported) :
    ∃ source, shapeSource? shape = some source ∧ policy.functions.allows source = true ∧
      ∀ argument ∈ arguments, checkExpr policy argument = .ok () := by
  obtain ⟨hfunction, harguments⟩ := checkExpr_call.1 hcheck
  obtain ⟨function, hname, hallows⟩ := checkFunction_eq_ok.1 hfunction
  rw [callShape?, hname] at hshape
  obtain rfl : Translation.shape function = shape := Option.some.inj hshape
  exact ⟨function, shapeSource?_shape hsupported, hallows, harguments⟩

/-- In a term of a filter that passes the check, everything is permitted. By induction on how the
term comes about: each of its cases has a check of its own. -/
lemma permitted_of_checkExpr {columns : Property → Column → Prop} {expr : Expr} {term : Term}
    (h : TermOf columns expr term) (hcheck : checkExpr policy expr = .ok ()) :
    term.Everywhere (Permitted policy) := by
  induction h with
  | cast hoperand ih => exact ih (checkExpr_cast.1 hcheck)
  | null | parameter | column => simp [Permitted]
  | likeOperand hlike hleft ih =>
    -- the operator is checked as well, though it does not occur in the text
    obtain ⟨-, hleft, -⟩ := checkExpr_binary.1 hcheck
    exact Term.everywhere_nested.2 ⟨trivial, ih hleft⟩
  | nullOperand hlike hnull hsign hleft ih =>
    obtain ⟨hop, hleft, -⟩ := checkExpr_binary.1 hcheck
    rw [← operatorSource_eq_of_nullOperator hsign] at hop
    exact Term.everywhere_binary.2 ⟨hop, ih hleft, Term.everywhere_null.2 trivial⟩
  | operands hlike hnull hsign hleft hright ihleft ihright =>
    obtain ⟨hop, hleft, hright⟩ := checkExpr_binary.1 hcheck
    rw [← operatorSource_eq hsign] at hop
    exact Term.everywhere_binary.2 ⟨hop, ihleft hleft, ihright hright⟩
  | not hoperand ih =>
    obtain ⟨hop, hoperand⟩ := checkExpr_unary.1 hcheck
    exact Term.everywhere_not.2 ⟨hop, ih hoperand⟩
  | like hshape hoperand hvalue ihoperand ihvalue =>
    obtain ⟨_, ⟨⟩, hallows, harguments⟩ := source_of_checkExpr_call hcheck hshape (by simp)
    exact Term.everywhere_like.2
      ⟨hallows, ihoperand (harguments _ (by simp)), ihvalue (harguments _ (by simp))⟩
  | indexOf hshape htext hsought ihtext ihsought =>
    obtain ⟨_, ⟨⟩, hallows, harguments⟩ := source_of_checkExpr_call hcheck hshape (by simp)
    have htext := ihtext (harguments _ (by simp))
    have hsought := ihsought (harguments _ (by simp))
    exact Term.everywhere_call.2 ⟨⟨_, rfl, hallows⟩, by simp [htext, hsought]⟩
  | trim hshape hoperand ih =>
    obtain ⟨_, ⟨⟩, hallows, harguments⟩ := source_of_checkExpr_call hcheck hshape (by simp)
    have hoperand := ih (harguments _ (by simp))
    -- both calls stem from the one in the filter
    have hinner : (Term.call .rTrim [_]).Everywhere (Permitted policy) :=
      Term.everywhere_call.2 ⟨⟨_, rfl, hallows⟩, List.forall_mem_singleton.2 hoperand⟩
    exact Term.everywhere_call.2 ⟨⟨_, rfl, hallows⟩, List.forall_mem_singleton.2 hinner⟩
  | part hshape hoperand ih =>
    obtain ⟨_, ⟨⟩, hallows, harguments⟩ := source_of_checkExpr_call hcheck hshape (by simp)
    have hoperand := ih (harguments _ (by simp))
    exact Term.everywhere_call.2 ⟨⟨_, rfl, hallows⟩, by simp [Permitted, hallows, hoperand]⟩
  | convert hshape hoperand ih =>
    obtain ⟨_, ⟨⟩, hallows, harguments⟩ := source_of_checkExpr_call hcheck hshape (by simp)
    exact Term.everywhere_cast.2 ⟨hallows, ih (harguments _ (by simp))⟩
  | totalSeconds hshape hoperand ih =>
    obtain ⟨_, ⟨⟩, hallows, harguments⟩ := source_of_checkExpr_call hcheck hshape (by simp)
    have hoperand := ih (harguments _ (by simp))
    exact Term.everywhere_call.2 ⟨⟨_, rfl, hallows⟩, by simp [Permitted, hallows, hoperand]⟩
  | @direct name function pairs hshape hpairs ih =>
    obtain ⟨source, hsource, hallows, harguments⟩ :=
      source_of_checkExpr_call hcheck hshape (by simp)
    refine Term.everywhere_call.2 ⟨⟨source, callSource?_of_nil hsource _, hallows⟩, ?_⟩
    -- the term of each argument is a term of an expression that was checked
    intro argument hmem
    obtain ⟨pair, hpair, rfl⟩ := List.mem_map.1 hmem
    exact ih pair hpair (harguments pair.1 (List.mem_map_of_mem hpair))

end Filters

/-! ## Commands -/

/-- What the clauses of a command contain is allowed. The clauses that the caller's base command
supplies are not a matter of the policy. -/
structure Admits (policy : Policy) (select : Select) : Prop where
  predicate : ∀ predicate ∈ select.condition.predicate,
    policy.options.allows .filter = true ∧ predicate.Everywhere (Permitted policy)
  orderBy : select.orderBy ≠ [] → policy.options.allows .orderBy = true
  columns : ∀ columns, select.list = .columns columns → policy.options.allows .select = true
  top : ∀ n, select.top = .rows n →
    policy.options.allows .top = true ∧ ∀ max ∈ policy.maxTop, n ≤ max
  fetch : ∀ n, select.paging.fetch = some n →
    policy.options.allows .top = true ∧ ∀ max ∈ policy.maxTop, n ≤ max
  offset : ∀ n, select.paging.offset = some n →
    policy.options.allows .skip = true ∧ ∀ max ∈ policy.maxSkip, n ≤ max

section Commands

variable {σ : Type} {naming : Naming σ} {policy : Policy} {command : String}
  {arguments : List Datum} {query : Query} {state after : σ}

/-- A `TOP` with a number of rows is the query's. -/
lemma top_of_chosenTop {base : BaseCommand} {n : UInt64} (h : chosenTop base query = .rows n) :
    query.top = some n := by
  unfold chosenTop at h
  by_cases hbase : base.top.isEmpty
  · rw [if_pos hbase] at h
    unfold Translation.top at h
    split at h
    · cases h
      assumption
    · cases h
  · rw [if_neg hbase] at h
    cases h

/-- Rows are skipped and fetched only in the numbers of the query. -/
lemma fetch_of_paging {n : UInt64} (h : (paging query).fetch = some n) : query.top = some n := by
  unfold paging at h
  split at h
  · exact h
  · cases h

lemma offset_of_paging {n : UInt64} (h : (paging query).offset = some n) :
    query.skip = some n := by
  unfold paging at h
  split at h
  · cases h
    assumption
  · cases h

/-- A list of columns that is not the caller's is the projection of the query. -/
lemma select_of_chosenList {base : BaseCommand} {columns : List Column}
    (h : Yields (chosenList naming base query) state (.columns columns) after) :
    query.select.isSome = true := by
  unfold chosenList at h
  by_cases hbase : base.columns.isEmpty
  · rw [if_pos hbase] at h
    cases hselect : query.select with
    | none =>
      rw [hselect, selectList, yields_pure] at h
      obtain ⟨hlist, -⟩ := h
      cases hlist
      simp
    | some projection => rfl
  · rw [if_neg hbase, yields_pure] at h
    obtain ⟨hlist, -⟩ := h
    cases hlist

/-- Without criteria there are no sort keys. -/
lemma orderBy_of_yields {keys : List SortKey} (hne : keys ≠ [])
    (h : Yields (orderBy naming query.orderBy) state keys after) :
    query.orderBy.isSome = true := by
  cases horderBy : query.orderBy with
  | none =>
    rw [horderBy] at h
    obtain ⟨rfl, -⟩ := yields_pure.1 h
    exact absurd rfl hne
  | some items => rfl

/-- The condition of a query that passes the check is permitted. -/
lemma permitted_of_yields_condition (hcheck : check policy query = .ok ())
    {keyword : ConditionKeyword} {result : Condition}
    (h : Yields (condition naming query.filter keyword) state result after) :
    ∀ predicate ∈ result.predicate,
      policy.options.allows .filter = true ∧ predicate.Everywhere (Permitted policy) := by
  intro predicate hmem
  obtain ⟨expr, hfilter, hterm⟩ := yields_term_of_condition h predicate hmem
  obtain ⟨hallows, hexpr⟩ := checkExpr_of_check hcheck hfilter
  exact ⟨hallows, permitted_of_checkExpr (termOf_of_yields hterm) hexpr⟩

/-- A query that passes the check of a policy has no command with anything in it that the policy
does not allow: neither for the rows nor for the number of rows, and the latter only if the number
may be asked for. -/
theorem admits_of_check (hcheck : check policy query = .ok ()) :
    (∀ select, Yields (rowsSelect naming command query) state select after → policy.Admits select) ∧
    (∀ select, Yields (countSelect naming command query) state select after →
      policy.Admits select) ∧
    (∀ statement, Yields (count naming command arguments query) state (some statement) after →
      policy.options.allows .count = true) := by
  refine ⟨?_, ?_, ?_⟩
  · intro select h
    obtain ⟨base, list, condition, keys, first, second, -, hlist, hcondition, hkeys, rfl⟩ :=
      yields_rowsSelect.1 h
    constructor
    case predicate => exact permitted_of_yields_condition hcheck hcondition
    case orderBy =>
      intro hne
      exact (allows_of_hasTyped hcheck .orderBy (orderBy_of_yields hne hkeys)).1
    case columns =>
      rintro columns rfl
      exact (allows_of_hasTyped hcheck .select (select_of_chosenList hlist)).1
    case top => exact fun n htop => top_of_check hcheck (top_of_chosenTop htop)
    case fetch => exact fun n hfetch => top_of_check hcheck (fetch_of_paging hfetch)
    case offset => exact fun n hoffset => skip_of_check hcheck (offset_of_paging hoffset)
  · intro select h
    obtain ⟨base, condition, key, first, -, hcondition, -, rfl⟩ := yields_countSelect.1 h
    constructor
    case predicate => exact permitted_of_yields_condition hcheck hcondition
    -- the other clauses of the command are not the query's
    case orderBy => exact fun hne => absurd rfl hne
    case columns => exact fun columns hlist => nomatch hlist
    case top => exact fun n htop => nomatch htop
    case fetch => exact fun n hfetch => nomatch hfetch
    case offset => exact fun n hoffset => nomatch hoffset
  · intro statement h
    obtain ⟨hwants, -⟩ := yields_count.1 h
    have htyped : query.hasTyped .count = true := by
      rw [Query.wantsCount, beq_iff_eq] at hwants
      rw [Query.hasTyped, hwants]
      rfl
    exact (allows_of_hasTyped hcheck .count htyped).1

end Commands

/-- A policy under which texts may be looked for, and some of the matching rows be asked for. -/
def searchOnly : Policy where
  options := .ofList [.filter, .top, .count]
  operators := .ofList []
  functions := .ofList [.contains]
  maxTop := some 10

/-- Five of the users whose name contains a text. -/
def fiveUsers : Query where
  entityType := "User"
  filter := some (.call "contains" [.ofName "Name", .constant ⟨.string "b", rfl⟩])
  top := some 5
  count := some true

/-- The condition that a column contains a text. -/
def nameContains : Condition :=
  ⟨.introduce, some (.like (.column ⟨"[Name]"⟩) .contains (.parameter ⟨.string "b", rfl⟩))⟩

/-- The search for five users passes the check, and both of its commands are admitted. -/
theorem admits_fiveUsers :
    check searchOnly fiveUsers = .ok () ∧
    searchOnly.Admits ⟨.rows 5, .star, "FROM Users", nameContains, [], .none⟩ ∧
    searchOnly.Admits (.counting ⟨"[Id]"⟩ "FROM Users" nameContains) ∧
    searchOnly.options.allows .count = true := by
  let naming : Naming Unit := .ofFunctions (fun _ => some "[Name]") fun _ => "[Id]"
  have hcheck : check searchOnly fiveUsers = .ok () := rfl
  have hbase : baseCommand "SELECT FROM Users" = .ok ⟨"", "", "FROM Users", false⟩ := by
    decide +kernel
  have hcondition : Yields (condition naming fiveUsers.filter .introduce) () nameContains () := rfl
  have hrows : Yields (rowsSelect naming "SELECT FROM Users" fiveUsers) ()
      ⟨.rows 5, .star, "FROM Users", nameContains, [], .none⟩ () :=
    yields_rowsSelect.2 ⟨_, _, _, _, (), (), hbase, rfl, hcondition, rfl, rfl⟩
  have hcount : Yields (countSelect naming "SELECT FROM Users" fiveUsers) ()
      (.counting ⟨"[Id]"⟩ "FROM Users" nameContains) () :=
    yields_countSelect.2 ⟨_, _, _, (), hbase, hcondition, rfl, rfl⟩
  have hcompanion : Yields (count naming "SELECT FROM Users" [] fiveUsers) ()
      (some ((Select.counting ⟨"[Id]"⟩ "FROM Users" nameContains).statement [])) () :=
    yields_count.2 ⟨rfl, yields_total.2 ⟨_, hcount, rfl⟩⟩
  obtain ⟨hadmitsRows, hadmitsCount, hadmitsCompanion⟩ :=
    @admits_of_check Unit naming searchOnly "SELECT FROM Users" [] fiveUsers () () hcheck
  exact ⟨hcheck, hadmitsRows _ hrows, hadmitsCount _ hcount, hadmitsCompanion _ hcompanion⟩

end ODataToSql.Policy
