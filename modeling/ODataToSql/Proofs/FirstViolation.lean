import ODataToSql.Policy.Check
import Mathlib.Tactic.Lemma

/-!
# The first violation

A policy judges a query by its features: the options that it has, what stands at the nodes of its
filter, and its numbers of rows. `Query.features` lists them in one sequence, and `violation?` says
of each of them whether it violates the policy, on its own and without a look at the others.

* A feature that is a node says nothing about what stands below it; that comes later in the
  sequence.
* `check_eq_scan`: the check is the search for the first feature that violates the policy.
* The main result is `check_reports_first`: a query passes if no feature is a violation, the first
  one that is decides what is reported, and what comes behind that one makes no difference.
-/

namespace ODataToSql

namespace Expr

/-- What stands at a node of an expression, without its operands. -/
inductive Node where
  /-- A constant or a property. -/
  | leaf
  | cast
  | binary (op : BinaryOp)
  | unary (op : UnaryOp)
  | call (name : String)
  | lambda (quantifier : Quantifier)
deriving DecidableEq, Repr

mutual

/-- The nodes of an expression, each in front of those below it, and these from left to right. The
collection of a quantifier is none of them. -/
def nodes : Expr → List Node
  | .constant _ | .property _ => [.leaf]
  | .cast operand => .cast :: operand.nodes
  | .binary op left right => .binary op :: (left.nodes ++ right.nodes)
  | .unary op operand => .unary op :: operand.nodes
  | .call name arguments => .call name :: nodesOfAll arguments
  | .lambda quantifier _ none => [.lambda quantifier]
  | .lambda quantifier _ (some predicate) => .lambda quantifier :: predicate.nodes

/-- The nodes of expressions from left to right. -/
def nodesOfAll : List Expr → List Node
  | [] => []
  | expr :: rest => expr.nodes ++ nodesOfAll rest

end
end Expr

namespace Policy

/-! ## Features -/

/-- What a policy judges a query by. -/
inductive Feature where
  /-- The query has the option. -/
  | option (option : QueryOption)
  /-- The filter has the node. -/
  | node (node : Expr.Node)
  /-- So many rows are to be skipped. -/
  | skip (count : UInt64)
  /-- So many rows are asked for. -/
  | top (count : UInt64)
deriving DecidableEq, Repr

/-- The features of the value of an option. -/
def valueFeatures (query : Query) : QueryOption → List Feature
  | .filter => query.filter.elim [] fun filter => filter.nodes.map .node
  | .skip => query.skip.toList.map .skip
  | .top => query.top.toList.map .top
  | _ => []

/-- The features of an option: that the query has it comes first. -/
def optionFeatures (query : Query) (option : QueryOption) : List Feature :=
  if query.hasOption option then .option option :: valueFeatures query option else []

end Policy

/-- The features of a query, option by option. -/
def Query.features (query : Query) : List Policy.Feature :=
  [.count, .deltaToken, .format, .filter, .orderBy, .search, .select, .expand, .skip, .skipToken,
    .top, .apply].flatMap (Policy.optionFeatures query)

namespace Policy

variable {policy : Policy} {query : Query}

/-! ## Violations -/

/-- How an operator violates the policy. -/
def operatorViolation? (policy : Policy) (op : Operator) : Option Violation :=
  if policy.operators.allows op then none else some (.operatorNotAllowed op)

/-- How a function violates the policy. -/
def functionViolation? (policy : Policy) (function : FilterFunction) : Option Violation :=
  if policy.functions.allows function then none else some (.functionNotAllowed function.name)

/-- How a node violates the policy. A negation counts as `not`, quantifiers are functions, and a
function that nobody knows is never allowed. -/
def nodeViolation? (policy : Policy) : Expr.Node → Option Violation
  | .leaf | .cast => none
  | .binary op => policy.operatorViolation? (.ofBinary op)
  | .unary _ => policy.operatorViolation? .not
  | .call name =>
    match FilterFunction.ofName? name with
    | some function => policy.functionViolation? function
    | none => some (.functionNotAllowed name)
  | .lambda .any => policy.functionViolation? .any
  | .lambda .all => policy.functionViolation? .all

/-- How a feature violates the policy. A number of rows has to be above its ceiling for that. -/
def violation? (policy : Policy) : Feature → Option Violation
  | .option option => if policy.options.allows option then none else some (.optionNotAllowed option)
  | .node node => policy.nodeViolation? node
  | .skip count => policy.maxSkip.bind fun max =>
      if max < count then some (.skipExceeded count max) else none
  | .top count => policy.maxTop.bind fun max =>
      if max < count then some (.topExceeded count max) else none

/-! ## The search for the first violation -/

/-- Reports the first of the features that violates the policy, if there is one. -/
def scan (policy : Policy) (features : List Feature) : Except Violation Unit :=
  match features.findSome? policy.violation? with
  | none => .ok ()
  | some violation => .error violation

@[simp]
lemma scan_nil : policy.scan [] = .ok () := rfl

lemma scan_singleton (feature : Feature) :
    policy.scan [feature] =
      match policy.violation? feature with
      | none => .ok ()
      | some violation => .error violation := by
  unfold scan
  rw [List.findSome?_singleton]

/-- The second part of a sequence is searched only if the first one has no violation. -/
lemma scan_append (first second : List Feature) :
    policy.scan (first ++ second) = (policy.scan first >>= fun _ => policy.scan second) := by
  unfold scan
  rw [List.findSome?_append]
  cases first.findSome? policy.violation? <;> rfl

lemma scan_cons (feature : Feature) (rest : List Feature) :
    policy.scan (feature :: rest) = (policy.scan [feature] >>= fun _ => policy.scan rest) :=
  scan_append [feature] rest

/-! ### Filters -/

lemma checkOperator_eq_scan {op : Operator} (node : Expr.Node)
    (h : policy.nodeViolation? node = policy.operatorViolation? op) :
    checkOperator policy op = policy.scan [.node node] := by
  rw [scan_singleton, violation?, h]
  unfold checkOperator operatorViolation?
  split <;> rfl

lemma checkFunction_eq_scan_call (name : String) :
    checkFunction policy name = policy.scan [.node (.call name)] := by
  rw [scan_singleton, violation?, nodeViolation?]
  unfold checkFunction
  cases hname : FilterFunction.ofName? name with
  | none => rfl
  | some function =>
    -- the name in the report is the one that was looked up
    obtain rfl : function.name = name := Enumeration.ofName?_eq_some_iff.1 hname
    show (if policy.functions.allows function = true then _ else _) = _
    simp only [functionViolation?]
    split <;> rfl

lemma checkFunction_eq_scan_lambda (quantifier : Quantifier) :
    checkFunction policy quantifier.name = policy.scan [.node (.lambda quantifier)] := by
  rw [checkFunction_eq_scan_call, scan_singleton, scan_singleton]
  cases quantifier <;> rfl

/-- The check of a filter searches its nodes. By induction on the filter. -/
lemma checkExpr_eq_scan (expr : Expr) :
    checkExpr policy expr = policy.scan (expr.nodes.map .node) := by
  induction expr with
  | constant value => rfl
  | property property => rfl
  | binary op left right hleft hright =>
    rw [checkExpr, Expr.nodes, List.map_cons, scan_cons, List.map_append, scan_append,
      checkOperator_eq_scan (.binary op) rfl, hleft, hright]
  | unary op operand ih =>
    have hop : Operator.ofUnary op = .not := by cases op <;> rfl
    rw [checkExpr, Expr.nodes, List.map_cons, scan_cons, hop,
      checkOperator_eq_scan (.unary op) rfl, ih]
  | call name arguments ih =>
    have harguments : checkExprs policy arguments =
        policy.scan ((Expr.nodesOfAll arguments).map .node) := by
      induction arguments with
      | nil => rfl
      | cons argument rest ihrest =>
        obtain ⟨hargument, hrest⟩ := List.forall_mem_cons.1 ih
        rw [checkExprs, Expr.nodesOfAll, List.map_append, scan_append, hargument, ihrest hrest]
    rw [checkExpr, Expr.nodes, List.map_cons, scan_cons, checkFunction_eq_scan_call, harguments]
  | cast operand ih =>
    rw [checkExpr, Expr.nodes, List.map_cons, scan_cons, ih]
    rfl
  | lambda quantifier collection predicate ih =>
    cases predicate with
    | none =>
      rw [checkExpr, Expr.nodes, checkFunction_eq_scan_lambda]
      rfl
    | some predicate =>
      rw [checkExpr, Expr.nodes, List.map_cons, scan_cons, checkFunction_eq_scan_lambda,
        ih predicate rfl]

/-! ### Queries -/

/-- A number of rows is one feature, which its ceiling judges. -/
lemma checkCeiling_eq_scan {exceeded : UInt64 → UInt64 → Violation} {feature : UInt64 → Feature}
    {max : Option UInt64}
    (h : ∀ count, policy.violation? (feature count) =
      max.bind fun max => if max < count then some (exceeded count max) else none)
    (value : Option UInt64) :
    checkCeiling exceeded value max = policy.scan (value.toList.map feature) := by
  cases value with
  | none => rfl
  | some count =>
    show _ = policy.scan [feature count]
    rw [scan_singleton, h]
    cases max with
    | none => rfl
    | some max =>
      simp only [checkCeiling, Option.bind_some]
      split <;> rfl

lemma checkValue_eq_scan (option : QueryOption) :
    checkValue policy query option = policy.scan (valueFeatures query option) := by
  cases option with
  | filter =>
    rw [checkValue, valueFeatures]
    cases query.filter with
    | none => rfl
    | some filter => exact checkExpr_eq_scan filter
  | skip => exact checkCeiling_eq_scan (fun _ => rfl) query.skip
  | top => exact checkCeiling_eq_scan (fun _ => rfl) query.top
  | _ => rfl

lemma checkOption_eq_scan (option : QueryOption) :
    checkOption policy query option = policy.scan (optionFeatures query option) := by
  unfold checkOption optionFeatures
  by_cases hoption : query.hasOption option
  · rw [if_neg (by simp [hoption]), if_pos hoption, scan_cons, scan_singleton, violation?,
      ← checkValue_eq_scan]
    split <;> rfl
  · rw [if_pos (by simp [hoption]), if_neg hoption, scan_nil]

/-- The check of a query searches its features. -/
lemma check_eq_scan : check policy query = policy.scan query.features := by
  show checkOptions policy query Enumeration.values =
    policy.scan (Enumeration.values.flatMap (optionFeatures query))
  induction (Enumeration.values : List QueryOption) with
  | nil => rfl
  | cons option rest ih =>
    rw [checkOptions, List.flatMap_cons, scan_append, checkOption_eq_scan, ih]

/-! ## What is reported -/

lemma scan_eq_ok_iff {features : List Feature} :
    policy.scan features = .ok () ↔ ∀ feature ∈ features, policy.violation? feature = none := by
  rw [← List.findSome?_eq_none_iff]
  unfold scan
  cases features.findSome? policy.violation? <;> simp

lemma scan_eq_error_iff {features : List Feature} {violation : Violation} :
    policy.scan features = .error violation ↔
      ∃ before feature after, features = before ++ feature :: after ∧
        policy.violation? feature = some violation ∧
        ∀ earlier ∈ before, policy.violation? earlier = none := by
  rw [← List.findSome?_eq_some_iff]
  unfold scan
  cases features.findSome? policy.violation? <;> simp

/-- Behind a feature that violates the policy, nothing makes a difference. -/
lemma scan_eq_of_violation {before after after' : List Feature} {feature : Feature}
    (h : policy.violation? feature ≠ none) :
    policy.scan (before ++ feature :: after') = policy.scan (before ++ feature :: after) := by
  have hstops : ∀ rest, policy.scan (feature :: rest) = policy.scan [feature] := by
    intro rest
    rw [scan_cons, scan_singleton]
    cases hviolation : policy.violation? feature with
    | none => exact absurd hviolation h
    | some violation => rfl
  rw [scan_append, scan_append, hstops after', hstops after]

/-- A name in camel case: underscores are left out, and the letter behind one is a capital. -/
def camelCase : List Char → List Char
  | '_' :: c :: rest => c.toUpper :: camelCase rest
  | c :: rest => c :: camelCase rest
  | [] => []

/-- The check of a query reports exactly the first violation.

It passes if no feature of the query violates the policy, and otherwise it reports the first one
that does, in the order of the options and, within the filter, of its nodes. What comes behind this
feature makes no difference: neither what stands below a node that is not allowed, nor what stands
to the right of it, nor a later option. The operators with two operands have flags of their own,
which are of the same names. -/
theorem check_reports_first (policy : Policy) (query : Query) :
    (check policy query = .ok () ↔
      ∀ feature ∈ query.features, policy.violation? feature = none) ∧
    (∀ violation, check policy query = .error violation ↔
      ∃ before feature after, query.features = before ++ feature :: after ∧
        policy.violation? feature = some violation ∧
        ∀ earlier ∈ before, policy.violation? earlier = none) ∧
    (∀ (other : Query) (before : List Feature) (feature : Feature) (after after' : List Feature),
      query.features = before ++ feature :: after → other.features = before ++ feature :: after' →
      policy.violation? feature ≠ none → check policy other = check policy query) ∧
    ∀ op, (Operator.ofBinary op).name.toList = camelCase op.name.toList := by
  refine ⟨?_, ?_, ?_, ?_⟩
  · rw [check_eq_scan]
    exact scan_eq_ok_iff
  · intro violation
    rw [check_eq_scan]
    exact scan_eq_error_iff
  · intro other before feature after after' hquery hother hviolation
    rw [check_eq_scan, check_eq_scan, hquery, hother]
    exact scan_eq_of_violation hviolation
  · intro op
    cases op <;> decide

/-- A policy that allows one operator and ten rows. -/
def tenByOr : Policy where
  operators := .ofList [.or]
  maxTop := some 10

/-- Twenty of the users of an age, or whose name in lower case is a condition. -/
def ofAgeOrName (age : Expr) (top : Option UInt64) : Query where
  entityType := "User"
  filter := some (.binary .or (.binary .equal (.ofName "Age") age)
    (.call "tolower" [.ofName "Name"]))
  top := top

set_option maxRecDepth 10000 in
/-- It is the comparison that is reported. What the age is compared with is not looked at, and the
number of rows neither. -/
theorem check_ofAgeOrName :
    check tenByOr (ofAgeOrName (.constant (.ofInt 30)) (some 20)) =
      .error (.operatorNotAllowed .equal) ∧
    check tenByOr (ofAgeOrName (.call "soundex" []) none) =
      .error (.operatorNotAllowed .equal) := by
  have hreported : check tenByOr (ofAgeOrName (.constant (.ofInt 30)) (some 20)) =
      .error (.operatorNotAllowed .equal) := by
    refine ((check_reports_first tenByOr _).2.1 _).2
      ⟨[.option .filter, .node (.binary .or)], .node (.binary .equal), _, rfl, rfl, ?_⟩
    decide
  refine ⟨hreported, ?_⟩
  rw [← hreported]
  exact (check_reports_first tenByOr _).2.2.1 _ [.option .filter, .node (.binary .or)]
    (.node (.binary .equal)) _ _ rfl rfl (by decide)

end Policy

end ODataToSql
