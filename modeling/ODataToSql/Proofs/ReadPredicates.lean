import ODataToSql.Proofs.ConfinedNames
import ODataToSql.Proofs.Connectives
import ODataToSql.Proofs.Symbols

/-!
# Predicates are read back

Negations and matches have no parentheses of their own, and yet the text of a predicate and its
arguments leave nothing open: a reader that goes through the symbols from left to right finds the
term again. So different predicates make different commands.

* `TermReader.step` reads one symbol, and `TermReader.Reads` says that the symbols of a term are
  read as the term, whatever was read before and whatever comes behind.
* A match belongs to the term in front of it, and a negation to all that comes up to the end of its
  operand. So a match of a negation could not be told from the negation of a match, see
  `fragment_like_not`.
* The main result is `predicate_eq_of_alone_eq`. The names of properties must not contain a closing
  bracket, and no match may have a negation for its first argument.
-/

namespace ODataToSql

namespace Sql

/-! ## The reader -/

/-- What was read and waits for a term. -/
inductive Frame where
  | negation
  /-- An opening parenthesis. -/
  | group
  /-- A parenthesis, an operand and the operator. -/
  | right (left : Term) (operator : Operator)
  /-- The parenthesis of a pattern, and the wildcard in front if there is one. -/
  | pattern (operand : Term) (hasWildcard : Bool)
  /-- A pattern up to the operator in front of the last wildcard. -/
  | wildcard (operand : Term) (hasWildcard : Bool) (value : Term)
  /-- A call, and its arguments up to a comma. -/
  | argument (function : ScalarFunction) (before : List Term)
  | cast

/-- How far a text has been read: what waits for terms, the last of it first, and the term that was
read behind it. -/
structure TermReader where
  frames : List Frame
  term : Option Term

namespace TermReader

/-- Reads the first symbol of a term. -/
def begin (frames : List Frame) : Symbol → Option TermReader
  | .column name => some ⟨frames, some (.column name)⟩
  | .value datum => some ⟨frames, some (.parameter datum)⟩
  | .token token =>
    match token, frames with
    | .null, _ => some ⟨frames, some .null⟩
    | .zero, _ => some ⟨frames, some (.int 0)⟩
    | .datePart part, _ => some ⟨frames, some (.datePart part)⟩
    | .not, _ => some ⟨.negation :: frames, none⟩
    | .opening, _ => some ⟨.group :: frames, none⟩
    | .call function, _ => some ⟨.argument function [] :: frames, none⟩
    | .cast, _ => some ⟨.cast :: frames, none⟩
    | .wildcardBefore, .pattern operand false :: frames =>
      some ⟨.pattern operand true :: frames, none⟩
    | .wildcardAfter, .wildcard operand hasWildcard value :: frames =>
      some ⟨frames, some (.like operand (if hasWildcard then .contains else .startsWith) value)⟩
    | .closing, .argument function [] :: frames => some ⟨frames, some (.call function [])⟩
    | _, _ => none

/-- Reads a token behind a term for which a frame waits. -/
def finish (frames : List Frame) (term : Term) : Token → Frame → Option TermReader
  | .operation operator, .group =>
    some ⟨.right term operator :: frames, if operator.testsNull then some .null else none⟩
  | .operation .add, .pattern operand hasWildcard =>
    some ⟨.wildcard operand hasWildcard term :: frames, none⟩
  | .closing, .group => some ⟨frames, some (.nested term)⟩
  | .closing, .right left operator => some ⟨frames, some (.binary left operator term)⟩
  | .closing, .pattern operand true => some ⟨frames, some (.like operand .endsWith term)⟩
  | .closing, .argument function before => some ⟨frames, some (.call function (before ++ [term]))⟩
  | .comma, .argument function before =>
    some ⟨.argument function (before ++ [term]) :: frames, none⟩
  | .convert type, .cast => some ⟨frames, some (.cast term type)⟩
  | _, _ => none

/-- The term with all negations that wait for it, and what waits for that. -/
def settle : List Frame → Term → List Frame × Term
  | .negation :: frames, term => settle frames (.not term)
  | frames, term => (frames, term)

/-- Reads a symbol. A match belongs to the term in front of it, and anything else that stands behind
a term to the negations of it. -/
def step (reader : TermReader) (symbol : Symbol) : Option TermReader :=
  match reader.term with
  | none => begin reader.frames symbol
  | some term =>
    match symbol with
    | .token .like => some ⟨.pattern term false :: reader.frames, none⟩
    | .token token =>
      match settle reader.frames term with
      | (frame :: frames, term) => finish frames term token frame
      | ([], _) => none
    | _ => none

/-- Reads symbols. -/
def run (reader : TermReader) (symbols : List Symbol) : Option TermReader :=
  symbols.foldlM step reader

/-- Behind a term. Negations of it still wait. -/
def behind (frames : List Frame) : Term → TermReader
  | .not operand => behind (.negation :: frames) operand
  | term => ⟨frames, some term⟩

section Behind

variable {frames : List Frame} {frame : Frame} {term : Term} {token : Token}
  {symbol : Symbol} {reader reader' : TermReader}

lemma run_cons (h : reader.step symbol = some reader') (rest : List Symbol) :
    reader.run (symbol :: rest) = reader'.run rest := by
  rw [run, List.foldlM_cons, h]
  rfl

lemma behind_eq (h : ∀ inner, term ≠ .not inner) : behind frames term = ⟨frames, some term⟩ := by
  cases term with
  | not inner => exact absurd rfl (h inner)
  | _ => rfl

/-- The negations that still wait behind a term are the same as in front of it. By induction on
the term. -/
lemma exists_behind_eq (frames : List Frame) (term : Term) :
    ∃ frames' term', behind frames term = ⟨frames', some term'⟩ ∧
      settle frames' term' = settle frames term := by
  induction term generalizing frames with
  | not operand ih => exact ih (.negation :: frames)
  | _ => exact ⟨frames, _, rfl, rfl⟩

lemma settle_cons (h : frame ≠ .negation) :
    settle (frame :: frames) term = (frame :: frames, term) := by
  cases frame with
  | negation => exact absurd rfl h
  | _ => rfl

/-- A token that ends a term ends the negations of it, and is read by what waits for these. -/
lemma step_behind (htoken : token ≠ .like) (hframe : frame ≠ .negation) :
    (behind (frame :: frames) term).step (.token token) = finish frames term token frame := by
  obtain ⟨frames', term', hbehind, hsettle⟩ := exists_behind_eq (frame :: frames) term
  rw [settle_cons hframe] at hsettle
  rw [hbehind]
  cases token with
  | like => exact absurd rfl htoken
  | _ => simp [step, hsettle]

lemma run_begin (h : begin frames symbol = some reader) (rest : List Symbol) :
    run ⟨frames, none⟩ (symbol :: rest) = run reader rest := by
  have hstep : step ⟨frames, none⟩ symbol = some reader := h
  exact run_cons hstep rest

lemma run_finish (h : finish frames term token frame = some reader) (rest : List Symbol) :
    run (behind (frame :: frames) term) (.token token :: rest) = run reader rest := by
  have htoken : token ≠ .like := by
    rintro rfl
    cases h
  have hframe : frame ≠ .negation := by
    rintro rfl
    cases token <;> cases h
  exact run_cons ((step_behind htoken hframe).trans h) rest

/-- Terms are the same if a reader that nothing waits in does not tell them apart. -/
lemma eq_of_behind_nil {term' : Term} (h : behind [] term = behind [] term') : term = term' := by
  obtain ⟨frames, core, hbehind, hsettle⟩ := exists_behind_eq [] term
  obtain ⟨frames', core', hbehind', hsettle'⟩ := exists_behind_eq [] term'
  rw [hbehind, hbehind'] at h
  cases h
  have hsettled := hsettle.symm.trans hsettle'
  exact (Prod.mk.inj hsettled).2

end Behind

/-! ## Terms are read -/

/-- The reader reads the symbols of the term as that term, whatever waits for it and whatever comes
behind. -/
def Reads (term : Term) : Prop :=
  ∀ frames rest, run ⟨frames, none⟩ (term.symbols ++ rest) = run (behind frames term) rest

section Reads

variable {left right operand value : Term} {function : ScalarFunction} {arguments : List Term}

lemma reads_binary {operator : Operator} (hnull : operator.testsNull = true → right = .null)
    (hleft : Reads left) (hright : Reads right) : Reads (.binary left operator right) := by
  intro frames rest
  have hsymbols : (Term.binary left operator right).symbols ++ rest =
      .token .opening :: (left.symbols ++ .token (.operation operator) ::
        ((if operator.testsNull then [] else right.symbols) ++ .token .closing :: rest)) := by
    simp [Term.symbols]
  rw [hsymbols, run_begin rfl, hleft, run_finish rfl]
  cases htests : operator.testsNull with
  | true =>
    obtain rfl : right = .null := hnull htests
    have hclosing : run (behind (.right left operator :: frames) .null) (.token .closing :: rest) =
        run (behind frames (.binary left operator .null)) rest := run_finish rfl rest
    exact hclosing
  | false =>
    rw [if_neg Bool.false_ne_true, if_neg Bool.false_ne_true, hright, run_finish rfl]
    rfl

lemma reads_like {pattern : LikePattern} (hnegation : ∀ inner, operand ≠ .not inner)
    (hoperand : Reads operand) (hvalue : Reads value) : Reads (.like operand pattern value) := by
  intro frames rest
  -- negations that wait in front of the operand go on waiting
  have hlike (symbols : List Symbol) :
      run (behind frames operand) (.token .like :: symbols) =
        run ⟨.pattern operand false :: frames, none⟩ symbols := by
    rw [behind_eq hnegation]
    exact run_cons rfl symbols
  rw [Term.symbols, List.append_assoc, hoperand]
  cases pattern with
  | contains =>
    have hsymbols : LikePattern.contains.symbols value.symbols ++ rest =
        .token .like :: .token .wildcardBefore :: (value.symbols ++
          .token (.operation .add) :: .token .wildcardAfter :: rest) := by
      simp [LikePattern.symbols]
    rw [hsymbols, hlike, run_begin rfl, hvalue, run_finish rfl, run_begin rfl]
    rfl
  | startsWith =>
    have hsymbols : LikePattern.startsWith.symbols value.symbols ++ rest =
        .token .like :: (value.symbols ++
          .token (.operation .add) :: .token .wildcardAfter :: rest) := by
      simp [LikePattern.symbols]
    rw [hsymbols, hlike, hvalue, run_finish rfl, run_begin rfl]
    rfl
  | endsWith =>
    have hsymbols : LikePattern.endsWith.symbols value.symbols ++ rest =
        .token .like :: .token .wildcardBefore :: (value.symbols ++ .token .closing :: rest) := by
      simp [LikePattern.symbols]
    rw [hsymbols, hlike, run_begin rfl, hvalue, run_finish rfl]
    rfl

/-- The arguments of a call that are still to be read, by induction on them. -/
lemma run_arguments (h : ∀ argument ∈ arguments, Reads argument) (hne : arguments ≠ [])
    (before : List Term) (frames : List Frame) (rest : List Symbol) :
    run ⟨.argument function before :: frames, none⟩
        (separatedSymbols (arguments.map Term.symbols) ++ .token .closing :: rest) =
      run ⟨frames, some (.call function (before ++ arguments))⟩ rest := by
  induction arguments generalizing before with
  | nil => exact absurd rfl hne
  | cons argument others ih =>
    obtain ⟨hargument, hothers⟩ := List.forall_mem_cons.1 h
    cases others with
    | nil =>
      rw [List.map_singleton, separatedSymbols, List.intercalate_singleton, hargument,
        run_finish rfl]
    | cons next others =>
      have hsymbols : separatedSymbols ((argument :: next :: others).map Term.symbols) ++
          .token .closing :: rest =
          argument.symbols ++ .token .comma ::
            (separatedSymbols ((next :: others).map Term.symbols) ++ .token .closing :: rest) := by
        simp [separatedSymbols, List.intercalate_cons_cons]
      rw [hsymbols, hargument, run_finish rfl, ih hothers (List.cons_ne_nil _ _)]
      simp

lemma reads_call (h : ∀ argument ∈ arguments, Reads argument) :
    Reads (.call function arguments) := by
  intro frames rest
  have hsymbols : (Term.call function arguments).symbols ++ rest =
      .token (.call function) ::
        (separatedSymbols (arguments.map Term.symbols) ++ .token .closing :: rest) := by
    simp [Term.symbols]
  rw [hsymbols, run_begin rfl]
  cases arguments with
  -- the parenthesis is closed where the first argument would begin
  | nil => exact run_begin rfl rest
  | cons argument others => exact run_arguments h (List.cons_ne_nil _ _) [] frames rest

end Reads

/-- A readable term is read back from its symbols. By induction on the term. -/
lemma reads_term {term : Term} (h : term.Everywhere Term.IsReadable) : Reads term := by
  induction term with
  | column | null | parameter | datePart => exact fun frames rest => run_begin rfl rest
  | int value =>
    obtain rfl : value = 0 := Term.everywhere_int.1 h
    exact fun frames rest => run_begin rfl rest
  | binary left operator right ihleft ihright =>
    obtain ⟨hnull, hleft, hright⟩ := Term.everywhere_binary.1 h
    exact reads_binary hnull (ihleft hleft) (ihright hright)
  | not operand ih =>
    intro frames rest
    rw [Term.symbols, List.cons_append, run_begin rfl, ih (Term.everywhere_not.1 h).2]
    rfl
  | like operand pattern value ihoperand ihvalue =>
    obtain ⟨hnegation, hoperand, hvalue⟩ := Term.everywhere_like.1 h
    exact reads_like hnegation (ihoperand hoperand) (ihvalue hvalue)
  | nested inner ih =>
    intro frames rest
    have hsymbols : (Term.nested inner).symbols ++ rest =
        .token .opening :: (inner.symbols ++ .token .closing :: rest) := by
      simp [Term.symbols]
    rw [hsymbols, run_begin rfl, ih (Term.everywhere_nested.1 h).2, run_finish rfl]
    rfl
  | call function arguments ih =>
    exact reads_call fun argument hmem =>
      ih argument hmem ((Term.everywhere_call.1 h).2 argument hmem)
  | cast operand type ih =>
    intro frames rest
    have hsymbols : (Term.cast operand type).symbols ++ rest =
        .token .cast :: (operand.symbols ++ .token (.convert type) :: rest) := by
      simp [Term.symbols]
    rw [hsymbols, run_begin rfl, ih (Term.everywhere_cast.1 h).2, run_finish rfl]
    rfl

end TermReader

/-- Readable terms with the same symbols are the same. -/
lemma eq_of_symbols_eq {first second : Term} (hfirst : first.Everywhere Term.IsReadable)
    (hsecond : second.Everywhere Term.IsReadable) (h : first.symbols = second.symbols) :
    first = second := by
  -- both terms are what the reader finds in the same symbols
  have hread := TermReader.reads_term hfirst [] []
  have hread' := TermReader.reads_term hsecond [] []
  rw [h, hread'] at hread
  exact TermReader.eq_of_behind_nil (Option.some.inj hread.symm)

/-- With a negation for its operand, a match has the text of the negated match. -/
lemma fragment_like_not (operand : Term) (pattern : LikePattern) (value : Term) :
    (Term.like (.not operand) pattern value).fragment =
      (Term.not (.like operand pattern value)).fragment :=
  rfl

end Sql

/-! ## Filters with readable predicates -/

namespace Expr

/-- Whether the expression is a negation, if need be under conversions. -/
def isNegation (expr : Expr) : Bool :=
  match expr.stripCasts with
  | .unary .not _ => true
  | _ => false

mutual

/-- Outside of quantifiers, no match has a negation for its first argument. -/
def MatchesNoNegation : Expr → Bool
  | .cast operand => operand.MatchesNoNegation
  | .binary _ left right => left.MatchesNoNegation && right.MatchesNoNegation
  | .unary _ operand => operand.MatchesNoNegation
  | .call name arguments =>
    !(Translation.isLikeCall (.call name arguments) && arguments.head?.any isNegation) &&
      AllMatchNoNegation arguments
  | _ => true

/-- None of the arguments of a call matches a negation. -/
def AllMatchNoNegation : List Expr → Bool
  | [] => true
  | argument :: rest => argument.MatchesNoNegation && AllMatchNoNegation rest

end

lemma allMatchNoNegation_eq_true {arguments : List Expr} :
    AllMatchNoNegation arguments = true ↔
      ∀ argument ∈ arguments, argument.MatchesNoNegation = true := by
  induction arguments with
  | nil => simp [AllMatchNoNegation]
  | cons argument rest ih => simp [AllMatchNoNegation, ih]

end Expr

namespace Translation

open Sql

variable {σ : Type} {columns : Property → Column → Prop} {expr : Expr} {result : Term}

/-- The operands of an operation do not match negations if the operation does not. -/
lemma matchesNoNegation_operands {op : BinaryOp} {left right : Expr}
    (h : (Expr.binary op left right).MatchesNoNegation = true) :
    left.MatchesNoNegation = true ∧ right.MatchesNoNegation = true := by
  rwa [Expr.MatchesNoNegation, Bool.and_eq_true] at h

/-- Nor do the arguments of a call. -/
lemma matchesNoNegation_arguments {name : String} {arguments : List Expr}
    (h : (Expr.call name arguments).MatchesNoNegation = true) :
    ∀ argument ∈ arguments, argument.MatchesNoNegation = true := by
  rw [Expr.MatchesNoNegation, Bool.and_eq_true] at h
  exact Expr.allMatchNoNegation_eq_true.1 h.2

lemma isLikeCall_of_callShape? {name : String} {pattern : LikePattern}
    (h : callShape? name = some (.like pattern)) (arguments : List Expr) :
    isLikeCall (.call name arguments) = true := by
  obtain ⟨function, hname, hshape⟩ := Option.map_eq_some_iff.1 h
  rw [isLikeCall, hname]
  cases function with
  | contains | endsWith | startsWith => rfl
  | _ => cases hshape

/-- The first argument of a match is no negation, if none is matched. -/
lemma isNegation_operand {name : String} {pattern : LikePattern} {operand : Expr}
    {rest : List Expr} (hshape : callShape? name = some (.like pattern))
    (h : (Expr.call name (operand :: rest)).MatchesNoNegation = true) :
    operand.isNegation = false := by
  rw [Expr.MatchesNoNegation, Bool.and_eq_true] at h
  simpa [isLikeCall_of_callShape? hshape] using h.1

/-- Only a negation has a negation for its term. -/
lemma TermOf.ne_not (h : TermOf columns expr result) (hnegation : expr.isNegation = false) :
    ∀ inner, result ≠ .not inner := by
  induction h with
  | cast hoperand ih => exact ih hnegation
  | not hoperand ih => cases hnegation
  | _ => exact fun _ => nofun

/-- `NULL` is tested for only where it is on the right. -/
lemma testsNull_of_operator {op : BinaryOp} {sign : Operator} (h : operator op = .ok sign) :
    sign.testsNull = false := by
  cases op <;> cases h <;> rfl

/-- The term of an expression is readable, if its columns are names in brackets and no match in the
expression has a negation for its first argument. By induction on how the term comes about. -/
lemma TermOf.isReadable (h : TermOf columns expr result)
    (hcolumns : ∀ name ∈ result.columns, IsBracketed name)
    (hnegations : expr.MatchesNoNegation = true) : result.Everywhere Term.IsReadable := by
  induction h with
  | cast hoperand ih => exact ih hcolumns hnegations
  | null | parameter => simp [Term.IsReadable]
  | column hcolumn => exact Term.everywhere_column.2 (hcolumns _ List.mem_cons_self)
  | likeOperand hlike hleft ih =>
    obtain ⟨hleft, -⟩ := matchesNoNegation_operands hnegations
    exact Term.everywhere_nested.2 ⟨trivial, ih hcolumns hleft⟩
  | nullOperand hlike hnull hsign hleft ih =>
    obtain ⟨hleft, -⟩ := matchesNoNegation_operands hnegations
    rw [Term.columns, List.forall_mem_append] at hcolumns
    have hnull : Term.null.Everywhere Term.IsReadable := Term.everywhere_null.2 trivial
    exact Term.everywhere_binary.2 ⟨fun _ => rfl, ih hcolumns.1 hleft, hnull⟩
  | operands hlike hnull hsign hleft hright ihleft ihright =>
    obtain ⟨hleft, hright⟩ := matchesNoNegation_operands hnegations
    rw [Term.columns, List.forall_mem_append] at hcolumns
    have htests := testsNull_of_operator hsign
    exact Term.everywhere_binary.2 ⟨fun h => absurd h (by simp [htests]), ihleft hcolumns.1 hleft,
      ihright hcolumns.2 hright⟩
  | not hoperand ih => exact Term.everywhere_not.2 ⟨trivial, ih hcolumns hnegations⟩
  | @like name pattern operand value rest operandTerm valueTerm hshape hoperand hvalue ihoperand
      ihvalue =>
    have harguments := matchesNoNegation_arguments hnegations
    have hnegation := isNegation_operand hshape hnegations
    rw [Term.columns, List.forall_mem_append] at hcolumns
    exact Term.everywhere_like.2 ⟨hoperand.ne_not hnegation,
      ihoperand hcolumns.1 (harguments _ (by simp)), ihvalue hcolumns.2 (harguments _ (by simp))⟩
  | indexOf hshape htext hsought ihtext ihsought =>
    have harguments := matchesNoNegation_arguments hnegations
    simp only [Term.columns, Term.columnsOfAll_eq_flatMap, List.flatMap_cons, List.flatMap_nil,
      List.append_nil, List.forall_mem_append] at hcolumns
    have htext := ihtext hcolumns.2 (harguments _ (by simp))
    have hsought := ihsought hcolumns.1 (harguments _ (by simp))
    simp [Term.IsReadable, htext, hsought]
  | trim hshape hoperand ih | part hshape hoperand ih | convert hshape hoperand ih
  | totalSeconds hshape hoperand ih =>
    have harguments := matchesNoNegation_arguments hnegations
    have hoperand := ih (by simpa [Term.columns] using hcolumns) (harguments _ List.mem_cons_self)
    simp [Term.IsReadable, hoperand]
  | direct hshape hpairs ih =>
    have harguments := matchesNoNegation_arguments hnegations
    refine Term.everywhere_call.2 ⟨trivial, fun argument hmem => ?_⟩
    obtain ⟨pair, hpair, rfl⟩ := List.mem_map.1 hmem
    refine ih pair hpair (fun name hname => hcolumns name ?_)
      (harguments _ (List.mem_map_of_mem hpair))
    rw [Term.columns, Term.columnsOfAll_eq_flatMap]
    exact List.mem_flatMap.2 ⟨pair.2, hmem, hname⟩

/-- The columns of a term are names in brackets, if no property that the expression mentions has a
closing bracket in its name. -/
lemma isBracketed_columns (h : TermOf (Calls (Naming.standard : Naming σ)) expr result)
    (hnames : ∀ property ∈ mentioned expr, ']' ∉ property.name.toList) :
    ∀ name ∈ result.columns, IsBracketed name :=
  forall_of_forall₂ h.forall₂_columns fun property hmem _ hcalls =>
    ⟨property.name, eq_quoted_of_calls hcalls, hnames property hmem⟩

/-- The properties that the filter mentions have no closing bracket in their names, and no match in
the filter has a negation for its first argument. -/
structure IsUnambiguous (filter : Expr) : Prop where
  names : ∀ property ∈ mentioned filter, ']' ∉ property.name.toList
  negations : filter.MatchesNoNegation = true

/-- Under the standard naming, the predicate of a filter can be read back from its text and its
arguments: where these are the same for two filters, the filters have the same predicate. -/
theorem predicate_eq_of_alone_eq {filter filter' : Expr} {predicate predicate' : Term}
    {state after state' after' : σ} (hfilter : IsUnambiguous filter)
    (hfilter' : IsUnambiguous filter')
    (h : Yields (term Naming.standard filter) state predicate after)
    (h' : Yields (term Naming.standard filter') state' predicate' after')
    {arguments : List Datum}
    (halone : predicate.fragment.alone arguments = predicate'.fragment.alone arguments) :
    predicate = predicate' := by
  have hterm := termOf_of_yields h
  have hterm' := termOf_of_yields h'
  have hreadable := hterm.isReadable (isBracketed_columns hterm hfilter.names) hfilter.negations
  have hreadable' :=
    hterm'.isReadable (isBracketed_columns hterm' hfilter'.names) hfilter'.negations
  exact eq_of_symbols_eq hreadable hreadable'
    (symbols_eq_of_alone_eq hreadable hreadable' halone)

/-- Neither is the age unknown, nor do the joined names contain the truth value of a negation. -/
def neitherAgeNorJoinedNames : Expr :=
  .unary .not (.binary .or (.binary .equal (.ofName "Age") .null)
    (.call "contains" [.call "concat" [.ofName "Name", .ofName "Name"], .unary .not nameContains]))

/-- The same with conversions. -/
def convertedJoinedNames : Expr :=
  .unary .not (.cast (.binary .or (.binary .equal (.cast (.ofName "Age")) (.cast .null))
    (.call "contains" [.call "concat" [.ofName "Name", .cast (.ofName "Name")],
      .cast (.unary .not nameContains)])))

/-- The predicate of both. -/
def joinedNamesPredicate : Term :=
  .not (.binary (.binary (.column ⟨"[Age]"⟩) .is .null) .or
    (.like (.call .concat [.column ⟨"[Name]"⟩, .column ⟨"[Name]"⟩]) .contains (.not nameLike)))

set_option maxRecDepth 10000 in
/-- One negation stands in front of a parenthesis and one in a pattern, and both are read as they
were written. -/
theorem predicate_eq_convertedJoinedNames :
    IsUnambiguous neitherAgeNorJoinedNames ∧ IsUnambiguous convertedJoinedNames ∧
    ∃ predicate predicate',
      Yields (term (Naming.standard : Naming Unit) neitherAgeNorJoinedNames) () predicate () ∧
      Yields (term (Naming.standard : Naming Unit) convertedJoinedNames) () predicate' () ∧
      predicate.fragment.alone [.null] = predicate'.fragment.alone [.null] ∧
      (predicate.fragment.alone [.null]).text =
        "NOT (([Age] IS NULL) OR CONCAT([Name], [Name]) LIKE ('%' + NOT [Name] LIKE " ++
          "('%' + @p1 + '%') + '%'))" ∧
      predicate = predicate' := by
  have hfilter : IsUnambiguous neitherAgeNorJoinedNames := ⟨by decide, by decide⟩
  have hfilter' : IsUnambiguous convertedJoinedNames := ⟨by decide, by decide⟩
  have hyields : Yields (term (Naming.standard : Naming Unit) neitherAgeNorJoinedNames) ()
      joinedNamesPredicate () := rfl
  have hyields' : Yields (term (Naming.standard : Naming Unit) convertedJoinedNames) ()
      joinedNamesPredicate () := rfl
  have halone : joinedNamesPredicate.fragment.alone [.null] =
      joinedNamesPredicate.fragment.alone [.null] := rfl
  exact ⟨hfilter, hfilter', joinedNamesPredicate, joinedNamesPredicate, hyields, hyields', halone,
    rfl, predicate_eq_of_alone_eq hfilter hfilter' hyields hyields' halone⟩

end Translation
end ODataToSql
