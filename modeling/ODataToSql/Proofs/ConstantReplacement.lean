import ODataToSql.Proofs.BoundPlaces
import ODataToSql.Proofs.CommandClauses

/-!
# Replacing constants

Two queries that differ in constants of the filter only, none of which is null, have commands with
the same text. The constants are bound, and nothing but whether they are null is looked at.

* `Expr.Variant` and `Query.Variant` relate what is the same up to constants that are not null.
* `Agree` compares two translations: they end with related results or with the same error, and they
  leave the naming in the same state.
* `Fragment.layout` is a fragment without its values. The text of a statement depends on the layout
  alone.
* The main result is `agree_of_variant`.
-/

namespace ODataToSql

/-! ## Variants -/

/-- The expressions are the same up to constants that are not null. -/
inductive Expr.Variant : Expr → Expr → Prop where
  | constant {value other : Datum}
    (hvalue : value = other ∨ (value.isNull = false ∧ other.isNull = false)) :
    Variant (.constant value) (.constant other)
  | property (property : Property) : Variant (.property property) (.property property)
  | binary {op : BinaryOp} {left right left' right' : Expr} (hleft : Variant left left')
    (hright : Variant right right') : Variant (.binary op left right) (.binary op left' right')
  | unary {op : UnaryOp} {operand operand' : Expr} (hoperand : Variant operand operand') :
    Variant (.unary op operand) (.unary op operand')
  /-- Each argument is a variant of the one at its position. -/
  | call {name : String} {pairs : List (Expr × Expr)}
    (hpairs : ∀ pair ∈ pairs, Variant pair.1 pair.2) :
    Variant (.call name (pairs.map Prod.fst)) (.call name (pairs.map Prod.snd))
  | cast {operand operand' : Expr} (hoperand : Variant operand operand') :
    Variant (.cast operand) (.cast operand')
  | lambda {quantifier : Quantifier} {collection : Property} {pair : Option (Expr × Expr)}
    (hpair : ∀ predicates ∈ pair, Variant predicates.1 predicates.2) :
    Variant (.lambda quantifier collection (pair.map Prod.fst))
      (.lambda quantifier collection (pair.map Prod.snd))

/-- The queries are the same up to constants of their filters that are not null. -/
def Query.Variant (query other : Query) : Prop :=
  other = { query with filter := other.filter } ∧
    Option.Rel Expr.Variant query.filter other.filter

namespace Expr.Variant

variable {expr other : Expr}

/-- No constant becomes null, and none ceases to be. -/
lemma isNull_eq (h : Variant expr other) : expr.isNull = other.isNull := by
  induction h with
  | @constant value other hvalue =>
    show value.isNull = other.isNull
    rcases hvalue with rfl | ⟨hvalue, hother⟩
    · rfl
    · rw [hvalue, hother]
  | cast hoperand ih => exact ih
  | _ => rfl

lemma isLikeCall_eq (h : Variant expr other) :
    Translation.isLikeCall expr = Translation.isLikeCall other := by
  cases h <;> rfl

/-- The same places are bound. -/
lemma boundPlaces_eq (h : Variant expr other) :
    Translation.boundPlaces expr = Translation.boundPlaces other := by
  induction h with
  | constant hvalue =>
    have hnull := isNull_eq (.constant hvalue)
    rw [Translation.boundPlaces, Translation.boundPlaces]
    exact congrArg (fun isNull : Bool => if isNull then [] else [[]]) hnull
  | property => rfl
  | binary hleft hright ihleft ihright =>
    rw [Translation.boundPlaces, Translation.boundPlaces, hleft.isLikeCall_eq, hright.isNull_eq,
      ihleft, ihright]
  | unary hoperand ih | cast hoperand ih =>
    rw [Translation.boundPlaces, Translation.boundPlaces, ih]
  | call hpairs ih =>
    rw [Translation.boundPlaces, Translation.boundPlaces, Translation.boundPlacesOfAll_eq_map,
      Translation.boundPlacesOfAll_eq_map, List.map_map, List.map_map]
    congr 1
    exact List.map_congr_left ih
  | lambda hpair ih => rw [Translation.boundPlaces, Translation.boundPlaces]

end Expr.Variant

lemma Query.Variant.boundPlaces_eq {query other : Query} (h : query.Variant other) :
    query.boundPlaces = other.boundPlaces := by
  obtain ⟨-, hfilter⟩ := h
  unfold boundPlaces
  generalize query.filter = filter at hfilter ⊢
  generalize other.filter = filter' at hfilter ⊢
  cases hfilter with
  | none => rfl
  | some hfilter => exact hfilter.boundPlaces_eq

/-! ## Texts without values -/

namespace Sql

namespace Fragment

/-- The texts of a fragment, with a gap for each of its values. -/
def layout (fragment : Fragment) : List (Option String) :=
  fragment.map fun
    | .text text => some text
    | .argument _ => none

@[simp]
lemma layout_nil : layout [] = [] := rfl

@[simp]
lemma layout_text_cons (text : String) (rest : Fragment) :
    layout (.text text :: rest) = some text :: layout rest := rfl

@[simp]
lemma layout_argument_cons (value : Datum) (rest : Fragment) :
    layout (.argument value :: rest) = none :: layout rest := rfl

@[simp]
lemma layout_append (first second : Fragment) :
    layout (first ++ second) = layout first ++ layout second :=
  List.map_append

/-- Commas stand at the same places between fragments of the same layouts. -/
lemma layout_separated {fragments others : List Fragment}
    (h : fragments.map layout = others.map layout) :
    layout (separated fragments) = layout (separated others) := by
  induction fragments generalizing others with
  | nil =>
    obtain rfl : others = [] := List.map_eq_nil_iff.1 h.symm
    rfl
  | cons fragment rest ih =>
    obtain ⟨other, rest', rfl, hfirst, hrest⟩ := List.map_eq_cons_iff.1 h.symm
    have hseparated := ih hrest.symm
    cases rest with
    | nil =>
      obtain rfl : rest' = [] := List.map_eq_nil_iff.1 hrest
      exact hfirst.symm
    | cons second rest =>
      obtain ⟨second', rest', rfl, -, -⟩ := List.map_eq_cons_iff.1 hrest
      simp only [separated, layout_append, layout_text_cons, hfirst, hseparated]

end Fragment

/-- The text that a fragment adds to a statement, and how its values are numbered, is a matter of
its layout. -/
lemma text_append_eq {fragment other : Fragment} (h : fragment.layout = other.layout)
    {first second : Statement} (htext : first.text = second.text)
    (hlength : first.arguments.length = second.arguments.length) :
    (first.append fragment).text = (second.append other).text := by
  induction fragment generalizing other first second with
  | nil =>
    obtain rfl : other = [] := List.map_eq_nil_iff.1 h.symm
    exact htext
  | cons piece rest ih =>
    obtain ⟨piece', rest', rfl, hpiece, hrest⟩ := List.map_eq_cons_iff.1 h.symm
    have happended : (first.appendPiece piece).text = (second.appendPiece piece').text ∧
        (first.appendPiece piece).arguments.length =
          (second.appendPiece piece').arguments.length := by
      cases piece with
      | text text =>
        cases piece' with
        | text text' =>
          obtain rfl : text' = text := Option.some.inj hpiece
          exact ⟨congrArg (· ++ text') htext, hlength⟩
        | argument value' => cases hpiece
      | argument value =>
        cases piece' with
        | text text' => cases hpiece
        | argument value' => simp [Statement.appendPiece, Statement.appendArgument, htext, hlength]
    exact ih hrest.symm happended.1 happended.2

end Sql

namespace Translation

open Sql

variable {σ α β γ δ : Type}

/-! ## Translations that agree -/

/-- Two ends are alike if both are results, which are related, or both are the same error, and if
the states are the same. -/
inductive Alike (R : α → β → Prop) : Except Error α × σ → Except Error β × σ → Prop where
  | ok {a : α} {b : β} (hresults : R a b) (after : σ) : Alike R (.ok a, after) (.ok b, after)
  | error (e : Error) (after : σ) : Alike R (.error e, after) (.error e, after)

/-- From every state, the two translations end alike. -/
def Agree (R : α → β → Prop) (first : Translation σ α) (second : Translation σ β) : Prop :=
  ∀ state, Alike R (outcome first state) (outcome second state)

lemma agree_pure {R : α → β → Prop} {a : α} {b : β} (h : R a b) :
    Agree R (pure a : Translation σ α) (pure b) :=
  fun state => .ok h state

lemma agree_throw (R : α → β → Prop) (e : Error) :
    Agree R (throw e : Translation σ α) (throw e) :=
  fun state => .error e state

/-- A translation agrees with itself. -/
lemma agree_refl {R : α → α → Prop} (hR : ∀ a, R a a) (translation : Translation σ α) :
    Agree R translation translation := by
  intro state
  rcases outcome translation state with ⟨e | a, after⟩
  · exact .error e after
  · exact .ok (hR a) after

/-- What follows translations that agree may make use of how their results are related. -/
lemma Agree.bind {R : α → β → Prop} {S : γ → δ → Prop} {first : Translation σ α}
    {second : Translation σ β} {next : α → Translation σ γ} {other : β → Translation σ δ}
    (h : Agree R first second) (hnext : ∀ a b, R a b → Agree S (next a) (other b)) :
    Agree S (first >>= next) (second >>= other) := by
  intro state
  have hends := h state
  rw [outcome_bind, outcome_bind]
  generalize outcome first state = ends at hends ⊢
  generalize outcome second state = ends' at hends ⊢
  rcases hends with ⟨hresults, after⟩ | ⟨e, after⟩
  · exact hnext _ _ hresults after
  · exact .error e after

/-- What is the same in both runs has the same result. -/
lemma agree_bind_same {S : γ → δ → Prop} {translation : Translation σ α}
    {next : α → Translation σ γ} {other : α → Translation σ δ}
    (hnext : ∀ a, Agree S (next a) (other a)) :
    Agree S (translation >>= next) (translation >>= other) := by
  apply (agree_refl Eq.refl translation).bind
  rintro a _ rfl
  exact hnext a

/-! ## Filters -/

/-- The terms have the same text around their values. -/
def SameLayout (first second : Term) : Prop := first.fragment.layout = second.fragment.layout

namespace SameLayout

variable {left left' right right' operand operand' value value' : Term}

lemma refl (term : Term) : SameLayout term term := rfl

lemma binary (hleft : SameLayout left left') (operator : Operator)
    (hright : SameLayout right right') :
    SameLayout (.binary left operator right) (.binary left' operator right') := by
  unfold SameLayout at *
  simp [Term.fragment, hleft, hright]

lemma not (h : SameLayout operand operand') : SameLayout (.not operand) (.not operand') := by
  unfold SameLayout at *
  simp [Term.fragment, h]

lemma like (hoperand : SameLayout operand operand') (pattern : LikePattern)
    (hvalue : SameLayout value value') :
    SameLayout (.like operand pattern value) (.like operand' pattern value') := by
  unfold SameLayout at *
  cases pattern <;> simp [Term.fragment, LikePattern.fragment, hoperand, hvalue]

lemma nested (h : SameLayout operand operand') :
    SameLayout (.nested operand) (.nested operand') := by
  unfold SameLayout at *
  simp [Term.fragment, h]

lemma cast (h : SameLayout operand operand') (type : ScalarType) :
    SameLayout (.cast operand type) (.cast operand' type) := by
  unfold SameLayout at *
  simp [Term.fragment, h]

lemma call (function : ScalarFunction) {arguments arguments' : List Term}
    (h : arguments.map (fun term => term.fragment.layout) =
      arguments'.map fun term => term.fragment.layout) :
    SameLayout (.call function arguments) (.call function arguments') := by
  have hfragments : (arguments.map Term.fragment).map Fragment.layout =
      (arguments'.map Term.fragment).map Fragment.layout := by
    rw [List.map_map, List.map_map]
    exact h
  unfold SameLayout
  simp [Term.fragment, Fragment.layout_separated hfragments]

/-- A call whose last argument alone may differ. -/
lemma call_last (function : ScalarFunction) (arguments : List Term)
    (h : SameLayout operand operand') :
    SameLayout (.call function (arguments ++ [operand]))
      (.call function (arguments ++ [operand'])) := by
  apply call
  rw [List.map_append, List.map_append]
  exact congrArg (fun layout => arguments.map (fun term => term.fragment.layout) ++ [layout]) h

end SameLayout

section Calls

variable {naming : Naming σ} {pairs : List (Expr × Expr)}
  (hpairs : ∀ pair ∈ pairs, Agree SameLayout (term naming pair.1) (term naming pair.2))

include hpairs

/-- Calls look for an argument at the same position, and miss it with the same error. -/
lemma agree_argument (function : FilterFunction) (position : Nat) :
    Agree SameLayout (argument function ((pairs.map Prod.fst).map (term naming)) position)
      (argument function ((pairs.map Prod.snd).map (term naming)) position) := by
  unfold argument
  rw [List.getElem?_map, List.getElem?_map, List.getElem?_map, List.getElem?_map]
  cases hposition : pairs[position]? with
  | none => exact agree_throw _ _
  | some pair => exact hpairs pair (List.mem_of_getElem? hposition)

lemma agree_allArguments :
    Agree (fun first second =>
        first.map (fun term => term.fragment.layout) =
          second.map fun term => term.fragment.layout)
      (allArguments ((pairs.map Prod.fst).map (term naming)))
      (allArguments ((pairs.map Prod.snd).map (term naming))) := by
  induction pairs with
  | nil => exact agree_pure rfl
  | cons pair rest ih =>
    obtain ⟨hpair, hrest⟩ := List.forall_mem_cons.1 hpairs
    apply hpair.bind
    intro first second hfirst
    apply (ih hrest).bind
    intro firsts seconds hrest
    apply agree_pure
    rw [List.map_cons, List.map_cons, hfirst, hrest]

/-- Calls of one name agree if their arguments do. -/
lemma agree_call (name : String) :
    Agree SameLayout (term naming (.call name (pairs.map Prod.fst)))
      (term naming (.call name (pairs.map Prod.snd))) := by
  rw [term, term, terms_eq_map, terms_eq_map]
  cases FilterFunction.ofName? name with
  | none => exact agree_throw _ _
  | some function =>
    -- the shape is a matter of the name, which both calls share
    have hargument := agree_argument hpairs function
    show Agree SameLayout (callTerm function _) (callTerm function _)
    rw [callTerm_eq, callTerm_eq]
    cases shape function with
    | like pattern =>
      apply (hargument 0).bind
      intro operand operand' hoperand
      apply (hargument 1).bind
      intro value value' hvalue
      exact agree_pure (hoperand.like pattern hvalue)
    | indexOf =>
      apply (hargument 1).bind
      intro sought sought' hsought
      apply (hargument 0).bind
      intro text text' htext
      have hterms : [sought, text].map (fun term => term.fragment.layout) =
          [sought', text'].map fun term => term.fragment.layout := by
        rw [List.map_cons, List.map_cons, List.map_cons, List.map_cons, hsought, htext]
      exact agree_pure (.call .charIndex hterms)
    | trim =>
      apply (hargument 0).bind
      intro operand operand' hoperand
      exact agree_pure (.call_last .lTrim [] (.call_last .rTrim [] hoperand))
    | part part =>
      apply (hargument 0).bind
      intro operand operand' hoperand
      exact agree_pure (.call_last .datePart [.datePart part] hoperand)
    | convert type =>
      apply (hargument 0).bind
      intro operand operand' hoperand
      exact agree_pure (hoperand.cast type)
    | totalSeconds =>
      apply (hargument 0).bind
      intro operand operand' hoperand
      exact agree_pure (.call_last .dateDiff [.datePart .second, .int 0] hoperand)
    | direct scalar =>
      apply (agree_allArguments hpairs).bind
      intro terms terms' hterms
      exact agree_pure (.call scalar hterms)
    | unsupported => exact agree_throw _ _

end Calls

/-- Variants of a filter have terms of the same layout, or fail with the same error. -/
lemma agree_term (naming : Naming σ) {expr other : Expr} (h : Expr.Variant expr other) :
    Agree SameLayout (term naming expr) (term naming other) := by
  induction h with
  | constant hvalue =>
    rw [term, term]
    rcases hvalue with rfl | ⟨hvalue, hother⟩
    · exact agree_pure (.refl _)
    · -- what is bound is a gap in the layout, whatever it is
      rw [hvalue, hother]
      exact agree_pure rfl
  | property property => exact agree_refl SameLayout.refl _
  | binary hleft hright ihleft ihright =>
    rw [term, term, ← hleft.isLikeCall_eq, ← hright.isNull_eq]
    apply ihleft.bind
    intro leftTerm leftTerm' hleftTerm
    -- both runs take the same branch: variants are null or a `LIKE` together
    cases isLikeCall _ with
    | true => exact agree_pure hleftTerm.nested
    | false =>
      cases Expr.isNull _ with
      | true =>
        apply agree_bind_same
        intro sign
        exact agree_pure (hleftTerm.binary sign (.refl .null))
      | false =>
        apply agree_bind_same
        intro sign
        apply ihright.bind
        intro rightTerm rightTerm' hrightTerm
        exact agree_pure (hleftTerm.binary sign hrightTerm)
  | @unary op operand operand' hoperand ih =>
    cases op with
    | not =>
      rw [term, term]
      apply ih.bind
      intro operandTerm operandTerm' hoperandTerm
      exact agree_pure hoperandTerm.not
    | negate => exact agree_throw _ _
  | call hpairs ih => exact agree_call ih _
  | cast hoperand ih => exact ih
  | lambda hpair ih =>
    rw [term, term]
    exact agree_throw _ _

/-! ## Commands -/

/-- The commands have the same text around their values. -/
def SameSelectLayout (first second : Select) : Prop :=
  first.fragment.layout = second.fragment.layout

section Commands

variable {naming : Naming σ} {command : String} {query other : Query}

lemma agree_condition {filter filter' : Option Expr} (h : Option.Rel Expr.Variant filter filter')
    (keyword : ConditionKeyword) :
    Agree (fun first second =>
        first.isEmpty = second.isEmpty ∧ first.fragment.layout = second.fragment.layout)
      (condition naming filter keyword) (condition naming filter' keyword) := by
  cases h with
  | none => exact agree_pure ⟨rfl, rfl⟩
  | some hfilter =>
    apply (agree_term naming hfilter).bind
    intro predicate predicate' hpredicate
    exact agree_pure ⟨rfl, congrArg (some keyword.text :: ·) hpredicate⟩

/-- The layout of a command is made of the layouts of its clauses. -/
lemma sameSelectLayout_of_condition (select : Select) {condition : Condition}
    (hempty : select.condition.isEmpty = condition.isEmpty)
    (hlayout : select.condition.fragment.layout = condition.fragment.layout) :
    SameSelectLayout select { select with condition := condition } := by
  have hspaced : (Fragment.spaced select.condition.isEmpty select.condition.fragment).layout =
      (Fragment.spaced condition.isEmpty condition.fragment).layout := by
    rw [hempty]
    cases condition.isEmpty with
    | true => rfl
    | false => exact congrArg (some " " :: ·) hlayout
  unfold SameSelectLayout Select.fragment Select.opening Select.ending
  simp only [Fragment.layout_append, hspaced]

lemma agree_rowsSelect (h : query.Variant other) :
    Agree SameSelectLayout (rowsSelect naming command query) (rowsSelect naming command other) := by
  obtain ⟨hother, hfilter⟩ := h
  rw [hother]
  unfold rowsSelect
  apply agree_bind_same
  intro base
  apply agree_bind_same
  intro list
  apply (agree_condition hfilter _).bind
  rintro condition condition' ⟨hempty, hlayout⟩
  apply agree_bind_same
  intro keys
  exact agree_pure (sameSelectLayout_of_condition ⟨_, _, _, condition, _, _⟩ hempty hlayout)

lemma agree_countSelect (h : query.Variant other) :
    Agree SameSelectLayout (countSelect naming command query)
      (countSelect naming command other) := by
  obtain ⟨hother, hfilter⟩ := h
  rw [hother]
  unfold countSelect
  apply agree_bind_same
  intro base
  apply (agree_condition hfilter _).bind
  rintro condition condition' ⟨hempty, hlayout⟩
  apply agree_bind_same
  intro key
  exact agree_pure (sameSelectLayout_of_condition ⟨_, _, _, condition, _, _⟩ hempty hlayout)

end Commands

/-! ## Statements -/

/-- The statements have the same text, and after the arguments of the caller they bind the constants
of the two filters that stand at the same places. -/
structure SameButConstants (arguments : List Datum) (query other : Query)
    (first second : Statement) : Prop where
  text : first.text = second.text
  length : first.arguments.length = second.arguments.length
  binds_first : Binds arguments query query.boundPlaces first
  binds_second : Binds arguments other query.boundPlaces second

/-- Commands of the same layout have the same text. -/
lemma Agree.text_statement {first second : Translation σ Select}
    (h : Agree SameSelectLayout first second) (arguments : List Datum) :
    Agree (fun first second => first.text = second.text)
      (do return (← first).statement arguments) (do return (← second).statement arguments) := by
  apply h.bind
  intro select select' hlayout
  rw [select.statement_eq, select'.statement_eq]
  exact agree_pure (text_append_eq hlayout rfl rfl)

/-- What follows for two results may make use of the runs that they are the results of. -/
lemma Agree.imp_of_yields {R S : α → β → Prop} {first : Translation σ α} {second : Translation σ β}
    (h : Agree R first second)
    (himp : ∀ state a b after, Yields first state a after → Yields second state b after →
      R a b → S a b) : Agree S first second := by
  intro state
  have hends := h state
  have himp := himp state
  unfold Yields at himp
  generalize outcome first state = ends at hends himp ⊢
  generalize outcome second state = ends' at hends himp ⊢
  rcases hends with ⟨hresults, after⟩ | ⟨e, after⟩
  · exact .ok (himp _ _ after rfl rfl hresults) after
  · exact .error e after

/-- A statement has an argument for each place, after those of the caller. -/
lemma Binds.length_arguments {arguments : List Datum} {query : Query} {places : List Expr.Place}
    {statement : Statement} (h : Binds arguments query places statement) :
    statement.arguments.length = arguments.length + places.length := by
  obtain ⟨values, harguments, hvalues⟩ := h
  have hlength := congrArg List.length hvalues
  rw [List.length_map, List.length_map] at hlength
  rw [harguments, List.length_append, hlength]

/-- Texts and places say all that there is to say of two statements. -/
lemma sameButConstants_of_binds {arguments : List Datum} {query other : Query}
    (hvariant : query.Variant other) {first second : Statement} (htext : first.text = second.text)
    (hfirst : Binds arguments query query.boundPlaces first)
    (hsecond : Binds arguments other other.boundPlaces second) :
    SameButConstants arguments query other first second := by
  rw [← hvariant.boundPlaces_eq] at hsecond
  have hlength : first.arguments.length = second.arguments.length := by
    rw [hfirst.length_arguments, hsecond.length_arguments]
  exact ⟨htext, hlength, hfirst, hsecond⟩

section Statements

variable {naming : Naming σ} {command : String} {arguments : List Datum} {query other : Query}

/-- Where two queries are the same up to constants that are not null, both have a command or both
fail, with the same error. The commands have the same text, and the arguments that they bind are the
constants at the same places, for the rows as for the number of rows. -/
theorem agree_of_variant (h : query.Variant other) :
    Agree (SameButConstants arguments query other) (rows naming command arguments query)
      (rows naming command arguments other) ∧
    Agree (SameButConstants arguments query other) (total naming command arguments query)
      (total naming command arguments other) := by
  constructor
  · have htexts : Agree (fun first second => first.text = second.text)
        (rows naming command arguments query) (rows naming command arguments other) :=
      (agree_rowsSelect h).text_statement arguments
    apply htexts.imp_of_yields
    intro state first second after hfirst hsecond htext
    exact sameButConstants_of_binds h htext (binds_of_yields_rows hfirst)
      (binds_of_yields_rows hsecond)
  · have htexts : Agree (fun first second => first.text = second.text)
        (total naming command arguments query) (total naming command arguments other) :=
      (agree_countSelect h).text_statement arguments
    apply htexts.imp_of_yields
    intro state first second after hfirst hsecond htext
    exact sameButConstants_of_binds h htext (binds_of_yields_total hfirst)
      (binds_of_yields_total hsecond)

end Statements

/-- The users with a value in a column. -/
def usersWith (value : Datum) : Query where
  entityType := "User"
  filter := some (.binary .equal (.ofName "Name") (.constant value))

/-- A flag may take the place of a text. -/
theorem agree_usersWith :
    Agree (SameButConstants [.null] (usersWith ⟨.string "a", rfl⟩) (usersWith ⟨.bool true, rfl⟩))
      (rows (Naming.standard : Naming Unit) "SELECT FROM Users WHERE Id = @p0" [.null]
        (usersWith ⟨.string "a", rfl⟩))
      (rows Naming.standard "SELECT FROM Users WHERE Id = @p0" [.null]
        (usersWith ⟨.bool true, rfl⟩)) ∧
    Agree (SameButConstants [.null] (usersWith ⟨.string "a", rfl⟩) (usersWith ⟨.bool true, rfl⟩))
      (total (Naming.standard : Naming Unit) "SELECT FROM Users WHERE Id = @p0" [.null]
        (usersWith ⟨.string "a", rfl⟩))
      (total Naming.standard "SELECT FROM Users WHERE Id = @p0" [.null]
        (usersWith ⟨.bool true, rfl⟩)) := by
  have hvariant : (usersWith ⟨.string "a", rfl⟩).Variant (usersWith ⟨.bool true, rfl⟩) :=
    ⟨rfl, .some (.binary (.property _) (.constant (.inr ⟨rfl, rfl⟩)))⟩
  exact agree_of_variant hvariant

end Translation
end ODataToSql
