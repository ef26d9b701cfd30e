import ODataToSql.Proofs.Subterms
import ODataToSql.Text.DecimalDigit
import Mathlib.Data.List.Range
import Mathlib.Data.List.TakeWhile

/-!
# Reading placeholders back

`placeholders` reads a text from left to right and takes each placeholder together with all digits
that follow it. `Fragment.textFrom` is the text of a fragment whose values are numbered from some
position on, and a fragment is `Legible` if what is read in it are the numbers of its values, each
once and in order.

* A placeholder is read as it was written only if no digit follows it: `EndsNumeral` says that of
  the text behind it.
* Texts without the sign `@`, values, and what is put together from these with texts that start
  with no digit are legible.
* `legible_term`: so is every term whose columns do not contain the sign.
-/

namespace ODataToSql.Sql

open Text

/-! ## Texts -/

/-- The numerals of the placeholders in a text, each with all digits that follow the sigil. -/
def placeholders : List Char → List String
  | '@' :: 'p' :: rest => String.ofList (rest.takeWhile isDecimalDigit) :: placeholders rest
  | _ :: rest => placeholders rest
  | [] => []

/-- A numeral that stands in front of the text ends there. -/
def EndsNumeral (text : List Char) : Prop :=
  ∀ c ∈ text.head?, isDecimalDigit c = false

lemma endsNumeral_nil : EndsNumeral [] := by
  intro c hmem
  cases hmem

/-- The text may stand behind a placeholder: it starts, with no digit, and holds no placeholder. -/
def Separates (text : String) : Prop :=
  text.toList.head?.any (fun c => !isDecimalDigit c) = true ∧ '@' ∉ text.toList

instance (text : String) : Decidable (Separates text) := inferInstanceAs (Decidable (_ ∧ _))

/-- A numeral in front of a separating text ends there, whatever comes behind the text. -/
lemma Separates.endsNumeral_append {text : String} (h : Separates text) (rest : List Char) :
    EndsNumeral (text.toList ++ rest) := by
  obtain ⟨hstart, -⟩ := h
  intro c hmem
  cases htext : text.toList with
  | nil =>
    rw [htext] at hstart
    cases hstart
  | cons first text =>
    rw [htext] at hstart hmem
    obtain rfl : first = c := Option.some.inj hmem
    simpa using hstart

/-- There is no placeholder without its sign. -/
lemma placeholders_append {text : List Char} (h : '@' ∉ text) (rest : List Char) :
    placeholders (text ++ rest) = placeholders rest := by
  induction text with
  | nil => rfl
  | cons c text ih =>
    obtain ⟨hc, htext⟩ := not_or.1 (mt List.mem_cons.2 h)
    rw [List.cons_append, placeholders, ih htext]
    -- the equation of the reader that was used asks for a character other than the sign
    intro _ hsign
    exact absurd hsign.symm hc

/-! ## Numerals -/

/-- The digits of a number are digits of their script. -/
lemma isDecimalDigit_of_isDigit {c : Char} (h : c.isDigit = true) : isDecimalDigit c = true := by
  rw [Char.isDigit, Bool.and_eq_true, decide_eq_true_eq, decide_eq_true_eq] at h
  obtain ⟨hlow, hhigh⟩ := h
  have hlow : 0x30 ≤ c.toNat := hlow
  have hhigh : c.toNat ≤ 0x39 := hhigh
  simp [isDecimalDigit, CodePoints.contains, decimalDigitCodePoints, hlow, hhigh]

/-- A numeral is read up to its last digit. -/
lemma takeWhile_decimal (n : Nat) {rest : List Char} (h : EndsNumeral rest) :
    ((decimal n).toList ++ rest).takeWhile isDecimalDigit = (decimal n).toList := by
  -- the run contains the digits of the number, and stops in front of what comes behind
  have hdigits : ∀ c ∈ (decimal n).toList, isDecimalDigit c = true := by
    intro c hmem
    exact isDecimalDigit_of_isDigit (isDigit_of_mem_decimal hmem)
  have hrest : rest.takeWhile isDecimalDigit = [] := by
    cases rest with
    | nil => rfl
    | cons c rest => exact List.takeWhile_cons_of_neg (by simp [h c rfl])
  rw [List.takeWhile_append_of_pos hdigits, hrest, List.append_nil]

/-- A placeholder that no digit follows is read as it was written. -/
lemma placeholders_placeholder (n : Nat) {rest : List Char} (h : EndsNumeral rest) :
    placeholders ((Statement.placeholder n).toList ++ rest) = decimal n :: placeholders rest := by
  have htext : (Statement.placeholder n).toList = '@' :: 'p' :: (decimal n).toList := by
    rw [Statement.placeholder, String.toList_append]
    rfl
  rw [htext, List.cons_append, List.cons_append, placeholders, takeWhile_decimal n h,
    placeholders_append (not_mem_decimal (by decide) n), String.ofList_toList]

/-! ## Fragments -/

namespace Fragment

/-- The text of a fragment, with its values numbered from a position on. -/
def textFrom : Nat → Fragment → List Char
  | _, [] => []
  | position, .text text :: rest => text.toList ++ textFrom position rest
  | position, .argument _ :: rest =>
    (Statement.placeholder position).toList ++ textFrom (position + 1) rest

lemma textFrom_text (position : Nat) (text : String) :
    textFrom position [.text text] = text.toList := by
  rw [textFrom, textFrom, List.append_nil]

lemma textFrom_argument (position : Nat) (value : Datum) :
    textFrom position [.argument value] = (Statement.placeholder position).toList := by
  rw [textFrom, textFrom, List.append_nil]

lemma textFrom_append (position : Nat) (first second : Fragment) :
    textFrom position (first ++ second) =
      textFrom position first ++ textFrom (position + first.values.length) second := by
  induction first generalizing position with
  | nil => rfl
  | cons piece first ih =>
    cases piece with
    | text text => simp [textFrom, ih]
    | argument value =>
      have hposition : position + 1 + (values first).length =
          position + ((values first).length + 1) := by omega
      simp [textFrom, ih, hposition]

/-- What is read in the text of the fragment are the numbers of its values, if a numeral at its end
ends there. -/
def Legible (fragment : Fragment) : Prop :=
  ∀ position rest, EndsNumeral rest →
    placeholders (fragment.textFrom position ++ rest) =
      (List.range' position fragment.values.length).map decimal ++ placeholders rest

/-- A numeral that stands in front of the fragment ends there. -/
def Stops (fragment : Fragment) : Prop :=
  ∀ position rest, EndsNumeral rest → EndsNumeral (fragment.textFrom position ++ rest)

lemma legible_nil : Legible [] := by
  intro position rest hrest
  rfl

lemma stops_nil : Stops [] := by
  intro position rest hrest
  exact hrest

lemma stops_text_cons {text : String} (htext : Separates text) (fragment : Fragment) :
    Stops (.text text :: fragment) := by
  intro position rest hrest
  rw [textFrom, List.append_assoc]
  exact htext.endsNumeral_append _

lemma legible_argument (value : Datum) : Legible [.argument value] := by
  intro position rest hrest
  rw [textFrom, textFrom, List.append_nil, placeholders_placeholder position hrest]
  rfl

/-- In front of a legible fragment there may be any text without the sign of placeholders. -/
lemma Legible.text_cons {fragment : Fragment} (h : Legible fragment) {text : String}
    (htext : '@' ∉ text.toList) : Legible (.text text :: fragment) := by
  intro position rest hrest
  rw [textFrom, List.append_assoc, placeholders_append htext]
  exact h position rest hrest

lemma legible_text {text : String} (htext : '@' ∉ text.toList) : Legible [.text text] :=
  legible_nil.text_cons htext

/-- A legible fragment may be followed by another one at which a numeral ends. -/
lemma Legible.append {first second : Fragment} (hfirst : Legible first) (hstops : Stops second)
    (hsecond : Legible second) : Legible (first ++ second) := by
  intro position rest hrest
  -- the second fragment is numbered from where the first one ends
  rw [textFrom_append, List.append_assoc, hfirst position _ (hstops _ rest hrest),
    hsecond _ rest hrest, values_append, List.length_append, ← List.append_assoc, ← List.map_append,
    List.range'_append_1]

/-- Between two legible fragments there may be any text that separates them. -/
lemma Legible.append_text {first second : Fragment} (hfirst : Legible first) {text : String}
    (htext : Separates text) (hsecond : Legible second) :
    Legible (first ++ .text text :: second) :=
  hfirst.append (stops_text_cons htext second) (hsecond.text_cons htext.2)

lemma stops_spaced (leftOut : Bool) (fragment : Fragment) : Stops (spaced leftOut fragment) := by
  cases leftOut with
  | true => exact stops_nil
  | false => exact stops_text_cons (by decide) fragment

lemma Legible.spaced {fragment : Fragment} (h : Legible fragment) (leftOut : Bool) :
    Legible (spaced leftOut fragment) := by
  cases leftOut with
  | true => exact legible_nil
  | false => exact h.text_cons (by decide)

/-- Commas keep legible fragments apart. -/
lemma legible_separated {fragments : List Fragment} (h : ∀ fragment ∈ fragments, Legible fragment) :
    Legible (separated fragments) := by
  induction fragments with
  | nil => exact legible_nil
  | cons fragment rest ih =>
    obtain ⟨hfragment, hrest⟩ := List.forall_mem_cons.1 h
    cases rest with
    | nil => exact hfragment
    | cons second rest => exact hfragment.append_text (by decide) (ih hrest)

end Fragment

/-- What is appended to a statement is numbered after the arguments that it has. -/
lemma toList_text_append (statement : Statement) (fragment : Fragment) :
    (statement.append fragment).text.toList =
      statement.text.toList ++ fragment.textFrom statement.arguments.length := by
  induction fragment generalizing statement with
  | nil => exact (List.append_nil _).symm
  | cons piece rest ih =>
    show ((statement.appendPiece piece).append rest).text.toList = _
    rw [ih]
    cases piece with
    | text text => simp [Statement.appendPiece, Statement.appendText, Fragment.textFrom]
    | argument value => simp [Statement.appendPiece, Statement.appendArgument, Fragment.textFrom]

/-! ## Terms -/

lemma separates_operator (operator : Operator) : Separates operator.text := by
  cases operator <;> decide

/-- The text of a whole number holds no placeholder. -/
lemma sign_not_mem_intText (value : Int) : '@' ∉ (Term.intText value).toList := by
  rw [Term.intText, String.toList_append, List.mem_append]
  rintro (hsign | hdigits)
  · by_cases hneg : value < 0
    · rw [if_pos hneg] at hsign
      exact absurd hsign (by decide)
    · rw [if_neg hneg] at hsign
      exact absurd hsign (by decide)
  · exact not_mem_decimal (by decide) _ hdigits

/-- A `LIKE` keeps its operand, its pattern and the value in the pattern apart. -/
lemma legible_like {operand value : Fragment} (hoperand : operand.Legible) (hvalue : value.Legible)
    (pattern : LikePattern) :
    (operand ++ .text " LIKE " :: pattern.fragment value).Legible := by
  have hpattern : (pattern.fragment value).Legible := by
    cases pattern with
    | contains | startsWith =>
      exact (hvalue.text_cons (by decide)).append_text (by decide) Fragment.legible_nil
    | endsWith => exact (hvalue.text_cons (by decide)).append_text (by decide) Fragment.legible_nil
  exact hoperand.append_text (by decide) hpattern

/-- The text of a term is legible if the texts of its parts are. -/
lemma legible_of_children {term : Term}
    (hcolumn : ∀ name, term = .column name → '@' ∉ name.text.toList)
    (hchildren : ∀ child ∈ term.children, child.fragment.Legible) : term.fragment.Legible := by
  cases term with
  | column name => exact Fragment.legible_text (hcolumn name rfl)
  | null => exact Fragment.legible_text (by decide)
  | int value => exact Fragment.legible_text (sign_not_mem_intText value)
  | parameter value => exact Fragment.legible_argument value
  | binary left operator right =>
    have hleft : left.fragment.Legible := hchildren left (by simp [Term.children])
    have hright : right.fragment.Legible := hchildren right (by simp [Term.children])
    rw [Term.fragment]
    -- the operator separates the operands, and the parenthesis what comes behind
    exact ((hleft.text_cons (by decide)).append_text (separates_operator operator)
      hright).append_text (by decide) Fragment.legible_nil
  | not operand =>
    have hoperand : operand.fragment.Legible := hchildren operand (by simp [Term.children])
    exact hoperand.text_cons (by decide)
  | like operand pattern value =>
    have hoperand : operand.fragment.Legible := hchildren operand (by simp [Term.children])
    have hvalue : value.fragment.Legible := hchildren value (by simp [Term.children])
    exact legible_like hoperand hvalue pattern
  | nested inner =>
    have hinner : inner.fragment.Legible := hchildren inner (by simp [Term.children])
    rw [Term.fragment]
    exact (hinner.text_cons (by decide)).append_text (by decide) Fragment.legible_nil
  | call function arguments =>
    have harguments : (Fragment.separated (arguments.map Term.fragment)).Legible := by
      apply Fragment.legible_separated
      rintro fragment hmem
      obtain ⟨argument, hargument, rfl⟩ := List.mem_map.1 hmem
      exact hchildren argument hargument
    have hname : '@' ∉ function.text.toList := by cases function <;> decide
    rw [Term.fragment, Term.fragments_eq_map]
    exact ((harguments.text_cons (by decide)).text_cons hname).append_text (by decide)
      Fragment.legible_nil
  | datePart part =>
    have hname : '@' ∉ part.text.toList := by cases part <;> decide
    exact Fragment.legible_text hname
  | cast operand type =>
    have hoperand : operand.fragment.Legible := hchildren operand (by simp [Term.children])
    have hname : '@' ∉ type.text.toList := by cases type <;> decide
    rw [Term.fragment]
    exact (hoperand.text_cons (by decide)).append_text (by decide)
      ((Fragment.legible_text (by decide)).text_cons hname)

/-- No numeral of a term runs into a digit, and no placeholder stands in its texts, if there is none
in its columns. -/
lemma legible_term {term : Term}
    (hcolumns : term.Everywhere (Term.OnColumn fun name => '@' ∉ name.text.toList)) :
    term.fragment.Legible := by
  induction term using Term.induct_children with
  | step term ih =>
    obtain ⟨hterm, hchildren⟩ := Term.everywhere_iff.1 hcolumns
    apply legible_of_children
    · rintro name rfl
      exact hterm
    · intro child hchild
      exact ih child hchild (hchildren child hchild)

end ODataToSql.Sql
