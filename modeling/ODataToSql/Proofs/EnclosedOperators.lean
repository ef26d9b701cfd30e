import ODataToSql.Proofs.Outlines
import ODataToSql.Proofs.JoinedClauses
import ODataToSql.Proofs.Connectives

/-!
# Operators in parentheses

A condition may stand behind the `AND` of a command that the caller has written, where an operator
of its own would be read together with the caller's condition. It has none there: each operator is
in the parentheses of its operation. Negations, matches and calls stand open.

* `OfWords`: what of a term stands outside of parentheses are words, none of which is an operator. A
  column may be spelled like one.
* `Fragment.EnclosesOperators` says of the operators of a fragment that they stand in parentheses.
* The main result is `enclosed_of_yields`. The columns of the properties that a filter mentions must
  contain neither parentheses nor spaces.
-/

namespace ODataToSql

namespace Sql

/-! ## Words -/

/-- The first word of the operator. -/
def Operator.word (operator : Operator) : List Char :=
  (operator.text.toList.drop 1).takeWhile (· ≠ ' ')

/-- There is a space on either side of it. -/
lemma Operator.exists_text_eq (operator : Operator) :
    ∃ rest, operator.text.toList = ' ' :: (operator.word ++ [' ']) ++ rest := by
  cases operator with
  | isNot => exact ⟨"NOT ".toList, rfl⟩
  | _ => exact ⟨[], rfl⟩

/-- No operator has parentheses. -/
lemma Operator.paren_not_mem_text (operator : Operator) :
    '(' ∉ operator.text.toList ∧ ')' ∉ operator.text.toList := by
  cases operator <;> decide

/-- Neither parentheses nor spaces are in the text. -/
structure IsWord (text : List Char) : Prop where
  noOpening : '(' ∉ text
  noClosing : ')' ∉ text
  noSpace : ' ' ∉ text

instance (text : List Char) : Decidable (IsWord text) :=
  decidable_of_iff ('(' ∉ text ∧ ')' ∉ text ∧ ' ' ∉ text)
    ⟨fun ⟨hopen, hclose, hspace⟩ => ⟨hopen, hclose, hspace⟩,
      fun h => ⟨h.noOpening, h.noClosing, h.noSpace⟩⟩

lemma IsWord.append {first second : List Char} (hfirst : IsWord first) (hsecond : IsWord second) :
    IsWord (first ++ second) where
  noOpening := by simp [hfirst.noOpening, hsecond.noOpening]
  noClosing := by simp [hfirst.noClosing, hsecond.noClosing]
  noSpace := by simp [hfirst.noSpace, hsecond.noSpace]

lemma isWord_decimal (n : ℕ) : IsWord (Text.decimal n).toList where
  noOpening := Text.not_mem_decimal rfl n
  noClosing := Text.not_mem_decimal rfl n
  noSpace := Text.not_mem_decimal rfl n

lemma isWord_intText (value : ℤ) : IsWord (Term.intText value).toList := by
  have hsign : IsWord (if value < 0 then "-" else "").toList := by split <;> decide
  rw [Term.intText, String.toList_append]
  exact hsign.append (isWord_decimal _)

lemma isWord_placeholder (position : ℕ) : IsWord (Statement.placeholder position).toList := by
  have hsigil : IsWord Statement.placeholderSigil.toList := by decide
  rw [Statement.placeholder, String.toList_append]
  exact hsigil.append (isWord_decimal _)

lemma isWord_function (function : ScalarFunction) : IsWord function.text.toList := by
  cases function <;> decide

lemma isWord_datePart (part : DatePart) : IsWord part.text.toList := by
  cases part <;> decide

lemma isWord_type (type : ScalarType) : IsWord type.text.toList := by
  cases type <;> decide

/-- The word may stand outside of parentheses: it is not that of an operator, unless a column is
spelled so. -/
def IsHarmless (columns : List Column) (word : List Char) : Prop :=
  ' ' ∉ word ∧
    ∀ operator : Operator, word = operator.word → ∃ name ∈ columns, name.text.toList = word

lemma IsHarmless.mono {columns columns' : List Column} {word : List Char}
    (h : IsHarmless columns word) (hsubset : columns ⊆ columns') : IsHarmless columns' word := by
  refine ⟨h.1, fun operator hoperator => ?_⟩
  obtain ⟨name, hmem, hname⟩ := h.2 operator hoperator
  exact ⟨name, hsubset hmem, hname⟩

lemma isHarmless_of_ne {columns : List Column} {word : List Char} (hspace : ' ' ∉ word)
    (hne : ∀ operator : Operator, word ≠ operator.word) : IsHarmless columns word :=
  ⟨hspace, fun operator heq => absurd heq (hne operator)⟩

/-- A word is harmless for a character that no operator has. -/
lemma isHarmless_of_mem {columns : List Column} {word : List Char} (hspace : ' ' ∉ word) {c : Char}
    (hc : c ∈ word) (hoperators : ∀ operator : Operator, c ∉ operator.word) :
    IsHarmless columns word :=
  isHarmless_of_ne hspace fun operator heq => hoperators operator (heq ▸ hc)

/-- Numbers have digits, and no operator has one. -/
lemma isHarmless_intText {columns : List Column} (value : ℤ) :
    IsHarmless columns (Term.intText value).toList := by
  obtain ⟨c, hc⟩ := List.exists_mem_of_ne_nil _ (Nat.toDigits_ne_nil (n := value.natAbs) (b := 10))
  rw [← Text.toList_decimal] at hc
  have hmem : c ∈ (Term.intText value).toList := by
    rw [Term.intText, String.toList_append]
    exact List.mem_append_right _ hc
  refine isHarmless_of_mem (isWord_intText value).noSpace hmem fun operator hoperator => ?_
  have hdigits : operator.word.all (fun c => !c.isDigit) = true := by cases operator <;> rfl
  have hc' := List.all_eq_true.1 hdigits c hoperator
  rw [Text.isDigit_of_mem_decimal hc] at hc'
  cases hc'

/-- Placeholders have a sign that no operator has. -/
lemma isHarmless_placeholder {columns : List Column} (position : ℕ) :
    IsHarmless columns (Statement.placeholder position).toList := by
  have hsign : '@' ∈ (Statement.placeholder position).toList := by
    simp [Statement.placeholder, Statement.placeholderSigil]
  refine isHarmless_of_mem (isWord_placeholder position).noSpace hsign fun operator => ?_
  cases operator <;> decide

lemma isHarmless_datePart {columns : List Column} (part : DatePart) :
    IsHarmless columns part.text.toList := by
  refine isHarmless_of_ne (isWord_datePart part).noSpace fun operator => ?_
  cases part <;> cases operator <;> decide

/-- A column is spelled like itself. -/
lemma isHarmless_column {name : Column} (hname : IsWord name.text.toList) :
    IsHarmless [name] name.text.toList :=
  ⟨hname.noSpace, fun _ _ => ⟨name, List.mem_cons_self, rfl⟩⟩

/-! ## What stands outside of parentheses -/

/-- The text has an outline that consists of harmless words, with a space between any two. -/
def OfWords (columns : List Column) (text : List Char) : Prop :=
  ∃ words, words ≠ [] ∧ (∀ word ∈ words, IsHarmless columns word) ∧
    Outline text ([' '].intercalate words)

section OfWords

variable {columns columns' : List Column} {text first second inner name : List Char}

lemma ofWords_word (hword : IsWord text) (h : IsHarmless columns text) : OfWords columns text := by
  refine ⟨[text], List.cons_ne_nil _ _, List.forall_mem_singleton.2 h, ?_⟩
  rw [List.intercalate_singleton]
  exact .of_not_mem hword.noOpening hword.noClosing

lemma ofWords_keyword (hword : IsWord text) (hne : ∀ operator : Operator, text ≠ operator.word) :
    OfWords [] text :=
  ofWords_word hword (isHarmless_of_ne hword.noSpace hne)

/-- What stands in parentheses, behind a name or by itself. -/
lemma ofWords_group (hname : IsWord name) (hinner : ∃ outline, Outline inner outline) :
    OfWords columns (name ++ '(' :: (inner ++ [')'])) := by
  obtain ⟨outline, houtline⟩ := hinner
  have hspace : ' ' ∉ name ++ ['(', ')'] := by simp [hname.noSpace]
  refine ⟨[name ++ ['(', ')']], List.cons_ne_nil _ _, List.forall_mem_singleton.2 ?_, ?_⟩
  · refine isHarmless_of_mem hspace (c := '(') (by simp) ?_
    intro operator
    cases operator <;> decide
  · rw [List.intercalate_singleton]
    exact (Outline.of_not_mem hname.noOpening hname.noClosing).append houtline.parenthesized

lemma OfWords.append_space (hfirst : OfWords columns first) (hsecond : OfWords columns' second) :
    OfWords (columns ++ columns') (first ++ ' ' :: second) := by
  obtain ⟨words, hne, hwords, houtline⟩ := hfirst
  obtain ⟨words', hne', hwords', houtline'⟩ := hsecond
  refine ⟨words ++ words', by simp [hne], ?_, ?_⟩
  · intro word hmem
    rcases List.mem_append.1 hmem with hmem | hmem
    · exact (hwords word hmem).mono (List.subset_append_left _ _)
    · exact (hwords' word hmem).mono (List.subset_append_right _ _)
  · rw [intercalate_space_append hne hne']
    exact houtline.append (.plain (by decide) (by decide) houtline')

lemma OfWords.exists_outline (h : OfWords columns text) : ∃ outline, Outline text outline := by
  obtain ⟨words, -, -, houtline⟩ := h
  exact ⟨_, houtline⟩

/-- What is spelled like an operator, in a text of harmless words, stands behind an open
parenthesis, unless a column is spelled like its first word. -/
lemma OfWords.leavesOpen (h : OfWords columns text) {operator : Operator}
    (hcolumns : ∀ name ∈ columns, name.text.toList ≠ operator.word) {before after : List Char}
    (htext : text = before ++ (operator.text.toList ++ after)) : LeavesOpen before := by
  obtain ⟨words, -, hwords, houtline⟩ := h
  obtain ⟨rest, hoperator⟩ := operator.exists_text_eq
  obtain ⟨hopen, hclose⟩ := operator.paren_not_mem_text
  rw [hoperator] at hopen hclose
  rw [hoperator, List.append_assoc] at htext
  have hplace := houtline.enclosed_or_infix
    (fun hmem => hopen (List.mem_append_left _ hmem))
    (fun hmem => hclose (List.mem_append_left _ hmem)) htext
  refine hplace.resolve_right fun hinfix => ?_
  -- outside of parentheses, it would be one of the words
  have hspace : ' ' ∉ operator.word := by cases operator <;> decide
  have hword := mem_of_infix_intercalate (fun word hmem => (hwords word hmem).1) hspace hinfix
  obtain ⟨name, hmem, hname⟩ := (hwords _ hword).2 operator rfl
  exact hcolumns name hmem hname

end OfWords

/-! ## Outlines of fragments -/

namespace Fragment

/-- The text of the fragment has an outline, wherever its placeholders start. -/
def Outlined (fragment : Fragment) : Prop :=
  ∀ position, ∃ outline, Outline (fragment.textFrom position) outline

lemma outlined_text {text : String} (hopen : '(' ∉ text.toList) (hclose : ')' ∉ text.toList) :
    Outlined [.text text] := by
  intro position
  rw [textFrom_text]
  exact ⟨_, .of_not_mem hopen hclose⟩

lemma outlined_of_ofWords {columns : List Column} {fragment : Fragment}
    (h : ∀ position, OfWords columns (fragment.textFrom position)) : Outlined fragment :=
  fun position => (h position).exists_outline

lemma Outlined.append {first second : Fragment} (hfirst : Outlined first)
    (hsecond : Outlined second) : Outlined (first ++ second) := by
  intro position
  rw [textFrom_append]
  obtain ⟨outline, houtline⟩ := hfirst position
  obtain ⟨outline', houtline'⟩ := hsecond (position + first.values.length)
  exact ⟨_, houtline.append houtline'⟩

lemma outlined_separated {fragments : List Fragment}
    (h : ∀ fragment ∈ fragments, Outlined fragment) : Outlined (separated fragments) := by
  induction fragments with
  | nil => exact fun _ => ⟨[], .nil⟩
  | cons fragment rest ih =>
    obtain ⟨hfragment, hrest⟩ := List.forall_mem_cons.1 h
    cases rest with
    | nil => exact hfragment
    | cons second rest =>
      exact hfragment.append ((outlined_text (by decide) (by decide)).append (ih hrest))

/-- A fragment between two texts, one of which opens a parenthesis and the other one closes it. -/
lemma ofWords_enclosed {columns : List Column} {fragment : Fragment} (h : Outlined fragment)
    {front back name lead trail : String}
    (hfront : front.toList = name.toList ++ '(' :: lead.toList)
    (hback : back.toList = trail.toList ++ [')']) (hname : IsWord name.toList)
    (hlead : Outlined [.text lead]) (htrail : Outlined [.text trail]) (position : ℕ) :
    OfWords columns (textFrom position (.text front :: fragment ++ [.text back])) := by
  have htext : textFrom position (.text front :: fragment ++ [.text back]) =
      name.toList ++ '(' ::
        (textFrom position ([.text lead] ++ (fragment ++ [.text trail])) ++ [')']) := by
    simp [textFrom, textFrom_append, hfront, hback]
  rw [htext]
  exact ofWords_group hname ((hlead.append (h.append htrail)) position)

end Fragment

/-! ## Outlines of terms -/

lemma outlined_operator (operator : Operator) : Fragment.Outlined [.text operator.text] :=
  Fragment.outlined_text operator.paren_not_mem_text.1 operator.paren_not_mem_text.2

/-- What follows the operand of a conversion, up to the closing parenthesis. -/
lemma outlined_type (type : ScalarType) :
    Fragment.Outlined [.text " AS ", .text type.text] :=
  (Fragment.outlined_text (by decide) (by decide)).append
    (Fragment.outlined_text (isWord_type type).noOpening (isWord_type type).noClosing)

lemma outlined_arguments {arguments : List Term}
    (h : ∀ argument ∈ arguments, argument.fragment.Outlined) :
    (Fragment.separated (arguments.map Term.fragment)).Outlined :=
  Fragment.outlined_separated (List.forall_mem_map.2 h)

lemma fragment_cast (operand : Term) (type : ScalarType) :
    (Term.cast operand type).fragment =
      .text "CAST(" :: (operand.fragment ++ [.text " AS ", .text type.text]) ++ [.text ")"] := by
  simp [Term.fragment]

/-- The pattern of a match is in parentheses. -/
lemma ofWords_pattern {columns : List Column} {value : Fragment} (hvalue : value.Outlined)
    (pattern : LikePattern) (position : ℕ) :
    OfWords columns ((pattern.fragment value).textFrom position) := by
  have hempty : Fragment.Outlined [.text ""] := Fragment.outlined_text (by decide) (by decide)
  have hbefore : Fragment.Outlined [.text "'%' + "] :=
    Fragment.outlined_text (by decide) (by decide)
  have hbehind : Fragment.Outlined [.text " + '%'"] :=
    Fragment.outlined_text (by decide) (by decide)
  have hname : IsWord "".toList := by decide
  cases pattern with
  | contains => exact Fragment.ofWords_enclosed hvalue rfl rfl hname hbefore hbehind position
  | startsWith => exact Fragment.ofWords_enclosed hvalue rfl rfl hname hempty hbehind position
  | endsWith => exact Fragment.ofWords_enclosed hvalue rfl rfl hname hbefore hempty position

/-- What of a term stands outside of parentheses are harmless words. By induction on the term. -/
lemma ofWords_term {term : Term}
    (hcolumns : term.Everywhere (Term.OnColumn fun name => IsWord name.text.toList))
    (position : ℕ) : OfWords term.columns (term.fragment.textFrom position) := by
  have hempty : Fragment.Outlined [.text ""] := Fragment.outlined_text (by decide) (by decide)
  have hnameless : IsWord "".toList := by decide
  induction term generalizing position with
  | column name =>
    have hname : IsWord name.text.toList := Term.everywhere_column.1 hcolumns
    rw [Term.fragment, Fragment.textFrom_text]
    exact ofWords_word hname (isHarmless_column hname)
  | null =>
    rw [Term.fragment, Fragment.textFrom_text]
    exact ofWords_keyword (by decide) fun operator => by cases operator <;> decide
  | int value =>
    rw [Term.fragment, Fragment.textFrom_text]
    exact ofWords_word (isWord_intText value) (isHarmless_intText value)
  | parameter value =>
    rw [Term.fragment, Fragment.textFrom_argument]
    exact ofWords_word (isWord_placeholder position) (isHarmless_placeholder position)
  | datePart part =>
    rw [Term.fragment, Fragment.textFrom_text]
    exact ofWords_word (isWord_datePart part) (isHarmless_datePart part)
  | binary left operator right ihleft ihright =>
    obtain ⟨-, hleft, hright⟩ := Term.everywhere_binary.1 hcolumns
    have hleft := Fragment.outlined_of_ofWords (ihleft hleft)
    have hright := Fragment.outlined_of_ofWords (ihright hright)
    have hoperands := hleft.append ((outlined_operator operator).append hright)
    exact Fragment.ofWords_enclosed hoperands rfl rfl hnameless hempty hempty position
  | not operand ih =>
    have hoperand := ih (Term.everywhere_not.1 hcolumns).2 position
    have hnot : OfWords [] "NOT".toList :=
      ofWords_keyword (by decide) fun operator => by cases operator <;> decide
    exact hnot.append_space hoperand
  | like operand pattern value ihoperand ihvalue =>
    obtain ⟨-, hoperand, hvalue⟩ := Term.everywhere_like.1 hcolumns
    have hvalue := Fragment.outlined_of_ofWords (ihvalue hvalue)
    have hlike : OfWords [] "LIKE".toList :=
      ofWords_keyword (by decide) fun operator => by cases operator <;> decide
    rw [Term.fragment, Fragment.textFrom_append]
    exact (ihoperand hoperand position).append_space
      (hlike.append_space (ofWords_pattern hvalue pattern _))
  | nested inner ih =>
    have hinner := Fragment.outlined_of_ofWords (ih (Term.everywhere_nested.1 hcolumns).2)
    exact Fragment.ofWords_enclosed hinner rfl rfl hnameless hempty hempty position
  | call function arguments ih =>
    have harguments := outlined_arguments fun argument hmem => Fragment.outlined_of_ofWords
      (ih argument hmem ((Term.everywhere_call.1 hcolumns).2 argument hmem))
    have htext : (Term.call function arguments).fragment.textFrom position =
        Fragment.textFrom position (.text (function.text ++ "(") ::
          Fragment.separated (arguments.map Term.fragment) ++ [.text ")"]) := by
      simp [Term.fragment, Fragment.textFrom]
    rw [htext]
    exact Fragment.ofWords_enclosed harguments String.toList_append rfl (isWord_function function)
      hempty hempty position
  | cast operand type ih =>
    have hoperand := Fragment.outlined_of_ofWords (ih (Term.everywhere_cast.1 hcolumns).2)
    have hfront : "CAST(".toList = "CAST".toList ++ '(' :: "".toList := rfl
    rw [fragment_cast]
    exact Fragment.ofWords_enclosed (hoperand.append (outlined_type type)) hfront rfl (by decide)
      hempty hempty position

/-! ## Operators of fragments -/

namespace Fragment

variable {first second fragment : Fragment}

/-- Each operator of the fragment stands behind a parenthesis that is open there. -/
def EnclosesOperators (fragment : Fragment) : Prop :=
  ∀ (before : Fragment) (operator : Operator) after,
    fragment = before ++ .text operator.text :: after →
      ∀ position, LeavesOpen (before.textFrom position)

lemma enclosesOperators_singleton {piece : Piece}
    (h : ∀ operator : Operator, piece ≠ .text operator.text) : EnclosesOperators [piece] := by
  intro before operator after heq
  cases before with
  | nil => exact absurd (List.cons.inj heq).1 (h operator)
  | cons first before => cases before <;> cases heq

/-- A word is no operator: it has no spaces around it. -/
lemma enclosesOperators_word {text : String} (hword : IsWord text.toList) :
    EnclosesOperators [.text text] := by
  refine enclosesOperators_singleton fun operator heq => ?_
  obtain ⟨rest, hoperator⟩ := operator.exists_text_eq
  obtain rfl := Piece.text.inj heq
  exact hword.noSpace (by simp [hoperator])

/-- In front of an operator of the second fragment, the first one has closed what it has opened. -/
lemma EnclosesOperators.append (houtlined : first.Outlined) (hfirst : EnclosesOperators first)
    (hsecond : EnclosesOperators second) : EnclosesOperators (first ++ second) := by
  intro before operator after heq position
  rcases List.append_eq_append_iff.1 heq with ⟨between, rfl, hsplit⟩ | ⟨between, hsplit, hrest⟩
  · obtain ⟨outline, houtline⟩ := houtlined position
    have hopen := hsecond between operator after hsplit (position + first.values.length)
    unfold LeavesOpen at hopen ⊢
    rw [textFrom_append, List.count_append, List.count_append, houtline.count_eq]
    omega
  · cases between with
    | nil =>
      have hopen := hsecond [] operator after hrest.symm position
      exact absurd hopen (Nat.lt_irrefl _)
    | cons piece between =>
      obtain ⟨rfl, -⟩ := List.cons.inj hrest
      exact hfirst before operator between hsplit position

/-- Between a text that opens a parenthesis and one that closes it, everything is enclosed. -/
lemma enclosesOperators_between {front back : String} (hfront : LeavesOpen front.toList)
    (hback : ')' ∈ back.toList) (h : fragment.Outlined) :
    EnclosesOperators (.text front :: fragment ++ [.text back]) := by
  intro before operator after heq position
  obtain ⟨hopen, hclose⟩ := operator.paren_not_mem_text
  cases before with
  | nil =>
    -- the text in front is no operator
    obtain rfl := Piece.text.inj (List.cons.inj heq).1
    rw [LeavesOpen, List.count_eq_zero.2 hopen] at hfront
    exact absurd hfront (Nat.not_lt_zero _)
  | cons piece before =>
    obtain ⟨rfl, hsplit⟩ := List.cons.inj heq
    have hprefix : before <+: fragment := by
      rcases List.append_eq_append_iff.1 hsplit with ⟨between, -, hrest⟩ | ⟨between, hbetween, -⟩
      · cases between with
        | nil =>
          obtain rfl := Piece.text.inj (List.cons.inj hrest).1
          exact absurd hback hclose
        | cons piece between => cases between <;> cases hrest
      · exact ⟨between, hbetween.symm⟩
    obtain ⟨rest, rfl⟩ := hprefix
    obtain ⟨outline, houtline⟩ := h position
    rw [textFrom_append] at houtline
    have hle := houtline.count_le_of_prefix (List.prefix_append _ _)
    unfold LeavesOpen at hfront ⊢
    rw [textFrom, List.count_append, List.count_append]
    omega

end Fragment

/-- The pattern of a match is in parentheses. -/
lemma enclosesOperators_pattern {value : Fragment} (hvalue : value.Outlined)
    (pattern : LikePattern) : (pattern.fragment value).EnclosesOperators := by
  cases pattern with
  | contains | startsWith | endsWith =>
    exact Fragment.enclosesOperators_between (by decide) (by decide) hvalue

lemma outlined_term {term : Term}
    (hcolumns : term.Everywhere (Term.OnColumn fun name => IsWord name.text.toList)) :
    term.fragment.Outlined :=
  Fragment.outlined_of_ofWords (ofWords_term hcolumns)

/-- Each operator of a term is in the parentheses of its operation. By induction on the term. -/
lemma enclosesOperators_term {term : Term}
    (hcolumns : term.Everywhere (Term.OnColumn fun name => IsWord name.text.toList)) :
    term.fragment.EnclosesOperators := by
  induction term with
  | column name => exact Fragment.enclosesOperators_word (Term.everywhere_column.1 hcolumns)
  | null => exact Fragment.enclosesOperators_word (by decide)
  | int value => exact Fragment.enclosesOperators_word (isWord_intText value)
  | parameter value => exact Fragment.enclosesOperators_singleton fun _ => nofun
  | datePart part => exact Fragment.enclosesOperators_word (isWord_datePart part)
  | binary left operator right ihleft ihright =>
    obtain ⟨-, hleft, hright⟩ := Term.everywhere_binary.1 hcolumns
    exact Fragment.enclosesOperators_between (by decide) (by decide)
      ((outlined_term hleft).append ((outlined_operator operator).append (outlined_term hright)))
  | not operand ih =>
    have hnot : Fragment.EnclosesOperators [.text "NOT "] :=
      Fragment.enclosesOperators_singleton fun operator => by
        cases operator <;> simp [Operator.text]
    exact hnot.append (Fragment.outlined_text (by decide) (by decide))
      (ih (Term.everywhere_not.1 hcolumns).2)
  | like operand pattern value ihoperand ihvalue =>
    obtain ⟨-, hoperand, hvalue⟩ := Term.everywhere_like.1 hcolumns
    have hlike : Fragment.EnclosesOperators [.text " LIKE "] :=
      Fragment.enclosesOperators_singleton fun operator => by
        cases operator <;> simp [Operator.text]
    have hpattern := enclosesOperators_pattern (outlined_term hvalue) pattern
    exact (ihoperand hoperand).append (outlined_term hoperand)
      (hlike.append (Fragment.outlined_text (by decide) (by decide)) hpattern)
  | nested inner ih =>
    exact Fragment.enclosesOperators_between (by decide) (by decide)
      (outlined_term (Term.everywhere_nested.1 hcolumns).2)
  | call function arguments ih =>
    have harguments := outlined_arguments fun argument hmem =>
      outlined_term ((Term.everywhere_call.1 hcolumns).2 argument hmem)
    have hname := isWord_function function
    have hgroup : Fragment.EnclosesOperators
        (.text "(" :: Fragment.separated (arguments.map Term.fragment) ++ [.text ")"]) :=
      Fragment.enclosesOperators_between (by decide) (by decide) harguments
    have hcall := (Fragment.enclosesOperators_word hname).append
      (Fragment.outlined_text hname.noOpening hname.noClosing) hgroup
    rw [Term.fragment, Term.fragments_eq_map]
    exact hcall
  | cast operand type ih =>
    have hoperand := outlined_term (Term.everywhere_cast.1 hcolumns).2
    rw [fragment_cast]
    exact Fragment.enclosesOperators_between (by decide) (by decide)
      (hoperand.append (outlined_type type))

/-! ## Enclosed predicates -/

/-- As a condition behind others, the predicate leaves them what they are, whatever number its
placeholders start with. -/
structure Term.IsEnclosed (predicate : Term) : Prop where
  /-- Each parenthesis is closed, and none of those in front of the predicate. -/
  balanced : ∀ arguments, Balanced (predicate.fragment.alone arguments).text.toList
  /-- Each operator is in parentheses. -/
  operators : predicate.fragment.EnclosesOperators
  /-- So is all that is spelled like an operator, unless a column is spelled like its first word. -/
  spellings : ∀ operator : Operator,
    (∀ name ∈ predicate.columns, name.text.toList ≠ operator.word) →
      ∀ arguments before after, (predicate.fragment.alone arguments).text.toList =
        before ++ (operator.text.toList ++ after) → LeavesOpen before

/-- A term is enclosed if its columns are words. -/
lemma isEnclosed_term {term : Term}
    (hcolumns : term.Everywhere (Term.OnColumn fun name => IsWord name.text.toList)) :
    term.IsEnclosed where
  balanced arguments := by
    rw [Fragment.toList_text_alone]
    obtain ⟨outline, houtline⟩ := outlined_term hcolumns arguments.length
    exact houtline.balanced
  operators := enclosesOperators_term hcolumns
  spellings operator hoperator arguments before after htext := by
    rw [Fragment.toList_text_alone] at htext
    exact (ofWords_term hcolumns arguments.length).leavesOpen hoperator htext

end Sql

namespace Translation

open Sql

variable {σ : Type} {naming : Naming σ}

/-- The predicate of every filter is enclosed, where the columns of the properties that the filter
mentions contain neither parentheses nor spaces. -/
theorem enclosed_of_yields {filter : Expr}
    (hcalls : ∀ property ∈ mentioned filter, ∀ name,
      Calls naming property name → IsWord name.text.toList)
    {predicate : Term} {state after : σ} (h : Yields (term naming filter) state predicate after) :
    predicate.IsEnclosed :=
  isEnclosed_term ((termOf_of_yields h).onColumn hcalls)

/-- Neither is the age above a limit, nor does the name contain a text. -/
def neitherAgeNorName : Expr := .unary .not (.binary .or ageAbove nameContains)

/-- The term of that. -/
def neitherPredicate : Term := .not (.binary ageGreater .or nameLike)

/-- The columns of both properties are words. -/
lemma isWord_standard : ∀ property ∈ mentioned neitherAgeNorName, ∀ name,
    Calls (Naming.standard : Naming Unit) property name → IsWord name.text.toList :=
  forall_calls_of_answers (by decide)

/-- The negation stands open, and the disjunction under it is in parentheses. -/
theorem enclosed_neitherAgeNorName :
    Yields (term (Naming.standard : Naming Unit) neitherAgeNorName) () neitherPredicate () ∧
    neitherPredicate.IsEnclosed ∧
    (neitherPredicate.fragment.alone []).text =
      "NOT (([Age] > @p0) OR [Name] LIKE ('%' + @p1 + '%'))" := by
  have hyields : Yields (term (Naming.standard : Naming Unit) neitherAgeNorName) ()
      neitherPredicate () := rfl
  exact ⟨hyields, enclosed_of_yields isWord_standard hyields, rfl⟩

end Translation
end ODataToSql
