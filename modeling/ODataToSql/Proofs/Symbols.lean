import ODataToSql.Proofs.JoinedClauses
import ODataToSql.Proofs.Templates

/-!
# The symbols of a predicate

The text of a predicate is cut into symbols: columns, placeholders, and tokens that are the same
wherever they stand. No symbol is the beginning of another one, so that a text can be cut in one way
only.

* `Token.eq_of_prefix`: tokens are a prefix code. A column in brackets ends at its closing bracket,
  and a placeholder has the number of its position.
* `eq_of_fragmentOf`: symbols with the same text and the same values are the same.
* `Term.symbols` are the symbols of a term. They have its text if the term `IsReadable` at each
  node.
-/

namespace ODataToSql.Sql

/-! ## Symbols -/

/-- Whether the operator has `NULL` on its right, and nothing else. -/
def Operator.testsNull : Operator → Bool
  | .is | .isNot => true
  | _ => false

/-- A text in a predicate that is the same wherever it stands. -/
inductive Token where
  | null
  | zero
  | datePart (part : DatePart)
  | not
  | opening
  | closing
  | comma
  /-- A match, with the opening parenthesis of its pattern. -/
  | like
  /-- The wildcard in front of the value of a pattern. -/
  | wildcardBefore
  /-- The wildcard behind the value of a pattern, with the closing parenthesis. It stands behind the
  operator of an addition. -/
  | wildcardAfter
  | call (function : ScalarFunction)
  | cast
  /-- The type of a conversion, with the closing parenthesis. -/
  | convert (type : ScalarType)
  /-- An operator, and the `NULL` on the right if it tests for that. -/
  | operation (operator : Operator)
deriving DecidableEq, Repr

namespace Token

/-- The token as it is written. -/
def text : Token → String
  | .null => "NULL"
  | .zero => "0"
  | .datePart part => part.text
  | .not => "NOT "
  | .opening => "("
  | .closing => ")"
  | .comma => ", "
  | .like => " LIKE ("
  | .wildcardBefore => "'%' + "
  | .wildcardAfter => "'%')"
  | .call function => function.text ++ "("
  | .cast => "CAST("
  | .convert type => " AS " ++ type.text ++ ")"
  | .operation operator => operator.text ++ if operator.testsNull then "NULL" else ""

/-- All tokens. -/
def all : List Token :=
  [.null, .zero, .not, .opening, .closing, .comma, .like, .wildcardBefore, .wildcardAfter, .cast] ++
  [DatePart.hour, .minute, .second, .tzOffset].map .datePart ++
  [ScalarType.date, .time].map .convert ++
  [ScalarFunction.charIndex, .lTrim, .rTrim, .datePart, .dateDiff, .len, .lower, .upper,
    .getUtcDate, .substring, .concat, .year, .month, .day, .round, .floor, .ceiling].map .call ++
  [Operator.and, .or, .equals, .notEquals, .greaterThan, .greaterThanOrEqualTo, .lessThan,
    .lessThanOrEqualTo, .is, .isNot, .add, .subtract, .multiply, .divide, .modulo].map .operation

lemma mem_all (token : Token) : token ∈ all := by
  cases token with
  | datePart part => cases part <;> decide
  | call function => cases function <;> decide
  | convert type => cases type <;> decide
  | operation operator => cases operator <;> decide
  | _ => decide

/-- No token is the beginning of another one. -/
lemma eq_of_prefix {first second : Token} (h : first.text.toList <+: second.text.toList) :
    first = second := by
  have hall : ∀ first ∈ all, ∀ second ∈ all, first.text.toList <+: second.text.toList →
      first = second := by
    decide +kernel
  exact hall first (mem_all first) second (mem_all second) h

/-- No token starts as a name in brackets or as a placeholder does. -/
lemma head?_text (token : Token) :
    token.text.toList.head? ≠ none ∧ token.text.toList.head? ≠ some '[' ∧
      token.text.toList.head? ≠ some '@' := by
  have hall : ∀ token ∈ all, token.text.toList.head? ≠ none ∧ token.text.toList.head? ≠ some '[' ∧
      token.text.toList.head? ≠ some '@' := by
    decide +kernel
  exact hall token (mem_all token)

end Token

/-- A part of the text of a predicate that no other part is the beginning of. -/
inductive Symbol where
  | column (name : Column)
  /-- A value for which a placeholder is written. -/
  | value (value : Datum)
  | token (token : Token)

/-- The column is a name in brackets, and the name has no closing bracket. -/
def IsBracketed (name : Column) : Prop :=
  ∃ text : String, name = quoted text ∧ ']' ∉ text.toList

namespace Symbol

/-- The symbol as a piece of a fragment. -/
def piece : Symbol → Piece
  | .column name => .text name.text
  | .value datum => .argument datum
  | .token written => .text written.text

/-- The column is a name in brackets, if the symbol is one. -/
def IsPlain : Symbol → Prop
  | .column name => IsBracketed name
  | _ => True

end Symbol

/-- Symbols as a fragment. -/
def fragmentOf (symbols : List Symbol) : Fragment := symbols.map Symbol.piece

/-! ## Symbols are read back -/

section Code

variable {first second : Symbol} {position : ℕ} {rest rest' : List Char}

lemma head?_bracketed {name : Column} (h : IsBracketed name) :
    name.text.toList.head? = some '[' := by
  obtain ⟨text, rfl, -⟩ := h
  exact Fills.head?_quoted text

lemma head?_placeholder (position : ℕ) :
    (Statement.placeholder position).toList.head? = some '@' := by
  simp [Statement.placeholder, Statement.placeholderSigil]

/-- The text of a symbol starts with a character that says what kind of symbol it is. -/
lemma exists_head? (h : first.IsPlain) (position : ℕ) :
    ∃ c, (Fragment.textFrom position [first.piece]).head? = some c ∧
      (c = '[' ↔ ∃ name, first = .column name) ∧ (c = '@' ↔ ∃ value, first = .value value) := by
  cases first with
  | column name =>
    refine ⟨'[', ?_, by simp, by simp⟩
    rw [Symbol.piece, Fragment.textFrom_text]
    exact head?_bracketed h
  | value value =>
    refine ⟨'@', ?_, by simp, by simp⟩
    rw [Symbol.piece, Fragment.textFrom_argument]
    exact head?_placeholder position
  | token token =>
    obtain ⟨hnone, hbracket, hsign⟩ := token.head?_text
    obtain ⟨c, hc⟩ := Option.ne_none_iff_exists'.1 hnone
    rw [hc] at hbracket hsign
    refine ⟨c, ?_, ?_, ?_⟩
    · rw [Symbol.piece, Fragment.textFrom_text]
      exact hc
    · simpa using hbracket
    · simpa using hsign

/-- Up to the first closing bracket, texts that are the same have the same text. -/
lemma eq_of_append_closing {front front' : List Char} (h : ']' ∉ front) (h' : ']' ∉ front')
    (heq : front ++ ']' :: rest = front' ++ ']' :: rest') : front = front' := by
  have hfirst : ∀ {text : List Char}, ']' ∉ text → ∀ c ∈ text, (c != ']') = true := by
    intro text htext c hmem
    simpa using ne_of_mem_of_not_mem hmem htext
  have hread := congrArg (List.takeWhile (· != ']')) heq
  rw [List.takeWhile_append_of_pos (hfirst h), List.takeWhile_append_of_pos (hfirst h')] at hread
  simpa using hread

lemma eq_of_bracketed_append {name name' : Column} (h : IsBracketed name) (h' : IsBracketed name')
    (heq : name.text.toList ++ rest = name'.text.toList ++ rest') : name = name' := by
  obtain ⟨text, rfl, htext⟩ := h
  obtain ⟨text', rfl, htext'⟩ := h'
  have hnames : text.toList ++ ']' :: rest = text'.toList ++ ']' :: rest' := by
    simpa [quoted] using heq
  rw [String.toList_inj.1 (eq_of_append_closing htext htext' hnames)]

/-- Texts that go on in any way start with the same symbol, if it is not for the values. -/
lemma eq_of_textFrom_append (hfirst : first.IsPlain) (hsecond : second.IsPlain)
    (hvalues : ∀ value value', first = .value value → second = .value value' → value = value')
    (h : Fragment.textFrom position [first.piece] ++ rest =
      Fragment.textFrom position [second.piece] ++ rest') : first = second := by
  obtain ⟨c, hc, hcolumn, hvalue⟩ := exists_head? hfirst position
  obtain ⟨c', hc', hcolumn', hvalue'⟩ := exists_head? hsecond position
  obtain rfl : c = c' := by
    have hheads := congrArg List.head? h
    rw [List.head?_append, List.head?_append, hc, hc'] at hheads
    exact Option.some.inj hheads
  cases first with
  | column name =>
    obtain ⟨name', rfl⟩ := hcolumn'.1 (hcolumn.2 ⟨name, rfl⟩)
    rw [Symbol.piece, Symbol.piece, Fragment.textFrom_text, Fragment.textFrom_text] at h
    rw [eq_of_bracketed_append hfirst hsecond h]
  | value value =>
    obtain ⟨value', rfl⟩ := hvalue'.1 (hvalue.2 ⟨value, rfl⟩)
    rw [hvalues value value' rfl rfl]
  | token token =>
    cases second with
    | column name =>
      obtain ⟨_, htoken⟩ := hcolumn.1 (hcolumn'.2 ⟨name, rfl⟩)
      cases htoken
    | value value =>
      obtain ⟨_, htoken⟩ := hvalue.1 (hvalue'.2 ⟨value, rfl⟩)
      cases htoken
    | token token' =>
      rw [Symbol.piece, Symbol.piece, Fragment.textFrom_text, Fragment.textFrom_text] at h
      have hprefix : token'.text.toList <+: token.text.toList ++ rest := ⟨rest', h.symm⟩
      rcases List.prefix_or_prefix_of_prefix (List.prefix_append _ rest) hprefix with
        hprefix | hprefix
      · rw [Token.eq_of_prefix hprefix]
      · rw [Token.eq_of_prefix hprefix]

end Code

lemma textFrom_cons (symbol : Symbol) (rest : List Symbol) (position : ℕ) :
    (fragmentOf (symbol :: rest)).textFrom position =
      Fragment.textFrom position [symbol.piece] ++
        (fragmentOf rest).textFrom (position + (Fragment.values [symbol.piece]).length) :=
  Fragment.textFrom_append position [symbol.piece] (fragmentOf rest)

lemma values_cons (symbol : Symbol) (rest : List Symbol) :
    (fragmentOf (symbol :: rest)).values =
      Fragment.values [symbol.piece] ++ (fragmentOf rest).values :=
  Fragment.values_append [symbol.piece] (fragmentOf rest)

lemma textFrom_cons_ne_nil {symbol : Symbol} (h : symbol.IsPlain) {rest : List Symbol}
    {position : ℕ} : (fragmentOf (symbol :: rest)).textFrom position ≠ [] := by
  obtain ⟨c, hc, -⟩ := exists_head? h position
  intro hnil
  rw [textFrom_cons] at hnil
  rw [(List.append_eq_nil_iff.1 hnil).1] at hc
  cases hc

/-- Symbols with the same text and the same values are the same, if their columns are names in
brackets. By induction on the symbols: the texts go on at the same position behind each of them. -/
lemma eq_of_fragmentOf {symbols symbols' : List Symbol}
    (hplain : ∀ symbol ∈ symbols, symbol.IsPlain)
    (hplain' : ∀ symbol ∈ symbols', symbol.IsPlain) {position : ℕ}
    (htext : (fragmentOf symbols).textFrom position = (fragmentOf symbols').textFrom position)
    (hvalues : (fragmentOf symbols).values = (fragmentOf symbols').values) :
    symbols = symbols' := by
  induction symbols generalizing symbols' position with
  | nil =>
    cases symbols' with
    | nil => rfl
    | cons symbol rest =>
      exact absurd htext.symm (textFrom_cons_ne_nil (hplain' _ List.mem_cons_self))
  | cons symbol rest ih =>
    cases symbols' with
    | nil => exact absurd htext (textFrom_cons_ne_nil (hplain _ List.mem_cons_self))
    | cons symbol' rest' =>
      obtain ⟨hsymbol, hrest⟩ := List.forall_mem_cons.1 hplain
      obtain ⟨hsymbol', hrest'⟩ := List.forall_mem_cons.1 hplain'
      rw [textFrom_cons, textFrom_cons] at htext
      rw [values_cons, values_cons] at hvalues
      obtain rfl : symbol = symbol' := by
        refine eq_of_textFrom_append hsymbol hsymbol' ?_ htext
        rintro value value' rfl rfl
        exact (List.cons.inj hvalues).1
      rw [ih hrest hrest' (List.append_cancel_left htext) (List.append_cancel_left hvalues)]

/-! ## Fragments in symbols -/

namespace Fragment

lemma textFrom_texts (position : ℕ) (texts : List String) :
    textFrom position (texts.map .text) = texts.flatMap String.toList := by
  induction texts with
  | nil => rfl
  | cons text rest ih => rw [List.map_cons, textFrom, ih, List.flatMap_cons]

lemma values_texts (texts : List String) : values (texts.map .text) = [] := by
  induction texts with
  | nil => rfl
  | cons text rest ih => rw [List.map_cons, values_text_cons, ih]

end Fragment

/-- The fragment has the text of the symbols, wherever its placeholders start, and their values. -/
structure IsSpelled (symbols : List Symbol) (fragment : Fragment) : Prop where
  values : fragment.values = (fragmentOf symbols).values
  text : ∀ position, fragment.textFrom position = (fragmentOf symbols).textFrom position

namespace IsSpelled

variable {symbols symbols' : List Symbol} {fragment fragment' : Fragment}

lemma append (h : IsSpelled symbols fragment) (h' : IsSpelled symbols' fragment') :
    IsSpelled (symbols ++ symbols') (fragment ++ fragment') where
  values := by
    rw [fragmentOf, List.map_append, Fragment.values_append, Fragment.values_append, h.values,
      h'.values]
    rfl
  text position := by
    rw [fragmentOf, List.map_append, Fragment.textFrom_append, Fragment.textFrom_append, h.text,
      h'.text, h.values]
    rfl

/-- Texts are spelled by tokens that have the same text one after the other. -/
lemma ofTexts (texts : List String) (tokens : List Token)
    (h : texts.flatMap String.toList = tokens.flatMap fun token => token.text.toList) :
    IsSpelled (tokens.map .token) (texts.map .text) := by
  have htokens : fragmentOf (tokens.map .token) = (tokens.map Token.text).map .text := by
    simp [fragmentOf, Symbol.piece, Function.comp_def]
  constructor
  · rw [htokens, Fragment.values_texts, Fragment.values_texts]
  · intro position
    rw [htokens, Fragment.textFrom_texts, Fragment.textFrom_texts, h, List.flatMap_map]

lemma ofToken (token : Token) : IsSpelled [.token token] [.text token.text] :=
  ofTexts [token.text] [token] rfl

end IsSpelled

/-! ## Terms in symbols -/

/-- Symbols with commas between them. -/
def separatedSymbols (arguments : List (List Symbol)) : List Symbol :=
  [.token .comma].intercalate arguments

/-- The symbols of a pattern. -/
def LikePattern.symbols (pattern : LikePattern) (value : List Symbol) : List Symbol :=
  match pattern with
  | .contains =>
    [.token .like, .token .wildcardBefore] ++ value ++
      [.token (.operation .add), .token .wildcardAfter]
  | .startsWith =>
    [.token .like] ++ value ++ [.token (.operation .add), .token .wildcardAfter]
  | .endsWith => [.token .like, .token .wildcardBefore] ++ value ++ [.token .closing]

namespace Term

mutual

/-- The symbols of a term. All whole numbers are taken for zero. -/
def symbols : Term → List Symbol
  | .column name => [.column name]
  | .null => [.token .null]
  | .int _ => [.token .zero]
  | .parameter value => [.value value]
  | .binary left operator right =>
    .token .opening :: left.symbols ++ .token (.operation operator) ::
      (if operator.testsNull then [] else right.symbols) ++ [.token .closing]
  | .not operand => .token .not :: operand.symbols
  | .like operand pattern value => operand.symbols ++ pattern.symbols value.symbols
  | .nested inner => .token .opening :: inner.symbols ++ [.token .closing]
  | .call function arguments =>
    .token (.call function) :: separatedSymbols (symbolsOfAll arguments) ++ [.token .closing]
  | .datePart part => [.token (.datePart part)]
  | .cast operand type => .token .cast :: operand.symbols ++ [.token (.convert type)]

/-- The symbols of each of the arguments of a call. -/
def symbolsOfAll : List Term → List (List Symbol)
  | [] => []
  | argument :: rest => argument.symbols :: symbolsOfAll rest

end

@[simp]
lemma symbolsOfAll_eq_map (arguments : List Term) :
    symbolsOfAll arguments = arguments.map symbols := by
  induction arguments with
  | nil => rfl
  | cons argument rest ih => rw [symbolsOfAll, ih, List.map_cons]

/-- What is asked of each node of a term that is to be read back from its symbols: that columns are
names in brackets, that there are no numbers but zero, that only `NULL` is tested for, and that no
negation is matched. -/
def IsReadable : Term → Prop
  | .column name => IsBracketed name
  | .int value => value = 0
  | .binary _ operator right => operator.testsNull = true → right = .null
  | .like operand _ _ => ∀ inner, operand ≠ .not inner
  | _ => True

end Term

/-- The pattern of a match is spelled by its symbols, if the value is. -/
lemma isSpelled_pattern {value : List Symbol} {fragment : Fragment} (h : IsSpelled value fragment)
    (pattern : LikePattern) :
    IsSpelled (pattern.symbols value) (.text " LIKE " :: pattern.fragment fragment) := by
  have hbefore : IsSpelled [.token .like, .token .wildcardBefore]
      [.text " LIKE ", .text "('%' + "] :=
    .ofTexts [" LIKE ", "('%' + "] [.like, .wildcardBefore] (by decide)
  have hstart : IsSpelled [.token .like] [.text " LIKE ", .text "("] :=
    .ofTexts [" LIKE ", "("] [.like] (by decide)
  have hbehind : IsSpelled [.token (.operation .add), .token .wildcardAfter] [.text " + '%')"] :=
    .ofTexts [" + '%')"] [.operation .add, .wildcardAfter] (by decide)
  cases pattern with
  | contains => exact (hbefore.append h).append hbehind
  | startsWith => exact (hstart.append h).append hbehind
  | endsWith => exact (hbefore.append h).append (.ofToken .closing)

lemma isSpelled_separated {terms : List Term}
    (h : ∀ term ∈ terms, IsSpelled term.symbols term.fragment) :
    IsSpelled (separatedSymbols (terms.map Term.symbols))
      (Fragment.separated (terms.map Term.fragment)) := by
  induction terms with
  | nil => exact ⟨rfl, fun _ => rfl⟩
  | cons term rest ih =>
    obtain ⟨hterm, hrest⟩ := List.forall_mem_cons.1 h
    cases rest with
    | nil => simpa [separatedSymbols, Fragment.separated] using hterm
    | cons next rest =>
      have hcomma : IsSpelled [.token .comma] [.text ", "] := .ofToken .comma
      have hboth := hterm.append (hcomma.append (ih hrest))
      simpa [separatedSymbols, Fragment.separated, List.intercalate_cons_cons] using hboth

/-- The symbols of a readable term have its text and its values. By induction on the term. -/
lemma isSpelled_term {term : Term} (h : term.Everywhere Term.IsReadable) :
    IsSpelled term.symbols term.fragment := by
  have hopening : IsSpelled [.token .opening] [.text "("] := .ofToken .opening
  have hclosing : IsSpelled [.token .closing] [.text ")"] := .ofToken .closing
  induction term with
  | column name => exact ⟨rfl, fun _ => rfl⟩
  | null => exact .ofToken .null
  | int value =>
    obtain rfl : value = 0 := Term.everywhere_int.1 h
    exact .ofToken .zero
  | parameter value => exact ⟨rfl, fun _ => rfl⟩
  | datePart part => exact .ofToken (.datePart part)
  | binary left operator right ihleft ihright =>
    obtain ⟨hnull, hleft, hright⟩ := Term.everywhere_binary.1 h
    have hoperation : IsSpelled
        (.token (.operation operator) :: (if operator.testsNull then [] else right.symbols))
        (.text operator.text :: right.fragment) := by
      cases htests : operator.testsNull with
      | true =>
        obtain rfl : right = .null := hnull htests
        have htext : (Token.operation operator).text = operator.text ++ "NULL" := by
          rw [Token.text, if_pos htests]
        exact .ofTexts [operator.text, "NULL"] [.operation operator] (by simp [htext])
      | false =>
        have htext : (Token.operation operator).text = operator.text := by
          rw [Token.text, htests, if_neg Bool.false_ne_true, String.append_empty]
        have hsign := IsSpelled.ofToken (.operation operator)
        rw [htext] at hsign
        exact hsign.append (ihright hright)
    exact ((hopening.append (ihleft hleft)).append hoperation).append hclosing
  | not operand ih =>
    exact (IsSpelled.ofToken .not).append (ih (Term.everywhere_not.1 h).2)
  | like operand pattern value ihoperand ihvalue =>
    obtain ⟨-, hoperand, hvalue⟩ := Term.everywhere_like.1 h
    exact (ihoperand hoperand).append (isSpelled_pattern (ihvalue hvalue) pattern)
  | nested inner ih =>
    exact (hopening.append (ih (Term.everywhere_nested.1 h).2)).append hclosing
  | call function arguments ih =>
    have harguments := isSpelled_separated fun argument hmem =>
      ih argument hmem ((Term.everywhere_call.1 h).2 argument hmem)
    have hname : IsSpelled [.token (.call function)] [.text function.text, .text "("] :=
      .ofTexts [function.text, "("] [.call function] (by simp [Token.text])
    rw [Term.symbols, Term.symbolsOfAll_eq_map, Term.fragment, Term.fragments_eq_map]
    exact (hname.append harguments).append hclosing
  | cast operand type ih =>
    have htype : IsSpelled [.token (.convert type)] [.text " AS ", .text type.text, .text ")"] :=
      .ofTexts [" AS ", type.text, ")"] [.convert type] (by simp [Token.text])
    exact ((IsSpelled.ofToken .cast).append (ih (Term.everywhere_cast.1 h).2)).append htype

/-- What holds of the comma and of the symbols of all arguments holds of those of a call. -/
lemma forall_mem_separatedSymbols {P : Symbol → Prop} (hcomma : P (.token .comma))
    {arguments : List (List Symbol)} (h : ∀ argument ∈ arguments, ∀ symbol ∈ argument, P symbol) :
    ∀ symbol ∈ separatedSymbols arguments, P symbol := by
  induction arguments with
  | nil => exact fun _ hmem => nomatch hmem
  | cons argument rest ih =>
    obtain ⟨hargument, hrest⟩ := List.forall_mem_cons.1 h
    cases rest with
    | nil => simpa [separatedSymbols] using hargument
    | cons next rest =>
      rw [separatedSymbols, List.intercalate_cons_cons, List.forall_mem_append,
        List.forall_mem_append, List.forall_mem_singleton]
      exact ⟨⟨hargument, hcomma⟩, ih hrest⟩

/-- The columns of a readable term are plain symbols, and tokens and values are anyway. -/
lemma isPlain_symbols {term : Term} (h : term.Everywhere Term.IsReadable) :
    ∀ symbol ∈ term.symbols, symbol.IsPlain := by
  have htoken (token : Token) : (Symbol.token token).IsPlain := trivial
  induction term with
  | column name => exact List.forall_mem_singleton.2 (Term.everywhere_column.1 h)
  | null | int | parameter | datePart => exact List.forall_mem_singleton.2 trivial
  | binary left operator right ihleft ihright =>
    obtain ⟨-, hleft, hright⟩ := Term.everywhere_binary.1 h
    have hleft := ihleft hleft
    have hright : ∀ symbol ∈ if operator.testsNull then [] else right.symbols, symbol.IsPlain := by
      split
      · exact fun _ hmem => nomatch hmem
      · exact ihright hright
    rw [Term.symbols, List.forall_mem_append, List.forall_mem_append, List.forall_mem_cons,
      List.forall_mem_cons, List.forall_mem_singleton]
    exact ⟨⟨⟨htoken _, hleft⟩, htoken _, hright⟩, htoken _⟩
  | not operand ih =>
    exact List.forall_mem_cons.2 ⟨htoken _, ih (Term.everywhere_not.1 h).2⟩
  | like operand pattern value ihoperand ihvalue =>
    obtain ⟨-, hoperand, hvalue⟩ := Term.everywhere_like.1 h
    have hvalue := ihvalue hvalue
    refine List.forall_mem_append.2 ⟨ihoperand hoperand, ?_⟩
    cases pattern <;> simpa [LikePattern.symbols, htoken, or_imp, forall_and] using hvalue
  | nested inner ih =>
    simpa [Term.symbols, htoken, or_imp, forall_and] using ih (Term.everywhere_nested.1 h).2
  | call function arguments ih =>
    have harguments : ∀ argument ∈ arguments.map Term.symbols, ∀ symbol ∈ argument,
        symbol.IsPlain := by
      intro symbols hmem
      obtain ⟨argument, hargument, rfl⟩ := List.mem_map.1 hmem
      exact ih argument hargument ((Term.everywhere_call.1 h).2 argument hargument)
    simpa [Term.symbols, htoken, or_imp, forall_and] using
      forall_mem_separatedSymbols (htoken _) harguments
  | cast operand type ih =>
    simpa [Term.symbols, htoken, or_imp, forall_and] using ih (Term.everywhere_cast.1 h).2

/-- Readable terms with the same text and the same values have the same symbols. -/
lemma symbols_eq_of_alone_eq {first second : Term} (hfirst : first.Everywhere Term.IsReadable)
    (hsecond : second.Everywhere Term.IsReadable) {arguments : List Datum}
    (h : first.fragment.alone arguments = second.fragment.alone arguments) :
    first.symbols = second.symbols := by
  have hspelled := isSpelled_term hfirst
  have hspelled' := isSpelled_term hsecond
  have htext : first.fragment.textFrom arguments.length =
      second.fragment.textFrom arguments.length := by
    rw [← Fragment.toList_text_alone, ← Fragment.toList_text_alone, h]
  have hvalues : first.fragment.values = second.fragment.values := by
    have harguments := congrArg Statement.arguments h
    rw [Fragment.alone, Fragment.alone, Statement.arguments_append,
      Statement.arguments_append] at harguments
    exact List.append_cancel_left harguments
  rw [hspelled.text, hspelled'.text] at htext
  rw [hspelled.values, hspelled'.values] at hvalues
  exact eq_of_fragmentOf (isPlain_symbols hfirst) (isPlain_symbols hsecond) htext hvalues

end ODataToSql.Sql
