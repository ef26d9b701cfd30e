import ODataToSql.Proofs.Columns
import ODataToSql.Proofs.Identifiers
import ODataToSql.Proofs.Placeholders
import ODataToSql.Proofs.Renaming

/-!
# Texts and their templates

The text of a command is a template with the columns put in: bare texts, placeholders, and a place
for each column. Read as identifiers and the characters around them, it differs from the template in
the names alone, as long as no name gets out of its brackets.

* `Confines` says so of a text and its template.
* `Fills` relates a fragment to its template, and `fills_term` and the lemmas behind it say what the
  columns of each clause are.
* The main result is `Fills.confines_iff`: a text confines its names if and only if there is no
  closing bracket in them.
-/

namespace ODataToSql.Sql

/-! ## Texts that hold names -/

/-- The name, if the lexeme is one. -/
def Lexeme.name? : Lexeme → Option String
  | .identifier name => some name
  | .other _ => none

/-- The lexeme without its name, if it is one. -/
def Lexeme.blank : Lexeme → Lexeme
  | .identifier _ => .identifier ""
  | .other c => .other c

/-- Read by itself, the text has the names as its identifiers, in this order. For the rest it is the
template, which has identifiers without a name in their places. -/
def Confines (names : List String) (template text : List Char) : Prop :=
  ∃ lexemes, lex .outside text = (lexemes, .outside) ∧ lexemes.filterMap Lexeme.name? = names ∧
    lex .outside template = (lexemes.map Lexeme.blank, .outside)

/-- The column of a name. -/
def quoted (name : String) : Column := ⟨"[" ++ name ++ "]"⟩

/-- The column without a name. -/
def nameless : Column := quoted ""

/-- The fragment is the template with the columns in the places of those without a name. -/
inductive Fills : List Column → Fragment → Fragment → Prop where
  | nil : Fills [] [] []
  | text {columns : List Column} {template fragment : Fragment} {text : String} (htext : Bare text)
    (hrest : Fills columns template fragment) :
    Fills columns (.text text :: template) (.text text :: fragment)
  | argument {columns : List Column} {template fragment : Fragment} (value : Datum)
    (hrest : Fills columns template fragment) :
    Fills columns (.argument value :: template) (.argument value :: fragment)
  | column {columns : List Column} {template fragment : Fragment} (name : Column)
    (hrest : Fills columns template fragment) :
    Fills (name :: columns) (.text nameless.text :: template) (.text name.text :: fragment)

namespace Fills

variable {columns others : List Column} {template fragment : Fragment}

lemma append {template' fragment' : Fragment} (h : Fills columns template fragment)
    (hrest : Fills others template' fragment') :
    Fills (columns ++ others) (template ++ template') (fragment ++ fragment') := by
  induction h with
  | nil => exact hrest
  | text htext hfills ih => exact .text htext ih
  | argument value hfills ih => exact .argument value ih
  | column name hfills ih => exact .column name ih

/-- A fragment after which a bare text stands. -/
lemma append_text {text : String} (h : Fills columns template fragment) (htext : Bare text) :
    Fills columns (template ++ [.text text]) (fragment ++ [.text text]) := by
  simpa using h.append (.text htext .nil)

/-- Commas stand at the same places. -/
lemma separated {α : Type} {named : α → List Column} {templateOf fragmentOf : α → Fragment}
    {items : List α} (h : ∀ item ∈ items, Fills (named item) (templateOf item) (fragmentOf item)) :
    Fills (items.flatMap named) (.separated (items.map templateOf))
      (.separated (items.map fragmentOf)) := by
  induction items with
  | nil => exact .nil
  | cons item rest ih =>
    obtain ⟨hitem, hrest⟩ := List.forall_mem_cons.1 h
    cases rest with
    | nil => simpa [Fragment.separated] using hitem
    | cons second rest => exact hitem.append (.text (by decide) (ih hrest))

/-- What is left out has no columns. -/
lemma spaced {leftOut : Bool} (h : Fills columns template fragment)
    (hempty : leftOut = true → columns = []) :
    Fills columns (.spaced leftOut template) (.spaced leftOut fragment) := by
  cases leftOut with
  | true =>
    rw [hempty rfl]
    exact .nil
  | false => exact .text (by decide) h

end Fills

/-! ## Names that are put in -/

section Confines

variable {names : List String} {template text : List Char}

/-- In front of a text that confines names there may be bare text. -/
lemma Confines.bare_append {front : String} (hfront : Bare front)
    (htemplate : template.head? ≠ some ']') (htext : text.head? ≠ some ']')
    (h : Confines names template text) :
    Confines names (front.toList ++ template) (front.toList ++ text) := by
  obtain ⟨lexemes, hread, hnames, hblank⟩ := h
  have hother : (front.toList.map Lexeme.other).filterMap Lexeme.name? = [] := by
    simp [List.filterMap_map, Lexeme.name?]
  have hblanked : (front.toList.map Lexeme.other).map Lexeme.blank = front.toList.map .other := by
    simp [Lexeme.blank]
  refine ⟨front.toList.map .other ++ lexemes, ?_, ?_, ?_⟩
  · rw [hfront.lex_append htext, hread]
    rfl
  · rw [List.filterMap_append, hother, hnames, List.nil_append]
  · rw [hfront.lex_append htemplate, hblank, List.map_append, hblanked]
    rfl

/-- A name without a closing bracket is one identifier in its quotes. -/
lemma lex_quoted {name : String} (hname : ']' ∉ name.toList) (htext : text.head? ≠ some ']') :
    lex .outside ((quoted name).text.toList ++ text) =
      Prod.map (.identifier name :: ·) id (lex .outside text) := by
  have htoList : (quoted name).text.toList ++ text = '[' :: (name.toList ++ ']' :: text) := by
    simp [quoted]
  rw [htoList, lex, if_pos rfl, lex_name_append [] hname htext, List.nil_append,
    String.ofList_toList]

/-- So such a name may stand in front, too. -/
lemma Confines.quoted_append {name : String} (hname : ']' ∉ name.toList)
    (htemplate : template.head? ≠ some ']') (htext : text.head? ≠ some ']')
    (h : Confines names template text) :
    Confines (name :: names) (nameless.text.toList ++ template)
      ((quoted name).text.toList ++ text) := by
  obtain ⟨lexemes, hread, hnames, hblank⟩ := h
  refine ⟨.identifier name :: lexemes, ?_, ?_, ?_⟩
  · rw [lex_quoted hname htext, hread]
    rfl
  · exact congrArg (name :: ·) hnames
  · rw [nameless, lex_quoted (by decide) htemplate, hblank]
    rfl

/-- What was read up to the end of a text spells the text. -/
lemma spelled_of_lex {lexemes : List Lexeme} (h : lex .outside text = (lexemes, .outside)) :
    lexemes.flatMap Lexeme.spelled = text := by
  have hspelled := spelled_lex .outside text
  rw [h] at hspelled
  simpa [Reading.pending] using hspelled

/-- The names are missing in the text that is spelled without them, and nothing else is. -/
lemma length_spelled (lexemes : List Lexeme) :
    (lexemes.flatMap Lexeme.spelled).length =
      ((lexemes.map Lexeme.blank).flatMap Lexeme.spelled).length +
        (doubled ((lexemes.filterMap Lexeme.name?).flatMap String.toList)).length := by
  induction lexemes with
  | nil => rfl
  | cons lexeme rest ih =>
    rw [List.map_cons, List.flatMap_cons, List.flatMap_cons, List.length_append,
      List.length_append, ih]
    cases lexeme with
    | identifier name =>
      have hblank : (Lexeme.blank (.identifier name)).spelled.length = 2 := rfl
      have hspelled : (Lexeme.spelled (.identifier name)).length =
          (doubled name.toList).length + 2 := by
        simp [Lexeme.spelled]
      have hname : (Lexeme.identifier name :: rest).filterMap Lexeme.name? =
          name :: rest.filterMap Lexeme.name? := rfl
      rw [hname, List.flatMap_cons, doubled_append, List.length_append, hblank, hspelled]
      omega
    | other c =>
      have hname : (Lexeme.other c :: rest).filterMap Lexeme.name? =
          rest.filterMap Lexeme.name? := rfl
      have hblank : (Lexeme.blank (.other c)).spelled.length = 1 := rfl
      have hspelled : (Lexeme.spelled (.other c)).length = 1 := rfl
      rw [hname, hblank, hspelled]
      omega

end Confines

namespace Fills

variable {columns : List Column} {names : List String} {template fragment : Fragment}

/-- The text does not start with a closing bracket. -/
lemma head?_ne (h : Fills columns template fragment)
    (hcolumns : ∀ name ∈ columns, name.text.toList.head? = some '[') (position : ℕ) :
    (fragment.textFrom position).head? ≠ some ']' := by
  induction h generalizing position with
  | nil => exact nofun
  | @text columns template fragment text htext hrest ih =>
    rw [Fragment.textFrom, List.head?_append]
    cases hhead : text.toList.head? with
    | none => exact ih hcolumns position
    | some c =>
      rintro heq
      obtain rfl : c = ']' := Option.some.inj heq
      exact htext.1 (List.mem_of_mem_head? hhead)
  | argument value hrest ih =>
    have hsigil : (Statement.placeholder position).toList.head? = some '@' := by
      simp [Statement.placeholder, Statement.placeholderSigil]
    rw [Fragment.textFrom, List.head?_append, hsigil, Option.some_or]
    decide
  | column name hrest ih =>
    rw [Fragment.textFrom, List.head?_append, hcolumns name List.mem_cons_self, Option.some_or]
    decide

lemma head?_quoted (name : String) : (quoted name).text.toList.head? = some '[' := by
  simp [quoted]

/-- The template is filled by the columns without a name. -/
lemma template_self (h : Fills columns template fragment) :
    Fills (columns.map fun _ => nameless) template template := by
  induction h with
  | nil => exact .nil
  | text htext hrest ih => exact .text htext ih
  | argument value hrest ih => exact .argument value ih
  | column name hrest ih => exact .column nameless ih

/-- Neither the text nor the template starts with a closing bracket. -/
lemma heads_ne (h : Fills (names.map quoted) template fragment) (position : ℕ) :
    (template.textFrom position).head? ≠ some ']' ∧
      (fragment.textFrom position).head? ≠ some ']' := by
  constructor
  · apply h.template_self.head?_ne
    intro name hmem
    obtain ⟨column, -, rfl⟩ := List.mem_map.1 hmem
    exact head?_quoted ""
  · apply h.head?_ne
    intro name hmem
    obtain ⟨name, -, rfl⟩ := List.mem_map.1 hmem
    exact head?_quoted name

/-- The text is longer than the template by the names. -/
lemma length_textFrom (h : Fills (names.map quoted) template fragment) (position : ℕ) :
    (fragment.textFrom position).length =
      (template.textFrom position).length + (names.flatMap String.toList).length := by
  generalize hcolumns : names.map quoted = columns at h
  induction h generalizing names position with
  | nil =>
    obtain rfl : names = [] := List.map_eq_nil_iff.1 hcolumns
    rfl
  | text htext hrest ih =>
    have hlength := ih position hcolumns
    rw [Fragment.textFrom, Fragment.textFrom, List.length_append, List.length_append, hlength]
    omega
  | argument value hrest ih =>
    have hlength := ih (position + 1) hcolumns
    rw [Fragment.textFrom, Fragment.textFrom, List.length_append, List.length_append, hlength]
    omega
  | column name hrest ih =>
    obtain ⟨first, rest, rfl, rfl, hrest⟩ := List.map_eq_cons_iff.1 hcolumns
    have hlength := ih position hrest
    have hfirst : (quoted first).text.toList.length =
        nameless.text.toList.length + first.toList.length := by
      simp [quoted, nameless]
      omega
    rw [Fragment.textFrom, Fragment.textFrom, List.length_append, List.length_append, hlength,
      hfirst, List.flatMap_cons, List.length_append]
    omega

/-- Names without a closing bracket are confined to their quotes. By induction on how the names are
put in. -/
lemma confines (h : Fills (names.map quoted) template fragment)
    (hnames : ∀ name ∈ names, ']' ∉ name.toList) (position : ℕ) :
    Confines names (template.textFrom position) (fragment.textFrom position) := by
  generalize hcolumns : names.map quoted = columns at h
  induction h generalizing names position with
  | nil =>
    obtain rfl : names = [] := List.map_eq_nil_iff.1 hcolumns
    exact ⟨[], rfl, rfl, rfl⟩
  | text htext hrest ih =>
    subst hcolumns
    obtain ⟨htemplate, hfragment⟩ := hrest.heads_ne position
    exact .bare_append htext htemplate hfragment (ih hnames position rfl)
  | argument value hrest ih =>
    subst hcolumns
    have hplaceholder : Bare (Statement.placeholder position) :=
      .append (by decide) (bare_decimal position)
    obtain ⟨htemplate, hfragment⟩ := hrest.heads_ne (position + 1)
    exact .bare_append hplaceholder htemplate hfragment (ih hnames (position + 1) rfl)
  | column name hrest ih =>
    obtain ⟨first, rest, rfl, rfl, rfl⟩ := List.map_eq_cons_iff.1 hcolumns
    obtain ⟨hfirst, hnames⟩ := List.forall_mem_cons.1 hnames
    obtain ⟨htemplate, hfragment⟩ := hrest.heads_ne position
    exact .quoted_append hfirst htemplate hfragment (ih hnames position rfl)

/-- And only such names are: a bracket that is not doubled makes the text too short. -/
theorem confines_iff (h : Fills (names.map quoted) template fragment) (position : ℕ) :
    Confines names (template.textFrom position) (fragment.textFrom position) ↔
      ∀ name ∈ names, ']' ∉ name.toList := by
  constructor
  · rintro ⟨lexemes, hread, rfl, hblank⟩ name hname hbracket
    -- the text is as long as what was read from it is spelled
    have hspelled := length_spelled lexemes
    rw [spelled_of_lex hread, spelled_of_lex hblank, h.length_textFrom position,
      length_doubled] at hspelled
    have hcount : ((lexemes.filterMap Lexeme.name?).flatMap String.toList).count ']' = 0 := by
      omega
    exact List.count_eq_zero.1 hcount (List.mem_flatMap.2 ⟨name, hname, hbracket⟩)
  · intro hnames
    exact h.confines hnames position

end Fills

/-! ## Terms and clauses -/

lemma bare_operator (operator : Operator) : Bare operator.text := by
  cases operator <;> decide

lemma bare_function (function : ScalarFunction) : Bare function.text := by
  cases function <;> decide

lemma bare_intText (value : Int) : Bare (Term.intText value) := by
  have hsign : Bare (if value < 0 then "-" else "") := by split <;> decide
  exact hsign.append (bare_decimal _)

/-- The text of a term is that of the term without names, with its columns put in. By induction on
the term. -/
lemma fills_term (term : Term) :
    Fills term.columns (term.mapColumns fun _ => nameless).fragment term.fragment := by
  induction term with
  | column name => exact .column name .nil
  | null => exact .text (by decide) .nil
  | int value => exact .text (bare_intText value) .nil
  | parameter value => exact .argument value .nil
  | binary left operator right hleft hright =>
    rw [Term.columns, Term.mapColumns, Term.fragment, Term.fragment]
    have hoperands := hleft.append (.text (bare_operator operator) hright)
    exact .append_text (.text (by decide) hoperands) (by decide)
  | not operand ih => exact .text (by decide) ih
  | like operand pattern value hoperand hvalue =>
    rw [Term.columns, Term.mapColumns, Term.fragment, Term.fragment]
    have hpattern : Fills value.columns
        (pattern.fragment (value.mapColumns fun _ => nameless).fragment)
        (pattern.fragment value.fragment) := by
      cases pattern with
      | contains | startsWith | endsWith => exact .append_text (.text (by decide) hvalue) (by decide)
    exact hoperand.append (.text (by decide) hpattern)
  | nested inner ih => exact .append_text (.text (by decide) ih) (by decide)
  | call function arguments ih =>
    rw [Term.columns, Term.mapColumns, Term.fragment, Term.fragment, Term.columnsOfAll_eq_flatMap,
      Term.mapColumnsOfAll_eq_map, Term.fragments_eq_map, Term.fragments_eq_map, List.map_map]
    exact .append_text (.text (bare_function function) (.text (by decide) (.separated ih)))
      (by decide)
  | datePart part =>
    have hname : Bare part.text := by cases part <;> decide
    exact .text hname .nil
  | cast operand type ih =>
    have hname : Bare type.text := by cases type <;> decide
    rw [Term.columns, Term.mapColumns, Term.fragment, Term.fragment]
    have htype : Fills [] [.text " AS ", .text type.text, .text ")"]
        [.text " AS ", .text type.text, .text ")"] :=
      .text (by decide) (.text hname (.text (by decide) .nil))
    simpa using Fills.text (by decide) (ih.append htype)

/-- A clause that may be left out has the columns of its text. -/
lemma fills_condition (condition : Condition) :
    Fills condition.columns
      (.spaced (condition.mapColumns fun _ => nameless).isEmpty
        (condition.mapColumns fun _ => nameless).fragment)
      (.spaced condition.isEmpty condition.fragment) := by
  obtain ⟨keyword, predicate⟩ := condition
  have hkeyword : Bare keyword.text := by cases keyword <;> decide
  cases predicate with
  | none => exact .nil
  | some predicate => exact .text (by decide) (.text hkeyword (fills_term predicate))

lemma fills_orderBy (keys : List SortKey) :
    Fills (keys.map SortKey.column)
      (.spaced (keys.map (SortKey.mapColumns fun _ => nameless)).isEmpty
        (orderByFragment (keys.map (SortKey.mapColumns fun _ => nameless))))
      (.spaced keys.isEmpty (orderByFragment keys)) := by
  have hkey : ∀ key ∈ keys, Fills [key.column]
      (SortKey.mapColumns (fun _ => nameless) key).fragment key.fragment := by
    intro key _
    have hdirection : Bare key.direction.text := by cases key.direction <;> decide
    exact .column key.column (.text hdirection .nil)
  have hkeys := Fills.separated hkey
  rw [← List.map_eq_flatMap] at hkeys
  cases keys with
  | nil => exact .nil
  | cons key rest =>
    simp only [orderByFragment, List.map_cons, List.map_map] at hkeys ⊢
    exact .text (by decide) (.text (by decide) hkeys)

/-- No column is part of the paging. -/
lemma fills_paging (paging : Paging) :
    Fills [] (.spaced paging.isEmpty paging.fragment) (.spaced paging.isEmpty paging.fragment) := by
  have hoffset (n : ℕ) : Bare ("OFFSET " ++ Text.decimal n ++ " ROWS") :=
    (Bare.append (by decide) (bare_decimal n)).append (by decide)
  have hfetch (n : ℕ) : Bare (" FETCH NEXT " ++ Text.decimal n ++ " ROWS ONLY") :=
    (Bare.append (by decide) (bare_decimal n)).append (by decide)
  obtain ⟨offset, fetch⟩ := paging
  cases offset with
  | none => exact .nil
  | some offset =>
    cases fetch with
    | none => exact .text (by decide) (.text (hoffset _) .nil)
    | some fetch => exact .text (by decide) (.text (hoffset _) (.text (hfetch _) .nil))

/-- Behind the source of a command there are the columns of its condition and of its ordering. -/
lemma fills_ending (select : Select) :
    Fills (select.condition.columns ++ select.orderBy.map SortKey.column)
      (select.mapColumns fun _ => nameless).ending select.ending := by
  have hclauses := ((fills_condition select.condition).append (fills_orderBy select.orderBy)).append
    (fills_paging select.paging)
  rwa [List.append_nil] at hclauses

/-- A `TOP` is bare if the base command's own is. -/
lemma fills_top {top : Top} (htop : ∀ text, top = .verbatim text → Bare text) :
    Fills [] (.spaced top.isEmpty top.fragment) (.spaced top.isEmpty top.fragment) := by
  have hcount (n : ℕ) : Bare ("TOP(" ++ Text.decimal n ++ ")") :=
    (Bare.append (by decide) (bare_decimal n)).append (by decide)
  have hfragment : Fills [] top.fragment top.fragment := by
    cases top with
    | empty => exact .nil
    | verbatim text => exact .text (htop text rfl) .nil
    | rows count => exact .text (hcount _) .nil
  exact hfragment.spaced fun _ => rfl

/-- In front of the source there are the columns that are selected. -/
lemma fills_opening {select : Select} {columns : List Column}
    (htop : ∀ text, select.top = .verbatim text → Bare text)
    (hlist : (select.list = .star ∧ columns = []) ∨ select.list = .columns columns) :
    Fills columns (select.mapColumns fun _ => nameless).opening select.opening := by
  have hcolumns : Fills columns
      (.spaced (select.list.mapColumns fun _ => nameless).isEmpty
        (select.list.mapColumns fun _ => nameless).fragment)
      (.spaced select.list.isEmpty select.list.fragment) := by
    rcases hlist with ⟨hstar, rfl⟩ | hcolumns
    · rw [hstar]
      exact .text (by decide) (.text (by decide) .nil)
    · have hnames : Fills (columns.flatMap fun name => [name])
          (.separated (columns.map fun _ => [.text nameless.text]))
          (.separated (columns.map fun name => [.text name.text])) :=
        .separated fun name _ => .column name .nil
      rw [List.flatMap_singleton'] at hnames
      rw [hcolumns]
      cases columns with
      | nil => exact .nil
      | cons name rest =>
        simp only [SelectList.mapColumns, SelectList.fragment, List.map_map]
        exact .text (by decide) hnames
  exact .text (by decide) ((fills_top htop).append hcolumns)

end ODataToSql.Sql
