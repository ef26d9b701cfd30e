import ODataToSql.Text.Decimal
import Mathlib.Data.List.Basic
import Mathlib.Tactic.Lemma

/-!
# Identifiers in brackets

A server reads a bracketed identifier from `[` to the first `]` that no other one follows, and takes
two of them for one. Brackets in string literals are characters as any other.

* `lex` reads a text into identifiers and the characters around them.
* `lex_append`: a text is read behind another one as it is read by itself, from where the reading of
  the other one ends.
* `spelled_lex`: nothing is lost, the text can be had back from what was read.
* A text is `Bare` if it leaves reading where it was and has no identifier in it.
-/

namespace ODataToSql.Sql

/-- A part of a text as it is read. -/
inductive Lexeme where
  /-- A name in brackets. -/
  | identifier (name : String)
  /-- A character outside of such names. -/
  | other (c : Char)
deriving DecidableEq, Repr

/-- Where in a text the reading of it has come to. -/
inductive Reading where
  | outside
  /-- In a string literal. -/
  | literal
  /-- In a name in brackets, which has started like this. -/
  | name (start : List Char)
deriving DecidableEq, Repr

/-! ## Reading -/

/-- The parts of a text, and where reading ends. -/
def lex : Reading → List Char → List Lexeme × Reading
  | reading, [] => ([], reading)
  | .outside, c :: rest =>
    if c = '[' then lex (.name []) rest
    else Prod.map (.other c :: ·) id (lex (if c = '\x27' then .literal else .outside) rest)
  | .literal, c :: rest =>
    Prod.map (.other c :: ·) id (lex (if c = '\x27' then .outside else .literal) rest)
  | .name start, ']' :: ']' :: rest => lex (.name (start ++ [']'])) rest
  | .name start, ']' :: rest =>
    Prod.map (.identifier (String.ofList start) :: ·) id (lex .outside rest)
  | .name start, c :: rest => lex (.name (start ++ [c])) rest

/-- A name goes on with every character but a bracket. -/
lemma lex_name_cons (start : List Char) {c : Char} (hc : c ≠ ']') (rest : List Char) :
    lex (.name start) (c :: rest) = lex (.name (start ++ [c])) rest := by
  rw [lex]
  · rintro - rfl
    exact absurd rfl hc
  · exact hc

/-- It ends at a bracket that no other one follows. -/
lemma lex_name_close (start : List Char) {rest : List Char} (hrest : rest.head? ≠ some ']') :
    lex (.name start) (']' :: rest) =
      Prod.map (.identifier (String.ofList start) :: ·) id (lex .outside rest) := by
  generalize houtside : lex .outside rest = result
  rw [lex, houtside]
  rintro rest' rfl
  exact hrest rfl

/-- The reading of a text goes on from where the reading of the text in front of it ended. -/
lemma lex_append (reading : Reading) (first : List Char) {second : List Char}
    (hsecond : second.head? ≠ some ']') :
    lex reading (first ++ second) =
      ((lex reading first).1 ++ (lex (lex reading first).2 second).1,
        (lex (lex reading first).2 second).2) := by
  fun_induction lex reading first with
  | case1 reading => rfl
  | case2 rest ih => exact ih
  | case3 c rest hc ih =>
    rw [List.cons_append, lex, if_neg hc, ih]
    rfl
  | case4 c rest ih =>
    rw [List.cons_append, lex, ih]
    rfl
  | case5 start rest ih =>
    rw [List.cons_append, List.cons_append, lex, ih]
  | case6 start rest hrest ih =>
    have hstop : (rest ++ second).head? ≠ some ']' := by
      cases rest with
      | nil => exact hsecond
      | cons c rest =>
        rintro heq
        exact hrest rest (congrArg (· :: rest) (Option.some.inj heq))
    rw [List.cons_append, lex_name_close start hstop, ih]
    rfl
  | case7 start c rest hrest hc ih =>
    rw [List.cons_append, lex_name_cons start hc, ih]

/-! ## Spelling -/

/-- A name as it is spelled inside brackets, each closing bracket twice. -/
def doubled (name : List Char) : List Char :=
  name.flatMap fun c => if c = ']' then [']', ']'] else [c]

lemma doubled_append (first second : List Char) :
    doubled (first ++ second) = doubled first ++ doubled second :=
  List.flatMap_append

/-- The spelling of a name is longer by the brackets in it. -/
lemma length_doubled (name : List Char) :
    (doubled name).length = name.length + name.count ']' := by
  induction name with
  | nil => rfl
  | cons c rest ih =>
    have hcons : doubled (c :: rest) = (if c = ']' then [']', ']'] else [c]) ++ doubled rest :=
      List.flatMap_cons
    rw [hcons, List.length_append, ih, List.length_cons, List.count_cons]
    by_cases hc : c = ']'
    · simp only [hc, if_true, beq_self_eq_true, List.length_cons, List.length_nil]
      omega
    · simp only [hc, if_false, beq_iff_eq, List.length_cons, List.length_nil]
      omega

/-- The text that a lexeme is read from. -/
def Lexeme.spelled : Lexeme → List Char
  | .identifier name => '[' :: (doubled name.toList ++ [']'])
  | .other c => [c]

/-- The text that has been read of a name that is not at its end yet. -/
def Reading.pending : Reading → List Char
  | .outside | .literal => []
  | .name start => '[' :: doubled start

@[simp]
lemma Reading.pending_name (start : List Char) : (name start).pending = '[' :: doubled start := rfl

/-- Nothing is lost: what was read spells the text, together with what is pending. -/
theorem spelled_lex (reading : Reading) (text : List Char) :
    (lex reading text).1.flatMap Lexeme.spelled ++ (lex reading text).2.pending =
      reading.pending ++ text := by
  fun_induction lex reading text with
  | case1 reading => simp
  | case2 rest ih => exact ih
  | case3 c rest hc ih =>
    -- in a literal nothing is pending, as outside of one
    have hpending : (if c = '\x27' then Reading.literal else .outside).pending = [] := by
      split <;> rfl
    rw [hpending] at ih
    exact congrArg (c :: ·) ih
  | case4 c rest ih =>
    have hpending : (if c = '\x27' then Reading.outside else .literal).pending = [] := by
      split <;> rfl
    rw [hpending] at ih
    exact congrArg (c :: ·) ih
  | case5 start rest ih =>
    rw [ih]
    simp [doubled]
  | case6 start rest hrest ih =>
    have hspelled : (lex .outside rest).1.flatMap Lexeme.spelled ++
        (lex .outside rest).2.pending = rest := ih
    simp [Lexeme.spelled, hspelled]
  | case7 start c rest hrest hc ih =>
    have hc : c ≠ ']' := hc
    rw [ih]
    simp [doubled, hc]

/-! ## Names and bare texts -/

/-- A name without a bracket is read as it is. -/
lemma lex_name_append (start : List Char) {name rest : List Char} (hname : ']' ∉ name)
    (hrest : rest.head? ≠ some ']') :
    lex (.name start) (name ++ ']' :: rest) =
      Prod.map (.identifier (String.ofList (start ++ name)) :: ·) id (lex .outside rest) := by
  induction name generalizing start with
  | nil =>
    rw [List.nil_append, List.append_nil]
    exact lex_name_close start hrest
  | cons c name ih =>
    obtain ⟨hc, hname⟩ := not_or.1 (mt List.mem_cons.2 hname)
    rw [List.cons_append, lex_name_cons start (Ne.symm hc), ih _ hname, List.append_assoc]
    rfl

/-- The text has no identifier in it, and whatever comes behind is read as it is by itself. -/
def Bare (text : String) : Prop :=
  ']' ∉ text.toList ∧ lex .outside text.toList = (text.toList.map .other, .outside)

instance (text : String) : Decidable (Bare text) := inferInstanceAs (Decidable (_ ∧ _))

/-- Texts without brackets and quotes are bare. -/
lemma bare_of_not_mem {text : String} (hopen : '[' ∉ text.toList) (hclose : ']' ∉ text.toList)
    (hquote : '\x27' ∉ text.toList) : Bare text := by
  refine ⟨hclose, ?_⟩
  generalize text.toList = text at hopen hquote
  induction text with
  | nil => rfl
  | cons c rest ih =>
    obtain ⟨hopen, hopenRest⟩ := not_or.1 (mt List.mem_cons.2 hopen)
    obtain ⟨hquote, hquoteRest⟩ := not_or.1 (mt List.mem_cons.2 hquote)
    rw [lex, if_neg (Ne.symm hopen), if_neg (Ne.symm hquote), ih hopenRest hquoteRest]
    rfl

lemma Bare.lex_append {text : String} (h : Bare text) {rest : List Char}
    (hrest : rest.head? ≠ some ']') :
    lex .outside (text.toList ++ rest) =
      Prod.map (text.toList.map .other ++ ·) id (lex .outside rest) := by
  rw [Sql.lex_append .outside _ hrest, h.2]
  rfl

lemma Bare.append {first second : String} (hfirst : Bare first) (hsecond : Bare second) :
    Bare (first ++ second) := by
  have hhead : second.toList.head? ≠ some ']' := by
    intro hhead
    exact hsecond.1 (List.mem_of_mem_head? hhead)
  unfold Bare
  rw [String.toList_append, hfirst.lex_append hhead, hsecond.2, List.map_append]
  exact ⟨by simp [hfirst.1, hsecond.1], rfl⟩

/-- The digits of a number are neither brackets nor quotes. -/
lemma bare_decimal (n : Nat) : Bare (Text.decimal n) :=
  bare_of_not_mem (Text.not_mem_decimal rfl n) (Text.not_mem_decimal rfl n)
    (Text.not_mem_decimal rfl n)

end ODataToSql.Sql
