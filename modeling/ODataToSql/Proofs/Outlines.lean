import Mathlib.Data.List.Basic
import Mathlib.Tactic.Lemma

/-!
# The outline of a text

The outline of a text is what is left of it when everything that stands in parentheses is taken out
of them. Only a text whose parentheses are balanced has one.

* `Outline` relates a text to its outline, with one case for a plain character and one for a pair of
  parentheses.
* `Outline.balanced`: every parenthesis is closed, and none that was not opened.
* `Outline.enclosed_or_infix`: what stands in the text stands in parentheses or in the outline.
* `mem_of_infix_intercalate`: a word with spaces around it in a joined text is one of the words.
-/

namespace ODataToSql.Sql

/-! ## Parentheses -/

/-- Nothing is closed that has not been opened, and at the end everything is closed. -/
def Balanced (text : List Char) : Prop :=
  text.count '(' = text.count ')' ∧ ∀ front, front <+: text → front.count ')' ≤ front.count '('

/-- At the end of the text, a parenthesis is open. -/
def LeavesOpen (text : List Char) : Prop :=
  text.count ')' < text.count '('

instance (text : List Char) : Decidable (LeavesOpen text) := inferInstanceAs (Decidable (_ < _))

/-- The second text is the first one without what stands in parentheses there. -/
inductive Outline : List Char → List Char → Prop where
  | nil : Outline [] []
  | plain {c : Char} {rest outline : List Char} (hopen : c ≠ '(') (hclose : c ≠ ')')
    (hrest : Outline rest outline) : Outline (c :: rest) (c :: outline)
  | pair {inner innerOutline rest outline : List Char} (hinner : Outline inner innerOutline)
    (hrest : Outline rest outline) :
    Outline ('(' :: (inner ++ ')' :: rest)) ('(' :: ')' :: outline)

namespace Outline

variable {text outline first second firstOutline secondOutline word after : List Char}

lemma append (hfirst : Outline first firstOutline) (hsecond : Outline second secondOutline) :
    Outline (first ++ second) (firstOutline ++ secondOutline) := by
  induction hfirst with
  | nil => exact hsecond
  | plain hopen hclose hrest ih => exact .plain hopen hclose ih
  | pair hinner hrest ihinner ihrest =>
    rw [List.cons_append, List.append_assoc]
    exact .pair hinner ihrest

/-- A text without parentheses is its own outline. -/
lemma of_not_mem (hopen : '(' ∉ text) (hclose : ')' ∉ text) : Outline text text := by
  induction text with
  | nil => exact .nil
  | cons c rest ih =>
    obtain ⟨hc, hrest⟩ := not_or.1 (mt List.mem_cons.2 hopen)
    obtain ⟨hc', hrest'⟩ := not_or.1 (mt List.mem_cons.2 hclose)
    exact .plain (Ne.symm hc) (Ne.symm hc') (ih hrest hrest')

/-- A text in parentheses. -/
lemma parenthesized (h : Outline text outline) :
    Outline ('(' :: (text ++ [')'])) ['(', ')'] :=
  .pair h .nil

lemma count_eq (h : Outline text outline) : text.count '(' = text.count ')' := by
  induction h with
  | nil => rfl
  | plain hopen hclose hrest ih =>
    rw [List.count_cons_of_ne hopen, List.count_cons_of_ne hclose, ih]
  | pair hinner hrest ihinner ihrest =>
    simp only [List.count_cons, List.count_append, beq_iff_eq, Char.reduceEq, if_true, if_false]
    omega

/-- The text up to a place in the inner text of parentheses, or up to one behind them. -/
lemma append_cons_eq_append {inner rest front behind : List Char}
    (h : inner ++ ')' :: rest = front ++ behind) :
    front <+: inner ∨ ∃ front', front = inner ++ ')' :: front' ∧ rest = front' ++ behind := by
  rcases List.append_eq_append_iff.1 h with ⟨between, hfront, hrest⟩ | ⟨between, hinner, -⟩
  · cases between with
    | nil => exact .inl ⟨[], by simp [hfront]⟩
    | cons c between =>
      obtain ⟨rfl, hbehind⟩ := List.cons.inj hrest
      exact .inr ⟨between, hfront, hbehind⟩
  · exact .inl ⟨between, hinner.symm⟩

lemma count_le_of_prefix (h : Outline text outline) {front : List Char} (hfront : front <+: text) :
    front.count ')' ≤ front.count '(' := by
  induction h generalizing front with
  | nil =>
    obtain rfl := List.prefix_nil.1 hfront
    exact Nat.le_refl _
  | plain hopen hclose hrest ih =>
    cases front with
    | nil => exact Nat.le_refl _
    | cons c front =>
      obtain ⟨rfl, htail⟩ := List.cons_prefix_cons.1 hfront
      rw [List.count_cons_of_ne hopen, List.count_cons_of_ne hclose]
      exact ih htail
  | pair hinner hrest ihinner ihrest =>
    cases front with
    | nil => exact Nat.le_refl _
    | cons c front =>
      obtain ⟨rfl, behind, hbehind⟩ := List.cons_prefix_cons.1 hfront
      rcases append_cons_eq_append hbehind.symm with hfront | ⟨front, rfl, rfl⟩
      · have hle := ihinner hfront
        simp only [List.count_cons, beq_iff_eq, Char.reduceEq, if_true, if_false]
        omega
      · have hle := ihrest (List.prefix_append front behind)
        have heq := hinner.count_eq
        simp only [List.count_cons, List.count_append, beq_iff_eq, Char.reduceEq, if_true, if_false]
        omega

lemma balanced (h : Outline text outline) : Balanced text :=
  ⟨h.count_eq, fun _ hfront => h.count_le_of_prefix hfront⟩

/-! ## What stands in a text -/

/-- The outline starts as the text does, up to the first parenthesis. -/
lemma prefix_of_append (h : Outline text outline) (hopen : '(' ∉ word) (hclose : ')' ∉ word)
    (htext : text = word ++ after) : word <+: outline := by
  induction h generalizing word with
  | nil =>
    obtain ⟨rfl, -⟩ := List.append_eq_nil_iff.1 htext.symm
    exact List.nil_prefix
  | plain hc hc' hrest ih =>
    cases word with
    | nil => exact List.nil_prefix
    | cons c word =>
      obtain ⟨rfl, htail⟩ := List.cons.inj htext
      obtain ⟨-, hopen⟩ := not_or.1 (mt List.mem_cons.2 hopen)
      obtain ⟨-, hclose⟩ := not_or.1 (mt List.mem_cons.2 hclose)
      exact List.cons_prefix_cons.2 ⟨rfl, ih hopen hclose htail⟩
  | pair hinner hrest ihinner ihrest =>
    cases word with
    | nil => exact List.nil_prefix
    | cons c word =>
      obtain ⟨rfl, -⟩ := List.cons.inj htext
      exact absurd List.mem_cons_self hopen

/-- What stands somewhere in a text, without parentheses in it, stands behind an open parenthesis or
in the outline. -/
lemma enclosed_or_infix (h : Outline text outline) (hopen : '(' ∉ word) (hclose : ')' ∉ word)
    {before : List Char} (htext : text = before ++ (word ++ after)) :
    LeavesOpen before ∨ word <:+: outline := by
  unfold LeavesOpen
  induction h generalizing before with
  | nil =>
    obtain ⟨-, htext⟩ := List.append_eq_nil_iff.1 htext.symm
    obtain ⟨rfl, -⟩ := List.append_eq_nil_iff.1 htext
    exact .inr List.nil_infix
  | plain hc hc' hrest ih =>
    cases before with
    | nil => exact .inr ((Outline.plain hc hc' hrest).prefix_of_append hopen hclose htext).isInfix
    | cons c before =>
      obtain ⟨rfl, htail⟩ := List.cons.inj htext
      rw [List.count_cons_of_ne hc, List.count_cons_of_ne hc']
      exact (ih htail).imp id fun hinfix => List.infix_cons hinfix
  | pair hinner hrest ihinner ihrest =>
    cases before with
    | nil => exact .inr ((Outline.pair hinner hrest).prefix_of_append hopen hclose htext).isInfix
    | cons c before =>
      obtain ⟨rfl, htail⟩ := List.cons.inj htext
      rcases append_cons_eq_append htail with hbefore | ⟨before, rfl, hrest'⟩
      · -- the parenthesis in front of the inner text is still open
        have hle := hinner.count_le_of_prefix hbefore
        left
        simp only [List.count_cons, beq_iff_eq, Char.reduceEq, if_true, if_false]
        omega
      · have heq := hinner.count_eq
        refine (ihrest hrest').imp (fun hlt => ?_) fun hinfix =>
          List.infix_cons (List.infix_cons hinfix)
        simp only [List.count_cons, List.count_append, beq_iff_eq, Char.reduceEq, if_true, if_false]
        omega

end Outline

/-! ## Words -/

/-- Between words and further ones there is one more space. -/
lemma intercalate_space_append {words words' : List (List Char)} (hwords : words ≠ [])
    (hwords' : words' ≠ []) :
    [' '].intercalate (words ++ words') =
      [' '].intercalate words ++ ' ' :: [' '].intercalate words' := by
  induction words with
  | nil => exact absurd rfl hwords
  | cons word rest ih =>
    cases rest with
    | nil =>
      rw [List.singleton_append, List.intercalate_cons_of_ne_nil hwords',
        List.intercalate_singleton, List.append_assoc, List.singleton_append]
    | cons next rest =>
      have hrest := ih (List.cons_ne_nil _ _)
      rw [List.cons_append] at hrest
      rw [List.cons_append, List.cons_append, List.intercalate_cons_cons, hrest,
        List.intercalate_cons_cons, List.append_assoc, List.append_assoc, List.append_assoc]

/-- Where words without spaces are joined by spaces, what has a space on either side is one of
them. -/
lemma mem_of_infix_intercalate {words : List (List Char)} (hwords : ∀ word ∈ words, ' ' ∉ word)
    {word : List Char} (hword : ' ' ∉ word)
    (h : ' ' :: (word ++ [' ']) <:+: List.intercalate [' '] words) : word ∈ words := by
  have hne : words ≠ [] := by
    rintro rfl
    exact absurd (List.infix_nil.1 h) (List.cons_ne_nil _ _)
  obtain ⟨before, after, htext⟩ := h
  have hsingle : word.splitOn ' ' = [word] := by
    simpa using List.splitOn_intercalate ' ' (List.forall_mem_singleton.2 hword)
      (List.cons_ne_nil word [])
  -- splitting the text at its spaces gives the words back, and `word` is one of the parts
  have hsplit : words = before.splitOn ' ' ++ (word.splitOn ' ' ++ after.splitOn ' ') := by
    have htext : List.intercalate [' '] words = before ++ ' ' :: (word ++ ' ' :: after) := by
      rw [← htext]
      simp
    rw [← List.splitOn_intercalate ' ' hwords hne, htext]
    simp only [List.splitOn_eq_splitOnP]
    rw [List.splitOnP_append_cons _ _ (by simp), List.splitOnP_append_cons _ _ (by simp)]
  rw [hsplit, hsingle]
  simp

end ODataToSql.Sql
