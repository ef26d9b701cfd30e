import ODataToSql.Proofs.CommandWords
import ODataToSql.Proofs.ConfinedNames
import ODataToSql.Translation.Command
import Mathlib.Data.Option.Basic

/-!
# The grammar of base commands

A base command is `SELECT`, white space and a text with a `FROM` in it that ends a word. It is laid
out in parts, one behind the other with white space between them, and every command has only one
such layout as far as the parts are concerned.

* `Layout` names the parts and the gaps, and `Layout.IsOrderly` says what they have to be.
* `splitTop_eq_iff`, `splitAtSource?_eq_some_iff`: what the two steps of the reader find.
* Main statement: `Translation.baseCommand_follows_grammar`. The reader accepts the commands of the
  grammar and no other text, and it finds the parts of the layout.
-/

namespace ODataToSql.BaseCommand

open Text Text.Keyword

/-- `TOP` in any case and a number in parentheses, in the digits of any script. -/
def IsLimit (top : List Char) : Prop :=
  ∃ word digits, Spells "TOP".toList word ∧ digits ≠ [] ∧
    (∀ d ∈ digits, isDecimalDigit d = true) ∧ top = word ++ '(' :: (digits ++ [')'])

/-- `SELECT`, white space, and behind it all a `FROM` where a word ends. -/
def IsCommand (text : List Char) : Prop :=
  ∃ select gap rest, text = select ++ gap ++ rest ∧ Spells "SELECT".toList select ∧
    gap ≠ [] ∧ IsGap gap ∧ StartsSolid rest ∧
    ∃ before source, rest = before ++ source ∧ Leads "FROM".toList source

/-! ## Limits -/

lemma spells_top_paren {word : List Char} :
    Spells "TOP(".toList word ↔ ∃ top, Spells "TOP".toList top ∧ word = top ++ ['('] := by
  constructor
  · intro h
    have hmap : word.map fold = "TOP".toList.map fold ++ [fold '('] := h
    obtain ⟨top, paren, rfl, htop, hparen⟩ := List.map_eq_append_iff.1 hmap
    obtain ⟨c, rfl, hc⟩ := List.map_eq_singleton_iff.1 hparen
    have hfold : fold c = c := eq_fold_of_not_isAlpha (by rw [hc]; decide)
    rw [hfold] at hc
    exact ⟨top, htop, by rw [hc]; rfl⟩
  · rintro ⟨top, htop, rfl⟩
    rw [Spells, List.map_append, htop]
    rfl

/-- A limit is taken off a text in one piece. -/
lemma splitTop_append {top : List Char} (h : IsLimit top) (rest : List Char) :
    splitTop (top ++ rest) = (top, rest) := by
  obtain ⟨word, digits, hword, hne, hdigits, rfl⟩ := h
  obtain ⟨digit, digits, rfl⟩ := List.exists_cons_of_ne_nil hne
  have hstrip : strip? "TOP(".toList (word ++ '(' :: (digit :: digits ++ [')']) ++ rest) =
      some (digit :: digits ++ ')' :: rest) :=
    strip?_eq_some_iff.2 ⟨word ++ ['('], spells_top_paren.2 ⟨word, hword, rfl⟩, by simp⟩
  have hspan : (digit :: digits ++ ')' :: rest).span isDecimalDigit =
      (digit :: digits, ')' :: rest) := by
    have hclose : ¬ isDecimalDigit ')' = true := by decide
    rw [List.span_eq_takeWhile_dropWhile, List.takeWhile_append_of_pos hdigits,
      List.dropWhile_append_of_pos hdigits, List.takeWhile_cons_of_neg hclose,
      List.dropWhile_cons_of_neg hclose, List.append_nil]
  have htake : (word ++ '(' :: (digit :: digits ++ [')']) ++ rest).take 4 = word ++ ['('] := by
    have hlength : word.length = 3 := hword.length_eq
    simp [List.take_append, hlength]
  rw [splitTop, hstrip]
  simp only [hspan, htake]
  simp

/-- Nothing is taken off a text that begins with no limit. -/
lemma splitTop_of_forall_not {text : List Char} (h : ∀ limit, IsLimit limit → ¬ limit <+: text) :
    splitTop text = ([], text) := by
  unfold splitTop
  split
  · rfl
  · next stripped hstrip =>
    split
    · next digit digits after hspan =>
      obtain ⟨word, hword, rfl⟩ := strip?_eq_some_iff.1 hstrip
      obtain ⟨top, htop, rfl⟩ := spells_top_paren.1 hword
      rw [List.span_eq_takeWhile_dropWhile, Prod.mk.injEq] at hspan
      have hdigits : ∀ d ∈ digit :: digits, isDecimalDigit d = true := by
        rw [← hspan.1]
        exact fun d hd => List.mem_takeWhile_imp hd
      have hstripped : stripped = digit :: digits ++ ')' :: after := by
        rw [← hspan.1, ← hspan.2, List.takeWhile_append_dropWhile]
      -- this is a limit after all
      refine absurd ⟨after, ?_⟩
        (h _ ⟨top, digit :: digits, htop, List.cons_ne_nil _ _, hdigits, rfl⟩)
      simp [hstripped]
    · rfl

/-- What is taken off is a limit, or it is nothing and there is no limit to be taken off. -/
lemma splitTop_eq_iff {text top rest : List Char} :
    splitTop text = (top, rest) ↔ text = top ++ rest ∧
      (IsLimit top ∨ top = [] ∧ ∀ limit, IsLimit limit → ¬ limit <+: rest) := by
  constructor
  · intro h
    by_cases hlimit : ∃ limit, IsLimit limit ∧ limit <+: text
    · obtain ⟨limit, hlimit, after, rfl⟩ := hlimit
      rw [splitTop_append hlimit] at h
      cases h
      exact ⟨rfl, .inl hlimit⟩
    · have hnone (limit : List Char) (h : IsLimit limit) (hstarts : limit <+: text) : False :=
        hlimit ⟨limit, h, hstarts⟩
      rw [splitTop_of_forall_not hnone] at h
      cases h
      exact ⟨rfl, .inr ⟨rfl, hnone⟩⟩
  · rintro ⟨rfl, hlimit | ⟨rfl, hnone⟩⟩
    · exact splitTop_append hlimit rest
    · exact splitTop_of_forall_not hnone

/-! ## The first `FROM` -/

lemma isLetters_from : IsLetters "FROM".toList := ⟨by decide, List.all_eq_true.1 (by decide)⟩

/-- The second text begins with `FROM`, and in the two texts together there is none before. -/
structure MeetsFirst (before source : List Char) : Prop where
  leads : Leads "FROM".toList source
  first : ∀ front rest, before ++ source = front ++ rest → Leads "FROM".toList rest →
    before.length ≤ front.length

/-- A `FROM` starts with its first letter, in one case or the other. -/
lemma exists_cons_of_leads {source : List Char} (h : Leads "FROM".toList source) :
    ∃ c rest, source = c :: rest ∧ (c = 'f' ∨ c = 'F') := by
  obtain ⟨word, rest, rfl, hword, -⟩ := h
  obtain ⟨c, tail, rfl⟩ := List.exists_cons_of_ne_nil (hword.ne_nil isLetters_from)
  exact ⟨c, tail ++ rest, rfl, eq_of_fold_eq_f (List.cons.inj hword).1⟩

lemma startsSolid_of_leads {source : List Char} (h : Leads "FROM".toList source) :
    StartsSolid source := by
  obtain ⟨c, rest, rfl, rfl | rfl⟩ := exists_cons_of_leads h
  · exact startsSolid_cons (by decide) rest
  · exact startsSolid_cons (by decide) rest

namespace MeetsFirst

variable {front before source : List Char}

/-- It is met first in the rest of a text as well. -/
lemma of_append (h : MeetsFirst (front ++ before) source) : MeetsFirst before source where
  leads := h.leads
  first other rest heq hrest := by
    have hle := h.first (front ++ other) rest
      (by rw [List.append_assoc, heq, List.append_assoc]) hrest
    simpa using hle

/-- It is met first behind a character that no `FROM` begins with. -/
lemma cons {c : Char} (h : MeetsFirst before source)
    (hc : ¬ Leads "FROM".toList (c :: (before ++ source))) : MeetsFirst (c :: before) source where
  leads := h.leads
  first other rest heq hrest := by
    cases other with
    | nil =>
      rw [← List.cons_append, heq] at hc
      exact absurd hrest hc
    | cons d other =>
      have hle := h.first other rest (List.cons.inj heq).2 hrest
      simpa using hle

end MeetsFirst

/-- If there is a `FROM` at all, one is met first. -/
lemma exists_meetsFirst (front : List Char) {rest : List Char} (h : Leads "FROM".toList rest) :
    ∃ before source, front ++ rest = before ++ source ∧ MeetsFirst before source := by
  induction front with
  | nil => exact ⟨[], rest, rfl, h, fun _ _ _ _ => Nat.zero_le _⟩
  | cons c front ih =>
    by_cases hc : Leads "FROM".toList (c :: (front ++ rest))
    · exact ⟨[], c :: (front ++ rest), rfl, hc, fun _ _ _ _ => Nat.zero_le _⟩
    · obtain ⟨before, source, heq, hfirst⟩ := ih
      refine ⟨c :: before, source, by rw [List.cons_append, heq, List.cons_append], ?_⟩
      exact hfirst.cons (heq ▸ hc)

/-- The text is split where `FROM` is met first. -/
lemma splitAtSource?_eq_some_iff {text before source : List Char} :
    splitAtSource? text = some (before, source) ↔
      text = before ++ source ∧ MeetsFirst before source := by
  induction text generalizing before with
  | nil =>
    refine iff_of_false (Option.some_ne_none _).symm ?_
    rintro ⟨heq, hfirst⟩
    obtain ⟨c, rest, rfl, -⟩ := exists_cons_of_leads hfirst.leads
    simp at heq
  | cons c rest ih =>
    rw [splitAtSource?]
    by_cases hleads : Leads "FROM".toList (c :: rest)
    · rw [if_pos ((startsWithWord_iff isLetters_from).2 hleads)]
      constructor
      · intro h
        cases h
        exact ⟨rfl, hleads, fun _ _ _ _ => Nat.zero_le _⟩
      · rintro ⟨heq, hfirst⟩
        have hle := hfirst.first [] (c :: rest) heq.symm hleads
        obtain rfl := List.eq_nil_of_length_eq_zero (Nat.le_zero.1 hle)
        rw [heq, List.nil_append]
    · rw [if_neg (mt (startsWithWord_iff isLetters_from).1 hleads)]
      simp only [Option.map_eq_some_iff, Prod.mk.injEq, Prod.exists]
      constructor
      · rintro ⟨columns, _, hsplit, rfl, rfl⟩
        obtain ⟨rfl, hfirst⟩ := ih.1 hsplit
        exact ⟨rfl, hfirst.cons hleads⟩
      · rintro ⟨heq, hfirst⟩
        cases before with
        | nil => exact absurd (heq ▸ hfirst.leads) hleads
        | cons d before =>
          obtain ⟨rfl, rfl⟩ := List.cons.inj heq
          have hrest : MeetsFirst ([c] ++ before) source := hfirst
          exact ⟨before, source, ih.2 ⟨rfl, hrest.of_append⟩, rfl, rfl⟩

/-! ## Layouts -/

/-- The parts of a command, each of them with the white space behind it. -/
structure Layout where
  select : List Char
  afterSelect : List Char
  top : List Char
  afterTop : List Char
  columns : List Char
  afterColumns : List Char
  source : List Char

namespace Layout

/-- What stands between the limit and the source. -/
def middle (layout : Layout) : List Char :=
  layout.afterTop ++ layout.columns ++ layout.afterColumns

/-- The text of the command. -/
def text (layout : Layout) : List Char :=
  layout.select ++ layout.afterSelect ++ layout.top ++ layout.middle ++ layout.source

/-- The rules for the parts. The white space behind `SELECT` is as long as it can be, there is no
limit only where none could be read, and the source begins with the first `FROM` behind the limit
that ends a word. -/
structure IsOrderly (layout : Layout) : Prop where
  select : Spells "SELECT".toList layout.select
  afterSelect_ne_nil : layout.afterSelect ≠ []
  isGap_afterSelect : IsGap layout.afterSelect
  afterSelect_longest : StartsSolid (layout.top ++ layout.middle ++ layout.source)
  top : IsLimit layout.top ∨
    layout.top = [] ∧ ∀ limit, IsLimit limit → ¬ limit <+: layout.middle ++ layout.source
  isGap_afterTop : IsGap layout.afterTop
  columns : Unspaced layout.columns
  isGap_afterColumns : IsGap layout.afterColumns
  source : MeetsFirst layout.middle layout.source

end Layout

/-- The parts of a command as they are read, step by step. -/
lemma ofText?_eq_some_iff {text : String} {base : BaseCommand} :
    ofText? text = some base ↔ ∃ afterSelect top afterTop before source,
      strip? "SELECT".toList (trim text.toList) = some afterSelect ∧
      afterSelect.head?.any isBlank = true ∧
      splitTop (afterSelect.dropWhile isBlank) = (top, afterTop) ∧
      splitAtSource? (afterTop.dropWhile isBlank) = some (before, source) ∧
      base = ⟨String.ofList top, String.ofList (trimEnd before), String.ofList source,
        containsWord "WHERE".toList (maskQuoted (trim text.toList))⟩ := by
  unfold ofText?
  constructor
  · intro h
    obtain ⟨afterSelect, hselect, h⟩ := Option.bind_eq_some_iff.1 h
    obtain ⟨_, hgap, h⟩ := Option.bind_eq_some_iff.1 h
    obtain ⟨⟨before, source⟩, hsplit, h⟩ := Option.bind_eq_some_iff.1 h
    exact ⟨afterSelect, _, _, before, source, hselect, (Option.guard_eq_some' _).1 hgap, rfl,
      hsplit, (Option.some.inj h).symm⟩
  · rintro ⟨afterSelect, top, afterTop, before, source, hselect, hgap, htop, hsplit, rfl⟩
    simp only [hselect, hgap, htop, hsplit, Option.bind_eq_bind, Option.bind_some, guard_true]
    rfl

/-- What is read is a command of the grammar. -/
lemma isCommand_of_ofText? {text : String} {base : BaseCommand} (h : ofText? text = some base) :
    IsCommand (trim text.toList) := by
  obtain ⟨rest, top, afterTop, before, source, hselect, hblank, htop, hsplit, -⟩ :=
    ofText?_eq_some_iff.1 h
  obtain ⟨select, hselect, htext⟩ := strip?_eq_some_iff.1 hselect
  obtain ⟨gap, hgap, hrest, hlongest⟩ :=
    dropWhile_isBlank_eq_iff.1 (rfl : rest.dropWhile isBlank = _)
  obtain ⟨hlimit, -⟩ := splitTop_eq_iff.1 htop
  obtain ⟨hbefore, hfirst⟩ := splitAtSource?_eq_some_iff.1 hsplit
  obtain ⟨afterLimit, -, hafterTop, -⟩ := dropWhile_isBlank_eq_iff.1 hbefore
  have hne : gap ≠ [] := by
    rintro rfl
    rw [hrest, List.nil_append, startsSolid_iff.1 hlongest] at hblank
    cases hblank
  refine ⟨select, gap, rest.dropWhile isBlank, ?_, hselect, hne, hgap, hlongest,
    top ++ afterLimit ++ before, source, ?_, hfirst.leads⟩
  · rw [htext, List.append_assoc, ← hrest]
  · rw [hlimit, hafterTop]
    simp

/-- No `FROM` begins in a limit. -/
lemma exists_append_of_leads {top rest before source : List Char}
    (h : splitTop (top ++ rest) = (top, rest)) (heq : top ++ rest = before ++ source)
    (hsource : Leads "FROM".toList source) : ∃ front, rest = front ++ source := by
  rcases List.append_eq_append_iff.1 heq with ⟨front, -, hrest⟩ | ⟨tail, htop, hsource'⟩
  · exact ⟨front, hrest⟩
  · obtain ⟨c, after, rfl, hc⟩ := exists_cons_of_leads hsource
    cases tail with
    | nil => exact ⟨[], hsource'.symm⟩
    | cons d tail =>
      obtain ⟨rfl, -⟩ := List.cons.inj hsource'
      have hmem : c ∈ (splitTop (top ++ rest)).1 := by
        rw [h, htop]
        simp
      refine absurd hmem ?_
      rcases hc with rfl | rfl
      · exact not_mem_splitTop (by decide) (by decide) (by decide) _
      · exact not_mem_splitTop (by decide) (by decide) (by decide) _

/-- Every command of the grammar can be laid out. -/
lemma IsCommand.exists_layout {text : List Char} (h : IsCommand text) :
    ∃ layout : Layout, layout.IsOrderly ∧ layout.text = text := by
  obtain ⟨select, gap, rest, rfl, hselect, hne, hgap, hsolid, before, source, hrest, hsource⟩ := h
  obtain ⟨top, afterTop, htop⟩ : ∃ top afterTop, splitTop rest = (top, afterTop) := ⟨_, _, rfl⟩
  obtain ⟨rfl, hlimit⟩ := splitTop_eq_iff.1 htop
  -- no `FROM` begins in the limit, hence there is one behind it, and there is a first
  obtain ⟨front, rfl⟩ := exists_append_of_leads htop hrest hsource
  obtain ⟨middle, source, heq, hfirst⟩ := exists_meetsFirst front hsource
  rw [heq] at hlimit hsolid ⊢
  obtain ⟨hcolumns, afterTop, afterColumns, hafterTop, hafterColumns, hmiddle⟩ :=
    trim_eq_iff.1 (rfl : trim middle = _)
  let layout : Layout := ⟨select, gap, top, afterTop, trim middle, afterColumns, source⟩
  have hlayout : layout.middle = middle := hmiddle.symm
  refine ⟨layout, ?_, by simp [Layout.text, hlayout, layout]⟩
  exact {
    select := hselect
    afterSelect_ne_nil := hne
    isGap_afterSelect := hgap
    afterSelect_longest := by rwa [hlayout, List.append_assoc]
    top := by rwa [hlayout]
    isGap_afterTop := hafterTop
    columns := hcolumns
    isGap_afterColumns := hafterColumns
    source := by rwa [hlayout] }

namespace Layout.IsOrderly

variable {layout : Layout}

/-- Where the source of an orderly layout is met first, its columns stand in front of it. -/
lemma exists_split (h : layout.IsOrderly) :
    ∃ before, splitAtSource? ((layout.middle ++ layout.source).dropWhile isBlank) =
      some (before, layout.source) ∧ trimEnd before = layout.columns := by
  obtain ⟨before, hgap, hsolid, hcolumns⟩ : ∃ before,
      (∃ gap, IsGap gap ∧ layout.middle = gap ++ before) ∧
      StartsSolid (before ++ layout.source) ∧ trimEnd before = layout.columns := by
    by_cases hempty : layout.columns = []
    · -- white space only, in which it does not matter where the columns would be
      refine ⟨[], ⟨layout.middle, ?_, (List.append_nil _).symm⟩,
        startsSolid_of_leads h.source.leads, hempty.symm⟩
      rw [Layout.middle, hempty, List.append_nil]
      exact List.forall_mem_append.2 ⟨h.isGap_afterTop, h.isGap_afterColumns⟩
    · refine ⟨layout.columns ++ layout.afterColumns, ⟨layout.afterTop, h.isGap_afterTop,
        List.append_assoc _ _ _⟩, ?_,
        trimEnd_eq_iff.2 ⟨_, h.isGap_afterColumns, rfl, h.columns.finish⟩⟩
      obtain ⟨c, tail, hcons⟩ := List.exists_cons_of_ne_nil hempty
      rw [hcons]
      exact startsSolid_cons (h.columns.start c (by simp [hcons])) _
  obtain ⟨gap, hgap, hmiddle⟩ := hgap
  have hdrop : (layout.middle ++ layout.source).dropWhile isBlank = before ++ layout.source :=
    dropWhile_isBlank_eq_iff.2 ⟨gap, hgap, by rw [hmiddle, List.append_assoc], hsolid⟩
  refine ⟨before, ?_, hcolumns⟩
  rw [hdrop, splitAtSource?_eq_some_iff]
  exact ⟨rfl, (hmiddle ▸ h.source).of_append⟩

/-- The parts of an orderly layout are the ones that are read. -/
lemma ofText? (h : layout.IsOrderly) {text : String} (htext : layout.text = trim text.toList) :
    ∃ base, BaseCommand.ofText? text = some base ∧ layout.top = base.top.toList ∧
      layout.columns = base.columns.toList ∧ layout.source = base.source.toList := by
  obtain ⟨before, hsplit, hcolumns⟩ := h.exists_split
  -- each step of the reader finds the part that the layout has there
  have hselect : strip? "SELECT".toList (trim text.toList) =
      some (layout.afterSelect ++ (layout.top ++ layout.middle ++ layout.source)) :=
    strip?_eq_some_iff.2 ⟨layout.select, h.select, by rw [← htext, Layout.text]; simp⟩
  have hblank : (layout.afterSelect ++ (layout.top ++ layout.middle ++ layout.source)).head?.any
      isBlank = true := by
    obtain ⟨c, gap, hgap⟩ := List.exists_cons_of_ne_nil h.afterSelect_ne_nil
    rw [hgap]
    exact h.isGap_afterSelect c (by simp [hgap])
  have htop : splitTop
      ((layout.afterSelect ++ (layout.top ++ layout.middle ++ layout.source)).dropWhile isBlank) = (layout.top, layout.middle ++ layout.source) := by
    rw [dropWhile_isBlank_eq_iff.2 ⟨_, h.isGap_afterSelect, rfl, h.afterSelect_longest⟩,
      splitTop_eq_iff]
    exact ⟨List.append_assoc _ _ _, h.top⟩
  refine ⟨_, ofText?_eq_some_iff.2 ⟨_, _, _, _, _, hselect, hblank, htop, hsplit, rfl⟩, ?_⟩
  simp [hcolumns]

end Layout.IsOrderly

/-- The texts that are read are the commands of the grammar. -/
lemma exists_ofText?_iff {text : String} :
    (∃ base, ofText? text = some base) ↔ IsCommand (trim text.toList) := by
  constructor
  · rintro ⟨base, h⟩
    exact isCommand_of_ofText? h
  · intro h
    obtain ⟨layout, horderly, htext⟩ := h.exists_layout
    obtain ⟨base, hbase, -⟩ := horderly.ofText? htext
    exact ⟨base, hbase⟩

end ODataToSql.BaseCommand

namespace ODataToSql.Translation

open Text BaseCommand

/-- A text is read as a base command just if, without the white space at its ends, it is one of the
grammar; otherwise the error has the text as it was given. The top, the columns and the source that
are read are those of an orderly layout, and of every orderly layout there is. -/
theorem baseCommand_follows_grammar (command : String) :
    ((∃ base, baseCommand command = .ok base) ↔ IsCommand (trim command.toList)) ∧
    (∀ error, baseCommand command = .error error ↔
      ¬ IsCommand (trim command.toList) ∧ error = .unsupportedShape command) ∧
    (∀ top columns source : List Char,
      (∃ base, baseCommand command = .ok base ∧ base.top.toList = top ∧
        base.columns.toList = columns ∧ base.source.toList = source) ↔
      ∃ layout : Layout, layout.IsOrderly ∧ layout.text = trim command.toList ∧
        layout.top = top ∧ layout.columns = columns ∧ layout.source = source) := by
  simp only [baseCommand_eq_ok_iff, baseCommand_eq_error_iff, ← exists_ofText?_iff]
  refine ⟨trivial, fun error => ?_, fun top columns source => ⟨?_, ?_⟩⟩
  · rw [← Option.isSome_iff_exists, Option.not_isSome_iff_eq_none]
  · rintro ⟨base, hbase, rfl, rfl, rfl⟩
    obtain ⟨layout, horderly, htext⟩ := (isCommand_of_ofText? hbase).exists_layout
    obtain ⟨read, hread, htop, hcolumns, hsource⟩ := horderly.ofText? htext
    obtain rfl : base = read := Option.some.inj (hbase.symm.trans hread)
    exact ⟨layout, horderly, htext, htop, hcolumns, hsource⟩
  · rintro ⟨layout, horderly, htext, rfl, rfl, rfl⟩
    obtain ⟨base, hbase, htop, hcolumns, hsource⟩ := horderly.ofText? htext
    exact ⟨base, hbase, htop.symm, hcolumns.symm, hsource.symm⟩

/-- Blanks of every kind part a command, and the first `FROM` does that ends a word. -/
example : baseCommand "\u2003select top(40)[Id],[FromDate]\u00a0from T " =
    .ok ⟨"top(40)", "[Id],[FromDate]", "from T", false⟩ := by
  decide +kernel

end ODataToSql.Translation
