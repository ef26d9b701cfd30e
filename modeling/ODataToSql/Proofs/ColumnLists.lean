import ODataToSql.Proofs.CommandGrammar
import ODataToSql.Proofs.QuotedSegments

/-!
# Where a command is split behind its column list

The source of a base command begins with the first `FROM` that ends a word, whatever it stands in.

* `HasSource`: there is such a `FROM` in a text. `hasSource_append_textOf`: in a list of segments it
  is in the plain text or in what is quoted.
* `BaseCommand.exists_ofText?_of_meetsFirst`: a command with a column list is split where such a
  `FROM` is met first.
* Main statement: `Translation.columns_of_baseCommand_iff`. A column list is read as it was written
  just if there is no such `FROM` in it, neither at the end of a word nor in a name or a literal.
-/

namespace ODataToSql

namespace Text

open Keyword BaseCommand

/-- What is quoted in a segment. -/
def Segment.quoted : Segment → List Char
  | plain _ => []
  | identifier name => name
  | literal content => content

/-- Somewhere in the text there is a `FROM` that ends a word. -/
def HasSource (text : List Char) : Prop :=
  ∃ before source, text = before ++ source ∧ Leads "FROM".toList source

section

variable {front rest : List Char} {c : Char}

lemma not_hasSource_nil : ¬ HasSource [] := by
  rintro ⟨before, source, heq, hleads⟩
  obtain ⟨c, rest, rfl, -⟩ := exists_cons_of_leads hleads
  simp at heq

lemma hasSource_cons :
    HasSource (c :: rest) ↔ Leads "FROM".toList (c :: rest) ∨ HasSource rest := by
  constructor
  · rintro ⟨before, source, heq, hleads⟩
    cases before with
    | nil => exact .inl (heq ▸ hleads)
    | cons d before =>
      obtain ⟨rfl, rfl⟩ := List.cons.inj heq
      exact .inr ⟨before, source, rfl, hleads⟩
  · rintro (hleads | ⟨before, source, rfl, hleads⟩)
    · exact ⟨[], _, rfl, hleads⟩
    · exact ⟨c :: before, source, rfl, hleads⟩

/-- What leads a text does not reach beyond a character that is no part of a word. -/
lemma leads_append_cons (hc : isWordCharacter c = false) :
    Leads "FROM".toList (front ++ c :: rest) ↔ Leads "FROM".toList front := by
  rw [← startsWithWord_iff isLetters_from, startsWithWord_append_cons isLetters_from hc,
    startsWithWord_iff isLetters_from]

lemma hasSource_append_cons (hc : isWordCharacter c = false) :
    HasSource (front ++ c :: rest) ↔ HasSource front ∨ HasSource rest := by
  induction front with
  | nil =>
    have hleads : ¬ Leads "FROM".toList ([] ++ c :: rest) := by
      rw [leads_append_cons hc]
      exact fun h => not_hasSource_nil ⟨[], [], rfl, h⟩
    rw [List.nil_append] at hleads ⊢
    rw [hasSource_cons, or_iff_right hleads, or_iff_right not_hasSource_nil]
  | cons d front ih =>
    have hleads :
        Leads "FROM".toList (d :: front ++ c :: rest) ↔ Leads "FROM".toList (d :: front) :=
      leads_append_cons hc
    rw [List.cons_append] at hleads ⊢
    rw [hasSource_cons, hasSource_cons, hleads, ih, or_assoc]

end

lemma isWordCharacter_open : isWordCharacter '[' = false := by decide +kernel

lemma isWordCharacter_close : isWordCharacter ']' = false := by decide +kernel

lemma isWordCharacter_quote : isWordCharacter '\x27' = false := by decide +kernel

/-- That quotes are doubled makes no difference, since a word ends at one quote already. -/
lemma hasSource_append_doubledQuotes (front content : List Char) :
    HasSource (front ++ doubledQuotes content) ↔ HasSource (front ++ content) := by
  induction content generalizing front with
  | nil => rfl
  | cons c content ih =>
    have hcons : doubledQuotes (c :: content) =
        (if c = '\x27' then ['\x27', '\x27'] else [c]) ++ doubledQuotes content :=
      List.flatMap_cons
    by_cases hc : c = '\x27'
    · have hquote : HasSource ([] ++ '\x27' :: doubledQuotes content) ↔
          HasSource [] ∨ HasSource (doubledQuotes content) :=
        hasSource_append_cons isWordCharacter_quote
      have hrest := ih []
      rw [List.nil_append, or_iff_right not_hasSource_nil] at hquote
      rw [List.nil_append, List.nil_append] at hrest
      rw [hcons, if_pos hc, hc, List.cons_append, hasSource_append_cons isWordCharacter_quote,
        hasSource_append_cons isWordCharacter_quote, List.cons_append, List.nil_append, hquote,
        hrest]
    · rw [hcons, if_neg hc, List.singleton_append, List.append_cons, ih, ← List.append_cons]

/-- In a list of segments, a `FROM` that ends a word is in a stretch of plain text or in a quoted
one. -/
lemma hasSource_append_textOf (before : List Char) (segments : List Segment) :
    HasSource (before ++ textOf segments) ↔
      (∃ stretch ∈ stretchesAfter before segments, HasSource stretch) ∨
        ∃ segment ∈ segments, HasSource segment.quoted := by
  induction segments generalizing before with
  | nil => simp [textOf, stretchesAfter]
  | cons segment rest ih =>
    have hrest := ih []
    rw [List.nil_append] at hrest
    -- what is quoted ends one stretch, and another one begins behind it
    have hquoted (hstretches : stretchesAfter before (segment :: rest) =
          before :: stretchesAfter [] rest)
        (htext : HasSource (before ++ textOf (segment :: rest)) ↔
          HasSource before ∨ HasSource segment.quoted ∨ HasSource (textOf rest)) :
        HasSource (before ++ textOf (segment :: rest)) ↔
          (∃ stretch ∈ stretchesAfter before (segment :: rest), HasSource stretch) ∨
            ∃ other ∈ segment :: rest, HasSource other.quoted := by
      rw [htext, hrest, hstretches, List.exists_mem_cons_iff, List.exists_mem_cons_iff,
        ← or_assoc, or_or_or_comm]
    cases segment with
    | plain text =>
      have hassoc : before ++ textOf (.plain text :: rest) = before ++ text ++ textOf rest := by
        simp [textOf, Segment.text]
      rw [hassoc, ih]
      simp [stretchesAfter, Segment.quoted, not_hasSource_nil]
    | identifier name =>
      refine hquoted rfl ?_
      have htext : before ++ textOf (.identifier name :: rest) =
          before ++ '[' :: (name ++ ']' :: textOf rest) := by
        simp [textOf, Segment.text]
      rw [htext, hasSource_append_cons isWordCharacter_open,
        hasSource_append_cons isWordCharacter_close]
      rfl
    | literal content =>
      refine hquoted rfl ?_
      have htext : before ++ textOf (.literal content :: rest) =
          before ++ '\x27' :: (doubledQuotes content ++ '\x27' :: textOf rest) := by
        simp [textOf, Segment.text]
      have hcontent := hasSource_append_doubledQuotes [] content
      rw [List.nil_append, List.nil_append] at hcontent
      rw [htext, hasSource_append_cons isWordCharacter_quote,
        hasSource_append_cons isWordCharacter_quote, hcontent]
      rfl

end Text

namespace BaseCommand

open Text Text.Keyword

/-! ## The first `FROM` behind a column list -/

/-- There is only one place where it is met first. -/
lemma MeetsFirst.unique {before source other rest : List Char} (h : MeetsFirst before source)
    (hother : MeetsFirst other rest) (heq : before ++ source = other ++ rest) :
    before = other ∧ source = rest := by
  have hle := h.first other rest heq hother.leads
  have hge := hother.first before source heq.symm h.leads
  exact List.append_inj heq (Nat.le_antisymm hle hge)

/-- There is a `FROM` if the text can be split at one. -/
lemma isSome_splitAtSource?_iff {text : List Char} :
    (splitAtSource? text).isSome = true ↔ HasSource text := by
  rw [Option.isSome_iff_exists]
  constructor
  · rintro ⟨⟨before, source⟩, hsplit⟩
    obtain ⟨rfl, hfirst⟩ := splitAtSource?_eq_some_iff.1 hsplit
    exact ⟨before, source, rfl, hfirst.leads⟩
  · rintro ⟨front, rest, rfl, hleads⟩
    obtain ⟨before, source, heq, hfirst⟩ := exists_meetsFirst front hleads
    exact ⟨(before, source), splitAtSource?_eq_some_iff.2 ⟨heq, hfirst⟩⟩

instance (text : List Char) : Decidable (HasSource text) :=
  decidable_of_iff _ isSome_splitAtSource?_iff

/-- A text begins with no limit if none is taken off. -/
lemma not_prefix_of_splitTop {text : List Char} (h : splitTop text = ([], text)) :
    ∀ limit, IsLimit limit → ¬ limit <+: text := by
  obtain ⟨-, ⟨word, digits, -, -, -, hnil⟩ | ⟨-, hnone⟩⟩ := splitTop_eq_iff.1 h
  · exact absurd hnil.symm (by simp)
  · exact hnone

/-- A limit has no white space in it. -/
lemma IsLimit.not_mem_blank {limit : List Char} (h : IsLimit limit) : ' ' ∉ limit := by
  obtain ⟨word, digits, hword, -, hdigits, rfl⟩ := h
  have hletters : IsLetters "TOP".toList := ⟨by decide, List.all_eq_true.1 (by decide)⟩
  have hblank : isWordCharacter ' ' = false := by decide +kernel
  simp only [List.mem_append, List.mem_cons, List.not_mem_nil, or_false]
  rintro (hmem | heq | hmem | heq)
  · rw [hword.forall_isWordCharacter hletters ' ' hmem] at hblank
    cases hblank
  · cases heq
  · exact absurd (hdigits ' ' hmem) (by decide)
  · cases heq

/-- A text without blanks that a text begins with is in front of the first blank. -/
lemma prefix_of_prefix_append_blank {limit front rest : List Char} (hlimit : ' ' ∉ limit)
    (h : limit <+: front ++ ' ' :: rest) : limit <+: front := by
  obtain ⟨tail, heq⟩ := h
  rcases List.append_eq_append_iff.1 heq with ⟨middle, hfront, -⟩ | ⟨middle, hfront, hrest⟩
  · exact ⟨middle, hfront.symm⟩
  · cases middle with
    | nil => exact ⟨[], hfront ▸ by simp⟩
    | cons c middle =>
      obtain ⟨rfl, -⟩ := List.cons.inj hrest
      exact absurd (hfront ▸ by simp) hlimit

section

variable {columns tail : List Char}

/-- The `FROM` behind the columns is met first just if the columns have none. -/
lemma meetsFirst_iff :
    MeetsFirst (columns ++ [' ']) ("FROM ".toList ++ tail) ↔ ¬ HasSource columns := by
  have hblank : isWordCharacter ' ' = false := by decide +kernel
  constructor
  · rintro h ⟨before, after, rfl, hleads⟩
    have hrest : Leads "FROM".toList (after ++ ' ' :: ("FROM ".toList ++ tail)) :=
      (leads_append_cons hblank).2 hleads
    have hle := h.first before _ (by simp) hrest
    simp only [List.length_append, List.length_cons] at hle
    omega
  · intro h
    have hspells : Spells "FROM".toList "FROM".toList := rfl
    have hsource : Leads "FROM".toList ("FROM ".toList ++ tail) := by
      refine ⟨"FROM".toList, ' ' :: tail, rfl, hspells, ?_⟩
      refine (hspells.isBoundary_right isLetters_from []).2 ?_
      rw [endsWord, hblank]
      rfl
    refine ⟨hsource, fun front rest heq hrest => ?_⟩
    by_contra hlt
    have hle : front.length ≤ columns.length := by
      simp only [List.length_append, List.length_singleton] at hlt
      omega
    -- a `FROM` that begins in the columns ends there
    rw [List.append_assoc] at heq
    obtain ⟨after, hcolumns, hafter⟩ :
        ∃ after, columns = front ++ after ∧ rest = after ++ ' ' :: ("FROM ".toList ++ tail) := by
      rcases List.append_eq_append_iff.1 heq with ⟨middle, rfl, hmiddle⟩ | ⟨after, hafter, hrest⟩
      · rw [List.length_append] at hle
        obtain rfl : middle = [] := List.eq_nil_of_length_eq_zero (by omega)
        exact ⟨[], by simp, by simpa using hmiddle.symm⟩
      · exact ⟨after, hafter, hrest⟩
    rw [hafter, leads_append_cons hblank] at hrest
    exact h ⟨front, after, hcolumns, hrest⟩

/-- If the columns have one, the first of the command is the first of the columns. -/
lemma MeetsFirst.append_blank {before rest : List Char} (h : MeetsFirst before rest)
    (tail : List Char) : MeetsFirst before (rest ++ ' ' :: tail) := by
  have hblank : isWordCharacter ' ' = false := by decide +kernel
  refine ⟨(leads_append_cons hblank).2 h.leads, fun front after heq hafter => ?_⟩
  by_contra hlt
  -- a `FROM` further in front would be one of the columns as well
  rcases List.append_eq_append_iff.1 heq with ⟨middle, hfront, -⟩ | ⟨middle, rfl, rfl⟩
  · rw [hfront, List.length_append] at hlt
    omega
  · rw [← List.append_assoc, leads_append_cons hblank] at hafter
    exact hlt (h.first front _ (List.append_assoc _ _ _) hafter)

end

section

variable {columns tail : String} {before rest source : List Char}

/-- A command with a list of columns and a text behind ` FROM ` is read, and it is split at the
first `FROM` that ends a word. -/
lemma exists_ofText?_of_meetsFirst (hcolumns : Unspaced columns.toList) (hne : columns ≠ "")
    (hlimit : ∀ limit, IsLimit limit → ¬ limit <+: columns.toList)
    (htail : EndsSolid tail.toList) (hnonempty : tail ≠ "")
    (heq : before ++ source = columns.toList ++ ' ' :: ("FROM ".toList ++ tail.toList))
    (hfirst : MeetsFirst before source) :
    ∃ base, ofText? ("SELECT " ++ columns ++ " FROM " ++ tail) = some base ∧ base.top = "" ∧
      base.columns = String.ofList (trimEnd before) ∧ base.source = String.ofList source := by
  have hsolid : StartsSolid (before ++ source) := by
    obtain ⟨c, rest, hcons⟩ := List.exists_cons_of_ne_nil (mt String.toList_eq_nil_iff.1 hne)
    rw [heq, hcons]
    exact startsSolid_cons (hcolumns.start c (by simp [hcons])) _
  obtain ⟨gap, hgap, hbefore, hfinish⟩ := trimEnd_eq_iff.1 (rfl : trimEnd before = _)
  let layout : Layout := ⟨"SELECT".toList, [' '], [], [], trimEnd before, gap, source⟩
  have hmiddle : layout.middle = before := hbefore.symm
  have hlayout : layout.text = "SELECT ".toList ++ (before ++ source) := by
    rw [Layout.text, hmiddle, List.append_assoc]
    rfl
  have hnone (limit : List Char) (h : IsLimit limit) : ¬ limit <+: before ++ source := by
    rw [heq]
    exact fun hstarts => hlimit limit h (prefix_of_prefix_append_blank h.not_mem_blank hstarts)
  -- the blanks of the text are the gaps, and the white space in front of the `FROM` is one of them
  have horderly : layout.IsOrderly := {
    select := rfl
    afterSelect_ne_nil := List.cons_ne_nil _ _
    isGap_afterSelect := List.forall_mem_singleton.2 (by decide)
    afterSelect_longest := by rwa [hmiddle]
    top := .inr ⟨rfl, by rwa [hmiddle]⟩
    isGap_afterTop := List.forall_mem_nil _
    columns := ⟨(hbefore ▸ hsolid.of_append).of_append, hfinish⟩
    isGap_afterColumns := hgap
    source := by rwa [hmiddle] }
  have htext : layout.text = trim ("SELECT " ++ columns ++ " FROM " ++ tail).toList := by
    have hcommand : ("SELECT " ++ columns ++ " FROM " ++ tail).toList = layout.text := by
      rw [hlayout, heq]
      simp
    have hends : EndsSolid layout.text := by
      rw [← hcommand, String.toList_append, EndsSolid,
        List.getLast?_append_of_ne_nil _ (mt String.toList_eq_nil_iff.1 hnonempty)]
      exact htail
    have hunspaced : Unspaced layout.text :=
      ⟨hlayout ▸ startsSolid_cons (by decide) _, hends⟩
    rw [hcommand, hunspaced.trim_eq]
  obtain ⟨base, hbase, htop, hbaseColumns, hsource⟩ := horderly.ofText? htext
  refine ⟨base, hbase, ?_, ?_, ?_⟩
  · rw [← String.toList_inj, ← htop]
    rfl
  · rw [← String.toList_inj, ← hbaseColumns, String.toList_ofList]
  · rw [← String.toList_inj, ← hsource, String.toList_ofList]

/-- Without a `FROM` of their own the columns are read as they are. -/
lemma exists_ofText?_of_not_hasSource (hcolumns : Unspaced columns.toList) (hne : columns ≠ "")
    (hlimit : ∀ limit, IsLimit limit → ¬ limit <+: columns.toList)
    (htail : EndsSolid tail.toList) (hnonempty : tail ≠ "") (hnone : ¬ HasSource columns.toList) :
    ∃ base, ofText? ("SELECT " ++ columns ++ " FROM " ++ tail) = some base ∧ base.top = "" ∧
      base.columns = columns ∧ base.source = "FROM " ++ tail := by
  obtain ⟨base, hbase, htop, hbaseColumns, hbaseSource⟩ :=
    exists_ofText?_of_meetsFirst hcolumns hne hlimit htail hnonempty (List.append_assoc _ _ _)
      (meetsFirst_iff.2 hnone)
  have htrim : trimEnd (columns.toList ++ [' ']) = columns.toList :=
    trimEnd_eq_iff.2 ⟨[' '], List.forall_mem_singleton.2 (by decide), rfl, hcolumns.finish⟩
  refine ⟨base, hbase, htop, ?_, ?_⟩
  · rw [hbaseColumns, htrim, String.ofList_toList]
  · rw [hbaseSource, String.ofList_append, String.ofList_toList, String.ofList_toList]

/-- Columns with a `FROM` of their own are split in front of the first. -/
lemma exists_ofText?_of_split (hcolumns : Unspaced columns.toList) (hne : columns ≠ "")
    (hlimit : ∀ limit, IsLimit limit → ¬ limit <+: columns.toList)
    (htail : EndsSolid tail.toList) (hnonempty : tail ≠ "")
    (hsplit : columns.toList = before ++ rest) (hfirst : MeetsFirst before rest) :
    ∃ base, ofText? ("SELECT " ++ columns ++ " FROM " ++ tail) = some base ∧ base.top = "" ∧
      base.columns = String.ofList (trimEnd before) ∧
      base.source = String.ofList rest ++ " FROM " ++ tail := by
  obtain ⟨base, hbase, htop, hbaseColumns, hbaseSource⟩ :=
    exists_ofText?_of_meetsFirst hcolumns hne hlimit htail hnonempty
      (by rw [hsplit, List.append_assoc]) (hfirst.append_blank ("FROM ".toList ++ tail.toList))
  refine ⟨base, hbase, htop, hbaseColumns, ?_⟩
  rw [hbaseSource, ← String.toList_inj]
  simp

/-- What is in front of a `FROM` is shorter than the columns. -/
lemma trimEnd_ne_of_split (hsplit : columns.toList = before ++ rest)
    (hleads : Leads "FROM".toList rest) : String.ofList (trimEnd before) ≠ columns := by
  intro heq
  obtain ⟨c, tail, rfl, -⟩ := exists_cons_of_leads hleads
  obtain ⟨gap, -, hbefore, -⟩ := trimEnd_eq_iff.1 (rfl : trimEnd before = _)
  have hlength := congrArg List.length hbefore
  have hcolumns := congrArg List.length hsplit
  rw [← heq, String.toList_ofList] at hcolumns
  simp only [List.length_append, List.length_cons] at hlength hcolumns
  omega

end

end BaseCommand

namespace Translation

open Text BaseCommand

/-- A command with a list of columns is always read. Its columns and its source are the ones that
were written just if no `FROM` ends a word in the list, be it in the plain text or in what is quoted.
Otherwise the first such `FROM` is taken for the keyword, and the list is split in front of it. -/
theorem columns_of_baseCommand_iff {segments : List Segment} {columns tail : String}
    (htext : columns.toList = textOf segments) (hne : columns ≠ "")
    (hcolumns : Unspaced columns.toList)
    (hlimit : ∀ limit, IsLimit limit → ¬ limit <+: columns.toList)
    (hnonempty : tail ≠ "") (htail : EndsSolid tail.toList) :
    ∃ base, baseCommand ("SELECT " ++ columns ++ " FROM " ++ tail) = .ok base ∧ base.top = "" ∧
      (base.columns = columns ∧ base.source = "FROM " ++ tail ↔
        (∀ stretch ∈ stretches segments, ¬ HasSource stretch) ∧
          ∀ segment ∈ segments, ¬ HasSource segment.quoted) ∧
      ∀ before rest, columns.toList = before ++ rest → MeetsFirst before rest →
        base.columns = String.ofList (trimEnd before) ∧
          base.source = String.ofList rest ++ " FROM " ++ tail := by
  have hsegments : HasSource columns.toList ↔
      (∃ stretch ∈ stretches segments, HasSource stretch) ∨
        ∃ segment ∈ segments, HasSource segment.quoted :=
    htext ▸ hasSource_append_textOf [] segments
  have hnone : ((∀ stretch ∈ stretches segments, ¬ HasSource stretch) ∧
      ∀ segment ∈ segments, ¬ HasSource segment.quoted) ↔ ¬ HasSource columns.toList := by
    rw [hsegments, not_or, not_exists, not_exists]
    simp only [not_and]
  rw [hnone]
  simp only [baseCommand_eq_ok_iff]
  by_cases hsource : HasSource columns.toList
  · obtain ⟨front, after, heq, hafter⟩ := hsource
    obtain ⟨before, rest, hfront, hfirst⟩ := exists_meetsFirst front hafter
    have hsplit := heq.trans hfront
    obtain ⟨base, hbase, htop, hbaseColumns, hbaseSource⟩ :=
      exists_ofText?_of_split hcolumns hne hlimit htail hnonempty hsplit hfirst
    refine ⟨base, hbase, htop, iff_of_false ?_ (not_not_intro ⟨front, after, heq, hafter⟩), ?_⟩
    · rintro ⟨hsame, -⟩
      exact trimEnd_ne_of_split hsplit hfirst.leads (hbaseColumns.symm.trans hsame)
    · -- there is only one place to split the list at
      intro other otherRest hother hotherFirst
      obtain ⟨rfl, rfl⟩ := hfirst.unique hotherFirst (hsplit.symm.trans hother)
      exact ⟨hbaseColumns, hbaseSource⟩
  · obtain ⟨base, hbase, htop, hbaseColumns, hbaseSource⟩ :=
      exists_ofText?_of_not_hasSource hcolumns hne hlimit htail hnonempty hsource
    refine ⟨base, hbase, htop, iff_of_true ⟨hbaseColumns, hbaseSource⟩ hsource, ?_⟩
    intro before rest heq hfirst
    exact absurd ⟨before, rest, heq, hfirst.leads⟩ hsource

/-- Names, a literal and plain words with a `FROM` that goes on behind it. -/
def periodSegments : List Segment :=
  [.identifier "FromDate".toList, .plain ", ".toList, .literal "it's fromage".toList,
    .plain " AS Frome".toList]

/-- They are read as they are. -/
theorem columns_ofPeriod :
    ∃ base, baseCommand ("SELECT " ++ "[FromDate], 'it\x27\x27s fromage' AS Frome" ++ " FROM " ++
        "Orders") = .ok base ∧
      base.columns = "[FromDate], 'it\x27\x27s fromage' AS Frome" ∧ base.source = "FROM Orders" := by
  have htext : "[FromDate], 'it\x27\x27s fromage' AS Frome".toList = textOf periodSegments := by
    decide
  have hunspaced : Unspaced "[FromDate], 'it\x27\x27s fromage' AS Frome".toList :=
    ⟨startsSolid_iff.2 (by decide), endsSolid_iff.2 (by decide)⟩
  obtain ⟨base, hbase, -, hiff, -⟩ := columns_of_baseCommand_iff htext (by decide) hunspaced
    (not_prefix_of_splitTop (by decide)) (by decide : "Orders" ≠ "")
    (endsSolid_iff.2 (by decide))
  exact ⟨base, hbase, hiff.2 ⟨by decide +kernel, by decide +kernel⟩⟩

/-- The name of a column ends in `From`, and the command is split within that name, whether or not
it is in brackets. There is no `FROM` as a word of its own in the columns. -/
theorem name_splits_columns :
    Segmented [.identifier "ValidFrom".toList] ∧
    (∀ stretch ∈ stretches [.identifier "ValidFrom".toList],
      ¬ Keyword.Occurs "FROM".toList stretch) ∧
    baseCommand ("SELECT " ++ "[ValidFrom]" ++ " FROM " ++ "T") =
      .ok ⟨"", "[Valid", "From] FROM T", false⟩ ∧
    ¬ Keyword.Occurs "FROM".toList "ValidFrom".toList ∧
    baseCommand ("SELECT " ++ "ValidFrom" ++ " FROM " ++ "T") =
      .ok ⟨"", "Valid", "From FROM T", false⟩ := by
  have hoccurs (text : List Char) (h : Keyword.containsWord "FROM".toList text = false) :
      ¬ Keyword.Occurs "FROM".toList text := by
    rw [← Keyword.containsWord_iff isLetters_from, h]
    exact Bool.false_ne_true
  have hstretches : ∀ stretch ∈ stretches [.identifier "ValidFrom".toList],
      Keyword.containsWord "FROM".toList stretch = false := by
    decide +kernel
  exact ⟨by decide, fun stretch hmem => hoccurs stretch (hstretches stretch hmem),
    by decide +kernel, hoccurs _ (by decide +kernel), by decide +kernel⟩

end Translation
end ODataToSql
