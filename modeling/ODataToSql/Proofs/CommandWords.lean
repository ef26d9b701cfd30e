import ODataToSql.Text.Blank
import ODataToSql.Text.Keyword
import Mathlib

/-!
# White space and words in a command

What the readers of a base command find in it, said without them.

* `Unspaced`: a text that neither begins nor ends with white space. `trim_eq_iff`: trimming leaves
  the one such text between two runs of white space.
* `Keyword.Spells`: some letters are those of a keyword, in any case. `strip?_eq_some_iff`: this is
  what is stripped from a text.
* `IsBoundary`: a word begins or ends between two texts. `Keyword.Leads`: a text begins with a
  keyword that a boundary follows.
-/

namespace ODataToSql.Text

/-! ## White space -/

/-- The text consists of white space. -/
abbrev IsGap (text : List Char) : Prop := ∀ c ∈ text, isBlank c = true

/-- The text does not begin with white space. -/
abbrev StartsSolid (text : List Char) : Prop := ∀ c ∈ text.head?, isBlank c = false

/-- The text does not end with white space. -/
abbrev EndsSolid (text : List Char) : Prop := ∀ c ∈ text.getLast?, isBlank c = false

/-- The text has no white space at its ends. -/
structure Unspaced (text : List Char) : Prop where
  start : StartsSolid text
  finish : EndsSolid text

section

variable {text front gap rest : List Char}

lemma startsSolid_cons {c : Char} (h : isBlank c = false) (rest : List Char) :
    StartsSolid (c :: rest) := by
  rintro _ ⟨⟩
  exact h

lemma startsSolid_iff : StartsSolid text ↔ text.head?.any isBlank = false := by
  cases text <;> simp [StartsSolid]

lemma endsSolid_iff : EndsSolid text ↔ text.getLast?.any isBlank = false := by
  cases h : text.getLast? <;> simp [EndsSolid, h]

/-- What is left behind white space that is dropped. -/
lemma dropWhile_isBlank_eq_iff :
    text.dropWhile isBlank = rest ↔ ∃ gap, IsGap gap ∧ text = gap ++ rest ∧ StartsSolid rest := by
  constructor
  · rintro rfl
    refine ⟨text.takeWhile isBlank, fun c hc => List.mem_takeWhile_imp hc,
      List.takeWhile_append_dropWhile.symm, fun c hc => ?_⟩
    have hnot := List.head?_dropWhile_not isBlank text
    rw [Option.mem_def.1 hc] at hnot
    simpa using hnot
  · rintro ⟨gap, hgap, rfl, hrest⟩
    rw [List.dropWhile_append_of_pos hgap]
    cases rest with
    | nil => rfl
    | cons c rest => exact List.dropWhile_cons_of_neg (by simp [hrest c rfl])

lemma isGap_reverse : IsGap text.reverse ↔ IsGap text := by simp [IsGap]

lemma startsSolid_reverse : StartsSolid text.reverse ↔ EndsSolid text := by
  simp [StartsSolid, EndsSolid]

/-- What is left in front of white space that is dropped at the end. -/
lemma trimEnd_eq_iff :
    trimEnd text = front ↔ ∃ gap, IsGap gap ∧ text = front ++ gap ∧ EndsSolid front := by
  rw [trimEnd, List.reverse_eq_iff, dropWhile_isBlank_eq_iff, startsSolid_reverse]
  constructor
  · rintro ⟨gap, hgap, htext, hfront⟩
    refine ⟨gap.reverse, isGap_reverse.2 hgap, ?_, hfront⟩
    rw [← List.reverse_inj, htext]
    simp
  · rintro ⟨gap, hgap, rfl, hfront⟩
    exact ⟨gap.reverse, isGap_reverse.2 hgap, List.reverse_append, hfront⟩

/-- A text that begins with no white space begins with none after its end was trimmed. -/
lemma StartsSolid.of_append (h : StartsSolid (front ++ gap)) : StartsSolid front := by
  cases front with
  | nil => nofun
  | cons c front => exact h

/-- Trimming leaves the text between two runs of white space that has none at its own ends. -/
lemma trim_eq_iff {trimmed : List Char} :
    trim text = trimmed ↔ Unspaced trimmed ∧
      ∃ before after, IsGap before ∧ IsGap after ∧ text = before ++ trimmed ++ after := by
  rw [trim, trimEnd_eq_iff]
  constructor
  · rintro ⟨after, hafter, hdrop, hfinish⟩
    obtain ⟨before, hbefore, htext, hstart⟩ := dropWhile_isBlank_eq_iff.1 hdrop
    exact ⟨⟨hstart.of_append, hfinish⟩, before, after, hbefore, hafter,
      by rw [htext, List.append_assoc]⟩
  · rintro ⟨⟨hstart, hfinish⟩, before, after, hbefore, hafter, rfl⟩
    cases trimmed with
    | nil =>
      -- nothing but white space: all of it is dropped at once
      have hdrop : (before ++ [] ++ after).dropWhile isBlank = [] := by
        rw [List.append_nil, List.dropWhile_eq_nil_iff]
        exact List.forall_mem_append.2 ⟨hbefore, hafter⟩
      exact ⟨[], List.forall_mem_nil _, hdrop, hfinish⟩
    | cons c trimmed =>
      refine ⟨after, hafter, dropWhile_isBlank_eq_iff.2 ⟨before, hbefore, ?_, hstart⟩, hfinish⟩
      rw [List.append_assoc]

/-- A text without white space at its ends is trimmed already. -/
lemma Unspaced.trim_eq (h : Unspaced text) : trim text = text :=
  trim_eq_iff.2 ⟨h, [], [], List.forall_mem_nil _, List.forall_mem_nil _, by simp⟩

end

/-! ## Words -/

/-- A word begins or ends between the two texts: there is a word character on one side only. -/
def IsBoundary (before after : List Char) : Prop :=
  before.getLast?.any isWordCharacter ≠ after.head?.any isWordCharacter

instance (before after : List Char) : Decidable (IsBoundary before after) :=
  inferInstanceAs (Decidable (_ ≠ _))

namespace Keyword

variable {keyword word text rest : List Char}

/-- The letters of a keyword, in any case. -/
def Spells (keyword word : List Char) : Prop := word.map fold = keyword.map fold

instance (keyword word : List Char) : Decidable (Spells keyword word) :=
  inferInstanceAs (Decidable (_ = _))

lemma Spells.length_eq (h : Spells keyword word) : word.length = keyword.length := by
  simpa using congrArg List.length h

/-- The keyword in any case is what is stripped from a text. -/
lemma strip?_eq_some_iff :
    strip? keyword text = some rest ↔ ∃ word, Spells keyword word ∧ text = word ++ rest := by
  induction keyword generalizing text with
  | nil => simp [strip?, Spells, eq_comm]
  | cons k keyword ih =>
    cases text with
    | nil => simp [strip?, Spells]
    | cons c text =>
      have hcons (word : List Char) : Spells (k :: keyword) word ∧ c :: text = word ++ rest ↔
          ∃ tail, word = c :: tail ∧ fold c = fold k ∧ Spells keyword tail ∧
            text = tail ++ rest := by
        cases word with
        | nil => simp [Spells]
        | cons d word =>
          simp only [Spells, List.map_cons, List.cons.injEq, List.cons_append]
          constructor
          · rintro ⟨⟨hd, hword⟩, rfl, htext⟩
            exact ⟨word, ⟨rfl, rfl⟩, hd, hword, htext⟩
          · rintro ⟨_, ⟨rfl, rfl⟩, hd, hword, htext⟩
            exact ⟨⟨hd, hword⟩, rfl, htext⟩
      simp only [hcons]
      rw [strip?]
      by_cases hfold : fold c = fold k
      · rw [if_pos hfold, ih]
        simp [hfold]
      · simp [hfold]

/-! ### Keywords made of letters -/

lemma isWordCharacter_of_isAlpha {c : Char} (h : c.isAlpha = true) : isWordCharacter c = true := by
  have hrange : ∃ range ∈ wordCodePoints, range.1 ≤ c.toNat ∧ c.toNat ≤ range.2 := by
    rcases Bool.or_eq_true_iff.1 h with hupper | hlower
    · refine ⟨(0x41, 0x5a), .tail _ (.head _), ?_⟩
      simpa [Char.isUpper, UInt32.le_iff_toNat_le] using hupper
    · refine ⟨(0x61, 0x7a), .tail _ (.tail _ (.tail _ (.head _))), ?_⟩
      simpa [Char.isLower, UInt32.le_iff_toNat_le] using hlower
  obtain ⟨range, hmem, hrange⟩ := hrange
  exact List.any_eq_true.2 ⟨range, hmem, by simpa using hrange⟩

/-- Folding leads to a letter from letters only, two of them outside of ASCII. -/
lemma isWordCharacter_of_fold {c : Char} (h : (fold c).isAlpha = true) :
    isWordCharacter c = true := by
  unfold fold at h
  split at h
  · next hc => rw [hc]; decide +kernel
  · split at h
    · next hc => rw [hc]; decide +kernel
    · rw [Char.isAlpha_toLower_eq_isAlpha] at h
      exact isWordCharacter_of_isAlpha h

/-- What folds to something else than a letter is left as it is. -/
lemma eq_fold_of_not_isAlpha {c : Char} (h : (fold c).isAlpha = false) : fold c = c := by
  unfold fold at h ⊢
  split at h
  · cases h
  · next hlong =>
    rw [if_neg hlong]
    split at h
    · cases h
    · next hkelvin =>
      rw [if_neg hkelvin]
      refine Char.toLower_eq_of_not_isUpper fun hupper => ?_
      rw [Char.isAlpha_toLower_eq_isAlpha, Char.isAlpha, hupper] at h
      cases h

lemma eq_of_fold_eq_f {c : Char} (h : fold c = 'f') : c = 'f' ∨ c = 'F' := by
  unfold fold at h
  split at h
  · cases h
  · split at h
    · cases h
    · by_cases hupper : c.isUpper = true
      · -- lower case and back again is no change for an upper-case letter
        have hself : c.toUpper = c :=
          Char.toUpper_eq_of_not_isLower (Char.not_isLower_of_isUpper hupper)
        rw [← Char.toUpper_toLower_eq_toUpper, h] at hself
        exact .inr hself.symm
      · exact .inl (Char.toLower_eq_of_not_isUpper hupper ▸ h)

/-- The keyword is made of letters, and there is at least one. -/
structure IsLetters (keyword : List Char) : Prop where
  ne_nil : keyword ≠ []
  letters : ∀ k ∈ keyword, (fold k).isAlpha = true

lemma Spells.ne_nil (hletters : IsLetters keyword) (h : Spells keyword word) : word ≠ [] := by
  rintro rfl
  exact hletters.ne_nil (List.eq_nil_of_length_eq_zero h.length_eq.symm)

lemma Spells.forall_isWordCharacter (hletters : IsLetters keyword) (h : Spells keyword word) :
    ∀ c ∈ word, isWordCharacter c = true := by
  intro c hc
  have hfold : fold c ∈ keyword.map fold := h ▸ List.mem_map_of_mem hc
  obtain ⟨k, hk, hck⟩ := List.mem_map.1 hfold
  exact isWordCharacter_of_fold (hck ▸ hletters.letters k hk)

/-- A word ends behind a keyword if no word character follows. -/
lemma Spells.isBoundary_right (hletters : IsLetters keyword) (h : Spells keyword word)
    (before : List Char) : IsBoundary (before ++ word) rest ↔ endsWord rest = true := by
  obtain ⟨c, hlast⟩ : ∃ c, word.getLast? = some c :=
    ⟨_, List.getLast?_eq_some_getLast (h.ne_nil hletters)⟩
  have hc := h.forall_isWordCharacter hletters c (List.mem_of_getLast? hlast)
  rw [IsBoundary, List.getLast?_append, hlast]
  cases rest <;> simp [endsWord, hc]

/-- A word begins in front of a keyword if no word character precedes. -/
lemma Spells.isBoundary_left (hletters : IsLetters keyword) (h : Spells keyword word)
    (before : List Char) :
    IsBoundary before (word ++ rest) ↔ before.getLast?.any isWordCharacter = false := by
  obtain ⟨c, tail, rfl⟩ := List.exists_cons_of_ne_nil (h.ne_nil hletters)
  have hc := h.forall_isWordCharacter hletters c List.mem_cons_self
  simp [IsBoundary, hc]

/-! ### Keywords in a text -/

/-- The text begins with the letters of the keyword, and a boundary follows. -/
def Leads (keyword text : List Char) : Prop :=
  ∃ word rest, text = word ++ rest ∧ Spells keyword word ∧ IsBoundary word rest

lemma startsWithWord_eq_true_iff :
    startsWithWord keyword text = true ↔
      ∃ word rest, text = word ++ rest ∧ Spells keyword word ∧ endsWord rest = true := by
  unfold startsWithWord
  split
  · next rest hstrip =>
    obtain ⟨word, hword, rfl⟩ := strip?_eq_some_iff.1 hstrip
    constructor
    · intro hends
      exact ⟨word, rest, rfl, hword, hends⟩
    · rintro ⟨other, after, heq, hother, hafter⟩
      -- both are as long as the keyword
      obtain ⟨-, rfl⟩ := List.append_inj heq (hword.length_eq.trans hother.length_eq.symm)
      exact hafter
  · next hstrip =>
    refine iff_of_false Bool.false_ne_true ?_
    rintro ⟨word, rest, rfl, hword, -⟩
    rw [strip?_eq_some_iff.2 ⟨word, hword, rfl⟩] at hstrip
    cases hstrip

lemma startsWithWord_iff (hletters : IsLetters keyword) :
    startsWithWord keyword text = true ↔ Leads keyword text := by
  rw [startsWithWord_eq_true_iff]
  refine exists_congr fun word => exists_congr fun rest => and_congr_right fun _ =>
    and_congr_right fun hword => ?_
  exact (hword.isBoundary_right hletters []).symm

/-- The letters of the keyword stand somewhere in the text, between two boundaries. -/
def Occurs (keyword text : List Char) : Prop :=
  ∃ before word after, text = before ++ word ++ after ∧ Spells keyword word ∧
    IsBoundary before (word ++ after) ∧ IsBoundary (before ++ word) after

/-- A keyword is found behind a character where no word character is in front of it and a word ends
behind it. -/
lemma containsWordAfter_iff (hletters : IsLetters keyword) {previous : Option Char} :
    containsWordAfter keyword previous text = true ↔
      ∃ before word after, text = before ++ word ++ after ∧ Spells keyword word ∧
        (previous.toList ++ before).getLast?.any isWordCharacter = false ∧
        endsWord after = true := by
  induction text generalizing previous with
  | nil =>
    refine iff_of_false Bool.false_ne_true ?_
    rintro ⟨before, word, after, heq, hword, -⟩
    simp [hword.ne_nil hletters] at heq
  | cons c rest ih =>
    have hlast (before : List Char) : (previous.toList ++ c :: before).getLast? =
        ((some c).toList ++ before).getLast? := by
      rw [List.getLast?_append_of_ne_nil _ (List.cons_ne_nil c before)]
      rfl
    rw [containsWordAfter, Bool.or_eq_true, Bool.and_eq_true, ih, startsWithWord_eq_true_iff]
    -- the keyword stands here, or it stands further on with `c` before the rest
    constructor
    · rintro (⟨hprevious, word, after, heq, hword, hafter⟩ |
        ⟨before, word, after, rfl, hword, hbefore, hafter⟩)
      · refine ⟨[], word, after, heq, hword, ?_, hafter⟩
        cases previous with
        | none => rfl
        | some d => simpa using hprevious
      · exact ⟨c :: before, word, after, rfl, hword, hlast before ▸ hbefore, hafter⟩
    · rintro ⟨before, word, after, heq, hword, hbefore, hafter⟩
      cases before with
      | nil =>
        refine .inl ⟨?_, word, after, heq, hword, hafter⟩
        cases previous with
        | none => rfl
        | some d => simpa using hbefore
      | cons d before =>
        obtain ⟨rfl, rfl⟩ := List.cons.inj heq
        exact .inr ⟨before, word, after, rfl, hword, hlast before ▸ hbefore, hafter⟩

/-- A keyword is found where its letters stand between two boundaries. -/
lemma containsWord_iff (hletters : IsLetters keyword) :
    containsWord keyword text = true ↔ Occurs keyword text := by
  rw [containsWord, containsWordAfter_iff hletters]
  refine exists_congr fun before => exists_congr fun word => exists_congr fun after =>
    and_congr_right fun _ => and_congr_right fun hword => ?_
  rw [hword.isBoundary_left hletters, hword.isBoundary_right hletters]
  rfl

/-! ### Keywords between other characters -/

section

variable {front : List Char} {c : Char}

/-- A keyword is stripped in front of a character that is no part of a word, or not at all. -/
lemma strip?_append_cons (hletters : ∀ k ∈ keyword, (fold k).isAlpha = true)
    (hc : isWordCharacter c = false) :
    strip? keyword (front ++ c :: rest) = (strip? keyword front).map (· ++ c :: rest) := by
  induction keyword generalizing front with
  | nil => rfl
  | cons k keyword ih =>
    obtain ⟨hk, hkeyword⟩ := List.forall_mem_cons.1 hletters
    cases front with
    | nil =>
      have hfold : fold c ≠ fold k := by
        intro hfold
        rw [isWordCharacter_of_fold (hfold ▸ hk)] at hc
        cases hc
      simp [strip?, hfold]
    | cons d front =>
      rw [List.cons_append, strip?, strip?]
      split
      · exact ih hkeyword
      · rfl

lemma startsWithWord_append_cons (hletters : IsLetters keyword) (hc : isWordCharacter c = false) :
    startsWithWord keyword (front ++ c :: rest) = startsWithWord keyword front := by
  rw [startsWithWord, strip?_append_cons hletters.letters hc, startsWithWord]
  cases strip? keyword front with
  | none => rfl
  | some after => cases after <;> simp [endsWord, hc]

/-- A keyword stands on one side of a character that is no part of a word. -/
lemma containsWordAfter_append_cons (hletters : IsLetters keyword)
    (hc : isWordCharacter c = false) {previous : Option Char} :
    containsWordAfter keyword previous (front ++ c :: rest) =
      (containsWordAfter keyword previous front || containsWord keyword rest) := by
  induction front generalizing previous with
  | nil =>
    have hstart : startsWithWord keyword ([] ++ c :: rest) = startsWithWord keyword [] :=
      startsWithWord_append_cons hletters hc
    have hnil : startsWithWord keyword [] = false := by
      obtain ⟨k, tail, rfl⟩ := List.exists_cons_of_ne_nil hletters.ne_nil
      rfl
    have hprevious : containsWordAfter keyword (some c) rest = containsWord keyword rest := by
      cases rest with
      | nil => rfl
      | cons d rest => simp [containsWord, containsWordAfter, hc]
    have hcons : containsWordAfter keyword previous (c :: rest) =
        ((!previous.any isWordCharacter && startsWithWord keyword (c :: rest)) ||
          containsWordAfter keyword (some c) rest) := rfl
    rw [List.nil_append] at hstart ⊢
    rw [hcons, hstart, hnil, Bool.and_false, Bool.false_or, hprevious]
    rfl
  | cons d front ih =>
    have hstart : startsWithWord keyword (d :: front ++ c :: rest) =
        startsWithWord keyword (d :: front) :=
      startsWithWord_append_cons hletters hc
    rw [List.cons_append] at hstart ⊢
    rw [containsWordAfter, containsWordAfter, hstart, ih, Bool.or_assoc]

/-- A keyword stands in front of blanks or behind them. -/
lemma containsWord_append_replicate (hletters : IsLetters keyword) (count : ℕ) :
    containsWord keyword (front ++ (List.replicate (count + 1) ' ' ++ rest)) =
      (containsWord keyword front || containsWord keyword rest) := by
  have hblank : isWordCharacter ' ' = false := by decide +kernel
  induction count generalizing front with
  | zero => exact containsWordAfter_append_cons hletters hblank
  | succ count ih =>
    rw [List.replicate_succ, List.cons_append, containsWord,
      containsWordAfter_append_cons hletters hblank]
    have hrest : containsWord keyword (List.replicate (count + 1) ' ' ++ rest) =
        containsWord keyword rest := @ih []
    rw [hrest]
    rfl

end

end Keyword
end ODataToSql.Text
