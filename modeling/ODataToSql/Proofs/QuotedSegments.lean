import ODataToSql.Proofs.CommandWords
import ODataToSql.Text.Quoted

/-!
# Commands in segments

A command consists of plain text, of names in brackets and of string literals.

* `Segment.text` writes a segment as it stands in a command. `Segmented` lists are read back from
  the text of all their segments.
* `stretches`: the plain text between names and literals, where segments of plain text next to each
  other make one stretch.
* `maskQuoted_textOf`: masking leaves the plain text and nothing of the other segments, hence
  `containsWord_maskQuoted_iff`: a keyword is found if it stands in a stretch.
-/

namespace ODataToSql.Text

open Keyword

/-- A part of a command. -/
inductive Segment where
  /-- Text outside of names and literals. -/
  | plain (text : List Char)
  /-- A name in brackets. -/
  | identifier (name : List Char)
  /-- A string literal with its content. -/
  | literal (content : List Char)
deriving DecidableEq, Repr

/-- A text with every quote in it twice. -/
def doubledQuotes (content : List Char) : List Char :=
  content.flatMap fun c => if c = '\x27' then ['\x27', '\x27'] else [c]

namespace Segment

/-- The segment as it is written. -/
def text : Segment → List Char
  | plain text => text
  | identifier name => '[' :: (name ++ [']'])
  | literal content => '\x27' :: (doubledQuotes content ++ ['\x27'])

/-- Plain text opens neither a name nor a literal, and a name does not close itself. -/
def IsValid : Segment → Prop
  | plain text => '[' ∉ text ∧ '\x27' ∉ text
  | identifier name => ']' ∉ name
  | literal _ => True

instance : (segment : Segment) → Decidable segment.IsValid
  | plain _ => inferInstanceAs (Decidable (_ ∧ _))
  | identifier _ => inferInstanceAs (Decidable (¬ _))
  | literal _ => inferInstanceAs (Decidable True)

/-- Whether the segment is a string literal. -/
def isLiteral : Segment → Bool
  | literal _ => true
  | _ => false

/-- What masking leaves of a segment. -/
def masked : Segment → List Char
  | plain text => text
  | segment => List.replicate segment.text.length ' '

/-- The two segments differ at most in what is quoted. -/
inductive SameOutside : Segment → Segment → Prop
  | plain (text : List Char) : SameOutside (plain text) (plain text)
  | identifier (name other : List Char) : SameOutside (identifier name) (identifier other)
  | literal (content other : List Char) : SameOutside (literal content) (literal other)

end Segment

/-- The segments one behind the other. -/
def textOf (segments : List Segment) : List Char :=
  segments.flatMap Segment.text

/-- All segments are valid, and no literal goes on in what follows it. -/
def Segmented : List Segment → Prop
  | [] => True
  | segment :: rest =>
    segment.IsValid ∧ (segment.isLiteral = true → (textOf rest).head? ≠ some '\x27') ∧
      Segmented rest

instance decidableSegmented : (segments : List Segment) → Decidable (Segmented segments)
  | [] => inferInstanceAs (Decidable True)
  | _ :: rest =>
    have := decidableSegmented rest
    inferInstanceAs (Decidable (_ ∧ _ ∧ Segmented rest))

/-- The stretches of plain text in some segments that come behind plain text. -/
def stretchesAfter (before : List Char) : List Segment → List (List Char)
  | [] => [before]
  | .plain text :: rest => stretchesAfter (before ++ text) rest
  | _ :: rest => before :: stretchesAfter [] rest

/-- The stretches of plain text, each of them as long as it can be. -/
def stretches (segments : List Segment) : List (List Char) :=
  stretchesAfter [] segments

/-! ## Masking -/

section

variable {rest : List Char}

/-- A name ends at its bracket. -/
lemma bracketedLength?_append {name : List Char} (h : ']' ∉ name) :
    bracketedLength? (name ++ ']' :: rest) = some (name.length + 1) := by
  induction name with
  | nil => rfl
  | cons c name ih =>
    obtain ⟨hc, hname⟩ := not_or.1 (mt List.mem_cons.2 h)
    rw [List.cons_append, bracketedLength?, if_neg (Ne.symm hc), ih hname]
    rfl

/-- A literal goes on with every character that is no quote. -/
lemma literalLength?_cons {c : Char} (hc : c ≠ '\x27') :
    literalLength? (c :: rest) = (literalLength? rest).map (· + 1) := by
  rw [literalLength?]
  · rintro _ rfl
    exact absurd rfl hc
  · rintro rfl
    exact absurd rfl hc

/-- A literal ends at the first quote that is not doubled. -/
lemma literalLength?_append {content : List Char} (hrest : rest.head? ≠ some '\x27') :
    literalLength? (doubledQuotes content ++ '\x27' :: rest) =
      some ((doubledQuotes content).length + 1) := by
  induction content with
  | nil =>
    rw [doubledQuotes, List.flatMap_nil, List.nil_append, literalLength?]
    · rfl
    · rintro other rfl
      exact hrest rfl
  | cons c content ih =>
    have hcons : doubledQuotes (c :: content) =
        (if c = '\x27' then ['\x27', '\x27'] else [c]) ++ doubledQuotes content :=
      List.flatMap_cons
    by_cases hc : c = '\x27'
    · rw [hcons, if_pos hc]
      simp only [List.cons_append, List.nil_append, literalLength?, ih, List.length_cons]
    · rw [hcons, if_neg hc, List.singleton_append, List.cons_append, literalLength?_cons hc, ih]
      rfl

/-- The characters of a quoted region are masked one after the other. -/
lemma maskQuotedAfter_append (region rest : List Char) :
    maskQuotedAfter region.length (region ++ rest) =
      List.replicate region.length ' ' ++ maskQuotedAfter 0 rest := by
  induction region with
  | nil => rfl
  | cons c region ih =>
    rw [List.length_cons, List.cons_append, maskQuotedAfter, ih]
    rfl

/-- A quoted region is masked as a whole. -/
lemma maskQuotedAfter_of_quoted {c : Char} {region : List Char}
    (h : quotedLength? (c :: (region ++ rest)) = some region.length) :
    maskQuotedAfter 0 (c :: region ++ rest) =
      List.replicate (c :: region).length ' ' ++ maskQuotedAfter 0 rest := by
  rw [List.cons_append, maskQuotedAfter, h]
  dsimp only
  rw [maskQuotedAfter_append]
  rfl

/-- Plain text is left as it is. -/
lemma maskQuotedAfter_plain {plain : List Char} (hopen : '[' ∉ plain) (hquote : '\x27' ∉ plain) :
    maskQuotedAfter 0 (plain ++ rest) = plain ++ maskQuotedAfter 0 rest := by
  induction plain with
  | nil => rfl
  | cons c plain ih =>
    obtain ⟨hc, hopen⟩ := not_or.1 (mt List.mem_cons.2 hopen)
    obtain ⟨hc', hquote⟩ := not_or.1 (mt List.mem_cons.2 hquote)
    have hnone : quotedLength? (c :: (plain ++ rest)) = none := by
      rw [quotedLength?, if_neg (Ne.symm hc), if_neg (Ne.symm hc')]
    rw [List.cons_append, maskQuotedAfter, hnone]
    dsimp only
    rw [ih hopen hquote]
    rfl

end

/-- Masking leaves the plain text where it is, and blanks of all the rest. -/
lemma maskQuoted_textOf {segments : List Segment} (h : Segmented segments) :
    maskQuoted (textOf segments) = segments.flatMap Segment.masked := by
  induction segments with
  | nil => rfl
  | cons segment rest ih =>
    obtain ⟨hvalid, hliteral, hrest⟩ := h
    have ih : maskQuotedAfter 0 (textOf rest) = rest.flatMap Segment.masked := ih hrest
    have htext : textOf (segment :: rest) = segment.text ++ textOf rest := List.flatMap_cons
    rw [maskQuoted, htext, List.flatMap_cons, ← ih]
    cases segment with
    | plain text => exact maskQuotedAfter_plain hvalid.1 hvalid.2
    | identifier name =>
      refine maskQuotedAfter_of_quoted ?_
      have hlength : (name ++ [']']).length = name.length + 1 := List.length_append
      rw [hlength, List.append_assoc]
      exact bracketedLength?_append hvalid
    | literal content =>
      refine maskQuotedAfter_of_quoted ?_
      have hlength : (doubledQuotes content ++ ['\x27']).length =
        (doubledQuotes content).length + 1 := List.length_append
      rw [hlength, List.append_assoc]
      exact literalLength?_append (hliteral rfl)

/-! ## Keywords in stretches -/

/-- In a text whose quoted parts are masked, a keyword stands in one of the stretches. -/
lemma containsWord_masked {keyword : List Char} (hletters : IsLetters keyword)
    (before : List Char) (segments : List Segment) :
    containsWord keyword (before ++ segments.flatMap Segment.masked) = true ↔
      ∃ stretch ∈ stretchesAfter before segments, Occurs keyword stretch := by
  induction segments generalizing before with
  | nil => simp [stretchesAfter, containsWord_iff hletters]
  | cons segment rest ih =>
    -- a quoted segment leaves at least one blank, and no keyword goes across it
    have hquoted (count : ℕ) (hmasked : segment.masked = List.replicate (count + 1) ' ')
        (hstretches : stretchesAfter before (segment :: rest) = before :: stretchesAfter [] rest) :
        containsWord keyword (before ++ (segment :: rest).flatMap Segment.masked) = true ↔
          ∃ stretch ∈ stretchesAfter before (segment :: rest), Occurs keyword stretch := by
      have hrest := ih []
      rw [List.nil_append] at hrest
      rw [List.flatMap_cons, hmasked, containsWord_append_replicate hletters, Bool.or_eq_true,
        hrest, containsWord_iff hletters, hstretches]
      simp
    cases segment with
    | plain text =>
      have hassoc : before ++ (Segment.plain text :: rest).flatMap Segment.masked =
          before ++ text ++ rest.flatMap Segment.masked := by
        rw [List.flatMap_cons, List.append_assoc]
        rfl
      rw [hassoc]
      exact ih (before ++ text)
    | identifier name => exact hquoted _ rfl rfl
    | literal content => exact hquoted _ rfl rfl

/-- A keyword is found in a masked text if it stands in a stretch of the plain text. -/
lemma containsWord_maskQuoted_iff {keyword : List Char} (hletters : IsLetters keyword)
    {segments : List Segment} (h : Segmented segments) :
    containsWord keyword (maskQuoted (textOf segments)) = true ↔
      ∃ stretch ∈ stretches segments, Occurs keyword stretch := by
  rw [maskQuoted_textOf h]
  exact containsWord_masked hletters [] segments

/-- The stretches are the same, whatever is quoted. -/
lemma stretchesAfter_eq_of_sameOutside {segments others : List Segment}
    (h : List.Forall₂ Segment.SameOutside segments others) (before : List Char) :
    stretchesAfter before segments = stretchesAfter before others := by
  induction h generalizing before with
  | nil => rfl
  | cons hsegment _ ih =>
    cases hsegment with
    | plain text => exact ih (before ++ text)
    | identifier | literal => exact congrArg (before :: ·) (ih [])

end ODataToSql.Text
