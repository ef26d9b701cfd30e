import ODataToSql.Json.Number
import ODataToSql.Json.Printer
import Mathlib.Data.Nat.Digits.Lemmas
import Mathlib.Tactic.Lemma

/-!
# Numbers and strings in JSON texts are read back

* `Json.Number.read?_formatInt`: a whole number of 64 bits, with whatever ends it behind it.
* `Json.Quoted.read?_encode`: a string up to its closing quote, with anything behind it.
-/

namespace ODataToSql.Json

/-! ## Whole numbers -/

namespace Number

/-- What stands behind a number, so that no character of it belongs to the number. -/
def Ends (rest : List Char) : Prop :=
  ∀ c ∈ rest.head?, c.isDigit = false ∧ c ≠ '.' ∧ c ≠ 'e' ∧ c ≠ 'E'

lemma span_isDigit {digits rest : List Char} (hdigits : ∀ c ∈ digits, c.isDigit = true)
    (hrest : Ends rest) : (digits ++ rest).span Char.isDigit = (digits, rest) := by
  have hdrop : rest.dropWhile Char.isDigit = rest := by
    cases rest with
    | nil => rfl
    | cons c rest => exact List.dropWhile_cons_of_neg (by simp [(hrest c rfl).1])
  have htake : rest.takeWhile Char.isDigit = [] := by
    cases rest with
    | nil => rfl
    | cons c rest => exact List.takeWhile_cons_of_neg (by simp [(hrest c rfl).1])
  rw [List.span_eq_takeWhile_dropWhile, List.takeWhile_append_of_pos hdigits,
    List.dropWhile_append_of_pos hdigits, hdrop, htake, List.append_nil]

lemma readFraction?_of_ends {rest : List Char} (h : Ends rest) :
    readFraction? rest = some ([], rest) := by
  unfold readFraction?
  split
  · exact absurd rfl (h '.' rfl).2.1
  · rfl

lemma readExponent?_of_ends {rest : List Char} (h : Ends rest) :
    readExponent? rest = some (none, rest) := by
  cases rest with
  | nil => rfl
  | cons c rest =>
    obtain ⟨-, -, he, hE⟩ := h c rfl
    simp [readExponent?, he, hE]

lemma naturalOfDigits_append (digits : List Char) (c : Char) :
    naturalOfDigits (digits ++ [c]) = 10 * naturalOfDigits digits + digitValue c := by
  simp [naturalOfDigits]

/-- Digits whose number fits 64 bits are all taken. -/
lemma takeWhole_of_lt {digits : List Char} (h : naturalOfDigits digits < UInt64.size) :
    takeWhole digits = (naturalOfDigits digits, 0) := by
  induction digits using List.reverseRecOn with
  | nil => rfl
  | append_singleton digits c ih =>
    rw [naturalOfDigits_append] at h ⊢
    have hprefix := ih (by omega)
    rw [takeWhole] at hprefix ⊢
    rw [List.foldl_append, hprefix]
    simp [fits, h]

lemma naturalOfDigits_toDigits (n : Nat) : naturalOfDigits (Nat.toDigits 10 n) = n :=
  Nat.ofDigitChars_toDigits (by decide) (by decide)

lemma toDigits_ne_nil (n : Nat) : Nat.toDigits 10 n ≠ [] :=
  List.ne_nil_of_length_pos Nat.length_toDigits_pos

/-- Nothing but zero itself starts with a zero. -/
lemma eq_zero_of_head?_toDigits : ∀ {n : Nat}, (Nat.toDigits 10 n).head? = some '0' → n = 0 := by
  intro n
  induction n using Nat.strongRecOn with
  | ind n ih =>
    intro h
    by_cases hn : n < 10
    · rw [Nat.toDigits_of_lt_base hn] at h
      interval_cases n <;> revert h <;> decide
    · rw [Nat.toDigits_of_base_le (by decide) (Nat.le_of_not_lt hn),
        List.head?_append_of_ne_nil _ (toDigits_ne_nil _)] at h
      have hzero := ih (n / 10) (by omega) h
      omega

lemma readUnsigned?_toDigits (negative : Bool) {n : Nat} (hn : n < UInt64.size) {rest : List Char}
    (hrest : Ends rest) :
    readUnsigned? negative (Nat.toDigits 10 n ++ rest) = some (ofInteger negative n, rest) := by
  have hdigits : ∀ c ∈ Nat.toDigits 10 n, c.isDigit = true := fun c =>
    Nat.isDigit_of_mem_toDigits (by decide) (by decide)
  have hwhole : takeWhole (Nat.toDigits 10 n) = (n, 0) := by
    have hvalue := naturalOfDigits_toDigits n
    rw [takeWhole_of_lt (by rwa [hvalue]), hvalue]
  have hzero : (Nat.toDigits 10 n).head? ≠ some '0' ∨ (Nat.toDigits 10 n).length = 1 := by
    by_cases hhead : (Nat.toDigits 10 n).head? = some '0'
    · rw [eq_zero_of_head?_toDigits hhead]
      exact .inr rfl
    · exact .inl hhead
  have hguard : (!(Nat.toDigits 10 n).isEmpty && ((Nat.toDigits 10 n).head? != some '0' ||
      decide ((Nat.toDigits 10 n).length = 1))) = true := by
    have hempty : (Nat.toDigits 10 n).isEmpty = false :=
      List.isEmpty_eq_false_iff.2 (toDigits_ne_nil n)
    rw [hempty, Bool.not_false, Bool.true_and, Bool.or_eq_true, bne_iff_ne, decide_eq_true_iff]
    exact hzero
  rw [readUnsigned?, span_isDigit hdigits hrest]
  simp only [hguard, guard_true, Option.pure_def, Option.bind_eq_bind, Option.bind_some,
    readFraction?_of_ends hrest, readExponent?_of_ends hrest, ofParts, hwhole]
  rfl

/-- A whole number of 64 bits, with or without a sign, is read back. -/
theorem read?_formatInt {n : Int} (hlow : -(2 ^ 63) ≤ n) (hhigh : n < 2 ^ 64) {rest : List Char}
    (hrest : Ends rest) : read? (formatInt n ++ rest) = some (.int n, rest) := by
  have hsize : n.natAbs < UInt64.size := by
    simp only [UInt64.size]
    omega
  have hdigit : ∀ c ∈ Nat.toDigits 10 n.natAbs, c.isDigit = true := fun c =>
    Nat.isDigit_of_mem_toDigits (by decide) (by decide)
  unfold formatInt
  split
  · rename_i hneg
    have hpow : Nat.pow 2 63 = 2 ^ 63 := rfl
    have hfits : n.natAbs ≠ 0 ∧ n.natAbs ≤ Nat.pow 2 63 := by omega
    have hint : ofInteger true n.natAbs = .int n := by
      rw [ofInteger, if_neg (by simp), if_pos hfits]
      congr
      omega
    rw [List.cons_append, read?, readUnsigned?_toDigits true hsize hrest, hint]
  · rename_i hnonneg
    have hint : ofInteger false n.natAbs = .int n := by
      rw [ofInteger, if_pos (by simp)]
      congr
      omega
    obtain ⟨c, digits, hcons⟩ := List.exists_cons_of_ne_nil (toDigits_ne_nil n.natAbs)
    -- The first digit is no sign.
    have hsign : c ≠ '-' := fun hc => by
      have hfirst := hdigit c (hcons ▸ List.mem_cons_self)
      rw [hc] at hfirst
      cases hfirst
    have hread : read? (Nat.toDigits 10 n.natAbs ++ rest) =
        readUnsigned? false (Nat.toDigits 10 n.natAbs ++ rest) := by
      rw [hcons, List.cons_append, read?]
      exact fun _ h => hsign (List.cons.inj h).1
    rw [hread, readUnsigned?_toDigits false hsize hrest, hint]

end Number

/-! ## Strings -/

namespace Quoted

lemma hexValue?_hexDigit {n : Nat} (h : n < 16) : hexValue? (hexDigit n) = some n := by
  interval_cases n <;> decide

/-- A control character is read as the unit that it is written as. -/
lemma unitOfDigits?_control {c : Char} (h : c.toNat < 0x20) :
    unitOfDigits? '0' '0' (hexDigit (c.toNat / 16)) (hexDigit (c.toNat % 16)) =
      some c.toNat := by
  have hhigh := hexValue?_hexDigit (n := c.toNat / 16) (by omega)
  have hlow := hexValue?_hexDigit (n := c.toNat % 16) (by omega)
  have hzero : hexValue? '0' = some 0 := by decide
  simp only [unitOfDigits?, hhigh, hlow, hzero, Option.pure_def, Option.bind_eq_bind,
    Option.bind_some, Option.some_inj]
  omega

lemma readPieces?_letter {letter c : Char} (hletter : letter ≠ 'u')
    (h : unescape? letter = some c) (rest : List Char) :
    readPieces? ('\\' :: letter :: rest) =
      (readPieces? rest).map fun read => (.char c :: read.1, read.2) := by
  rw [readPieces?, h]
  · cases readPieces? rest <;> rfl
  · exact fun _ _ _ _ _ hu => absurd hu hletter

lemma readPieces?_unit {a b c d : Char} {code : Nat} (h : unitOfDigits? a b c d = some code)
    (rest : List Char) :
    readPieces? ('\\' :: 'u' :: a :: b :: c :: d :: rest) =
      (readPieces? rest).map fun read => (.unit code :: read.1, read.2) := by
  rw [readPieces?, h]
  cases readPieces? rest <;> rfl

lemma readPieces?_plain {c : Char} (hquote : c ≠ '"') (hslash : c ≠ '\\') (hc : ¬c.toNat < 0x20)
    (rest : List Char) :
    readPieces? (c :: rest) = (readPieces? rest).map fun read => (.char c :: read.1, read.2) := by
  rw [readPieces?.eq_def]
  split <;> simp_all

/-- What is written for a character is read as one piece, which stands for that character. -/
lemma exists_piece (c : Char) : ∃ piece : Piece,
    (∀ rest, readPieces? (encodeChar c ++ rest) =
      (readPieces? rest).map fun read => (piece :: read.1, read.2)) ∧
    ∀ pieces, join? (piece :: pieces) = (join? pieces).map (c :: ·) := by
  unfold encodeChar
  -- Seven characters have a short escape, and the other control characters go by number.
  split_ifs with hquote hslash hb hf hn hr ht hcontrol
  · exact ⟨.char '"', fun rest => readPieces?_letter (by decide) rfl rest, fun _ => hquote ▸ rfl⟩
  · exact ⟨.char '\\', fun rest => readPieces?_letter (by decide) rfl rest, fun _ => hslash ▸ rfl⟩
  · exact ⟨.char '\x08', fun rest => readPieces?_letter (by decide) rfl rest, fun _ => hb ▸ rfl⟩
  · exact ⟨.char '\x0c', fun rest => readPieces?_letter (by decide) rfl rest, fun _ => hf ▸ rfl⟩
  · exact ⟨.char '\n', fun rest => readPieces?_letter (by decide) rfl rest, fun _ => hn ▸ rfl⟩
  · exact ⟨.char '\r', fun rest => readPieces?_letter (by decide) rfl rest, fun _ => hr ▸ rfl⟩
  · exact ⟨.char '\t', fun rest => readPieces?_letter (by decide) rfl rest, fun _ => ht ▸ rfl⟩
  · refine ⟨.unit c.toNat, readPieces?_unit (unitOfDigits?_control hcontrol), fun pieces => ?_⟩
    have hhigh : isHighHalf c.toNat = false := by
      rw [isHighHalf, decide_eq_false (by omega), Bool.false_and]
    have hlow : isLowHalf c.toNat = false := by
      rw [isLowHalf, decide_eq_false (by omega), Bool.false_and]
    rw [join?.eq_def]
    simp only [hhigh, hlow, Bool.false_eq_true, if_false, Char.ofNat_toNat]
  · exact ⟨.char c, readPieces?_plain hquote hslash hcontrol, fun _ => rfl⟩

/-- The characters of a string are read back from what is written between its quotes. -/
lemma exists_pieces (text rest : List Char) : ∃ pieces : List Piece,
    readPieces? (text.flatMap encodeChar ++ '"' :: rest) = some (pieces, rest) ∧
      join? pieces = some text := by
  induction text with
  | nil => exact ⟨[], by simp [readPieces?], rfl⟩
  | cons c text ih =>
    obtain ⟨piece, hread, hjoin⟩ := exists_piece c
    obtain ⟨pieces, hpieces, htext⟩ := ih
    refine ⟨piece :: pieces, ?_, ?_⟩
    · rw [List.flatMap_cons, List.append_assoc, hread, hpieces]
      rfl
    · rw [hjoin, htext]
      rfl

/-- A string is read back up to its closing quote. -/
theorem read?_encode (text : String) (rest : List Char) :
    ∃ body, encode text ++ rest = '"' :: body ∧ read? body = some (some text, rest) := by
  obtain ⟨pieces, hpieces, hjoin⟩ := exists_pieces text.toList rest
  refine ⟨text.toList.flatMap encodeChar ++ '"' :: rest, by simp [encode], ?_⟩
  rw [read?, hpieces]
  simp [hjoin]

end Quoted
end ODataToSql.Json
