import ODataToSql.Document.Record
import ODataToSql.Json.Reader
import ODataToSql.Proofs.Arrangements
import ODataToSql.Proofs.JsonScalars

/-!
# JSON texts are read back

What `Json.pretty` writes is read back as it was, for values of texts, truth values and whole numbers
of 64 bits that are not too deep.

* `Json.readValue?_prettyChars`: a value in the middle of a text, by induction on the value.
* `Json.ofText?_pretty`: a value that is a text of its own.
-/

namespace ODataToSql.Json

/-- Values of texts, truth values and whole numbers of 64 bits, also inside of their arrays and
objects. -/
inductive IsExact : Json → Prop where
  | null : IsExact .null
  | bool (value : Bool) : IsExact (.bool value)
  | int {value : Int} (low : -(2 ^ 63) ≤ value) (high : value < 2 ^ 64) : IsExact (.int value)
  | string (text : String) : IsExact (.string text)
  | array {items : List Json} (items_exact : ∀ item ∈ items, IsExact item) : IsExact (.array items)
  | object {fields : List (String × Json)} (fields_exact : ∀ field ∈ fields, IsExact field.2) :
    IsExact (.object fields)

/-! ## Separators -/

lemma skipSeparators_cons {c : Char} (h : isSeparator c = false) (rest : List Char) :
    skipSeparators (c :: rest) = c :: rest :=
  List.dropWhile_cons_of_neg (by simp [h])

lemma skipSeparators_lineBreak (level : Nat) (rest : List Char) :
    skipSeparators (lineBreak level ++ rest) = skipSeparators rest := by
  refine List.dropWhile_append_of_pos fun c hc => ?_
  rcases List.mem_cons.1 hc with rfl | hc
  · rfl
  · rw [List.eq_of_mem_replicate hc]
    rfl

/-- What stands behind an item or an entry of a text on several lines: a comma or a line end. -/
def Closes (rest : List Char) : Prop :=
  ∃ c tail, rest = c :: tail ∧ (c = ',' ∨ c = '\n')

lemma Closes.ends {rest : List Char} (h : Closes rest) : Number.Ends rest := by
  obtain ⟨c, tail, rfl, rfl | rfl⟩ := h
  · intro c hc
    cases hc
    decide
  · intro c hc
    cases hc
    decide

lemma closes_comma (rest : List Char) : Closes (',' :: rest) := ⟨_, _, rfl, .inl rfl⟩

lemma closes_lineBreak (level : Nat) (rest : List Char) : Closes (lineBreak level ++ rest) :=
  ⟨_, _, rfl, .inr rfl⟩

/-! ## The readers, one step at a time -/

section

variable {fuel depth : Nat} {text body rest : List Char}

lemma readValue?_number {c : Char} (h : skipSeparators text = c :: rest)
    (hc : c.isDigit = true ∨ c = '-') :
    readValue? (fuel + 1) depth text = Number.read? (c :: rest) := by
  have hother : c ≠ 'n' ∧ c ≠ 't' ∧ c ≠ 'f' ∧ c ≠ '"' ∧ c ≠ '[' ∧ c ≠ '\x7b' := by
    refine ⟨?_, ?_, ?_, ?_, ?_, ?_⟩ <;> rintro rfl <;> revert hc <;> decide
  simp only [readValue?, h]
  split <;> simp_all

lemma readValue?_string (h : skipSeparators text = '"' :: body) :
    readValue? (fuel + 1) depth text =
      (Quoted.read? body).map fun read => ((read.1.map .string).getD .unreadable, read.2) := by
  simp only [readValue?, h]

lemma readValue?_emptyArray (h : skipSeparators text = '[' :: body)
    (hbody : skipSeparators body = ']' :: rest) :
    readValue? (fuel + 1) depth text = some (within depth (.array []), rest) := by
  simp only [readValue?, h, hbody]

lemma readValue?_array (h : skipSeparators text = '[' :: body)
    (hbody : (skipSeparators body).head? ≠ some ']') :
    readValue? (fuel + 1) depth text =
      (readItems? fuel (depth + 1) (skipSeparators body)).map fun read =>
        (within depth (.array read.1), read.2) := by
  simp only [readValue?, h]
  split
  · simp_all
  · rfl

lemma readValue?_emptyObject (h : skipSeparators text = '\x7b' :: body)
    (hbody : skipSeparators body = '\x7d' :: rest) :
    readValue? (fuel + 1) depth text = some (within depth (.object []), rest) := by
  simp only [readValue?, h, hbody]

lemma readValue?_object (h : skipSeparators text = '\x7b' :: body)
    (hbody : (skipSeparators body).head? ≠ some '\x7d') :
    readValue? (fuel + 1) depth text =
      (readEntries? fuel (depth + 1) (skipSeparators body)).map fun read =>
        (within depth (ofEntries read.1), read.2) := by
  simp only [readValue?, h]
  split
  · simp_all
  · rfl

end

/-! ## Beginnings -/

lemma exists_formatInt (n : Int) :
    ∃ c tail, formatInt n = c :: tail ∧ (c.isDigit = true ∨ c = '-') := by
  unfold formatInt
  split
  · exact ⟨_, _, rfl, .inr rfl⟩
  · obtain ⟨c, tail, hcons⟩ := List.exists_cons_of_ne_nil (Number.toDigits_ne_nil n.natAbs)
    have hdigit : c.isDigit = true := Nat.isDigit_of_mem_toDigits (by decide) (by decide)
      (hcons ▸ List.mem_cons_self : c ∈ Nat.toDigits 10 n.natAbs)
    exact ⟨c, tail, hcons, .inl hdigit⟩

/-- A value starts with neither white space nor a closing bracket. -/
lemma exists_prettyChars {json : Json} (h : json.IsExact) (level : Nat) :
    ∃ c tail, prettyChars level json = c :: tail ∧ isSeparator c = false ∧ c ≠ ']' := by
  cases h with
  | null => exact ⟨_, _, rfl, rfl, by decide⟩
  | bool value => cases value <;> exact ⟨_, _, rfl, rfl, by decide⟩
  | @int value low high =>
    obtain ⟨c, tail, hcons, hc⟩ := exists_formatInt value
    have hother : c ≠ ' ' ∧ c ≠ '\t' ∧ c ≠ '\n' ∧ c ≠ '\r' ∧ c ≠ ']' := by
      refine ⟨?_, ?_, ?_, ?_, ?_⟩ <;> rintro rfl <;> revert hc <;> decide
    obtain ⟨hblank, htab, hline, hreturn, hbracket⟩ := hother
    exact ⟨c, tail, hcons, by simp [isSeparator, hblank, htab, hline, hreturn], hbracket⟩
  | string text => exact ⟨_, _, rfl, rfl, by decide⟩
  | @array items _ => cases items <;> exact ⟨_, _, rfl, rfl, by decide⟩
  | @object fields _ => cases fields <;> exact ⟨_, _, rfl, rfl, by decide⟩

lemma skipSeparators_prettyChars {json : Json} (h : json.IsExact) (level : Nat)
    (rest : List Char) :
    skipSeparators (prettyChars level json ++ rest) = prettyChars level json ++ rest := by
  obtain ⟨c, tail, hcons, hc, -⟩ := exists_prettyChars h level
  rw [hcons, List.cons_append, skipSeparators_cons hc]

/-! ## Items and entries -/

/-- The value is read back from any text on several lines, with enough fuel and not too deep. -/
def IsRestored (json : Json) : Prop :=
  ∀ {level depth fuel : Nat} {text rest : List Char}, depth + json.height ≤ depthLimit →
    2 * (prettyChars level json).length ≤ fuel → Closes rest →
    skipSeparators text = prettyChars level json ++ rest →
    readValue? fuel depth text = some (json, rest)

lemma prettyItems_cons_cons (level : Nat) (item next : Json) (rest : List Json) :
    prettyItems level (item :: next :: rest) =
      prettyChars level item ++ ',' :: (lineBreak level ++ prettyItems level (next :: rest)) := by
  simp [prettyItems]

lemma skipSeparators_prettyItems {item : Json} (h : item.IsExact) (rest : List Json) (level : Nat)
    (tail : List Char) :
    skipSeparators (prettyItems level (item :: rest) ++ tail) =
      prettyItems level (item :: rest) ++ tail := by
  cases rest with
  | nil => exact skipSeparators_prettyChars h level tail
  | cons next rest =>
    rw [prettyItems_cons_cons, List.append_assoc, skipSeparators_prettyChars h]

lemma head?_prettyItems {item : Json} (h : item.IsExact) (rest : List Json) (level : Nat)
    (tail : List Char) : (prettyItems level (item :: rest) ++ tail).head? ≠ some ']' := by
  obtain ⟨c, body, hcons, -, hc⟩ := exists_prettyChars h level
  cases rest with
  | nil =>
    rw [prettyItems, hcons]
    exact fun h => hc (Option.some.inj h)
  | cons next rest =>
    rw [prettyItems_cons_cons, hcons]
    exact fun h => hc (Option.some.inj h)

/-- Items are read back up to the closing bracket. -/
lemma readItems?_prettyItems : ∀ {items : List Json} (_ : items ≠ [])
    (_ : ∀ item ∈ items, item.IsExact) (_ : ∀ item ∈ items, item.IsRestored)
    {level depth fuel : Nat} {text tail rest : List Char}
    (_ : ∀ item ∈ items, depth + item.height ≤ depthLimit)
    (_ : 2 * (prettyItems level items).length + 1 ≤ fuel) (_ : Closes tail)
    (_ : skipSeparators tail = ']' :: rest)
    (_ : skipSeparators text = prettyItems level items ++ tail),
    readItems? fuel depth text = some (items, rest)
  | [item], _, _, hrestored, level, depth, fuel, text, tail, rest, hdepth, hfuel, hcloses, htail,
      htext => by
    obtain ⟨fuel, rfl⟩ := Nat.exists_eq_succ_of_ne_zero (Nat.ne_zero_of_lt hfuel)
    have hitem := hrestored item List.mem_cons_self (hdepth item List.mem_cons_self)
      (Nat.le_of_succ_le_succ hfuel) hcloses htext
    rw [readItems?, hitem]
    simp only [htail]
  | item :: next :: more, _, hexact, hrestored, level, depth, fuel, text, tail, rest, hdepth, hfuel,
      hcloses, htail, htext => by
    obtain ⟨fuel, rfl⟩ := Nat.exists_eq_succ_of_ne_zero (Nat.ne_zero_of_lt hfuel)
    simp only [prettyItems_cons_cons, List.append_assoc, List.cons_append] at htext
    simp only [prettyItems_cons_cons, List.length_append, List.length_cons] at hfuel
    have hitemFuel : 2 * (prettyChars level item).length ≤ fuel := by omega
    have hmoreFuel : 2 * (prettyItems level (next :: more)).length + 1 ≤ fuel := by omega
    -- The comma ends the item, even a number.
    have hitem := hrestored item List.mem_cons_self (hdepth item List.mem_cons_self) hitemFuel
      (closes_comma _) htext
    have hexact := (List.forall_mem_cons.1 hexact).2
    have hskip := skipSeparators_prettyItems (hexact next List.mem_cons_self) more level tail
    have hmore := readItems?_prettyItems (List.cons_ne_nil next more) hexact
      (List.forall_mem_cons.1 hrestored).2 (List.forall_mem_cons.1 hdepth).2 hmoreFuel hcloses htail
      ((skipSeparators_lineBreak level _).trans hskip)
    rw [readItems?, hitem]
    simp only [skipSeparators_cons (c := ',') rfl, hmore, Option.map_some]

/-- The entries as they are read, each with its key. -/
def readEntriesOf (fields : List (String × Json)) : List (Option String × Json) :=
  fields.map fun field => (some field.1, field.2)

lemma ofEntries_readEntriesOf (fields : List (String × Json)) :
    ofEntries (readEntriesOf fields) = .object fields := by
  have hkeys : (readEntriesOf fields).mapM (fun entry => entry.1.map fun key => (key, entry.2)) =
      some fields := by
    rw [mapM_eq_some_iff, readEntriesOf, List.forall₂_map_left_iff]
    exact List.forall₂_same.2 fun _ _ => rfl
  rw [ofEntries, hkeys]

/-- An entry as it is written. -/
def prettyField (level : Nat) (field : String × Json) : List Char :=
  Quoted.encode field.1 ++ ':' :: ' ' :: prettyChars level field.2

lemma prettyFields_cons_cons (level : Nat) (field next : String × Json)
    (rest : List (String × Json)) :
    prettyFields level (field :: next :: rest) =
      prettyField level field ++ ',' :: (lineBreak level ++ prettyFields level (next :: rest)) := by
  simp [prettyFields, prettyField]

lemma skipSeparators_prettyFields (field : String × Json) (rest : List (String × Json))
    (level : Nat) (tail : List Char) :
    skipSeparators (prettyFields level (field :: rest) ++ tail) =
      prettyFields level (field :: rest) ++ tail := by
  cases rest <;> exact skipSeparators_cons rfl _

lemma head?_prettyFields (field : String × Json) (rest : List (String × Json)) (level : Nat)
    (tail : List Char) : (prettyFields level (field :: rest) ++ tail).head? ≠ some '\x7d' := by
  cases rest <;> exact fun h => nomatch h

/-- What is read behind an entry: further entries after a comma, and no more after the brace. -/
def readBehind (fuel depth : Nat) (entry : Option String × Json) (tail : List Char) :
    Option (List (Option String × Json) × List Char) :=
  match skipSeparators tail with
  | ',' :: rest =>
    (readEntries? fuel depth rest).map fun read => (entry :: read.1, read.2)
  | '\x7d' :: rest => some ([entry], rest)
  | _ => none

/-- One entry is read back, and the text behind it decides what follows. -/
lemma readEntries?_prettyField {field : String × Json} (hrestored : field.2.IsRestored)
    (hexact : field.2.IsExact) {level depth fuel : Nat} {text tail : List Char}
    (hdepth : depth + field.2.height ≤ depthLimit)
    (hfuel : 2 * (prettyField level field).length ≤ fuel) (hcloses : Closes tail)
    (htext : skipSeparators text = prettyField level field ++ tail) :
    readEntries? (fuel + 1) depth text = readBehind fuel depth (some field.1, field.2) tail := by
  obtain ⟨key, value⟩ := field
  simp only [prettyField, List.append_assoc, List.cons_append, List.length_append,
    List.length_cons] at htext hfuel
  obtain ⟨body, hbody, hkey⟩ :=
    Quoted.read?_encode key (':' :: ' ' :: (prettyChars level value ++ tail))
  rw [hbody] at htext
  have hvalueText : skipSeparators (' ' :: (prettyChars level value ++ tail)) =
      prettyChars level value ++ tail :=
    skipSeparators_prettyChars hexact level tail
  have hvalueFuel : 2 * (prettyChars level value).length ≤ fuel := by omega
  have hvalue := hrestored hdepth hvalueFuel hcloses hvalueText
  rw [readEntries?, htext]
  simp only [hkey, skipSeparators_cons (c := ':') rfl, hvalue]
  rfl

/-- Entries are read back up to the closing brace. -/
lemma readEntries?_prettyFields : ∀ {fields : List (String × Json)} (_ : fields ≠ [])
    (_ : ∀ field ∈ fields, field.2.IsExact) (_ : ∀ field ∈ fields, field.2.IsRestored)
    {level depth fuel : Nat} {text tail rest : List Char}
    (_ : ∀ field ∈ fields, depth + field.2.height ≤ depthLimit)
    (_ : 2 * (prettyFields level fields).length + 1 ≤ fuel) (_ : Closes tail)
    (_ : skipSeparators tail = '\x7d' :: rest)
    (_ : skipSeparators text = prettyFields level fields ++ tail),
    readEntries? fuel depth text = some (readEntriesOf fields, rest)
  | [field], _, hexact, hrestored, level, depth, fuel, text, tail, rest, hdepth, hfuel, hcloses,
      htail, htext => by
    obtain ⟨fuel, rfl⟩ := Nat.exists_eq_succ_of_ne_zero (Nat.ne_zero_of_lt hfuel)
    rw [readEntries?_prettyField (hrestored field List.mem_cons_self)
      (hexact field List.mem_cons_self) (hdepth field List.mem_cons_self)
      (Nat.le_of_succ_le_succ hfuel) hcloses htext, readBehind, htail]
    rfl
  | field :: next :: more, _, hexact, hrestored, level, depth, fuel, text, tail, rest, hdepth,
      hfuel, hcloses, htail, htext => by
    obtain ⟨fuel, rfl⟩ := Nat.exists_eq_succ_of_ne_zero (Nat.ne_zero_of_lt hfuel)
    simp only [prettyFields_cons_cons, List.append_assoc, List.cons_append] at htext
    simp only [prettyFields_cons_cons, List.length_append, List.length_cons] at hfuel
    have hmoreFuel : 2 * (prettyFields level (next :: more)).length + 1 ≤ fuel := by omega
    obtain ⟨hfield, hexact⟩ := List.forall_mem_cons.1 hexact
    have hskip := skipSeparators_prettyFields next more level tail
    have hmore := readEntries?_prettyFields (List.cons_ne_nil next more) hexact
      (List.forall_mem_cons.1 hrestored).2 (List.forall_mem_cons.1 hdepth).2 hmoreFuel hcloses htail
      ((skipSeparators_lineBreak level _).trans hskip)
    rw [readEntries?_prettyField (hrestored field List.mem_cons_self) hfield
      (hdepth field List.mem_cons_self) (by omega) (closes_comma _) htext, readBehind]
    simp only [skipSeparators_cons (c := ',') rfl, hmore, Option.map_some]
    rfl

/-! ## Values -/

lemma within_of_lt {depth : Nat} (h : depth < depthLimit) (value : Json) :
    within depth value = value := if_pos h

/-- There is no value without characters, hence some fuel is left for it. -/
lemma exists_fuel {json : Json} (h : json.IsExact) {level fuel : Nat}
    (hfuel : 2 * (prettyChars level json).length ≤ fuel) : ∃ lower, fuel = lower + 1 := by
  obtain ⟨c, tail, hcons, -⟩ := exists_prettyChars h level
  rw [hcons, List.length_cons] at hfuel
  exact ⟨fuel - 1, by omega⟩

/-- An array is restored if its items are. -/
lemma isRestored_array {items : List Json} (hexact : ∀ item ∈ items, item.IsExact)
    (h : ∀ item ∈ items, item.IsRestored) : (array items).IsRestored := by
  intro level depth fuel text rest hdepth hfuel hcloses htext
  obtain ⟨fuel, rfl⟩ := exists_fuel (.array hexact) hfuel
  rw [height] at hdepth
  cases items with
  | nil =>
    have hopen : skipSeparators text = '[' :: ']' :: rest := htext
    rw [readValue?_emptyArray hopen (skipSeparators_cons rfl rest), within_of_lt (by omega)]
  | cons item more =>
    have hopen : skipSeparators text = '[' :: (lineBreak (level + 1) ++
        (prettyItems (level + 1) (item :: more) ++ (lineBreak level ++ ']' :: rest))) := by
      simp [htext, prettyChars]
    have hskip := skipSeparators_prettyItems (hexact item List.mem_cons_self) more (level + 1)
      (lineBreak level ++ ']' :: rest)
    have hbody := (skipSeparators_lineBreak (level + 1) _).trans hskip
    have hhead := head?_prettyItems (hexact item List.mem_cons_self) more (level + 1)
      (lineBreak level ++ ']' :: rest)
    have hheights : ∀ inner ∈ item :: more, depth + 1 + inner.height ≤ depthLimit := by
      intro inner hinner
      have hle := heightOfItems_le_iff.1 (Nat.le_refl _) inner hinner
      omega
    -- A character is worth two steps, and the bracket that was read pays for this one.
    have hitemsFuel : 2 * (prettyItems (level + 1) (item :: more)).length + 1 ≤ fuel := by
      simp only [prettyChars, List.length_append, List.length_cons, List.length_nil] at hfuel
      omega
    have hitems := readItems?_prettyItems (List.cons_ne_nil item more) hexact h hheights
      hitemsFuel (closes_lineBreak level (']' :: rest)) (skipSeparators_lineBreak level _) hskip
    rw [readValue?_array hopen (by rwa [hbody]), hbody, hitems, Option.map_some,
      within_of_lt (by omega)]

/-- An object is restored if the values of its fields are. -/
lemma isRestored_object {fields : List (String × Json)}
    (hexact : ∀ field ∈ fields, field.2.IsExact) (h : ∀ field ∈ fields, field.2.IsRestored) :
    (object fields).IsRestored := by
  intro level depth fuel text rest hdepth hfuel hcloses htext
  obtain ⟨fuel, rfl⟩ := exists_fuel (.object hexact) hfuel
  rw [height] at hdepth
  cases fields with
  | nil =>
    have hopen : skipSeparators text = '\x7b' :: '\x7d' :: rest := htext
    rw [readValue?_emptyObject hopen (skipSeparators_cons rfl rest), within_of_lt (by omega)]
  | cons field more =>
    have hopen : skipSeparators text = '\x7b' :: (lineBreak (level + 1) ++
        (prettyFields (level + 1) (field :: more) ++ (lineBreak level ++ '\x7d' :: rest))) := by
      simp [htext, prettyChars]
    have hskip := skipSeparators_prettyFields field more (level + 1)
      (lineBreak level ++ '\x7d' :: rest)
    have hbody := (skipSeparators_lineBreak (level + 1) _).trans hskip
    have hhead := head?_prettyFields field more (level + 1) (lineBreak level ++ '\x7d' :: rest)
    have hheights : ∀ inner ∈ field :: more, depth + 1 + inner.2.height ≤ depthLimit := by
      intro inner hinner
      have hle := heightOfFields_le_iff.1 (Nat.le_refl _) inner hinner
      omega
    have hfieldsFuel : 2 * (prettyFields (level + 1) (field :: more)).length + 1 ≤ fuel := by
      simp only [prettyChars, List.length_append, List.length_cons, List.length_nil] at hfuel
      omega
    have hentries := readEntries?_prettyFields (List.cons_ne_nil field more) hexact h hheights
      hfieldsFuel (closes_lineBreak level ('\x7d' :: rest)) (skipSeparators_lineBreak level _)
      hskip
    rw [readValue?_object hopen (by rwa [hbody]), hbody, hentries, Option.map_some,
      ofEntries_readEntriesOf, within_of_lt (by omega)]

/-- Every exact value is read back from the middle of a text. -/
theorem isRestored_of_isExact {json : Json} (h : json.IsExact) : json.IsRestored := by
  induction h with
  | null =>
    intro level depth fuel text rest hdepth hfuel hcloses htext
    obtain ⟨fuel, rfl⟩ := exists_fuel .null hfuel
    have hnull : skipSeparators text = 'n' :: 'u' :: 'l' :: 'l' :: rest := htext
    simp only [readValue?, hnull]
  | bool value =>
    intro level depth fuel text rest hdepth hfuel hcloses htext
    obtain ⟨fuel, rfl⟩ := exists_fuel (.bool value) hfuel
    cases value with
    | true =>
      have htrue : skipSeparators text = 't' :: 'r' :: 'u' :: 'e' :: rest := htext
      simp only [readValue?, htrue]
    | false =>
      have hfalse : skipSeparators text = 'f' :: 'a' :: 'l' :: 's' :: 'e' :: rest := htext
      simp only [readValue?, hfalse]
  | @int value low high =>
    intro level depth fuel text rest hdepth hfuel hcloses htext
    obtain ⟨fuel, rfl⟩ := exists_fuel (.int low high) hfuel
    obtain ⟨c, tail, hcons, hc⟩ := exists_formatInt value
    have hnumber : skipSeparators text = formatInt value ++ rest := htext
    have hread := Number.read?_formatInt low high hcloses.ends
    rw [hcons, List.cons_append] at hnumber hread
    rw [readValue?_number hnumber hc, hread]
  | string text =>
    intro level depth fuel document rest hdepth hfuel hcloses htext
    obtain ⟨fuel, rfl⟩ := exists_fuel (.string text) hfuel
    obtain ⟨body, hbody, hread⟩ := Quoted.read?_encode text rest
    rw [readValue?_string (htext.trans hbody), hread]
    rfl
  | array hexact ih => exact isRestored_array hexact ih
  | object hexact ih => exact isRestored_object hexact ih

/-- A value that is written on several lines, and is not too deep, is read back from its text. -/
theorem ofText?_pretty {json : Json} (h : json.IsExact) (hheight : json.height ≤ depthLimit) :
    ofText? json.pretty = some json := by
  have htext : json.pretty.toList = prettyChars 0 json ++ ['\n'] := String.toList_ofList
  have hlength : json.pretty.length = (prettyChars 0 json).length + 1 := by
    rw [← String.length_toList, htext, List.length_append, List.length_singleton]
  have hskip : skipSeparators json.pretty.toList = prettyChars 0 json ++ ['\n'] := by
    rw [htext, skipSeparators_prettyChars h]
  have hdepth : 0 + json.height ≤ depthLimit := by rwa [Nat.zero_add]
  have hfuel : 2 * (prettyChars 0 json).length ≤ 2 * json.pretty.length + 1 := by omega
  have hread := isRestored_of_isExact h hdepth hfuel ⟨_, _, rfl, .inr rfl⟩ hskip
  simp only [ofText?, hread, Option.bind_eq_bind, Option.bind_some]
  rfl

end ODataToSql.Json
