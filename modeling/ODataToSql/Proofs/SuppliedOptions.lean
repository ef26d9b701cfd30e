import ODataToSql.Proofs.FirstViolation
import ODataToSql.Proofs.PolicyCheck
import ODataToSql.Proofs.QueryDocuments

/-!
# Which options a sequence of pairs supplies

The raw values of a sequence of keys and texts have a text for the options whose keys occur in the
sequence, and for no other. A pair with the key of no option leaves no trace, so it can stand
anywhere in the sequence or be left out, and a query is judged as it is without such pairs.

* `IsLast`: a text is the last one of a key.
* `optionPairs`: the pairs that have the key of an option.
* `check_congr_of_contains`: of the raw values, a policy only looks at which options they have.
* The main result is `ofPairs_keeps_optionPairs`.
-/

namespace ODataToSql

/-- The key is that of an option. -/
def IsOptionKey (key : String) : Prop :=
  ∃ option : QueryOption, option.key = key

instance : DecidablePred IsOptionKey := fun key =>
  decidable_of_iff ((QueryOption.ofKey? key).isSome = true) <| by
    simp only [Option.isSome_iff_exists, QueryOption.ofKey?_eq_some_iff, IsOptionKey]

/-- The pairs whose keys are those of options, in the order of the sequence. -/
def optionPairs (pairs : List (String × String)) : List (String × String) :=
  pairs.filter fun pair => IsOptionKey pair.1

/-- A pair of the sequence has the key of the option. -/
def Supplies (pairs : List (String × String)) (option : QueryOption) : Prop :=
  ∃ text, (option.key, text) ∈ pairs

/-- The sequence has the text under the key, and no other one behind it. -/
def IsLast (pairs : List (String × String)) (key text : String) : Prop :=
  ∃ before after, pairs = before ++ (key, text) :: after ∧ ∀ pair ∈ after, pair.1 ≠ key

/-! ## The last text of a key -/

lemma find?_reverse_eq_some_iff {pairs : List (String × String)} {key text : String} :
    (pairs.reverse.find? fun pair => pair.1 == key).map Prod.snd = some text ↔
      IsLast pairs key text := by
  unfold IsLast
  rw [Option.map_eq_some_iff]
  constructor
  · rintro ⟨⟨own, text⟩, hfind, rfl⟩
    -- what is passed over from the back stands behind the pair that is found
    obtain ⟨hkey, after, before, hreverse, hafter⟩ := List.find?_eq_some_iff_append.1 hfind
    obtain rfl : own = key := beq_iff_eq.1 hkey
    refine ⟨before.reverse, after.reverse, ?_, ?_⟩
    · rw [← List.reverse_reverse pairs, hreverse]
      simp
    · intro pair hmem
      simpa using hafter pair (List.mem_reverse.1 hmem)
  · rintro ⟨before, after, rfl, hafter⟩
    refine ⟨(key, text), List.find?_eq_some_iff_append.2 ⟨beq_self_eq_true key, after.reverse,
      before.reverse, ?_, ?_⟩, rfl⟩
    · simp
    · intro pair hmem
      simpa using hafter pair (List.mem_reverse.1 hmem)

namespace RawValues

/-! ## Raw values of a sequence -/

variable {pairs : List (String × String)}

lemma get?_ofPairs_eq_some_iff {option : QueryOption} {text : String} :
    (ofPairs pairs).get? option = some text ↔ IsLast pairs option.key text := by
  rw [get?_ofPairs, find?_reverse_eq_some_iff]

lemma contains_ofPairs {option : QueryOption} :
    (ofPairs pairs).contains option = true ↔ Supplies pairs option := by
  unfold contains Supplies
  rw [get?_ofPairs, Option.isSome_map, List.find?_isSome]
  constructor
  · rintro ⟨⟨key, text⟩, hmem, hkey⟩
    obtain rfl : key = option.key := beq_iff_eq.1 hkey
    exact ⟨text, List.mem_reverse.1 hmem⟩
  · rintro ⟨text, hmem⟩
    exact ⟨_, List.mem_reverse.2 hmem, beq_self_eq_true option.key⟩

lemma isEmpty_ofPairs :
    (ofPairs pairs).isEmpty = true ↔ ∀ pair ∈ pairs, ¬ IsOptionKey pair.1 := by
  have hnone : (ofPairs pairs).isEmpty = true ↔ ∀ option, ¬ Supplies pairs option := by
    simp only [isEmpty, List.all_eq_true, Bool.not_eq_true', ← Bool.not_eq_true, contains_ofPairs]
    exact ⟨fun h option => h option (Enumeration.complete option), fun h option _ => h option⟩
  rw [hnone]
  constructor
  · rintro h ⟨key, text⟩ hmem ⟨option, rfl⟩
    exact h option ⟨text, hmem⟩
  · rintro h option ⟨text, hmem⟩
    exact h _ hmem ⟨option, rfl⟩

/-! ## Pairs without an option -/

/-- A pair with the key of no option changes nothing. -/
lemma addPair_of_not_isOptionKey {pair : String × String} (h : ¬ IsOptionKey pair.1)
    (values : RawValues) : values.addPair pair = values := by
  unfold addPair
  cases hkey : QueryOption.ofKey? pair.1 with
  | none => rfl
  | some option => exact absurd ⟨option, QueryOption.ofKey?_eq_some_iff.1 hkey⟩ h

/-- So the raw values are those of the pairs with the key of an option. -/
lemma ofPairs_optionPairs (pairs : List (String × String)) :
    ofPairs (optionPairs pairs) = ofPairs pairs := by
  -- a fold over a filtered list skips what the filter leaves out, and so does each step by itself
  have hstep (values : RawValues) (pair : String × String) :
      (if decide (IsOptionKey pair.1) = true then values.addPair pair else values) =
        values.addPair pair := by
    by_cases h : IsOptionKey pair.1
    · rw [if_pos (decide_eq_true h)]
    · rw [if_neg (by simpa using h), addPair_of_not_isOptionKey h]
  unfold ofPairs optionPairs
  rw [List.foldl_filter]
  simp only [hstep]

end RawValues

lemma supplies_optionPairs {pairs : List (String × String)} {option : QueryOption} :
    Supplies (optionPairs pairs) option ↔ Supplies pairs option := by
  rw [← RawValues.contains_ofPairs, RawValues.ofPairs_optionPairs, RawValues.contains_ofPairs]

/-! ## Queries with raw values -/

section Query

variable {first second : RawValues} (h : ∀ option, first.contains option = second.contains option)
  (query : Query)

include h

lemma hasOption_congr_of_contains (option : QueryOption) :
    { query with rawValues := first }.hasOption option =
      { query with rawValues := second }.hasOption option :=
  congrArg (query.hasTyped option || ·) (h option)

/-- Of the raw values, a policy only looks at which options they have. -/
lemma check_congr_of_contains (policy : Policy) :
    Policy.check policy { query with rawValues := first } =
      Policy.check policy { query with rawValues := second } := by
  have hfeatures : Policy.optionFeatures { query with rawValues := first } =
      Policy.optionFeatures { query with rawValues := second } := by
    funext option
    have hvalue : Policy.valueFeatures { query with rawValues := first } option =
        Policy.valueFeatures { query with rawValues := second } option := by
      cases option <;> rfl
    unfold Policy.optionFeatures
    rw [hasOption_congr_of_contains h query option, hvalue]
  rw [Policy.check_eq_scan, Policy.check_eq_scan, Query.features, Query.features, hfeatures]

end Query

/-- The query with the raw values of a sequence. -/
def Query.withPairs (query : Query) (pairs : List (String × String)) : Query :=
  { query with rawValues := .ofPairs pairs }

/-- An option that is supplied does not pass unseen. -/
lemma allows_of_supplies {pairs : List (String × String)} {query : Query} {policy : Policy}
    (hcheck : Policy.check policy (query.withPairs pairs) = .ok ()) {option : QueryOption}
    (h : Supplies pairs option) : policy.options.allows option = true := by
  refine (Policy.check_eq_ok_iff.1 hcheck option ?_).1
  rw [Query.hasOption, Bool.or_eq_true]
  exact .inr (RawValues.contains_ofPairs.2 h)

namespace RawValues

/-- The raw values of a sequence have the options whose keys occur in it and no other, each with the
last text under its key; there are none if no key is that of an option. Under their keys they have
the same texts, and they are the raw values of what stands there.

Pairs with the key of no option can be put in, left out and moved: as long as the pairs with the key
of an option stay in their order, the raw values are the same, and so are the options of a query
that has them and what a policy says of it. For a policy it is enough that the same options are
supplied, and an option that is supplied has to be allowed. -/
theorem ofPairs_keeps_optionPairs (pairs : List (String × String)) :
    (∀ option, ((ofPairs pairs).contains option = true ↔ Supplies pairs option) ∧
      ∀ text, (ofPairs pairs).get? option = some text ↔ IsLast pairs option.key text) ∧
    ((ofPairs pairs).isEmpty = true ↔ ∀ pair ∈ pairs, ¬ IsOptionKey pair.1) ∧
    ((∀ key text, (ofPairs pairs).toDict.get? key = some text ↔
        IsOptionKey key ∧ IsLast pairs key text) ∧
      ofPairs (ofPairs pairs).toDict.entries = ofPairs pairs) ∧
    (∀ other, optionPairs other = optionPairs pairs →
      ofPairs other = ofPairs pairs ∧ ∀ query : Query,
        (∀ option, (query.withPairs other).hasOption option =
          (query.withPairs pairs).hasOption option) ∧
        ∀ policy, Policy.check policy (query.withPairs other) =
          Policy.check policy (query.withPairs pairs)) ∧
    ∀ (query : Query) (policy : Policy),
      (∀ other, (∀ option, Supplies other option ↔ Supplies pairs option) →
        Policy.check policy (query.withPairs other) =
          Policy.check policy (query.withPairs pairs)) ∧
      (Policy.check policy (query.withPairs pairs) = .ok () →
        ∀ option, Supplies pairs option → policy.options.allows option = true) := by
  have hcontains {other : List (String × String)}
      (h : ∀ option, Supplies other option ↔ Supplies pairs option) (option : QueryOption) :
      (ofPairs other).contains option = (ofPairs pairs).contains option :=
    Bool.eq_iff_iff.2 (by rw [contains_ofPairs, contains_ofPairs, h])
  refine ⟨fun option => ⟨contains_ofPairs, fun text => get?_ofPairs_eq_some_iff⟩, isEmpty_ofPairs,
    ⟨fun key text => ?_, ofPairs_toDict _⟩, fun other hother => ?_, fun query policy =>
    ⟨fun other hother => check_congr_of_contains (hcontains hother) query policy,
      fun hcheck option => allows_of_supplies hcheck⟩⟩
  · rw [get?_toDict_eq_some_iff]
    constructor
    · rintro ⟨option, rfl, htext⟩
      exact ⟨⟨option, rfl⟩, get?_ofPairs_eq_some_iff.1 htext⟩
    · rintro ⟨⟨option, rfl⟩, hlast⟩
      exact ⟨option, rfl, get?_ofPairs_eq_some_iff.2 hlast⟩
  · have hsupplies : ∀ option, Supplies other option ↔ Supplies pairs option := by
      intro option
      rw [← supplies_optionPairs, hother, supplies_optionPairs]
    refine ⟨?_, fun query => ⟨hasOption_congr_of_contains (hcontains hsupplies) query,
      check_congr_of_contains (hcontains hsupplies) query⟩⟩
    rw [← ofPairs_optionPairs other, hother, ofPairs_optionPairs]

/-- A filter that is given twice, among pairs without an option. -/
def givenTwice : List (String × String) :=
  [("$filter", "Id eq 1"), ("$custom", "1"), ("$filter", "Id eq 2"), ("filter", "x")]

/-- The same filters among others of such pairs. -/
def givenAmongOthers : List (String × String) :=
  [("$Top", "9"), ("$filter", "Id eq 1"), ("$filter", "Id eq 2"), ("$custom", "2")]

/-- The policy that allows no option but a filter. -/
def filtersOnly : Policy where
  options := .ofList [.filter]

/-- All users. -/
def allUsers : Query where
  entityType := "User"

set_option maxRecDepth 10000 in
/-- The last filter stays. It is the only option, so it is the only one that has to be allowed. -/
theorem ofPairs_givenTwice :
    ((ofPairs givenTwice).contains .filter = true ∧
      (ofPairs givenTwice).get? .filter = some "Id eq 2") ∧
    (ofPairs [("$Top", "9"), ("filter", "x")]).isEmpty = true ∧
    (ofPairs givenTwice).toDict.get? "$filter" = some "Id eq 2" ∧
    (optionPairs givenAmongOthers = optionPairs givenTwice ∧
      ofPairs givenAmongOthers = ofPairs givenTwice ∧
      (allUsers.withPairs givenAmongOthers).hasOption .filter =
        (allUsers.withPairs givenTwice).hasOption .filter ∧
      Policy.check filtersOnly (allUsers.withPairs givenAmongOthers) =
        Policy.check filtersOnly (allUsers.withPairs givenTwice)) ∧
    ((∀ option, Supplies [("$filter", "")] option ↔ Supplies givenTwice option) ∧
      Policy.check filtersOnly (allUsers.withPairs [("$filter", "")]) =
        Policy.check filtersOnly (allUsers.withPairs givenTwice)) ∧
    Policy.check filtersOnly (allUsers.withPairs givenTwice) = .ok () ∧
    Supplies givenTwice .filter ∧ filtersOnly.options.allows .filter = true := by
  have hsupplies : Supplies givenTwice .filter := ⟨"Id eq 1", by decide⟩
  have hlast : IsLast givenTwice QueryOption.filter.key "Id eq 2" :=
    ⟨[("$filter", "Id eq 1"), ("$custom", "1")], [("filter", "x")], by decide, by decide⟩
  have hsame : optionPairs givenAmongOthers = optionPairs givenTwice := by decide
  have honly : ∀ option, Supplies [("$filter", "")] option ↔ Supplies givenTwice option := by
    intro option
    rw [← contains_ofPairs, ← contains_ofPairs]
    cases option <;> decide
  have hcheck : Policy.check filtersOnly (allUsers.withPairs givenTwice) = .ok () := by rfl
  obtain ⟨hoption, -, ⟨hdict, -⟩, hmoved, hpolicy⟩ := ofPairs_keeps_optionPairs givenTwice
  obtain ⟨hequal, hquery⟩ := hmoved givenAmongOthers hsame
  exact ⟨⟨(hoption .filter).1.2 hsupplies, ((hoption .filter).2 _).2 hlast⟩,
    (ofPairs_keeps_optionPairs _).2.1.2 (by decide),
    (hdict _ _).2 ⟨⟨.filter, rfl⟩, hlast⟩,
    ⟨hsame, hequal, (hquery allUsers).1 .filter, (hquery allUsers).2 filtersOnly⟩,
    ⟨honly, (hpolicy allUsers filtersOnly).1 _ honly⟩,
    hcheck, hsupplies, (hpolicy allUsers filtersOnly).2 hcheck .filter hsupplies⟩

end RawValues
end ODataToSql
