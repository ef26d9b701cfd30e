import ODataToSql.Dict
import Mathlib.Data.List.Perm.Basic
import Mathlib.Data.List.Nodup
import Mathlib.Order.Lattice
import Mathlib.Data.String.Basic
import Mathlib.Tactic.Lemma

/-!
# Dictionaries as sets of entries

A dictionary is determined by what it has for each key, and it is the dictionary of its own entries.
For entries whose keys all differ it makes no difference in which order they are put in.

* `Dict.get?_eq_some_iff`: a key has a value exactly if the two are an entry.
* `Dict.ext_get?`: dictionaries with the same values are equal.
* `Dict.ofList_entries`: a dictionary that is rebuilt from its entries.
-/

namespace ODataToSql.Dict

variable {α : Type}

/-- Among entries with different keys, an entry is what is found under its key. -/
lemma find?_key_eq_some_iff {entries : List (String × α)} (h : (entries.map Prod.fst).Nodup)
    {key : String} {value : α} :
    (entries.find? fun entry => entry.1 == key).map Prod.snd = some value ↔
      (key, value) ∈ entries := by
  induction entries with
  | nil => simp
  | cons head rest ih =>
    obtain ⟨first, content⟩ := head
    obtain ⟨hfirst, hrest⟩ := List.nodup_cons.1 (List.map_cons ▸ h)
    by_cases hkey : first = key
    · subst hkey
      have hnot : (first, value) ∉ rest := fun hmem =>
        hfirst (List.mem_map.2 ⟨_, hmem, rfl⟩)
      simp [hnot, eq_comm]
    · simp [hkey, Ne.symm hkey, ih hrest]

/-- The keys of a dictionary differ. -/
lemma nodup_keys (dict : Dict α) : (dict.entries.map Prod.fst).Nodup :=
  List.pairwise_map.2 (dict.ascending.imp fun h => ne_of_lt h)

lemma get?_eq_some_iff (dict : Dict α) {key : String} {value : α} :
    dict.get? key = some value ↔ (key, value) ∈ dict.entries :=
  find?_key_eq_some_iff dict.nodup_keys

/-- Dictionaries that have the same value for every key are equal. -/
lemma ext_get? {first second : Dict α} (h : ∀ key, first.get? key = second.get? key) :
    first = second := by
  have hmem : ∀ entry, entry ∈ first.entries ↔ entry ∈ second.entries := fun (key, value) => by
    rw [← get?_eq_some_iff, ← get?_eq_some_iff, h]
  have hperm : first.entries.Perm second.entries :=
    (List.perm_ext_iff_of_nodup first.nodup_keys.of_map second.nodup_keys.of_map).2 hmem
  have heq : first.entries = second.entries :=
    hperm.eq_of_pairwise (fun _ _ _ _ hab hba => absurd hab hba.not_gt) first.ascending
      second.ascending
  cases first
  cases second
  congr

/-- The value of a key in the dictionary of entries with different keys. -/
lemma get?_ofList_of_nodup {entries : List (String × α)} (h : (entries.map Prod.fst).Nodup)
    (key : String) :
    (ofList entries).get? key = (entries.find? fun entry => entry.1 == key).map Prod.snd := by
  have hreverse : (entries.reverse.map Prod.fst).Nodup := by
    rw [List.map_reverse]
    exact List.nodup_reverse.2 h
  refine Option.ext fun value => ?_
  rw [get?_ofList, find?_key_eq_some_iff hreverse, find?_key_eq_some_iff h, List.mem_reverse]

/-- The dictionary of entries with different keys has just these entries. -/
lemma mem_entries_ofList_iff {entries : List (String × α)} (h : (entries.map Prod.fst).Nodup)
    {entry : String × α} : entry ∈ (ofList entries).entries ↔ entry ∈ entries := by
  obtain ⟨key, value⟩ := entry
  rw [← get?_eq_some_iff, get?_ofList_of_nodup h, find?_key_eq_some_iff h]

/-- Entries with different keys that all belong to a dictionary, and whose keys are all of its keys,
make up that dictionary. -/
lemma ofList_eq_of_mem {entries : List (String × α)} {dict : Dict α}
    (h : (entries.map Prod.fst).Nodup) (hmem : ∀ entry ∈ entries, entry ∈ dict.entries)
    (hkeys : ∀ entry ∈ dict.entries, entry.1 ∈ entries.map Prod.fst) : ofList entries = dict := by
  refine ext_get? fun key => Option.ext fun value => ?_
  rw [get?_ofList_of_nodup h, find?_key_eq_some_iff h, get?_eq_some_iff]
  refine ⟨hmem _, fun hvalue => ?_⟩
  obtain ⟨entry, hentry, hkey⟩ := List.mem_map.1 (hkeys _ hvalue)
  obtain ⟨own, other⟩ := entry
  obtain rfl : own = key := hkey
  have hother := dict.get?_eq_some_iff.2 (hmem _ hentry)
  rw [dict.get?_eq_some_iff.2 hvalue, Option.some_inj] at hother
  rwa [hother]

@[simp]
lemma ofList_entries (dict : Dict α) : ofList dict.entries = dict :=
  ext_get? fun key => get?_ofList_of_nodup dict.nodup_keys key

lemma eq_empty_of_isEmpty {dict : Dict α} (h : dict.isEmpty = true) : dict = .empty := by
  obtain ⟨entries, ascending⟩ := dict
  obtain rfl : entries = [] := List.isEmpty_iff.1 h
  rfl

end ODataToSql.Dict
