/-!
# Dictionaries in order of their keys

A dictionary lists its entries in ascending order of key, so that two dictionaries with the same
entries are equal and are written alike.

* `insert` replaces the value of a key that is present already.
* `ofList` takes entries from first to last, hence the last value of a key stays.
* `get?` sees a dictionary as a function of the key, on which the two are described.
-/

namespace ODataToSql

/-- A finite map from texts, with its entries in ascending order of key. -/
structure Dict (α : Type) where
  /-- The entries, in ascending order of key. -/
  entries : List (String × α)
  ascending : entries.Pairwise fun a b => a.1 < b.1
deriving DecidableEq

namespace Dict

variable {α : Type}

/-- Puts an entry into a list in ascending order of key. -/
def insertEntry (key : String) (value : α) : List (String × α) → List (String × α)
  | [] => [(key, value)]
  | entry :: rest =>
    if key < entry.1 then (key, value) :: entry :: rest
    else if key = entry.1 then (key, value) :: rest
    else entry :: insertEntry key value rest

/-- An entry after the insertion is the new one or was there before. -/
theorem mem_insertEntry {key : String} {value : α} {entry : String × α}
    {entries : List (String × α)} (h : entry ∈ insertEntry key value entries) :
    entry = (key, value) ∨ entry ∈ entries := by
  induction entries with
  | nil => simpa [insertEntry] using h
  | cons head rest ih =>
    simp only [insertEntry] at h
    split at h
    · simpa using h
    · split at h
      · rcases List.mem_cons.1 h with h | h
        · exact .inl h
        · exact .inr (List.mem_cons_of_mem _ h)
      · rcases List.mem_cons.1 h with h | h
        · exact .inr (h ▸ List.mem_cons_self)
        · exact (ih h).imp id (List.mem_cons_of_mem _)

/-- Insertion keeps the order of the keys. -/
theorem pairwise_insertEntry (key : String) (value : α) {entries : List (String × α)}
    (h : entries.Pairwise fun a b => a.1 < b.1) :
    (insertEntry key value entries).Pairwise fun a b => a.1 < b.1 := by
  induction entries with
  | nil => simp [insertEntry]
  | cons head rest ih =>
    obtain ⟨hhead, hrest⟩ := List.pairwise_cons.1 h
    simp only [insertEntry]
    split
    · rename_i hlt
      refine List.pairwise_cons.2 ⟨fun entry hentry => ?_, h⟩
      rcases List.mem_cons.1 hentry with rfl | hentry
      · exact hlt
      · exact String.lt_trans hlt (hhead entry hentry)
    · rename_i hnlt
      split
      · rename_i heq
        exact List.pairwise_cons.2 ⟨fun entry hentry => heq ▸ hhead entry hentry, hrest⟩
      · rename_i hne
        refine List.pairwise_cons.2 ⟨fun entry hentry => ?_, ih hrest⟩
        rcases mem_insertEntry hentry with rfl | hentry
        · refine Decidable.byContradiction fun hn => hne ?_
          exact String.le_antisymm (String.not_lt.1 hn) (String.not_lt.1 hnlt)
        · exact hhead entry hentry

/-- The dictionary without entries. -/
def empty : Dict α := ⟨[], .nil⟩

/-- Sets the value of a key. -/
def insert (key : String) (value : α) (dict : Dict α) : Dict α :=
  ⟨insertEntry key value dict.entries, pairwise_insertEntry key value dict.ascending⟩

/-- The value of a key, if it has one. -/
def get? (dict : Dict α) (key : String) : Option α :=
  (dict.entries.find? fun entry => entry.1 == key).map Prod.snd

/-- The empty dictionary has no value for any key. -/
@[simp]
theorem get?_empty (key : String) : (empty : Dict α).get? key = none := rfl

/-- Setting the value of a key leaves the other keys as they are. -/
theorem get?_insert (dict : Dict α) (key other : String) (value : α) :
    (dict.insert key value).get? other = if key = other then some value else dict.get? other := by
  obtain ⟨entries, ascending⟩ := dict
  simp only [get?, insert]
  clear ascending
  induction entries with
  | nil => by_cases h : key = other <;> simp [insertEntry, h]
  | cons head rest ih =>
    simp only [insertEntry]
    split
    · by_cases h : key = other <;> simp [List.find?_cons, h]
    · split
      · rename_i heq
        by_cases h : key = other <;> simp [← heq, h]
      · rename_i hne
        by_cases h : head.1 = other
        · have hkey : key ≠ other := fun hkey => hne (hkey.trans h.symm)
          simp [h, hkey]
        · simpa [List.find?_cons, h] using ih

/-- The dictionary of a list of entries. Of several values of one key the last one stays. -/
def ofList (entries : List (String × α)) : Dict α :=
  entries.foldl (fun dict entry => dict.insert entry.1 entry.2) empty

/-- An entry of the dictionary of a list is an entry of the list. -/
theorem mem_of_mem_ofList {entries : List (String × α)} {entry : String × α}
    (h : entry ∈ (ofList entries).entries) : entry ∈ entries := by
  suffices ∀ dict : Dict α,
      entry ∈ (entries.foldl (fun dict entry => dict.insert entry.1 entry.2) dict).entries →
      entry ∈ dict.entries ∨ entry ∈ entries from
    (this empty h).resolve_left List.not_mem_nil
  clear h
  induction entries with
  | nil => exact fun _ => .inl
  | cons head rest ih =>
    intro dict h
    rcases ih _ h with h | h
    · rcases mem_insertEntry h with rfl | h
      · exact .inr List.mem_cons_self
      · exact .inl h
    · exact .inr (List.mem_cons_of_mem _ h)

/-- The value of a key is the one of its last entry in the list. -/
theorem get?_ofList (entries : List (String × α)) (key : String) :
    (ofList entries).get? key =
      (entries.reverse.find? fun entry => entry.1 == key).map Prod.snd := by
  suffices ∀ dict : Dict α,
      (entries.foldl (fun dict entry => dict.insert entry.1 entry.2) dict).get? key =
        ((entries.reverse.find? fun entry => entry.1 == key).map Prod.snd).or (dict.get? key) by
    simpa [ofList] using this empty
  induction entries with
  | nil => simp
  | cons head rest ih =>
    intro dict
    rw [List.foldl_cons, ih, get?_insert, List.reverse_cons, List.find?_append]
    by_cases h : head.1 = key <;>
      cases rest.reverse.find? (fun entry => entry.1 == key) <;> simp [h]

/-- Whether the dictionary has no entry. -/
def isEmpty (dict : Dict α) : Bool :=
  dict.entries.isEmpty

end Dict
end ODataToSql
