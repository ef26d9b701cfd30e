/-!
# Enumerations

A type with finitely many values, each known by a name of its own. Options, operators, functions and
directions are of this kind: they are listed in a fixed order and looked up by name.

Since no name is repeated, looking a name up finds exactly the value that has it.
-/

namespace ODataToSql

/-- A type with finitely many named values. -/
class Enumeration (α : Type) where
  /-- The values in the order in which they are listed. -/
  values : List α
  /-- Every value is listed. -/
  complete : ∀ a, a ∈ values
  /-- The name by which a value is known. -/
  name : α → String
  /-- No name stands for two of the values. -/
  distinct : (values.map name).Nodup

namespace Enumeration

/-- Members of a list with the same image are equal, if no image is repeated. -/
theorem eq_of_nodup_map {α β : Type} {f : α → β} {list : List α} (h : (list.map f).Nodup)
    {a b : α} (ha : a ∈ list) (hb : b ∈ list) (hab : f a = f b) : a = b := by
  induction list with
  | nil => exact absurd ha List.not_mem_nil
  | cons c rest ih =>
    obtain ⟨hc, hrest⟩ := List.nodup_cons.1 (List.map_cons ▸ h)
    rcases List.mem_cons.1 ha with hac | ha' <;> rcases List.mem_cons.1 hb with hbc | hb'
    · rw [hac, hbc]
    · exact absurd (List.mem_map_of_mem hb') (hab ▸ hac ▸ hc)
    · exact absurd (List.mem_map_of_mem ha') (hab ▸ hbc ▸ hc)
    · exact ih hrest ha' hb'

variable {α : Type} [Enumeration α]

/-- Looks a value up by its name, whose case matters. -/
def ofName? (text : String) : Option α :=
  (values (α := α)).find? fun a => name a == text

/-- Looking a name up finds the value that has it. -/
theorem ofName?_eq_some_iff {text : String} {a : α} : ofName? text = some a ↔ name a = text := by
  constructor
  · exact fun h => beq_iff_eq.1 (List.find?_some (p := fun a => name a == text) h)
  · rintro rfl
    cases h : ofName? (α := α) (name a) with
    | none =>
      exact absurd (beq_self_eq_true (name a)) (List.find?_eq_none.1 h a (complete a))
    | some b =>
      have hb : name b = name a := beq_iff_eq.1 (List.find?_some (p := fun b => name b == name a) h)
      rw [eq_of_nodup_map distinct (complete b) (complete a) hb]

/-- The name of a value leads back to it. -/
@[simp]
theorem ofName?_name (a : α) : ofName? (name a) = some a :=
  ofName?_eq_some_iff.2 rfl

end Enumeration
end ODataToSql
