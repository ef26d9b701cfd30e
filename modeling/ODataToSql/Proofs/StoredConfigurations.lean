import ODataToSql.Proofs.ConfigurationDocuments
import ODataToSql.Proofs.WrittenFiles

/-!
# Stored configurations are loaded as they were stored

Main statement: `ConfigurationDirectory.load_of_store`. What a configuration directory holds after a
configuration was stored in it is that configuration, and a policy is read from its document by the
sets that the allow lists there stand for.
-/

namespace ODataToSql.ConfigurationDirectory

open Json (orNone)

variable {files after : Files} {directory : String} {stored : StoredConfiguration}

lemma getLast?_steps_fileName (directory : String) :
    (Path.steps (Path.join directory fileName)).getLast? = some (.down fileName) :=
  Path.getLast?_steps_join directory (by decide) (by decide)

lemma getLast?_steps_schemaFileName (directory : String) :
    (Path.steps (Path.join directory schemaFileName)).getLast? = some (.down schemaFileName) :=
  Path.getLast?_steps_join directory (by decide) (by decide)

/-- After a configuration was stored, the file of configurations holds its text. -/
lemma read?_of_store (h : (store directory stored).run.run files = (some (), after)) :
    after.read? (Path.join directory fileName) = some stored.toJson.pretty := by
  obtain ⟨_, made, -, h⟩ := Files.run_bind_eq_some_iff.1 h
  obtain ⟨_, written, hwritten, hschema⟩ := Files.run_bind_eq_some_iff.1 h
  obtain ⟨place, hplace, rfl⟩ := Files.write_eq_some_iff.1 hwritten
  obtain ⟨other, hother, rfl⟩ := Files.write_eq_some_iff.1 hschema
  have hfree := Files.not_isDirectory_of_filePlace? hother
  -- The schema is a file of another name, hence it does not replace the configuration.
  have hne : other ≠ place := by
    rintro rfl
    have hname := Files.getLast?_filePlace? hplace (getLast?_steps_fileName directory)
    rw [Files.getLast?_filePlace? hother (getLast?_steps_schemaFileName directory)] at hname
    exact absurd hname (by decide)
  rw [Files.read?_put_of_ne (Files.locate?_put_filePlace? hplace _) hfree hne,
    Files.read?_put_filePlace? hplace]

/-- A configuration that was stored is loaded as it was stored. It is used as it is if its version is
the current one, and refused with its version otherwise. A policy document says no more of an allow
list than which values are in it, where an array without items allows nothing, and only a list that
is left out allows everything by default. -/
theorem load_of_store :
    (∀ (directory : String) (stored : StoredConfiguration) (files after : Files),
      (store directory stored).run.run files = (some (), after) →
      load after directory = .ok stored ∧
      stored.use = if stored.version = 1 then .ok ⟨stored.catalogue, stored.policy⟩
        else .error ⟨stored.version⟩) ∧
    (∀ (document : Json) (policy : Policy), Policy.ofJson? document = some policy ↔
      ∃ field, document.record? Policy.fieldNames = some field ∧
        policy.options.DescribedBy (field "allowedOptions") ∧
        policy.operators.DescribedBy (field "allowedOperators") ∧
        policy.functions.DescribedBy (field "allowedFunctions") ∧
        orNone (field "maxSkip") Json.asUInt64? = some policy.maxSkip ∧
        orNone (field "maxTop") Json.asUInt64? = some policy.maxTop) ∧
    (∀ (document other : Json) (field field' : String → Option Json),
      document.record? Policy.fieldNames = some field →
      other.record? Policy.fieldNames = some field' →
      (∀ name ∈ ["allowedOptions", "allowedOperators", "allowedFunctions"],
        AllowList.SameItems (field name) (field' name)) →
      (∀ name ∈ ["maxSkip", "maxTop"], field name = field' name) →
      Policy.ofJson? document = Policy.ofJson? other) ∧
    (∀ (α : Type) [Enumeration α] (allowed : AllowList α),
      (allowed.DescribedBy (some (.array [])) ↔ ∀ a, allowed.allows a = false) ∧
      (allowed.DescribedBy none ↔ allowed = .all)) := by
  refine ⟨fun directory stored files after h => ⟨?_, rfl⟩, fun _ _ => Policy.ofJson?_eq_some_iff,
    fun _ _ _ _ => Policy.ofJson?_eq_of_sameItems,
    fun _ _ _ => ⟨AllowList.describedBy_nil, AllowList.describedBy_none⟩⟩
  rw [load, read?_of_store h]
  simp only [ofText?_pretty]

/-- A configuration of a later version, which allows no option. -/
def laterConfiguration : StoredConfiguration where
  version := 2
  catalogue := ⟨.ofList [("Products", ⟨some "[Product Id]", .ofList [("Name", "[Title]")]⟩)]⟩
  policy := { options := ⟨fun _ => false⟩, maxSkip := some 18446744073709551615 }

/-- The fields of a policy document with an allow list of options and nothing else. -/
def optionsFields (names : List String) : List (String × Json) :=
  [("allowedOptions", .array (names.map .string))]

lemma record?_optionsFields (names : List String) :
    (Json.object (optionsFields names)).record? Policy.fieldNames =
      some (Json.lookup? (optionsFields names)) := rfl

/-- It is stored in a new directory, and it is loaded from there, with nothing allowed. A policy that
allows two options is the same in either order. -/
theorem load_of_store_laterConfiguration :
    (∃ after, (store "settings" laterConfiguration).run.run .empty = (some (), after) ∧
      load after "settings" = .ok laterConfiguration ∧
      laterConfiguration.use = .error ⟨2⟩) ∧
    Policy.ofJson? (.object (optionsFields ["filter", "top"])) =
      Policy.ofJson? (.object (optionsFields ["top", "filter", "top"])) := by
  have hrun : ∃ after,
      (store "settings" laterConfiguration).run.run .empty = (some (), after) := by
    have hstore : ((store "settings" laterConfiguration).run.run .empty).1 = some () := by
      decide +kernel
    generalize (store "settings" laterConfiguration).run.run .empty = outcome at hstore ⊢
    exact ⟨outcome.2, Prod.ext hstore rfl⟩
  obtain ⟨after, hafter⟩ := hrun
  obtain ⟨hload, huse⟩ := load_of_store.1 "settings" laterConfiguration .empty after hafter
  refine ⟨⟨after, hafter, hload, huse.trans (if_neg (by decide))⟩, ?_⟩
  refine load_of_store.2.2.1 _ _ _ _ (record?_optionsFields _) (record?_optionsFields _) ?_ ?_
  · simp only [List.forall_mem_cons]
    exact ⟨.arrays (by simp [or_comm]), .same none, .same none, List.forall_mem_nil _⟩
  · simp only [List.forall_mem_cons]
    exact ⟨rfl, rfl, List.forall_mem_nil _⟩

end ODataToSql.ConfigurationDirectory
