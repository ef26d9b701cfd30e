import ODataToSql.CommandLine.Program
import ODataToSql.Proofs.MadeDirectories
import ODataToSql.Proofs.StoredConfigurations

/-!
# Configurations are kept

A configuration is created where none is found, and it is found from then on, hence nothing that is
done with its directory changes it. It is looked for before the directories are made that lead to
it, though, and this overlooks a configuration whose path goes through a new directory and leaves it
again.

* `ConfigurationDirectory.store_cases`, `Program.execute_create_cases`: all that creating a
  configuration may do.
* `Program.IsSettled`: a directory with a configuration that stays as it is.
* `Program.overlooks`: a configuration is found only after the directories are made.
  `Program.NoneOverlooked`: this does not occur in a run.
* Main statement: `Program.configurations_are_kept`.
-/

namespace ODataToSql

namespace Place

variable {place other : Place} {name otherName : String}

lemma child_inj : place.child name = other.child otherName ↔ place = other ∧ name = otherName := by
  constructor
  · intro h
    obtain ⟨rfl, hname⟩ := List.append_inj' h rfl
    exact ⟨rfl, List.singleton_inj.1 hname⟩
  · rintro ⟨rfl, rfl⟩
    rfl

/-- What has a name of its own is no place where there is always a directory. -/
lemma isBase_child (hroot : name ≠ "/") (hup : name ≠ "..") :
    (place.child name).isBase = false := by
  have hne : place ++ [name] ≠ ["/"] := by
    intro h
    have hlast := congrArg List.getLast? h
    rw [List.getLast?_concat] at hlast
    exact hroot (Option.some.inj hlast)
  simp [isBase, child, hne, hup]

end Place

namespace ConfigurationDirectory

variable {files made after : Files} {directory : String} {stored : StoredConfiguration}
  {holder place : Place}

/-! ## Storing a configuration -/

/-- The files with a configuration in the directory at a place. -/
def putConfiguration (files : Files) (holder : Place) (stored : StoredConfiguration) : Files :=
  files.put (holder.child fileName) (.file stored.toJson.pretty)

/-- The files with the schema in the directory at a place. -/
def putSchema (files : Files) (holder : Place) : Files :=
  files.put (holder.child schemaFileName) (.file StoredConfiguration.schema.pretty)

/-- The place of a configuration is in a directory. -/
lemma exists_holder (h : files.filePlace? (Path.join directory fileName) = some place) :
    ∃ holder : Place, place = holder.child fileName := by
  obtain ⟨holder, hplace, -⟩ := Files.exists_child_of_filePlace? (by decide) (by decide) (by decide)
    (by decide) (Files.Keeps.refl files) h h
  exact ⟨holder, hplace⟩

/-- The place of the schema is in the directory of the configuration. -/
lemma filePlace?_schema {other : Place} (hkeeps : files.Keeps after)
    (h : files.filePlace? (Path.join directory fileName) = some (holder.child fileName))
    (h' : after.filePlace? (Path.join directory schemaFileName) = some other) :
    other = holder.child schemaFileName := by
  obtain ⟨own, hplace, rfl⟩ := Files.exists_child_of_filePlace? (by decide) (by decide) (by decide)
    (by decide) hkeeps h h'
  rw [(Place.child_inj.1 hplace).1]

/-- What storing a configuration does, step by step: the directories are made, the configuration is
written, and the schema is. It ends with the first step that fails. -/
lemma store_cases {result : Option Unit}
    (h : (store directory stored).run.run files = (result, after)) :
    ∃ done made, (Files.makeDirectory directory).run.run files = (done, made) ∧
      (result = none ∧ after = made ∨
        ∃ holder : Place, done = some () ∧
          made.filePlace? (Path.join directory fileName) = some (holder.child fileName) ∧
          (result = none ∧ after = putConfiguration made holder stored ∨
            result = some () ∧
              (putConfiguration made holder stored).filePlace?
                (Path.join directory schemaFileName) = some (holder.child schemaFileName) ∧
              after = putSchema (putConfiguration made holder stored) holder)) := by
  rw [store, Files.run_bind] at h
  rcases hmake : (Files.makeDirectory directory).run.run files with ⟨_ | _, made⟩
  · rw [hmake] at h
    cases h
    exact ⟨none, _, rfl, .inl ⟨rfl, rfl⟩⟩
  · refine ⟨some (), made, rfl, ?_⟩
    rw [hmake] at h
    dsimp only at h
    rw [Files.run_bind, Files.run_write] at h
    cases hplace : made.filePlace? (Path.join directory fileName) with
    | none =>
      rw [hplace] at h
      cases h
      exact .inl ⟨rfl, rfl⟩
    | some place =>
      -- the configuration is written, and with it the directory is the one for the schema
      obtain ⟨holder, rfl⟩ := exists_holder hplace
      have hfree := Files.not_isDirectory_of_filePlace? hplace
      rw [hplace] at h
      dsimp only at h
      rw [Files.run_write, ← putConfiguration] at h
      cases hother : (putConfiguration made holder stored).filePlace?
          (Path.join directory schemaFileName) with
      | none =>
        rw [hother] at h
        cases h
        exact .inr ⟨holder, rfl, rfl, .inl ⟨rfl, rfl⟩⟩
      | some other =>
        obtain rfl := filePlace?_schema (Files.keeps_put hfree _) hplace hother
        rw [hother] at h
        cases h
        exact .inr ⟨holder, rfl, rfl, .inr ⟨rfl, hother, rfl⟩⟩

/-- A configuration that was stored is loaded and found. -/
lemma load_of_stored (h : (store directory stored).run.run files = (some (), after)) :
    load after directory = .ok stored ∧ isTaken after directory = true := by
  have hread := read?_of_store h
  constructor
  · rw [load, hread]
    simp only [ofText?_pretty]
  · obtain ⟨place, hplace, -⟩ := Option.bind_eq_some_iff.1 hread
    rw [isTaken, Files.exists?, hplace]
    rfl

end ConfigurationDirectory

namespace Program

open ConfigurationDirectory (fileName schemaFileName isTaken load store)

/-! ## Runs -/

namespace Action

/-- One action after another: the second one starts where a successful first one ended. -/
lemma run_bind {α β : Type} (first : Action α) (next : α → Action β) (files : Files) :
    (first >>= next).run.run files =
      match first.run.run files with
      | (.ok a, after) => (next a).run.run after
      | (.error failure, after) => (.error failure, after) := by
  simp only [ExceptT.run_bind, StateT.run_bind]
  rcases first.run.run files with ⟨_ | a, after⟩ <;> rfl

lemma run_get (files : Files) : (get : Action Files).run.run files = (.ok files, files) := rfl

lemma run_perform {α : Type} (change : Files.Change α) (failure : Failure) (files : Files) :
    (perform change failure).run.run files =
      match change.run.run files with
      | (some a, after) => (.ok a, after)
      | (none, after) => (.error failure, after) := by
  simp only [perform, ExceptT.run_mk, StateT.run_bind]
  rcases change.run.run files with ⟨_ | a, after⟩ <;> rfl

end Action

/-- What an invocation comes to, and the files that it leaves. -/
def execute (files : Files) (invocation : Invocation) : Except Failure String × Files :=
  (run invocation).run.run files

variable {files after : Files} {directory : String}

lemma execute_translate (files : Files) (directory path : String) (command : Option String)
    (validate : Bool) :
    execute files (.translate directory path command validate) =
      ((translate files directory path command validate).map fun output => output.toJson.pretty,
        files) := by
  rw [execute, run, Action.run_bind, Action.run_get]
  dsimp only
  rw [Action.run_bind]
  cases htranslate : translate files directory path command validate <;> rfl

lemma execute_printSchema (files : Files) :
    execute files .printSchema = (.ok StoredConfiguration.schema.pretty, files) := rfl

lemma execute_create (files : Files) (directory : String) :
    execute files (.create directory) =
      if isTaken files directory then (.error (.configurationExists directory), files)
      else
        match (store directory .initial).run.run files with
        | (some (), after) => (.ok "", after)
        | (none, after) => (.error (.unwritable directory), after) := by
  rw [execute, run, Action.run_bind, create, Action.run_bind, Action.run_get]
  dsimp only
  by_cases htaken : isTaken files directory = true
  · rw [if_pos htaken, if_pos htaken]
    rfl
  · rw [if_neg htaken, if_neg htaken, Action.run_perform]
    rcases (store directory .initial).run.run files with ⟨_ | _, after⟩ <;> rfl

/-- A configuration is created if none is found. Otherwise nothing happens. -/
lemma execute_create_cases {answer : Except Failure String}
    (h : execute files (.create directory) = (answer, after)) :
    isTaken files directory = true ∧ answer = .error (.configurationExists directory) ∧
        after = files ∨
      isTaken files directory = false ∧ ∃ result,
        (store directory .initial).run.run files = (result, after) ∧
        (result = some () ∧ answer = .ok "" ∨
          result = none ∧ answer = .error (.unwritable directory)) := by
  rw [execute_create] at h
  cases htaken : isTaken files directory with
  | true =>
    rw [htaken, if_pos rfl] at h
    cases h
    exact .inl ⟨rfl, rfl, rfl⟩
  | false =>
    rw [htaken, if_neg Bool.false_ne_true] at h
    refine .inr ⟨rfl, ?_⟩
    rcases hstore : (store directory .initial).run.run files with ⟨_ | _, stored⟩
    · rw [hstore] at h
      cases h
      exact ⟨none, rfl, .inr ⟨rfl, rfl⟩⟩
    · rw [hstore] at h
      cases h
      exact ⟨some (), rfl, .inl ⟨rfl, rfl⟩⟩

/-- The file operations succeed by which a configuration is created. -/
def CanBeWritten (files : Files) (directory : String) : Prop :=
  ((store directory .initial).run.run files).1 = some ()

instance (files : Files) (directory : String) : Decidable (CanBeWritten files directory) :=
  inferInstanceAs (Decidable (_ = _))

/-- Where none is found and the files can be written, a configuration is created. -/
lemma exists_created (htaken : isTaken files directory = false)
    (hwritable : CanBeWritten files directory) :
    ∃ after, (store directory .initial).run.run files = (some (), after) ∧
      execute files (.create directory) = (.ok "", after) := by
  rw [execute_create, htaken, if_neg Bool.false_ne_true]
  unfold CanBeWritten at hwritable
  generalize (store directory .initial).run.run files = result at hwritable
  obtain ⟨_, after⟩ := result
  cases hwritable
  exact ⟨after, rfl, rfl⟩

/-- The files after some invocations, one after the other. -/
def filesAfter (files : Files) (invocations : List Invocation) : Files :=
  invocations.foldl (fun files invocation => (execute files invocation).2) files

/-! ## Directories with a configuration -/

/-- The invocation is about the configuration in a directory, or about none at all. -/
def IsOn (directory : String) : Invocation → Prop
  | .translate configuration _ _ _ => configuration = directory
  | .create configuration => configuration = directory
  | .printSchema => True

/-- Whatever is done with the directory, the files stay as they are, and no configuration is created
in it. -/
def IsSettled (files : Files) (directory : String) : Prop :=
  ∀ invocations : List Invocation, (∀ invocation ∈ invocations, IsOn directory invocation) →
    filesAfter files invocations = files ∧
    execute (filesAfter files invocations) (.create directory) =
      (.error (.configurationExists directory), files)

/-- A subcommand that creates nothing leaves the files as they are. -/
lemma files_of_ne_create {invocation : Invocation}
    (h : ∀ directory, invocation ≠ .create directory) : (execute files invocation).2 = files := by
  cases invocation with
  | translate directory path command validate => rw [execute_translate]
  | create directory => exact absurd rfl (h directory)
  | printSchema => rw [execute_printSchema]

lemma execute_create_of_isTaken (h : isTaken files directory = true) :
    execute files (.create directory) = (.error (.configurationExists directory), files) := by
  rw [execute_create, if_pos h]

/-- One invocation leaves the files as they are, where a configuration is found. -/
lemma files_of_isOn (h : isTaken files directory = true) {invocation : Invocation}
    (hon : IsOn directory invocation) : (execute files invocation).2 = files := by
  cases invocation with
  | translate => exact files_of_ne_create (fun _ => nofun)
  | printSchema => exact files_of_ne_create (fun _ => nofun)
  | create other =>
    cases hon
    rw [execute_create_of_isTaken h]

/-- From one invocation to all of them: the files stay those in which the configuration is found. -/
lemma isSettled_of_isTaken (h : isTaken files directory = true) : IsSettled files directory := by
  intro invocations hon
  have hfiles : filesAfter files invocations = files := by
    induction invocations with
    | nil => rfl
    | cons invocation rest ih =>
      -- the files have not changed, hence the configuration is found the next time too
      obtain ⟨hinvocation, hrest⟩ := List.forall_mem_cons.1 hon
      rw [filesAfter, List.foldl_cons, files_of_isOn h hinvocation]
      exact ih hrest
  exact ⟨hfiles, by rw [hfiles, execute_create_of_isTaken h]⟩

/-! ## Configurations that are not found -/

/-- No configuration is found at first, but there is one once the directories are made. -/
def overlooks (files : Files) : Invocation → Bool
  | .create directory =>
    !isTaken files directory &&
      match (Files.makeDirectory directory).run.run files with
      | (some (), made) => (made.read? (Path.join directory fileName)).isSome
      | (none, _) => false
  | _ => false

lemma overlooks_create_iff :
    overlooks files (.create directory) = true ↔ isTaken files directory = false ∧
      ∃ made text, (Files.makeDirectory directory).run.run files = (some (), made) ∧
        made.read? (Path.join directory fileName) = some text := by
  rw [overlooks, Bool.and_eq_true, Bool.not_eq_true']
  refine and_congr_right fun _ => ?_
  rcases (Files.makeDirectory directory).run.run files with ⟨_ | _, made⟩
  · exact ⟨fun h => (nomatch h), fun ⟨_, _, h, _⟩ => nomatch h⟩
  · constructor
    · intro h
      obtain ⟨text, htext⟩ := Option.isSome_iff_exists.1 h
      exact ⟨made, text, rfl, htext⟩
    · rintro ⟨_, text, ⟨⟩, htext⟩
      exact Option.isSome_iff_exists.2 ⟨text, htext⟩

/-- No configuration is overlooked by any of the invocations when its turn comes. -/
def NoneOverlooked : Files → List Invocation → Prop
  | _, [] => True
  | files, invocation :: rest =>
    overlooks files invocation = false ∧ NoneOverlooked (execute files invocation).2 rest

/-- What is in place of a configuration is the same, and the schema beside it has the same text. -/
structure SameConfiguration (holder : Place) (files after : Files) : Prop where
  configuration :
    after.lookup? (holder.child fileName) = files.lookup? (holder.child fileName)
  schema : ∀ text, after.lookup? (holder.child schemaFileName) = some (.file text) ↔
    files.lookup? (holder.child schemaFileName) = some (.file text)

namespace SameConfiguration

variable {holder : Place} {between : Files}

lemma refl (holder : Place) (files : Files) : SameConfiguration holder files files :=
  ⟨rfl, fun _ => Iff.rfl⟩

lemma trans (h : SameConfiguration holder files between)
    (h' : SameConfiguration holder between after) : SameConfiguration holder files after :=
  ⟨h'.configuration.trans h.configuration, fun text => (h'.schema text).trans (h.schema text)⟩

/-- Directories that are added are not in place of a configuration. -/
lemma of_addsDirectories (h : files.AddsDirectories after)
    (hfound : (files.lookup? (holder.child fileName)).isSome = true) :
    SameConfiguration holder files after where
  configuration := by
    obtain ⟨entry, hentry⟩ := Option.isSome_iff_exists.1 hfound
    rw [h.lookup? hentry, hentry]
  schema text := h.lookup?_file_iff

/-- A file in another directory is in place of neither. -/
lemma of_put {other : Place} (hne : other ≠ holder) {name : String} (hroot : name ≠ "/")
    (hup : name ≠ "..") (text : String) :
    SameConfiguration holder files (files.put (other.child name) (.file text)) where
  configuration := by
    rw [Files.lookup?_put _ _ _ _ (Place.isBase_child hroot hup),
      if_neg fun h => hne (Place.child_inj.1 h).1]
  schema _ := by
    rw [Files.lookup?_put _ _ _ _ (Place.isBase_child hroot hup),
      if_neg fun h => hne (Place.child_inj.1 h).1]

end SameConfiguration

section

variable {holder : Place} {invocation : Invocation}

/-- A configuration that is replaced was overlooked. -/
lemma overlooks_of_lookup? {made : Files} (htaken : isTaken files directory = false)
    (hmake : (Files.makeDirectory directory).run.run files = (some (), made))
    (hplace : made.filePlace? (Path.join directory fileName) = some (holder.child fileName))
    (hfound : (files.lookup? (holder.child fileName)).isSome = true) :
    overlooks files (.create directory) = true := by
  have hadds := Files.addsDirectories_makeDirectory hmake
  have hfree := Files.not_isDirectory_of_filePlace? hplace
  obtain ⟨entry, hentry⟩ := Option.isSome_iff_exists.1 hfound
  have hmade := hadds.lookup? hentry
  cases entry with
  | file text =>
    exact overlooks_create_iff.2
      ⟨htaken, made, text, hmake, (Files.read?_eq_some_iff hplace).2 hmade⟩
  | directory =>
    rw [Files.isDirectory, hmade] at hfree
    cases hfree

/-- Storing a configuration keeps the one that is at another place. -/
lemma sameConfiguration_store {place : Place} {result : Option Unit}
    (hfound : (files.lookup? (place.child fileName)).isSome = true)
    (htaken : isTaken files directory = false)
    (hnone : overlooks files (.create directory) = false)
    (hstore : (store directory .initial).run.run files = (result, after)) :
    SameConfiguration place files after := by
  obtain ⟨done, made, hmake, hstored⟩ := ConfigurationDirectory.store_cases hstore
  have hadds := Files.addsDirectories_makeDirectory hmake
  have hmade := SameConfiguration.of_addsDirectories hadds hfound
  rcases hstored with ⟨-, rfl⟩ | ⟨holder, rfl, hplace, hwritten⟩
  · exact hmade
  · -- what is written is in another directory
    have hne : holder ≠ place := by
      rintro rfl
      rw [overlooks_of_lookup? htaken hmake hplace hfound] at hnone
      cases hnone
    have hconfiguration : SameConfiguration place files
        (ConfigurationDirectory.putConfiguration made holder .initial) :=
      hmade.trans (.of_put hne (by decide) (by decide) _)
    rcases hwritten with ⟨-, rfl⟩ | ⟨-, -, rfl⟩
    · exact hconfiguration
    · exact hconfiguration.trans (.of_put hne (by decide) (by decide) _)

/-- What one invocation keeps: a configuration that is there and the schema beside it, unless it
creates another one because it overlooks a configuration. -/
lemma sameConfiguration_execute {place : Place}
    (hfound : (files.lookup? (place.child fileName)).isSome = true)
    (hnone : overlooks files invocation = false) :
    SameConfiguration place files (execute files invocation).2 := by
  by_cases hcreate : ∃ directory, invocation = .create directory
  · obtain ⟨directory, rfl⟩ := hcreate
    rcases execute_create_cases (Prod.mk.eta (p := execute files (.create directory))).symm with
      ⟨-, -, hfiles⟩ | ⟨htaken, result, hstore, -⟩
    · rw [hfiles]
      exact .refl place files
    · exact sameConfiguration_store hfound htaken hnone hstore
  · rw [files_of_ne_create (not_exists.1 hcreate)]
    exact .refl place files

/-- What a run keeps, from one invocation to the next. -/
lemma sameConfiguration_filesAfter {place : Place} {invocations : List Invocation}
    (hfound : (files.lookup? (place.child fileName)).isSome = true)
    (hnone : NoneOverlooked files invocations) :
    SameConfiguration place files (filesAfter files invocations) := by
  induction invocations generalizing files with
  | nil => exact .refl place files
  | cons invocation rest ih =>
    -- what is kept is there when the next one has its turn
    obtain ⟨hinvocation, hrest⟩ := hnone
    have hstep := sameConfiguration_execute hfound hinvocation
    exact hstep.trans (ih (hstep.configuration ▸ hfound) hrest)

/-- A configuration that is created is in place of another one just if that one is overlooked. -/
lemma replaces_iff_overlooks (h : execute files (.create directory) = (.ok "", after)) :
    ∃ place, after.locate? (Path.join directory fileName) = some place ∧
      ((files.lookup? place).isSome = true ↔ overlooks files (.create directory) = true) := by
  rcases execute_create_cases h with
    ⟨-, hfailed, -⟩ | ⟨htaken, _, hstore, ⟨rfl, -⟩ | ⟨-, hfailed⟩⟩
  · cases hfailed
  · obtain ⟨done, made, hmake,
      ⟨hnone, -⟩ | ⟨holder, rfl, hplace, ⟨hnone, -⟩ | ⟨-, hschema, rfl⟩⟩⟩ :=
      ConfigurationDirectory.store_cases hstore
    · cases hnone
    · cases hnone
    · have hfree := Files.not_isDirectory_of_filePlace? hschema
      refine ⟨holder.child fileName,
        (Files.keeps_put hfree _).locate? (Files.locate?_put_filePlace? hplace _),
        overlooks_of_lookup? htaken hmake hplace, fun hoverlooks => ?_⟩
      obtain ⟨-, found, text, hfound, htext⟩ := overlooks_create_iff.1 hoverlooks
      cases hmake.symm.trans hfound
      -- it was no part of the directories that were made
      rw [(Files.addsDirectories_makeDirectory hmake).lookup?_file_iff.1
        ((Files.read?_eq_some_iff hplace).1 htext)]
      rfl
  · cases hfailed

end

/-- One directory under one path: as soon as a configuration is found there, all subcommands leave
the files as they are, and none is created. Where the files can be written, a configuration is
created just if none is found; if it is not, the files are as they were, and if it is, it is loaded
and found from then on.

Any directories under any paths: a configuration, valid or not, and the schema beside it are kept by
every run that overlooks none. A configuration that is created replaces another one just if that one
is overlooked. -/
theorem configurations_are_kept (files : Files) (directory : String) :
    (isTaken files directory = true → IsSettled files directory) ∧
    (CanBeWritten files directory →
      ∃ answer after, execute files (.create directory) = (answer, after) ∧
        (answer = .ok "" ↔ isTaken files directory = false) ∧
        (answer ≠ .ok "" → answer = .error (.configurationExists directory) ∧ after = files) ∧
        (answer = .ok "" → load after directory = .ok .initial ∧ IsSettled after directory)) ∧
    (∀ (place : Place) (invocations : List Invocation),
      (files.lookup? (place.child fileName)).isSome = true → NoneOverlooked files invocations →
      SameConfiguration place files (filesAfter files invocations)) ∧
    (∀ after : Files, execute files (.create directory) = (.ok "", after) →
      ∃ place, after.locate? (Path.join directory fileName) = some place ∧
        ((files.lookup? place).isSome = true ↔ overlooks files (.create directory) = true)) := by
  refine ⟨isSettled_of_isTaken, fun hwritable => ?_,
    fun place invocations => sameConfiguration_filesAfter, fun after => replaces_iff_overlooks⟩
  cases htaken : isTaken files directory with
  | true =>
    exact ⟨_, _, execute_create_of_isTaken htaken, iff_of_false nofun nofun, fun _ => ⟨rfl, rfl⟩,
      nofun⟩
  | false =>
    obtain ⟨after, hstore, hafter⟩ := exists_created htaken hwritable
    obtain ⟨hload, hfound⟩ := ConfigurationDirectory.load_of_stored hstore
    exact ⟨_, _, hafter, iff_of_true rfl rfl, fun hne => absurd rfl hne,
      fun _ => ⟨hload, isSettled_of_isTaken hfound⟩⟩

/-- A text that is no configuration, in its file, and one of a schema. -/
def ownFiles : Files :=
  ⟨[(["configuration.json"], .file "mine"), (["schema.json"], .file "old")]⟩

/-- A configuration is created in a new directory. The own files are kept, also where they are
reached through a directory that another configuration was created in. -/
theorem configurations_are_kept_beside :
    IsSettled ownFiles "." ∧
    (∃ after, execute .empty (.create "settings") = (.ok "", after) ∧
      load after "settings" = .ok .initial ∧ IsSettled after "settings" ∧
      ∃ place, after.locate? (Path.join "settings" fileName) = some place ∧
        Files.empty.lookup? place = none) ∧
    SameConfiguration [] ownFiles
      (filesAfter ownFiles [.create ".", .create "other", .printSchema, .create "other/.."]) := by
  obtain ⟨-, hcreate, -, hreplaces⟩ := configurations_are_kept .empty "settings"
  obtain ⟨hsettledOwn, -, hkept, -⟩ := configurations_are_kept ownFiles "."
  have hfree : isTaken .empty "settings" = false := by decide +kernel
  obtain ⟨answer, after, hafter, hok, -, hsettled⟩ := hcreate (by decide +kernel)
  obtain rfl := hok.2 hfree
  obtain ⟨place, hplace, hiff⟩ := hreplaces after hafter
  refine ⟨hsettledOwn (by decide +kernel), ⟨after, hafter, (hsettled rfl).1, (hsettled rfl).2,
    place, hplace, ?_⟩, hkept [] _ (by decide +kernel) ?_⟩
  · rw [← Option.not_isSome_iff_eq_none, hiff]
    decide +kernel
  · exact ⟨by decide +kernel, by decide +kernel, by decide +kernel, by decide +kernel, trivial⟩

/-- There is a configuration in the directory, and none is created there. Under a path that goes
through a new directory and leaves it again, one is created all the same, and the text that was
there is lost. -/
theorem create_overwrites_mine :
    ownFiles.read? "./configuration.json" = some "mine" ∧
    execute ownFiles (.create ".") = (.error (.configurationExists "."), ownFiles) ∧
    ∃ after, execute ownFiles (.create "none/..") = (.ok "", after) ∧
      after.locate? "none/../configuration.json" = after.locate? "./configuration.json" ∧
      after.read? "./configuration.json" ≠ some "mine" := by
  have hfree : isTaken ownFiles "none/.." = false := by decide +kernel
  obtain ⟨after, hstore, hafter⟩ := exists_created hfree (by decide +kernel)
  have hlocate : after.locate? "none/../configuration.json" =
      after.locate? "./configuration.json" := by
    obtain rfl : ((store "none/.." .initial).run.run ownFiles).2 = after := congrArg Prod.snd hstore
    decide +kernel
  refine ⟨by decide +kernel, execute_create_of_isTaken (by decide +kernel), after, hafter, hlocate,
    fun hmine => ?_⟩
  -- what is loaded there now is no text of that kind
  have hread : after.read? (Path.join "none/.." fileName) = some "mine" := by
    have hjoin : Path.join "none/.." fileName = "none/../configuration.json" := by decide
    rwa [hjoin, Files.read?, hlocate]
  have hload := (ConfigurationDirectory.load_of_stored hstore).1
  have hnone : ConfigurationDirectory.ofText? "mine" = none := by decide +kernel
  rw [load, hread] at hload
  simp only [hnone] at hload
  cases hload

end Program
end ODataToSql
