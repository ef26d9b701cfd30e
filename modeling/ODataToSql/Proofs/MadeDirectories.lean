import ODataToSql.Proofs.WrittenFiles

/-!
# Directories that were made

* `Files.AddsDirectories`: directories are all that was added, and what was there before is there
  still. `Files.addsDirectories_makeDirectory`: this is what making a directory does, also where it
  fails on the way.
* `Files.read?_eq_some_iff`: where a file could be written, reading its path gives what is there.
* `Files.exists_child_of_filePlace?`: the files of two names in a directory are beside each other.
-/

namespace ODataToSql

namespace Files

variable {files made after : Files} {place other next : Place} {path text : String}

/-! ## Directories only -/

/-- Directories were added where there was nothing. -/
def AddsDirectories (files after : Files) : Prop :=
  ∀ place, after.lookup? place = files.lookup? place ∨
    files.lookup? place = none ∧ after.lookup? place = some .directory

namespace AddsDirectories

lemma refl (files : Files) : files.AddsDirectories files := fun _ => .inl rfl

lemma trans (h : files.AddsDirectories made) (h' : made.AddsDirectories after) :
    files.AddsDirectories after := by
  intro place
  rcases h place with heq | ⟨hnone, hmade⟩
  · rw [← heq]
    exact h' place
  · rcases h' place with heq | ⟨hnone', -⟩
    · exact .inr ⟨hnone, heq.trans hmade⟩
    · rw [hmade] at hnone'
      cases hnone'

/-- What was there is there still. -/
lemma lookup? (h : files.AddsDirectories after) {entry : Entry}
    (hentry : files.lookup? place = some entry) : after.lookup? place = some entry := by
  rcases h place with heq | ⟨hnone, -⟩
  · rw [heq, hentry]
  · rw [hnone] at hentry
    cases hentry

/-- The files are the same, with the same texts. -/
lemma lookup?_file_iff (h : files.AddsDirectories after) :
    after.lookup? place = some (.file text) ↔ files.lookup? place = some (.file text) := by
  rcases h place with heq | ⟨hnone, hdirectory⟩
  · rw [heq]
  · simp [hnone, hdirectory]

end AddsDirectories

lemma isBase_of_lookup?_eq_none (h : files.lookup? place = none) : place.isBase = false := by
  have hdirectory : files.isDirectory place = false := by simp [isDirectory, h]
  exact isBase_of_not_isDirectory hdirectory

lemma addsDirectories_put (h : files.lookup? place = none) :
    files.AddsDirectories (files.put place .directory) := by
  intro other
  rw [lookup?_put _ _ _ _ (isBase_of_lookup?_eq_none h)]
  by_cases heq : place = other
  · rw [if_pos heq, ← heq]
    exact .inr ⟨h, rfl⟩
  · rw [if_neg heq]
    exact .inl rfl

/-- There is nothing at the place of a step that cannot be followed. -/
lemma lookup?_newPlace? {name : String} (hfollow : files.follow? place (.down name) = none)
    (hnew : files.newPlace? place name = some next) : files.lookup? next = none := by
  unfold newPlace? at hnew
  split at hnew
  · next h =>
    cases hnew
    rw [follow?, if_pos (Bool.and_eq_true_iff.1 h).1] at hfollow
    simpa using hfollow
  · cases hnew

/-! ## Making directories -/

lemma run_enter (files : Files) (place : Place) (step : Path.Step) :
    (enter place step).run.run files =
      match files.follow? place step, step with
      | some next, _ => (some next, files)
      | none, .down name =>
        match files.newPlace? place name with
        | some next => (some next, files.put next .directory)
        | none => (none, files)
      | none, _ => (none, files) := by
  have hget : (get : Change Files).run.run files = (some files, files) := rfl
  rw [enter, run_bind, hget]
  cases hfollow : files.follow? place step with
  | some next => simp only [hfollow]; rfl
  | none =>
    cases step with
    | stay | up => simp only [hfollow]; rfl
    | down name =>
      simp only [hfollow]
      cases hnew : files.newPlace? place name <;> rfl

lemma addsDirectories_enter (files : Files) (place : Place) (step : Path.Step) :
    files.AddsDirectories ((enter place step).run.run files).2 := by
  rw [run_enter]
  split
  · exact .refl files
  · next name hfollow =>
    split
    · next next hnew => exact addsDirectories_put (lookup?_newPlace? hfollow hnew)
    · exact .refl files
  · exact .refl files

/-- One change after another adds directories only, if both do. -/
lemma addsDirectories_bind {α β : Type} {first : Change α} {next : α → Change β}
    (hfirst : ∀ files : Files, files.AddsDirectories (first.run.run files).2)
    (hnext : ∀ (a : α) (files : Files), files.AddsDirectories ((next a).run.run files).2)
    (files : Files) : files.AddsDirectories ((first >>= next).run.run files).2 := by
  have hbetween := hfirst files
  rw [run_bind]
  rcases hrun : first.run.run files with ⟨_ | a, between⟩ <;> rw [hrun] at hbetween
  · exact hbetween
  · exact hbetween.trans (hnext a between)

lemma addsDirectories_enterAll (steps : List Path.Step) (place : Place) (files : Files) :
    files.AddsDirectories ((enterAll place steps).run.run files).2 := by
  induction steps generalizing place files with
  | nil => exact .refl files
  | cons step rest ih =>
    exact addsDirectories_bind (fun files => addsDirectories_enter files place step)
      (fun next files => ih next files) files

/-- Making a directory adds directories only, whether or not it succeeds. -/
lemma addsDirectories_makeDirectory {done : Option Unit}
    (h : (makeDirectory path).run.run files = (done, made)) : files.AddsDirectories made := by
  obtain rfl : ((makeDirectory path).run.run files).2 = made := congrArg Prod.snd h
  have hguard (condition : Bool) (files : Files) :
      ((guard condition : Change Unit).run.run files).2 = files := by
    cases condition <;> rfl
  -- the directories are entered in the middle; all other steps only look at the files
  refine addsDirectories_bind (fun files => ?_) (fun _ => ?_) files
  · rw [hguard]
    exact .refl files
  · refine addsDirectories_bind (addsDirectories_enterAll _ _) (fun reached => ?_)
    refine addsDirectories_bind (fun files => .refl files) (fun found => ?_)
    refine addsDirectories_bind (fun files => .refl files) (fun place files => ?_)
    rw [hguard]
    exact .refl files

/-! ## Reading what could be written -/

lemma Keeps.refl (files : Files) : files.Keeps files := ⟨fun _ h => h, fun _ h => h⟩

/-- Where a file could be written, its path leads to what is at the place. -/
lemma read?_eq_some_iff (h : files.filePlace? path = some place) :
    files.read? path = some text ↔ files.lookup? place = some (.file text) := by
  rw [read?, locate?_of_filePlace? h (Keeps.refl files)]
  rcases hlookup : files.lookup? place with _ | _ | _ <;> simp [hlookup]

/-! ## Names beside each other -/

/-- Where files of two names in a directory could be written, they have places beside each other,
also when one of them is there already. -/
lemma exists_child_of_filePlace? {files after : Files} {directory name other : String}
    {place otherPlace : Place} (hname : '/' ∉ name.toList)
    (hstep : Path.step name.toList = .down name) (hother : '/' ∉ other.toList)
    (hotherStep : Path.step other.toList = .down other) (hkeeps : files.Keeps after)
    (h : files.filePlace? (Path.join directory name) = some place)
    (h' : after.filePlace? (Path.join directory other) = some otherPlace) :
    ∃ holder : Place, place = holder.child name ∧ otherPlace = holder.child other := by
  obtain ⟨front, hfront⟩ := Path.exists_steps_join directory
  obtain ⟨-, steps, _, holder, hsteps, hreached, -, rfl, -⟩ := exists_of_filePlace? h
  obtain ⟨-, otherSteps, _, otherHolder, hotherSteps, hotherReached, -, rfl, -⟩ :=
    exists_of_filePlace? h'
  rw [hfront name hname hstep] at hsteps
  rw [hfront other hother hotherStep] at hotherSteps
  obtain ⟨rfl, hlast⟩ := List.append_inj' hsteps rfl
  obtain ⟨rfl, hotherLast⟩ := List.append_inj' hotherSteps rfl
  cases hlast
  cases hotherLast
  rw [Path.start_join hname] at hreached
  rw [Path.start_join hother] at hotherReached
  -- the same steps lead to the same directory, before and after
  have hholder := (hkeeps.followAll hreached).symm.trans hotherReached
  cases hholder
  exact ⟨holder, rfl, rfl⟩

end Files
end ODataToSql
