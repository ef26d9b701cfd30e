import ODataToSql.Storage.Files
import Mathlib.Data.List.Basic
import Mathlib.Data.Option.Basic

/-!
# Files that were written are read back

* `Files.Keeps`: what was there is still there. A file that is put where there is no directory keeps
  everything else, hence paths lead where they led before.
* `Files.read?_put_filePlace?`: what is written under a path is read under it.
* `Files.read?_put_of_ne`: writing one file leaves another one as it is.
* `Path.exists_steps_join`: the paths of the names in a directory differ in their last step only.
-/

namespace ODataToSql

namespace Files

variable {files after : Files} {place other : Place} {path text : String}

/-! ## Following paths among more files -/

/-- Whatever is there in the one is there in the other too, and directories are directories. -/
structure Keeps (files after : Files) : Prop where
  directory : ∀ place, files.isDirectory place = true → after.isDirectory place = true
  present : ∀ place, (files.lookup? place).isSome = true → (after.lookup? place).isSome = true

lemma isBase_of_not_isDirectory (h : files.isDirectory place = false) : place.isBase = false := by
  cases hbase : place.isBase with
  | false => rfl
  | true => simp [isDirectory, lookup?, hbase] at h

/-- A file where there is no directory is in the way of nothing. -/
lemma keeps_put (h : files.isDirectory place = false) (text : String) :
    files.Keeps (files.put place (.file text)) := by
  have hbase := isBase_of_not_isDirectory h
  refine ⟨fun other hother => ?_, fun other hother => ?_⟩
  · have hne : place ≠ other := by
      rintro rfl
      rw [h] at hother
      cases hother
    rwa [isDirectory, lookup?_put _ _ _ _ hbase, if_neg hne]
  · rw [lookup?_put _ _ _ _ hbase]
    split
    · rfl
    · exact hother

namespace Keeps

lemma follow? (h : files.Keeps after) {step : Path.Step} {next : Place}
    (hstep : files.follow? place step = some next) : after.follow? place step = some next := by
  unfold Files.follow? at hstep ⊢
  split at hstep
  · rename_i hdirectory
    rw [if_pos (h.directory place hdirectory)]
    cases step with
    | stay | up => exact hstep
    | down name =>
      by_cases hpresent : (files.lookup? (place.child name)).isSome = true
      · simpa [hpresent, h.present _ hpresent] using hstep
      · simp [hpresent] at hstep
  · cases hstep

lemma followAll (h : files.Keeps after) {steps : List Path.Step} {reached : Place}
    (hsteps : steps.foldlM files.follow? place = some reached) :
    steps.foldlM after.follow? place = some reached := by
  induction steps generalizing place with
  | nil => exact hsteps
  | cons step rest ih =>
    rw [List.foldlM_cons] at hsteps ⊢
    obtain ⟨next, hnext, hrest⟩ := Option.bind_eq_some_iff.1 hsteps
    exact Option.bind_eq_some_iff.2 ⟨next, h.follow? hnext, ih hrest⟩

lemma locate? (h : files.Keeps after) (hpath : files.locate? path = some place) :
    after.locate? path = some place := by
  unfold Files.locate? at hpath ⊢
  split at hpath
  · cases hpath
  · rename_i hvalid
    rw [if_neg hvalid]
    exact h.followAll hpath

end Keeps

/-! ## Writing -/

/-- One change after another: the second one starts where a successful first one ended. -/
lemma run_bind {α β : Type} (first : Change α) (next : α → Change β) (files : Files) :
    (first >>= next).run.run files =
      match first.run.run files with
      | (some a, after) => (next a).run.run after
      | (none, after) => (none, after) := by
  simp only [OptionT.run_bind, Option.elimM, StateT.run_bind]
  rcases first.run.run files with ⟨_ | a, after⟩ <;> rfl

/-- A change that succeeded after another one. -/
lemma run_bind_eq_some_iff {α β : Type} {first : Change α} {next : α → Change β} {b : β} :
    (first >>= next).run.run files = (some b, after) ↔
      ∃ a between, first.run.run files = (some a, between) ∧
        (next a).run.run between = (some b, after) := by
  rw [run_bind]
  rcases first.run.run files with ⟨_ | a, between⟩
  · exact ⟨fun h => (nomatch h), fun ⟨_, _, h, _⟩ => nomatch h⟩
  · refine ⟨fun h => ⟨a, between, rfl, h⟩, fun ⟨_, _, hfirst, h⟩ => ?_⟩
    cases hfirst
    exact h

lemma run_write :
    (write path text).run.run files =
      match files.filePlace? path with
      | some place => (some (), files.put place (.file text))
      | none => (none, files) := by
  have hget : (get : Change Files).run.run files = (some files, files) := rfl
  rw [write, run_bind, hget]
  cases h : files.filePlace? path <;> simp only [h] <;> rfl

lemma write_eq_some_iff :
    (write path text).run.run files = (some (), after) ↔
      ∃ place, files.filePlace? path = some place ∧ after = files.put place (.file text) := by
  rw [run_write]
  cases files.filePlace? path with
  | none => exact ⟨fun h => (nomatch h), fun ⟨_, h, _⟩ => nomatch h⟩
  | some place =>
    refine ⟨fun h => ⟨place, rfl, (Prod.mk.inj h).2.symm⟩, fun ⟨_, hplace, h⟩ => ?_⟩
    cases hplace
    rw [h]

/-- The place of a file is in the directory that its path leads to, under its last name. -/
lemma exists_of_filePlace? (h : files.filePlace? path = some place) :
    Path.isValid path = true ∧ ∃ steps name directory,
      Path.steps path = steps ++ [.down name] ∧
      steps.foldlM files.follow? (Path.start path) = some directory ∧
      files.isDirectory directory = true ∧ place = directory.child name ∧
      files.isDirectory place = false := by
  unfold filePlace? at h
  obtain ⟨_, hvalid, h⟩ := Option.bind_eq_some_iff.1 h
  refine ⟨(Option.guard_eq_some' _).1 hvalid, ?_⟩
  split at h
  · rename_i name hlast
    obtain ⟨directory, hdirectory, h⟩ := Option.bind_eq_some_iff.1 h
    obtain ⟨found, hfound, h⟩ := Option.bind_eq_some_iff.1 h
    obtain ⟨_, hfree, h⟩ := Option.bind_eq_some_iff.1 h
    cases h
    unfold newPlace? at hfound
    split at hfound
    · rename_i hnew
      cases hfound
      refine ⟨_, name, directory, (List.dropLast_append_getLast? _ hlast).symm, hdirectory,
        (Bool.and_eq_true_iff.1 hnew).1, rfl, ?_⟩
      simpa using (Option.guard_eq_some' _).1 hfree
    · cases hfound
  · cases h

lemma not_isDirectory_of_filePlace? (h : files.filePlace? path = some place) :
    files.isDirectory place = false := by
  obtain ⟨-, _, _, _, -, -, -, -, hfree⟩ := exists_of_filePlace? h
  exact hfree

/-- The place of a file ends in the name that its path ends in. -/
lemma getLast?_filePlace? (h : files.filePlace? path = some place) {name : String}
    (hname : (Path.steps path).getLast? = some (.down name)) : place.getLast? = some name := by
  obtain ⟨-, steps, own, directory, hsteps, -, -, rfl, -⟩ := exists_of_filePlace? h
  rw [hsteps, List.getLast?_concat] at hname
  cases hname
  exact List.getLast?_concat

/-- The path of a file leads to its place as soon as there is something. -/
lemma locate?_of_filePlace? (h : files.filePlace? path = some place) (hkeeps : files.Keeps after) :
    after.locate? path = if (after.lookup? place).isSome then some place else none := by
  obtain ⟨hvalid, steps, name, directory, hsteps, hreached, hdirectory, rfl, -⟩ :=
    exists_of_filePlace? h
  -- The empty path has no name at its end.
  have hnonempty : path.isEmpty = false := by
    rw [Bool.eq_false_iff]
    intro hempty
    rw [String.isEmpty_iff.1 hempty] at hsteps
    have hlast := congrArg List.getLast? hsteps
    rw [List.getLast?_concat] at hlast
    have hstay : (Path.steps "").getLast? = some .stay := by decide
    rw [hstay] at hlast
    cases hlast
  -- The directory is one still.
  have hfollow : after.follow? directory (.down name) =
      if (after.lookup? (directory.child name)).isSome then some (directory.child name)
      else none := by
    rw [follow?, if_pos (hkeeps.directory directory hdirectory)]
  rw [locate?, hnonempty, hvalid, hsteps]
  simp [List.foldlM_append, hkeeps.followAll hreached, hfollow]

/-- The path of a file that was put at its place leads there. -/
lemma locate?_put_filePlace? (h : files.filePlace? path = some place) (text : String) :
    (files.put place (.file text)).locate? path = some place := by
  have hfree := not_isDirectory_of_filePlace? h
  rw [locate?_of_filePlace? h (keeps_put hfree text),
    lookup?_put _ _ _ _ (isBase_of_not_isDirectory hfree), if_pos rfl]
  rfl

/-- What is written under a path is read under it. -/
theorem read?_put_filePlace? (h : files.filePlace? path = some place) (text : String) :
    (files.put place (.file text)).read? path = some text := by
  have hfree := not_isDirectory_of_filePlace? h
  simp [read?, locate?_put_filePlace? h, lookup?_put _ _ _ _ (isBase_of_not_isDirectory hfree)]

/-- Writing one file leaves another one as it is. -/
theorem read?_put_of_ne {found : Place} (hpath : files.locate? path = some found)
    (hother : files.isDirectory other = false) (hne : other ≠ found) (text : String) :
    (files.put other (.file text)).read? path = files.read? path := by
  simp [read?, hpath, (keeps_put hother text).locate? hpath,
    lookup?_put _ _ _ _ (isBase_of_not_isDirectory hother), hne]

end Files

/-! ## Names in a directory -/

namespace Path

/-- There is always a first one of the texts between the slashes. -/
lemma exists_foldr_parts (front part : List Char) :
    ∃ first more, front.foldr (fun c parts => if c = '/' then [] :: parts else extendFirst c parts)
      [part] = first :: more := by
  induction front with
  | nil => exact ⟨part, [], rfl⟩
  | cons c front ih =>
    obtain ⟨first, more, hparts⟩ := ih
    rw [List.foldr_cons, hparts]
    by_cases hc : c = '/'
    · exact ⟨[], first :: more, by simp [hc]⟩
    · exact ⟨c :: first, more, by simp [hc, extendFirst]⟩

lemma foldr_parts_of_not_mem {name : List Char} (h : '/' ∉ name) (part : List Char)
    (rest : List (List Char)) :
    name.foldr (fun c parts => if c = '/' then [] :: parts else extendFirst c parts)
      (part :: rest) = (name ++ part) :: rest := by
  induction name with
  | nil => rfl
  | cons c name ih =>
    rw [List.mem_cons, not_or] at h
    rw [List.foldr_cons, ih h.2, if_neg (Ne.symm h.1)]
    rfl

/-- What is read behind the first of the parts makes no difference to the parts in front. -/
lemma foldr_parts_append (front part : List Char) (rest : List (List Char)) :
    front.foldr (fun c parts => if c = '/' then [] :: parts else extendFirst c parts)
        (part :: rest) =
      front.foldr (fun c parts => if c = '/' then [] :: parts else extendFirst c parts) [part] ++
        rest := by
  induction front with
  | nil => rfl
  | cons c front ih =>
    obtain ⟨first, more, hparts⟩ := exists_foldr_parts front part
    rw [List.foldr_cons, List.foldr_cons, ih, hparts]
    by_cases hc : c = '/'
    · simp [hc]
    · simp [hc, extendFirst]

/-- The steps of a path that ends in a name. -/
lemma steps_of_slash {path : String} {front name : List Char} (h : '/' ∉ name)
    (hpath : path.toList = front ++ '/' :: name) :
    steps path = steps (String.ofList front) ++ [step name] := by
  have hparts : parts path = parts (String.ofList front) ++ [name] := by
    rw [parts, parts, hpath, List.foldr_append, List.foldr_cons, foldr_parts_of_not_mem h,
      List.append_nil, if_pos rfl, foldr_parts_append, String.toList_ofList]
  rw [steps, hparts, List.map_append]
  rfl

section

variable {directory name : String}

lemma isAbsolute_eq_false (h : '/' ∉ name.toList) : isAbsolute name = false := by
  rw [isAbsolute, beq_eq_false_iff_ne]
  exact fun hhead => h (List.mem_of_head? hhead)

lemma join_eq (h : '/' ∉ name.toList) :
    join directory name =
      if directory.isEmpty || directory.toList.getLast? == some '/' then directory ++ name
      else directory ++ "/" ++ name := by
  rw [join, isAbsolute_eq_false h, if_neg Bool.false_ne_true]

/-- One slash stands between a directory and a name in it. -/
lemma exists_toList_join (hne : directory ≠ "") :
    ∃ front, ∀ name : String, '/' ∉ name.toList →
      (join directory name).toList = front ++ '/' :: name.toList := by
  have hempty : directory.isEmpty = false := by simpa [String.isEmpty_iff] using hne
  by_cases hslash : directory.toList.getLast? = some '/'
  · refine ⟨directory.toList.dropLast, fun name h => ?_⟩
    rw [join_eq h, hslash, beq_self_eq_true, Bool.or_true, if_pos rfl, String.toList_append,
      List.append_cons, List.dropLast_append_getLast? _ hslash]
  · refine ⟨directory.toList, fun name h => ?_⟩
    have hother : (directory.toList.getLast? == some '/') = false := by simpa using hslash
    rw [join_eq h, hempty, hother]
    simp

/-- The path of a name in a directory starts where the path of the directory does. -/
lemma start_join (h : '/' ∉ name.toList) : start (join directory name) = start directory := by
  have habsolute : isAbsolute (join directory name) = isAbsolute directory := by
    by_cases hne : directory = ""
    · have hjoin : join directory name = name := by simp [join_eq h, hne]
      rw [hjoin, isAbsolute_eq_false h, hne]
      rfl
    · obtain ⟨c, rest, hcons⟩ := List.exists_cons_of_ne_nil (mt String.toList_eq_nil_iff.1 hne)
      rw [join_eq h, isAbsolute, isAbsolute]
      split <;> simp [hcons]
  rw [start, start, habsolute]

/-- The names in a directory are reached by the same steps, except for the last one. -/
lemma exists_steps_join (directory : String) :
    ∃ front, ∀ name : String, '/' ∉ name.toList → step name.toList = .down name →
      steps (join directory name) = front ++ [.down name] := by
  by_cases hne : directory = ""
  · refine ⟨[], fun name h hname => ?_⟩
    have hjoin : join directory name = name := by simp [join_eq h, hne]
    have hparts : parts name = [name.toList] := by
      rw [parts, foldr_parts_of_not_mem h, List.append_nil]
    rw [hjoin, steps, hparts, List.map_singleton, hname, List.nil_append]
  · obtain ⟨front, hfront⟩ := exists_toList_join hne
    refine ⟨steps (String.ofList front), fun name h hname => ?_⟩
    rw [steps_of_slash h (hfront name h), hname]

end

/-- A name in a directory is where the path of the two of them ends. -/
lemma getLast?_steps_join (directory : String) {name : String} (h : '/' ∉ name.toList)
    (hname : step name.toList = .down name) :
    (steps (join directory name)).getLast? = some (.down name) := by
  obtain ⟨front, hfront⟩ := exists_steps_join directory
  rw [hfront name h hname, List.getLast?_concat]

end Path
end ODataToSql
