import ControlComponent.CommandLine.Process
import ControlComponent.Proofs.CommandLine.Perform
import ControlComponent.Proofs.Outcome

/-!
The store that a start finds on the disk.

Writing a file changes what a start finds in one way only: if the file is the state file, the start
finds what was written, or refuses it.
-/

namespace ControlComponent.CommandLine

namespace Disk

theorem checkDirectory_eq_ok {disk : Disk} {place : List String} :
    disk.checkDirectory place = .ok () ↔ disk.entryAt? place = some .directory := by
  unfold checkDirectory
  split <;> simp_all

section Put

variable {disk : Disk} {place : List String} (named : place ≠ [])
  (free : disk.entryAt? place ≠ some .directory) (content : Bytes)

include named free

theorem checkDirectory_put_file {other : List String} :
    (disk.put place (.file content)).checkDirectory other = .ok () ↔
      disk.checkDirectory other = .ok () := by
  rw [checkDirectory_eq_ok, checkDirectory_eq_ok, entryAt?_put disk named]
  split
  · rename_i same
    simp [same, free]
  · rfl

/-- A new file leads nowhere that one could not go before. -/
theorem follow_put_file {start target : List String} {names : List String} :
    (disk.put place (.file content)).follow start names = .ok target ↔
      disk.follow start names = .ok target := by
  induction names generalizing start with
  | nil => rfl
  | cons name rest ih =>
    rw [follow, follow, bind_eq_ok, bind_eq_ok]
    exact exists_congr fun _ => and_congr (checkDirectory_put_file named free content) ih

theorem locate_put_file {path : String} {target : List String} :
    (disk.put place (.file content)).locate path = .ok target ↔
      disk.locate path = .ok target := by
  unfold locate
  split
  · rfl
  · rw [bind_eq_ok, bind_eq_ok]
    refine exists_congr fun at_ => and_congr (follow_put_file named free content) ?_
    split
    · rw [bind_eq_ok, bind_eq_ok]
      exact exists_congr fun _ =>
        and_congr (checkDirectory_put_file named free content) Iff.rfl
    · rfl

end Put

theorem contains_of_read {disk : Disk} {path : String} {content : Bytes}
    (read : disk.read path = .ok content) : disk.contains path = true := by
  obtain ⟨place, located, read⟩ := bind_eq_ok.1 read
  simp only [contains, located]
  cases entry : disk.entryAt? place with
  | none => rw [entry] at read; cases read
  | some _ => rfl

/-- Writing a file puts it at a place where no directory is. -/
theorem exists_put_of_write {disk changed : Disk} {path : String} {content : Bytes}
    (written : disk.write path content = .ok changed) :
    ∃ place, place ≠ [] ∧ disk.entryAt? place ≠ some .directory ∧
      disk.put place (.file content) = changed := by
  unfold write at written
  split at written
  · cases written
  · rename_i place aimed
    split at written
    · cases written
    · rename_i free
      refine ⟨place, ?_, free, Except.ok.inj written⟩
      rintro rfl
      exact free rfl

/-- The store that a start finds at a path. -/
def storeAt? (disk : Disk) (path : String) : Option Store :=
  ((Surroundings.loadState path).run disk).result.toOption

theorem storeAt?_of_absent {disk : Disk} {path : String} (absent : disk.contains path = false) :
    disk.storeAt? path = some .empty := by
  simp [storeAt?, Surroundings.loadState, Script.found, Script.run, absent, bind, Script.bind, pure,
    Except.toOption]

theorem storeAt?_of_present {disk : Disk} {path : String} (present : disk.contains path = true) :
    disk.storeAt? path =
      match disk.read path with
      | .ok content =>
        if (Bytes.toText? content).isSome then (Store.ofBytes content).toOption else none
      | .error _ => none := by
  simp only [storeAt?, Surroundings.loadState, Script.found, Script.textOf, Script.contentOf,
    Script.run, present, bind, Script.bind, pure, if_true]
  cases disk.read path with
  | error fault => rfl
  | ok content =>
    by_cases valid : (Bytes.toText? content).isSome = true
    · simp only [valid, if_true, Script.bind, Script.orFail]
      cases Store.ofBytes content <;> rfl
    · simp only [valid]
      rfl

/-- A start that finds a store in a file has read it there. -/
theorem ofBytes_of_storeAt? {disk : Disk} {path : String} {content : Bytes} {store : Store}
    (read : disk.read path = .ok content) (found : disk.storeAt? path = some store) :
    Store.ofBytes content = .ok store := by
  rw [storeAt?_of_present (contains_of_read read), read] at found
  simp only at found
  split at found
  · exact toOption_eq_some.1 found
  · cases found

/-- A start finds what was written to the state file, or nothing. -/
theorem ofBytes_of_write {disk changed : Disk} {path : String} {content : Bytes} {store : Store}
    (written : disk.write path content = .ok changed) (found : changed.storeAt? path = some store) :
    Store.ofBytes content = .ok store :=
  ofBytes_of_storeAt? (read_write written) found

/-- After any file was written, a start finds what it would have found before, unless the file is
the state file itself. -/
theorem storeAt?_of_write {disk changed : Disk} {path' : String} {content : Bytes}
    (written : disk.write path' content = .ok changed) (path : String) :
    changed.storeAt? path = disk.storeAt? path ∨ changed.read path = .ok content := by
  obtain ⟨place, named, free, rfl⟩ := exists_put_of_write written
  have same : ∀ target, (disk.put place (.file content)).locate path = .ok target ↔
      disk.locate path = .ok target := fun target => locate_put_file named free content
  cases located : disk.locate path with
  | error fault =>
    obtain ⟨fault', astray⟩ : ∃ fault', (disk.put place (.file content)).locate path =
        .error fault' := by
      cases there : (disk.put place (.file content)).locate path with
      | error fault' => exact ⟨fault', rfl⟩
      | ok target => cases located.symm.trans ((same target).1 there)
    left
    rw [storeAt?_of_absent (by rw [contains, astray]),
      storeAt?_of_absent (by rw [contains, located])]
  | ok target =>
    have there := (same target).2 located
    have entry := entryAt?_put disk named (.file content) target
    by_cases here : target = place
    · right
      rw [if_pos here] at entry
      simp [read, there, entry, bind, Except.bind, pure, Except.pure]
    · left
      rw [if_neg here] at entry
      have contains_eq : (disk.put place (.file content)).contains path = disk.contains path := by
        simp only [contains, there, located, entry]
      have read_eq : (disk.put place (.file content)).read path = disk.read path := by
        simp only [read, there, located, entry, bind, Except.bind]
      cases present : disk.contains path with
      | false => rw [storeAt?_of_absent (contains_eq.trans present), storeAt?_of_absent present]
      | true =>
        rw [storeAt?_of_present (contains_eq.trans present), storeAt?_of_present present, read_eq]

end Disk
end ControlComponent.CommandLine
