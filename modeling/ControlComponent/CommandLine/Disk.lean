import ControlComponent.Bytes
import ControlComponent.CommandLine.Path

/-!
A disk as a value: files and directories by their places.

A place is the list of the names that lead to it from the root, the last name first. A path is
followed from name to name; whatever a name is looked up in must be a directory that is there.
-/

namespace ControlComponent.CommandLine

/-- What stands at a place. -/
inductive Disk.Entry where
  | file (content : Bytes)
  | directory
deriving DecidableEq

/-- A disk: its entries, and the place that relative paths begin at. The root is always there. -/
structure Disk where
  entries : List (List String × Disk.Entry)
  current : List String

namespace Disk

/-- Why a file cannot be used. -/
inductive Fault where
  | notFound
  | alreadyExists
  | notDirectory
  | isDirectory
  | notText
  | other (message : String)
deriving DecidableEq

/-- What is said of a fault. -/
def Fault.message : Fault → String
  | .notFound => "No such file or directory (os error 2)"
  | .alreadyExists => "File exists (os error 17)"
  | .notDirectory => "Not a directory (os error 20)"
  | .isDirectory => "Is a directory (os error 21)"
  | .notText => "stream did not contain valid UTF-8"
  | .other message => message

/-- What stands at a place. -/
def entryAt? (disk : Disk) : List String → Option Entry
  | [] => some .directory
  | place => disk.entries.lookup place

/-- The disk with an entry at a place. -/
def put (disk : Disk) (place : List String) (entry : Entry) : Disk :=
  { disk with entries := (place, entry) :: disk.entries.filter fun (p, _) => p ≠ place }

/-! ### Following paths -/

/-- Where a name leads from a directory. -/
def step (place : List String) (name : String) : List String :=
  if name = "." then place
  else if name = ".." then place.tail
  else name :: place

/-- That a place is a directory. -/
def checkDirectory (disk : Disk) (place : List String) : Except Fault Unit :=
  match disk.entryAt? place with
  | some .directory => .ok ()
  | some (.file _) => .error .notDirectory
  | none => .error .notFound

/-- Where names lead from a place. There need not be anything at the last place. -/
def follow (disk : Disk) (place : List String) : List String → Except Fault (List String)
  | [] => .ok place
  | name :: rest => do
    disk.checkDirectory place
    follow disk (step place name) rest

/-- Where a path begins. -/
def start (disk : Disk) (path : String) : List String :=
  if Path.isAbsolute path then [] else disk.current

/-- Where a path leads. -/
def locate (disk : Disk) (path : String) : Except Fault (List String) :=
  if path = "" then .error .notFound
  else do
    let place ← disk.follow (disk.start path) (Path.names path)
    if Path.endsInSlash path then disk.checkDirectory place
    return place

/-! ### Files -/

/-- Whether a path leads to anything. -/
def contains (disk : Disk) (path : String) : Bool :=
  match disk.locate path with
  | .ok place => (disk.entryAt? place).isSome
  | .error _ => false

/-- The content of a file. -/
def read (disk : Disk) (path : String) : Except Fault Bytes := do
  let place ← disk.locate path
  match disk.entryAt? place with
  | some (.file content) => return content
  | some .directory => throw .isDirectory
  | none => throw .notFound

/-- Where a file is written: where the last name leads in the directory that the others lead to. -/
def target (disk : Disk) (path : String) : Except Fault (List String) :=
  match (Path.names path).getLast? with
  | none => .error (if path = "" then .notFound else .isDirectory)
  | some name =>
    match disk.follow (disk.start path) (Path.names path).dropLast with
    | .error fault => .error fault
    | .ok directory =>
      match disk.checkDirectory directory with
      | .error fault => .error fault
      | .ok () =>
        if Path.endsInSlash path then .error .isDirectory else .ok (step directory name)

/-- The disk with a file of the given content, whether it was there or not. -/
def write (disk : Disk) (path : String) (content : Bytes) : Except Fault Disk :=
  match disk.target path with
  | .error fault => .error fault
  | .ok place =>
    if disk.entryAt? place = some .directory then .error .isDirectory
    else .ok (disk.put place (.file content))

/-- The disk with all directories that names lead through. -/
def addDirectories (disk : Disk) (place : List String) : List String → Except Fault Disk
  | [] => .ok disk
  | name :: rest =>
    let place := step place name
    match disk.entryAt? place with
    | some .directory => addDirectories disk place rest
    | some (.file _) => .error (if rest.isEmpty then .alreadyExists else .notDirectory)
    | none => addDirectories (disk.put place .directory) place rest

/-- The disk with a directory, and with those it stands in. -/
def makeDirectories (disk : Disk) (path : String) : Except Fault Disk :=
  disk.addDirectories (disk.start path) (Path.names path)

/-- The names in a directory. -/
def list (disk : Disk) (place : List String) : List (String × Entry) :=
  disk.entries.filterMap fun (p, entry) =>
    match p with
    | name :: parent => if parent = place then some (name, entry) else none
    | [] => none

/-! ### Reading what was written -/

theorem lookup_filter_ne {place other : List String} (h : other ≠ place)
    (entries : List (List String × Entry)) :
    (entries.filter fun (p, _) => p ≠ place).lookup other = entries.lookup other := by
  induction entries with
  | nil => rfl
  | cons head rest ih =>
    obtain ⟨p, entry⟩ := head
    by_cases hp : p = place
    · subst hp
      simpa [List.lookup_cons, beq_eq_false_iff_ne.2 h] using ih
    · by_cases ho : other = p
      · simp [hp, ho]
      · simpa [List.lookup_cons, hp, beq_eq_false_iff_ne.2 ho] using ih

theorem entryAt?_put (disk : Disk) {place : List String} (h : place ≠ []) (entry : Entry)
    (other : List String) :
    (disk.put place entry).entryAt? other = if other = place then some entry
      else disk.entryAt? other := by
  cases other with
  | nil => simp [entryAt?, h.symm]
  | cons name parent =>
    by_cases ho : name :: parent = place
    · simp [entryAt?, put, ho]
    · simp only [entryAt?, put, List.lookup_cons, beq_eq_false_iff_ne.2 ho, if_neg ho]
      exact lookup_filter_ne ho disk.entries

theorem checkDirectory_put {disk : Disk} {place : List String} (h : place ≠ [])
    (hp : disk.entryAt? place ≠ some .directory) (entry : Entry) {other : List String}
    (ho : disk.checkDirectory other = .ok ()) :
    (disk.put place entry).checkDirectory other = .ok () := by
  have hne : other ≠ place := by
    rintro rfl
    apply hp
    unfold checkDirectory at ho
    split at ho <;> simp_all
  simpa only [checkDirectory, entryAt?_put disk h, if_neg hne] using ho

/-- A change at a place that was no directory does not change where names lead. -/
theorem follow_put {disk : Disk} {place : List String} (h : place ≠ [])
    (hp : disk.entryAt? place ≠ some .directory) (entry : Entry) {start target : List String}
    {names : List String} (ht : disk.follow start names = .ok target) :
    (disk.put place entry).follow start names = .ok target := by
  induction names generalizing start with
  | nil => exact ht
  | cons name rest ih =>
    unfold follow at ht ⊢
    cases hc : disk.checkDirectory start with
    | error fault => simp [hc, bind, Except.bind] at ht
    | ok u =>
      rw [hc] at ht
      rw [checkDirectory_put h hp entry hc]
      exact ih ht

theorem follow_concat {disk : Disk} {start directory : List String} {names : List String}
    (h : disk.follow start names = .ok directory) (hd : disk.checkDirectory directory = .ok ())
    (name : String) : disk.follow start (names ++ [name]) = .ok (step directory name) := by
  induction names generalizing start with
  | nil =>
    obtain rfl : start = directory := by simpa [follow] using h
    simp [follow, hd, bind, Except.bind]
  | cons first rest ih =>
    simp only [List.cons_append, follow] at h ⊢
    cases hc : disk.checkDirectory start with
    | error fault => simp [hc, bind, Except.bind] at h
    | ok u =>
      rw [hc] at h
      exact ih h

/-- Where a file is written is where its path leads. -/
theorem locate_of_target {disk : Disk} {path : String} {place : List String}
    (h : disk.target path = .ok place) :
    disk.follow (disk.start path) (Path.names path) = .ok place ∧
      Path.endsInSlash path = false ∧ path ≠ "" := by
  unfold target at h
  split at h
  · cases h
  · rename_i name hname
    split at h
    · cases h
    · rename_i directory hf
      split at h
      · cases h
      · rename_i hc
        split at h
        · cases h
        · rename_i hs
          obtain rfl : step directory name = place := by simpa using h
          obtain ⟨front, hfront⟩ := List.getLast?_eq_some_iff.1 hname
          rw [hfront, List.dropLast_concat] at hf
          refine ⟨hfront ▸ follow_concat hf hc name, by simpa using hs, ?_⟩
          rintro rfl
          simp at hname

/-- What has been written is what is read. -/
theorem read_write {disk changed : Disk} {path : String} {content : Bytes}
    (h : disk.write path content = .ok changed) : changed.read path = .ok content := by
  unfold write at h
  split at h
  · cases h
  · rename_i place ht
    split at h
    · cases h
    · rename_i hp
      obtain rfl : disk.put place (.file content) = changed := by simpa using h
      obtain ⟨hf, hs, hpath⟩ := locate_of_target ht
      have hne : place ≠ [] := by
        rintro rfl
        exact hp rfl
      have hl : (disk.put place (.file content)).locate path = .ok place := by
        have := follow_put hne hp (.file content) hf
        simp [locate, hpath, hs, show (disk.put place (.file content)).start path =
          disk.start path from rfl, this, bind, Except.bind, pure, Except.pure]
      simp [read, hl, entryAt?_put disk hne, bind, Except.bind, pure, Except.pure]

end Disk
end ControlComponent.CommandLine
