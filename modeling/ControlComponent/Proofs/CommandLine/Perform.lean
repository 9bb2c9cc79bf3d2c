import ControlComponent.CommandLine.Script

/-!
Scripts performed where files cannot always be written.

A run takes place on a disk that takes every file it has a place for. In a performance any write may
fail besides, and a write that fails may have replaced the file by the first bytes of what was to be
written. A performance keeps account of what it tried to write and with what success.
-/

namespace ControlComponent.CommandLine

/-- What keeps a file from being written: the fault that is reported, and how many bytes were
written by then. Without a number the file was left alone. -/
structure Mishap where
  fault : Disk.Fault
  written : Option Nat

/-- How a write ends and what it leaves, with a mishap or without. -/
def Disk.writeAmid (disk : Disk) (path : String) (content : Bytes) :
    Option Mishap → Except Disk.Fault Unit × Disk
  | none =>
    match disk.write path content with
    | .ok changed => (.ok (), changed)
    | .error fault => (.error fault, disk)
  | some ⟨fault, none⟩ => (.error fault, disk)
  | some ⟨fault, some count⟩ =>
    match disk.write path (content.take count) with
    | .ok changed => (.error fault, changed)
    | .error _ => (.error fault, disk)

/-- A write leaves the disk as it was or has written the beginning of its content. -/
theorem Disk.writeAmid_snd (disk : Disk) (path : String) (content : Bytes)
    (mishap : Option Mishap) :
    (disk.writeAmid path content mishap).2 = disk ∨ ∃ count,
      disk.write path (content.take count) = .ok (disk.writeAmid path content mishap).2 := by
  match mishap with
  | none =>
    rw [writeAmid]
    cases written : disk.write path content with
    | ok changed => exact .inr ⟨content.length, by rw [List.take_length, written]⟩
    | error fault => exact .inl rfl
  | some ⟨fault, none⟩ => exact .inl rfl
  | some ⟨fault, some count⟩ =>
    rw [writeAmid]
    cases written : disk.write path (content.take count) with
    | ok changed => exact .inr ⟨count, written⟩
    | error _ => exact .inl rfl

/-- A write that succeeds has written its content. -/
theorem Disk.write_of_writeAmid {disk : Disk} {path : String} {content : Bytes}
    {mishap : Option Mishap} (succeeded : (disk.writeAmid path content mishap).1.isOk = true) :
    disk.write path content = .ok (disk.writeAmid path content mishap).2 := by
  match mishap with
  | none =>
    rw [writeAmid] at succeeded ⊢
    cases written : disk.write path content with
    | ok changed => rfl
    | error fault => simp [written, Except.isOk, Except.toBool] at succeeded
  | some ⟨fault, none⟩ => cases succeeded
  | some ⟨fault, some count⟩ =>
    rw [writeAmid] at succeeded
    cases written : disk.write path (content.take count) <;>
      simp [written, Except.isOk, Except.toBool] at succeeded

/-- A write that was tried. -/
structure Writing where
  path : String
  content : Bytes
  succeeded : Bool

/-- What a performance comes to: the value that it ended with or the exit code that stopped it, what
it tried to write, the disk, and the mishaps that are still to come. -/
structure Performance (α : Type) where
  result : Except Nat α
  writings : List Writing
  disk : Disk
  mishaps : List (Option Mishap)

namespace Performance

/-- The performance with writes before it. -/
def behind (p : Performance α) (writings : List Writing) : Performance α :=
  { p with writings := writings ++ p.writings }

/-- What follows on a performance. -/
def andThen (p : Performance α) (next : α → Disk → List (Option Mishap) → Performance β) :
    Performance β :=
  match p.result with
  | .ok value => (next value p.disk p.mishaps).behind p.writings
  | .error code => ⟨.error code, p.writings, p.disk, p.mishaps⟩

theorem andThen_of_ok {p : Performance α} {value : α} (ended : p.result = .ok value)
    (next : α → Disk → List (Option Mishap) → Performance β) :
    p.andThen next = (next value p.disk p.mishaps).behind p.writings := by
  rw [andThen, ended]

theorem andThen_of_error {p : Performance α} {code : Nat} (stopped : p.result = .error code)
    (next : α → Disk → List (Option Mishap) → Performance β) :
    p.andThen next = ⟨.error code, p.writings, p.disk, p.mishaps⟩ := by
  rw [andThen, stopped]

theorem behind_andThen (p : Performance α) (writings : List Writing)
    (next : α → Disk → List (Option Mishap) → Performance β) :
    (p.behind writings).andThen next = (p.andThen next).behind writings := by
  obtain ⟨result, _, disk, mishaps⟩ := p
  cases result <;> simp [andThen, behind]

end Performance

namespace Script

/-- Performs a script. Every write takes what is in store for it from the list of mishaps, and
nothing goes wrong once the list has come to its end. -/
def perform (disk : Disk) (mishaps : List (Option Mishap)) : Script α → Performance α
  | done value => ⟨.ok value, [], disk, mishaps⟩
  | stop code => ⟨.error code, [], disk, mishaps⟩
  | emit _ next => perform disk mishaps next
  | probe path next => perform disk mishaps (next (disk.contains path))
  | read path next => perform disk mishaps (next (disk.read path))
  | write path content next =>
    let (result, changed) := disk.writeAmid path content mishaps.head?.join
    (perform changed mishaps.tail (next result)).behind [⟨path, content, result.isOk⟩]
  | makeDirectories path next =>
    match disk.makeDirectories path with
    | .ok changed => perform changed mishaps (next (.ok ()))
    | .error fault => perform disk mishaps (next (.error fault))

/-- Performing one script after another is performing the second where the first has ended. -/
theorem perform_bind (disk : Disk) (mishaps : List (Option Mishap)) (s : Script α)
    (f : α → Script β) :
    (s >>= f).perform disk mishaps = (s.perform disk mishaps).andThen fun value disk mishaps =>
      (f value).perform disk mishaps := by
  change (s.bind f).perform disk mishaps = _
  induction s generalizing disk mishaps with
  | done value => rfl
  | stop code => rfl
  | emit emission next ih => exact ih disk mishaps
  | probe path next ih => exact ih _ disk mishaps
  | read path next ih => exact ih _ disk mishaps
  | write path content next ih => simp only [bind, perform, ih, Performance.behind_andThen]
  | makeDirectories path next ih =>
    simp only [bind, perform]
    cases disk.makeDirectories path <;> exact ih ..

/-- Without mishaps a performance is a run. -/
theorem perform_nil (disk : Disk) (s : Script α) :
    (s.perform disk []).result = (s.run disk).result ∧
      (s.perform disk []).disk = (s.run disk).disk := by
  induction s generalizing disk with
  | done value => exact ⟨rfl, rfl⟩
  | stop code => exact ⟨rfl, rfl⟩
  | emit emission next ih => exact ih disk
  | probe path next ih => exact ih _ disk
  | read path next ih => exact ih _ disk
  | write path content next ih =>
    simp only [perform, run, Disk.writeAmid, Performance.behind, List.head?_nil, Option.join_none,
      List.tail_nil]
    cases disk.write path content <;> exact ih ..
  | makeDirectories path next ih =>
    simp only [perform, run]
    cases disk.makeDirectories path <;> exact ih ..

theorem perform_replace (disk : Disk) (mishaps : List (Option Mishap)) (path : String)
    (content : Bytes) :
    let written := disk.writeAmid path content mishaps.head?.join
    (replace path content).perform disk mishaps =
      ⟨.ok written.1, [⟨path, content, written.1.isOk⟩], written.2, mishaps.tail⟩ := rfl

theorem run_logAll (disk : Disk) (lines : List Log.Line) :
    ((logAll lines).run disk).result = .ok () := by
  induction lines with
  | nil => rfl
  | cons line rest ih => exact ih

/-! ### Scripts that change nothing -/

/-- A script that only reads and shows. -/
def Reads (s : Script α) : Prop :=
  ∀ disk mishaps, s.perform disk mishaps = ⟨(s.run disk).result, [], disk, mishaps⟩

namespace Reads

theorem done (value : α) : (Script.done value).Reads := fun _ _ => rfl

theorem pure (value : α) : (Pure.pure value : Script α).Reads := fun _ _ => rfl

theorem stop (code : Nat) : (Script.stop code : Script α).Reads := fun _ _ => rfl

theorem emit (emission : Emission) {next : Script α} (reads : next.Reads) :
    (Script.emit emission next).Reads := reads

theorem probe (path : String) {next : Bool → Script α} (reads : ∀ found, (next found).Reads) :
    (Script.probe path next).Reads := fun disk mishaps => reads _ disk mishaps

theorem read (path : String) {next : Except Disk.Fault Bytes → Script α}
    (reads : ∀ content, (next content).Reads) : (Script.read path next).Reads :=
  fun disk mishaps => reads _ disk mishaps

theorem disk_run {s : Script α} (reads : s.Reads) (disk : Disk) : (s.run disk).disk = disk := by
  rw [← (perform_nil disk s).2, reads disk []]

theorem bind {s : Script α} {f : α → Script β} (reads : s.Reads) (rest : ∀ value, (f value).Reads) :
    (s >>= f).Reads := by
  intro disk mishaps
  have run : (s >>= f).run disk = (s.run disk).andThen fun value disk => (f value).run disk :=
    run_bind disk s f
  rw [perform_bind, run, reads disk mishaps, Outcome.andThen, reads.disk_run]
  cases (s.run disk).result with
  | error code => rfl
  | ok value =>
    rw [Performance.andThen_of_ok rfl, rest value disk mishaps]
    rfl

theorem orFail (say : ε → String) (result : Except ε α) : (Script.orFail say result).Reads := by
  cases result with
  | ok value => exact done value
  | error error => exact emit _ (stop 1)

theorem logAll (lines : List Log.Line) : (Script.logAll lines).Reads := by
  induction lines with
  | nil => exact done ()
  | cons line rest ih => exact emit _ ih

theorem contentOf (path : String) : (Script.contentOf path).Reads := read path done

theorem textOf (path : String) : (Script.textOf path).Reads :=
  bind (contentOf path) fun content => by cases content <;> exact pure _

/-- After a script that only reads, the next one is performed on the same disk. -/
theorem perform_bind {s : Script α} (reads : s.Reads) (f : α → Script β) (disk : Disk)
    (mishaps : List (Option Mishap)) :
    (s >>= f).perform disk mishaps =
      match (s.run disk).result with
      | .ok value => (f value).perform disk mishaps
      | .error code => ⟨.error code, [], disk, mishaps⟩ := by
  rw [Script.perform_bind, reads disk mishaps]
  cases (s.run disk).result <;> rfl

/-- What comes of a script after one that only reads comes of both, on the same disk. -/
theorem run_bind_eq_ok {s : Script α} (reads : s.Reads) {f : α → Script β} {disk : Disk} {b : β} :
    ((s >>= f).run disk).result = .ok b ↔
      ∃ a, (s.run disk).result = .ok a ∧ ((f a).run disk).result = .ok b := by
  have run : (s >>= f).run disk = (s.run disk).andThen fun value disk => (f value).run disk :=
    run_bind disk s f
  rw [run, Outcome.andThen, reads.disk_run]
  cases (s.run disk).result with
  | error code =>
    constructor
    · intro done
      cases done
    · rintro ⟨_, same, -⟩
      cases same
  | ok a =>
    constructor
    · intro done
      exact ⟨a, rfl, done⟩
    · rintro ⟨_, same, done⟩
      cases same
      exact done

end Reads

theorem run_orFail_eq_ok {say : ε → String} {result : Except ε α} {disk : Disk} {a : α} :
    ((orFail say result).run disk).result = .ok a ↔ result = .ok a := by
  cases result with
  | error error => exact ⟨nofun, nofun⟩
  | ok value => simp [orFail, run]

end Script
end ControlComponent.CommandLine
