import ControlComponent.Proofs.CommandLine.Stored
import ControlComponent.Proofs.Run

/-!
What an invocation does with its messages, one after another.

An invocation prepares itself without changing anything and then visits its input files. Every visit
hands a message to the node, writes the reply if there is one, and then saves the state. After a
state that could not be saved there are no more visits, and where the node is interrupted there is
neither that visit nor another one.
-/

namespace ControlComponent.CommandLine

open Node (Delivery Exchange)

/-- What is done with one message. -/
structure Visit where
  exchange : Exchange
  answering : Performance Bool
  saving : Performance Unit

namespace Visit

/-- What is written in the course of a visit. -/
def writings (v : Visit) : List Writing := v.answering.writings ++ v.saving.writings

/-- Whether the reply was written. -/
def isAnswered (v : Visit) : Bool := v.answering.writings.any (·.succeeded)

/-- Whether the state was saved. -/
def isSaved (v : Visit) : Bool := v.saving.writings.any (·.succeeded)

end Visit

namespace Surroundings

/-! ### Answers and saved states -/

theorem perform_answer_reply (s : Surroundings) (input : String) (reply : Bytes) (disk : Disk)
    (mishaps : List (Option Mishap)) :
    let path := s.expand input ++ ".reply"
    let written := disk.writeAmid path reply mishaps.head?.join
    (s.answer input (.ok (some reply))).perform disk mishaps =
      ⟨.ok !written.1.isOk, [⟨path, reply, written.1.isOk⟩], written.2, mishaps.tail⟩ := by
  intro path written
  rw [answer, writeReply, Script.perform_bind, Script.perform_replace,
    Performance.andThen_of_ok rfl]
  simp only [written]
  cases (disk.writeAmid path reply mishaps.head?.join).1 <;> rfl

/-- Without a reply nothing is written. -/
theorem perform_answer_silent (s : Surroundings) (input : String)
    {result : Except Failure (Option Bytes)} (silent : ∀ reply, result ≠ .ok (some reply))
    (disk : Disk) (mishaps : List (Option Mishap)) :
    ∃ failed, (s.answer input result).perform disk mishaps = ⟨.ok failed, [], disk, mishaps⟩ := by
  cases result with
  | error failure => exact ⟨true, rfl⟩
  | ok answer =>
    cases answer with
    | none => exact ⟨false, rfl⟩
    | some reply => exact absurd rfl (silent reply)

/-- A message may have failed, but answering it does not stop anything. -/
theorem exists_result_answer (s : Surroundings) (input : String)
    (result : Except Failure (Option Bytes)) (disk : Disk) (mishaps : List (Option Mishap)) :
    ∃ failed, ((s.answer input result).perform disk mishaps).result = .ok failed := by
  by_cases replied : ∃ reply, result = .ok (some reply)
  · obtain ⟨reply, rfl⟩ := replied
    exact ⟨_, congrArg Performance.result (s.perform_answer_reply input reply disk mishaps)⟩
  · obtain ⟨failed, performed⟩ :=
      s.perform_answer_silent input (fun reply same => replied ⟨reply, same⟩) disk mishaps
    exact ⟨failed, by rw [performed]⟩

theorem perform_saveState (path : String) (store : Store) (disk : Disk)
    (mishaps : List (Option Mishap)) :
    let written := disk.writeAmid path store.toBytes mishaps.head?.join
    (saveState path store).perform disk mishaps =
      ⟨if written.1.isOk then .ok () else .error 1, [⟨path, store.toBytes, written.1.isOk⟩],
        written.2, mishaps.tail⟩ := by
  intro written
  rw [saveState, Script.perform_bind, Script.perform_replace, Performance.andThen_of_ok rfl]
  simp only [written]
  cases (disk.writeAmid path store.toBytes mishaps.head?.join).1 <;> rfl

/-! ### Visits -/

/-- The visit of a message. -/
def visitOf (s : Surroundings) (batch : Batch) (input : String) (kind : Message.Kind)
    (frame : Bytes) (state : Node.State) (disk : Disk) (mishaps : List (Option Mishap)) : Visit :=
  let x := (⟨batch.keys, kind, frame⟩ : Delivery).exchange s.suite batch.settings state
  let answering := (s.answer input x.handled.result).perform disk mishaps
  ⟨x, answering,
    (saveState batch.statePath x.after.store).perform answering.disk answering.mishaps⟩

section Parts

variable (s : Surroundings) (batch : Batch) (input : String) (kind : Message.Kind) (frame : Bytes)
  (state : Node.State) (disk : Disk) (mishaps : List (Option Mishap))

theorem answering_visitOf {reply : Bytes} :
    let v := s.visitOf batch input kind frame state disk mishaps
    let path := s.expand input ++ ".reply"
    let written := disk.writeAmid path reply mishaps.head?.join
    v.exchange.handled.result = .ok (some reply) →
    v.answering =
      ⟨.ok !written.1.isOk, [⟨path, reply, written.1.isOk⟩], written.2, mishaps.tail⟩ := by
  intro v path written replied
  rw [← s.perform_answer_reply input reply disk mishaps, ← replied]
  rfl

theorem saving_visitOf :
    let v := s.visitOf batch input kind frame state disk mishaps
    let bytes := v.exchange.after.store.toBytes
    let written := v.answering.disk.writeAmid batch.statePath bytes v.answering.mishaps.head?.join
    v.saving = ⟨if written.1.isOk then .ok () else .error 1,
      [⟨batch.statePath, bytes, written.1.isOk⟩], written.2, v.answering.mishaps.tail⟩ :=
  perform_saveState ..

end Parts

/-- The visits to input files. Files that cannot be read are passed over; a message that interrupts
the node ends them, with nothing written. -/
def visits (s : Surroundings) (batch : Batch) (disk : Disk) (mishaps : List (Option Mishap))
    (state : Node.State) : List String → List Visit
  | [] => []
  | input :: rest =>
    match ((batch.kindIn input).run disk).result, disk.read (s.expand input) with
    | .error _, _ => []
    | .ok _, .error _ => visits s batch disk mishaps state rest
    | .ok kind, .ok frame =>
      let v := s.visitOf batch input kind frame state disk mishaps
      if v.exchange.handled.isInterrupted then []
      else v :: match v.saving.result with
        | .ok () => visits s batch v.saving.disk v.saving.mishaps v.exchange.after rest
        | .error _ => []

/-- The disk that visits leave. -/
def diskAfter (disk : Disk) (vs : List Visit) : Disk :=
  (vs.getLast?.map (·.saving.disk)).getD disk

theorem diskAfter_nil (disk : Disk) : diskAfter disk [] = disk := rfl

theorem diskAfter_cons (disk : Disk) (v : Visit) (vs : List Visit) :
    diskAfter disk (v :: vs) = diskAfter v.saving.disk vs := by
  cases vs <;> simp [diskAfter, List.getLast?_cons]

/-- Where the node is interrupted nothing is written. -/
theorem perform_visit_of_interrupted (s : Surroundings) (batch : Batch) (input : String)
    (kind : Message.Kind) (frame : Bytes) (state : Node.State) (disk : Disk)
    (mishaps : List (Option Mishap))
    (interrupted : (s.visitOf batch input kind frame state disk
      mishaps).exchange.handled.isInterrupted = true) :
    (s.visit batch input kind frame state).perform disk mishaps =
      ⟨.error 101, [], disk, mishaps⟩ := by
  rw [visit, (Script.Reads.logAll _).perform_bind, Script.run_logAll]
  exact congrArg (Script.perform disk mishaps) (if_pos interrupted)

/-- A visit is performed with the result of its saving, which may stop the invocation. -/
theorem perform_visit (s : Surroundings) (batch : Batch) (input : String) (kind : Message.Kind)
    (frame : Bytes) (state : Node.State) (disk : Disk) (mishaps : List (Option Mishap)) :
    let v := s.visitOf batch input kind frame state disk mishaps
    v.exchange.handled.isInterrupted = false →
    ∃ failed, (s.visit batch input kind frame state).perform disk mishaps =
      ⟨v.saving.result.map fun _ => (v.exchange.after, failed), v.writings, v.saving.disk,
        v.saving.mishaps⟩ := by
  intro v uninterrupted
  obtain ⟨failed, answered⟩ : ∃ failed, v.answering.result = .ok failed :=
    s.exists_result_answer input v.exchange.handled.result disk mishaps
  refine ⟨failed, ?_⟩
  rw [visit, (Script.Reads.logAll _).perform_bind, Script.run_logAll]
  have goesOn : ¬ v.exchange.handled.isInterrupted = true := by simp [uninterrupted]
  refine (congrArg (Script.perform disk mishaps) (if_neg goesOn)).trans ?_
  rw [Script.perform_bind]
  change v.answering.andThen (fun failed disk mishaps =>
    (saveState batch.statePath v.exchange.after.store >>= fun _ =>
      pure (v.exchange.after, failed)).perform disk mishaps) = _
  rw [Performance.andThen_of_ok answered, Script.perform_bind]
  change (v.saving.andThen _).behind v.answering.writings = _
  cases saved : v.saving.result with
  | error code =>
    rw [Performance.andThen_of_error saved]
    rfl
  | ok u =>
    rw [Performance.andThen_of_ok saved]
    simp [Performance.behind, Script.perform, pure, Except.map, Visit.writings]

/-- Whether the state was saved decides whether the invocation goes on. -/
theorem result_saving (s : Surroundings) (batch : Batch) (input : String) (kind : Message.Kind)
    (frame : Bytes) (state : Node.State) (disk : Disk) (mishaps : List (Option Mishap)) :
    let v := s.visitOf batch input kind frame state disk mishaps
    v.saving.result = if v.isSaved then .ok () else .error 1 := by
  intro v
  rw [Visit.isSaved, show v.saving = _ from s.saving_visitOf ..]
  simp

/-- After a state that was not saved there are no more visits. -/
theorem visits_of_unsaved {s : Surroundings} {batch : Batch} {input : String} {kind : Message.Kind}
    {frame : Bytes} {disk : Disk} {rest : List String}
    (told : ((batch.kindIn input).run disk).result = .ok kind)
    (read : disk.read (s.expand input) = .ok frame) (state : Node.State)
    (mishaps : List (Option Mishap)) :
    let v := s.visitOf batch input kind frame state disk mishaps
    v.exchange.handled.isInterrupted = false → v.isSaved = false →
      s.visits batch disk mishaps state (input :: rest) = [v] := by
  intro v uninterrupted unsaved
  have result := s.result_saving batch input kind frame state disk mishaps
  have ended : v.saving.result = .error 1 := by rw [result, unsaved]; rfl
  simp only [v] at uninterrupted ended ⊢
  simp only [visits, told, read, uninterrupted, ended, Bool.false_eq_true, if_false]

theorem reads_kindIn (batch : Batch) (input : String) : (batch.kindIn input).Reads := by
  unfold Batch.kindIn
  cases batch.kind with
  | some kind => exact .pure kind
  | none => exact .orFail _ _

/-- All that processing writes is written by the visits, one after another. -/
theorem perform_processInputs (s : Surroundings) (batch : Batch) (disk : Disk)
    (mishaps : List (Option Mishap)) (state : Node.State) (failures : Nat)
    (inputs : List String) :
    let performed := (s.processInputs batch state failures inputs).perform disk mishaps
    let vs := s.visits batch disk mishaps state inputs
    performed.writings = vs.flatMap Visit.writings ∧ performed.disk = diskAfter disk vs := by
  induction inputs generalizing disk mishaps state failures with
  | nil => exact ⟨rfl, rfl⟩
  | cons input rest ih =>
    simp only [processInputs, visits]
    rw [(reads_kindIn batch input).perform_bind]
    cases ((batch.kindIn input).run disk).result with
    | error code => exact ⟨rfl, rfl⟩
    | ok kind =>
      simp only
      rw [(Script.Reads.contentOf _).perform_bind]
      simp only [Script.contentOf, Script.run]
      cases disk.read (s.expand input) with
      | error fault => exact ih disk mishaps state _
      | ok frame =>
        have stopped := s.perform_visit_of_interrupted batch input kind frame state disk mishaps
        have goesOn := s.perform_visit batch input kind frame state disk mishaps
        simp only at goesOn ⊢
        generalize s.visitOf batch input kind frame state disk mishaps = v at stopped goesOn ⊢
        rw [Script.perform_bind]
        cases interrupted : v.exchange.handled.isInterrupted with
        | true =>
          rw [stopped interrupted]
          exact ⟨rfl, rfl⟩
        | false =>
          obtain ⟨failed, visited⟩ := goesOn interrupted
          rw [visited]
          cases saved : v.saving.result with
          | error code => simp [Performance.andThen, Except.map, diskAfter]
          | ok u =>
            obtain ⟨writings, left⟩ := ih v.saving.disk v.saving.mishaps v.exchange.after
              (if failed then failures + 1 else failures)
            simp only [Performance.andThen, Except.map, Performance.behind, writings, left,
              List.flatMap_cons, diskAfter_cons, and_self, Bool.false_eq_true, if_false]

/-! ### Invocations -/

theorem reads_locate (s : Surroundings) (access : Access) : (s.locate access).Reads := by
  unfold locate
  dsimp only
  split
  · exact .pure _
  · exact .emit _ (.stop 1)

theorem reads_load (s : Surroundings) (place : Location) : (s.load place).Reads :=
  .bind (.contentOf _) fun _ => .bind (.orFail _ _) fun _ => .orFail _ _

theorem reads_loadState (path : String) : (loadState path).Reads := by
  refine .bind (.probe _ fun _ => .done _) ?_
  intro found
  cases found with
  | false => exact .pure _
  | true => exact .bind (.textOf _) fun _ => .bind (.orFail _ _) fun _ => .orFail _ _

theorem reads_prepare (s : Surroundings) (access : Access) (kind : Option String)
    (statePath : String) : (s.prepare access kind statePath).Reads := by
  refine .bind (s.reads_locate access) fun place => .bind (s.reads_load place) fun keyring =>
    .bind (.orFail _ _) fun settings => .bind (reads_loadState _) fun store =>
    .bind (.emit _ (.done _)) fun _ => ?_
  cases kind with
  | none => exact .pure _
  | some name => exact .bind (.bind (.orFail _ _) fun _ => .pure _) fun _ => .pure _

/-- What is known once an invocation is ready. -/
theorem prepared {s : Surroundings} {access : Access} {kind : Option String} {statePath : String}
    {disk : Disk} {batch : Batch} {store : Store}
    (ready : ((s.prepare access kind statePath).run disk).result = .ok (batch, store)) :
    batch.statePath = s.expand statePath ∧ disk.storeAt? (s.expand statePath) = some store ∧
      Settings.ofEnvironment s.lookup = .ok batch.settings := by
  obtain ⟨_, -, loading⟩ := (s.reads_locate access).run_bind_eq_ok.1 ready
  obtain ⟨keyring, -, setting⟩ := (s.reads_load _).run_bind_eq_ok.1 loading
  obtain ⟨settings, given, storing⟩ := (Script.Reads.orFail _ _).run_bind_eq_ok.1 setting
  obtain ⟨found, loaded, logging⟩ := (reads_loadState _).run_bind_eq_ok.1 storing
  obtain ⟨_, -, telling⟩ := (Script.Reads.emit _ (.done ())).run_bind_eq_ok.1 logging
  suffices same : batch.settings = settings ∧ batch.statePath = s.expand statePath ∧
      store = found by
    obtain ⟨rfl, path, rfl⟩ := same
    refine ⟨path, ?_, Script.run_orFail_eq_ok.1 given⟩
    rw [Disk.storeAt?, loaded]
    rfl
  cases kind with
  | none =>
    cases telling
    exact ⟨rfl, rfl, rfl⟩
  | some name =>
    obtain ⟨_, -, told⟩ :=
      (Script.Reads.bind (.orFail _ _) fun _ => .pure _).run_bind_eq_ok.1 telling
    cases told
    exact ⟨rfl, rfl, rfl⟩

/-- The visits of an invocation. -/
def invocation (s : Surroundings) (access : Access) (kind : Option String) (statePath : String)
    (inputs : List String) (disk : Disk) (mishaps : List (Option Mishap)) : List Visit :=
  match ((s.prepare access kind statePath).run disk).result with
  | .ok (batch, store) => s.visits batch disk mishaps (.initial store s.randomness) inputs
  | .error _ => []

/-- All that an invocation writes is written by its visits, one after another. -/
theorem perform_process (s : Surroundings) (access : Access) (kind : Option String)
    (statePath : String) (inputs : List String) (disk : Disk) (mishaps : List (Option Mishap)) :
    let performed := (s.process access kind statePath inputs).perform disk mishaps
    let vs := s.invocation access kind statePath inputs disk mishaps
    performed.writings = vs.flatMap Visit.writings ∧ performed.disk = diskAfter disk vs := by
  unfold invocation
  rw [process, (s.reads_prepare access kind statePath).perform_bind]
  cases ((s.prepare access kind statePath).run disk).result with
  | error code => exact ⟨rfl, rfl⟩
  | ok ready =>
    obtain ⟨batch, store⟩ := ready
    obtain ⟨writings, left⟩ :=
      s.perform_processInputs batch disk mishaps (.initial store s.randomness) 0 inputs
    simp only
    rw [← writings, ← left, Script.perform_bind]
    cases counted : ((s.processInputs batch (.initial store s.randomness) 0 inputs).perform disk
      mishaps).result with
    | error code =>
      rw [Performance.andThen_of_error counted]
      exact ⟨rfl, rfl⟩
    | ok failures =>
      rw [Performance.andThen_of_ok counted]
      split
      · simp [Performance.behind, Script.fail, Script.perform]
      · simp [Performance.behind, Script.perform, pure]

end Surroundings
end ControlComponent.CommandLine
