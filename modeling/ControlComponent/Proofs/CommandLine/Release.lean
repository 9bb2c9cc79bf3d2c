import ControlComponent.Proofs.CommandLine.Visit
import ControlComponent.Proofs.Ration
import ControlComponent.Proofs.Snapshot

/-!
How often replies are released to files.

Invocations follow one another over one state file. What a card can still be replied to is accounted
for by the state on the disk, but the reply is written before the state is saved. So it is the
replies with a saved state that are rationed. For a reply whose state could not be saved nothing has
been paid, and the next invocation may reply again.
-/

namespace ControlComponent.CommandLine

open Node (Activity budget)

/-- Whether the reply of a visit was written, and was one to this activity on the card. -/
def Visit.releases (v : Visit) (activity : Activity) (card : Place) : Bool :=
  v.exchange.answers activity card && v.isAnswered

/-- Whether such a reply was released, and the state that accounts for it was not saved. -/
def Visit.loses (v : Visit) (activity : Activity) (card : Place) : Bool :=
  v.releases activity card && !v.isSaved

/-! ### Allowances -/

/-- How often something can still be done to a card by an invocation that starts with this disk. -/
def Disk.allowance (disk : Disk) (statePath : String) (maxAttempts : Nat) (activity : Activity)
    (card : Place) : Nat :=
  match disk.storeAt? statePath with
  | some store => budget maxAttempts activity (store.cards.get? card)
  | none => 0

section Allowances

variable {statePath : String} {maxAttempts : Nat} {activity : Activity} {card : Place}

theorem Disk.allowance_le {disk : Disk} {bound : Nat}
    (each : ∀ store, disk.storeAt? statePath = some store →
      budget maxAttempts activity (store.cards.get? card) ≤ bound) :
    disk.allowance statePath maxAttempts activity card ≤ bound := by
  unfold allowance
  split
  · exact each _ ‹_›
  · exact Nat.zero_le _

/-- Writing a frame does not give any allowance, whether it succeeds and wherever it goes. -/
theorem Disk.allowance_frame (disk : Disk) (path : String) (mishap : Option Mishap)
    (e : Wire.Encoding) (body : Bytes) :
    (disk.writeAmid path (e.tag :: body) mishap).2.allowance statePath maxAttempts activity card ≤
      disk.allowance statePath maxAttempts activity card := by
  rcases disk.writeAmid_snd path (e.tag :: body) mishap with same | ⟨count, written⟩
  · exact Nat.le_of_eq (by rw [same])
  · rcases storeAt?_of_write written statePath with same | aliased
    · exact Nat.le_of_eq (by rw [allowance, same, allowance])
    · apply allowance_le
      intro store found
      exact absurd (ofBytes_of_storeAt? aliased found)
        (Store.ofBytes_frame_ne_ok (List.take_prefix _ _) store)

/-- Saving a state leaves the allowance that there was, or that of the state. -/
theorem Disk.allowance_save {disk : Disk} {store : Store} {bound : Nat}
    (before : disk.allowance statePath maxAttempts activity card ≤ bound)
    (saved : budget maxAttempts activity (store.cards.get? card) ≤ bound)
    (mishap : Option Mishap) :
    (disk.writeAmid statePath store.toBytes mishap).2.allowance statePath maxAttempts activity
      card ≤ bound := by
  rcases disk.writeAmid_snd statePath store.toBytes mishap with same | ⟨count, written⟩
  · rwa [same]
  · apply allowance_le
    intro found there
    rw [Store.eq_of_ofBytes_prefix (List.take_prefix _ _) (ofBytes_of_write written there)]
    exact saved

/-- Once a state is saved, the allowance is that of the state. -/
theorem Disk.allowance_saved {disk : Disk} {store : Store} {mishap : Option Mishap}
    (succeeded : (disk.writeAmid statePath store.toBytes mishap).1.isOk = true) :
    (disk.writeAmid statePath store.toBytes mishap).2.allowance statePath maxAttempts activity
      card ≤ budget maxAttempts activity (store.cards.get? card) := by
  apply allowance_le
  intro found there
  have written := write_of_writeAmid succeeded
  obtain rfl := Store.eq_of_ofBytes_prefix List.prefix_rfl (ofBytes_of_write written there)
  exact Nat.le_refl _

end Allowances

/-! ### Visits -/

namespace Surroundings

section Visits

variable (s : Surroundings) (batch : Batch) (input : String) (kind : Message.Kind) (frame : Bytes)
  (state : Node.State) (disk : Disk) (mishaps : List (Option Mishap)) (activity : Activity)
  (card : Place)

/-- Answering a message does not give any allowance. -/
theorem allowance_answer :
    let v := s.visitOf batch input kind frame state disk mishaps
    v.answering.disk.allowance batch.statePath batch.settings.maxAttempts activity card ≤
      disk.allowance batch.statePath batch.settings.maxAttempts activity card := by
  intro v
  by_cases replied : ∃ reply, v.exchange.handled.result = .ok (some reply)
  · obtain ⟨reply, replied⟩ := replied
    have course := Node.exchange_course s.suite batch.settings ⟨batch.keys, kind, frame⟩ state
    obtain ⟨e, body, rfl⟩ := Node.exists_frame course replied
    rw [show v.answering = _ from s.answering_visitOf batch input kind frame state disk mishaps
      replied]
    exact disk.allowance_frame _ _ e body
  · obtain ⟨failed, answering⟩ := s.perform_answer_silent input
      (fun reply same => replied ⟨reply, same⟩) disk mishaps
    have same : v.answering.disk = disk := congrArg Performance.disk answering
    exact Nat.le_of_eq (by rw [same])

/-- A released reply uses up the budget of the card, as any reply does. -/
theorem releases_pay :
    let v := s.visitOf batch input kind frame state disk mishaps
    budget batch.settings.maxAttempts activity (v.exchange.after.store.cards.get? card) +
        (v.releases activity card).toNat ≤
      budget batch.settings.maxAttempts activity (state.store.cards.get? card) := by
  intro v
  have paid : budget batch.settings.maxAttempts activity (v.exchange.after.store.cards.get? card) +
      (v.exchange.answers activity card).toNat ≤ _ :=
    Node.answers_pay ⟨batch.keys, kind, frame⟩ state activity card
  have fewer : (v.releases activity card).toNat ≤ (v.exchange.answers activity card).toNat := by
    rw [Visit.releases]
    cases v.exchange.answers activity card <;> cases v.isAnswered <;> decide
  omega

/-- A visit gives no allowance beyond the budget that there was before it. -/
theorem allowance_visit
    (before : disk.allowance batch.statePath batch.settings.maxAttempts activity card ≤
      budget batch.settings.maxAttempts activity (state.store.cards.get? card)) :
    let v := s.visitOf batch input kind frame state disk mishaps
    v.saving.disk.allowance batch.statePath batch.settings.maxAttempts activity card ≤
      budget batch.settings.maxAttempts activity (state.store.cards.get? card) := by
  intro v
  have answered := s.allowance_answer batch input kind frame state disk mishaps activity card
  have paid := s.releases_pay batch input kind frame state disk mishaps activity card
  rw [show v.saving = _ from s.saving_visitOf ..]
  exact Disk.allowance_save (Nat.le_trans answered before) (Nat.le_of_add_right_le paid) _

/-- A visit that has saved the state leaves the allowance of the state. -/
theorem allowance_of_isSaved :
    let v := s.visitOf batch input kind frame state disk mishaps
    v.isSaved = true →
    v.saving.disk.allowance batch.statePath batch.settings.maxAttempts activity card ≤
      budget batch.settings.maxAttempts activity (v.exchange.after.store.cards.get? card) := by
  intro v saved
  rw [Visit.isSaved, show v.saving = _ from s.saving_visitOf ..] at saved
  rw [show v.saving = _ from s.saving_visitOf ..]
  refine Disk.allowance_saved ?_
  simpa using saved

end Visits

/-- In the course of an invocation, released replies with a saved state use up the budget of the
card that there was in the beginning; what is left of it is at least the allowance on the disk. -/
theorem countP_saved_le (s : Surroundings) (batch : Batch) (disk : Disk)
    (mishaps : List (Option Mishap)) (state : Node.State) (inputs : List String)
    (activity : Activity) (card : Place)
    (before : disk.allowance batch.statePath batch.settings.maxAttempts activity card ≤
      budget batch.settings.maxAttempts activity (state.store.cards.get? card)) :
    let vs := s.visits batch disk mishaps state inputs
    vs.countP (fun v => v.releases activity card && v.isSaved) +
        (diskAfter disk vs).allowance batch.statePath batch.settings.maxAttempts activity card ≤
      budget batch.settings.maxAttempts activity (state.store.cards.get? card) := by
  induction inputs generalizing disk mishaps state with
  | nil => simpa [visits, diskAfter] using before
  | cons input rest ih =>
    simp only [visits]
    cases ((batch.kindIn input).run disk).result with
    | error code => simpa [diskAfter] using before
    | ok kind =>
      cases disk.read (s.expand input) with
      | error fault => exact ih disk mishaps state before
      | ok frame =>
        have paid := s.releases_pay batch input kind frame state disk mishaps activity card
        have allowed :=
          s.allowance_visit batch input kind frame state disk mishaps activity card before
        have saved := s.allowance_of_isSaved batch input kind frame state disk mishaps activity card
        have result := s.result_saving batch input kind frame state disk mishaps
        simp only at paid allowed saved result ⊢
        generalize s.visitOf batch input kind frame state disk mishaps = v at *
        split
        · simpa [diskAfter] using before
        rw [diskAfter_cons, List.countP_cons]
        cases kept : v.isSaved with
        | false => simpa [result, kept, diskAfter] using allowed
        | true =>
          have later := ih v.saving.disk v.saving.mishaps v.exchange.after (saved kept)
          simp only [result, kept, if_true, Bool.and_true]
          cases released : v.releases activity card <;>
            simp only [released, Bool.toNat_true, Bool.toNat_false] at paid ⊢ <;> simp <;> omega

/-- After a state that was not saved there are no more visits. -/
theorem isSaved_of_mem_dropLast {s : Surroundings} {batch : Batch} {disk : Disk}
    {mishaps : List (Option Mishap)} {state : Node.State} {inputs : List String} {v : Visit}
    (earlier : v ∈ (s.visits batch disk mishaps state inputs).dropLast) : v.isSaved = true := by
  induction inputs generalizing disk mishaps state with
  | nil => cases earlier
  | cons input rest ih =>
    simp only [visits] at earlier
    cases kind : ((batch.kindIn input).run disk).result with
    | error code => simp [kind] at earlier
    | ok kind' =>
      cases read : disk.read (s.expand input) with
      | error fault =>
        simp only [kind, read] at earlier
        exact ih earlier
      | ok frame =>
        have result := s.result_saving batch input kind' frame state disk mishaps
        simp only [kind, read] at earlier result
        generalize s.visitOf batch input kind' frame state disk mishaps = v' at *
        split at earlier
        · cases earlier
        cases kept : v'.isSaved with
        | false => simp [result, kept] at earlier
        | true =>
          simp only [result, kept, if_true] at earlier
          cases more : s.visits batch v'.saving.disk v'.saving.mishaps v'.exchange.after rest with
          | nil => simp [more] at earlier
          | cons w ws =>
            rw [more, List.dropLast_cons_cons] at earlier
            rcases List.mem_cons.1 earlier with rfl | later
            · exact kept
            · exact ih (more ▸ later)

end Surroundings

/-- Among visits of which only the last one may have failed to save the state, at most one reply is
lost. -/
theorem countP_loses_le {vs : List Visit} (saved : ∀ v ∈ vs.dropLast, v.isSaved = true)
    (activity : Activity) (card : Place) :
    vs.countP (·.loses activity card) ≤ (vs.getLast?.any (·.loses activity card)).toNat := by
  induction vs with
  | nil => exact Nat.le_refl 0
  | cons v vs ih =>
    cases vs with
    | nil => cases lost : v.loses activity card <;> simp [lost]
    | cons w ws =>
      rw [List.dropLast_cons_cons] at saved
      have kept : v.loses activity card = false := by
        simp [Visit.loses, saved v List.mem_cons_self]
      rw [List.countP_cons_of_neg (by simp [kept]), List.getLast?_cons_cons]
      exact ih fun u mem => saved u (List.mem_cons_of_mem _ mem)

/-- Released replies are accounted for or lost. -/
theorem countP_releases (vs : List Visit) (activity : Activity) (card : Place) :
    vs.countP (·.releases activity card) =
      vs.countP (fun v => v.releases activity card && v.isSaved) +
        vs.countP (·.loses activity card) := by
  rw [List.countP_eq_countP_filter_add vs _ Visit.isSaved, List.countP_filter, List.countP_filter]
  simp only [Visit.loses]

/-! ### Sessions -/

/-- An invocation over a state file: what has become of the disk by then, the state file apart, what
is asked for, the randomness, and the mishaps that are in store for its writes. -/
structure Launch (statePath : String) where
  arrive : Disk → Disk
  keeps : ∀ disk, (arrive disk).storeAt? statePath = disk.storeAt? statePath
  access : Access
  kind : Option String
  inputs : List String
  randomness : Randomness
  mishaps : List (Option Mishap)

namespace Surroundings

/-- The visits of invocations that follow one another over one state file, in one environment. -/
def session (s : Surroundings) (statePath : String) :
    Disk → List (Launch (s.expand statePath)) → List (List Visit)
  | _, [] => []
  | disk, launch :: rest =>
    let started : Surroundings := { s with randomness := launch.randomness }
    let found := launch.arrive disk
    let performed := (started.process launch.access launch.kind statePath launch.inputs).perform
      found launch.mishaps
    started.invocation launch.access launch.kind statePath launch.inputs found launch.mishaps ::
      session s statePath performed.disk rest

/-- How often a voter may try to confirm. An environment that is refused allows nothing. -/
def maxAttempts (s : Surroundings) : Nat :=
  match Settings.ofEnvironment s.lookup with
  | .ok settings => settings.maxAttempts
  | .error _ => 0

/-- In an invocation, released replies with a saved state use up the allowance on the disk. -/
theorem countP_saved_invocation_le (s : Surroundings) (access : Access) (kind : Option String)
    (statePath : String) (inputs : List String) (disk : Disk) (mishaps : List (Option Mishap))
    (activity : Activity) (card : Place) :
    let vs := s.invocation access kind statePath inputs disk mishaps
    vs.countP (fun v => v.releases activity card && v.isSaved) +
        (diskAfter disk vs).allowance (s.expand statePath) s.maxAttempts activity card ≤
      disk.allowance (s.expand statePath) s.maxAttempts activity card := by
  unfold invocation
  cases ready : ((s.prepare access kind statePath).run disk).result with
  | error code => simp [diskAfter]
  | ok made =>
    obtain ⟨batch, store⟩ := made
    obtain ⟨path, found, given⟩ := prepared ready
    have attempts : s.maxAttempts = batch.settings.maxAttempts := by rw [maxAttempts, given]
    have start : disk.allowance batch.statePath batch.settings.maxAttempts activity card =
        budget batch.settings.maxAttempts activity (store.cards.get? card) := by
      rw [Disk.allowance, path, found]
    rw [attempts, ← path, start]
    exact s.countP_saved_le batch disk mishaps (.initial store s.randomness) inputs activity card
      (Nat.le_of_eq start)

/-- Over all invocations, released replies with a saved state use up the allowance on the disk. -/
theorem countP_saved_session_le (s : Surroundings) (statePath : String) (disk : Disk)
    (launches : List (Launch (s.expand statePath))) (activity : Activity) (card : Place) :
    (s.session statePath disk launches).flatten.countP
        (fun v => v.releases activity card && v.isSaved) ≤
      disk.allowance (s.expand statePath) s.maxAttempts activity card := by
  induction launches generalizing disk with
  | nil => exact Nat.zero_le _
  | cons launch rest ih =>
    let started : Surroundings := { s with randomness := launch.randomness }
    have now := started.countP_saved_invocation_le launch.access launch.kind statePath
      launch.inputs (launch.arrive disk) launch.mishaps activity card
    have left := (started.perform_process launch.access launch.kind statePath launch.inputs
      (launch.arrive disk) launch.mishaps).2
    have later := ih ((started.process launch.access launch.kind statePath launch.inputs).perform
      (launch.arrive disk) launch.mishaps).disk
    have arrived : (launch.arrive disk).allowance (s.expand statePath) s.maxAttempts activity card =
        disk.allowance (s.expand statePath) s.maxAttempts activity card := by
      rw [Disk.allowance, launch.keeps, Disk.allowance]
    rw [left] at later
    rw [session, List.flatten_cons, List.countP_append]
    exact Nat.le_trans (Nat.add_le_add_left (left ▸ later) _)
      (Nat.le_trans now (Nat.le_of_eq arrived))

/-- In every invocation of a session, only the last visit may have failed to save the state. -/
theorem isSaved_of_mem_session {s : Surroundings} {statePath : String} {disk : Disk}
    {launches : List (Launch (s.expand statePath))} {vs : List Visit}
    (mem : vs ∈ s.session statePath disk launches) : ∀ v ∈ vs.dropLast, v.isSaved = true := by
  induction launches generalizing disk with
  | nil => cases mem
  | cons launch rest ih =>
    rw [session] at mem
    rcases List.mem_cons.1 mem with rfl | later
    · intro v earlier
      unfold invocation at earlier
      split at earlier
      · exact isSaved_of_mem_dropLast earlier
      · cases earlier
    · exact ih later

/-- Over invocations of which each one loses at most one reply, at most so many are lost as there
are invocations that end with a loss. -/
theorem countP_loses_flatten_le {invocations : List (List Visit)}
    (saved : ∀ vs ∈ invocations, ∀ v ∈ vs.dropLast, v.isSaved = true) (activity : Activity)
    (card : Place) :
    invocations.flatten.countP (·.loses activity card) ≤
      invocations.countP fun vs => vs.getLast?.any (·.loses activity card) := by
  induction invocations with
  | nil => exact Nat.le_refl 0
  | cons vs rest ih =>
    have now := countP_loses_le (saved vs List.mem_cons_self) activity card
    have later := ih fun vs mem => saved vs (List.mem_cons_of_mem _ mem)
    rw [List.flatten_cons, List.countP_append, List.countP_cons]
    cases lost : vs.getLast?.any (·.loses activity card) <;>
      simp only [lost, Bool.toNat_true, Bool.toNat_false, Bool.false_eq_true, if_true,
        if_false] at now ⊢ <;> omega

/-- No more replies are released than a card has budget for, except those that are lost. -/
theorem countP_releases_session_le (s : Surroundings) (statePath : String) (disk : Disk)
    (launches : List (Launch (s.expand statePath))) (activity : Activity) (card : Place) :
    let invocations := s.session statePath disk launches
    invocations.flatten.countP (·.releases activity card) ≤
      budget s.maxAttempts activity none +
        invocations.countP fun vs => vs.getLast?.any (·.loses activity card) := by
  intro invocations
  have accounted : invocations.flatten.countP (fun v => v.releases activity card && v.isSaved) ≤
      budget s.maxAttempts activity none :=
    Nat.le_trans (s.countP_saved_session_le statePath disk launches activity card)
      (Disk.allowance_le fun store _ => Node.budget_le ..)
  have lost : invocations.flatten.countP (·.loses activity card) ≤
      invocations.countP fun vs => vs.getLast?.any (·.loses activity card) :=
    countP_loses_flatten_le (fun vs mem => isSaved_of_mem_session mem) activity card
  rw [countP_releases]
  omega

/-- Replies that are not lost are rationed over all invocations. Whatever writes fail, for every
card there are released to files at most one reply to a decryption request, one to a request for its
choice codes and as many to requests for its vote cast code as the settings allow, and one more for
every invocation that failed to save the state behind its last reply. The other replies are followed
by the state that accounts for them. -/
theorem releases_are_rationed (s : Surroundings) (statePath : String) (disk : Disk)
    (launches : List (Launch (s.expand statePath))) (card : Place) :
    let invocations := s.session statePath disk launches
    let released := fun activity => invocations.flatten.countP (·.releases activity card)
    let lost := fun activity =>
      invocations.countP fun vs => vs.getLast?.any (·.loses activity card)
    released .decryption ≤ 1 + lost .decryption ∧
    released .choice ≤ 1 + lost .choice ∧
    released .voteCast ≤ s.maxAttempts + lost .voteCast ∧
    ∀ vs ∈ invocations, ∀ v ∈ vs.dropLast, v.isSaved = true := by
  intro invocations released lost
  exact ⟨s.countP_releases_session_le statePath disk launches .decryption card,
    s.countP_releases_session_le statePath disk launches .choice card,
    s.countP_releases_session_le statePath disk launches .voteCast card,
    fun _ mem => isSaved_of_mem_session mem⟩

end Surroundings

end ControlComponent.CommandLine
