import ControlComponent.Proofs.Bounded
import ControlComponent.Proofs.CardKey

/-!
When the handling of a message is interrupted.

An engine cannot go on where a sum does not fit, in a build with overflow checks, or where it needs
an element of a list that has none. All engines but one only take elements that they have seen, and
only count what is bounded. The decryption expects the voter's list to be as long as one more than
the number of selections, and that is any number of 64 bits that a generation request has brought.
For the largest one the sum does not fit. A build with overflow checks stops at the sum, whatever
the lists are. One without them expects an empty list then, and stops where it compares the first
element of such a list with that of its own. Nothing else can interrupt the handling of a message,
and no other sum leaves its bounds: the attempts that a record counts never exceed the limit.
-/

namespace ControlComponent

/-- What follows on a check whose refusals have reasons is interrupted if the check passes and what
follows on it is interrupted. -/
theorem bind_eq_interrupted {ε α β : Type} {refusal : ε → Refusal}
    (reasoned : ∀ e, refusal e ≠ .failed .interrupted) {x : Except ε α}
    {next : α → Except Refusal β} :
    (x.mapError refusal >>= next) = .error (.failed .interrupted) ↔
      ∃ a, x = .ok a ∧ next a = .error (.failed .interrupted) := by
  cases x with
  | error e => simp [Except.mapError, bind, Except.bind, reasoned e]
  | ok a => simp [Except.mapError, bind, Except.bind]

namespace Node

open Message (Vote)
open Message.Computation

/-! ### Steps -/

namespace Step

/-- Whether a step comes to an end, with a result or with a refusal that has a reason. -/
def Ends (s : Step α) : Prop := s.result ≠ .error (.failed .interrupted)

@[simp] theorem ends_onReject {s : Step α} {line : Rejection → Log.Line} :
    (s.onReject line).Ends ↔ s.Ends := by
  rw [Ends, Ends, result_onReject]

/-- What follows on a step and always ends makes no difference. -/
theorem ends_andThen {s : Step α} {next : α → State → Step β}
    (ends : ∀ a state, (next a state).Ends) : (s.andThen next).Ends ↔ s.Ends := by
  unfold Ends Step.andThen
  cases result : s.result with
  | error refusal => simp
  | ok a =>
    constructor
    · simp
    · exact fun _ => ends a s.state

end Step

/-! ### Generation -/

namespace Generation

variable {suite : Suite} {keys : Key.Service}

theorem authorize_ne_interrupted (request : Message.Generation.SignedRequest) :
    authorize suite keys request ≠ .error (.failed .interrupted) := by
  unfold authorize
  dsimp only
  repeat' split
  all_goals simp

theorem respond_ne_interrupted (nodeId : Nat) (payload : Message.Generation.Request)
    (group : Group) (outputs : List Message.Generation.Output) :
    respond suite keys nodeId payload group outputs ≠ .error .interrupted := by
  unfold respond
  cases keys.signingKey payload.electionId with
  | error fault => simp [Except.mapError, bind, Except.bind]
  | ok secret =>
    cases keys.chain payload.electionId with
    | error fault => simp [Except.mapError, bind, Except.bind]
    | ok chain =>
      simp only [Except.mapError, bind, Except.bind]
      split <;> simp

theorem ends_process (nodeId : Nat) (request : Message.Generation.SignedRequest) (state : State) :
    (process suite keys nodeId request state).Ends := by
  unfold process
  dsimp only
  split
  · simp [Step.Ends, Step.fail]
  · split
    · rename_i refused
      intro interrupted
      cases interrupted
      exact authorize_ne_interrupted request refused
    · split
      · simp [Step.Ends, Step.reject]
      · simp only [Step.Ends, conclude]
        split
        · rename_i refused
          intro interrupted
          cases interrupted
          exact respond_ne_interrupted _ _ _ _ refused
        · simp

end Generation

/-! ### Exponentiation -/

namespace Exponentiation

variable {suite : Suite} {keys : Key.Service}

theorem ends_respond (request : Request) (share : ExponentiationShare) (state : State) :
    (respond suite keys request share state).Ends := by
  unfold respond
  repeat' split
  all_goals simp [Step.Ends, Step.fail]

/-- The checks of a phase refuse with a reason. -/
theorem examine_ne_interrupted (group : Group) (store : Store) (maxAttempts : Nat)
    (request : Request) (input : Input) (phase : Phase) (record : CardRecord) :
    examine group store maxAttempts request input phase record ≠
      .error (.failed .interrupted) := by
  cases phase with
  | choice =>
    simp only [examine, checkCodes]
    repeat' split
    all_goals simp
  | voteCast =>
    simp only [examine]
    split_ifs
    · simp
    · simp
    · cases checkConfirmation group input <;> simp [Except.mapError]

theorem ends_locked (nodeId maxAttempts : Nat) (request : Request) (input : Input) (phase : Phase)
    (group : Group) (state : State) :
    (locked suite keys nodeId maxAttempts request input phase group state).Ends := by
  unfold locked
  split
  · simp [Step.Ends, Step.fail]
  · split
    · rename_i refused
      intro interrupted
      cases interrupted
      exact examine_ne_interrupted _ _ _ _ _ _ _ refused
    · repeat' split
      all_goals simp [Step.Ends, Step.fail, Step.reject]

theorem ends_process (nodeId maxAttempts : Nat) (request : Request) (state : State) :
    (process suite keys nodeId maxAttempts request state).Ends := by
  unfold process
  split
  · split
    · simp [Step.Ends, Step.reject]
    · refine (Step.ends_andThen (ends_respond request)).2 ?_
      exact Step.ends_onReject.2 (ends_locked _ _ _ _ _ _ _)
  · simp [Step.Ends, Step.fail]

end Exponentiation

/-! ### Decryption -/

namespace Decryption

variable {suite : Suite} {keys : Key.Service} {found : Store} {request : Request} {input : Input}
  {voteInput : VoteInput} {group : Group}

theorem ends_respond (request : Request) (share : DecryptionShare) (state : State) :
    (respond suite keys request share state).Ends := by
  unfold respond
  repeat' split
  all_goals simp [Step.Ends, Step.fail, Step.reject]

theorem ends_decrypt (nodeId : Nat) (gamma : Nat) (state : State) :
    (decrypt suite keys nodeId request group gamma state).Ends := by
  unfold decrypt
  split
  · simp [Step.Ends, Step.reject]
  · split
    · simp [Step.Ends, Step.reject]
    · dsimp only
      split <;> simp [Step.Ends, Step.reject]

theorem ends_record (request : Request) (share : DecryptionShare) (state : State) :
    (record request share state).Ends := by
  unfold record
  split <;> simp [Step.Ends, Step.reject]

/-- A decryption is interrupted if its checks are. -/
theorem ends_locked_iff (nodeId : Nat) (state : State) :
    (locked suite keys nodeId found request input voteInput group state).Ends ↔
      examine suite keys found request input voteInput group ≠ .error (.failed .interrupted) := by
  unfold locked
  split
  · rename_i refused
    simp [Step.Ends, Step.reject, refused]
  · rename_i failed
    simp [Step.Ends, Step.fail, failed]
  · rename_i examined
    simp [Step.ends_andThen (ends_record request), ends_decrypt, examined]

/-- Whether lists run out where their first elements are compared: the voter's list is empty and
everything that is checked before is in order. -/
structure RunsOut (group : Group) (vote : Vote) (elements : List Nat) : Prop where
  empty : vote.encryptedPartialCodes = []
  nonempty : elements ≠ []
  members : group.areMembers elements = true
  raised : checkList group .cipherTextExponentiations ciphertextLength vote.exponentiatedOptions =
    .ok ()
  options : checkList group .encryptedOptions ciphertextLength vote.encryptedOptions = .ok ()

/-- The check of the lists is interrupted if they run out and an empty list is expected. -/
theorem checkConsistency_eq_interrupted {expected : Nat} {vote : Vote} {elements : List Nat} :
    checkConsistency group expected vote elements = .error (.failed .interrupted) ↔
      expected = 0 ∧ RunsOut group vote elements := by
  have reasoned : ∀ reason, Refusal.rejected reason ≠ .failed .interrupted := by simp
  unfold checkConsistency
  simp only [bind_eq_interrupted reasoned]
  constructor
  · rintro ⟨_, codes, _, listed, _, members, _, raised, _, options, last⟩
    have inside : group.areMembers elements = true := by
      split at members
      · assumption
      · cases members
    cases elements with
    | nil => cases listed
    | cons own rest =>
      cases voters : vote.encryptedPartialCodes with
      | nil =>
        have length := (checkList_eq_ok.1 codes).1
        rw [voters] at length
        exact ⟨length.symm, voters, List.cons_ne_nil _ _, inside, raised, options⟩
      | cons _ _ =>
        simp only [voters] at last
        split_ifs at last
        · cases last
        · cases last
  · rintro ⟨rfl, out⟩
    obtain ⟨own, rest, rfl⟩ := List.exists_cons_of_ne_nil out.nonempty
    refine ⟨(), ?_, (), rfl, (), if_pos out.members, (), out.raised, (), out.options, ?_⟩
    · rw [out.empty]
      rfl
    · simp only [out.empty]

/-- Whether a request for a decryption passes the checks that come before the lists are compared,
for a card set of which the node has stored the largest number of selections. -/
structure Overflows (keys : Key.Service) (found : Store) (request : Request) (input : Input)
    (voteInput : VoteInput) (group : Group) (vote : Vote) (elements : List Nat) : Prop where
  payload : request.payload = some input
  fields : request.invalidFields = []
  accepted : accept keys request input = .ok (group, voteInput)
  unrecorded : found.hasCard request.electionId request.cardId = false
  voted : voteOf request voteInput = .ok vote
  listed : input.elements = some elements
  largest : found.selections request.electionId request.setId = .ok (2 ^ 64 - 1)

/-- Whether the lists of a request interrupt its checks, given that one more than the number of
selections does not fit: any lists do where the build checks for it. -/
def Stuck (overflow : Overflow) (group : Group) (vote : Vote) (elements : List Nat) : Prop :=
  overflow = .stops ∨ RunsOut group vote elements

/-- The expected length and the check against it are interrupted for the largest number only. -/
theorem expectedLength_bind_eq_interrupted {overflow : Overflow} {selections : Nat}
    (bound : selections < 2 ^ 64) {vote : Vote} {elements : List Nat} :
    (expectedLength overflow selections >>= fun expected =>
        checkConsistency group expected vote elements) = .error (.failed .interrupted) ↔
      selections = 2 ^ 64 - 1 ∧ Stuck overflow group vote elements := by
  by_cases largest : selections = 2 ^ 64 - 1
  · subst largest
    rw [and_iff_right rfl]
    cases overflow with
    | stops => exact iff_of_true rfl (.inl rfl)
    | wraps =>
      refine checkConsistency_eq_interrupted.trans ?_
      simp [Stuck]
  · have fits : expectedLength overflow selections = .ok (selections + 1) :=
      expectedLength_eq_ok.2 (Overflow.succ_eq_some (by omega))
    rw [fits]
    refine checkConsistency_eq_interrupted.trans (iff_of_false ?_ (fun h => largest h.1))
    rintro ⟨zero, -⟩
    cases zero

/-- The checks of a decryption are interrupted if those of its lists are. -/
theorem examine_eq_interrupted :
    examine suite keys found request input voteInput group = .error (.failed .interrupted) ↔
      found.hasCard request.electionId request.cardId = false ∧
      ∃ vote, voteOf request voteInput = .ok vote ∧
      ∃ elements, input.elements = some elements ∧
      ∃ selections, found.selections request.electionId request.setId = .ok selections ∧
        (expectedLength suite.overflow selections >>= fun expected =>
          checkConsistency group expected vote elements) = .error (.failed .interrupted) := by
  have rejected : ∀ reason, Refusal.rejected reason ≠ .failed .interrupted := by simp
  have failed : ∀ fault, (Refusal.failed ∘ Failure.store) fault ≠ .failed .interrupted := by simp
  unfold examine
  cases found.hasCard request.electionId request.cardId with
  | true => simp [bind, Except.bind]
  | false =>
    simp only [Bool.false_eq_true, if_false, true_and, bind_eq_interrupted rejected]
    refine exists_congr fun vote => and_congr_right fun _ => ?_
    cases input.elements with
    | none => simp
    | some elements =>
      simp only [Option.some.injEq, exists_eq_left', bind_eq_interrupted failed]
      refine exists_congr fun selections => and_congr_right fun _ => ?_
      rw [← bind_assoc]
      cases expectedLength suite.overflow selections >>= fun expected =>
          checkConsistency group expected vote elements with
      | error refusal => exact Iff.rfl
      | ok gamma =>
        -- Once the lists are consistent, only checks with reasons follow.
        constructor
        · intro interrupted
          obtain ⟨_, -, interrupted⟩ := (bind_eq_interrupted rejected).1 interrupted
          obtain ⟨_, -, interrupted⟩ := (bind_eq_interrupted failed).1 interrupted
          split_ifs at interrupted
          · cases interrupted
          · cases interrupted
        · rintro ⟨⟩

/-- A decryption is interrupted if its number of selections is the largest and its lists are stuck
with that. -/
theorem ends_process_iff (nodeId : Nat) (state : State)
    (bounded : ∀ n, found.selections request.electionId request.setId = .ok n → n < 2 ^ 64) :
    (process suite keys nodeId found request state).Ends ↔
      ¬ ∃ input voteInput group vote elements,
        Overflows keys found request input voteInput group vote elements ∧
          Stuck suite.overflow group vote elements := by
  unfold process
  split
  · rename_i input payload fields
    split
    · rename_i refused
      simp only [Step.Ends, Step.reject]
      refine iff_of_true (by simp) ?_
      rintro ⟨input', voteInput, group, vote, elements, overflows, -⟩
      cases payload.symm.trans overflows.payload
      cases refused.symm.trans overflows.accepted
    · rename_i group voteInput accepted
      refine (Step.ends_andThen (ends_respond request)).trans ?_
      refine (Step.ends_onReject.trans (ends_locked_iff nodeId _)).trans (not_congr ?_)
      rw [examine_eq_interrupted]
      constructor
      · rintro ⟨unrecorded, vote, voted, elements, listed, n, counted, interrupted⟩
        obtain ⟨rfl, stuck⟩ :=
          (expectedLength_bind_eq_interrupted (bounded n counted)).1 interrupted
        exact ⟨input, voteInput, group, vote, elements,
          ⟨payload, fields, accepted, unrecorded, voted, listed, counted⟩, stuck⟩
      · rintro ⟨input', voteInput', group', vote, elements, overflows, stuck⟩
        cases payload.symm.trans overflows.payload
        cases accepted.symm.trans overflows.accepted
        exact ⟨overflows.unrecorded, vote, overflows.voted, elements, overflows.listed, _,
          overflows.largest, (expectedLength_bind_eq_interrupted (by decide)).2 ⟨rfl, stuck⟩⟩
  · rename_i other
    simp only [Step.Ends, Step.fail]
    refine iff_of_true (by simp) ?_
    rintro ⟨input, voteInput, group, vote, elements, overflows, -⟩
    exact other input overflows.payload overflows.fields

end Decryption

/-! ### Messages -/

section Messages

variable {kind : Message.Kind} {requests : Wire.Codec α} {responses : Wire.Codec β}
  {process : α → State → Step β} {frame : Bytes} {state : State}

/-- The handling of a frame is interrupted if the frame can be read and the processing does not end.
-/
theorem handleWith_eq_interrupted :
    (handleWith kind requests responses process frame state).result = .error .interrupted ↔
      ∃ encoding request, requests.readFrame frame = .ok (encoding, request) ∧
        ¬ (process request state).Ends := by
  unfold handleWith
  split
  · rename_i unread
    simp [unread]
  · rename_i encoding request read
    dsimp only
    unfold Step.Ends
    split <;> simp_all

end Messages

/-- The handling of a message is interrupted if it is a decryption request that meets the largest
number of selections and is stuck with it. -/
theorem exchange_eq_interrupted (suite : Suite) (settings : Settings) (d : Delivery) (state : State)
    (bounded : ∀ place r, state.store.counts.get? place = some r → r.selections < 2 ^ 64) :
    (d.exchange suite settings state).handled.result = .error .interrupted ↔
      d.kind = .decryption ∧ ∃ encoding request,
        requestCodec.readFrame d.frame = .ok (encoding, request) ∧
        ∃ input voteInput group vote elements,
          Decryption.Overflows d.keys state.store request input voteInput group vote elements ∧
            Decryption.Stuck suite.overflow group vote elements := by
  obtain ⟨keys, kind, frame⟩ := d
  cases kind with
  | generation =>
    refine handleWith_eq_interrupted.trans (iff_of_false ?_ (by simp))
    rintro ⟨encoding, request, -, interrupted⟩
    exact interrupted (Generation.ends_process _ _ _)
  | exponentiation =>
    refine handleWith_eq_interrupted.trans (iff_of_false ?_ (by simp))
    rintro ⟨encoding, request, -, interrupted⟩
    exact interrupted (Exponentiation.ends_process _ _ _ _)
  | decryption =>
    refine handleWith_eq_interrupted.trans ?_
    rw [and_iff_right rfl]
    refine exists_congr fun encoding => exists_congr fun request => and_congr_right fun _ => ?_
    rw [Decryption.ends_process_iff, not_not]
    intro n counted
    obtain ⟨r, found, rfl⟩ := Store.selections_eq_ok.1 counted
    exact bounded _ _ found

end Node

/-! ### Runs -/

namespace Node

open Message.Computation

variable {suite : Suite} {settings : Settings}

/-- **When the handling of a message is interrupted.** In any run of a node that starts with an
empty store, whatever keys come with the messages, a build with overflow checks is interrupted at a
message if and only if it is a decryption request for a card set with the largest number of
selections that passes the checks before the lists are compared. A build without overflow checks is
interrupted if and only if, moreover, the request brings an empty list of partial choice codes and
its other lists are in order. Numbers of selections have 64 bits, and one more than such a number is
computed as it should be unless the number is the largest one. The attempts that a record counts
never exceed the limit. -/
theorem handling_is_interrupted_iff {randomness : Randomness} {messages : List Delivery}
    {x : Exchange} (mem : x ∈ history suite settings (.initial .empty randomness) messages) :
    (suite.overflow = .stops →
      (x.handled.result = .error .interrupted ↔
        x.delivery.kind = .decryption ∧ ∃ encoding request,
          requestCodec.readFrame x.delivery.frame = .ok (encoding, request) ∧
          ∃ input voteInput group vote elements, Decryption.Overflows x.delivery.keys
            x.before.store request input voteInput group vote elements)) ∧
    (suite.overflow = .wraps →
      (x.handled.result = .error .interrupted ↔
        x.delivery.kind = .decryption ∧ ∃ encoding request,
          requestCodec.readFrame x.delivery.frame = .ok (encoding, request) ∧
          ∃ input voteInput group vote elements, Decryption.Overflows x.delivery.keys
            x.before.store request input voteInput group vote elements ∧
            Decryption.RunsOut group vote elements)) ∧
    (∀ place r, x.before.store.counts.get? place = some r → r.selections < 2 ^ 64 ∧
      (suite.overflow.succ r.selections ≠ some (r.selections + 1) ↔
        r.selections = 2 ^ 64 - 1)) ∧
    ∀ card record, x.after.store.cards.get? card = some record →
      record.attempts ≤ settings.maxAttempts := by
  have initially : (State.initial .empty randomness).store.Bounded settings.maxAttempts :=
    Store.bounded_empty _
  have bounded := bounded_of_mem (Nat.le_refl _) mem initially
  have interrupted := exchange_eq_interrupted suite settings x.delivery x.before bounded.counts
  rw [← exchange_of_mem mem] at interrupted
  refine ⟨?_, ?_, ?_, (bounded_of_course (Nat.le_refl _) (course_of_mem mem) bounded).attempts⟩
  · intro stops
    simpa [Decryption.Stuck, stops] using interrupted
  · intro wraps
    simpa [Decryption.Stuck, wraps] using interrupted
  · intro place r found
    have bound := bounded.counts place r found
    exact ⟨bound, Overflow.succ_ne_iff bound⟩

end Node

/-! ### A message that is interrupted -/

namespace Small

open Node Message.Computation

/-- The request to generate return codes that brings the largest number of selections. -/
def immense : Message.Generation.SignedRequest :=
  let request := generation setA cardC
  { request with
    payload := { request.payload with
      payload := { request.payload.payload with correctness := ⟨2 ^ 64 - 1⟩ } } }

/-- The store after the registration of the card with the largest number of selections. -/
def immenseStore : Store :=
  (Node.Generation.register immense.payload.payload .empty).addCount
    (Node.Generation.count immense.payload.payload)

/-- The vote of the card with no partial choice codes. -/
def emptyVote : String := voteWith "[]" "[\"2\"]"

/-- The request to decrypt with that vote. -/
def emptyRequest : Request := (decryption setA).withVoteInput ((voteInput setA).withText emptyVote)

/-- What that request asks for. -/
def emptyInput : Input :=
  { decryptionInput setA with voteInput := some ((voteInput setA).withText emptyVote) }

/-- The registration and then a request to decrypt, on their way. -/
def afterImmense (request : Request) : List Delivery :=
  [⟨keyring.service, .generation, Message.Generation.requestCodec.writeFrame .cbor immense⟩,
    ⟨keyring.service, .decryption, requestCodec.writeFrame .cbor request⟩]

/-- The small functions, in a build with or without overflow checks. -/
def build (overflow : Overflow) : Suite := { suite with overflow := overflow }

theorem readFrame_immense :
    Message.Generation.requestCodec.readFrame
      (Message.Generation.requestCodec.writeFrame .cbor immense) = .ok (.cbor, immense) :=
  Wire.Codec.readFrame_writeFrame 9 (by decide +kernel) (by decide) (by decide +kernel)
    (toOption_eq_some.1 (by decide +kernel))

theorem readFrame_decryption :
    requestCodec.readFrame (requestCodec.writeFrame .cbor (decryption setA)) =
      .ok (.cbor, decryption setA) :=
  Wire.Codec.readFrame_writeFrame 9 (by decide +kernel) (by decide) (by decide +kernel)
    (toOption_eq_some.1 (by decide +kernel))

theorem readFrame_emptyRequest :
    requestCodec.readFrame (requestCodec.writeFrame .cbor emptyRequest) =
      .ok (.cbor, emptyRequest) :=
  Wire.Codec.readFrame_writeFrame 9 (by decide +kernel) (by decide) (by decide +kernel)
    (toOption_eq_some.1 (by decide +kernel))

theorem store_immense (overflow : Overflow) (state : State) (empty : state.store = .empty) :
    ((⟨keyring.service, .generation,
      Message.Generation.requestCodec.writeFrame .cbor immense⟩ : Delivery).exchange
        (build overflow) .default state).after.store = immenseStore := by
  rw [after_generation (build overflow) .default keyring.service readFrame_immense, immenseStore,
    ← empty]
  cases overflow <;>
    exact Generation.store_process (setKeys setA 3).generation.secret (by decide +kernel)
      (toOption_eq_some.1 (by decide +kernel)) (by decide +kernel) state

/-- The request to decrypt comes to a node that has stored the largest number of selections. -/
theorem exists_after_immense (overflow : Overflow) (request : Request) :
    ∃ first second, history (build overflow) .default (.initial .empty (stream 48))
        (afterImmense request) = [first, second] ∧
      second.delivery = ⟨keyring.service, .decryption, requestCodec.writeFrame .cbor request⟩ ∧
      second.before.store = immenseStore := by
  refine ⟨_, _, rfl, rfl, ?_⟩
  rw [Delivery.before_exchange]
  exact store_immense overflow _ rfl

theorem overflows_decryption :
    Decryption.Overflows keyring.service immenseStore (decryption setA) (decryptionInput setA)
      (voteInput setA) group readVote [2] where
  payload := rfl
  fields := by decide +kernel
  accepted := toOption_eq_some.1 (by decide +kernel)
  unrecorded := by decide +kernel
  voted := toOption_eq_some.1 (by decide +kernel)
  listed := rfl
  largest := toOption_eq_some.1 (by decide +kernel)

theorem overflows_emptyRequest :
    Decryption.Overflows keyring.service immenseStore emptyRequest emptyInput
      ((voteInput setA).withText emptyVote) group { readVote with encryptedPartialCodes := [] }
      [2] where
  payload := rfl
  fields := by decide +kernel
  accepted := toOption_eq_some.1 (by decide +kernel)
  unrecorded := by decide +kernel
  voted := toOption_eq_some.1 (by decide +kernel)
  listed := rfl
  largest := toOption_eq_some.1 (by decide +kernel)

theorem runsOut_emptyRequest :
    Decryption.RunsOut group { readVote with encryptedPartialCodes := [] } [2] where
  empty := rfl
  nonempty := by decide
  members := by decide +kernel
  raised := toOption_eq_some.1 (by decide +kernel)
  options := toOption_eq_some.1 (by decide +kernel)

end Small

namespace Node

/-- Runs in which the second message is interrupted: in a build with overflow checks at a list of
two codes, and in one without them at an empty list. -/
theorem exists_interrupted_handling :
    (∃ pre x, history (Small.build .stops) .default (.initial .empty (Small.stream 48))
        (Small.afterImmense (Small.decryption Small.setA)) = pre ++ [x] ∧
      x.handled.result = .error .interrupted) ∧
    ∃ pre x, history (Small.build .wraps) .default (.initial .empty (Small.stream 48))
        (Small.afterImmense Small.emptyRequest) = pre ++ [x] ∧
      x.handled.result = .error .interrupted := by
  constructor
  · obtain ⟨first, second, run, delivery, store⟩ :=
      Small.exists_after_immense .stops (Small.decryption Small.setA)
    have mem : second ∈ history (Small.build .stops) .default (.initial .empty (Small.stream 48))
        (Small.afterImmense (Small.decryption Small.setA)) := by simp [run]
    refine ⟨[first], second, run, ((handling_is_interrupted_iff mem).1 rfl).2 ?_⟩
    rw [delivery, store]
    exact ⟨rfl, _, _, Small.readFrame_decryption, _, _, _, _, _, Small.overflows_decryption⟩
  · obtain ⟨first, second, run, delivery, store⟩ :=
      Small.exists_after_immense .wraps Small.emptyRequest
    have mem : second ∈ history (Small.build .wraps) .default (.initial .empty (Small.stream 48))
        (Small.afterImmense Small.emptyRequest) := by simp [run]
    refine ⟨[first], second, run, ((handling_is_interrupted_iff mem).2.1 rfl).2 ?_⟩
    rw [delivery, store]
    exact ⟨rfl, _, _, Small.readFrame_emptyRequest, _, _, _, _, _, Small.overflows_emptyRequest,
      Small.runsOut_emptyRequest⟩

end Node
end ControlComponent
