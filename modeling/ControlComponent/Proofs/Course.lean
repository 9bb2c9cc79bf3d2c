import ControlComponent.Proofs.Effect
import ControlComponent.Proofs.Outcome
import ControlComponent.Proofs.Run

/-!
The courses that the handling of a message can take.

There are four: nothing is stored and nothing replied, or one of the three engines has gone through
all of its checks and has stored what it stores, and replies if it can sign the answer. Whatever is
to be shown of all messages is shown for these four.
-/

namespace ControlComponent.Node

open Message.Computation

variable {suite : Suite} {settings : Settings}

/-- The card that a request is for. -/
def requestCard (request : Request) : Place := ⟨request.electionId, request.cardId⟩

theorem replied_iff {x : Exchange} :
    x.replied = true ↔ ∃ reply, x.handled.result = .ok (some reply) := by
  unfold Exchange.replied
  split <;> simp_all

/-- The course of an exchange, with all that is known of it. -/
inductive Exchange.Course (suite : Suite) (settings : Settings) (x : Exchange) : Prop where
  | refused (same : x.after.store = x.before.store) (unanswered : x.replied = false)
  | generated {encoding : Wire.Encoding} {secret : ElGamal.SecretKey}
      {ready : List Generation.Ready} (request : Message.Generation.SignedRequest)
      (kind : x.delivery.kind = .generation)
      (read : Message.Generation.requestCodec.readFrame x.delivery.frame = .ok (encoding, request))
      (authorized : Generation.authorize suite x.delivery.keys request = .ok secret)
      (prepared : Generation.prepareAll suite secret.group secret.first
        request.payload.payload.inputs = (ready, none))
      (stored : x.after.store =
        (Generation.register request.payload.payload x.before.store).addCount
          (Generation.count request.payload.payload))
      (answer : ∀ reply, x.handled.result = .ok (some reply) ↔
        ∃ signed, Generation.respond suite x.delivery.keys settings.nodeId request.payload.payload
            secret.group (Generation.answerAll suite secret.group request.payload.payload.electionId
              settings.nodeId ready x.before.randomness).1 = .ok signed ∧
          reply = Message.Generation.responseCodec.writeFrame encoding
            ⟨request.correlationId, request.requestId, signed⟩)
  | decrypted {encoding : Wire.Encoding} {input : Input} {voteInput : VoteInput} {group : Group}
      {gamma : Nat} {secret : ElGamal.SecretKey} {share : DecryptionShare}
      (request : Request) (after : State)
      (kind : x.delivery.kind = .decryption)
      (read : requestCodec.readFrame x.delivery.frame = .ok (encoding, request))
      (passed : Decryption.Passed suite x.delivery.keys x.before.store request input voteInput group
        gamma secret share)
      (absent : x.before.store.cards.get? (requestCard request) = none)
      (stored : x.after.store = x.before.store.putCard (.new request.electionId request.cardId))
      (answer : ∀ reply, x.handled.result = .ok (some reply) ↔
        ∃ response, (Decryption.respond suite x.delivery.keys request share after).result =
            .ok response ∧ reply = decryptionCodec.writeFrame encoding response)
  | exponentiated {encoding : Wire.Encoding} {group : Group} {values : List Nat}
      {master : ElGamal.SecretKey} {share : ExponentiationShare}
      (request : Request) (input : Input) (record : CardRecord) (after : State)
      (kind : x.delivery.kind = .exponentiation)
      (read : requestCodec.readFrame x.delivery.frame = .ok (encoding, request))
      (passed : Exponentiation.Passed suite x.delivery.keys settings.nodeId settings.maxAttempts
        x.before.store request input group record values master share)
      (stored : x.after.store =
        x.before.store.putCard ((Exponentiation.Phase.of input).advance record))
      (answer : ∀ reply, x.handled.result = .ok (some reply) ↔
        ∃ response, (Exponentiation.respond suite x.delivery.keys request share after).result =
            .ok response ∧ reply = exponentiationCodec.writeFrame encoding response)

/-- An engine that does not come to a result neither stores nor replies. -/
theorem course_of_refused {kind : Message.Kind} {requests : Wire.Codec α}
    {responses : Wire.Codec β} {process : α → State → Step β} {encoding : Wire.Encoding}
    {request : α} {x : Exchange}
    (handled : x.handled.result =
      (handleWith kind requests responses process x.delivery.frame x.before).result)
    (left : x.handled.state =
      (handleWith kind requests responses process x.delivery.frame x.before).state)
    (read : requests.readFrame x.delivery.frame = .ok (encoding, request))
    (refused : (process request x.before).Refused x.before) : x.Course suite settings := by
  obtain ⟨⟨refusal, result⟩, same⟩ := refused
  refine .refused ?_ ?_
  · rw [Exchange.after, left, state_handleWith read, same]
  · rw [Bool.eq_false_iff, ne_eq, replied_iff, handled]
    simp [result_handleWith_some read, result]

/-- A message that cannot be read is neither stored nor replied to. -/
theorem course_of_unread {kind : Message.Kind} {requests : Wire.Codec α}
    {responses : Wire.Codec β} {process : α → State → Step β} {error : Error} {x : Exchange}
    (handled : x.handled.result =
      (handleWith kind requests responses process x.delivery.frame x.before).result)
    (left : x.handled.state =
      (handleWith kind requests responses process x.delivery.frame x.before).state)
    (unread : requests.readFrame x.delivery.frame = .error error) : x.Course suite settings := by
  refine .refused ?_ ?_
  · rw [Exchange.after, left, handleWith_unread unread]
  · rw [Bool.eq_false_iff, ne_eq, replied_iff, handled, handleWith_unread unread]
    rintro ⟨_, ⟨⟩⟩

theorem generation_course (keys : Key.Service) (frame : Bytes) (state : State) :
    ((⟨keys, .generation, frame⟩ : Delivery).exchange suite settings state).Course suite
      settings := by
  cases read : Message.Generation.requestCodec.readFrame frame with
  | error error => exact course_of_unread rfl rfl read
  | ok pair =>
    obtain ⟨encoding, request⟩ := pair
    rcases Generation.process_cases suite keys settings.nodeId request state with
      refused | ⟨secret, _, -, authorized, prepared, stored, result⟩
    · exact course_of_refused rfl rfl read refused
    · refine .generated request rfl read authorized prepared ?_ ?_
      · exact (congrArg State.store (state_handleWith read state)).trans stored
      · intro reply
        refine (result_handleWith_some read).trans ?_
        rw [result]
        simp only [map_eq_ok, mapError_eq_ok]
        constructor
        · rintro ⟨_, ⟨signed, responded, rfl⟩, same⟩
          exact ⟨signed, responded, same⟩
        · rintro ⟨signed, responded, same⟩
          exact ⟨_, ⟨signed, responded, rfl⟩, same⟩

theorem decryption_course (keys : Key.Service) (frame : Bytes) (state : State) :
    ((⟨keys, .decryption, frame⟩ : Delivery).exchange suite settings state).Course suite
      settings := by
  cases read : requestCodec.readFrame frame with
  | error error => exact course_of_unread rfl rfl read
  | ok pair =>
    obtain ⟨encoding, request⟩ := pair
    rcases Decryption.process_cases suite keys settings.nodeId state.store request state with
      refused | ⟨_, _, _, _, _, share, store, after, passed, -, added, stored, result⟩
    · exact course_of_refused rfl rfl read refused
    · obtain ⟨absent, rfl⟩ := Store.addCard?_eq_some.1 added
      refine .decrypted request after rfl read passed absent ?_ ?_
      · exact (congrArg State.store (state_handleWith read state)).trans stored
      · intro reply
        exact (result_handleWith_some read).trans (by rw [result]; exact .rfl)

theorem exponentiation_course (keys : Key.Service) (frame : Bytes) (state : State) :
    ((⟨keys, .exponentiation, frame⟩ : Delivery).exchange suite settings state).Course suite
      settings := by
  cases read : requestCodec.readFrame frame with
  | error error => exact course_of_unread rfl rfl read
  | ok pair =>
    obtain ⟨encoding, request⟩ := pair
    rcases Exponentiation.process_cases suite keys settings.nodeId settings.maxAttempts request
      state with
      refused | ⟨_, _, _, _, _, share, after, passed, stored, result⟩
    · exact course_of_refused rfl rfl read refused
    · refine .exponentiated request _ _ after rfl read passed ?_ ?_
      · exact (congrArg State.store (state_handleWith read state)).trans stored
      · intro reply
        exact (result_handleWith_some read).trans (by rw [result]; exact .rfl)

/-- Every message takes one of the four courses. -/
theorem exchange_course (suite : Suite) (settings : Settings) (d : Delivery) (state : State) :
    (d.exchange suite settings state).Course suite settings := by
  obtain ⟨keys, kind, frame⟩ := d
  cases kind with
  | generation => exact generation_course keys frame state
  | decryption => exact decryption_course keys frame state
  | exponentiation => exact exponentiation_course keys frame state

/-- Every reply is a frame. -/
theorem exists_frame {x : Exchange} (course : x.Course suite settings) {reply : Bytes}
    (replied : x.handled.result = .ok (some reply)) :
    ∃ (encoding : Wire.Encoding) (body : Bytes), reply = encoding.tag :: body := by
  cases course with
  | refused _ unanswered => cases unanswered.symm.trans (replied_iff.2 ⟨reply, replied⟩)
  | generated _ _ _ _ _ _ answer =>
    obtain ⟨_, _, rfl⟩ := (answer reply).1 replied
    exact ⟨_, _, rfl⟩
  | decrypted _ _ _ _ _ _ _ answer =>
    obtain ⟨_, _, rfl⟩ := (answer reply).1 replied
    exact ⟨_, _, rfl⟩
  | exponentiated _ _ _ _ _ _ _ _ answer =>
    obtain ⟨_, _, rfl⟩ := (answer reply).1 replied
    exact ⟨_, _, rfl⟩

/-! ### Readable messages -/

theorem after_generation (suite : Suite) (settings : Settings) (keys : Key.Service)
    {frame : Bytes} {encoding : Wire.Encoding} {request : Message.Generation.SignedRequest}
    (read : Message.Generation.requestCodec.readFrame frame = .ok (encoding, request))
    (state : State) :
    ((⟨keys, .generation, frame⟩ : Delivery).exchange suite settings state).after =
      (Generation.process suite keys settings.nodeId request state).state :=
  state_handleWith read state

theorem replied_decryption (suite : Suite) (settings : Settings) (keys : Key.Service)
    {frame : Bytes} {encoding : Wire.Encoding} {request : Request}
    (read : requestCodec.readFrame frame = .ok (encoding, request)) (state : State) :
    ((⟨keys, .decryption, frame⟩ : Delivery).exchange suite settings state).replied =
      (Decryption.process suite keys settings.nodeId state.store request state).result.isOk := by
  rw [Bool.eq_iff_iff, replied_iff]
  refine (exists_congr fun reply => result_handleWith_some read).trans ?_
  cases (Decryption.process suite keys settings.nodeId state.store request state).result <;>
    simp [Except.isOk, Except.toBool]

/-! ### Runs -/

section Runs

variable {state : State} {messages : List Delivery} {pre post : List Exchange} {x : Exchange}

/-- Every exchange of a run takes one of the four courses. -/
theorem course_of_mem (mem : x ∈ history suite settings state messages) :
    x.Course suite settings :=
  exchange_of_mem mem ▸ exchange_course suite settings x.delivery x.before

theorem course_of_split (split : history suite settings state messages = pre ++ x :: post) :
    x.Course suite settings :=
  course_of_mem (split ▸ List.mem_append_right pre (List.mem_cons_self ..))

/-- What does not hold of the store in the beginning but before some message has come to hold in the
course of an earlier message. -/
theorem exists_course {P : Store → Prop}
    (split : history suite settings state messages = pre ++ x :: post)
    (initially : ¬ P state.store) (eventually : P x.before.store) :
    ∃ y ∈ pre, y.Course suite settings ∧ ¬ P y.before.store ∧ P y.after.store := by
  obtain ⟨y, mem, unlike, like⟩ := exists_first split initially eventually
  exact ⟨y, mem, course_of_mem (split ▸ List.mem_append_left _ mem), unlike, like⟩

/-- What holds of the store in the beginning, and after every message before which it holds, holds
before every message. -/
theorem holds_of_mem {P : Store → Prop} (mem : x ∈ history suite settings state messages)
    (initially : P state.store)
    (kept : ∀ y : Exchange, y.Course suite settings → P y.before.store → P y.after.store) :
    P x.before.store := by
  induction messages generalizing state with
  | nil => cases mem
  | cons d rest ih =>
    rcases List.mem_cons.1 mem with rfl | later
    · exact initially
    · exact ih later (kept _ (exchange_course suite settings d state) initially)

end Runs

end ControlComponent.Node
