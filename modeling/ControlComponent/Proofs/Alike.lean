import ControlComponent.Proofs.Answer
import ControlComponent.Proofs.Kinds

/-!
What randomness changes.

What a node makes of a message depends on the message, on the keys and on the store, and on the
randomness that is left. The latter goes into the proofs of a reply and nowhere else: whatever the
randomness, the same messages are refused for the same reasons, the same is stored, and replies
differ in the nonces of their proofs and in the signatures over them only. The locks that are held
and the number of proofs that were made do not matter at all.
-/

namespace ControlComponent

open Wire (Codec)
open Signature (Scheme)

/-! ### Outcomes -/

/-- Whether two outcomes are the same error, or results that are related. -/
inductive Agree (R : α → β → Prop) : Except ε α → Except ε β → Prop where
  | error (e : ε) : Agree R (.error e) (.error e)
  | ok {a : α} {b : β} (related : R a b) : Agree R (.ok a) (.ok b)

theorem Agree.bind {R : α → β → Prop} {Q : α' → β' → Prop} {x : Except ε α} {y : Except ε β}
    {f : α → Except ε α'} {g : β → Except ε β'} (agree : Agree R x y)
    (next : ∀ a b, R a b → Agree Q (f a) (g b)) : Agree Q (x >>= f) (y >>= g) := by
  cases agree with
  | error e => exact .error e
  | ok related => exact next _ _ related

theorem Agree.mapError {R : α → β → Prop} {x : Except ε α} {y : Except ε β} (agree : Agree R x y)
    (f : ε → ε') : Agree R (x.mapError f) (y.mapError f) := by
  cases agree with
  | error e => exact .error (f e)
  | ok related => exact .ok related

theorem Agree.map {R : α → β → Prop} {Q : α' → β' → Prop} {x : Except ε α} {y : Except ε β}
    {f : α → α'} {g : β → β'} (agree : Agree R x y) (each : ∀ a b, R a b → Q (f a) (g b)) :
    Agree Q (x.map f) (y.map g) := by
  cases agree with
  | error e => exact .error e
  | ok related => exact .ok (each _ _ related)

/-! ### Proofs -/

/-- Whether two proofs differ in their nonces only. -/
def ExponentiationProof.Alike (suite : Suite) (p p' : ExponentiationProof) : Prop :=
  ∃ group bases images exponent auxiliary nonce nonce',
    p = prove suite group bases images exponent auxiliary nonce ∧
    p' = prove suite group bases images exponent auxiliary nonce'

theorem ExponentiationProof.generate_agree (suite : Suite) (s : Statement) (exponent : Nat)
    (auxiliary : List String) (r r' : Randomness) :
    Agree (fun made made' => made.1.Alike suite made'.1) (generate suite s exponent auxiliary r)
      (generate suite s exponent auxiliary r') := by
  unfold generate
  cases s.group with
  | error error => exact .error error
  | ok group =>
    rw [ok_bind, ok_bind]
    generalize r.below group.q = draw
    generalize r'.below group.q = draw'
    obtain ⟨nonce, rest⟩ := draw
    obtain ⟨nonce', rest'⟩ := draw'
    exact .ok ⟨group, _, _, _, _, nonce, nonce', rfl, rfl⟩

/-! ### Signatures -/

/-- Two payloads that are alike, each with a signature made with the same key. -/
structure Signed.Alike (scheme : Scheme) (c : Codec α) (alike : α → α → Prop)
    (s s' : Signed α) : Prop where
  payload : alike s.payload s'.payload
  signed : ∃ secret chain, sign scheme c secret chain s.payload = .ok s ∧
    sign scheme c secret chain s'.payload = .ok s'

/-- Whether a payload can be signed does not depend on the payload. -/
theorem Signed.sign_agree (scheme : Scheme) (c : Codec α) (secret : Signature.SecretKey)
    (chain : List Certificate) {alike : α → α → Prop} {payload payload' : α}
    (related : alike payload payload') :
    Agree (Signed.Alike scheme c alike) (sign scheme c secret chain payload)
      (sign scheme c secret chain payload') := by
  cases chain with
  | nil => exact .error _
  | cons leaf rest =>
    have signs : ∀ payload, sign scheme c secret (leaf :: rest) payload =
        if scheme.publicKey secret ≠ leaf.publicKey then .error .mismatchedPublicKeys
        else .ok ⟨payload, some ⟨scheme.sign secret (message c payload), leaf :: rest⟩⟩ := by
      intro payload
      rfl
    by_cases foreign : scheme.publicKey secret ≠ leaf.publicKey
    · rw [signs, signs, if_pos foreign, if_pos foreign]
      exact .error _
    · have made := signs payload
      have made' := signs payload'
      rw [if_neg foreign] at made made'
      rw [made, made']
      exact .ok ⟨related, secret, leaf :: rest, made, made'⟩

/-! ### Messages -/

namespace Message

/-- Whether two answers for a card differ in their proofs only. -/
structure Generation.Output.Alike (suite : Suite) (o o' : Output) : Prop where
  others : { o with
    partialCodesProof := o'.partialCodesProof
    confirmationKeyProof := o'.confirmationKeyProof } = o'
  partialCodesProof : o.partialCodesProof.Alike suite o'.partialCodesProof
  confirmationKeyProof : o.confirmationKeyProof.Alike suite o'.confirmationKeyProof

namespace Kind

/-- Whether two payloads of responses differ in their proofs only. -/
def AlikePayload (suite : Suite) : (kind : Kind) → kind.Payload → kind.Payload → Prop
  | .generation, p, p' =>
    { p with outputs := p'.outputs } = p' ∧
      List.Forall₂ (Generation.Output.Alike suite) p.outputs p'.outputs
  | .decryption, p, p' => { p with proof := p'.proof } = p' ∧ p.proof.Alike suite p'.proof
  | .exponentiation, p, p' => { p with proof := p'.proof } = p' ∧ p.proof.Alike suite p'.proof

/-- Whether two responses differ in the proofs in their payloads and in the signatures only. -/
def AlikeResponse (suite : Suite) : (kind : Kind) → kind.Response → kind.Response → Prop
  | .generation, r, r' =>
    { r with payload := r'.payload } = r' ∧
      Signed.Alike suite.signing Generation.Response.codec (AlikePayload suite .generation)
        r.payload r'.payload
  | .decryption, r, r' =>
    { r with payload := r'.payload } = r' ∧
      ∃ s s', r.payload = some s ∧ r'.payload = some s' ∧
        Signed.Alike suite.signing Computation.DecryptionShare.codec
          (AlikePayload suite .decryption) s s'
  | .exponentiation, r, r' =>
    { r with payload := r'.payload } = r' ∧
      ∃ s s', r.payload = some s ∧ r'.payload = some s' ∧
        Signed.Alike suite.signing Computation.ExponentiationShare.codec
          (AlikePayload suite .exponentiation) s s'

/-- Whether two replies are responses in one encoding that differ in their proofs and in the
signatures over them only. -/
def AlikeReply (suite : Suite) (kind : Kind) (reply reply' : Bytes) : Prop :=
  ∃ e response response', reply = kind.responseCodec.writeFrame e response ∧
    reply' = kind.responseCodec.writeFrame e response' ∧ kind.AlikeResponse suite response response'

end Kind
end Message

namespace Node

open Message

/-! ### Steps -/

/-- Whether two steps come to the same refusal or to related results, and leave the same store. -/
structure Step.Alike (R : α → β → Prop) (s : Step α) (t : Step β) : Prop where
  result : Agree R s.result t.result
  store : s.state.store = t.state.store

namespace Step

variable {R : α → β → Prop} {Q : α' → β' → Prop} {s : Step α} {t : Step β}

theorem alike_reject {state state' : State} (same : state.store = state'.store)
    (log log' : List Log.Line) (reason : Rejection) :
    Alike R (reject state log reason) (reject state' log' reason) :=
  ⟨.error _, same⟩

theorem alike_fail {state state' : State} (same : state.store = state'.store)
    (log log' : List Log.Line) (failure : Failure) :
    Alike R (fail state log failure) (fail state' log' failure) :=
  ⟨.error _, same⟩

/-- What follows on steps that are alike is alike if it is alike for related results. -/
theorem Alike.andThen (alike : s.Alike R t) {next : α → State → Step α'}
    {next' : β → State → Step β'}
    (each : ∀ a b state state', R a b → state.store = state'.store →
      (next a state).Alike Q (next' b state')) :
    (s.andThen next).Alike Q (t.andThen next') := by
  obtain ⟨result, store⟩ := alike
  unfold Step.andThen
  generalize s.result = x at result ⊢
  generalize t.result = y at result ⊢
  cases result with
  | error refusal => exact ⟨.error refusal, store⟩
  | ok related =>
    have later := each _ _ s.state t.state related store
    exact ⟨later.result, later.store⟩

theorem Alike.withLog (alike : s.Alike R t) (log log' : List Log.Line) :
    Step.Alike R { s with log := log } { t with log := log' } :=
  ⟨alike.result, alike.store⟩

theorem Alike.onReject (alike : s.Alike R t) (line line' : Rejection → Log.Line) :
    (s.onReject line).Alike R (t.onReject line') := by
  constructor
  · rw [result_onReject, result_onReject]
    exact alike.result
  · rw [state_onReject, state_onReject]
    exact alike.store

end Step

variable {suite : Suite} {keys : Key.Service} {state state' : State}

/-! ### Generation -/

namespace Generation

open Message.Generation

/-- Cards are answered alike. -/
theorem answerAll_alike (suite : Suite) (group : Group) (electionId : String) (nodeId : Nat)
    (ready : List Ready) (r r' : Randomness) :
    List.Forall₂ (Output.Alike suite) (answerAll suite group electionId nodeId ready r).1
      (answerAll suite group electionId nodeId ready r').1 := by
  induction ready generalizing r r' with
  | nil => exact .nil
  | cons card rest ih =>
    rw [answerAll_cons, answerAll_cons]
    generalize r.below group.q = first
    generalize r'.below group.q = first'
    obtain ⟨nonce₁, r₁⟩ := first
    obtain ⟨nonce₁', r₁'⟩ := first'
    dsimp only
    generalize r₁.below group.q = second
    generalize r₁'.below group.q = second'
    obtain ⟨nonce₂, r₂⟩ := second
    obtain ⟨nonce₂', r₂'⟩ := second'
    refine .cons ⟨rfl, ?_, ?_⟩ (ih r₂ r₂')
    · exact ⟨group, _, _, _, _, nonce₁, nonce₁', rfl, rfl⟩
    · exact ⟨group, _, _, _, _, nonce₂, nonce₂', rfl, rfl⟩

theorem respond_agree (keys : Key.Service) (nodeId : Nat)
    (payload : Message.Generation.Request) (group : Group) {outputs outputs' : List Output}
    (alike : List.Forall₂ (Output.Alike suite) outputs outputs') :
    Agree (Signed.Alike suite.signing Response.codec (Kind.AlikePayload suite .generation))
      (respond suite keys nodeId payload group outputs)
      (respond suite keys nodeId payload group outputs') := by
  unfold respond
  cases (keys.signingKey payload.electionId).mapError Failure.keys with
  | error failure => exact .error failure
  | ok secret =>
    cases (keys.chain payload.electionId).mapError Failure.keys with
    | error failure => exact .error failure
    | ok chain => exact (Signed.sign_agree _ _ secret chain ⟨rfl, alike⟩).mapError _

theorem conclude_alike (keys : Key.Service) (nodeId : Nat) (request : SignedRequest) (group : Group)
    {outputs outputs' : List Output} (alike : List.Forall₂ (Output.Alike suite) outputs outputs')
    (same : state.store = state'.store) :
    (conclude suite keys nodeId request group outputs state).Alike
      (Kind.AlikeResponse suite .generation)
      (conclude suite keys nodeId request group outputs' state') := by
  have responded := respond_agree keys nodeId request.payload.payload group alike
  unfold conclude
  dsimp only
  rw [same]
  generalize respond suite keys nodeId request.payload.payload group outputs = x at responded ⊢
  generalize respond suite keys nodeId request.payload.payload group outputs' = y at responded ⊢
  cases responded with
  | error failure => exact ⟨.error _, rfl⟩
  | ok related => exact ⟨.ok ⟨rfl, related⟩, rfl⟩

theorem process_alike (suite : Suite) (keys : Key.Service) (nodeId : Nat) (request : SignedRequest)
    (same : state.store = state'.store) :
    (process suite keys nodeId request state).Alike (Kind.AlikeResponse suite .generation)
      (process suite keys nodeId request state') := by
  unfold process
  dsimp only
  cases invalidFields request with
  | cons field fields => exact ⟨.error _, same⟩
  | nil =>
    cases authorize suite keys request with
    | error refusal => exact ⟨.error _, same⟩
    | ok secret =>
      dsimp only
      generalize prepareAll suite secret.group secret.first request.payload.payload.inputs =
        prepared
      obtain ⟨ready, obstacle⟩ := prepared
      have outputs := answerAll_alike suite secret.group request.payload.payload.electionId nodeId
        ready state.randomness state'.randomness
      cases obstacle with
      | some found => exact ⟨.error _, same⟩
      | none =>
        dsimp only
        refine (conclude_alike keys nodeId request secret.group outputs ?_).withLog _ _
        exact same

end Generation

/-! ### Decryption -/

open Message.Computation

namespace Decryption

theorem decrypt_alike (suite : Suite) (keys : Key.Service) (nodeId : Nat) (request : Request)
    (group : Group) (gamma : Nat) (same : state.store = state'.store) :
    (decrypt suite keys nodeId request group gamma state).Alike
      (Kind.AlikePayload suite .decryption)
      (decrypt suite keys nodeId request group gamma state') := by
  unfold decrypt
  cases keys.decryptionKey request.electionId request.setId with
  | error fault => exact Step.alike_reject same _ _ _
  | ok secret =>
    dsimp only
    cases group.member gamma with
    | error error => exact Step.alike_reject same _ _ _
    | ok gamma =>
      have generated := ExponentiationProof.generate_agree suite
        ⟨group.lift [group.g, gamma], [secret.publicKey.compress,
          ⟨group, group.product (secret.exponents.map (group.pow gamma))⟩]⟩ secret.compress
        [request.electionId, request.cardId, context, Text.Decimal.render nodeId]
        state.randomness state'.randomness
      dsimp only
      revert generated
      generalize ExponentiationProof.generate suite _ _ _ state.randomness = x
      generalize ExponentiationProof.generate suite _ _ _ state'.randomness = y
      intro generated
      cases generated with
      | error error => exact ⟨.error _, same⟩
      | ok related => exact ⟨.ok ⟨rfl, related⟩, same⟩

/-- The record of a decryption is left in the same stores. -/
theorem record_alike (request : Request) {share share' : DecryptionShare}
    (alike : Kind.AlikePayload suite .decryption share share')
    (same : state.store = state'.store) :
    (record request share state).Alike (Kind.AlikePayload suite .decryption)
      (record request share' state') := by
  unfold record
  rw [same]
  cases state'.store.addCard? (.new request.electionId request.cardId) with
  | none => exact Step.alike_reject same _ _ _
  | some store => exact ⟨.ok alike, rfl⟩

theorem locked_alike (suite : Suite) (keys : Key.Service) (nodeId : Nat) (found : Store)
    (request : Request) (input : Input) (voteInput : VoteInput) (group : Group)
    (same : state.store = state'.store) :
    (locked suite keys nodeId found request input voteInput group state).Alike
      (Kind.AlikePayload suite .decryption)
      (locked suite keys nodeId found request input voteInput group state') := by
  unfold locked
  cases examine suite keys found request input voteInput group with
  | error refusal =>
    cases refusal with
    | rejected reason => exact Step.alike_reject same _ _ _
    | failed failure => exact Step.alike_fail same _ _ _
  | ok gamma =>
    refine (decrypt_alike suite keys nodeId request group gamma same).andThen ?_
    intro share share' state state' alike same
    exact record_alike request alike same

theorem respond_alike (keys : Key.Service) (request : Request) {share share' : DecryptionShare}
    (alike : Kind.AlikePayload suite .decryption share share')
    (same : state.store = state'.store) :
    (respond suite keys request share state).Alike (Kind.AlikeResponse suite .decryption)
      (respond suite keys request share' state') := by
  unfold respond
  cases keys.signingKey request.electionId with
  | error fault => exact Step.alike_reject same _ _ _
  | ok secret =>
    cases keys.chain request.electionId with
    | error fault => exact Step.alike_reject same _ _ _
    | ok chain =>
      have signed := Signed.sign_agree suite.signing DecryptionShare.codec secret chain alike
      dsimp only
      generalize Signed.sign suite.signing DecryptionShare.codec secret chain share = x at signed ⊢
      generalize Signed.sign suite.signing DecryptionShare.codec secret chain share' = y
        at signed ⊢
      cases signed with
      | error error => exact Step.alike_fail same _ _ _
      | ok related => exact ⟨.ok ⟨rfl, _, _, rfl, rfl, related⟩, same⟩

theorem process_alike (suite : Suite) (keys : Key.Service) (nodeId : Nat) (found : Store)
    (request : Request) (same : state.store = state'.store) :
    (process suite keys nodeId found request state).Alike (Kind.AlikeResponse suite .decryption)
      (process suite keys nodeId found request state') := by
  unfold process
  cases request.payload with
  | none => exact Step.alike_fail same _ _ _
  | some input =>
    cases request.invalidFields with
    | cons field fields => exact Step.alike_fail same _ _ _
    | nil =>
      dsimp only
      cases accept keys request input with
      | error reason => exact Step.alike_reject same _ _ _
      | ok accepted =>
        obtain ⟨group, voteInput⟩ := accepted
        have locked := (locked_alike suite keys nodeId found request input voteInput group
          (show (state.acquire ⟨request.electionId, request.cardId⟩).store =
            (state'.acquire ⟨request.electionId, request.cardId⟩).store from same)).onReject
          (dropLine request) (dropLine request)
        dsimp only
        refine Step.Alike.andThen (R := Kind.AlikePayload suite .decryption) ?_ ?_
        · exact ⟨locked.result, locked.store⟩
        · intro share share' state state' alike same
          exact respond_alike keys request alike same

end Decryption

/-! ### Exponentiation -/

namespace Exponentiation

theorem locked_alike (suite : Suite) (keys : Key.Service) (nodeId maxAttempts : Nat)
    (request : Request) (input : Input) (phase : Phase) (group : Group)
    (same : state.store = state'.store) :
    (locked suite keys nodeId maxAttempts request input phase group state).Alike
      (Kind.AlikePayload suite .exponentiation)
      (locked suite keys nodeId maxAttempts request input phase group state') := by
  unfold locked
  rw [same]
  cases state'.store.card request.electionId request.cardId with
  | error fault => exact Step.alike_fail same _ _ _
  | ok record =>
    dsimp only
    cases examine group state'.store maxAttempts request input phase record with
    | error refusal => exact ⟨.error _, same⟩
    | ok values =>
      cases keys.generationKey request.electionId request.setId with
      | error fault => exact Step.alike_fail same _ _ _
      | ok master =>
        dsimp only
        cases VoterKey.deriveFor suite master.first phase.keyKind request.cardId group with
        | error error => exact Step.alike_reject same _ _ _
        | ok key =>
          dsimp only
          generalize state.randomness.below group.q = draw
          generalize state'.randomness.below group.q = draw'
          obtain ⟨nonce, rest⟩ := draw
          obtain ⟨nonce', rest'⟩ := draw'
          exact ⟨.ok ⟨rfl, group, _, _, _, _, nonce, nonce', rfl, rfl⟩, rfl⟩

theorem respond_alike (keys : Key.Service) (request : Request)
    {share share' : ExponentiationShare}
    (alike : Kind.AlikePayload suite .exponentiation share share')
    (same : state.store = state'.store) :
    (respond suite keys request share state).Alike (Kind.AlikeResponse suite .exponentiation)
      (respond suite keys request share' state') := by
  unfold respond
  cases keys.signingKey request.electionId with
  | error fault => exact Step.alike_fail same _ _ _
  | ok secret =>
    cases keys.chain request.electionId with
    | error fault => exact Step.alike_fail same _ _ _
    | ok chain =>
      have signed := Signed.sign_agree suite.signing ExponentiationShare.codec secret chain alike
      dsimp only
      generalize Signed.sign suite.signing ExponentiationShare.codec secret chain share = x
        at signed ⊢
      generalize Signed.sign suite.signing ExponentiationShare.codec secret chain share' = y
        at signed ⊢
      cases signed with
      | error error => exact Step.alike_fail same _ _ _
      | ok related => exact ⟨.ok ⟨rfl, _, _, rfl, rfl, related⟩, same⟩

theorem process_alike (suite : Suite) (keys : Key.Service) (nodeId maxAttempts : Nat)
    (request : Request) (same : state.store = state'.store) :
    (process suite keys nodeId maxAttempts request state).Alike
      (Kind.AlikeResponse suite .exponentiation)
      (process suite keys nodeId maxAttempts request state') := by
  unfold process
  cases request.payload with
  | none => exact Step.alike_fail same _ _ _
  | some input =>
    cases request.invalidFields with
    | cons field fields => exact Step.alike_fail same _ _ _
    | nil =>
      dsimp only
      cases keys.parameters request.electionId request.setId with
      | error fault => exact Step.alike_reject same _ _ _
      | ok group =>
        have locked := (locked_alike suite keys nodeId maxAttempts request input (Phase.of input)
          group (show (state.acquire ⟨request.electionId, request.cardId⟩).store =
            (state'.acquire ⟨request.electionId, request.cardId⟩).store from same)).onReject
          (dropLine request) (dropLine request)
        dsimp only
        refine Step.Alike.andThen (R := Kind.AlikePayload suite .exponentiation) ?_ ?_
        · exact ⟨locked.result, locked.store⟩
        · intro share share' state state' alike same
          exact respond_alike keys request alike same

end Exponentiation

/-! ### Messages -/

/-- A request of any kind is processed alike by nodes with the same store. -/
theorem engine_alike (suite : Suite) (settings : Settings) (keys : Key.Service) (kind : Kind)
    (request : kind.Request) (same : state.store = state'.store) :
    (engine suite settings keys kind request state).Alike (kind.AlikeResponse suite)
      (engine suite settings keys kind request state') := by
  cases kind with
  | generation => exact Generation.process_alike suite keys settings.nodeId request same
  | decryption =>
    simp only [engine, same]
    exact Decryption.process_alike suite keys settings.nodeId state'.store request same
  | exponentiation =>
    exact Exponentiation.process_alike suite keys settings.nodeId settings.maxAttempts request same

/-- Whether two results are the same error, no reply both, or replies that are alike. -/
def AlikeResult (suite : Suite) (kind : Kind) :
    Except Failure (Option Bytes) → Except Failure (Option Bytes) → Prop :=
  Agree (Option.Rel (kind.AlikeReply suite))

/-- Responses that are alike make replies that are alike, and there is none if there is none. -/
theorem Step.Alike.outcome {kind : Kind} {s t : Step kind.Response}
    (alike : s.Alike (kind.AlikeResponse suite) t) (e : Wire.Encoding) :
    AlikeResult suite kind (s.outcome.map (·.map (kind.responseCodec.writeFrame e)))
      (t.outcome.map (·.map (kind.responseCodec.writeFrame e))) := by
  have agree := alike.result
  unfold Step.outcome
  generalize s.result = x at agree ⊢
  generalize t.result = y at agree ⊢
  cases agree with
  | error refusal =>
    cases refusal with
    | rejected reason => exact .ok .none
    | failed failure => exact .error failure
  | ok related => exact .ok (.some ⟨e, _, _, rfl, rfl, related⟩)

/-- **What randomness changes.** Nodes with the same store, whatever else their states are, come to
the same end with a message and leave the same store: the same error, no reply, or replies that
differ in the nonces of their proofs and in the signatures over them only. -/
theorem handle_alike (suite : Suite) (settings : Settings) (keys : Key.Service) (kind : Kind)
    (frame : Bytes) (same : state.store = state'.store) :
    AlikeResult suite kind (handle suite settings keys kind frame state).result
        (handle suite settings keys kind frame state').result ∧
      (handle suite settings keys kind frame state).state.store =
        (handle suite settings keys kind frame state').state.store := by
  cases read : kind.requestCodec.readFrame frame with
  | error error =>
    have unread := handle_of_unread suite settings keys read
    rw [(unread state).1, (unread state).2, (unread state').1, (unread state').2]
    exact ⟨.error _, same⟩
  | ok pair =>
    obtain ⟨e, request⟩ := pair
    have handled := handle_of_read suite settings keys read
    have alike := engine_alike suite settings keys kind request same
    rw [(handled state).1, (handled state).2, (handled state').1, (handled state').2]
    exact ⟨alike.outcome e, alike.store⟩

end Node
end ControlComponent
