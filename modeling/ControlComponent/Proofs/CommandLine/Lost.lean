import ControlComponent.Proofs.Binding
import ControlComponent.Proofs.CommandLine.Release

/-!
Replies without number.

If the state is never saved, every start finds the card as it was, and every invocation releases one
more reply to the same request. So no bound holds for all replies that are released: the bound there
is cannot do without the lost ones.
-/

namespace ControlComponent.Small

open CommandLine

/-! ### A disk -/

/-- A run without variables. -/
def surroundings : Surroundings := ⟨suite, .standard, fun _ => none, stream 48⟩

/-- The keyring in its container. -/
def container : Bytes :=
  keyring.wrap .standard "" (List.replicate Key.Vault.saltLength 0)
    (List.replicate Key.Vault.nonceLength 0)

/-- A disk with the keyring, the state after both registrations and the request to decrypt. There
may be a reply to it from before. -/
def disk (reply? : Option Bytes) : Disk where
  entries :=
    (reply?.toList.map fun reply => (["decryption.reply"], .file reply)) ++
      [(["keys"], .file container), (["state"], .file store.toBytes),
        (["decryption"], .file (decryptionFrame setB))]
  current := []

theorem read_keys (reply? : Option Bytes) : (disk reply?).read "keys" = .ok container := by
  cases reply? <;> rfl

theorem read_state (reply? : Option Bytes) : (disk reply?).read "state" = .ok store.toBytes := by
  cases reply? <;> rfl

theorem read_decryption (reply? : Option Bytes) :
    (disk reply?).read "decryption" = .ok (decryptionFrame setB) := by
  cases reply? <;> rfl

theorem write_reply (reply? : Option Bytes) (reply : Bytes) :
    (disk reply?).write "decryption.reply" reply = .ok (disk (some reply)) := by
  cases reply? <;> rfl

/-! ### A start -/

theorem ofBytes_keyring : Key.Keyring.ofBytes suite.signing keyring.toBytes = .ok keyring := by
  have readable : (Key.Keyring.ofBytes suite.signing keyring.toBytes).isOk = true := by
    decide +kernel
  have grouped := ((keyring_reachable .standard).sound Key.Sealing.honest_standard).grouped
  cases loaded : Key.Keyring.ofBytes suite.signing keyring.toBytes with
  | error fault => cases loaded ▸ readable
  | ok found => rw [Key.Keyring.ofBytes_toBytes grouped (by decide +kernel) loaded]

theorem unwrap_container :
    Key.Keyring.unwrap .standard suite.signing container "" = .ok keyring :=
  bind_eq_ok.2 ⟨_, Key.Vault.unwrap_wrap Key.Sealing.honest_standard rfl rfl _, ofBytes_keyring⟩

theorem ofBytes_store : Store.ofBytes store.toBytes = .ok store := by
  have readable : (Store.ofBytes store.toBytes).isOk = true := by decide +kernel
  cases read : Store.ofBytes store.toBytes with
  | error fault => cases read ▸ readable
  | ok found => rw [Store.ofBytes_toBytes read]

/-- A start finds the store. -/
theorem storeAt?_disk (reply? : Option Bytes) : (disk reply?).storeAt? "state" = some store := by
  have text : (Bytes.toText? store.toBytes).isSome = true :=
    Bytes.isSome_toText?_of_ascii (by decide +kernel)
  rw [Disk.storeAt?_of_present (Disk.contains_of_read (read_state reply?)), read_state]
  simp only [text, if_true, ofBytes_store]
  rfl

/-- What is the same for all messages. -/
def batch : Surroundings.Batch := ⟨.default, keyring.service, "state", none⟩

/-- How the keyring is opened. -/
def access : Access := ⟨some "keys", some ""⟩

theorem run_prepare (reply? : Option Bytes) :
    ((surroundings.prepare access none "state").run (disk reply?)).result =
      .ok (batch, store) := by
  have located : ((surroundings.locate access).run (disk reply?)).result =
      .ok ⟨"keys", ""⟩ := rfl
  have loaded : ((surroundings.load ⟨"keys", ""⟩).run (disk reply?)).result = .ok keyring := by
    refine (Script.Reads.contentOf _).run_bind_eq_ok.2 ⟨_, congrArg _ (read_keys reply?), ?_⟩
    refine (Script.Reads.orFail _ _).run_bind_eq_ok.2 ⟨container, rfl, ?_⟩
    exact Script.run_orFail_eq_ok.2 unwrap_container
  have given : Settings.ofEnvironment surroundings.lookup = .ok .default := rfl
  refine (surroundings.reads_locate access).run_bind_eq_ok.2 ⟨_, located, ?_⟩
  refine (surroundings.reads_load _).run_bind_eq_ok.2 ⟨_, loaded, ?_⟩
  refine (Script.Reads.orFail _ _).run_bind_eq_ok.2 ⟨_, Script.run_orFail_eq_ok.2 given, ?_⟩
  refine (Surroundings.reads_loadState _).run_bind_eq_ok.2
    ⟨_, toOption_eq_some.1 (storeAt?_disk reply?), ?_⟩
  rfl

/-! ### An invocation -/

/-- The card that the request is for. -/
def card : Place := Node.requestCard (decryption setB)

/-- What keeps the state from being saved. -/
def mishaps : List (Option Mishap) := [none, some ⟨.other "No space left on device", none⟩]

/-- The visit of the request. -/
def visit (reply? : Option Bytes) : Visit :=
  surroundings.visitOf batch "decryption" .decryption (decryptionFrame setB)
    (.initial store surroundings.randomness) (disk reply?) mishaps

theorem answers_visit (reply? : Option Bytes) :
    (visit reply?).exchange.answers .decryption card = true := by
  have replied : (visit reply?).exchange.replied = true :=
    replied_decryption_of_store (.initial store surroundings.randomness) rfl
  have asks : (visit reply?).exchange.delivery.asks? = some (.decryption, card) :=
    Node.asks?_decryption keyring.service readFrame_decryptionFrame
  simp [Node.Exchange.answers, replied, asks]

/-- The reply is written and the state is not saved. -/
theorem perform_visit (reply? : Option Bytes) :
    (visit reply?).isAnswered = true ∧ (visit reply?).isSaved = false ∧
      ∃ reply, (visit reply?).saving.disk = disk (some reply) := by
  have replied : (visit reply?).exchange.replied = true :=
    replied_decryption_of_store (.initial store surroundings.randomness) rfl
  obtain ⟨reply, result⟩ := Node.replied_iff.1 replied
  have written : (disk reply?).writeAmid (surroundings.expand "decryption" ++ ".reply") reply
      mishaps.head?.join = (.ok (), disk (some reply)) := by
    change (disk reply?).writeAmid "decryption.reply" reply none = _
    rw [Disk.writeAmid, write_reply]
  have answering : (visit reply?).answering =
      ⟨.ok false, [⟨"decryption.reply", reply, true⟩], disk (some reply), mishaps.tail⟩ := by
    rw [show (visit reply?).answering = _ from surroundings.answering_visitOf _ _ _ _ _ _ _ result,
      written]
    rfl
  unfold visit at answering ⊢
  refine ⟨?_, ?_, reply, ?_⟩
  · rw [Visit.isAnswered, answering]
    rfl
  · rw [Visit.isSaved, Surroundings.saving_visitOf, answering]
    rfl
  · rw [Surroundings.saving_visitOf, answering]
    rfl

theorem invocation_visit (reply? : Option Bytes) :
    surroundings.invocation access none "state" ["decryption"] (disk reply?) mishaps =
      [visit reply?] := by
  have told : ((batch.kindIn "decryption").run (disk reply?)).result = .ok .decryption := rfl
  have read : (disk reply?).read (surroundings.expand "decryption") = .ok (decryptionFrame setB) :=
    read_decryption reply?
  have replied : (visit reply?).exchange.replied = true :=
    replied_decryption_of_store (.initial store surroundings.randomness) rfl
  obtain ⟨reply, result⟩ := Node.replied_iff.1 replied
  have uninterrupted : (visit reply?).exchange.handled.isInterrupted = false := by
    rw [Node.Handled.isInterrupted, result]
  rw [Surroundings.invocation, run_prepare]
  exact Surroundings.visits_of_unsaved told read _ _ uninterrupted (perform_visit reply?).2.1

/-! ### Sessions -/

/-- An invocation for the request, with the state not saved. -/
def launch : Launch (surroundings.expand "state") where
  arrive := id
  keeps _ := rfl
  access := access
  kind := none
  inputs := ["decryption"]
  randomness := stream 48
  mishaps := mishaps

/-- Every invocation of a session releases a reply and loses it. -/
theorem session_launch (n : Nat) (reply? : Option Bytes) :
    let invocations := surroundings.session "state" (disk reply?) (List.replicate n launch)
    invocations.flatten.countP (·.releases .decryption card) = n ∧
      invocations.countP (fun vs => vs.getLast?.any (·.loses .decryption card)) = n := by
  induction n generalizing reply? with
  | zero => exact ⟨rfl, rfl⟩
  | succ n ih =>
    obtain ⟨answered, unsaved, reply, left⟩ := perform_visit reply?
    have releases : (visit reply?).releases .decryption card = true := by
      rw [Visit.releases, answers_visit, answered]
      rfl
    have loses : (visit reply?).loses .decryption card = true := by
      rw [Visit.loses, releases, unsaved]
      rfl
    have disk_after : ((surroundings.process access none "state" ["decryption"]).perform
        (disk reply?) mishaps).disk = disk (some reply) := by
      rw [(surroundings.perform_process ..).2, invocation_visit, ← left,
        Surroundings.diskAfter_cons, Surroundings.diskAfter_nil]
    have session : surroundings.session "state" (disk reply?) (List.replicate (n + 1) launch) =
        [visit reply?] ::
          surroundings.session "state" (disk (some reply)) (List.replicate n launch) := by
      rw [← disk_after, ← invocation_visit, List.replicate_succ, Surroundings.session]
      rfl
    obtain ⟨released, lost⟩ := ih (some reply)
    simp only [session]
    constructor
    · rw [List.flatten_cons, List.countP_append, released, List.countP_singleton, releases]
      exact Nat.add_comm 1 n
    · rw [List.countP_cons, lost, List.getLast?_singleton, Option.any_some, loses]
      rfl

end ControlComponent.Small

namespace ControlComponent.CommandLine.Surroundings

/-- Where states are not saved, no bound holds. For every number there is a session of so many
invocations that each release a reply to a decryption request for one and the same card. -/
theorem exists_session_releases (n : Nat) :
    ∃ (s : Surroundings) (statePath : String) (disk : Disk)
      (launches : List (Launch (s.expand statePath))) (card : Place),
      let invocations := s.session statePath disk launches
      launches.length = n ∧
      invocations.flatten.countP (·.releases .decryption card) = n ∧
      invocations.countP (fun vs => vs.getLast?.any (·.loses .decryption card)) = n :=
  ⟨Small.surroundings, "state", Small.disk none, List.replicate n Small.launch, Small.card,
    List.length_replicate, Small.session_launch n none⟩

end ControlComponent.CommandLine.Surroundings
