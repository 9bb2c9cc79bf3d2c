import ControlComponent.Proofs.Alike
import ControlComponent.Proofs.Bounded
import ControlComponent.Proofs.Small

/-!
Restarts.

Whoever runs a node may stop it between two messages, keep the text of its store, and go on with a
new node that reads the store from the text. The new node has nothing else of the old one: no locks
are held, no proofs were made, and its randomness is its own. None of this can be told from what the
node makes of messages, except that the nonces of proofs are others.
-/

namespace ControlComponent.Node

/-! ### Runs with restarts -/

/-- A message on its way to a node, and the randomness that the node is restarted with before the
message arrives, if it is. -/
structure Arrival where
  restart : Option Randomness
  delivery : Delivery

/-- The state of a new node whose store is read from the text that was written of a node's store. -/
def State.restarted (state : State) (r : Randomness) : Except Wire.Fault State :=
  (Store.ofBytes state.store.toBytes).map (State.initial · r)

/-- The state in which a message finds the node. -/
def Arrival.found (a : Arrival) (state : State) : Except Wire.Fault State :=
  match a.restart with
  | none => .ok state
  | some r => state.restarted r

/-- The history of messages that a node handles one after another, restarted in between. It goes on
only as long as the text of the store can be read. -/
def restartedHistory (suite : Suite) (settings : Settings) :
    State → List Arrival → Except Wire.Fault (List Exchange)
  | _, [] => .ok []
  | state, a :: rest => do
    let found ← a.found state
    let x := a.delivery.exchange suite settings found
    let later ← restartedHistory suite settings x.after rest
    return x :: later

/-- The state after a history that began in a state. -/
def lastState (state : State) (exchanges : List Exchange) : State :=
  exchanges.foldl (fun _ x => x.after) state

/-- Whether two exchanges are of one message that has come to the same end, with the same stores
before and after. -/
structure Exchange.Alike (suite : Suite) (x y : Exchange) : Prop where
  delivery : x.delivery = y.delivery
  before : x.before.store = y.before.store
  result : AlikeResult suite x.delivery.kind x.handled.result y.handled.result
  after : x.after.store = y.after.store

/-! ### One message -/

variable {suite : Suite} {settings : Settings} {state state' : State} {limit : Nat}

theorem exchange_alike (suite : Suite) (settings : Settings) (d : Delivery)
    (same : state.store = state'.store) :
    (d.exchange suite settings state).Alike suite (d.exchange suite settings state') := by
  obtain ⟨result, after⟩ := handle_alike suite settings d.keys d.kind d.frame same
  exact ⟨rfl, same, result, after⟩

/-- Restarted or not, a node has the store that it had. -/
theorem exists_found (small : limit < 2 ^ 32) (bounded : state.store.Bounded limit) (a : Arrival) :
    ∃ found, a.found state = .ok found ∧ found.store = state.store := by
  unfold Arrival.found
  cases a.restart with
  | none => exact ⟨state, rfl, rfl⟩
  | some r =>
    refine ⟨.initial state.store r, ?_, rfl⟩
    exact map_eq_ok.2 ⟨state.store, bounded.ofBytes_toBytes small, rfl⟩

/-! ### All messages -/

/-- **Restarting is invisible.** Take any messages, with whatever keys come with them, and restart a
node before any of them, with any randomness: its store is always read again, every message comes to
the same end as at a node that is never restarted, with the same stores before and after, and so the
final stores are the same, and the final store can be read again as well. The numbers in the initial
store fit their fields, as they do in every store that a node comes to have, and the limit on
attempts fits into 32 bits. -/
theorem restarting_is_invisible (suite : Suite) (settings : Settings)
    (small : settings.maxAttempts < 2 ^ 32) (same : state.store = state'.store)
    (bounded : state.store.Bounded (2 ^ 32 - 1)) (arrivals : List Arrival) :
    let steady := history suite settings state (arrivals.map (·.delivery))
    ∃ restarted, restartedHistory suite settings state' arrivals = .ok restarted ∧
      List.Forall₂ (Exchange.Alike suite) steady restarted ∧
      (lastState state steady).store = (lastState state' restarted).store ∧
      Store.ofBytes (lastState state steady).store.toBytes =
        .ok (lastState state steady).store := by
  induction arrivals generalizing state state' with
  | nil => exact ⟨[], rfl, .nil, same, bounded.ofBytes_toBytes (by decide)⟩
  | cons a rest ih =>
    obtain ⟨found, finds, store⟩ := exists_found (by decide) (same ▸ bounded) a
    have alike := exchange_alike suite settings a.delivery (same.trans store.symm)
    have course := exchange_course suite settings a.delivery state
    have after := bounded_of_course (Nat.le_pred_of_lt small) course bounded
    obtain ⟨restarted, runs, all, last, read⟩ := ih alike.after after
    refine ⟨_, ?_, .cons alike all, last, read⟩
    exact bind_eq_ok.2 ⟨found, finds, bind_eq_ok.2 ⟨restarted, runs, rfl⟩⟩

/-- A node that has registered a card gets a request to decrypt for the card twice, and is restarted
in between. -/
theorem restarting_is_invisible_of_small :
    let request : Delivery :=
      ⟨Small.keyring.service, .decryption, Small.decryptionFrame Small.setB⟩
    (Small.ready Small.setB).store.Bounded (2 ^ 32 - 1) ∧
    ∃ restarted, restartedHistory Small.suite .default (Small.ready Small.setB)
        [⟨none, request⟩, ⟨some (Small.stream 80), request⟩] = .ok restarted ∧
      List.Forall₂ (Exchange.Alike Small.suite)
        (history Small.suite .default (Small.ready Small.setB) [request, request]) restarted := by
  have bounded : (Small.ready Small.setB).store.Bounded (2 ^ 32 - 1) := by
    constructor
    · intro place r found
      have counts : (Small.ready Small.setB).store.counts.entries =
          [⟨Small.electionId, Small.setB, 1⟩] := rfl
      have mem := Table.mem_of_get? found
      rw [counts, List.mem_singleton] at mem
      rw [mem]
      decide
    · rintro card record ⟨⟩
  obtain ⟨restarted, runs, all, -, -⟩ := restarting_is_invisible Small.suite .default (by decide)
    rfl bounded [⟨none, _⟩, ⟨some (Small.stream 80), _⟩]
  exact ⟨bounded, restarted, runs, all⟩

end ControlComponent.Node
