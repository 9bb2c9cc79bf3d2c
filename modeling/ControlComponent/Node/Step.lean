import ControlComponent.CardLocks
import ControlComponent.Log
import ControlComponent.Node.Refusal
import ControlComponent.Randomness

/-!
A step of a node: what becomes of one message, and of the node's state.
-/

namespace ControlComponent.Node

/-- What a node has between messages: its store, the randomness that is left, the number of
exponentiation proofs it has made, and the locks that are held. -/
structure State where
  store : Store
  randomness : Randomness
  proofs : Nat
  locks : CardLocks

namespace State

/-- A node that has done nothing yet. -/
def initial (store : Store) (randomness : Randomness) : State := ⟨store, randomness, 0, .none⟩

/-- The state with a card's lock taken. -/
def acquire (s : State) (card : Place) : State := { s with locks := s.locks.acquire card }

/-- The state with a card's lock given back. -/
def release (s : State) (card : Place) : State := { s with locks := s.locks.release card }

/-- The state with another store. -/
def withStore (s : State) (store : Store) : State := { s with store := store }

end State

/-- What becomes of a message: a result or what is in its way, the state that is left, and the log
lines. -/
structure Step (α : Type) where
  result : Except Refusal α
  state : State
  log : List Log.Line

namespace Step

/-- A step that ends in a rejection. -/
def reject (state : State) (log : List Log.Line) (reason : Rejection) : Step α :=
  ⟨.error (.rejected reason), state, log⟩

/-- A step that ends in a failure. -/
def fail (state : State) (log : List Log.Line) (failure : Failure) : Step α :=
  ⟨.error (.failed failure), state, log⟩

/-- What follows on the result of a step. -/
def andThen (s : Step α) (next : α → State → Step β) : Step β :=
  match s.result with
  | .error refusal => ⟨.error refusal, s.state, s.log⟩
  | .ok a =>
    let t := next a s.state
    { t with log := s.log ++ t.log }

/-- A step with one more line if it ends in a rejection. -/
def onReject (s : Step α) (line : Rejection → Log.Line) : Step α :=
  match s.result with
  | .error (.rejected reason) => { s with log := s.log ++ [line reason] }
  | _ => s

end Step
end ControlComponent.Node
