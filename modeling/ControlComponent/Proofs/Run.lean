import ControlComponent.Node.Basic

/-!
Runs of a node: messages handled one after another.

With every message comes what the keys answer while it is handled. For one message an engine asks
nothing twice, so a run covers keys that fail, recover and change from any question to the next.
What a run leaves is its history: every message with the state it was handled in and what the node
made of it.
-/

namespace ControlComponent.Node

/-- A message on its way to a node, and the keys as they are when it arrives. -/
structure Delivery where
  keys : Key.Service
  kind : Message.Kind
  frame : Bytes

/-- A message that has been handled. -/
structure Exchange where
  delivery : Delivery
  before : State
  handled : Handled

namespace Exchange

/-- The state that is left. -/
def after (x : Exchange) : State := x.handled.state

/-- Whether the node sent a reply. -/
def replied (x : Exchange) : Bool :=
  match x.handled.result with
  | .ok (some _) => true
  | _ => false

end Exchange

/-- How a node takes a message. -/
def Delivery.exchange (suite : Suite) (settings : Settings) (d : Delivery) (state : State) :
    Exchange :=
  ⟨d, state, handle suite settings d.keys d.kind d.frame state⟩

@[simp] theorem Delivery.before_exchange (suite : Suite) (settings : Settings) (d : Delivery)
    (state : State) : (d.exchange suite settings state).before = state := rfl

/-- The history of messages that a node handles one after another. -/
def history (suite : Suite) (settings : Settings) : State → List Delivery → List Exchange
  | _, [] => []
  | state, d :: rest =>
    let x := d.exchange suite settings state
    x :: history suite settings x.after rest

variable {suite : Suite} {settings : Settings}

/-- Every exchange of a history is the handling of its message in the state before it. -/
theorem exchange_of_mem {state : State} {messages : List Delivery} {x : Exchange}
    (mem : x ∈ history suite settings state messages) :
    x = x.delivery.exchange suite settings x.before := by
  induction messages generalizing state with
  | nil => cases mem
  | cons d rest ih =>
    rcases List.mem_cons.1 mem with rfl | later
    · rfl
    · exact ih later

/-- Only messages that are sent are handled. -/
theorem delivery_mem {state : State} {messages : List Delivery} {x : Exchange}
    (mem : x ∈ history suite settings state messages) : x.delivery ∈ messages := by
  induction messages generalizing state with
  | nil => cases mem
  | cons d rest ih =>
    rcases List.mem_cons.1 mem with rfl | later
    · exact List.mem_cons_self ..
    · exact List.mem_cons_of_mem _ (ih later)

/-- What does not hold of the store in the beginning but before some message has come to hold with
an earlier message. -/
theorem exists_first {P : Store → Prop} {state : State} {messages : List Delivery}
    {pre post : List Exchange} {x : Exchange}
    (split : history suite settings state messages = pre ++ x :: post)
    (initially : ¬ P state.store) (eventually : P x.before.store) :
    ∃ y ∈ pre, ¬ P y.before.store ∧ P y.after.store := by
  induction messages generalizing state pre with
  | nil => simp [history] at split
  | cons d rest ih =>
    cases pre with
    | nil =>
      obtain ⟨rfl, -⟩ := List.cons.inj split
      exact absurd eventually initially
    | cons y pre =>
      obtain ⟨rfl, rest_split⟩ := List.cons.inj split
      by_cases now : P (d.exchange suite settings state).after.store
      · exact ⟨_, List.mem_cons_self .., initially, now⟩
      · obtain ⟨y, mem, earlier⟩ := ih rest_split now
        exact ⟨y, List.mem_cons_of_mem _ mem, earlier⟩

/-- What can happen at most so often: if every message uses up what it does of a budget that hangs
on the store, no more happens in a run than the budget was in the beginning. -/
theorem countP_le_budget {happens : Exchange → Bool} (budget : Store → Nat)
    (pays : ∀ (d : Delivery) (state : State),
      let x := d.exchange suite settings state
      budget x.after.store + (happens x).toNat ≤ budget state.store)
    (state : State) (messages : List Delivery) :
    (history suite settings state messages).countP happens ≤ budget state.store := by
  induction messages generalizing state with
  | nil => exact Nat.zero_le _
  | cons d rest ih =>
    have now := pays d state
    have later := ih (d.exchange suite settings state).after
    simp only [history, List.countP_cons]
    cases happened : happens (d.exchange suite settings state) <;>
      simp only [happened, Bool.toNat_true, Bool.toNat_false] at now ⊢ <;> simp <;> omega

end ControlComponent.Node
