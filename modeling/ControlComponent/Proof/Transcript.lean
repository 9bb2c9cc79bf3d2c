import ControlComponent.Randomness
import ControlComponent.Suite

/-!
What a proof's challenge is computed from: the group, the values the proof is about, the values the
prover committed to, and the texts that tie the proof to its occasion, each in a list of its own.
-/

namespace ControlComponent.Proof

/-- What is hashed for a challenge. -/
def transcript (group : Group) (statement commitment : List Nat) (auxiliary : List String) :
    HashTree :=
  .list [.integers [group.p, group.q, group.g], .integers statement, .integers commitment,
    .texts auxiliary]

/-- The challenge of a proof, an exponent of the group. -/
def challenge (suite : Suite) (group : Group) (statement commitment : List Nat)
    (auxiliary : List String) : Nat :=
  suite.hashToExponent (transcript group statement commitment auxiliary) group

/-- The one group that elements belong to. -/
def commonGroup : List Element → Except Error Group
  | [] => .error (.invalidProofInput .noElements)
  | first :: rest =>
    if rest.any (·.group ≠ first.group) then .error .groupMismatch else .ok first.group

/-- Elements have a group in common if there are any and all of them are of that group. -/
theorem commonGroup_eq_ok {elements : List Element} {group : Group} :
    commonGroup elements = .ok group ↔ elements ≠ [] ∧ ∀ a ∈ elements, a.group = group := by
  cases elements with
  | nil => simp [commonGroup]
  | cons first rest =>
    rw [commonGroup]
    constructor
    · intro common
      split at common
      · cases common
      · rename_i same
        cases common
        simpa using same
    · rintro ⟨-, all⟩
      obtain ⟨rfl, same⟩ := List.forall_mem_cons.1 all
      rw [if_neg (by simpa using same)]

/-- The answer to a challenge, from the number behind the commitment and the secret. -/
def respond (group : Group) (nonce challenge secret : Nat) : Nat :=
  (nonce + challenge * secret) % group.q

theorem respond_lt (group : Group) (nonce challenge secret : Nat) :
    respond group nonce challenge secret < group.q := group.mod_q_lt _

end ControlComponent.Proof
