import ControlComponent.Store.Record

/-!
Locks on cards. What is done to a card is done while its lock is held; a card has an entry among the
locks as long as anyone holds its lock.
-/

namespace ControlComponent

/-- The locks that are held, the latest first. -/
structure CardLocks where
  held : List Place
deriving DecidableEq

namespace CardLocks

/-- No lock is held. -/
def none : CardLocks := ⟨[]⟩

/-- The locks with that of a card held once more. -/
def acquire (locks : CardLocks) (card : Place) : CardLocks := ⟨card :: locks.held⟩

/-- The locks with that of a card held once less. -/
def release (locks : CardLocks) (card : Place) : CardLocks := ⟨locks.held.erase card⟩

/-- The number of cards that have an entry. -/
def size (locks : CardLocks) : Nat := locks.held.eraseDups.length

@[simp] theorem release_acquire (locks : CardLocks) (card : Place) :
    (locks.acquire card).release card = locks := by
  simp [acquire, release]

end CardLocks
end ControlComponent
