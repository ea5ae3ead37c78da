import DeferredText.Text.Quoted

/-!
Contract: the queue of one render cycle.

Rendering only appends to a waitlist and resolution only takes from its front.

Owns: the queue with its cycle id, and its description.

Does not own: what is queued (`Resolve.State`) and which waitlist is current
(`Cache.Session`).
-/

namespace DeferredText

structure Waitlist (α : Type) where
  cycleId : String
  pending : List α
deriving DecidableEq, Repr

namespace Waitlist

variable {α : Type}

def empty (cycleId : String) : Waitlist α :=
  ⟨cycleId, []⟩

def append
    (waitlist : Waitlist α)
    (item : α) : Waitlist α :=
  { waitlist with pending := waitlist.pending ++ [item] }

/-- The oldest item and the waitlist without it. -/
def take? (waitlist : Waitlist α) : Option (α × Waitlist α) :=
  match waitlist.pending with
  | [] => none
  | first :: rest => some (first, { waitlist with pending := rest })

/-- Drops every item and says how many there were. -/
def clear (waitlist : Waitlist α) : Nat × Waitlist α :=
  (waitlist.pending.length, { waitlist with pending := [] })

/-- Takes items until there are none or `limit` were taken, appending what each item
calls for. At least one item is taken if there is one. -/
def drain
    (added : α → List α) : Nat → Waitlist α → List α × Waitlist α
  | 0, waitlist => ([], waitlist)
  | limit + 1, waitlist =>
      match waitlist.take? with
      | none => ([], waitlist)
      | some (item, rest) =>
          let extended := (added item).foldl append rest
          let further := drain added limit extended
          (item :: further.1, further.2)

/-- A waitlist by its cycle id and size. -/
def describe (waitlist : Waitlist α) : String :=
  let identifier := quotedText waitlist.cycleId
  let count := waitlist.pending.length
  s!"Waitlist(cycle_id={identifier}, pending={count})"

end Waitlist

/-- The id of the cycle with the given number, in at least eight hexadecimal digits. -/
def cycleName (number : Nat) : String :=
  String.ofList (hexDigits 8 number)

end DeferredText
