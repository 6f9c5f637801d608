import ZoneBridge.Error

/-!
# The refresh channel

Entities announce that their state changed on a bounded broadcast channel, as seen by one
receiver. The channel keeps at most `capacity` signals that the receiver has not taken; its
capacity is the requested one rounded up to a power of two. A receiver that fell further behind
is told once how many signals it lost, in the words of whoever tells it (`LagTeller`), and then
goes on with the oldest kept one. A signal sent while nobody listens is not kept, and once every
sender is gone the receiver sees the channel closed after it has taken what is left.

Main statement: taking from a channel that holds no more than its capacity gives the oldest
signal (`take_of_le`).
-/

namespace ZoneBridge

/-- The least power of two that is at least `n` (and at least one). -/
def powerOfTwoAbove (n : Nat) : Nat := go n 1
where
  /-- Doubles `p` until it reaches `n`; `fuel` bounds the doublings. -/
  go : Nat → Nat → Nat
    | 0, p => p
    | fuel + 1, p => if n ≤ p then p else go fuel (2 * p)

example : powerOfTwoAbove 100 = 128 ∧ powerOfTwoAbove 4 = 4 ∧ powerOfTwoAbove 0 = 1 := by decide

/-- A broadcast channel as one receiver sees it. -/
structure Broadcast (α : Type) where
  capacity : Nat
  /-- Signals sent and not yet taken by the receiver, oldest first. -/
  unread : List α := []
  /-- Whether a receiver listens. -/
  listening : Bool := true
  /-- Whether a sender is left. -/
  sending : Bool := true
  /-- Who tells the receiver that it fell behind. -/
  teller : LagTeller := .receiver

namespace Broadcast

variable {α : Type}

/-- A channel with room for at least `n` signals. -/
def withCapacity (n : Nat) : Broadcast α := { capacity := powerOfTwoAbove n }

/-- Sends a signal; it is kept only while a receiver listens. -/
def send (c : Broadcast α) (a : α) : Broadcast α :=
  if c.listening then { c with unread := c.unread ++ [a] } else c

/-- The last sender is gone. -/
def closeSending (c : Broadcast α) : Broadcast α := { c with sending := false }

/-- Takes the oldest signal kept, if any. A receiver that fell behind by more than the capacity
first learns how many signals it lost, and loses them. After the last sender left, an empty
channel is closed. -/
def take (c : Broadcast α) : Except BridgeError (Option α) × Broadcast α :=
  if c.capacity < c.unread.length then
    let lost := c.unread.length - c.capacity
    (.error (.lagged lost c.teller), { c with unread := c.unread.drop lost })
  else
    match c.unread with
    | a :: rest => (.ok (some a), { c with unread := rest })
    | [] => if c.sending then (.ok none, c) else (.error .connectionClosed, c)

/-- Takes every signal kept, and a note of loss where the receiver fell behind. -/
def drain (c : Broadcast α) : List (Except BridgeError α) × Broadcast α :=
  go (c.unread.length + 1) c []
where
  /-- Takes until the channel is empty; `fuel` bounds the takes. -/
  go : Nat → Broadcast α → List (Except BridgeError α) → List (Except BridgeError α) × Broadcast α
    | 0, c, acc => (acc.reverse, c)
    | fuel + 1, c, acc =>
      match c.take with
      | (.ok (some a), c') => go fuel c' (.ok a :: acc)
      | (.ok none, c') => (acc.reverse, c')
      | (.error .connectionClosed, c') => (acc.reverse, c')
      | (.error e, c') => go fuel c' (.error e :: acc)

theorem take_of_le (c : Broadcast α) (a : α) (rest : List α) (hu : c.unread = a :: rest)
    (hc : c.unread.length ≤ c.capacity) : c.take = (.ok (some a), { c with unread := rest }) := by
  unfold take
  rw [if_neg (by omega), hu]

end Broadcast

end ZoneBridge
