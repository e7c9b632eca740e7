/-!
# Channels

An unbounded channel with one receiver: messages wait in order, and the receiver
takes them one at a time. Once every sender is gone the channel is closed; what
it still holds is received first, and then the end.
-/

namespace BlockBuilder.Lib

/-- What a receiver gets when it polls a channel. -/
inductive Received (α : Type) where
  | message (a : α)
  | ended
  | pending

structure Channel (α : Type) where
  queue : List α
  closed : Bool

namespace Channel

variable {α : Type}

def new : Channel α := ⟨[], false⟩

def send (c : Channel α) (a : α) : Channel α := { c with queue := c.queue ++ [a] }

/-- The last sender is dropped. -/
def close (c : Channel α) : Channel α := { c with closed := true }

/-- `poll_recv`. -/
def pollRecv (c : Channel α) : Received α × Channel α :=
  match c.queue with
  | a :: queue => (.message a, { c with queue := queue })
  | [] => (if c.closed then .ended else .pending, c)

/-- A message that is received was the first in the queue. -/
theorem pollRecv_message {c c' : Channel α} {a : α} (h : c.pollRecv = (.message a, c')) :
    c.queue = a :: c'.queue := by
  unfold pollRecv at h
  split at h
  next b queue hqueue =>
    cases h
    exact hqueue
  next =>
    split at h
    next => cases h
    next => cases h

end Channel

end BlockBuilder.Lib
