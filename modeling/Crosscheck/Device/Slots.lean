import Crosscheck.Error

/-!
# Crosscheck.Device.Slots

**The slots of a device.** A device takes a limited number of calls at once, one at least. Every call
holds a slot until the device has really returned, so a call that nobody waits for any more still
counts.
-/

namespace Crosscheck

/-- The slots of a device. -/
structure Slots where
  /-- How many slots there are. -/
  capacity : Nat
  /-- How many of them are held. -/
  inUse : Nat
  /-- There is a slot. -/
  capacity_pos : 0 < capacity
  /-- Only slots that exist are held. -/
  inUse_le : inUse ≤ capacity
  deriving DecidableEq

namespace Slots

/-- Free slots for a number of calls at once, at least one. -/
def ofLimit (limit : Nat) : Slots where
  capacity := max 1 limit
  inUse := 0
  capacity_pos := by omega
  inUse_le := Nat.zero_le _

/-- Takes a slot. Where none is free and none is going to be released, the wait for one ends with the
deadline. -/
def acquire (s : Slots) (patience : Duration) : Except ExecutionFailure Slots :=
  if h : s.inUse < s.capacity then .ok { s with inUse := s.inUse + 1, inUse_le := h }
  else .error (.timeout patience)

/-- Gives a held slot back. -/
def release (s : Slots) : Slots :=
  { s with inUse := s.inUse - 1, inUse_le := Nat.le_trans (Nat.sub_le _ _) s.inUse_le }

end Slots

end Crosscheck
