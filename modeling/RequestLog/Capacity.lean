import RequestLog.Fault

/-!
# Room for texts

A text is held as a whole, so one that would fill the memory is refused before any of it is written.
-/

namespace RequestLog

/-- Most characters that are held in one piece. -/
def textCapacity : Nat := 268435456

/-- A text of the given length can be held. -/
def ensureRoom (length : Nat) : Except Fault Unit :=
  if textCapacity < length then .error .noRoom else .ok ()

end RequestLog
