import RequestLog.Settings.Problem

/-!
# Checking several values at once

A check either accepts with a value or refuses with complaints.  Checks are combined so that every
complaint is kept: the combination refuses as soon as one part does, with the complaints of all
parts in order.
-/

namespace RequestLog
namespace Settings

/-- The result of checking values. -/
inductive Checked (α : Type) where
  /-- All is well. -/
  | accepted (value : α)
  /-- Something is wrong; the complaints say what. -/
  | refused (complaints : List Complaint)

namespace Checked

variable {α β : Type}

/-- The complaints of a check. -/
def complaints : Checked α → List Complaint
  | accepted _ => []
  | refused found => found

/-- Combine a check of a function and a check of its argument. -/
def combine (function : Checked (α → β)) (argument : Checked α) : Checked β :=
  match function, argument with
  | accepted f, accepted value => accepted (f value)
  | accepted _, refused second => refused second
  | refused first, accepted _ => refused first
  | refused first, refused second => refused (first ++ second)

instance : Applicative Checked where
  pure := accepted
  seq function argument := combine function (argument ())

@[simp]
theorem complaints_combine (function : Checked (α → β)) (argument : Checked α) :
    (combine function argument).complaints = function.complaints ++ argument.complaints := by
  cases function <;> cases argument <;> simp [combine, complaints]

/-- Refuse what further complaints are known about. -/
def withComplaints (checked : Checked α) (further : List Complaint) : Checked α :=
  match checked, further with
  | accepted value, [] => accepted value
  | accepted _, _ => refused further
  | refused found, _ => refused (found ++ further)

/-- The check as a result. -/
def toExcept : Checked α → Except (List Complaint) α
  | accepted value => .ok value
  | refused found => .error found

end Checked
end Settings
end RequestLog
