import RequestLog.Logging.Handler
import RequestLog.Proofs.Disk

/-!
# Lines of a log file

A line is appended to the file that is held open or, after a roll-over, to a new file.  If the
roll-over fails then the line is lost, and nothing is held open until the next line
(`FileTarget.write_cases`).
-/

namespace RequestLog
namespace Logging
namespace FileTarget

theorem rearranged_shiftBackups (target : FileTarget) (number : Nat) (disk : Disk) :
    disk.Rearranged (target.shiftBackups number disk).1 := by
  induction number generalizing disk with
  | zero => exact Disk.Rearranged.refl _
  | succ number ih =>
      rw [shiftBackups]
      split
      · exact Disk.Rearranged.refl _
      · next moved => exact (Disk.rearranged_moveIfThere moved).trans (ih _)

theorem rearranged_retire (target : FileTarget) (disk : Disk) :
    disk.Rearranged (target.retire disk).1 := by
  rw [retire]
  split
  · exact Disk.Rearranged.refl _
  · next removed =>
      have first := Disk.rearranged_removeIfThere removed
      split
      · exact first
      · next moved => exact first.trans (Disk.rearranged_moveIfThere moved)

/-- A file that was made the first full file stands no longer where it stood. -/
theorem node?_retire {target : FileTarget} (named : target.path ≠ []) {disk later : Disk}
    (retired : target.retire disk = (later, .ok ())) : later.node? target.path = none := by
  rw [retire] at retired
  split at retired
  · cases (Prod.mk.inj retired).2
  · split at retired
    · cases (Prod.mk.inj retired).2
    · next moved =>
        rw [← (Prod.mk.inj retired).1]
        exact Disk.node?_moveIfThere named (by decide) moved

/-- The target with another file open. -/
def holding (target : FileTarget) (stream : Option Nat) : FileTarget :=
  { target with stream := stream }

theorem opened_closed (target : FileTarget) (disk : Disk) :
    (target.holding none).opened disk =
      (disk.openFile target.path).map fun found =>
        (found.1, target.holding (some found.1), found.2) := by
  simp only [opened, holding]
  cases disk.openFile target.path <;> rfl

/-- Rolling over closes the file; it ends with a new file or fails with none. -/
theorem rollOver_cases {target : FileTarget} (named : target.path ≠ []) (disk : Disk) :
    ∃ later, disk.Rearranged later ∧
      ((∃ fault, target.rollOver disk = (target.holding none, later, .error fault)) ∨
        ∃ identity, target.rollOver disk = (target.holding (some identity), later, .ok ()) ∧
          disk.fresh ≤ identity ∧ identity < later.fresh) := by
  have shift := ({ target with stream := none } : FileTarget).rearranged_shiftBackups
    (target.backups - 1).toNat disk
  simp only [rollOver]
  split
  · next shifted fault ended =>
      rw [ended] at shift
      exact ⟨shifted, shift, Or.inl ⟨fault, rfl⟩⟩
  · next shifted ended =>
      rw [ended] at shift
      have retirement := ({ target with stream := none } : FileTarget).rearranged_retire shifted
      split
      · next moved fault retired =>
          rw [retired] at retirement
          exact ⟨moved, shift.trans retirement, Or.inl ⟨fault, rfl⟩⟩
      · next moved retired =>
          rw [retired] at retirement
          have nothing_there : moved.node? target.path = none := node?_retire named retired
          have reopened := target.opened_closed moved
          split
          · next fault failed => exact ⟨moved, shift.trans retirement, Or.inl ⟨fault, rfl⟩⟩
          · next identity ready later done =>
              cases found : moved.openFile target.path with
              | error fault =>
                  rw [found] at reopened
                  cases reopened.symm.trans done
              | ok file =>
                  rw [found] at reopened
                  obtain ⟨rfl, more⟩ := Prod.mk.inj (Except.ok.inj (reopened.symm.trans done))
                  obtain ⟨rfl, rfl⟩ := Prod.mk.inj more
                  have opening := Disk.rearranged_openFile found
                  refine ⟨_, (shift.trans retirement).trans opening, Or.inr ⟨_, rfl, ?_⟩⟩
                  rcases Disk.openFile_eq_ok found with ⟨there, -⟩ | ⟨-, is_new, after⟩
                  · rw [nothing_there] at there
                    cases there
                  · rw [is_new, after]
                    exact ⟨(shift.trans retirement).fresh_le, Nat.lt_succ_self _⟩

theorem append_holding (target : FileTarget) (identity : Nat) (disk : Disk) (line : String) :
    (target.holding (some identity)).append disk line =
      (target.holding (some identity), disk.append identity (line ++ "\n")) := rfl

theorem opened_holding (target : FileTarget) (identity : Nat) (disk : Disk) :
    (target.holding (some identity)).opened disk =
      .ok (identity, target.holding (some identity), disk) := rfl

theorem holding_self {target : FileTarget} {stream : Option Nat} (held : target.stream = stream) :
    target.holding stream = target := by
  rw [← held]
  rfl

/-- A line goes to the file that is held open, or to a new one, or is lost and the file closed. -/
theorem write_cases {target : FileTarget} {held : Nat} (holds : target.stream = some held)
    (disk : Disk) (line : String) :
    ∃ later, disk.Rearranged later ∧
      (target.write disk line = (target.holding none, later) ∨
        ∃ identity, target.write disk line =
            (target.holding (some identity), later.append identity (line ++ "\n")) ∧
          (identity = held ∨ disk.fresh ≤ identity ∧ identity < later.fresh)) := by
  have open_target := holding_self holds
  have appended : target.append disk line =
      (target.holding (some held), disk.append held (line ++ "\n")) := by
    rw [← append_holding, open_target]
  have found : target.opened disk = .ok (held, target, disk) := by
    have opened := target.opened_holding held disk
    rwa [open_target] at opened
  rw [write]
  split
  · exact ⟨disk, Disk.Rearranged.refl _, Or.inr ⟨held, appended, Or.inl rfl⟩⟩
  · next free =>
      simp only [found]
      split
      · have named : target.path ≠ [] := by
          intro root
          rw [isBlocked, root] at free
          exact free (decide_eq_true rfl)
        obtain ⟨later, rearranged, ⟨fault, failed⟩ | ⟨identity, done, is_new⟩⟩ :=
          rollOver_cases named disk
        · rw [failed]
          exact ⟨later, rearranged, Or.inl rfl⟩
        · rw [done]
          exact ⟨later, rearranged, Or.inr ⟨identity, append_holding _ _ _ _, Or.inr is_new⟩⟩
      · exact ⟨disk, Disk.Rearranged.refl _, Or.inr ⟨held, appended, Or.inl rfl⟩⟩

theorem isBlocked_eq_false {target : FileTarget} {disk : Disk}
    (free : disk.node? target.path ≠ some .folder) : ¬target.isBlocked disk = true := by
  rw [isBlocked, decide_eq_true_eq]
  exact free

/-- If no file is held open, then one is opened before the line is written. -/
theorem write_of_openFile {target : FileTarget} (closed : target.stream = none) {disk middle : Disk}
    {held : Nat} (found : disk.openFile target.path = .ok (held, middle)) (line : String) :
    target.write disk line = (target.holding (some held)).write middle line := by
  have free : disk.node? target.path ≠ some .folder := by
    rcases Disk.openFile_eq_ok found with ⟨there, -⟩ | ⟨absent, -⟩
    · rw [there]
      nofun
    · rw [absent]
      nofun
  have free_then : middle.node? (target.holding (some held)).path ≠ some .folder := by
    have there : middle.node? (target.holding (some held)).path = some (.file held) :=
      Disk.node?_openFile found
    rw [there]
    nofun
  have opened := target.opened_closed disk
  rw [holding_self closed, found] at opened
  rw [write, if_neg (isBlocked_eq_false free), opened, write, if_neg (isBlocked_eq_false free_then),
    opened_holding]
  rfl

/-- Whether a file is held open or not, writing a line keeps the disk in order. -/
theorem continued_write (target : FileTarget) (disk : Disk) (line : String) :
    disk.Continued (target.write disk line).2 := by
  have holding_file {target : FileTarget} {held : Nat} (holds : target.stream = some held)
      (disk : Disk) : disk.Continued (target.write disk line).2 := by
    obtain ⟨later, rearranged, lost | ⟨identity, written, -⟩⟩ := write_cases holds disk line
    · rw [lost]
      exact rearranged.toContinued
    · rw [written]
      exact rearranged.toContinued.trans (later.continued_append _ _)
  cases holds : target.stream with
  | some held => exact holding_file holds disk
  | none =>
      cases found : disk.openFile target.path with
      | error fault =>
          have failed := target.opened_closed disk
          rw [holding_self holds, found] at failed
          have unchanged : target.write disk line = (target, disk) := by
            rw [write, append, failed]
            exact ite_self _
          rw [unchanged]
          exact Disk.Continued.refl _
      | ok file =>
          rw [write_of_openFile holds found]
          exact (Disk.rearranged_openFile found).toContinued.trans (holding_file rfl _)

end FileTarget
end Logging
end RequestLog
