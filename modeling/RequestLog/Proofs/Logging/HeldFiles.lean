import RequestLog.Proofs.Logging.LogFile
import RequestLog.Proofs.Logging.Receipts

/-!
# Files held open by handlers

As long as handlers hold different files open, each file gets one line of an entry at most, and gets
it if a handler that takes the entry holds it afterwards (`handleAll_writesOnce`).  A handler writes
to the file that it holds, or to a new one that no other handler can hold, so the handlers go on
holding different files.
-/

namespace RequestLog
namespace Logging

namespace Handler

/-- The handler writes to a file. -/
def isFile (handler : Handler) : Bool :=
  match handler.target with
  | .file _ => true
  | _ => false

/-- The file that the handler holds open. -/
def held? (handler : Handler) : Option Nat :=
  match handler.target with
  | .file target => target.stream
  | _ => none

/-- The handler holds its file open, if it writes to one. -/
def isReady (handler : Handler) : Bool :=
  !handler.isFile || handler.held?.isSome

variable {handler : Handler} {entry : Entry}

theorem held?_of_not_file (no_file : handler.isFile = false) : handler.held? = none := by
  unfold isFile at no_file
  rw [held?]
  split at no_file
  · cases no_file
  · rfl

theorem emit_of_not_file (no_file : handler.isFile = false) (entry : Entry) (output : Output) :
    (handler.emit entry output).1 = handler ∧ (handler.emit entry output).2.disk = output.disk := by
  rw [emit]
  split
  · split <;> exact ⟨rfl, rfl⟩
  · split <;> exact ⟨rfl, rfl⟩
  · next is_file =>
      rw [isFile, is_file] at no_file
      cases no_file

/-- A handler of a file writes the line of an entry to it. -/
theorem emit_of_file {target : FileTarget} (aimed : handler.target = .file target) {line : String}
    (laid : handler.layout.format entry = .ok line) (output : Output) :
    handler.emit entry output =
      ({ handler with target := .file (target.write output.disk line).1 },
        { output with disk := (target.write output.disk line).2 }) := by
  simp only [emit, aimed, laid]

theorem emit_of_unlaid {target : FileTarget} (aimed : handler.target = .file target) {fault : Fault}
    (unlaid : handler.layout.format entry = .error fault) (output : Output) :
    handler.emit entry output = (handler, output) := by
  simp only [emit, aimed, unlaid]

theorem exists_target (is_file : handler.isFile = true) :
    ∃ target, handler.target = .file target := by
  unfold isFile at is_file
  split at is_file
  · next target aimed => exact ⟨target, aimed⟩
  · cases is_file

/-- Handling an entry keeps the disk in order. -/
theorem continued_handle (handler : Handler) (entry : Entry) (output : Output) :
    output.disk.Continued (handler.handle entry output).2.disk := by
  rw [handle]
  split
  · exact Disk.Continued.refl _
  · cases kind : handler.isFile with
    | false =>
        rw [(emit_of_not_file kind entry output).2]
        exact Disk.Continued.refl _
    | true =>
        obtain ⟨target, aimed⟩ := exists_target kind
        cases laid : handler.layout.format entry with
        | error fault =>
            rw [emit_of_unlaid aimed laid]
            exact Disk.Continued.refl _
        | ok line =>
            rw [emit_of_file aimed laid]
            exact target.continued_write _ _

/-- A handler keeps its level, its layout and its kind. -/
theorem handle_keeps (handler : Handler) (entry : Entry) (output : Output) :
    (handler.handle entry output).1.manner = handler.manner ∧
      (handler.handle entry output).1.isFile = handler.isFile := by
  rw [handle]
  split
  · exact ⟨rfl, rfl⟩
  · constructor
    · rw [emit_eq_take handler 0, manner_take]
    · cases kind : handler.isFile with
      | false => rw [(emit_of_not_file kind entry output).1, kind]
      | true =>
          obtain ⟨target, aimed⟩ := exists_target kind
          cases laid : handler.layout.format entry with
          | error fault => rw [emit_of_unlaid aimed laid, kind]
          | ok line =>
              rw [emit_of_file aimed laid]
              rfl

/-- A handler writes no line: it had none to write, or has lost its file. -/
structure Quiet (handler : Handler) (entry : Entry) (output : Output) (later : Handler × Output) :
    Prop where
  content : ∀ identity, later.2.disk.contentOf identity = output.disk.contentOf identity
  held : later.1.held? = none ∨ (later.1.held? = handler.held? ∧
    ∀ line, handler.level ≤ entry.level → handler.layout.format entry ≠ .ok line)

/-- A handler writes a line to the file that it holds then, which is the one that it held before or
a new one. -/
structure Writes (handler : Handler) (entry : Entry) (output : Output) (later : Handler × Output)
    (identity : Nat) (line : String) : Prop where
  is_file : handler.isFile = true
  laid : handler.layout.format entry = .ok line
  holds : later.1.held? = some identity
  held_or_new : handler.held? = some identity ∨
    (output.disk.fresh ≤ identity ∧ identity < later.2.disk.fresh)
  content : ∀ other, later.2.disk.contentOf other =
    if other = identity then output.disk.contentOf identity ++ (line ++ "\n")
    else output.disk.contentOf other

/-- A handler that is ready is quiet or writes a line. -/
theorem handle_cases (ready : handler.isReady = true) (entry : Entry) (output : Output) :
    Quiet handler entry output (handler.handle entry output) ∨
      ∃ identity line, Writes handler entry output (handler.handle entry output) identity line := by
  by_cases below : entry.level < handler.level
  · rw [handle, if_pos below]
    have not_taken (line : String) (reaches : handler.level ≤ entry.level) :
        handler.layout.format entry ≠ .ok line := absurd below (Int.not_lt.mpr reaches)
    exact Or.inl ⟨fun _ => rfl, Or.inr ⟨rfl, not_taken⟩⟩
  · rw [handle, if_neg below]
    cases kind : handler.isFile with
    | false =>
        obtain ⟨same_handler, same_disk⟩ := emit_of_not_file kind entry output
        refine Or.inl ⟨fun _ => by rw [same_disk], Or.inl ?_⟩
        rw [same_handler, held?_of_not_file kind]
    | true =>
        obtain ⟨target, aimed⟩ := exists_target kind
        cases laid : handler.layout.format entry with
        | error fault =>
            rw [emit_of_unlaid aimed laid]
            have not_taken (line : String) (_ : handler.level ≤ entry.level) :
                handler.layout.format entry ≠ .ok line := by
              intro same
              cases laid.symm.trans same
            exact Or.inl ⟨fun _ => rfl, Or.inr ⟨rfl, not_taken⟩⟩
        | ok line =>
            have holds : handler.held? = target.stream := by rw [held?, aimed]
            rw [isReady, kind, holds, Bool.not_true, Bool.false_or] at ready
            obtain ⟨held, open_file⟩ := Option.isSome_iff_exists.mp ready
            rw [emit_of_file aimed laid]
            obtain ⟨later, rearranged, lost | ⟨identity, done, held_or_new⟩⟩ :=
              FileTarget.write_cases open_file output.disk line
            · rw [lost]
              exact Or.inl ⟨rearranged.contentOf_eq, Or.inl rfl⟩
            · rw [done]
              refine Or.inr ⟨identity, line, kind, laid, rfl, ?_, fun other => ?_⟩
              · rcases held_or_new with rfl | is_new
                · exact Or.inl (holds.trans open_file)
                · exact Or.inr is_new
              · rw [Disk.contentOf_append, rearranged.contentOf_eq, rearranged.contentOf_eq]

end Handler

/-- The files that handlers hold open. -/
def heldBy (handlers : List Handler) : List Nat :=
  handlers.filterMap Handler.held?

theorem handleAll_cons (entry : Entry) (handler : Handler) (rest : List Handler) (output : Output) :
    handleAll entry (handler :: rest) output =
      let here := handler.handle entry output
      let there := handleAll entry rest here.2
      (here.1 :: there.1, there.2) := rfl

theorem continued_handleAll (entry : Entry) (handlers : List Handler) (output : Output) :
    output.disk.Continued (handleAll entry handlers output).2.disk := by
  induction handlers generalizing output with
  | nil => exact Disk.Continued.refl _
  | cons handler rest ih => exact (handler.continued_handle entry output).trans (ih _)

/-- Handlers keep their levels and their layouts. -/
theorem map_manner_handleAll (entry : Entry) (handlers : List Handler) (output : Output) :
    (handleAll entry handlers output).1.map Handler.manner = handlers.map Handler.manner := by
  induction handlers generalizing output with
  | nil => rfl
  | cons handler rest ih =>
      rw [handleAll_cons, List.map_cons, ih, (handler.handle_keeps entry output).1, List.map_cons]

theorem heldBy_cons (handler : Handler) (rest : List Handler) :
    heldBy (handler :: rest) = handler.held?.toList ++ heldBy rest := by
  rw [heldBy, List.filterMap_cons]
  cases handler.held? <;> rfl

theorem mem_heldBy_cons {handler : Handler} {rest : List Handler} {identity : Nat} :
    identity ∈ heldBy (handler :: rest) ↔
      handler.held? = some identity ∨ identity ∈ heldBy rest := by
  rw [heldBy_cons, List.mem_append, Option.mem_toList]

/-- Handlers with one layout for files hold different files open, and none that is yet to be
given. -/
structure HoldApart (layout : Layout) (handlers : List Handler) (disk : Disk) : Prop where
  layout_eq : ∀ handler ∈ handlers, handler.isFile = true → handler.layout = layout
  ready : ∀ handler ∈ handlers, handler.isReady = true
  nodup : (heldBy handlers).Nodup
  known : ∀ identity ∈ heldBy handlers, identity < disk.fresh

/-- What becomes of handlers that hold different files open: they still do, unless one has lost its
file; no file has got more than one line of the entry, and those have got it that are then held by
the handlers which take the entry. -/
structure WritesOnce (layout : Layout) (entry : Entry) (handlers : List Handler) (output : Output)
    (later : List Handler × Output) : Prop where
  layout_eq : ∀ handler ∈ later.1, handler.isFile = true → handler.layout = layout
  nodup : (heldBy later.1).Nodup
  known : ∀ identity ∈ heldBy later.1, identity < later.2.disk.fresh
  held_or_new : ∀ identity ∈ heldBy later.1,
    identity ∈ heldBy handlers ∨ output.disk.fresh ≤ identity
  content : ∀ identity, later.2.disk.contentOf identity = output.disk.contentOf identity ∨
    identity ∈ heldBy later.1 ∧ ∃ line, layout.format entry = .ok line ∧
      later.2.disk.contentOf identity = output.disk.contentOf identity ++ (line ++ "\n")
  taken : ∀ handler ∈ later.1, handler.level ≤ entry.level → ∀ line,
    layout.format entry = .ok line → ∀ identity, handler.held? = some identity →
      later.2.disk.contentOf identity = output.disk.contentOf identity ++ (line ++ "\n")

namespace HoldApart

variable {layout : Layout} {handler : Handler} {handlers rest : List Handler} {disk later : Disk}

theorem continued (apart : HoldApart layout handlers disk) (continued : disk.Continued later) :
    HoldApart layout handlers later :=
  { apart with
    known := fun identity held =>
      Nat.lt_of_lt_of_le (apart.known identity held) continued.fresh_le }

theorem tail (apart : HoldApart layout (handler :: rest) disk) : HoldApart layout rest disk where
  layout_eq other within := apart.layout_eq other (List.mem_cons_of_mem _ within)
  ready other within := apart.ready other (List.mem_cons_of_mem _ within)
  nodup := by
    have nodup := apart.nodup
    rw [heldBy_cons] at nodup
    exact (List.nodup_append.mp nodup).2.1
  known identity within := apart.known identity (mem_heldBy_cons.mpr (Or.inr within))

theorem known_of_held (apart : HoldApart layout (handler :: rest) disk) {identity : Nat}
    (held : handler.held? = some identity) : identity < disk.fresh :=
  apart.known identity (mem_heldBy_cons.mpr (Or.inl held))

/-- What a handler holds, or a new file, is held by none of the others. -/
theorem not_mem_heldBy (apart : HoldApart layout (handler :: rest) disk) {identity : Nat}
    (from_here : handler.held? = some identity ∨ disk.fresh ≤ identity) :
    identity ∉ heldBy rest := by
  intro held
  rcases from_here with held_here | is_new
  · have nodup := apart.nodup
    rw [heldBy_cons, held_here, Option.toList_some, List.singleton_append] at nodup
    exact (List.nodup_cons.mp nodup).1 held
  · have known := apart.tail.known identity held
    omega

end HoldApart

/-- Handlers go on holding different files open, if none has lost its file. -/
theorem WritesOnce.holdApart {layout : Layout} {entry : Entry} {handlers : List Handler}
    {output : Output} {later : List Handler × Output}
    (written : WritesOnce layout entry handlers output later)
    (ready : ∀ handler ∈ later.1, handler.isReady = true) : HoldApart layout later.1 later.2.disk :=
  ⟨written.layout_eq, ready, written.nodup, written.known⟩

/-! ## One handler after the other -/

/-- A handler has handled an entry, and then the others have. -/
structure InTurn (layout : Layout) (entry : Entry) (handler : Handler) (rest : List Handler)
    (output : Output) (here : Handler × Output) (there : List Handler × Output) : Prop where
  apart : HoldApart layout (handler :: rest) output.disk
  same_manner : here.1.manner = handler.manner
  same_kind : here.1.isFile = handler.isFile
  grown : output.disk.fresh ≤ here.2.disk.fresh
  first : handler.Quiet entry output here ∨
    ∃ identity line, handler.Writes entry output here identity line
  others : WritesOnce layout entry rest here.2 there

namespace InTurn

variable {layout : Layout} {entry : Entry} {handler : Handler} {rest : List Handler}
  {output : Output} {here : Handler × Output} {there : List Handler × Output} {identity : Nat}

theorem own_layout (turns : InTurn layout entry handler rest output here there)
    (is_file : handler.isFile = true) : handler.layout = layout :=
  turns.apart.layout_eq handler List.mem_cons_self is_file

theorem isFile_of_held (turns : InTurn layout entry handler rest output here there)
    (held : here.1.held? = some identity) : handler.isFile = true := by
  by_contra no_file
  rw [← turns.same_kind, Bool.not_eq_true] at no_file
  rw [Handler.held?_of_not_file no_file] at held
  cases held

/-- Handling an entry leaves a handler with the file that it held, or with a new one. -/
theorem held_after (turns : InTurn layout entry handler rest output here there)
    (held : here.1.held? = some identity) :
    (handler.held? = some identity ∨ output.disk.fresh ≤ identity) ∧
      identity < here.2.disk.fresh := by
  have grown := turns.grown
  rcases turns.first with quiet | ⟨target, line, writes⟩
  · rcases quiet.held with lost | ⟨same, -⟩
    · rw [lost] at held
      cases held
    · rw [same] at held
      have known := turns.apart.known_of_held held
      exact ⟨Or.inl held, by omega⟩
  · obtain rfl := Option.some.inj (writes.holds.symm.trans held)
    rcases writes.held_or_new with held_before | is_new
    · have known := turns.apart.known_of_held held_before
      exact ⟨Or.inl held_before, by omega⟩
    · exact ⟨Or.inr is_new.1, is_new.2⟩

/-- The others end up with none of what this handler ends up with. -/
theorem not_held_there (turns : InTurn layout entry handler rest output here there)
    (held : here.1.held? = some identity) : identity ∉ heldBy there.1 := by
  intro held_there
  obtain ⟨from_here, known⟩ := turns.held_after held
  rcases turns.others.held_or_new identity held_there with before | is_new
  · exact turns.apart.not_mem_heldBy from_here before
  · omega

theorem left_alone (turns : InTurn layout entry handler rest output here there)
    (held : here.1.held? = some identity) :
    there.2.disk.contentOf identity = here.2.disk.contentOf identity := by
  rcases turns.others.content identity with same | ⟨held_there, -⟩
  · exact same
  · exact absurd held_there (turns.not_held_there held)

theorem unchanged_here (turns : InTurn layout entry handler rest output here there)
    (elsewhere : identity ∈ heldBy there.1) :
    here.2.disk.contentOf identity = output.disk.contentOf identity := by
  rcases turns.first with quiet | ⟨target, line, writes⟩
  · exact quiet.content identity
  · rw [writes.content, if_neg]
    rintro rfl
    exact turns.not_held_there writes.holds elsewhere

/-- No file has got more than one line. -/
theorem content (turns : InTurn layout entry handler rest output here there) (identity : Nat) :
    there.2.disk.contentOf identity = output.disk.contentOf identity ∨
      identity ∈ heldBy (here.1 :: there.1) ∧ ∃ line, layout.format entry = .ok line ∧
        there.2.disk.contentOf identity = output.disk.contentOf identity ++ (line ++ "\n") := by
  rw [mem_heldBy_cons]
  rcases turns.others.content identity with same | ⟨held, line, laid, gained⟩
  · rcases turns.first with quiet | ⟨target, line, writes⟩
    · exact Or.inl (same.trans (quiet.content identity))
    · by_cases this : identity = target
      · subst this
        have laid := writes.laid
        rw [turns.own_layout writes.is_file] at laid
        rw [same, writes.content, if_pos rfl]
        exact Or.inr ⟨Or.inl writes.holds, line, laid, rfl⟩
      · rw [same, writes.content, if_neg this]
        exact Or.inl rfl
  · rw [turns.unchanged_here held] at gained
    exact Or.inr ⟨Or.inr held, line, laid, gained⟩

/-- A handler that takes the entry has written its line. -/
theorem taken_here (turns : InTurn layout entry handler rest output here there)
    (reaches : here.1.level ≤ entry.level) {line : String} (laid : layout.format entry = .ok line)
    (held : here.1.held? = some identity) :
    there.2.disk.contentOf identity = output.disk.contentOf identity ++ (line ++ "\n") := by
  rw [← turns.own_layout (turns.isFile_of_held held)] at laid
  rw [turns.left_alone held]
  rcases turns.first with quiet | ⟨target, written, writes⟩
  · rcases quiet.held with lost | ⟨-, not_taken⟩
    · rw [lost] at held
      cases held
    · have same_level : here.1.level = handler.level := (Prod.mk.inj turns.same_manner).1
      exact absurd laid (not_taken line (same_level ▸ reaches))
  · obtain rfl := Option.some.inj (writes.holds.symm.trans held)
    obtain rfl := Except.ok.inj (writes.laid.symm.trans laid)
    rw [writes.content, if_pos rfl]

end InTurn

/-- Of an entry each file gets one line at most, if the handlers hold different files open. -/
theorem handleAll_writesOnce {layout : Layout} {handlers : List Handler} {output : Output}
    (apart : HoldApart layout handlers output.disk) (entry : Entry) :
    WritesOnce layout entry handlers output (handleAll entry handlers output) := by
  induction handlers generalizing output with
  | nil => exact ⟨nofun, List.nodup_nil, nofun, nofun, fun _ => Or.inl rfl, nofun⟩
  | cons handler rest ih =>
      have continued := handler.continued_handle entry output
      have turns : InTurn layout entry handler rest output (handler.handle entry output)
          (handleAll entry rest (handler.handle entry output).2) :=
        { apart := apart
          same_manner := (handler.handle_keeps entry output).1
          same_kind := (handler.handle_keeps entry output).2
          grown := continued.fresh_le
          first := Handler.handle_cases (apart.ready handler List.mem_cons_self) entry output
          others := ih (apart.tail.continued continued) }
      rw [handleAll_cons]
      dsimp only
      generalize handler.handle entry output = here at *
      have grown_there := (continued_handleAll entry rest here.2).fresh_le
      generalize handleAll entry rest here.2 = there at *
      constructor
      · rw [List.forall_mem_cons]
        refine ⟨fun is_file => ?_, turns.others.layout_eq⟩
        have same_layout : here.1.layout = handler.layout := (Prod.mk.inj turns.same_manner).2
        exact same_layout.trans (turns.own_layout (turns.same_kind ▸ is_file))
      · rw [heldBy_cons]
        cases held : here.1.held? with
        | none => exact turns.others.nodup
        | some identity =>
            exact List.nodup_cons.mpr ⟨turns.not_held_there held, turns.others.nodup⟩
      · intro identity held
        rcases mem_heldBy_cons.mp held with by_this | by_others
        · exact Nat.lt_of_lt_of_le (turns.held_after by_this).2 grown_there
        · exact turns.others.known identity by_others
      · intro identity held
        rw [mem_heldBy_cons]
        rcases mem_heldBy_cons.mp held with by_this | by_others
        · rcases (turns.held_after by_this).1 with held_before | is_new
          · exact Or.inl (Or.inl held_before)
          · exact Or.inr is_new
        · rcases turns.others.held_or_new identity by_others with held_before | is_new
          · exact Or.inl (Or.inr held_before)
          · exact Or.inr (Nat.le_trans turns.grown is_new)
      · exact turns.content
      · rw [List.forall_mem_cons]
        constructor
        · intro reaches line laid identity held
          exact turns.taken_here reaches laid held
        · intro other within reaches line laid identity held
          have held_there : identity ∈ heldBy there.1 :=
            List.mem_filterMap.mpr ⟨other, within, held⟩
          rw [turns.others.taken other within reaches line laid identity held,
            turns.unchanged_here held_there]

end Logging
end RequestLog
