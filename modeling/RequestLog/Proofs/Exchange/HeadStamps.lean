import Mathlib.Data.List.Induction
import RequestLog.Proofs.Middleware.Stamping

/-!
# Heads that cannot be read

Stamping a head takes the stamps and the status over before it reads the headers.  So a head that
cannot be read fails, and yet its stamps and its status stay: stamping is not all or nothing.
`leftBy` is what heads leave of a fresh response, one after the other (`afterHeads_fresh`).
-/

namespace RequestLog
namespace Response

/-- A message that begins a response, and when it was stamped. -/
structure Head where
  /-- The look at the clock. -/
  stamp : Stamp
  /-- The message. -/
  message : Message

/-- The response with the stamps and the status of a head. -/
def withStamps (response : Response) (head : Head) : Response :=
  { response with
    startSeconds := .float head.stamp.seconds
    startInstant := some head.stamp.instant
    status := head.message.status }

theorem headSent_of_ok (response : Response) {head : Head} {headers : Headers}
    (read : headersOf head.message = .ok headers) :
    response.headSent head.stamp head.message =
      ({ response.withStamps head with headers := headers, headersSent := true }, .ok ()) := by
  simp only [headSent, read]
  rfl

theorem headSent_of_error (response : Response) {head : Head} {fault : Fault}
    (refused : headersOf head.message = .error fault) :
    response.headSent head.stamp head.message = (response.withStamps head, .error fault) := by
  simp only [headSent, refused]
  rfl

/-- Stamping fails just if the headers cannot be read, and with the same fault. -/
theorem headSent_eq_error_iff {response : Response} {head : Head} {fault : Fault} :
    (response.headSent head.stamp head.message).2 = .error fault ↔
      headersOf head.message = .error fault := by
  cases read : headersOf head.message with
  | ok headers => simp [response.headSent_of_ok read]
  | error cause => simp [response.headSent_of_error read]

/-- The stamps and the status of a head change nothing just if they are there already. -/
theorem withStamps_eq_self_iff {response : Response} {head : Head} :
    response.withStamps head = response ↔
      response.status = head.message.status ∧ response.startSeconds = .float head.stamp.seconds ∧
        response.startInstant = some head.stamp.instant := by
  constructor
  · intro same
    rw [← same]
    exact ⟨rfl, rfl, rfl⟩
  · rintro ⟨status, seconds, instant⟩
    rw [withStamps, ← status, ← seconds, ← instant]

/-! ## One head after the other -/

/-- The response after heads, each stamped on what the ones before it left. -/
def afterHeads (response : Response) : List Head → Response
  | [] => response
  | head :: rest => afterHeads (response.headSent head.stamp head.message).1 rest

theorem afterHeads_concat (response : Response) (heads : List Head) (head : Head) :
    response.afterHeads (heads ++ [head]) =
      ((response.afterHeads heads).headSent head.stamp head.message).1 := by
  induction heads generalizing response with
  | nil => rfl
  | cons first rest ih => exact ih _

/-- What heads leave behind: the stamps and the status of the last one, and the headers of the last
one that can be read. -/
def leftBy (heads : List Head) : Response where
  status := (heads.getLast?.map fun head => head.message.status).getD .null
  headers := (heads.reverse.findSome? fun head => (headersOf head.message).toOption).getD .empty
  headersSent := heads.any fun head => head.message.isReadable
  startSeconds := (heads.getLast?.map fun head => .float head.stamp.seconds).getD .null
  startInstant := heads.getLast?.map fun head => head.stamp.instant

theorem leftBy_concat_of_ok (heads : List Head) {head : Head} {headers : Headers}
    (read : headersOf head.message = .ok headers) :
    leftBy (heads ++ [head]) =
      { (leftBy heads).withStamps head with headers := headers, headersSent := true } := by
  have readable := Message.isReadable_of_ok read
  simp [leftBy, withStamps, read, readable, Except.toOption]

theorem leftBy_concat_of_error (heads : List Head) {head : Head} {fault : Fault}
    (refused : headersOf head.message = .error fault) :
    leftBy (heads ++ [head]) = (leftBy heads).withStamps head := by
  have unreadable := Message.isReadable_of_error refused
  simp [leftBy, withStamps, refused, unreadable, Except.toOption]

theorem afterHeads_fresh (heads : List Head) : fresh.afterHeads heads = leftBy heads := by
  induction heads using List.reverseRecOn with
  | nil => rfl
  | append_singleton front head ih =>
      rw [afterHeads_concat, ih]
      cases read : headersOf head.message with
      | ok headers => rw [headSent_of_ok _ read, leftBy_concat_of_ok front read]
      | error fault => rw [headSent_of_error _ read, leftBy_concat_of_error front read]

/-- No headers are left by heads that cannot be read. -/
theorem headers_leftBy {heads : List Head} (unsent : (leftBy heads).headersSent = false) :
    (leftBy heads).headers = .empty := by
  have none_read :
      (heads.reverse.findSome? fun head => (headersOf head.message).toOption) = none := by
    rw [List.findSome?_eq_none_iff]
    intro head present
    have unreadable := List.any_eq_false.mp unsent head (List.mem_reverse.mp present)
    cases read : headersOf head.message with
    | ok headers => exact absurd (Message.isReadable_of_ok read) unreadable
    | error fault => rfl
  rw [leftBy, none_read, Option.getD_none]

/-- Something is left by every head. -/
theorem leftBy_eq_fresh_iff (heads : List Head) : leftBy heads = fresh ↔ heads = [] := by
  constructor
  · intro same
    have no_instant : (leftBy heads).startInstant = none := by rw [same]; rfl
    simpa [leftBy] using no_instant
  · rintro rfl
    rfl

/-- Heads that are stamped one after the other leave the stamps and the status of the last one,
whether it could be read or not, and the headers of the last one that could.  A head that fails
changes the response unless it brings what is there already, and keeps the headers.  A response that
counts as not sent has no headers, but it is as fresh only if no head was stamped at all. -/
theorem failed_head_leaves_stamps (heads : List Head) :
    let response := fresh.afterHeads heads
    response = leftBy heads ∧
    (∀ head fault, (response.headSent head.stamp head.message).2 = .error fault →
      let left := (response.headSent head.stamp head.message).1
      left = response.withStamps head ∧
        (left = response ↔ response.status = head.message.status ∧
          response.startSeconds = .float head.stamp.seconds ∧
          response.startInstant = some head.stamp.instant)) ∧
    (response.headersSent = false → response.headers = .empty) ∧
    ((response.headersSent = false → response = fresh) ↔
      heads = [] ∨ ∃ head ∈ heads, head.message.isReadable = true) := by
  intro response
  have reached : response = leftBy heads := afterHeads_fresh heads
  refine ⟨reached, fun head fault failed => ?_, fun unsent => ?_, ?_⟩
  · intro left
    have stamped : left = response.withStamps head :=
      congrArg Prod.fst (response.headSent_of_error (headSent_eq_error_iff.mp failed))
    exact ⟨stamped, by rw [stamped, withStamps_eq_self_iff]⟩
  · rw [reached] at unsent ⊢
    exact headers_leftBy unsent
  · rw [reached, leftBy_eq_fresh_iff]
    have sent_iff : (leftBy heads).headersSent = true ↔
        ∃ head ∈ heads, head.message.isReadable = true := List.any_eq_true
    rw [← sent_iff]
    cases (leftBy heads).headersSent <;> simp

/-- A head that fails at its second entry leaves its stamps and its status on a response that was
sent before, with the headers that it had. -/
theorem failed_head_leaves_stamps_of_second_entry :
    let entry : Value := .tuple [.bytes [97], .bytes [98]]
    let first : Head := ⟨⟨1, ⟨0⟩⟩, [("status", .int 200), ("headers", .list [entry])]⟩
    let second : Head :=
      ⟨⟨2, ⟨5⟩⟩, [("status", .int 404), ("headers", .list [entry, .tuple [.bytes [97]]])]⟩
    ((fresh.afterHeads [first]).headSent second.stamp second.message).2 =
        .error (.tooFewParts 1) ∧
      ((fresh.afterHeads [first]).headSent second.stamp second.message).1 =
        ⟨.int 404, .listed [entry], true, .float 2, some ⟨5⟩⟩ := by
  intro entry first second
  obtain ⟨-, failing, -, -⟩ := failed_head_leaves_stamps [first]
  have failed : ((fresh.afterHeads [first]).headSent second.stamp second.message).2 =
      .error (.tooFewParts 1) := rfl
  exact ⟨failed, (failing second _ failed).1⟩

/-- The first head has no header list: stamping it fails, the response counts as not sent, and yet
it has a status and stamps. -/
theorem stamps_of_head_without_list :
    let head : Head := ⟨⟨1, ⟨7⟩⟩, [("status", .int 200), ("headers", .null)]⟩
    let left := (fresh.headSent head.stamp head.message).1
    (fresh.headSent head.stamp head.message).2 = .error (.notIterable "NoneType") ∧
      left ≠ fresh ∧ left.headersSent = false ∧ left.status = .int 200 ∧
      left.startSeconds = .float 1 ∧ left.startInstant = some ⟨7⟩ := by
  intro head left
  refine ⟨rfl, fun same => ?_, rfl, rfl, rfl, rfl⟩
  have no_instant : left.startInstant = none := by rw [same]; rfl
  cases no_instant

end Response
end RequestLog
