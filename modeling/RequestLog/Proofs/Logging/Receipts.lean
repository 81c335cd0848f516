import RequestLog.Logging.Logger

/-!
# Receipts

What a handler receives is noted as a receipt: at which place among the handlers, which entry, and
the line that the handler lays it out as.  Handing an entry to handlers is handing out its receipts
(`deliverAll_receiptsFrom`); and since handlers keep their levels and layouts, whatever they do, the
receipts of later entries are known beforehand.
-/

namespace RequestLog
namespace Logging

/-- An entry as a handler receives it. -/
structure Receipt where
  /-- The place of the handler among those of its logger. -/
  place : Nat
  /-- The entry. -/
  entry : Entry
  /-- The line that it is laid out as. -/
  line : Except Fault String

namespace Handler

/-- An entry as the handler at a place receives it: in the layout of the handler. -/
def receipt (handler : Handler) (place : Nat) (entry : Entry) : Receipt :=
  ⟨place, entry, handler.layout.format entry⟩

/-- Write what was received.  The journal keeps the message in place of the line, and a line that
could not be laid out is not written. -/
def take (handler : Handler) (receipt : Receipt) (output : Output) : Handler × Output :=
  match handler.target with
  | .journal =>
      match receipt.entry.message with
      | .error _ => (handler, output)
      | .ok message =>
          (handler, { output with journal := output.journal ++ [.logged receipt.entry message] })
  | .console =>
      match receipt.line with
      | .error _ => (handler, output)
      | .ok line => (handler, { output with console := output.console ++ line ++ "\n" })
  | .file target =>
      match receipt.line with
      | .error _ => (handler, output)
      | .ok line =>
          let written := target.write output.disk line
          ({ handler with target := .file written.1 }, { output with disk := written.2 })

theorem emit_eq_take (handler : Handler) (place : Nat) (entry : Entry) (output : Output) :
    handler.emit entry output = handler.take (handler.receipt place entry) output := rfl

/-- What decides about the entries that a handler receives: its level and its layout. -/
def manner (handler : Handler) : Int × Layout :=
  (handler.level, handler.layout)

theorem manner_take (handler : Handler) (receipt : Receipt) (output : Output) :
    (handler.take receipt output).1.manner = handler.manner := by
  unfold take
  split
  · split <;> rfl
  · split <;> rfl
  · split <;> rfl

end Handler

/-- What handlers receive of an entry, their places counted from a number on. -/
def receiptsFrom (entry : Entry) : Nat → List Handler → List Receipt
  | _, [] => []
  | place, handler :: rest =>
      if entry.level < handler.level then receiptsFrom entry (place + 1) rest
      else handler.receipt place entry :: receiptsFrom entry (place + 1) rest

/-- Handlers of other targets receive the same. -/
theorem receiptsFrom_congr (entry : Entry) (place : Nat) {handlers others : List Handler}
    (same : handlers.map Handler.manner = others.map Handler.manner) :
    receiptsFrom entry place handlers = receiptsFrom entry place others := by
  induction handlers generalizing place others with
  | nil =>
      rw [List.map_nil, eq_comm, List.map_eq_nil_iff] at same
      rw [same]
  | cons handler rest ih =>
      obtain ⟨other, more, rfl, same_manner, same_rest⟩ := List.map_eq_cons_iff.mp same.symm
      obtain ⟨same_level, same_layout⟩ := Prod.mk.inj same_manner
      rw [receiptsFrom, receiptsFrom, ih (place + 1) same_rest.symm, Handler.receipt,
        Handler.receipt, same_level, same_layout]

theorem le_place_of_mem_receiptsFrom {entry : Entry} {first : Nat} {handlers : List Handler}
    {receipt : Receipt} (received : receipt ∈ receiptsFrom entry first handlers) :
    first ≤ receipt.place := by
  induction handlers generalizing first with
  | nil => cases received
  | cons handler rest ih =>
      rw [receiptsFrom] at received
      split at received
      · exact Nat.le_of_succ_le (ih received)
      · rcases List.mem_cons.mp received with rfl | later
        · exact Nat.le_refl _
        · exact Nat.le_of_succ_le (ih later)

/-- A handler receives an entry once if the entry reaches its level, and not otherwise. -/
theorem filter_receiptsFrom {handlers : List Handler} {place : Nat} {handler : Handler}
    (placed : handlers[place]? = some handler) (entry : Entry) (first : Nat) :
    (receiptsFrom entry first handlers).filter (fun receipt => receipt.place = first + place) =
      if handler.level ≤ entry.level then [handler.receipt (first + place) entry] else [] := by
  induction handlers generalizing first place with
  | nil => cases placed
  | cons head rest ih =>
      -- The places of the rest begin one further on, so only one side can hold the place.
      cases place with
      | zero =>
          obtain rfl : head = handler := by simpa using placed
          have none_later : (receiptsFrom entry (first + 1) rest).filter
              (fun receipt => receipt.place = first + 0) = [] := by
            refine List.filter_eq_nil_iff.mpr fun receipt later => ?_
            have beyond := le_place_of_mem_receiptsFrom later
            simp only [decide_eq_true_eq]
            omega
          have at_first : (head.receipt first entry).place = first + 0 := rfl
          rw [receiptsFrom]
          by_cases below : entry.level < head.level
          · rw [if_pos below, if_neg (Int.not_le.mpr below), none_later]
          · rw [if_neg below, if_pos (Int.not_lt.mp below),
              List.filter_cons_of_pos (by simp only [at_first, decide_true]), none_later]
            rfl
      | succ place =>
          have elsewhere : first + (place + 1) = first + 1 + place := by omega
          have not_here : ¬ (head.receipt first entry).place = first + 1 + place := by
            simp only [Handler.receipt]
            omega
          rw [receiptsFrom, elsewhere, ← ih (by simpa using placed) (first + 1)]
          split
          · rfl
          · rw [List.filter_cons_of_neg (by simpa using not_here)]

/-- Handlers and the output that they write to. -/
abbrev Holding := List Handler × Output

/-- Hand a receipt to its handler. -/
def Receipt.deliver (holding : Holding) (receipt : Receipt) : Holding :=
  match holding.1[receipt.place]? with
  | none => holding
  | some handler =>
      let taken := handler.take receipt holding.2
      (holding.1.set receipt.place taken.1, taken.2)

/-- Hand out receipts one after the other. -/
def deliverAll (receipts : List Receipt) (holding : Holding) : Holding :=
  receipts.foldl Receipt.deliver holding

theorem deliverAll_append (front back : List Receipt) (holding : Holding) :
    deliverAll (front ++ back) holding = deliverAll back (deliverAll front holding) :=
  List.foldl_append

theorem deliver_receipt (front : List Handler) (handler : Handler) (rest : List Handler)
    (entry : Entry) (output : Output) :
    Receipt.deliver (front ++ handler :: rest, output) (handler.receipt front.length entry) =
      (front ++ (handler.emit entry output).1 :: rest, (handler.emit entry output).2) := by
  rw [handler.emit_eq_take front.length]
  simp [Receipt.deliver, Handler.receipt]

/-- Handing an entry to handlers is handing out its receipts. -/
theorem deliverAll_receiptsFrom (entry : Entry) (front handlers : List Handler) (output : Output) :
    deliverAll (receiptsFrom entry front.length handlers) (front ++ handlers, output) =
      (front ++ (handleAll entry handlers output).1, (handleAll entry handlers output).2) := by
  induction handlers generalizing front output with
  | nil => rfl
  | cons handler rest ih =>
      have goes (first : Handler) (later : Output) := ih (front ++ [first]) later
      simp only [List.length_append, List.length_singleton, List.append_assoc,
        List.singleton_append] at goes
      rw [receiptsFrom, handleAll, Handler.handle]
      split
      · exact goes handler output
      · rw [deliverAll, List.foldl_cons, deliver_receipt, ← deliverAll, goes]

theorem map_manner_deliver (holding : Holding) (receipt : Receipt) :
    (Receipt.deliver holding receipt).1.map Handler.manner = holding.1.map Handler.manner := by
  rw [Receipt.deliver]
  split
  · rfl
  · next handler placed =>
      have same_place : (holding.1.map Handler.manner)[receipt.place]? = some handler.manner := by
        rw [List.getElem?_map, placed, Option.map_some]
      rw [List.map_set, Handler.manner_take]
      refine List.ext_getElem? fun place => ?_
      rw [List.getElem?_set']
      split
      · next here =>
          rw [← here, same_place, Option.map_eq_map, Option.map_some, Function.const_apply]
      · rfl

/-- Handlers keep their levels and their layouts. -/
theorem map_manner_deliverAll (receipts : List Receipt) (holding : Holding) :
    (deliverAll receipts holding).1.map Handler.manner = holding.1.map Handler.manner := by
  induction receipts generalizing holding with
  | nil => rfl
  | cons receipt rest ih => rw [deliverAll, List.foldl_cons, ← deliverAll, ih, map_manner_deliver]

end Logging
end RequestLog
