import RequestLog.Headers

/-!
# The first header of a name

A lookup goes through a header list up to the first entry with the name and no further: the entries
before it have to be pairs, and nothing is asked of those behind it (`firstOf_eq_some_iff`).
-/

namespace RequestLog
namespace Headers

/-- The first entry with the name has the value; the entries before it are pairs with other
names. -/
inductive HasFirst (name value : Octets) : List Value → Prop where
  /-- The entry comes first of all. -/
  | here {entry : Value} {rest : List Value}
      (split : entry.pair = .ok (.bytes name, .bytes value)) :
      HasFirst name value (entry :: rest)
  /-- The entry comes behind one with another name. -/
  | later {entry raw held : Value} {rest : List Value} (split : entry.pair = .ok (raw, held))
      (other : hasName raw name = false) (found : HasFirst name value rest) :
      HasFirst name value (entry :: rest)

theorem hasName_eq_true_iff {raw : Value} {name : Octets} :
    hasName raw name = true ↔ raw = .bytes name := by
  cases raw <;> simp [hasName]

theorem decoded_eq_ok_iff {value : Value} {text : String} :
    decoded value = .ok text ↔ ∃ octets, value = .bytes octets ∧ octets.latin = text := by
  cases value <;> simp [decoded]

/-- A lookup finds the Latin text of the first entry with the name. -/
theorem firstOf_eq_some_iff {name : Octets} {entries : List Value} {text : String} :
    firstOf name entries = .ok (some text) ↔
      ∃ value, HasFirst name value entries ∧ value.latin = text := by
  constructor
  · intro found
    induction entries with
    | nil => cases found
    | cons entry rest ih =>
        rw [firstOf] at found
        cases split : entry.pair with
        | error fault => simp [split, bind, Except.bind] at found
        | ok parts =>
            obtain ⟨raw, held⟩ := parts
            simp only [split, bind, Except.bind] at found
            by_cases named : hasName raw name = true
            · rw [if_pos named] at found
              cases read : decoded held with
              | error fault => simp [read] at found
              | ok first =>
                  obtain ⟨value, rfl, rfl⟩ := decoded_eq_ok_iff.mp read
                  obtain rfl := hasName_eq_true_iff.mp named
                  rw [read] at found
                  exact ⟨value, .here split, Option.some.inj (Except.ok.inj found)⟩
            · rw [if_neg named] at found
              obtain ⟨value, first, rfl⟩ := ih found
              exact ⟨value, .later split (Bool.not_eq_true _ ▸ named) first, rfl⟩
  · rintro ⟨value, first, rfl⟩
    induction first with
    | here split =>
        rw [firstOf, split]
        simp [bind, Except.bind, hasName, decoded]
        rfl
    | later split other _ ih =>
        rw [firstOf, split]
        simpa [bind, Except.bind, other] using ih

/-- The value of a header of a list is the text of the first entry with its name. -/
theorem get_listed_eq_str_iff {name : String} {octets : Octets}
    (lookup : lookupName name = .ok octets) {entries : List Value} {text : String} :
    (listed entries).get name = .ok (.str text) ↔
      ∃ value, HasFirst octets value entries ∧ value.latin = text := by
  rw [← firstOf_eq_some_iff, get, lookup]
  cases found : firstOf octets entries with
  | error fault => simp [bind, Except.bind, found]
  | ok first =>
      cases first with
      | none => simp [bind, Except.bind, found, pure, Except.pure]
      | some first => simp [bind, Except.bind, found, pure, Except.pure]

end Headers
end RequestLog
