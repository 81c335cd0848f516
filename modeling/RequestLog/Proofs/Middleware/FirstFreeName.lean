import Mathlib.Order.Bounds.Defs
import RequestLog.Proofs.Middleware.FailedSetup

/-!
# The search for a reserved name

A middleware with a list of tokens looks for a reserved name that is free, from the first one on and
without a bound.  `SearchEnds` is that search as it goes, one number after the other.  It always
ends, as there are more reserved names than formats, and it ends at the least number whose name is
free (`searchEnds_iff`); so the bound on `freeNameFrom` is never what ends it
(`SearchEnds.freeNameFrom_eq`).
-/

namespace RequestLog
namespace Middleware

variable {σ : Type}

/-- The search among reserved names from a number on, with the steps it takes and the number at
which it ends.  It goes to the next number as long as the name is taken. -/
inductive SearchEnds (taken : List String) : Nat → Nat → Nat → Prop where
  /-- The name is free. -/
  | here {number : Nat} (free : reservedNameAt number ∉ taken) : SearchEnds taken number 0 number
  /-- The name is taken, and the search goes on. -/
  | later {number steps last : Nat} (occupied : reservedNameAt number ∈ taken)
      (rest : SearchEnds taken (number + 1) steps last) : SearchEnds taken number (steps + 1) last

/-- A search ends at a name that is free after as many names that are taken as it takes steps. -/
theorem searchEnds_iff {taken : List String} {number steps last : Nat} :
    SearchEnds taken number steps last ↔
      last = number + steps ∧ (∀ step < steps, reservedNameAt (number + step) ∈ taken) ∧
        reservedNameAt last ∉ taken := by
  induction steps generalizing number with
  | zero =>
      constructor
      · rintro ⟨free⟩
        exact ⟨rfl, by simp, free⟩
      · rintro ⟨rfl, -, free⟩
        exact .here free
  | succ steps ih =>
      have shifted (step : Nat) : number + 1 + step = number + (step + 1) := by omega
      constructor
      · rintro (_ | ⟨occupied, rest⟩)
        obtain ⟨rfl, before, free⟩ := ih.mp rest
        refine ⟨shifted steps, fun step within => ?_, free⟩
        cases step with
        | zero => exact occupied
        | succ step => exact shifted step ▸ before step (by omega)
      · rintro ⟨rfl, before, free⟩
        refine .later (before 0 (by omega))
          (ih.mpr ⟨(shifted steps).symm, fun step within => ?_, free⟩)
        rw [shifted]
        exact before (step + 1) (by omega)

namespace SearchEnds

variable {taken : List String} {number steps last : Nat}

/-- There is one way for a search to go. -/
theorem unique (ends : SearchEnds taken number steps last) {others other : Nat}
    (ends_too : SearchEnds taken number others other) : others = steps ∧ other = last := by
  induction ends generalizing others with
  | here free =>
      cases ends_too with
      | here => exact ⟨rfl, rfl⟩
      | later occupied => exact absurd occupied free
  | later occupied rest ih =>
      cases ends_too with
      | here free => exact absurd occupied free
      | later occupied_too rest_too => exact (ih rest_too).imp_left (congrArg (· + 1))

/-- A bounded search whose bound is not below the steps of the search finds what the search
finds. -/
theorem freeNameFrom_eq (ends : SearchEnds taken number steps last) {fuel : Nat}
    (enough : steps ≤ fuel) : freeNameFrom taken fuel number = reservedNameAt last := by
  induction ends generalizing fuel with
  | here free =>
      cases fuel with
      | zero => rfl
      | succ fuel => rw [freeNameFrom, if_neg (by simpa using free)]
  | later occupied rest ih =>
      obtain ⟨spare, rfl⟩ := Nat.exists_eq_add_of_le' (Nat.le_of_add_left_le enough)
      rw [freeNameFrom, if_pos (by simpa using occupied), ih (by omega)]

end SearchEnds

/-- The search among the names of a registry ends, after at most as many steps as there are
formats. -/
theorem exists_searchEnds (registry : Registry σ) :
    ∃ steps last, SearchEnds registry.formats.names 1 steps last ∧
      steps ≤ registry.formats.length ∧ freeName registry = reservedNameAt last := by
  obtain ⟨steps, bound, named, before, free⟩ := exists_freeName_eq registry
  have ends : SearchEnds registry.formats.names 1 steps (1 + steps) :=
    searchEnds_iff.mpr ⟨rfl, before, named ▸ free⟩
  exact ⟨steps, 1 + steps, ends, bound, ends.freeNameFrom_eq bound⟩

theorem reservedNameAt_of_two_le {number : Nat} (numbered : 2 ≤ number) :
    reservedNameAt number = "accesslog:" ++ toString number := by
  have not_first : ¬number ≤ 1 := by omega
  rw [reservedNameAt, if_neg not_first]
  rfl

/-- A free name is never refused as taken. -/
theorem registerFormat_freeName_ne (registry : Registry σ) (tokens : Value) (subject : Subject)
    (name : String) :
    registry.registerFormat (.str (freeName registry)) tokens ≠
      .error (.alreadyRegistered subject name) := by
  intro refused
  obtain ⟨answer, answered⟩ := registry.exists_formatAnswer (.str (freeName registry)) tokens
  rw [answered.registerFormat_eq] at refused
  subst refused
  cases answered with
  | taken _ _ _ taken => exact freeName_not_mem registry taken

/-- The search for a reserved name ends after at most as many steps as there are formats, and in one
way only.  It ends at the first reserved name if that is free, and otherwise at the one with the
least number whose name is free.  A list of tokens is registered under the name at which it ends:
this is never refused because the name is taken, and if it is refused for another reason, no
middleware is set up and the registry is as it was. -/
theorem search_ends_at_first_free_name (registry : Registry σ) :
    (∃ steps last, SearchEnds registry.formats.names 1 steps last ∧
      steps ≤ registry.formats.length ∧ freeName registry = reservedNameAt last ∧
      ∀ others other, SearchEnds registry.formats.names 1 others other →
        others = steps ∧ other = last) ∧
    ("accesslog" ∉ registry.formats.names → freeName registry = "accesslog") ∧
    ("accesslog" ∈ registry.formats.names → ∃ number,
      IsLeast {number : Nat | 2 ≤ number ∧
        "accesslog:" ++ toString number ∉ registry.formats.names} number ∧
      freeName registry = "accesslog:" ++ toString number) ∧
    (∀ tokens subject name, registry.registerFormat (.str (freeName registry)) tokens ≠
      .error (.alreadyRegistered subject name)) ∧
    ∀ tokens : List String,
      match registry.registerFormat (.str (freeName registry)) (.list (tokens.map .str)) with
      | .ok grown => resolveFormat registry (.listed tokens) = (grown, .ok (freeName registry))
      | .error refusal => ∀ (outlet : Option (Outlet σ)) (settings : Settings) (world : World σ),
          settings.format = .listed tokens → create registry outlet settings world =
            (.error (.misconfigured (.invalidFormat refusal)), registry, world) := by
  obtain ⟨steps, last, ends, bound, named⟩ := exists_searchEnds registry
  obtain ⟨last_eq, before, free⟩ := searchEnds_iff.mp ends
  refine ⟨⟨steps, last, ends, bound, named, fun others other => ends.unique⟩, fun first_free => ?_,
    fun first_taken => ?_, registerFormat_freeName_ne registry, fun tokens => ?_⟩
  · have at_once : SearchEnds registry.formats.names 1 0 1 := .here first_free
    rw [named, (at_once.unique ends).2]
    rfl
  · -- The first name is taken, so the search takes a step.
    have numbered : 2 ≤ last := by
      by_contra small
      have first : last = 1 := by omega
      exact free (first ▸ first_taken)
    refine ⟨last, ⟨⟨numbered, reservedNameAt_of_two_le numbered ▸ free⟩, ?_⟩,
      named.trans (reservedNameAt_of_two_le numbered)⟩
    rintro number ⟨two_le, unused⟩
    by_contra less
    have skipped := before (number - 1) (by omega)
    rw [show 1 + (number - 1) = number by omega, reservedNameAt_of_two_le two_le] at skipped
    exact unused skipped
  · split
    · next accepted => simp only [resolveFormat, accepted]
    · next refused =>
        intro outlet settings world listed
        simp only [create, listed, resolveFormat, refused]

-- A gap in the numbers is filled first.
example :
    let registry : Registry Unit := ⟨[], ["accesslog", "accesslog:4", "accesslog:2"].map (·, [])⟩
    freeName registry = "accesslog:3" := by
  decide +kernel

end Middleware
end RequestLog
