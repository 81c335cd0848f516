/-!
# Catalogs

A catalog gives values to names and keeps the names in the order in which they came.  Setting a name
that is present keeps its place and replaces its value.
-/

namespace RequestLog

/-- Values by name, in order. -/
abbrev Catalog (α : Type) := List (String × α)

namespace Catalog

variable {α : Type}

/-- The names, in order. -/
def names (catalog : Catalog α) : List String :=
  catalog.map Prod.fst

/-- The value of a name. -/
def find? (catalog : Catalog α) (name : String) : Option α :=
  match catalog with
  | [] => none
  | (known, value) :: rest => if known = name then some value else find? rest name

/-- The name has a value. -/
def has (catalog : Catalog α) (name : String) : Bool :=
  (catalog.find? name).isSome

/-- Set the value of a name. -/
def put (catalog : Catalog α) (name : String) (value : α) : Catalog α :=
  match catalog with
  | [] => [(name, value)]
  | (known, old) :: rest =>
      if known = name then (known, value) :: rest else (known, old) :: put rest name value

@[simp]
theorem find?_nil (name : String) : find? ([] : Catalog α) name = none := rfl

theorem find?_put (catalog : Catalog α) (name other : String) (value : α) :
    (catalog.put name value).find? other =
      if name = other then some value else catalog.find? other := by
  induction catalog with
  | nil => simp [put, find?]
  | cons entry rest ih =>
      obtain ⟨known, old⟩ := entry
      by_cases at_known : known = name
      · subst at_known
        by_cases same : known = other <;> simp [put, find?, same]
      · by_cases same : known = other
        · subst same
          have differs : name ≠ known := fun same => at_known same.symm
          simp [put, find?, at_known, differs]
        · simp [put, find?, at_known, same, ih]

theorem find?_eq_none_iff (catalog : Catalog α) (name : String) :
    catalog.find? name = none ↔ name ∉ catalog.names := by
  induction catalog with
  | nil => simp [names]
  | cons entry rest ih =>
      obtain ⟨known, old⟩ := entry
      simp only [names] at ih
      by_cases same : known = name
      · simp [find?, names, same]
      · have differs : name ≠ known := fun equal => same equal.symm
        simp [find?, names, same, differs, ih]

/-- Setting a name keeps all names and their order; a new name comes last. -/
theorem names_put (catalog : Catalog α) (name : String) (value : α) :
    (catalog.put name value).names =
      if name ∈ catalog.names then catalog.names else catalog.names ++ [name] := by
  induction catalog with
  | nil => simp [put, names]
  | cons entry rest ih =>
      obtain ⟨known, old⟩ := entry
      by_cases at_known : known = name
      · subst at_known
        simp [put, names]
      · have differs : name ≠ known := fun same => at_known same.symm
        simp only [names] at ih
        simp only [put, at_known, ↓reduceIte, names, List.map_cons, List.mem_cons, differs,
          false_or, ih]
        by_cases present : name ∈ List.map Prod.fst rest <;> simp [present]

end Catalog
end RequestLog
