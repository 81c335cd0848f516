import RequestLog.Catalog
import Mathlib.Data.List.Nodup

/-!
# Entries of catalogs

A name that is not taken goes to the end of a catalog, and a catalog that only grows at its end
keeps the values of all names that it had.  Where no name occurs twice, looking a name up and
finding its entry in the list are the same.
-/

namespace RequestLog
namespace Catalog

variable {α : Type}

theorem has_eq_true_iff (catalog : Catalog α) (name : String) :
    catalog.has name = true ↔ name ∈ catalog.names := by
  rw [has, Option.isSome_iff_ne_none, ne_eq, find?_eq_none_iff, not_not]

theorem has_eq_false_iff (catalog : Catalog α) (name : String) :
    catalog.has name = false ↔ name ∉ catalog.names := by
  rw [← has_eq_true_iff, Bool.not_eq_true]

/-- Setting a name that is not there adds an entry at the end. -/
theorem put_of_not_mem (catalog : Catalog α) (name : String) (value : α)
    (absent : name ∉ catalog.names) : catalog.put name value = catalog ++ [(name, value)] := by
  induction catalog with
  | nil => rfl
  | cons entry rest ih =>
      obtain ⟨known, old⟩ := entry
      simp only [names, List.map_cons, List.mem_cons, not_or] at absent
      have differs : known ≠ name := fun same => absent.1 same.symm
      simp [put, differs, ih absent.2]

theorem put_ne_nil (catalog : Catalog α) (name : String) (value : α) :
    catalog.put name value ≠ [] := by
  cases catalog with
  | nil => simp [put]
  | cons entry rest =>
      obtain ⟨known, old⟩ := entry
      rw [put]
      split <;> simp

/-- An entry of a catalog in which a name has been set is the new one or an old one. -/
theorem mem_put {catalog : Catalog α} {name : String} {value : α} {entry : String × α}
    (present : entry ∈ catalog.put name value) : entry = (name, value) ∨ entry ∈ catalog := by
  induction catalog with
  | nil => exact Or.inl (by simpa [put] using present)
  | cons head rest ih =>
      obtain ⟨known, old⟩ := head
      rw [put] at present
      split at present
      · next same =>
          rcases List.mem_cons.mp present with here | later
          · exact Or.inl (by rw [here, same])
          · exact Or.inr (List.mem_cons_of_mem _ later)
      · rcases List.mem_cons.mp present with here | later
        · exact Or.inr (by rw [here]; exact List.mem_cons_self)
        · exact (ih later).imp id (List.mem_cons_of_mem _)

theorem names_append (front back : Catalog α) : names (front ++ back) = names front ++ names back :=
  List.map_append

theorem nodup_names_put {catalog : Catalog α} (distinct : catalog.names.Nodup) (name : String)
    (value : α) : (catalog.put name value).names.Nodup := by
  rw [names_put]
  split
  · exact distinct
  · next absent =>
      refine List.nodup_append.mpr ⟨distinct, List.nodup_singleton name, ?_⟩
      intro known present other same
      rw [List.mem_singleton.mp same]
      exact fun equal => absent (equal ▸ present)

theorem find?_map {β : Type} (catalog : Catalog α) (change : String → α → β) (name : String) :
    find? (catalog.map fun entry => (entry.1, change entry.1 entry.2)) name =
      (catalog.find? name).map (change name) := by
  induction catalog with
  | nil => rfl
  | cons entry rest ih =>
      obtain ⟨known, value⟩ := entry
      by_cases same : known = name
      · simp [find?, same]
      · simp [find?, same, ih]

/-- Entries added at the end leave the value of a name as it was. -/
theorem find?_append {front : Catalog α} {name : String} {value : α}
    (found : front.find? name = some value) (back : Catalog α) :
    find? (front ++ back) name = some value := by
  induction front with
  | nil => simp at found
  | cons entry rest ih =>
      obtain ⟨known, old⟩ := entry
      rw [List.cons_append, find?]
      rw [find?] at found
      split
      · next same => simpa [same] using found
      · next differs => exact ih (by simpa [differs] using found)

theorem mem_of_find? {catalog : Catalog α} {name : String} {value : α}
    (found : catalog.find? name = some value) : (name, value) ∈ catalog := by
  induction catalog with
  | nil => simp at found
  | cons entry rest ih =>
      obtain ⟨known, old⟩ := entry
      rw [find?] at found
      split at found
      · next same =>
          rw [same, Option.some.inj found]
          exact List.mem_cons_self
      · exact List.mem_cons_of_mem _ (ih found)

/-- Where no name occurs twice, every entry is the one that its name is looked up to. -/
theorem find?_of_mem {catalog : Catalog α} (distinct : catalog.names.Nodup) {name : String}
    {value : α} (present : (name, value) ∈ catalog) : catalog.find? name = some value := by
  induction catalog with
  | nil => simp at present
  | cons entry rest ih =>
      obtain ⟨known, old⟩ := entry
      simp only [names, List.map_cons, List.nodup_cons] at distinct
      rcases List.mem_cons.mp present with here | later
      · obtain ⟨rfl, rfl⟩ := Prod.mk.inj here
        simp [find?]
      · have named : name ∈ rest.map Prod.fst := List.mem_map_of_mem later
        have differs : known ≠ name := fun same => distinct.1 (same ▸ named)
        simp [find?, differs, ih distinct.2 later]

/-- Of two values set for a name the later one counts. -/
theorem put_put (catalog : Catalog α) (name : String) (first second : α) :
    (catalog.put name first).put name second = catalog.put name second := by
  induction catalog with
  | nil => simp [put]
  | cons entry rest ih =>
      obtain ⟨known, old⟩ := entry
      by_cases same : known = name
      · simp [put, same]
      · simp [put, same, ih]

/-- Setting a name to its value changes nothing. -/
theorem put_of_find? {catalog : Catalog α} {name : String} {value : α}
    (found : catalog.find? name = some value) : catalog.put name value = catalog := by
  induction catalog with
  | nil => cases found
  | cons entry rest ih =>
      obtain ⟨known, old⟩ := entry
      rw [find?] at found
      rw [put]
      split at found
      · next same => simp [same, Option.some.inj found]
      · next differs => simp [differs, ih found]

/-- The catalog without the entries of a name. -/
def without (catalog : Catalog α) (name : String) : Catalog α :=
  catalog.filter fun entry => entry.1 ≠ name

theorem find?_without (catalog : Catalog α) (name other : String) :
    (catalog.without name).find? other = if other = name then none else catalog.find? other := by
  induction catalog with
  | nil => simp [without, find?]
  | cons entry rest ih =>
      obtain ⟨known, old⟩ := entry
      rw [without] at ih
      by_cases dropped : known = name
      · subst dropped
        by_cases same : other = known
        · simpa [without, find?, same] using ih
        · have differs : known ≠ other := fun equal => same equal.symm
          simpa [without, find?, same, differs] using ih
      · by_cases same : known = other
        · subst same
          simp [without, find?, dropped]
        · simpa [without, find?, dropped, same] using ih

end Catalog
end RequestLog
