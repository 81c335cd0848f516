import Mathlib.Data.List.Nodup
import RequestLog.Logging.Entry
import RequestLog.Proofs.Catalog

/-!
# Mappings with text keys

A mapping whose keys are texts is a catalog: setting and looking up a key are those of the catalog.
-/

namespace RequestLog

namespace Catalog

variable {α : Type}

/-- Set the fields of a catalog one after the other. -/
def putAll (fields added : Catalog α) : Catalog α :=
  added.foldl (fun built field => built.put field.1 field.2) fields

theorem putAll_cons (fields : Catalog α) (name : String) (value : α) (rest : Catalog α) :
    fields.putAll ((name, value) :: rest) = (fields.put name value).putAll rest := rfl

/-- Fields of new names are added at the end. -/
theorem putAll_of_nodup {fields added : Catalog α}
    (distinct : (fields.names ++ added.names).Nodup) : fields.putAll added = fields ++ added := by
  induction added generalizing fields with
  | nil => simp [putAll]
  | cons field rest ih =>
      obtain ⟨name, value⟩ := field
      have absent : name ∉ fields.names := by
        intro present
        exact List.disjoint_of_nodup_append distinct present List.mem_cons_self
      rw [putAll_cons, put_of_not_mem _ _ _ absent,
        ih (by simpa [names, List.append_assoc] using distinct), List.append_assoc]
      rfl

/-- Fields that are set take the places of those that were there before. -/
theorem find?_putAll {added : Catalog α} (distinct : added.names.Nodup) (fields : Catalog α)
    (name : String) :
    (fields.putAll added).find? name = (added.find? name).or (fields.find? name) := by
  induction added generalizing fields with
  | nil => rfl
  | cons field rest ih =>
      obtain ⟨known, value⟩ := field
      obtain ⟨absent, rest_distinct⟩ := List.nodup_cons.mp distinct
      rw [putAll_cons, ih rest_distinct, find?_put, find?]
      by_cases same : known = name
      · subst same
        have nothing_later : Catalog.find? rest known = none :=
          (find?_eq_none_iff rest known).mpr absent
        simp [nothing_later]
      · simp [same]

end Catalog

namespace Value

/-- The entries of a mapping with text keys. -/
def entriesOf (fields : Catalog Value) : List (Value × Value) :=
  fields.map fun field => (str field.1, field.2)

/-- Fields whose values are texts. -/
def textFields (fields : Catalog String) : Catalog Value :=
  fields.map fun field => (field.1, str field.2)

@[simp]
theorem names_textFields (fields : Catalog String) : (textFields fields).names = fields.names := by
  simp [textFields, Catalog.names, Function.comp_def]

/-- Texts of new names are added at the end. -/
theorem putAll_textFields {fields added : Catalog String}
    (distinct : (Catalog.names (fields ++ added)).Nodup) :
    (textFields fields).putAll (textFields added) = textFields (fields ++ added) := by
  have named : ((textFields fields).names ++ (textFields added).names).Nodup := by
    rw [names_textFields, names_textFields, ← Catalog.names_append]
    exact distinct
  rw [Catalog.putAll_of_nodup named, textFields, textFields, ← List.map_append]
  rfl

/-- Setting a text key in a mapping is setting it in the catalog. -/
theorem setEntry_entriesOf (fields : Catalog Value) (name : String) (value : Value) :
    setEntry (entriesOf fields) (str name) value = entriesOf (fields.put name value) := by
  have same_key (known : String) : sameKey (str known) (str name) = (known == name) := by
    simp [sameKey, asInteger?]
  induction fields with
  | nil => rfl
  | cons field rest ih =>
      obtain ⟨known, old⟩ := field
      rw [entriesOf, List.map_cons, setEntry, same_key, Catalog.put]
      by_cases same : known = name
      · simp [same, entriesOf]
      · simp only [beq_iff_eq, same, ↓reduceIte]
        exact congrArg _ ih

theorem foldl_setEntry (fields added : Catalog Value) :
    (entriesOf added).foldl (fun built entry => setEntry built entry.1 entry.2) (entriesOf fields) =
      entriesOf (fields.putAll added) := by
  induction added generalizing fields with
  | nil => rfl
  | cons field rest ih =>
      have first : entriesOf (field :: rest) = (str field.1, field.2) :: entriesOf rest := rfl
      rw [first, List.foldl_cons, setEntry_entriesOf, ih]
      rfl

/-- Looking up a text key in a mapping is looking it up in the catalog. -/
theorem entry?_entriesOf (fields : Catalog Value) (name : String) :
    entry? (entriesOf fields) name = fields.find? name := by
  induction fields with
  | nil => rfl
  | cons field rest ih =>
      obtain ⟨known, value⟩ := field
      rw [ entry?, entriesOf, List.map_cons, Catalog.find?]
      by_cases same : known = name
      · subst same
        simp [isText]
      · rw [List.find?_cons_of_neg (by simpa [isText] using same), if_neg same, ← ih]
        rfl

end Value

/-- An entry that carries a record has its fields. -/
theorem Logging.Entry.fields_of_access {entry : Logging.Entry} {record : Catalog Value}
    (carries : entry.access = some (.ofFields record)) :
    entry.fields = Value.entriesOf record := by
  rw [Logging.Entry.fields, carries]
  rfl

end RequestLog
