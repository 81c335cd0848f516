import RequestLog.Proofs.Entries
import RequestLog.Settings

/-!
# Options by name

Options come one after the other, and a name may occur in several spellings.  Collecting them keeps
the last value of each name.  What is found under a name is the last option for it, and the names
are those that occur, each once, in the order of their first occurrence.
-/

namespace RequestLog
namespace Catalog

variable {α : Type}

/-- The last value that a list of entries gives to a name. -/
def last? (entries : Catalog α) (name : String) : Option α :=
  (entries.reverse.find? fun entry => entry.1 == name).map Prod.snd

theorem last?_cons (known : String) (value : α) (rest : Catalog α) (name : String) :
    last? ((known, value) :: rest) name =
      (last? rest name).or (if known = name then some value else none) := by
  rw [last?, List.reverse_cons, List.find?_append, last?]
  cases List.find? (fun entry => entry.1 == name) rest.reverse with
  | some entry => rfl
  | none =>
      by_cases same : known = name
      · simp [same]
      · simp [same]

/-- Of several values set for a name the last one counts. -/
theorem find?_putAll_eq_last? (fields added : Catalog α) (name : String) :
    (fields.putAll added).find? name = (last? added name).or (fields.find? name) := by
  induction added generalizing fields with
  | nil => rfl
  | cons entry rest ih =>
      obtain ⟨known, value⟩ := entry
      rw [putAll_cons, ih, find?_put, last?_cons, Option.or_assoc]
      by_cases same : known = name
      · rw [if_pos same, if_pos same, Option.some_or]
      · rw [if_neg same, if_neg same, Option.none_or]

/-- Names that are set come behind those that were there, each in the place of its first
occurrence. -/
theorem names_putAll (fields added : Catalog α) :
    (fields.putAll added).names =
      fields.names ++ (added.names.removeAll fields.names).eraseDups := by
  induction added generalizing fields with
  | nil => simp [putAll, names, List.removeAll]
  | cons entry rest ih =>
      obtain ⟨name, value⟩ := entry
      have all_names : names ((name, value) :: rest) = name :: names rest := rfl
      rw [putAll_cons, ih, names_put, all_names]
      split
      · next known => simp [List.removeAll, known]
      · next absent =>
          have others : (names rest).removeAll (fields.names ++ [name]) =
              ((names rest).removeAll fields.names).filter fun other => !other == name := by
            simp only [List.removeAll, List.filter_filter]
            refine List.filter_congr fun other _ => ?_
            by_cases same : other = name <;> simp [same]
          have head : (name :: names rest).removeAll fields.names =
              name :: (names rest).removeAll fields.names := by
            simp [List.removeAll, absent]
          rw [others, head, List.eraseDups_cons, List.append_assoc, List.singleton_append]

theorem nodup_names_putAll {fields : Catalog α} (distinct : fields.names.Nodup)
    (added : Catalog α) :
    (fields.putAll added).names.Nodup := by
  induction added generalizing fields with
  | nil => exact distinct
  | cons entry rest ih => exact ih (nodup_names_put distinct _ _)

end Catalog

namespace Settings
namespace Options

/-- The last option whose name is, in upper case, the given one. -/
def lastFor? (options : Options) (name : String) : Option Value :=
  (options.reverse.find? fun option => Text.uppercase option.1 == name).map Prod.snd

/-- Options with their names in upper case. -/
def inUpperCase (options : Options) : Options :=
  options.map fun option => (Text.uppercase option.1, option.2)

theorem collected_eq (options : Options) : options.collected = Catalog.putAll [] options := rfl

theorem uppercased_eq (options : Options) :
    options.uppercased = Catalog.putAll [] (inUpperCase options.collected) := by
  rw [Catalog.putAll, inUpperCase, List.foldl_map]
  rfl

/-- Options of which no two have the same name are collected as they are. -/
theorem collected_of_nodup {options : Options} (distinct : (Catalog.names options).Nodup) :
    options.collected = options := by
  rw [collected_eq, Catalog.putAll_of_nodup]
  · rfl
  · exact distinct

/-- What is found under a name is the last option for it. -/
theorem find?_uppercased (options : Options) (name : String) :
    options.uppercased.find? name = lastFor? options.collected name := by
  rw [uppercased_eq, Catalog.find?_putAll_eq_last?, Catalog.find?_nil, Option.or_none,
    Catalog.last?, inUpperCase, ← List.map_reverse, List.find?_map, Option.map_map, lastFor?]
  rfl

theorem names_uppercased (options : Options) :
    options.uppercased.names = (options.collected.names.map Text.uppercase).eraseDups := by
  rw [uppercased_eq, Catalog.names_putAll]
  simp only [Catalog.names, inUpperCase, List.removeAll, List.map_nil, List.elem_nil,
    Bool.not_false, List.filter_true, List.nil_append, List.map_map]
  rfl

end Options
end Settings
end RequestLog
