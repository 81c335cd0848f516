import RequestLog.Json.Reader
import RequestLog.Json.Writer
import RequestLog.Proofs.Entries
import RequestLog.Proofs.Text.Plain

/-!
# Reading back what is written

A text is written in plain characters and read back as it was, whatever characters it holds.  The
proof goes from units of sixteen bits to characters, whose escapes are one unit or a surrogate pair,
from characters to texts, and from texts to objects of texts.  Each step leaves what follows unread.
-/

namespace RequestLog
namespace Json

open Text

/-! ### Units -/

theorem hexValue?_hexDigit : ∀ value < 16, hexValue? (hexDigit value) = some value := by decide

theorem isPlain_hexDigit : ∀ value < 16, isPlain (hexDigit value) = true := by decide

theorem hexDigits_four (unit : Nat) :
    hexDigits 4 unit = [hexDigit (unit / 16 / 16 / 16 % 16), hexDigit (unit / 16 / 16 % 16),
      hexDigit (unit / 16 % 16), hexDigit (unit % 16)] := rfl

theorem unit?_hexDigits {unit : Nat} (small : unit < 0x10000) :
    unit? (hexDigit (unit / 16 / 16 / 16 % 16)) (hexDigit (unit / 16 / 16 % 16))
      (hexDigit (unit / 16 % 16)) (hexDigit (unit % 16)) = some unit := by
  have digit (n : Nat) : hexValue? (hexDigit (n % 16)) = some (n % 16) :=
    hexValue?_hexDigit _ (Nat.mod_lt _ (by decide))
  simp only [unit?, digit, bind, Option.bind, pure]
  congr 1
  omega

theorem isPlain_escapeUnit (unit : Nat) : ∀ c ∈ escapeUnit unit, isPlain c = true := by
  have digit (n : Nat) : isPlain (hexDigit (n % 16)) = true :=
    isPlain_hexDigit _ (Nat.mod_lt _ (by decide))
  intro c within
  simp only [escapeUnit, hexDigits_four, List.mem_cons, List.not_mem_nil, or_false] at within
  rcases within with rfl | rfl | rfl | rfl | rfl | rfl
  · decide
  · decide
  all_goals exact digit _

theorem lowUnitAhead?_escapeUnit {unit : Nat} (low : isLowUnit unit = true) (rest : List Char) :
    lowUnitAhead? (escapeUnit unit ++ rest) = some (unit, rest) := by
  have small : unit < 0x10000 := by
    simp only [isLowUnit, Bool.and_eq_true, decide_eq_true_eq] at low
    omega
  simp only [escapeUnit, hexDigits_four, List.cons_append, List.nil_append, lowUnitAhead?,
    unit?_hexDigits small, low, ↓reduceIte]

/-! ### Characters -/

/-- The code points of characters, between which those of surrogate pairs are left out. -/
theorem toNat_valid (c : Char) : c.toNat < 0xD800 ∨ 0xDFFF < c.toNat ∧ c.toNat < 0x110000 :=
  c.valid

/-- A character is no half of a surrogate pair. -/
theorem not_isHighUnit_or_isLowUnit (c : Char) :
    isHighUnit c.toNat = false ∧ isLowUnit c.toNat = false := by
  have valid := toNat_valid c
  simp only [isHighUnit, isLowUnit, Bool.and_eq_false_iff, decide_eq_false_iff_not]
  omega

/-- The units of a pair stand for the code point beyond the basic plane that they were made of. -/
theorem exists_units {code : Nat} (beyond : 0x10000 ≤ code) (bounded : code < 0x110000) :
    ∃ high low, high = 0xD800 + (code - 0x10000) / 0x400 ∧
      low = 0xDC00 + (code - 0x10000) % 0x400 ∧ high < 0x10000 ∧ isHighUnit high = true ∧
      isLowUnit low = true ∧ pairedUnits high low = code := by
  refine ⟨_, _, rfl, rfl, by omega, ?_, ?_, ?_⟩
  · simp only [isHighUnit, Bool.and_eq_true, decide_eq_true_eq]
    omega
  · simp only [isLowUnit, Bool.and_eq_true, decide_eq_true_eq]
    omega
  · unfold pairedUnits
    omega

/-- The code points of the basic plane are escaped by themselves, all others as a pair. -/
theorem readCode?_escapeChar (c : Char) (rest : List Char) :
    readCode? (escapeChar c ++ rest) = some (c.toNat, rest) := by
  rw [escapeChar]
  split
  · next basic =>
      have alone := (not_isHighUnit_or_isLowUnit c).1
      simp only [escapeUnit, hexDigits_four, List.cons_append, List.nil_append, readCode?,
        unit?_hexDigits basic, alone, Bool.false_eq_true, ↓reduceIte]
  · next beyond =>
      have valid := toNat_valid c
      obtain ⟨high, low, high_eq, low_eq, small, is_high, is_low, paired⟩ :=
        exists_units (Nat.not_lt.mp beyond) (by omega)
      have ahead := lowUnitAhead?_escapeUnit is_low rest
      rw [List.append_assoc, ← high_eq, ← low_eq]
      generalize escapeUnit low ++ rest = follows at ahead ⊢
      simp only [escapeUnit, hexDigits_four, List.cons_append, List.nil_append, readCode?,
        unit?_hexDigits small, is_high, ↓reduceIte, ahead, paired]

/-- What is written for a character is read as the character, and ends there. -/
theorem readCode?_writeChar (c : Char) (rest : List Char) :
    readCode? (writeChar c ++ rest) = some (c.toNat, rest) := by
  unfold writeChar
  iterate 7
    split
    · next same =>
        rw [same]
        rfl
  split
  · next no_quote no_backslash _ _ _ _ _ shown =>
      rw [List.singleton_append, readCode?.eq_def]
      split
      · next same => exact absurd (List.cons.inj same).1 no_backslash
      · next same => exact absurd (List.cons.inj same).1 no_backslash
      · next same =>
          obtain ⟨rfl, rfl⟩ := List.cons.inj same
          rw [if_neg (by simp only [not_or, Nat.not_lt]; exact ⟨shown.1, no_backslash⟩)]
      · next nothing => cases nothing
  · exact readCode?_escapeChar c rest

theorem writeChar_eq_cons (c : Char) :
    ∃ first others, writeChar c = first :: others ∧ first ≠ '"' := by
  unfold writeChar
  iterate 7
    split
    · exact ⟨_, _, rfl, by decide⟩
  split
  · next no_quote _ _ _ _ _ _ _ => exact ⟨c, [], rfl, no_quote⟩
  · unfold escapeChar
    dsimp only
    split <;> exact ⟨_, _, rfl, by decide⟩

theorem isPlain_writeChar (c : Char) : ∀ shown ∈ writeChar c, isPlain shown = true := by
  unfold writeChar
  iterate 7
    split
    · exact List.all_eq_true.mp (by decide)
  split
  · next plain =>
      intro shown within
      rw [List.mem_singleton.mp within]
      simpa [isPlain] using plain
  · unfold escapeChar
    dsimp only
    split
    · exact isPlain_escapeUnit _
    · exact List.forall_mem_append.mpr ⟨isPlain_escapeUnit _, isPlain_escapeUnit _⟩

/-! ### Texts -/

theorem readCodes?_succ_cons (fuel : Nat) {first : Char} (no_quote : first ≠ '"')
    (others : List Char) :
    readCodes? (fuel + 1) (first :: others) = do
      let (code, rest) ← readCode? (first :: others)
      let (codes, after) ← readCodes? fuel rest
      return (code :: codes, after) := by
  rw [readCodes?.eq_def]
  split
  · next none_left => cases none_left
  · next same => exact absurd (List.cons.inj same).1 no_quote
  · next same _ =>
      cases same
      rfl

theorem readCodes?_flatMap (chars rest : List Char) {fuel : Nat} (enough : chars.length < fuel) :
    readCodes? fuel (chars.flatMap writeChar ++ '"' :: rest) =
      some (chars.map Char.toNat, rest) := by
  induction chars generalizing fuel with
  | nil =>
      obtain ⟨less, rfl⟩ := Nat.exists_eq_add_one.mpr enough
      rfl
  | cons c others ih =>
      obtain ⟨less, rfl⟩ := Nat.exists_eq_add_one.mpr (Nat.zero_lt_of_lt enough)
      have read_one := readCode?_writeChar c (others.flatMap writeChar ++ '"' :: rest)
      have read_others : readCodes? less _ = _ := ih (by simpa using enough)
      rw [List.flatMap_cons, List.append_assoc]
      -- The quote that ends the text is told apart by the first character that is written.
      obtain ⟨first, more, written, no_quote⟩ := writeChar_eq_cons c
      rw [written] at read_one ⊢
      rw [List.cons_append, readCodes?_succ_cons _ no_quote, ← List.cons_append, read_one]
      simp only [bind, Option.bind, read_others, pure, List.map_cons]

theorem length_le_flatMap (chars : List Char) :
    chars.length ≤ (chars.flatMap writeChar).length := by
  induction chars with
  | nil => exact Nat.le_refl 0
  | cons c others ih =>
      obtain ⟨first, more, written, -⟩ := writeChar_eq_cons c
      rw [List.flatMap_cons, written, List.length_append, List.length_cons, List.length_cons]
      omega

theorem textOf_map_toNat (text : String) : textOf (text.toList.map Char.toNat) = .str text := by
  have whole : (text.toList.map Char.toNat).any (fun code => isHighUnit code || isLowUnit code) =
      false := by
    simp only [List.any_map, List.any_eq_false]
    intro c _
    simp [not_isHighUnit_or_isLowUnit c]
  have back : (text.toList.map Char.toNat).map Char.ofNat = text.toList := by
    simp [List.map_map, Function.comp_def]
  rw [textOf, whole, back, String.ofList_toList]
  rfl

/-- What is written for a text is read as the text behind its opening quote. -/
theorem readText?_writeText (text : String) (rest : List Char) :
    ∃ behind, writeText text = '"' :: behind ∧
      readText? (behind ++ rest) = some (.str text, rest) := by
  refine ⟨text.toList.flatMap writeChar ++ ['"'], rfl, ?_⟩
  have enough := length_le_flatMap text.toList
  rw [readText?, List.append_assoc, List.singleton_append, readCodes?_flatMap, Option.map_some,
    textOf_map_toNat]
  simp only [List.length_append]
  omega

theorem isPlain_writeText (text : String) : ∀ c ∈ writeText text, isPlain c = true := by
  intro c within
  simp only [writeText, List.mem_append, List.mem_cons, List.mem_flatMap, List.not_mem_nil,
    or_false] at within
  rcases within with (rfl | ⟨char, -, written⟩) | rfl
  · decide
  · exact isPlain_writeChar char c written
  · decide

/-! ### Objects of texts -/

/-- An object of texts by name. -/
def texts (fields : Catalog String) : Value :=
  .ofFields (Value.textFields fields)

/-- An entry of an object of texts. -/
def writeField (field : String × String) : List Char :=
  writeText field.1 ++ ':' :: ' ' :: writeText field.2

/-- The line of an object of texts. -/
def lineOfTexts (fields : Catalog String) : List Char :=
  '\x7b' :: commaSeparated (fields.map writeField) ++ ['\x7d']

theorem write_texts (fields : Catalog String) :
    write (texts fields) = .ok (lineOfTexts fields) := by
  have entries : ∀ fields : Catalog String,
      writeEntries (fields.map fun field => (Value.str field.1, Value.str field.2)) =
        .ok (fields.map writeField) := by
    intro fields
    induction fields with
    | nil => rfl
    | cons field rest ih =>
        simp only [List.map_cons, writeEntries, keyText, write, ih, bind, Except.bind, pure,
          Except.pure, writeField]
  simp only [texts, Value.ofFields, Value.textFields, List.map_map, write]
  rw [show ((fun field : String × Value => (Value.str field.1, field.2)) ∘ fun field =>
    (field.1, Value.str field.2)) = fun field : String × String =>
      (Value.str field.1, Value.str field.2) from rfl, entries]
  rfl

theorem readValue?_writeText (fuel : Nat) (text : String) (rest : List Char) :
    readValue? (fuel + 1) (' ' :: writeText text ++ rest) = some (.str text, rest) := by
  obtain ⟨behind, written, read⟩ := readText?_writeText text rest
  rw [written]
  exact read

/-- An entry begins with a quote, and its name is read up to the colon. -/
theorem exists_writeField_eq (field : String × String) (rest : List Char) :
    ∃ behind, writeField field ++ rest = '"' :: behind ∧
      readText? behind = some (.str field.1, ':' :: (' ' :: writeText field.2 ++ rest)) := by
  obtain ⟨behind, written, name_read⟩ :=
    readText?_writeText field.1 (':' :: (' ' :: writeText field.2 ++ rest))
  refine ⟨_, ?_, name_read⟩
  simp [writeField, written]

/-- The last entry of an object is read up to the closing brace. -/
theorem readEntries?_last (fuel : Nat) (field : String × String) (final : List Char) :
    readEntries? (fuel + 2) (writeField field ++ '\x7d' :: final) =
      some ([(.str field.1, .str field.2)], final) := by
  obtain ⟨behind, begins, name_read⟩ := exists_writeField_eq field ('\x7d' :: final)
  have at_quote : skipSpace ('"' :: behind) = '"' :: behind := rfl
  have at_colon (content : List Char) : skipSpace (':' :: content) = ':' :: content := rfl
  have at_brace : skipSpace ('\x7d' :: final) = '\x7d' :: final := rfl
  rw [readEntries?.eq_def, begins]
  simp only [at_quote, name_read, at_colon, readValue?_writeText, at_brace, bind, Option.bind, pure]

/-- Behind an entry and a comma the other entries are read. -/
theorem readEntries?_more (fuel : Nat) (field : String × String) (more : List Char) :
    readEntries? (fuel + 2) (writeField field ++ ',' :: more) =
      (readEntries? (fuel + 1) more).bind fun read =>
        some ((.str field.1, .str field.2) :: read.1, read.2) := by
  obtain ⟨behind, begins, name_read⟩ := exists_writeField_eq field (',' :: more)
  have at_quote : skipSpace ('"' :: behind) = '"' :: behind := rfl
  have at_colon (content : List Char) : skipSpace (':' :: content) = ':' :: content := rfl
  have at_comma : skipSpace (',' :: more) = ',' :: more := rfl
  rw [readEntries?.eq_def, begins]
  simp only [at_quote, name_read, at_colon, readValue?_writeText, at_comma, bind, Option.bind, pure]

/-- The entries of an object are read in their order up to the closing brace. -/
theorem readEntries?_commaSeparated (first : String × String) (others : Catalog String)
    {fuel : Nat} (enough : others.length + 1 < fuel) (final : List Char) :
    readEntries? fuel (commaSeparated ((first :: others).map writeField) ++ '\x7d' :: final) =
      some ((first :: others).map fun field => (.str field.1, .str field.2), final) := by
  obtain ⟨less, rfl⟩ : ∃ less, fuel = less + 2 := ⟨fuel - 2, by omega⟩
  induction others generalizing first less with
  | nil => exact readEntries?_last less first final
  | cons next others ih =>
      obtain ⟨lesser, rfl⟩ : ∃ lesser, less = lesser + 1 := by
        rw [List.length_cons] at enough
        exact ⟨less - 1, by omega⟩
      have read_others := ih next lesser (by rw [List.length_cons] at enough; omega)
      have behind_comma : readEntries? (lesser + 2)
          (' ' :: (commaSeparated ((next :: others).map writeField) ++ '\x7d' :: final)) =
            readEntries? (lesser + 2)
              (commaSeparated ((next :: others).map writeField) ++ '\x7d' :: final) := rfl
      have pieces : commaSeparated ((first :: next :: others).map writeField) =
          writeField first ++
            (',' :: ' ' :: commaSeparated ((next :: others).map writeField)) := rfl
      rw [pieces, List.append_assoc, List.cons_append, List.cons_append, readEntries?_more,
        behind_comma, read_others]
      rfl

theorem ofEntries_texts {fields : Catalog String} (distinct : fields.names.Nodup) :
    Value.ofEntries (fields.map fun field => (.str field.1, .str field.2)) = texts fields := by
  have entries_eq : fields.map (fun field => (Value.str field.1, Value.str field.2)) =
      Value.entriesOf (Value.textFields fields) := by
    rw [Value.entriesOf, Value.textFields, List.map_map]
    rfl
  have appended : (Value.textFields []).putAll (Value.textFields fields) =
      Value.textFields fields :=
    Value.putAll_textFields distinct
  have built := Value.foldl_setEntry (Value.textFields []) (Value.textFields fields)
  rw [appended] at built
  rw [entries_eq]
  exact congrArg Value.dict built

theorem isPlain_commaSeparated {pieces : List (List Char)}
    (plain : ∀ piece ∈ pieces, ∀ c ∈ piece, isPlain c = true) :
    ∀ c ∈ commaSeparated pieces, isPlain c = true := by
  induction pieces with
  | nil => exact fun c within => by cases within
  | cons piece others ih =>
      have here := plain piece List.mem_cons_self
      have later := ih fun other within => plain other (List.mem_cons_of_mem _ within)
      cases others with
      | nil => exact here
      | cons next rest =>
          rw [commaSeparated, List.forall_mem_append, List.forall_mem_cons, List.forall_mem_cons]
          · exact ⟨here, by decide, by decide, later⟩
          · exact List.cons_ne_nil next rest

theorem length_le_commaSeparated {pieces : List (List Char)}
    (nonempty : ∀ piece ∈ pieces, piece ≠ []) :
    pieces.length ≤ (commaSeparated pieces).length := by
  induction pieces with
  | nil => exact Nat.le_refl 0
  | cons piece others ih =>
      have some_char : 0 < piece.length :=
        List.length_pos_of_ne_nil (nonempty piece List.mem_cons_self)
      have later := ih fun other within => nonempty other (List.mem_cons_of_mem _ within)
      cases others with
      | nil => exact some_char
      | cons next rest =>
          simp only [commaSeparated, List.length_append, List.length_cons] at later ⊢
          omega

theorem isPlain_lineOfTexts (fields : Catalog String) :
    IsPlain (String.ofList (lineOfTexts fields)) := by
  have entries_plain : ∀ piece ∈ fields.map writeField, ∀ c ∈ piece, isPlain c = true := by
    intro piece listed
    obtain ⟨field, -, rfl⟩ := List.mem_map.mp listed
    rw [writeField, List.forall_mem_append, List.forall_mem_cons, List.forall_mem_cons]
    exact ⟨isPlain_writeText _, by decide, by decide, isPlain_writeText _⟩
  rw [IsPlain, String.toList_ofList, lineOfTexts, List.cons_append, List.forall_mem_cons,
    List.forall_mem_append]
  exact ⟨by decide, isPlain_commaSeparated entries_plain,
    List.forall_mem_singleton.mpr (by decide)⟩

/-- The line is longer than it has entries. -/
theorem length_lt_lineOfTexts (fields : Catalog String) :
    fields.length < (lineOfTexts fields).length := by
  have long : (fields.map writeField).length ≤ (commaSeparated (fields.map writeField)).length := by
    refine length_le_commaSeparated fun piece listed => ?_
    obtain ⟨field, -, rfl⟩ := List.mem_map.mp listed
    exact List.cons_ne_nil _ _
  rw [List.length_map] at long
  simp only [lineOfTexts, List.cons_append, List.length_cons, List.length_append, List.length_nil]
  omega

theorem readValue?_lineOfTexts {fields : Catalog String} (distinct : fields.names.Nodup)
    {fuel : Nat} (enough : fields.length < fuel) :
    readValue? (fuel + 1) (lineOfTexts fields) = some (texts fields, []) := by
  cases fields with
  | nil => rfl
  | cons first others =>
      have entries_read := readEntries?_commaSeparated first others enough []
      obtain ⟨behind, begins⟩ : ∃ behind,
          commaSeparated ((first :: others).map writeField) = '"' :: behind := by
        cases others <;> exact ⟨_, rfl⟩
      rw [begins, List.cons_append] at entries_read
      rw [lineOfTexts, begins, ← ofEntries_texts distinct]
      exact congrArg (Option.bind · fun read => some (Value.ofEntries read.1, read.2)) entries_read

/-- An object of texts is written in plain characters and read back as it was. -/
theorem read?_write_texts {fields : Catalog String} (distinct : fields.names.Nodup) :
    ∃ line, write (texts fields) = .ok line ∧ IsPlain (String.ofList line) ∧
      read? (String.ofList line) = some (texts fields) := by
  refine ⟨lineOfTexts fields, write_texts fields, isPlain_lineOfTexts fields, ?_⟩
  rw [read?, String.toList_ofList, readValue?_lineOfTexts distinct (length_lt_lineOfTexts fields)]
  rfl

end Json
end RequestLog
