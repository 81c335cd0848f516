import Mathlib
import RequestLog.Proofs.Text.Trimmed
import RequestLog.Text.Lowercase

/-!
# What lower case makes of a text

Lowering takes the characters one by one.  A character of ASCII becomes its lower case in ASCII; any
other one stays outside ASCII, except for the Kelvin sign, which becomes a `k`, and the dotted
capital I, which becomes an `i` and a dot (`lowerFrom_cons`).  So lowering neither makes nor loses a
mark of ASCII that is no letter, and only the spellings of an ASCII word in other cases are lowered
to it.  Blanks stay as they are, so what is lowered to a trimmed text is trimmed
(`isTrimmed_of_lowerFrom`).
-/

namespace RequestLog
namespace Text

/-- What a run does to a character that it contains. -/
theorem CaseRun.image?_eq_some {run : CaseRun} {code image : Nat}
    (found : run.image? code = some image) :
    run.first ≤ code ∧ code ≤ run.last ∧ image = run.target + (code - run.first) := by
  rw [image?] at found
  split at found
  · next inside => exact ⟨inside.1, inside.2.1, (Option.some.inj found).symm⟩
  · cases found

/-- A run of characters beyond ASCII has its images beyond ASCII, and all of them are characters;
the Kelvin sign is a run of its own. -/
theorem target_of_mem_lowercaseRuns : ∀ run ∈ lowercaseRuns, run.last < 128 ∨
    (128 ≤ run.target ∧ (run.target + (run.last - run.first) < 55296 ∨
      57344 ≤ run.target ∧ run.target + (run.last - run.first) < 1114112)) ∨
    (run.first = 8490 ∧ run.last = 8490 ∧ run.target = 107) := by
  decide +kernel

/-- Beyond ASCII only the Kelvin sign is mapped into it. -/
theorem apply_lowercaseRuns {c : Char} (beyond : 128 ≤ c.toNat) :
    128 ≤ (CaseRun.apply lowercaseRuns c).toNat ∨ CaseRun.apply lowercaseRuns c = 'k' := by
  rw [CaseRun.apply]
  split
  · next code found =>
      obtain ⟨run, listed, image⟩ := List.exists_of_findSome?_eq_some found
      obtain ⟨first, last, rfl⟩ := CaseRun.image?_eq_some image
      rcases target_of_mem_lowercaseRuns run listed with
        ascii | ⟨target, valid⟩ | ⟨begins, ends, target⟩
      · omega
      · left
        have isValid : (run.target + (c.toNat - run.first)).isValidChar := by
          simp only [Nat.isValidChar]
          omega
        have code_eq : (Char.ofNat (run.target + (c.toNat - run.first))).toNat =
            run.target + (c.toNat - run.first) := by
          rw [Char.ofNat, dif_pos isValid]
          rfl
        omega
      · right
        rw [target, show c.toNat - run.first = 0 by omega]
  · exact Or.inl beyond

/-- Lowering one more character: one of ASCII becomes its lower case in ASCII, and one beyond it
becomes an `i` with a dot, a `k`, or a character beyond ASCII. -/
theorem lowerFrom_cons (afterCased : Bool) (c : Char) (rest : List Char) :
    ∃ image later, lowerFrom afterCased (c :: rest) = image ++ lowerFrom later rest ∧
      (c.toNat < 128 → image = [c.toLower]) ∧
      (128 ≤ c.toNat → image = ['i', Char.ofNat 775] ∨
        ∃ d, image = [d] ∧ (128 ≤ d.toNat ∨ d = 'k')) := by
  refine ⟨_, _, rfl, fun ascii => ?_, fun beyond => ?_⟩
  · have no_sigma : c ≠ 'Σ' := by
      rintro rfl
      exact absurd ascii (by decide)
    rw [if_neg no_sigma, lowerChar, if_pos ascii]
  · split
    · right
      split
      · exact ⟨_, rfl, Or.inl (by decide)⟩
      · exact ⟨_, rfl, Or.inl (by decide)⟩
    · rw [lowerChar, if_neg (by omega)]
      split
      · exact Or.inl rfl
      · exact Or.inr ⟨_, rfl, apply_lowercaseRuns beyond⟩

/-- Something is left of a text when it is lowered. -/
theorem lower_ne_nil {text : List Char} (some_char : text ≠ []) : lower text ≠ [] := by
  cases text with
  | nil => exact absurd rfl some_char
  | cons c rest =>
      obtain ⟨image, later, lowered, ascii, beyond⟩ := lowerFrom_cons false c rest
      rw [lower, lowered]
      by_cases small : c.toNat < 128
      · rw [ascii small]
        simp
      · rcases beyond (Nat.le_of_not_lt small) with dotted | ⟨d, single, -⟩
        · simp [dotted]
        · simp [single]

theorem lowercase_ne_empty {text : String} (some_char : text ≠ "") : lowercase text ≠ "" := by
  intro empty
  rw [lowercase, String.ofList_eq_empty_iff] at empty
  exact lower_ne_nil (fun nothing => some_char (String.toList_eq_nil_iff.mp nothing)) empty

/-- Only a mark itself has a mark that is no letter for its lower case. -/
theorem toLower_eq_iff {mark : Char} (mark_alone : mark.isAlpha = false) (c : Char) :
    c.toLower = mark ↔ c = mark := by
  have stays (letterless : c.isAlpha = false) : c.toLower = c := by
    rw [Char.isAlpha, Bool.or_eq_false_iff] at letterless
    exact Char.toLower_eq_of_not_isUpper (Bool.eq_false_iff.mp letterless.1)
  constructor
  · rintro rfl
    rw [Char.isAlpha_toLower_eq_isAlpha] at mark_alone
    exact (stays mark_alone).symm
  · rintro rfl
    exact stays mark_alone

/-- A mark of ASCII that is no letter stands in the lower case of a text just if it stands in the
text. -/
theorem mem_lowerFrom_iff {mark : Char} (ascii : mark.toNat < 128)
    (mark_alone : mark.isAlpha = false) (afterCased : Bool) (text : List Char) :
    mark ∈ lowerFrom afterCased text ↔ mark ∈ text := by
  have no_letter {letter : Char} (isAlpha : letter.isAlpha = true) : mark ≠ letter := by
    rintro rfl
    rw [isAlpha] at mark_alone
    cases mark_alone
  induction text generalizing afterCased with
  | nil => rfl
  | cons c rest ih =>
      obtain ⟨image, later, lowered, small, beyond⟩ := lowerFrom_cons afterCased c rest
      rw [lowered, List.mem_append, List.mem_cons]
      refine or_congr ?_ (ih later)
      by_cases within : c.toNat < 128
      · rw [small within, List.mem_singleton, eq_comm, toLower_eq_iff mark_alone, eq_comm]
      · have outside : mark ≠ c := by
          rintro rfl
          exact within ascii
        have not_image : mark ∉ image := by
          rcases beyond (Nat.le_of_not_lt within) with rfl | ⟨d, rfl, far | rfl⟩
          · have no_dot : mark ≠ Char.ofNat 775 := by
              rintro rfl
              exact absurd ascii (by decide)
            have no_i : mark ≠ 'i' := no_letter rfl
            simp [no_i, no_dot]
          · have differs : mark ≠ d := by
              rintro rfl
              omega
            simp [differs]
          · have no_k : mark ≠ 'k' := no_letter rfl
            simp [no_k]
        simp [outside, not_image]

/-- A mark of ASCII that is no letter stands in the lower case of a text just if it stands in the
text. -/
theorem mem_lowercase_iff {mark : Char} (ascii : mark.toNat < 128)
    (mark_alone : mark.isAlpha = false) (text : String) :
    mark ∈ (lowercase text).toList ↔ mark ∈ text.toList := by
  rw [lowercase, String.toList_ofList]
  exact mem_lowerFrom_iff ascii mark_alone false text.toList

theorem toLower_of_beyond {c : Char} (beyond : 128 ≤ c.toNat) : c.toLower = c := by
  refine Char.toLower_eq_of_not_isUpper fun upper => ?_
  simp only [Char.isUpper, UInt32.le_iff_toNat_le, decide_eq_true_eq] at upper
  have small : c.toNat ≤ 90 := upper.2
  omega

/-- A word of ASCII without a `k` is the lower case of its own spellings only. -/
theorem lowerFrom_eq_iff {word : List Char} (plain : ∀ c ∈ word, c.toNat < 128 ∧ c ≠ 'k')
    (afterCased : Bool) (text : List Char) :
    lowerFrom afterCased text = word ↔ text.map Char.toLower = word := by
  induction text generalizing afterCased word with
  | nil => rfl
  | cons c rest ih =>
      obtain ⟨image, later, lowered, small, beyond⟩ := lowerFrom_cons afterCased c rest
      rw [lowered, List.map_cons]
      by_cases within : c.toNat < 128
      · rw [small within, List.singleton_append]
        cases word with
        | nil => simp
        | cons first others =>
            rw [List.cons.injEq, List.cons.injEq,
              ih (fun d present => plain d (List.mem_cons_of_mem _ present))]
      · have far : 128 ≤ c.toNat := Nat.le_of_not_lt within
        -- Neither the image nor the character itself can stand in the word.
        refine iff_of_false ?_ ?_
        · rintro rfl
          rcases beyond far with rfl | ⟨d, rfl, outside | rfl⟩
          · exact absurd (plain (Char.ofNat 775) (by simp)).1 (by decide)
          · have inside := (plain d (by simp)).1
            omega
          · exact (plain 'k' (by simp)).2 rfl
        · rintro rfl
          have inside := (plain c.toLower List.mem_cons_self).1
          rw [toLower_of_beyond far] at inside
          omega

/-! ## Words of ASCII -/

theorem toNat_toLower_lt {c : Char} (ascii : c.toNat < 128) : c.toLower.toNat < 128 := by
  by_cases upper : c.isUpper = true
  · have last : c.toNat ≤ 90 := by
      simp only [Char.isUpper, UInt32.le_iff_toNat_le, decide_eq_true_eq] at upper
      exact upper.2
    have valid : (c.toNat + 32).isValidChar := Or.inl (by omega)
    rw [Char.toLower_eq_of_isUpper upper, Char.toNat_ofNat, if_pos valid]
    omega
  · rwa [Char.toLower_eq_of_not_isUpper upper]

theorem lowerFrom_of_ascii {text : List Char} (ascii : ∀ c ∈ text, c.toNat < 128)
    (afterCased : Bool) :
    lowerFrom afterCased text = text.map Char.toLower := by
  induction text generalizing afterCased with
  | nil => rfl
  | cons c rest ih =>
      obtain ⟨first, others⟩ := List.forall_mem_cons.mp ascii
      obtain ⟨image, later, lowered, small, -⟩ := lowerFrom_cons afterCased c rest
      rw [lowered, small first, ih others, List.map_cons, List.singleton_append]

/-! ## Blanks -/

/-- No blank is a letter, nor mapped in a way of its own. -/
theorem place_of_isBlank {c : Char} (blank : isBlank c = true) :
    c.toNat ≤ 32 ∨ 133 ≤ c.toNat ∧ c.toNat ≠ 304 ∧ c.toNat ≠ 931 := by
  simp only [isBlank, isWhiteSpace, whiteSpaceRanges, Ranges.covers, List.any_cons, List.any_nil,
    Bool.or_eq_true, Bool.and_eq_true, decide_eq_true_eq, Bool.false_eq_true, or_false] at blank
  omega

theorem isAlpha_of_isBlank {c : Char} (blank : isBlank c = true) : c.isAlpha = false := by
  rw [Bool.eq_false_iff]
  intro letter
  have bounds : 65 ≤ c.toNat ∧ c.toNat ≤ 122 := by
    simp only [Char.isAlpha, Char.isUpper, Char.isLower, Bool.or_eq_true, decide_eq_true_eq,
      UInt32.le_iff_toNat_le, Bool.and_eq_true] at letter
    rcases letter with upper | lower
    · exact ⟨upper.1, le_trans upper.2 (by decide)⟩
    · exact ⟨le_trans (by decide) lower.1, lower.2⟩
  have outside := place_of_isBlank blank
  omega

/-- No run of characters that are mapped reaches into the blanks. -/
theorem whiteSpace_apart : ∀ run ∈ lowercaseRuns, ∀ range ∈ whiteSpaceRanges,
    run.last < range.1 ∨ range.2 < run.first := by
  decide +kernel

theorem apply_of_isBlank {c : Char} (beyond : 128 ≤ c.toNat) (blank : isBlank c = true) :
    CaseRun.apply lowercaseRuns c = c := by
  obtain ⟨range, listed, inside⟩ :
      ∃ range ∈ whiteSpaceRanges, range.1 ≤ c.toNat ∧ c.toNat ≤ range.2 := by
    rw [isBlank, Bool.or_eq_true] at blank
    rcases blank with space | separator
    · exact Ranges.covers_iff.mp space
    · simp only [Bool.and_eq_true, decide_eq_true_eq] at separator
      omega
  have unmapped : lowercaseRuns.findSome? (fun run => run.image? c.toNat) = none := by
    rw [List.findSome?_eq_none_iff]
    intro run present
    rw [Option.eq_none_iff_forall_ne_some]
    intro image found
    obtain ⟨first, last, -⟩ := CaseRun.image?_eq_some found
    have apart := whiteSpace_apart run present range listed
    omega
  rw [CaseRun.apply, unmapped]

/-- A blank stays as it is when a text is lowered. -/
theorem lowerFrom_cons_of_isBlank {c : Char} (blank : isBlank c = true) (afterCased : Bool)
    (rest : List Char) : ∃ later, lowerFrom afterCased (c :: rest) = c :: lowerFrom later rest := by
  have outside := place_of_isBlank blank
  have no_sigma : c ≠ 'Σ' := by
    rintro rfl
    exact absurd blank (by decide)
  have stays : lowerChar c = [c] := by
    rw [lowerChar]
    split
    · next ascii =>
        rw [(toLower_eq_iff (isAlpha_of_isBlank blank) c).mpr rfl]
    · next beyond =>
        rw [if_neg (by omega), apply_of_isBlank (Nat.le_of_not_lt beyond) blank]
  refine ⟨if isIgnorable c then afterCased else isCased c, ?_⟩
  rw [lowerFrom, if_neg no_sigma, stays, List.singleton_append]

theorem exists_lowerFrom_append (afterCased : Bool) (front back : List Char) :
    ∃ image later, lowerFrom afterCased (front ++ back) = image ++ lowerFrom later back := by
  induction front generalizing afterCased with
  | nil => exact ⟨[], afterCased, rfl⟩
  | cons c rest ih =>
      obtain ⟨first, between, lowered, -⟩ := lowerFrom_cons afterCased c (rest ++ back)
      obtain ⟨image, later, others⟩ := ih between
      exact ⟨first ++ image, later, by rw [List.cons_append, lowered, others, List.append_assoc]⟩

/-- Blanks at the ends of a text stand at the ends of its lower case. -/
theorem isTrimmed_of_lowerFrom {afterCased : Bool} {text : List Char}
    (trimmed : IsTrimmed (lowerFrom afterCased text)) : IsTrimmed text := by
  constructor
  · intro c first
    by_contra blank
    rw [Bool.not_eq_false] at blank
    obtain ⟨rest, rfl⟩ := List.head?_eq_some_iff.mp first
    obtain ⟨later, lowered⟩ := lowerFrom_cons_of_isBlank blank afterCased rest
    rw [trimmed.first c (by rw [lowered, List.head?_cons])] at blank
    cases blank
  · intro c last
    by_contra blank
    rw [Bool.not_eq_false] at blank
    obtain ⟨front, rfl⟩ := List.getLast?_eq_some_iff.mp last
    obtain ⟨image, later, lowered⟩ := exists_lowerFrom_append afterCased front [c]
    obtain ⟨_, stays⟩ := lowerFrom_cons_of_isBlank blank later []
    rw [trimmed.last c (by rw [lowered, stays, lowerFrom, List.getLast?_concat])] at blank
    cases blank

theorem IsTrimmed.map_toLower {text : List Char} (trimmed : IsTrimmed text) :
    IsTrimmed (text.map Char.toLower) := by
  have keeps {c : Char} (outside : isBlank c = false) : isBlank c.toLower = false := by
    by_contra blank
    rw [Bool.not_eq_false] at blank
    have same := (toLower_eq_iff (isAlpha_of_isBlank blank) c).mp rfl
    rw [← same, outside] at blank
    cases blank
  constructor
  · intro c first
    rw [List.head?_map] at first
    obtain ⟨d, found, rfl⟩ := Option.map_eq_some_iff.mp first
    exact keeps (trimmed.first d found)
  · intro c last
    rw [List.getLast?_map] at last
    obtain ⟨d, found, rfl⟩ := Option.map_eq_some_iff.mp last
    exact keeps (trimmed.last d found)

end Text
end RequestLog
