import RequestLog.Proofs.Registry.Containment
import RequestLog.World

/-!
# Compiling and evaluating

Evaluating the texts of a format one by one, each in the state that the one before leaves behind,
gives everything there is to know about compiling the format.  `compileTokens_eq` says so for the
tokens of a record begun; `compile_agrees_with_evaluate` says it for stored formats, together with
how often extractors are invoked and what is logged.
-/

namespace RequestLog

/-- The evaluation of one text. -/
structure Evaluation (σ : Type) where
  /-- The text. -/
  raw : String
  /-- The state in which it was evaluated. -/
  before : σ
  /-- What came of it. -/
  outcome : Outcome Value
  /-- The state that it left behind. -/
  after : σ

namespace Evaluation

variable {σ : Type}

/-- The field that the evaluation gives to a record. -/
def field (evaluation : Evaluation σ) : String × Value :=
  (evaluation.raw, Extractor.field evaluation.outcome)

/-- The complaint about an ordinary failure. -/
def complaint? (evaluation : Evaluation σ) : Option FieldFailure :=
  match evaluation.outcome with
  | .ok _ => none
  | .error failure => if failure.isOrdinary then some ⟨evaluation.raw, failure⟩ else none

/-- The failure, if it is not ordinary. -/
def grave? (evaluation : Evaluation σ) : Option Failure :=
  match evaluation.outcome with
  | .ok _ => none
  | .error failure => if failure.isOrdinary then none else some failure

theorem grave?_eq_some_iff (evaluation : Evaluation σ) (failure : Failure) :
    evaluation.grave? = some failure ↔
      evaluation.outcome = .error failure ∧ failure.isOrdinary = false := by
  rw [grave?]
  cases evaluation.outcome with
  | ok value => simp
  | error cause =>
      simp only [Except.error.injEq]
      constructor
      · intro found
        split at found
        · cases found
        · next grave =>
            obtain rfl := Option.some.inj found
            exact ⟨rfl, Bool.not_eq_true _ ▸ grave⟩
      · rintro ⟨rfl, grave⟩
        simp [grave]

theorem complaint?_eq_some_iff (evaluation : Evaluation σ) (complaint : FieldFailure) :
    evaluation.complaint? = some complaint ↔ complaint.raw = evaluation.raw ∧
      evaluation.outcome = .error complaint.failure ∧ complaint.failure.isOrdinary = true := by
  obtain ⟨raw, failure⟩ := complaint
  rw [complaint?]
  cases evaluation.outcome with
  | ok value => simp
  | error cause =>
      simp only [Except.error.injEq]
      constructor
      · intro found
        split at found
        · next ordinary =>
            obtain ⟨rfl, rfl⟩ := FieldFailure.mk.inj (Option.some.inj found)
            exact ⟨rfl, rfl, ordinary⟩
        · cases found
      · rintro ⟨rfl, rfl, ordinary⟩
        rw [if_pos ordinary]

theorem grave?_of_isTame {evaluation : Evaluation σ} (tame : Outcome.IsTame evaluation.outcome) :
    evaluation.grave? = none := by
  rw [Option.eq_none_iff_forall_ne_some]
  intro failure grave
  obtain ⟨failed, grave⟩ := (grave?_eq_some_iff evaluation failure).mp grave
  rw [tame failure failed] at grave
  cases grave

end Evaluation

namespace Registry

variable {σ : Type} (registry : Registry σ) (view : Exchange.View)

/-- Evaluate texts one after the other, up to the first failure that is not ordinary. -/
def evaluateEach : List String → σ → List (Evaluation σ)
  | [], _ => []
  | raw :: rest, state =>
      let evaluated := registry.evaluate (.str raw) view state
      let evaluation : Evaluation σ := ⟨raw, state, evaluated.1, evaluated.2⟩
      match evaluation.grave? with
      | some _ => [evaluation]
      | none => evaluation :: evaluateEach rest evaluated.2

/-- The state that evaluations leave behind. -/
def stateAfter (evaluations : List (Evaluation σ)) (state : σ) : σ :=
  (evaluations.getLast?.map Evaluation.after).getD state

theorem stateAfter_cons (first : Evaluation σ) (rest : List (Evaluation σ)) (state : σ) :
    stateAfter (first :: rest) state = stateAfter rest first.after := by
  cases rest with
  | nil => rfl
  | cons second others => simp [stateAfter, List.getLast?_cons]

/-- The record that evaluations make, or the failure that ended them. -/
def outcomeOf (evaluations : List (Evaluation σ)) : Outcome Record :=
  match evaluations.findSome? Evaluation.grave? with
  | some failure => .error failure
  | none => .ok (evaluations.map Evaluation.field)

variable {registry view}

/-- Every evaluation is what evaluating its text in its state gives. -/
theorem evaluate_of_mem_evaluateEach {texts : List String} {state : σ} {evaluation : Evaluation σ}
    (present : evaluation ∈ registry.evaluateEach view texts state) :
    registry.evaluate (.str evaluation.raw) view evaluation.before =
      (evaluation.outcome, evaluation.after) := by
  induction texts generalizing state with
  | nil => cases present
  | cons raw rest ih =>
      rw [evaluateEach] at present
      split at present
      · rw [List.mem_singleton.mp present]
      · rcases List.mem_cons.mp present with rfl | later
        · rfl
        · exact ih later

/-- The texts are evaluated in order, from the first one on. -/
theorem raws_evaluateEach (texts : List String) (state : σ) :
    (registry.evaluateEach view texts state).map Evaluation.raw =
      texts.take (registry.evaluateEach view texts state).length := by
  induction texts generalizing state with
  | nil => rfl
  | cons raw rest ih =>
      rw [evaluateEach]
      split
      · rfl
      · simp [ih]

/-- Every text is evaluated in the state that the one before left behind. -/
theorem states_evaluateEach (texts : List String) (state : σ) :
    let evaluations := registry.evaluateEach view texts state
    evaluations.map Evaluation.before =
      (state :: evaluations.map Evaluation.after).take evaluations.length := by
  induction texts generalizing state with
  | nil => rfl
  | cons raw rest ih =>
      simp only [evaluateEach]
      split
      · rfl
      · simp only [List.map_cons, List.length_cons, List.take_succ_cons]
        exact congrArg _ (ih _)

/-- Without a failure that is not ordinary, all texts are evaluated and there is a record. -/
theorem evaluateEach_of_mild {texts : List String} {state : σ}
    (mild : ∀ evaluation ∈ registry.evaluateEach view texts state, evaluation.grave? = none) :
    (registry.evaluateEach view texts state).map Evaluation.raw = texts ∧
      outcomeOf (registry.evaluateEach view texts state) =
        .ok ((registry.evaluateEach view texts state).map Evaluation.field) := by
  constructor
  · induction texts generalizing state with
    | nil => rfl
    | cons raw rest ih =>
        simp only [evaluateEach] at mild ⊢
        split
        · next failure grave =>
            simp only [grave, List.mem_singleton, forall_eq] at mild
            cases mild
        · next ordinary =>
            simp only [ordinary, List.mem_cons, forall_eq_or_imp] at mild
            rw [List.map_cons, ih mild.2]
  · rw [outcomeOf, List.findSome?_eq_none_iff.mpr mild]

/-- If there is a record, all texts were evaluated and it has their fields. -/
theorem evaluateEach_of_record {texts : List String} {state : σ} {record : Record}
    (made : outcomeOf (registry.evaluateEach view texts state) = .ok record) :
    (registry.evaluateEach view texts state).map Evaluation.raw = texts ∧
      record = (registry.evaluateEach view texts state).map Evaluation.field := by
  have none_found :
      (registry.evaluateEach view texts state).findSome? Evaluation.grave? = none := by
    cases found : (registry.evaluateEach view texts state).findSome? Evaluation.grave? with
    | none => rfl
    | some failure =>
        rw [outcomeOf, found] at made
        cases made
  obtain ⟨all_evaluated, outcome_eq⟩ :=
    evaluateEach_of_mild (List.findSome?_eq_none_iff.mp none_found)
  rw [made] at outcome_eq
  exact ⟨all_evaluated, Except.ok.inj outcome_eq⟩

/-- A failure that is not ordinary is the first and only one. -/
theorem findSome?_grave?_evaluateEach {texts : List String} {state : σ} {evaluation : Evaluation σ}
    (present : evaluation ∈ registry.evaluateEach view texts state) {failure : Failure}
    (grave : evaluation.grave? = some failure) :
    (registry.evaluateEach view texts state).findSome? Evaluation.grave? = some failure := by
  induction texts generalizing state with
  | nil => cases present
  | cons raw rest ih =>
      rw [evaluateEach] at present ⊢
      split at present
      · next cause found =>
          obtain rfl := List.mem_singleton.mp present
          simp [grave]
      · next ordinary =>
          rcases List.mem_cons.mp present with rfl | later
          · rw [ordinary] at grave
            cases grave
          · simp only [ordinary, List.findSome?_cons]
            exact ih later

/-- What ends the evaluations is the one failure that is not ordinary; there is a record
otherwise. -/
theorem outcomeOf_evaluateEach_eq_error_iff (texts : List String) (state : σ) (failure : Failure) :
    outcomeOf (registry.evaluateEach view texts state) = .error failure ↔
      ∃ evaluation ∈ registry.evaluateEach view texts state,
        evaluation.outcome = .error failure ∧ failure.isOrdinary = false := by
  simp only [← Evaluation.grave?_eq_some_iff, outcomeOf]
  constructor
  · intro ended
    split at ended
    · next cause found =>
        obtain rfl := Except.error.inj ended
        exact List.exists_of_findSome?_eq_some found
    · cases ended
  · rintro ⟨evaluation, present, grave⟩
    rw [findSome?_grave?_evaluateEach present grave]

/-- A token that can be read back from its text, and that has an extractor, is evaluated as it is
drawn. -/
theorem evaluate_raw_eq_draw {token : Token} (read : Token.parse? token.raw = some token)
    (known : ∃ extractor, registry.lookup? token.key = some extractor) (state : σ) :
    registry.evaluate (.str token.raw) view state = registry.draw view token state := by
  obtain ⟨extractor, found⟩ := known
  simp only [evaluate, Token.ofValue, read, draw, found]

theorem outcomeOf_cons {first : Evaluation σ} (ordinary : first.grave? = none)
    (rest : List (Evaluation σ)) :
    outcomeOf (first :: rest) = (outcomeOf rest).map (first.field :: ·) := by
  simp only [outcomeOf, List.findSome?_cons, ordinary]
  cases rest.findSome? Evaluation.grave? <;> rfl

/-- Compiling tokens is evaluating their texts, if no two of them have one text. -/
theorem compileTokens_eq {tokens : List Token}
    (drawn : ∀ token ∈ tokens, ∀ state,
      registry.evaluate (.str token.raw) view state = registry.draw view token state)
    (distinct : (tokens.map Token.raw).Nodup) (record : Record)
    (free : ∀ token ∈ tokens, token.raw ∉ record.names) (state : σ) :
    let evaluations := registry.evaluateEach view (tokens.map Token.raw) state
    registry.compileTokens view tokens record state =
      { outcome := (outcomeOf evaluations).map (record ++ ·)
        complaints := evaluations.filterMap Evaluation.complaint?
        state := stateAfter evaluations state } := by
  -- The texts still to come are new to the record, so every field goes to its end.
  induction tokens generalizing record state with
  | nil => simp [compileTokens, evaluateEach, outcomeOf, stateAfter, Except.map]
  | cons token rest ih =>
      rw [List.map_cons, List.nodup_cons] at distinct
      have put_here (value : Value) :
          record.put token.raw value = record ++ [(token.raw, value)] :=
        Catalog.put_of_not_mem _ _ _ (free token List.mem_cons_self)
      have free_later (value : Value) :
          ∀ other ∈ rest, other.raw ∉ Catalog.names (record ++ [(token.raw, value)]) := by
        intro other within
        have differs : other.raw ≠ token.raw := fun same =>
          distinct.1 (same ▸ List.mem_map_of_mem within)
        have absent := free other (List.mem_cons_of_mem _ within)
        simpa [Catalog.names_append, Catalog.names, differs] using absent
      have goes (value : Value) (later : σ) :=
        ih (fun other within => drawn other (List.mem_cons_of_mem _ within)) distinct.2
          (record ++ [(token.raw, value)]) (free_later value) later
      rw [compileTokens_cons, List.map_cons, evaluateEach, drawn token List.mem_cons_self]
      obtain ⟨outcome, later⟩ := registry.draw view token state
      have joined (value : Value) (others : Outcome Record) :
          others.map (record ++ [(token.raw, value)] ++ ·) =
            (others.map ((token.raw, value) :: ·)).map (record ++ ·) := by
        cases others <;> simp [Except.map]
      cases outcome with
      | ok value =>
          simp only [put_here, goes, joined, Evaluation.grave?]
          rw [outcomeOf_cons rfl, stateAfter_cons, List.filterMap_cons_none rfl]
          rfl
      | error failure =>
          cases ordinary : failure.isOrdinary with
          | true =>
              have mild : Evaluation.grave? ⟨token.raw, state, .error failure, later⟩ = none := by
                simp [Evaluation.grave?, ordinary]
              have complains : Evaluation.complaint? ⟨token.raw, state, .error failure, later⟩ =
                  some ⟨token.raw, failure⟩ := by
                simp [Evaluation.complaint?, ordinary]
              simp only [put_here, goes, joined, mild, ordinary, ↓reduceIte]
              rw [outcomeOf_cons mild, stateAfter_cons, List.filterMap_cons_some complains]
              rfl
          | false =>
              simp [Evaluation.grave?, Evaluation.complaint?, ordinary, outcomeOf, stateAfter,
                Except.map]

end Registry

/-! ## Invocations -/

/-- An invocation of an extractor: the key that it is registered under, and the arguments. -/
abbrev Invocation := String × List String

/-- The extractor registered under a key, noting in the state that it is invoked. -/
def Extractor.noting {σ : Type} (extractor : Extractor σ) (key : String) :
    Extractor (σ × List Invocation) where
  name := extractor.name
  run view args noted :=
    let drawn := extractor.run view args noted.1
    (drawn.1, drawn.2, noted.2 ++ [(key, args)])

/-- The invocation that a token asks for. -/
def Token.invocation (token : Token) : Invocation :=
  (token.key, token.args)

namespace Registry

variable {σ : Type} (registry : Registry σ)

/-- The registry with the same extractors, each of them noting its invocations. -/
def noting : Registry (σ × List Invocation) where
  extractors := registry.extractors.map fun entry => (entry.1, entry.2.noting entry.1)
  formats := registry.formats

theorem lookup?_noting (key : String) :
    registry.noting.lookup? key = (registry.lookup? key).map fun extractor =>
      extractor.noting key :=
  registry.extractors.find?_map (fun key extractor => extractor.noting key) key

variable {registry} {view : Exchange.View}

theorem draw_noting {token : Token}
    (known : ∃ extractor, registry.lookup? token.key = some extractor) (state : σ)
    (invocations : List Invocation) :
    registry.noting.draw view token (state, invocations) =
      ((registry.draw view token state).1, (registry.draw view token state).2,
        invocations ++ [token.invocation]) := by
  obtain ⟨extractor, found⟩ := known
  simp only [draw, lookup?_noting, found, Option.map_some]
  rfl

/-- Compiling invokes the extractors of the tokens that are reached, each once and in order, and
noting that changes nothing else. -/
theorem compileTokens_noting {tokens : List Token}
    (drawn : ∀ token ∈ tokens, ∀ state,
      registry.evaluate (.str token.raw) view state = registry.draw view token state)
    (known : ∀ token ∈ tokens, ∃ extractor, registry.lookup? token.key = some extractor)
    (record : Record) (state : σ) (invocations : List Invocation) :
    let compiled := registry.compileTokens view tokens record state
    let reached := tokens.take (registry.evaluateEach view (tokens.map Token.raw) state).length
    registry.noting.compileTokens view tokens record (state, invocations) =
      { outcome := compiled.outcome
        complaints := compiled.complaints
        state := (compiled.state, invocations ++ reached.map Token.invocation) } := by
  induction tokens generalizing record state invocations with
  | nil => simp [compileTokens]
  | cons token rest ih =>
      have goes := ih (fun other within => drawn other (List.mem_cons_of_mem _ within))
        fun other within => known other (List.mem_cons_of_mem _ within)
      rw [compileTokens_cons, compileTokens_cons, draw_noting (known token List.mem_cons_self),
        List.map_cons, evaluateEach, drawn token List.mem_cons_self]
      obtain ⟨outcome, later⟩ := registry.draw view token state
      cases outcome with
      | ok value => simp [goes, Evaluation.grave?]
      | error failure =>
          cases ordinary : failure.isOrdinary with
          | true => simp [goes, Evaluation.grave?, ordinary]
          | false => simp [Evaluation.grave?, ordinary]

end Registry

/-! ## Warnings -/

namespace World

variable {σ : Type}

/-- The warning about an extractor that failed. -/
def warning (world : World σ) (complaint : FieldFailure) : Logging.Entry where
  logger := "accesslog.registry"
  level := 30
  template := .str "simplifier %s failed"
  arguments := .ofList [.str complaint.raw]
  access := none
  failure := some complaint.failure
  created := .float world.seconds

/-- Complaining logs one warning for each complaint, in order. -/
theorem complain_eq (world : World σ) (complaints : List FieldFailure) :
    world.complain complaints =
      { world with
        logs := (complaints.map world.warning).foldl Logging.System.log world.logs } := by
  induction complaints generalizing world with
  | nil => rfl
  | cons complaint rest ih => exact ih _

end World

namespace Registry

variable {σ : Type}

namespace Sound

variable {registry : Registry σ} {stored : String × Format} {view : Exchange.View}

theorem evaluate_eq_draw (sound : registry.Sound) (kept : stored ∈ registry.formats)
    (view : Exchange.View) : ∀ token ∈ stored.2.tokens, ∀ state,
      registry.evaluate (.str token.raw) view state = registry.draw view token state := by
  intro token within state
  obtain ⟨entry, listed, rfl⟩ := List.mem_map.mp within
  exact evaluate_raw_eq_draw ((sound.keyed stored kept).read entry listed)
    (sound.lookup?_isSome kept within) state

/-- Compiling a stored format is evaluating the texts of its tokens. -/
theorem compile_eq (sound : registry.Sound) (kept : stored ∈ registry.formats) (state : σ) :
    let evaluations := registry.evaluateEach view (stored.2.tokens.map Token.raw) state
    registry.compile stored.1 view state =
      { outcome := outcomeOf evaluations
        complaints := evaluations.filterMap Evaluation.complaint?
        state := stateAfter evaluations state } := by
  intro evaluations
  have same_outcome : (outcomeOf evaluations).map (([] : Record) ++ ·) = outcomeOf evaluations := by
    cases outcomeOf evaluations <;> rfl
  rw [sound.compile_eq_compileFormat kept, compileFormat,
    compileTokens_eq (sound.evaluate_eq_draw kept view) (sound.keyed stored kept).nodup_raws []
      (by simp [Catalog.names]), same_outcome]

/-- The fields of a record go by the texts of the tokens of its format. -/
theorem names_of_compile (sound : registry.Sound) (kept : stored ∈ registry.formats) {state : σ}
    {record : Record} (compiled : (registry.compile stored.1 view state).outcome = .ok record) :
    record.names = stored.2.tokens.map Token.raw := by
  rw [sound.compile_eq kept] at compiled
  obtain ⟨all_evaluated, rfl⟩ := evaluateEach_of_record compiled
  rw [Catalog.names, List.map_map]
  exact all_evaluated

/-- Only a failure that is not ordinary comes out of compiling a stored format. -/
theorem isOrdinary_of_compile (sound : registry.Sound) (kept : stored ∈ registry.formats)
    {state : σ} {failure : Failure}
    (compiled : (registry.compile stored.1 view state).outcome = .error failure) :
    failure.isOrdinary = false := by
  rw [sound.compile_eq kept] at compiled
  obtain ⟨evaluation, -, -, grave⟩ :=
    (outcomeOf_evaluateEach_eq_error_iff _ state failure).mp compiled
  exact grave

/-- A complaint about a token says why its value could not be drawn. -/
theorem draw_of_mem_complaints (sound : registry.Sound) (kept : stored ∈ registry.formats)
    {token : Token} (present : token ∈ stored.2.tokens) {state : σ} {failure : Failure}
    (complained : ⟨token.raw, failure⟩ ∈ (registry.compile stored.1 view state).complaints) :
    ∃ before, (registry.draw view token before).1 = .error failure := by
  rw [sound.compile_eq kept] at complained
  obtain ⟨evaluation, listed, found⟩ := List.mem_filterMap.mp complained
  obtain ⟨raw_eq, failed, -⟩ := (evaluation.complaint?_eq_some_iff _).mp found
  have evaluated := evaluate_of_mem_evaluateEach listed
  rw [← raw_eq, sound.evaluate_eq_draw kept view token present] at evaluated
  exact ⟨evaluation.before, by rw [evaluated, failed]⟩

/-- Where a record is made, there is a complaint about every token whose value is never drawn. -/
theorem mem_complaints_of_draw (sound : registry.Sound) (kept : stored ∈ registry.formats)
    {token : Token} (present : token ∈ stored.2.tokens) {state : σ} {record : Record}
    (made : (registry.compile stored.1 view state).outcome = .ok record) {failure : Failure}
    (drawn : ∀ before, (registry.draw view token before).1 = .error failure) :
    ⟨token.raw, failure⟩ ∈ (registry.compile stored.1 view state).complaints := by
  rw [sound.compile_eq kept] at made ⊢
  obtain ⟨all_evaluated, -⟩ := evaluateEach_of_record made
  have reached := List.mem_map_of_mem (f := Token.raw) present
  rw [← all_evaluated] at reached
  obtain ⟨evaluation, listed, raw_eq⟩ := List.mem_map.mp reached
  have evaluated := evaluate_of_mem_evaluateEach listed
  rw [raw_eq, sound.evaluate_eq_draw kept view token present] at evaluated
  have failed : evaluation.outcome = .error failure := by
    rw [← drawn evaluation.before, evaluated]
  have ordinary : failure.isOrdinary = true := by
    by_contra grave
    rw [Bool.not_eq_true] at grave
    have ended := (outcomeOf_evaluateEach_eq_error_iff _ state failure).mpr
      ⟨evaluation, listed, failed, grave⟩
    cases made.symm.trans ended
  exact List.mem_filterMap.mpr ⟨evaluation, listed,
    (evaluation.complaint?_eq_some_iff _).mpr ⟨raw_eq.symm, failed, ordinary⟩⟩

end Sound

/-- Compiling a stored format agrees with evaluating the texts of its tokens one by one.  The record
has the values that are returned, and empty fields for ordinary failures; only a failure that is not
ordinary is the outcome instead.  The extractors of the evaluated texts are invoked once each, in
the order of the format, and one warning is logged for each ordinary failure. -/
theorem compile_agrees_with_evaluate {users : UserReader} {plan : Plan} {fresh : Registry σ}
    (created : create users plan = .ok fresh) (history : List (Registration σ))
    {stored : String × Format} (kept : stored ∈ (fresh.after history).formats) (request : Request)
    (response : Option Response) (world : World σ) :
    let registry := fresh.after history
    let view := world.view request response
    let raws := stored.2.tokens.map Token.raw
    let evaluations := registry.evaluateEach view raws world.state
    let compilation := registry.compile stored.1 view world.state
    ((∀ evaluation ∈ evaluations, registry.evaluate (.str evaluation.raw) view evaluation.before =
        (evaluation.outcome, evaluation.after)) ∧
      evaluations.map Evaluation.raw = raws.take evaluations.length ∧
      evaluations.map Evaluation.before =
        (world.state :: evaluations.map Evaluation.after).take evaluations.length) ∧
    (raws.Nodup ∧
      ((∀ evaluation ∈ evaluations, Outcome.IsTame evaluation.outcome) →
        evaluations.map Evaluation.raw = raws ∧
          compilation.outcome = .ok (evaluations.map Evaluation.field)) ∧
      ∀ failure, compilation.outcome = .error failure ↔
        ∃ evaluation ∈ evaluations,
          evaluation.outcome = .error failure ∧ failure.isOrdinary = false) ∧
    (compilation.complaints = evaluations.filterMap Evaluation.complaint? ∧
      compilation.state = stateAfter evaluations world.state ∧
      world.compile registry stored.1 request response =
        (compilation.outcome,
          { world with
            state := compilation.state
            logs := (compilation.complaints.map world.warning).foldl Logging.System.log
              world.logs })) ∧
    registry.noting.compile stored.1 view (world.state, []) =
      { outcome := compilation.outcome
        complaints := compilation.complaints
        state := (compilation.state,
          (stored.2.tokens.take evaluations.length).map Token.invocation) } := by
  intro registry view raws evaluations compilation
  have sound : registry.Sound := (Sound.create created).after history
  have compiled : compilation = ⟨outcomeOf evaluations, evaluations.filterMap Evaluation.complaint?,
      stateAfter evaluations world.state⟩ := sound.compile_eq kept world.state
  refine ⟨⟨fun _ => evaluate_of_mem_evaluateEach, raws_evaluateEach raws world.state,
      states_evaluateEach raws world.state⟩, ⟨(sound.keyed stored kept).nodup_raws, ?_, ?_⟩,
      ⟨?_, ?_, ?_⟩, ?_⟩
  · intro tame
    have mild : ∀ evaluation ∈ evaluations, evaluation.grave? = none :=
      fun evaluation within => Evaluation.grave?_of_isTame (tame evaluation within)
    rw [compiled]
    exact evaluateEach_of_mild mild
  · intro failure
    rw [compiled]
    exact outcomeOf_evaluateEach_eq_error_iff raws world.state failure
  · rw [compiled]
  · rw [compiled]
  · rw [World.compile, World.settle, World.complain_eq]
    rfl
  · have resolved : registry.formats.find? stored.1 = some stored.2 :=
      Catalog.find?_of_mem sound.distinct kept
    have renamed : registry.noting.formats.find? stored.1 = some stored.2 := resolved
    simp only [compilation, compile, resolve, resolved, renamed, compileFormat]
    exact compileTokens_noting (sound.evaluate_eq_draw kept view)
      (fun token => sound.lookup?_isSome kept) [] world.state []

/-- The first extractor fails, the second one counts, and the third one is given an argument too
many; each is invoked once, and the record shows what the second one returns. -/
theorem compile_agrees_with_evaluate_of_failing :
    let boom : Extractor Nat :=
      ⟨"boom", fun _ _ count => (.error (.saying .runtime "no"), count + 1)⟩
    let tally : Extractor Nat := ⟨"tally", fun _ _ count => (.ok (.int count), count + 1)⟩
    let fresh : Registry Nat := ⟨Extractor.builtins Credentials.userName, []⟩
    let registry := fresh.after [.extractor (.str "boom") (some boom),
      .extractor (.str "Tally") (some tally),
      .format (.str "own") (.list [.str "boom[x]", .str "tally", .str "method[y]"])]
    let request : Request :=
      ⟨.empty, .str "GET", .str "/", .str "1.1", .null, .null, .null, .null, none⟩
    let view : Exchange.View := (World.start ⟨0⟩ 7 []).view request none
    (registry.compile "own" view 7).outcome =
        .ok [("boom[x]", .null), ("tally", .int 8), ("method[y]", .null)] ∧
      (registry.noting.compile "own" view (7, [])).state =
        (9, [("boom", ["x"]), ("tally", []), ("method", ["y"])]) := by
  intro boom tally fresh registry request view
  have created : create Credentials.userName [] = .ok fresh := rfl
  let format : Format := [("boom", ⟨"boom[x]", "boom", ["x"]⟩), ("tally", ⟨"tally", "tally", []⟩),
    ("method", ⟨"method[y]", "method", ["y"]⟩)]
  let settled : Registry Nat :=
    ⟨fresh.extractors ++ [("boom", boom), ("tally", tally)], [("own", format)]⟩
  have grown : registry = settled := rfl
  have kept : ("own", format) ∈ registry.formats := by rw [grown]; exact List.mem_cons_self
  have agrees := compile_agrees_with_evaluate created _ kept request none (World.start ⟨0⟩ 7 [])
  have evaluated : settled.evaluateEach view ["boom[x]", "tally", "method[y]"] 7 =
      [⟨"boom[x]", 7, .error (.saying .runtime "no"), 8⟩, ⟨"tally", 8, .ok (.int 8), 9⟩,
        ⟨"method[y]", 9, .error (Fault.tooManyArguments "method" 1 2 3), 9⟩] := rfl
  have raws : format.tokens.map Token.raw = ["boom[x]", "tally", "method[y]"] := rfl
  have begun : (World.start (σ := Nat) ⟨0⟩ 7 []).state = 7 := rfl
  simp only [show fresh.after _ = settled from grown, raws, begun] at agrees
  rw [evaluated] at agrees
  obtain ⟨-, ⟨-, returns, -⟩, ⟨-, left_behind, -⟩, noted⟩ := agrees
  rw [grown]
  constructor
  · refine (returns fun evaluation within => ?_).2
    simp only [List.mem_cons, List.not_mem_nil, or_false] at within
    rcases within with rfl | rfl | rfl
    · intro failure failed
      cases failed
      rfl
    · exact Outcome.isTame_ok _
    · exact Outcome.isTame_fault _
  · rw [noted, left_behind]
    rfl

end Registry
end RequestLog
