import RequestLog.Proofs.Registry.Fields

/-!
# Ordinary failures

A failure that is not ordinary can only be raised on purpose: no fault is one.  So the built-in
extractors fail only ordinarily, and with such extractors every stored format is compiled to the
end.
-/

namespace RequestLog

theorem Fault.isOrdinary_kind (fault : Fault) : fault.kind.isOrdinary = true := by
  cases fault with
  | notWritable type =>
      rw [Fault.kind]
      split <;> rfl
  | _ => rfl

/-- If the step fails, its failure is ordinary. -/
def Outcome.IsTame {α : Type} (outcome : Outcome α) : Prop :=
  ∀ failure, outcome = .error failure → failure.isOrdinary = true

namespace Outcome

variable {α : Type}

theorem isTame_ok (value : α) : IsTame (.ok value) := by
  intro failure failed
  cases failed

theorem isTame_fault (fault : Fault) : IsTame (.error fault : Outcome α) := by
  intro failure failed
  cases failed
  exact fault.isOrdinary_kind

end Outcome

namespace Extractor

variable {σ : Type}

/-- Every failure of the extractor is ordinary. -/
def IsTame (extractor : Extractor σ) : Prop :=
  ∀ view args state, Outcome.IsTame (extractor.run view args state).1

/-- An extractor without arguments draws its value or refuses arguments. -/
theorem run_plain {name function : String} {draw : Exchange.View → Outcome Value}
    (view : Exchange.View) (args : List String) (state : σ) :
    ((plain name function draw : Extractor σ).run view args state).1 = draw view ∨
      ∃ fault : Fault, ((plain name function draw).run view args state).1 = .error fault := by
  dsimp only [plain, stateless]
  split
  · exact Or.inl rfl
  · exact Or.inr ⟨_, rfl⟩

/-- An extractor with at most one argument draws its value or refuses more. -/
theorem run_optional {name : String} {least : Nat}
    {draw : Exchange.View → Option String → Outcome Value} (view : Exchange.View)
    (args : List String) (state : σ) :
    (∃ argument, ((optional name least draw : Extractor σ).run view args state).1 =
        draw view argument) ∨
      ∃ fault : Fault, ((optional name least draw).run view args state).1 = .error fault := by
  dsimp only [optional, stateless]
  split
  · exact Or.inl ⟨_, rfl⟩
  · exact Or.inr ⟨_, rfl⟩

/-- An extractor with one argument draws its value or refuses any other number. -/
theorem run_required {name argument : String} {draw : Exchange.View → String → Outcome Value}
    (view : Exchange.View) (args : List String) (state : σ) :
    (∃ value, ((required name argument draw : Extractor σ).run view args state).1 =
        draw view value) ∨
      ∃ fault : Fault, ((required name argument draw).run view args state).1 = .error fault := by
  dsimp only [required, stateless]
  split
  · exact Or.inr ⟨_, rfl⟩
  · exact Or.inl ⟨_, rfl⟩
  · exact Or.inr ⟨_, rfl⟩

theorem isTame_plain {name function : String} {draw : Exchange.View → Outcome Value}
    (tame : ∀ view, (draw view).IsTame) : (plain name function draw : Extractor σ).IsTame := by
  intro view args state
  rcases run_plain view args state with same | ⟨fault, same⟩ <;> rw [same]
  · exact tame view
  · exact Outcome.isTame_fault fault

theorem isTame_optional {name : String} {least : Nat}
    {draw : Exchange.View → Option String → Outcome Value}
    (tame : ∀ view argument, (draw view argument).IsTame) :
    (optional name least draw : Extractor σ).IsTame := by
  intro view args state
  rcases run_optional view args state with ⟨argument, same⟩ | ⟨fault, same⟩ <;> rw [same]
  · exact tame view argument
  · exact Outcome.isTame_fault fault

theorem isTame_required {name argument : String}
    {draw : Exchange.View → String → Outcome Value}
    (tame : ∀ view value, (draw view value).IsTame) :
    (required name argument draw : Extractor σ).IsTame := by
  intro view args state
  rcases run_required view args state with ⟨value, same⟩ | ⟨fault, same⟩ <;> rw [same]
  · exact tame view value
  · exact Outcome.isTame_fault fault

theorem isTame_ofHeader (found : Except Fault (Option String)) : (ofHeader found).IsTame := by
  cases found with
  | ok text => exact Outcome.isTame_ok _
  | error fault => exact Outcome.isTame_fault fault

theorem isTame_ownHeader (name : String) (view : Exchange.View) : (ownHeader name view).IsTame := by
  rw [ownHeader]
  split
  · exact Outcome.isTame_ok _
  · exact Outcome.isTame_fault _

theorem isTame_fixedTextBy (x : Float) (places : String) : (fixedTextBy x places).IsTame := by
  rw [fixedTextBy]
  repeat' split
  all_goals first
    | exact Outcome.isTame_ok _
    | exact Outcome.isTame_fault _

theorem isTame_responseTime (view : Exchange.View) (places : Option String) :
    (responseTime view places).IsTame := by
  unfold responseTime
  split
  · exact Outcome.isTame_fault _
  · exact Outcome.isTame_ok _
  · exact Outcome.isTame_ok _
  · exact isTame_fixedTextBy _ _

theorem isTame_date (view : Exchange.View) (form : Option String) : (date view form).IsTame := by
  rw [date]
  split <;> exact Outcome.isTame_ok _

theorem isTame_status (view : Exchange.View) : (status view).IsTame := by
  rw [status]
  repeat' split
  all_goals exact Outcome.isTame_ok _

theorem isTame_referrer (view : Exchange.View) : (referrer view).IsTame := by
  rw [referrer]
  split
  · next failure failed =>
      rw [← failed]
      exact isTame_ownHeader "referer" view
  · split
    · exact Outcome.isTame_ok _
    · exact isTame_ownHeader "referrer" view

theorem isTame_remoteUser {users : UserReader} (tame : ∀ request, (users request).IsTame)
    (view : Exchange.View) : (remoteUser users view).IsTame := by
  rw [remoteUser]
  split
  · next failure failed =>
      intro cause same
      cases same
      exact tame view.request failure failed
  · exact Outcome.isTame_ok _

theorem isTame_responseHeader (view : Exchange.View) (name : String) :
    (responseHeader view name).IsTame := by
  rw [responseHeader]
  split
  · exact Outcome.isTame_ok _
  · split
    · exact isTame_ofHeader _
    · exact Outcome.isTame_ok _

/-- The built-in extractors fail only ordinarily, if the user is found so. -/
theorem isTame_of_mem_builtins {users : UserReader} (tame : ∀ request, (users request).IsTame)
    {entry : String × Extractor σ} (present : entry ∈ builtins users) : entry.2.IsTame := by
  simp only [builtins, List.mem_cons, List.not_mem_nil, or_false] at present
  rcases present with rfl | rfl | rfl | rfl | rfl | rfl | rfl | rfl | rfl | rfl | rfl | rfl
  · exact isTame_plain fun _ => Outcome.isTame_ok _
  · exact isTame_plain fun _ => Outcome.isTame_ok _
  · exact isTame_optional isTame_responseTime
  · exact isTame_optional isTame_date
  · exact isTame_plain isTame_status
  · exact isTame_plain isTame_referrer
  · exact isTame_plain fun _ => Outcome.isTame_ok _
  · exact isTame_plain (isTame_remoteUser tame)
  · exact isTame_plain fun _ => Outcome.isTame_ok _
  · exact isTame_plain (isTame_ownHeader "user-agent")
  · exact isTame_required fun view name => isTame_ofHeader _
  · exact isTame_required isTame_responseHeader

end Extractor

theorem Credentials.isTame_userName (request : Request) : (userName request).IsTame := by
  rw [userName]
  split
  · exact Outcome.isTame_ok _
  · exact Outcome.isTame_fault _

namespace Registry

variable {σ : Type} {registry : Registry σ}

/-- Every failure of the extractors is ordinary. -/
def IsTame (registry : Registry σ) : Prop :=
  ∀ key extractor, registry.lookup? key = some extractor → extractor.IsTame

theorem isTame_of_builtins {users : UserReader} (tame : ∀ request, (users request).IsTame)
    (formats : Catalog Format) :
    ({ extractors := Extractor.builtins users, formats := formats } : Registry σ).IsTame := by
  intro key extractor found
  exact Extractor.isTame_of_mem_builtins tame (Catalog.mem_of_find? found)

theorem IsTame.draw (tame : registry.IsTame) (view : Exchange.View) (token : Token) (state : σ) :
    Outcome.IsTame (registry.draw view token state).1 := by
  rw [Registry.draw]
  split
  · exact Outcome.isTame_ok _
  · next extractor found => exact tame token.key extractor found view token.args state

/-- If tokens are drawn with ordinary failures only, they are compiled to the end. -/
theorem exists_record_of_draws {view : Exchange.View} {tokens : List Token}
    (tame : ∀ token ∈ tokens, ∀ state, Outcome.IsTame (registry.draw view token state).1)
    (record : Record) (state : σ) :
    ∃ made, (registry.compileTokens view tokens record state).outcome = .ok made := by
  induction tokens generalizing record state with
  | nil => exact ⟨record, rfl⟩
  | cons token rest ih =>
      rcases registry.compileTokens_cons_cases view token rest record state with
        goes | ⟨failure, failed, grave, -⟩
      · rw [goes]
        exact ih (fun other within => tame other (List.mem_cons_of_mem _ within)) _ _
      · rw [tame token List.mem_cons_self state failure failed] at grave
        cases grave

/-- If the extractors fail only ordinarily, compiling by name fails only for an unknown name. -/
theorem IsTame.compile (tame : registry.IsTame) {name : String} {view : Exchange.View} {state : σ}
    {failure : Failure} (failed : (registry.compile name view state).outcome = .error failure) :
    failure = .unknownFormat name := by
  rw [Registry.compile, resolve] at failed
  cases found : registry.formats.find? name with
  | none =>
      rw [found] at failed
      cases failed
      rfl
  | some format =>
      have draws : ∀ token ∈ format.tokens, ∀ state,
        Outcome.IsTame (registry.draw view token state).1 := fun token _ => tame.draw view token
      obtain ⟨made, compiled⟩ := exists_record_of_draws draws [] state
      rw [found] at failed
      cases compiled.symm.trans failed

end Registry
end RequestLog
