/-!
# Steps that may fail

A computation in steps ends well exactly when each of its steps does, and fails with the fault
of the first step that does not. The lemmas of this module take such a computation apart, one
step at a time, and `FailsFirst` puts the faults of all steps in a row.
-/

namespace RemoteGateway.Outcome

variable {ε ε' α β : Type}

theorem bind_eq_ok {step : Except ε α} {next : α → Except ε β} {result : β} :
    step >>= next = .ok result ↔ ∃ value, step = .ok value ∧ next value = .ok result := by
  constructor
  · intro h
    rcases step with fault | value
    · cases h
    · exact ⟨value, rfl, h⟩
  · rintro ⟨value, rfl, h⟩
    exact h

theorem map_eq_ok {step : Except ε α} {f : α → β} {result : β} :
    step.map f = .ok result ↔ ∃ value, step = .ok value ∧ f value = result := by
  constructor
  · intro h
    rcases step with fault | value
    · cases h
    · exact ⟨value, rfl, Except.ok.inj h⟩
  · rintro ⟨value, rfl, rfl⟩
    rfl

theorem mapError_eq_ok {step : Except ε α} {f : ε → ε'} {result : α} :
    step.mapError f = .ok result ↔ step = .ok result := by
  rcases step with fault | value
  · constructor
    · intro h
      cases h
    · intro h
      cases h
  · constructor
    · intro h
      cases h
      rfl
    · intro h
      cases h
      rfl

theorem bind_eq_error {step : Except ε α} {next : α → Except ε β} {fault : ε} :
    step >>= next = .error fault ↔
      step = .error fault ∨ ∃ value, step = .ok value ∧ next value = .error fault := by
  constructor
  · intro h
    rcases step with fault | value
    · cases h
      exact .inl rfl
    · exact .inr ⟨value, rfl, h⟩
  · rintro (rfl | ⟨value, rfl, h⟩)
    · rfl
    · exact h

theorem map_eq_error {step : Except ε α} {f : α → β} {fault : ε} :
    step.map f = .error fault ↔ step = .error fault := by
  rcases step with fault | value
  · constructor
    · intro h
      cases h
      rfl
    · intro h
      cases h
      rfl
  · constructor
    · intro h
      cases h
    · intro h
      cases h

theorem mapError_eq_error {step : Except ε α} {f : ε → ε'} {fault : ε'} :
    step.mapError f = .error fault ↔ ∃ inner, step = .error inner ∧ f inner = fault := by
  rcases step with inner | value
  · constructor
    · intro h
      exact ⟨inner, rfl, Except.error.inj h⟩
    · rintro ⟨inner, ⟨⟩, rfl⟩
      rfl
  · constructor
    · intro h
      cases h
    · rintro ⟨inner, h, -⟩
      cases h

/-- A step whose value is changed leads on like the step itself, when all that follows does. -/
theorem map_bind {γ δ : Type} {step : Except ε α} {f : α → β} {next : β → Except ε γ}
    {last : α → Except ε δ} {g : δ → γ} (h : ∀ value, next (f value) = (last value).map g) :
    step.map f >>= next = (step >>= last).map g := by
  rcases step with fault | value
  · rfl
  · exact h value

/-- The fault with which a computation ends, if it fails. -/
def fault? : Except ε α → Option ε
  | .ok _ => none
  | .error fault => some fault

theorem fault?_eq_none {step : Except ε α} : fault? step = none ↔ ∃ value, step = .ok value := by
  rcases step with fault | value
  · exact ⟨nofun, nofun⟩
  · exact ⟨fun _ => ⟨value, rfl⟩, fun _ => rfl⟩

theorem fault?_eq_some {step : Except ε α} {fault : ε} :
    fault? step = some fault ↔ step = .error fault := by
  rcases step with inner | value
  · exact ⟨fun h => congrArg Except.error (Option.some.inj h), fun h => by cases h; rfl⟩
  · exact ⟨nofun, nofun⟩

/-- What is made of a value later does not matter for the fault. -/
theorem fault?_map (step : Except ε α) (f : α → β) : fault? (step.map f) = fault? step := by
  rcases step with fault | value
  · rfl
  · rfl

theorem fault?_mapError (step : Except ε α) (f : ε → ε') :
    fault? (step.mapError f) = (fault? step).map f := by
  rcases step with fault | value
  · rfl
  · rfl

/-- A computation fails with the first of some possible faults that occurs, and only then. -/
def FailsFirst (faults : List (Option ε)) (result : Except ε α) : Prop :=
  fault? result = faults.findSome? id

namespace FailsFirst

variable {fault : Option ε} {faults more : List (Option ε)} {step : Except ε α}
  {next : α → Except ε β}

/-- **The faults of a first step come before those of what follows.** -/
theorem bind (hstep : FailsFirst faults step)
    (hnext : ∀ value, step = .ok value → FailsFirst more (next value)) :
    FailsFirst (faults ++ more) (step >>= next) := by
  rw [FailsFirst, List.findSome?_append, ← hstep]
  rcases step with fault | value
  · rfl
  · exact hnext value rfl

/-- A step that has one possible fault. -/
theorem cons (hstep : fault? step = fault)
    (hnext : ∀ value, step = .ok value → FailsFirst more (next value)) :
    FailsFirst (fault :: more) (step >>= next) := by
  have hfirst : FailsFirst [fault] step := by
    rw [FailsFirst, hstep, List.findSome?_singleton, id]
  exact hfirst.bind hnext

/-- A step that does not fail. -/
theorem skip (hstep : fault? step = none)
    (hnext : ∀ value, step = .ok value → FailsFirst more (next value)) :
    FailsFirst more (step >>= next) := by
  obtain ⟨value, rfl⟩ := fault?_eq_none.mp hstep
  exact hnext value rfl

theorem bind_pure (hstep : FailsFirst faults step) (f : α → β) :
    FailsFirst faults (step >>= fun value => pure (f value)) := by
  have h : FailsFirst (faults ++ []) (step >>= fun value => pure (f value)) :=
    hstep.bind fun _ _ => rfl
  rwa [List.append_nil] at h

end FailsFirst

/-- Steps that go the same way end with the same value. -/
theorem eq_of_same_ok {step same : Except ε α} {value other : α} (h : step = same)
    (hstep : step = .ok value) (hsame : same = .ok other) : value = other := by
  rw [hstep, hsame] at h
  exact Except.ok.inj h

end RemoteGateway.Outcome
