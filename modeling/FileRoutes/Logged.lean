import FileRoutes.Event

namespace FileRoutes

/-!
# Logged results — a result with the events on the way to it

* `Logged` — the result of a computation that may fail, with its events;
* `Logged.note`, `Logged.map`, `Logged.andThen` — the ways to go on from one.

Each operation has two unfolding lemmas, one for the events and one for the result.
-/

/-- The result of a computation that may fail, with the events on the way to it. -/
structure Logged (ε α : Type) where
  events : List Event
  result : Except ε α

namespace Logged

variable {ε ε' α β : Type}

/-- Succeeds without an event. -/
def ok (value : α) : Logged ε α := ⟨[], .ok value⟩

/-- Fails without an event. -/
def error (fault : ε) : Logged ε α := ⟨[], .error fault⟩

/-- Tells of an event before the rest. -/
def note (event : Event) (rest : Logged ε α) : Logged ε α :=
  ⟨event :: rest.events, rest.result⟩

/-- Applies a function to the value of a success. -/
def map (f : α → β) (step : Logged ε α) : Logged ε β :=
  ⟨step.events, step.result.map f⟩

/-- Applies a function to the fault of a failure. -/
def mapError (f : ε → ε') (step : Logged ε α) : Logged ε' α :=
  ⟨step.events, step.result.mapError f⟩

/-- Goes on with the value of a success; the events of the second step follow those of the
    first. A failure ends here. -/
def andThen (step : Logged ε α) (next : α → Logged ε β) : Logged ε β :=
  match step.result with
  | .error fault => ⟨step.events, .error fault⟩
  | .ok value => ⟨step.events ++ (next value).events, (next value).result⟩

/-! ### Unfolding -/

@[simp] theorem events_ok (value : α) : (ok value : Logged ε α).events = [] := rfl

@[simp] theorem result_ok (value : α) : (ok value : Logged ε α).result = .ok value := rfl

@[simp] theorem events_error (fault : ε) : (error fault : Logged ε α).events = [] := rfl

@[simp] theorem result_error (fault : ε) : (error fault : Logged ε α).result = .error fault := rfl

@[simp] theorem events_note (event : Event) (rest : Logged ε α) :
    (note event rest).events = event :: rest.events := rfl

@[simp] theorem result_note (event : Event) (rest : Logged ε α) :
    (note event rest).result = rest.result := rfl

@[simp] theorem events_map (f : α → β) (step : Logged ε α) :
    (map f step).events = step.events := rfl

@[simp] theorem result_map (f : α → β) (step : Logged ε α) :
    (map f step).result = step.result.map f := rfl

@[simp] theorem events_mapError (f : ε → ε') (step : Logged ε α) :
    (mapError f step).events = step.events := rfl

@[simp] theorem result_mapError (f : ε → ε') (step : Logged ε α) :
    (mapError f step).result = step.result.mapError f := rfl

/-- Two steps in a row succeed exactly when both do. -/
theorem result_andThen (step : Logged ε α) (next : α → Logged ε β) :
    (step.andThen next).result = step.result.bind fun value => (next value).result := by
  unfold andThen
  cases h : step.result <;> rfl

/-- After a success, the events of the two steps follow each other. -/
theorem events_andThen_of_ok {step : Logged ε α} {value : α} (h : step.result = .ok value)
    (next : α → Logged ε β) :
    (step.andThen next).events = step.events ++ (next value).events := by
  simp [andThen, h]

/-- After a failure, no more events follow. -/
theorem events_andThen_of_error {step : Logged ε α} {fault : ε} (h : step.result = .error fault)
    (next : α → Logged ε β) : (step.andThen next).events = step.events := by
  simp [andThen, h]

end Logged

end FileRoutes
