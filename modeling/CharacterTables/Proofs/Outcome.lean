import Mathlib

/-!
# Outcomes that may be faults

How a sequence of steps that may fail comes to its end, and what its steps keep.
-/

set_option autoImplicit false

namespace CharacterTables

variable {ε ε' α β σ : Type}

@[simp] theorem ok_bind (value : α) (next : α → Except ε β) :
    (Except.ok value >>= next) = next value := rfl

@[simp] theorem error_bind (fault : ε) (next : α → Except ε β) :
    ((Except.error fault : Except ε α) >>= next) = .error fault := rfl

@[simp] theorem mapError_ok (translate : ε → ε') (value : α) :
    (Except.ok value : Except ε α).mapError translate = .ok value := rfl

@[simp] theorem mapError_error (translate : ε → ε') (fault : ε) :
    (Except.error fault : Except ε α).mapError translate = .error (translate fault) := rfl

theorem bind_eq_ok_iff {source : Except ε α} {next : α → Except ε β} {result : β} :
    source >>= next = .ok result ↔ ∃ value, source = .ok value ∧ next value = .ok result := by
  cases source with
  | error fault => simp
  | ok value => simp

/-- A step that only may fail comes before another one. -/
theorem unit_bind_eq_ok_iff {source : Except ε Unit} {next : Unit → Except ε β} {result : β} :
    source >>= next = .ok result ↔ source = .ok () ∧ next () = .ok result := by
  cases source with
  | error fault => simp
  | ok done => simp

theorem exists_error_iff {result : Except ε α} :
    (∃ fault, result = .error fault) ↔ ¬ ∃ value, result = .ok value := by
  cases result with
  | error fault => simp
  | ok value => simp

/-- An outcome is known to succeed when only that is evaluated. -/
theorem exists_of_isOk {result : Except ε α} (succeeded : result.isOk = true) :
    ∃ value, result = .ok value := by
  cases result with
  | error fault => cases succeeded
  | ok value => exact ⟨value, rfl⟩

/-- An outcome is known to succeed when a view of its result is evaluated. -/
theorem exists_of_toOption_map {result : Except ε α} {view : α → β} {seen : β}
    (evaluated : result.toOption.map view = some seen) :
    ∃ value, result = .ok value ∧ view value = seen := by
  cases result with
  | error fault => cases evaluated
  | ok value => exact ⟨value, rfl, Option.some.inj evaluated⟩

/-- What every step keeps, with the items taken so far, holds at the end of a fold that does
not fail. -/
theorem foldlM_induction {step : σ → α → Except ε σ} {items : List α} {start final : σ}
    (finished : items.foldlM step start = .ok final) (motive : List α → σ → Prop)
    (initial : motive [] start)
    (next : ∀ seen item rest state after, items = seen ++ item :: rest → motive seen state →
      step state item = .ok after → motive (seen ++ [item]) after) : motive items final := by
  have loop : ∀ rest seen state, items = seen ++ rest → motive seen state →
      rest.foldlM step state = .ok final → motive items final := by
    intro rest
    induction rest with
    | nil =>
        intro seen state split holds done
        cases done
        rwa [split, List.append_nil]
    | cons item rest ih =>
        intro seen state split holds done
        rw [List.foldlM_cons] at done
        obtain ⟨after, stepped, others⟩ := bind_eq_ok_iff.mp done
        refine ih (seen ++ [item]) after ?_ (next seen item rest state after split holds stepped)
          others
        rw [split, List.append_assoc, List.singleton_append]
  exact loop items [] start rfl initial finished

theorem mapM_eq_ok {items : List α} {step : α → Except ε β} {value : α → β}
    (each : ∀ item ∈ items, step item = .ok (value item)) :
    items.mapM step = .ok (items.map value) := by
  induction items with
  | nil => rfl
  | cons item rest ih =>
      rw [List.mapM_cons, each item List.mem_cons_self, ok_bind,
        ih fun other listed => each other (List.mem_cons_of_mem item listed)]
      rfl

/-- Where success of a step does not depend on the state, a fold succeeds just if every item can
be taken. -/
theorem exists_foldlM_iff {step : σ → α → Except ε σ} {accepts : α → Prop}
    (accepted : ∀ state item, (∃ after, step state item = .ok after) ↔ accepts item)
    (items : List α) (start : σ) :
    (∃ final, items.foldlM step start = .ok final) ↔ ∀ item ∈ items, accepts item := by
  induction items generalizing start with
  | nil => simp [pure, Except.pure]
  | cons item rest ih =>
      rw [List.forall_mem_cons, ← accepted start item, List.foldlM_cons]
      constructor
      · rintro ⟨final, done⟩
        obtain ⟨after, stepped, others⟩ := bind_eq_ok_iff.mp done
        exact ⟨⟨after, stepped⟩, (ih after).mp ⟨final, others⟩⟩
      · rintro ⟨⟨after, stepped⟩, others⟩
        rw [stepped]
        exact (ih after).mpr others

/-- A fold fails just as its step does at the first item that the step refuses. -/
theorem foldlM_eq_error_iff {step : σ → α → Except ε σ} {items : List α} {start : σ}
    {fault : ε} :
    items.foldlM step start = .error fault ↔
      ∃ before item after state, items = before ++ item :: after ∧
        before.foldlM step start = .ok state ∧ step state item = .error fault := by
  constructor
  · intro failed
    induction items generalizing start with
    | nil => cases failed
    | cons item rest ih =>
        rw [List.foldlM_cons] at failed
        cases stepped : step start item with
        | error cause =>
            rw [stepped] at failed
            cases failed
            exact ⟨[], item, rest, start, rfl, rfl, stepped⟩
        | ok next =>
            rw [stepped] at failed
            obtain ⟨before, other, after, state, split, reached, refused⟩ := ih failed
            refine ⟨item :: before, other, after, state, congrArg (item :: ·) split, ?_, refused⟩
            rw [List.foldlM_cons, stepped]
            exact reached
  · rintro ⟨before, item, after, state, rfl, reached, refused⟩
    rw [List.foldlM_append, reached, ok_bind, List.foldlM_cons, refused, error_bind]

/-! ## Faults -/

/-- If there is a fault, it is one as described. -/
def FailsOnly (described : ε → Prop) (result : Except ε α) : Prop :=
  ∀ fault, result = .error fault → described fault

section FailsOnly

variable {described : ε → Prop}

theorem failsOnly_ok (value : α) : FailsOnly described (.ok value : Except ε α) := by
  intro fault failed
  cases failed

theorem failsOnly_error {fault : ε} (holds : described fault) :
    FailsOnly described (.error fault : Except ε α) := by
  intro other failed
  cases failed
  exact holds

theorem FailsOnly.mono {result : Except ε α} {other : ε → Prop} (fails : FailsOnly other result)
    (wider : ∀ fault, other fault → described fault) : FailsOnly described result :=
  fun fault failed => wider fault (fails fault failed)

theorem FailsOnly.bind {source : Except ε α} {next : α → Except ε β}
    (first : FailsOnly described source)
    (rest : ∀ value, source = .ok value → FailsOnly described (next value)) :
    FailsOnly described (source >>= next) := by
  cases source with
  | error fault => exact failsOnly_error (first fault rfl)
  | ok value => exact rest value rfl

end FailsOnly

end CharacterTables
