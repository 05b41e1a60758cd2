import Mathlib
import CharacterTables.Session.Work

/-!
# How work ends

Work ends with a result or a failure, and leaves a session in either case. The outcome of
composed work follows from the outcomes of its parts; telling something never fails.
-/

set_option autoImplicit false

namespace CharacterTables

/-- A session in which something more was told. -/
def Session.told (session : Session) (text : String) : Session :=
  { session with transcript := session.transcript ++ text }

theorem Session.told_told (session : Session) (first second : String) :
    (session.told first).told second = session.told (first ++ second) := by
  simp [told, String.append_assoc]

namespace Work

variable {α β : Type}

/-- How work ends in a session, and the session that it leaves. -/
def outcome (work : Work α) (session : Session) : Except Failure α × Session :=
  work.run session

@[simp] theorem outcome_pure (value : α) (session : Session) :
    outcome (pure value) session = (.ok value, session) := rfl

@[simp] theorem outcome_ofExcept (result : Except Failure α) (session : Session) :
    (ofExcept result).outcome session = (result, session) := by
  cases result with
  | error failure => rfl
  | ok value => rfl

@[simp] theorem outcome_tell (text : String) (session : Session) :
    (tell text).outcome session = (.ok (), session.told text) := rfl

@[simp] theorem outcome_tellLine (text : String) (session : Session) :
    (tellLine text).outcome session = (.ok (), session.told (text ++ "\n")) := rfl

@[simp] theorem outcome_modify (change : Session → Session) (session : Session) :
    (modify change : Work Unit).outcome session = (.ok (), change session) := rfl

theorem outcome_bind (work : Work α) (next : α → Work β) (session : Session) :
    (work >>= next).outcome session =
      match work.outcome session with
      | (.ok value, after) => (next value).outcome after
      | (.error failure, after) => (.error failure, after) := by
  cases ended : work.outcome session with
  | mk result after =>
      have opened : work session = (result, after) := ended
      cases result with
      | error failure =>
          simp [outcome, bind, ExceptT.bind, ExceptT.bindCont, ExceptT.mk, StateT.bind,
            ExceptT.run, opened, pure, StateT.pure]
      | ok value =>
          simp [outcome, bind, ExceptT.bind, ExceptT.bindCont, ExceptT.mk, StateT.bind,
            ExceptT.run, opened]

theorem outcome_bind_of_ok {work : Work α} {session after : Session} {value : α}
    (ended : work.outcome session = (.ok value, after)) (next : α → Work β) :
    (work >>= next).outcome session = (next value).outcome after := by
  rw [outcome_bind, ended]

theorem outcome_bind_of_error {work : Work α} {session after : Session} {failure : Failure}
    (ended : work.outcome session = (.error failure, after)) (next : α → Work β) :
    (work >>= next).outcome session = (.error failure, after) := by
  rw [outcome_bind, ended]

theorem outcome_bind_eq_ok_iff {work : Work α} {next : α → Work β} {session final : Session}
    {result : β} :
    (work >>= next).outcome session = (.ok result, final) ↔
      ∃ value middle, work.outcome session = (.ok value, middle) ∧
        (next value).outcome middle = (.ok result, final) := by
  rw [outcome_bind]
  obtain ⟨first, middle⟩ := work.outcome session
  cases first with
  | error failure => simp
  | ok value => simp

theorem outcome_ofExcept_eq_ok {result : Except Failure α} {session after : Session} {value : α}
    (ended : (ofExcept result).outcome session = (.ok value, after)) :
    result = .ok value ∧ after = session := by
  rw [outcome_ofExcept] at ended
  cases ended
  exact ⟨rfl, rfl⟩

theorem exists_of_isOk {work : Work α} {session : Session}
    (succeeded : (work.outcome session).1.isOk = true) :
    ∃ value after, work.outcome session = (.ok value, after) := by
  cases ended : work.outcome session with
  | mk result after =>
      rw [ended] at succeeded
      cases result with
      | error failure => cases succeeded
      | ok value => exact ⟨value, after, rfl⟩

theorem outcome_forM_tellLine (lines : List String) (session : Session) :
    ∃ text, (lines.forM tellLine).outcome session = (.ok (), session.told text) := by
  induction lines generalizing session with
  | nil => exact ⟨"", by simp [Session.told]⟩
  | cons line rest ih =>
      obtain ⟨text, ended⟩ := ih (session.told (line ++ "\n"))
      refine ⟨line ++ "\n" ++ text, ?_⟩
      rw [List.forM, outcome_bind_of_ok (outcome_tellLine line session), ended,
        Session.told_told]

end Work

end CharacterTables
