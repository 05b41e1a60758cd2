import Mathlib
import CharacterTables.Proofs.Session.Outcome

/-!
# Contracts of work

What work does to the data directory, and how it ends, as far as that follows from what the
directory is like at the start. Contracts of composed work come from those of its parts.
-/

set_option autoImplicit false

namespace CharacterTables.Work

variable {α β : Type} {before middle : Directory → Prop} {work : Work α} {next : α → Work β}

/-! ## Contracts -/

/-- From a directory as in `before`, work ends with a value and a directory as in `done`, or with a
failure and a directory as in `failed`. -/
def Ensures (before : Directory → Prop) (work : Work α) (done : α → Directory → Prop)
    (failed : Failure → Directory → Prop) : Prop :=
  ∀ session, before session.directory →
    match work.outcome session with
    | (.ok value, final) => done value final.directory
    | (.error failure, final) => failed failure final.directory

section Ensures

variable {done : β → Directory → Prop} {failed : Failure → Directory → Prop}

theorem Ensures.mono {work : Work β} {reached : β → Directory → Prop}
    {stopped : Failure → Directory → Prop} (ensures : Ensures before work reached stopped)
    (ok : ∀ value directory, reached value directory → done value directory)
    (error : ∀ failure directory, stopped failure directory → failed failure directory) :
    Ensures before work done failed := by
  intro session begun
  have opened := ensures session begun
  cases ended : work.outcome session with
  | mk result final =>
      rw [ended] at opened
      cases result with
      | error failure => exact error failure final.directory opened
      | ok value => exact ok value final.directory opened

theorem Ensures.bind {reached : α → Directory → Prop} (first : Ensures before work reached failed)
    (rest : ∀ value, Ensures (reached value) (next value) done failed) :
    Ensures before (work >>= next) done failed := by
  intro session begun
  have opened := first session begun
  rw [outcome_bind]
  cases ended : work.outcome session with
  | mk result final =>
      rw [ended] at opened
      cases result with
      | error failure => exact opened
      | ok value => exact rest value final opened

end Ensures

/-! ## Known results -/

/-- From a directory as in `before`, work ends with a given result. It leaves a directory as in
`after` if that is a value, and as in `stopped` if it is a failure. -/
def Returns (before : Directory → Prop) (work : Work α) (result : Except Failure α)
    (after stopped : Directory → Prop) : Prop :=
  Ensures before work (fun value directory => result = .ok value ∧ after directory)
    fun failure directory => result = .error failure ∧ stopped directory

section Returns

variable {result : Except Failure α} {after stopped : Directory → Prop}

theorem returns_pure (value : α) : Returns before (pure value) (.ok value) before stopped :=
  fun _ begun => ⟨rfl, begun⟩

theorem returns_tellLine (text : String) :
    Returns before (tellLine text) (.ok ()) before stopped :=
  fun _ begun => ⟨rfl, begun⟩

theorem returns_forM_tellLine (lines : List String) :
    Returns before (lines.forM tellLine) (.ok ()) before stopped := by
  intro session begun
  obtain ⟨text, ended⟩ := outcome_forM_tellLine lines session
  rw [ended]
  exact ⟨rfl, begun⟩

theorem returns_ofExcept (stops : ∀ directory, before directory → stopped directory)
    (result : Except Failure α) : Returns before (ofExcept result) result before stopped := by
  intro session begun
  rw [outcome_ofExcept]
  cases result with
  | error failure => exact ⟨rfl, stops session.directory begun⟩
  | ok value => exact ⟨rfl, begun⟩

theorem Returns.bind {following : α → Except Failure β}
    (first : Returns before work result middle stopped)
    (rest : ∀ value, Returns middle (next value) (following value) after stopped) :
    Returns before (work >>= next) (result >>= following) after stopped := by
  intro session begun
  have opened := first session begun
  rw [outcome_bind]
  cases ended : work.outcome session with
  | mk given final =>
      rw [ended] at opened
      cases given with
      | error failure =>
          obtain ⟨rfl, left⟩ := opened
          exact ⟨rfl, left⟩
      | ok value =>
          obtain ⟨rfl, reached⟩ := opened
          exact rest value final reached

theorem Returns.bind_unit {first : Work Unit} {rest : Unit → Work α}
    (returns : Returns before first (.ok ()) middle stopped)
    (others : Returns middle (rest ()) result after stopped) :
    Returns before (first >>= rest) result after stopped := by
  have composed : Returns before (first >>= rest) (.ok () >>= fun _ => result) after stopped :=
    returns.bind fun _ => others
  exact composed

theorem Returns.outcome_eq {session : Session} (returns : Returns before work result after stopped)
    (begun : before session.directory) : (work.outcome session).1 = result := by
  have opened := returns session begun
  cases ended : work.outcome session with
  | mk given final =>
      rw [ended] at opened
      cases given with
      | error failure => exact opened.1.symm
      | ok value => exact opened.1.symm

end Returns

end CharacterTables.Work
