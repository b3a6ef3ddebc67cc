/-
# SymbolAtlas.Proofs.Session — running steps one after the other

A step on a host takes a world to a result and the next world; a session is such a step whose world
holds an invoker too. Programs of steps are run by a few rules: a step that has failed ends the
program with the world that it left, any other hands its result and its world on.
-/
import SymbolAtlas.Invoker

namespace SymbolAtlas

variable {σ α β : Type}

namespace Step

theorem run_bind (step : Step σ α) (rest : α → Step σ β) (world : σ) :
    (step >>= rest).run.run world
      = match step.run.run world with
        | (.ok result, next) => (rest result).run.run next
        | (.error failure, next) => (.error failure, next) := by
  rw [ExceptT.run_bind, StateT.run_bind]
  cases step.run.run world with
  | mk outcome next => cases outcome <;> rfl

section Sequence

variable {step : Step σ α} {world next : σ}

/-- After a step that gave a result, the next one goes on in the world that it left. -/
theorem run_bind_ok {result : α} (h : step.run.run world = (.ok result, next))
    (rest : α → Step σ β) : (step >>= rest).run.run world = (rest result).run.run next := by
  rw [run_bind, h]

/-- After a step that failed nothing is done. -/
theorem run_bind_error {failure : Failure} (h : step.run.run world = (.error failure, next))
    (rest : α → Step σ β) : (step >>= rest).run.run world = (.error failure, next) := by
  rw [run_bind, h]

end Sequence

/-- Two steps in a row give a result if the first one gives the second what it needs, in the world
that it leaves. -/
theorem run_bind_eq_ok {step : Step σ α} {rest : α → Step σ β} {world last : σ} {result : β} :
    (step >>= rest).run.run world = (.ok result, last)
      ↔ ∃ value next, step.run.run world = (.ok value, next) ∧
        (rest value).run.run next = (.ok result, last) := by
  constructor
  · intro h
    rw [run_bind] at h
    rcases hstep : step.run.run world with ⟨failure | value, next⟩
    · rw [hstep] at h
      cases h
    · rw [hstep] at h
      exact ⟨value, next, rfl, h⟩
  · rintro ⟨value, next, hstep, hrest⟩
    rw [run_bind_ok hstep, hrest]

end Step

namespace Session

/-- A step on the host alone leaves the invoker as it is. -/
theorem run_onHost (step : Step σ α) (i : Invoker) (world : σ) :
    (onHost step).run.run (i, world)
      = ((step.run.run world).1, (i, (step.run.run world).2)) := rfl

end Session

end SymbolAtlas
