import SliceGrowth.Proofs.Run.Laws

/-!
Two runs compared: both record the same constructs, and both end with the same failure or return results
that stand in a given relation. What they log may differ.
-/
namespace SliceGrowth.Run

open Analysis

variable {α β : Type}

inductive OutcomesAgree (related : α → α → Prop) : Except Failure α → Except Failure α → Prop
  | failed (failure : Failure) : OutcomesAgree related (.error failure) (.error failure)
  | returned {a b : α} (results : related a b) : OutcomesAgree related (.ok a) (.ok b)

structure Agree (related : α → α → Prop) (run other : Run α) : Prop where
  outcome : OutcomesAgree related run.outcome other.outcome
  constructs : run.constructs = other.constructs

namespace Agree

variable {related : α → α → Prop}

theorem refl (reflexive : ∀ a, related a a) (run : Run α) : Agree related run run := by
  refine ⟨?_, rfl⟩
  cases run.outcome with
  | error failure => exact .failed failure
  | ok a => exact .returned (reflexive a)

theorem cases {run other : Run α} (h : Agree related run other) :
    (∃ failure, run.outcome = .error failure ∧ other.outcome = .error failure) ∨
      ∃ a b, run.outcome = .ok a ∧ other.outcome = .ok b ∧ related a b := by
  obtain ⟨outcome, -⟩ := h
  generalize run.outcome = ended, other.outcome = ended' at outcome
  cases outcome with
  | failed failure => exact .inl ⟨failure, rfl, rfl⟩
  | @returned a b results => exact .inr ⟨a, b, rfl, rfl, results⟩

theorem results {run other : Run α} {a b : α} (h : Agree related run other)
    (returned : run.outcome = .ok a) (returned' : other.outcome = .ok b) : related a b := by
  obtain ⟨outcome, -⟩ := h
  rw [returned, returned'] at outcome
  cases outcome with
  | returned results => exact results

theorem of_returns {run other : Run α} {a b : α} {us : List Unsupported} (first : run.Returns a us)
    (second : other.Returns b us) (results : related a b) : Agree related run other := by
  refine ⟨?_, first.constructs.trans second.constructs.symm⟩
  rw [first.outcome, second.outcome]
  exact .returned results

/-- Two runs that agree with a third agree through its result. -/
theorem common {related' : α → α → Prop} {low run other : Run α} (first : Agree related low run)
    (second : Agree related' low other) :
    Agree (fun a b => ∃ c, related c a ∧ related' c b) run other := by
  refine ⟨?_, first.constructs.symm.trans second.constructs⟩
  rcases first.cases with ⟨failure, ended, failed⟩ | ⟨c, a, ended, returned, results⟩
  · have outcome := second.outcome
    rw [ended] at outcome
    rw [failed]
    generalize other.outcome = ended' at outcome ⊢
    cases outcome with
    | failed => exact .failed failure
  · have outcome := second.outcome
    rw [ended] at outcome
    rw [returned]
    generalize other.outcome = ended' at outcome ⊢
    cases outcome with
    | returned results' => exact .returned ⟨c, results, results'⟩

theorem bind {related' : β → β → Prop} {run other : Run α} {next next' : α → Run β}
    (first : Agree related run other)
    (rest : ∀ a b, run.outcome = .ok a → related a b → Agree related' (next a) (next' b)) :
    Agree related' (run >>= next) (other >>= next') := by
  rcases first.cases with ⟨failure, left, right⟩ | ⟨a, b, left, right, results⟩
  · constructor
    · rw [bind_of_error left, bind_of_error right]
      exact .failed failure
    · rw [constructs_bind_of_error left, constructs_bind_of_error right, first.constructs]
  · have later := rest a b left results
    constructor
    · rw [bind_of_ok left, bind_of_ok right]
      exact later.outcome
    · rw [constructs_bind_of_ok left, constructs_bind_of_ok right, first.constructs, later.constructs]

/-- Two runs that begin alike. -/
theorem bind_same {related' : β → β → Prop} {run : Run α} {next next' : α → Run β}
    (rest : ∀ a, run.outcome = .ok a → Agree related' (next a) (next' a)) :
    Agree related' (run >>= next) (run >>= next') := by
  have alike : Agree Eq run run := refl (fun _ => rfl) run
  refine alike.bind fun a b returned same => ?_
  rw [← same]
  exact rest a returned

theorem gather {related : List β → List β → Prop} {f g : α → Run (List β)} {xs : List α}
    (nil : related [] [])
    (append : ∀ {as bs cs ds}, related as bs → related cs ds → related (as ++ cs) (bs ++ ds))
    (each : ∀ x ∈ xs, Agree related (f x) (g x)) : Agree related (gather f xs) (gather g xs) := by
  induction xs with
  | nil => exact of_returns (Returns.pure []) (Returns.pure []) nil
  | cons x xs ih =>
    have rest := ih fun y member => each y (by simp [member])
    refine (each x (by simp)).bind fun as bs _ front => ?_
    refine rest.bind fun cs ds _ back => ?_
    exact of_returns (Returns.pure _) (Returns.pure _) (append front back)

theorem withConstructs {run other : Run α} (h : Agree related run other) :
    Agree (fun found found' => related found.1 found'.1 ∧ found.2 = found'.2)
      run.withConstructs other.withConstructs := by
  refine ⟨?_, h.constructs⟩
  rcases h.cases with ⟨failure, left, right⟩ | ⟨a, b, left, right, results⟩
  · simp only [Run.withConstructs, left, right]
    exact .failed failure
  · simp only [Run.withConstructs, left, right]
    exact .returned ⟨results, h.constructs⟩

end Agree

end SliceGrowth.Run
