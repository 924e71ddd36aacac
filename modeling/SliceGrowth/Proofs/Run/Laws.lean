import SliceGrowth.Run

/-!
Laws of runs: the outcome of a run and the constructs it records, in terms of its steps. `Returns` says
both for a run that succeeds; `Yields` says both for a run in case it succeeds.
-/
namespace SliceGrowth.Run

open Analysis

variable {α β γ : Type}

theorem bind_of_ok {run : Run α} {a : α} (returned : run.outcome = .ok a) (next : α → Run β) :
    run >>= next = ⟨run.events ++ (next a).events, (next a).outcome⟩ := by
  change Run.bind run next = _
  simp only [Run.bind, returned]

theorem bind_of_error {run : Run α} {failure : Failure} (failed : run.outcome = .error failure)
    (next : α → Run β) : run >>= next = ⟨run.events, .error failure⟩ := by
  change Run.bind run next = _
  simp only [Run.bind, failed]

theorem bind_eq_ok {run : Run α} {next : α → Run β} {b : β} (h : (run >>= next).outcome = .ok b) :
    ∃ a, run.outcome = .ok a ∧ (next a).outcome = .ok b := by
  cases returned : run.outcome with
  | error failure =>
    rw [bind_of_error returned] at h
    cases h
  | ok a =>
    rw [bind_of_ok returned] at h
    exact ⟨a, rfl, h⟩

theorem bind_eq_error {run : Run α} {next : α → Run β} {failure : Failure}
    (h : (run >>= next).outcome = .error failure) :
    run.outcome = .error failure ∨ ∃ a, run.outcome = .ok a ∧ (next a).outcome = .error failure := by
  cases returned : run.outcome with
  | error failure =>
    rw [bind_of_error returned] at h
    cases h
    exact .inl rfl
  | ok a =>
    rw [bind_of_ok returned] at h
    exact .inr ⟨a, rfl, h⟩

protected theorem bind_assoc (run : Run α) (next : α → Run β) (last : β → Run γ) :
    run >>= next >>= last = run >>= fun a => next a >>= last := by
  cases returned : run.outcome with
  | error failure =>
    rw [bind_of_error returned, bind_of_error returned, bind_of_error rfl]
  | ok a =>
    rw [bind_of_ok returned, bind_of_ok returned]
    cases next_returned : (next a).outcome with
    | error failure => rw [bind_of_error rfl, bind_of_error next_returned]
    | ok b => rw [bind_of_ok rfl, bind_of_ok next_returned, List.append_assoc]

protected theorem bind_pure (run : Run α) : run >>= pure = run := by
  cases returned : run.outcome with
  | error failure => rw [bind_of_error returned, ← returned]
  | ok a =>
    rw [bind_of_ok returned]
    change (⟨run.events ++ [], .ok a⟩ : Run α) = run
    rw [List.append_nil, ← returned]

instance : LawfulMonad Run :=
  LawfulMonad.mk' Run Run.bind_pure (fun _ _ => rfl) Run.bind_assoc

theorem gather_congr {f g : α → Run (List β)} {xs : List α} (same : ∀ x ∈ xs, f x = g x) :
    gather f xs = gather g xs := by
  induction xs with
  | nil => rfl
  | cons x xs ih =>
    rw [gather, gather, same x (by simp), ih fun y member => same y (by simp [member])]

theorem gather_map (f : β → Run (List γ)) (g : α → β) (xs : List α) :
    gather f (xs.map g) = gather (fun x => f (g x)) xs := by
  induction xs with
  | nil => rfl
  | cons x xs ih => rw [List.map_cons, gather, gather, ih]

theorem gather_append (f : α → Run (List β)) (xs ys : List α) :
    gather f (xs ++ ys) = do
      let front ← gather f xs
      let back ← gather f ys
      return front ++ back := by
  induction xs with
  | nil => simp only [List.nil_append, gather, pure_bind, bind_pure]
  | cons x xs ih =>
    simp only [List.cons_append, gather, ih, bind_assoc, pure_bind, List.append_assoc]

/-- Elements that do nothing can be left out. -/
theorem gather_filter {f : α → Run (List β)} {keep : α → Bool} {xs : List α}
    (nothing : ∀ x ∈ xs, ¬ keep x → f x = pure []) : gather f (xs.filter keep) = gather f xs := by
  induction xs with
  | nil => rfl
  | cons x xs ih =>
    have rest := ih fun y member => nothing y (by simp [member])
    by_cases kept : keep x
    · rw [List.filter_cons_of_pos kept, gather, gather, rest]
    · have idle : f x = pure [] := nothing x (by simp) kept
      rw [List.filter_cons_of_neg kept, rest]
      simp only [gather, idle, pure_bind, List.nil_append, bind_pure]

theorem traverse_eq_gather (f : α → Run β) (xs : List α) :
    traverse f xs = gather (fun x => do return [← f x]) xs := by
  induction xs with
  | nil => rfl
  | cons x xs ih => simp only [traverse, gather, ih, bind_assoc, pure_bind, List.singleton_append]

@[simp] theorem constructs_pure (a : α) : (pure a : Run α).constructs = [] := rfl

theorem constructs_bind_of_ok {run : Run α} {a : α} (returned : run.outcome = .ok a)
    (next : α → Run β) : (run >>= next).constructs = run.constructs ++ (next a).constructs := by
  rw [bind_of_ok returned]
  exact List.filterMap_append

theorem constructs_bind_of_error {run : Run α} {failure : Failure}
    (failed : run.outcome = .error failure) (next : α → Run β) :
    (run >>= next).constructs = run.constructs := by
  rw [bind_of_error failed]
  rfl

/-- Every event of the run is of this kind. -/
def Emits (kind : Event → Prop) (run : Run α) : Prop := ∀ event ∈ run.events, kind event

theorem constructs_eq_nil_iff {run : Run α} : run.constructs = [] ↔ run.Emits (·.construct? = none) :=
  List.filterMap_eq_nil_iff

namespace Emits

variable {kind : Event → Prop}

theorem of_no_events {run : Run α} (none : run.events = []) : run.Emits kind := by
  intro event member
  rw [none] at member
  cases member

theorem pure (a : α) : (Pure.pure a : Run α).Emits kind := of_no_events rfl

theorem fail (failure : Failure) : (fail failure : Run α).Emits kind := of_no_events rfl

theorem emit {event : Event} (h : kind event) : (emit event).Emits kind := by
  intro event member
  rwa [List.mem_singleton.mp member]

theorem bind {run : Run α} {next : α → Run β} (first : run.Emits kind) (rest : ∀ a, (next a).Emits kind) :
    (run >>= next).Emits kind := by
  intro event member
  cases returned : run.outcome with
  | error failure =>
    rw [bind_of_error returned] at member
    exact first event member
  | ok a =>
    rw [bind_of_ok returned] at member
    rcases List.mem_append.mp member with member | member
    · exact first event member
    · exact rest a event member

theorem gather {f : α → Run (List β)} {xs : List α} (each : ∀ x ∈ xs, (f x).Emits kind) :
    (gather f xs).Emits kind := by
  induction xs with
  | nil => exact .pure []
  | cons x xs ih =>
    refine (each x (by simp)).bind fun first => ?_
    exact (ih fun y member => each y (by simp [member])).bind fun others => .pure _

theorem traverse {f : α → Run β} {xs : List α} (each : ∀ x ∈ xs, (f x).Emits kind) :
    (traverse f xs).Emits kind := by
  rw [traverse_eq_gather]
  exact .gather fun x member => (each x member).bind fun y => .pure [y]

theorem forEach {f : α → Run Unit} {xs : List α} (each : ∀ x ∈ xs, (f x).Emits kind) :
    (forEach f xs).Emits kind := by
  induction xs with
  | nil => exact .pure ()
  | cons x xs ih => exact (each x (by simp)).bind fun _ => ih fun y member => each y (by simp [member])

end Emits

/-- The run returns `a`, and has recorded just these constructs by then. -/
structure Returns (run : Run α) (a : α) (recorded : List Unsupported) : Prop where
  outcome : run.outcome = .ok a
  constructs : run.constructs = recorded

namespace Returns

theorem pure (a : α) : (Pure.pure a : Run α).Returns a [] := ⟨rfl, rfl⟩

theorem report_collect (construct : Unsupported) :
    (report .collect construct).Returns () [construct] := ⟨rfl, rfl⟩

theorem bind {run : Run α} {next : α → Run β} {a : α} {b : β} {us vs : List Unsupported}
    (first : run.Returns a us) (rest : (next a).Returns b vs) :
    (run >>= next).Returns b (us ++ vs) := by
  constructor
  · rw [bind_of_ok first.outcome]
    exact rest.outcome
  · rw [constructs_bind_of_ok first.outcome, first.constructs, rest.constructs]

theorem map {run : Run α} {a : α} {us : List Unsupported} (h : run.Returns a us) (f : α → β) :
    (f <$> run).Returns (f a) us := by
  rw [map_eq_pure_bind, ← List.append_nil us]
  exact h.bind (Returns.pure (f a))

theorem gather {f : α → Run (List β)} {value : α → List β} {recorded : α → List Unsupported}
    {xs : List α} (each : ∀ x ∈ xs, (f x).Returns (value x) (recorded x)) :
    (gather f xs).Returns (xs.flatMap value) (xs.flatMap recorded) := by
  induction xs with
  | nil => exact Returns.pure []
  | cons x xs ih =>
    have rest := ih fun y member => each y (by simp [member])
    rw [List.flatMap_cons, List.flatMap_cons, ← List.append_nil (xs.flatMap recorded)]
    refine (each x (by simp)).bind ?_
    exact rest.bind (Returns.pure _)

theorem gather_nil {f : α → Run (List β)} {value : α → List β} {xs : List α}
    (each : ∀ x ∈ xs, (f x).Returns (value x) []) : (Run.gather f xs).Returns (xs.flatMap value) [] := by
  have whole := Returns.gather each
  rwa [List.flatMap_eq_nil_iff.mpr fun _ _ => rfl] at whole

theorem forEach {f : α → Run Unit} {xs : List α} (each : ∀ x ∈ xs, (f x).Returns () []) :
    (forEach f xs).Returns () [] := by
  induction xs with
  | nil => exact Returns.pure ()
  | cons x xs ih => exact (each x (by simp)).bind (ih fun y member => each y (by simp [member]))

end Returns

/-- If the run returns at all, it returns `a` and has recorded just these constructs by then. -/
def Yields (run : Run α) (a : α) (recorded : List Unsupported) : Prop :=
  ∀ b, run.outcome = .ok b → b = a ∧ run.constructs = recorded

theorem Returns.yields {run : Run α} {a : α} {us : List Unsupported} (h : run.Returns a us) :
    run.Yields a us := by
  intro b returned
  rw [h.outcome] at returned
  cases returned
  exact ⟨rfl, h.constructs⟩

namespace Yields

theorem returns {run : Run α} {a b : α} {us : List Unsupported} (h : run.Yields a us)
    (returned : run.outcome = .ok b) : run.Returns a us := by
  obtain ⟨same, recorded⟩ := h b returned
  exact ⟨same ▸ returned, recorded⟩

theorem fail (failure : Failure) (a : α) (us : List Unsupported) :
    (Run.fail failure : Run α).Yields a us := by
  intro b returned
  cases returned

theorem bind {run : Run α} {next : α → Run β} {a : α} {b : β} {us vs : List Unsupported}
    (first : run.Yields a us) (rest : (next a).Yields b vs) :
    (run >>= next).Yields b (us ++ vs) := by
  intro c returned
  obtain ⟨a', first_returned, rest_returned⟩ := bind_eq_ok returned
  obtain ⟨rfl, first_recorded⟩ := first a' first_returned
  obtain ⟨rfl, rest_recorded⟩ := rest c rest_returned
  rw [constructs_bind_of_ok first_returned, first_recorded, rest_recorded]
  exact ⟨rfl, rfl⟩

theorem gather {f : α → Run (List β)} {value : α → List β} {recorded : α → List Unsupported}
    {xs : List α} (each : ∀ x ∈ xs, (f x).Yields (value x) (recorded x)) :
    (gather f xs).Yields (xs.flatMap value) (xs.flatMap recorded) := by
  induction xs with
  | nil => exact (Returns.pure []).yields
  | cons x xs ih =>
    have rest := ih fun y member => each y (by simp [member])
    rw [List.flatMap_cons, List.flatMap_cons, ← List.append_nil (xs.flatMap recorded)]
    refine (each x (by simp)).bind ?_
    exact rest.bind (Returns.pure _).yields

end Yields

theorem gather_eq_ok {f : α → Run (List β)} {xs : List α} {ys : List β}
    (h : (gather f xs).outcome = .ok ys) : ∀ x ∈ xs, ∃ y, (f x).outcome = .ok y := by
  induction xs generalizing ys with
  | nil => simp
  | cons x xs ih =>
    obtain ⟨first, head, tail⟩ := bind_eq_ok h
    obtain ⟨others, rest, -⟩ := bind_eq_ok tail
    intro y member
    rcases List.mem_cons.mp member with rfl | member
    · exact ⟨first, head⟩
    · exact ih rest y member

section WithConstructs

theorem withConstructs_of_ok {run : Run α} {a : α} (returned : run.outcome = .ok a) :
    run.withConstructs.outcome = .ok (a, run.constructs) := by
  simp only [withConstructs, returned]
  rfl

theorem withConstructs_of_error {run : Run α} {failure : Failure} (failed : run.outcome = .error failure) :
    run.withConstructs.outcome = .error failure := by
  simp only [withConstructs, failed]
  rfl

/-- A first step that records nothing leaves no trace in what is returned. -/
theorem withConstructs_bind_of_returns {run : Run α} {a : α} (first : run.Returns a []) (next : α → Run β) :
    (run >>= next).withConstructs.outcome = (next a).withConstructs.outcome := by
  simp only [withConstructs]
  rw [constructs_bind_of_ok first.outcome, first.constructs, List.nil_append, bind_of_ok first.outcome]

/-- What a run over two lists ends with, in terms of the runs over each. -/
theorem withConstructs_gather_append (f : α → Run (List β)) (xs ys : List α) :
    (gather f (xs ++ ys)).withConstructs.outcome = do
      let front ← (gather f xs).withConstructs.outcome
      let back ← (gather f ys).withConstructs.outcome
      return (front.1 ++ back.1, front.2 ++ back.2) := by
  rw [gather_append]
  cases front : (gather f xs).outcome with
  | error failure =>
    rw [bind_of_error front, withConstructs_of_error front]
    rfl
  | ok as =>
    rw [withConstructs_of_ok front]
    cases back : (gather f ys).outcome with
    | error failure =>
      rw [withConstructs_of_error back, bind_of_ok front, bind_of_error back]
      rfl
    | ok bs =>
      have whole : (gather f xs >>= fun as => gather f ys >>= fun bs => pure (as ++ bs)).Returns (as ++ bs)
          ((gather f xs).constructs ++ ((gather f ys).constructs ++ [])) :=
        Returns.bind ⟨front, rfl⟩ (Returns.bind ⟨back, rfl⟩ (Returns.pure _))
      rw [withConstructs_of_ok whole.outcome, whole.constructs, withConstructs_of_ok back, List.append_nil]
      rfl

theorem withConstructs_snd {run : Run α} {found : α × List Unsupported}
    (returned : run.withConstructs.outcome = .ok found) : found.2 = run.withConstructs.constructs := by
  cases first : run.outcome with
  | error failure =>
    rw [withConstructs_of_error first] at returned
    cases returned
  | ok a =>
    rw [withConstructs_of_ok first] at returned
    cases returned
    rfl

end WithConstructs

/-- Every failure that the run can end with is of this kind. -/
def FailsOnly (kind : Failure → Prop) (run : Run α) : Prop :=
  ∀ failure, run.outcome = .error failure → kind failure

namespace FailsOnly

variable {kind : Failure → Prop}

theorem of_returned {run : Run α} {a : α} (returned : run.outcome = .ok a) : run.FailsOnly kind := by
  intro failure failed
  rw [returned] at failed
  cases failed

theorem fail {failure : Failure} (h : kind failure) : (fail failure : Run α).FailsOnly kind := by
  intro failure failed
  cases failed
  exact h

/-- A run that cannot fail returns. -/
theorem returned {run : Run α} (h : run.FailsOnly fun _ => False) : ∃ a, run.outcome = .ok a := by
  cases ended : run.outcome with
  | error failure => exact (h failure ended).elim
  | ok a => exact ⟨a, rfl⟩

theorem mono {other : Failure → Prop} {run : Run α} (h : run.FailsOnly kind)
    (weaker : ∀ failure, kind failure → other failure) : run.FailsOnly other :=
  fun failure failed => weaker failure (h failure failed)

theorem bind {run : Run α} {next : α → Run β} (first : run.FailsOnly kind)
    (rest : ∀ a, (next a).FailsOnly kind) : (run >>= next).FailsOnly kind := by
  intro failure failed
  rcases bind_eq_error failed with failed | ⟨a, -, failed⟩
  · exact first failure failed
  · exact rest a failure failed

theorem gather {f : α → Run (List β)} {xs : List α} (each : ∀ x ∈ xs, (f x).FailsOnly kind) :
    (gather f xs).FailsOnly kind := by
  induction xs with
  | nil => exact of_returned rfl
  | cons x xs ih =>
    refine (each x (by simp)).bind fun first => ?_
    exact (ih fun y member => each y (by simp [member])).bind fun others => of_returned rfl

theorem withConstructs {run : Run α} (h : run.FailsOnly kind) : run.withConstructs.FailsOnly kind := by
  intro failure failed
  cases returned : run.outcome with
  | ok a =>
    rw [withConstructs_of_ok returned] at failed
    cases failed
  | error cause =>
    rw [withConstructs_of_error returned] at failed
    cases failed
    exact h failure returned

end FailsOnly

end SliceGrowth.Run
