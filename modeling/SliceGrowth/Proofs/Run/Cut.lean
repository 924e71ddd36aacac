import SliceGrowth.Proofs.Run.Laws

/-!
Cutting a run where it first records a construct, as if it had stopped there. Cutting commutes with
sequencing, so it can be pushed to the single steps of a run.
-/
namespace SliceGrowth.Run

open Analysis

variable {α β : Type}

def recordsNothing (event : Event) : Bool := event.construct?.isNone

/-- The run up to the first construct it records, ended by that construct; a run that records none is
left as it is. -/
def cut (run : Run α) : Run α :=
  match run.constructs with
  | [] => run
  | construct :: _ => ⟨run.events.takeWhile recordsNothing, .error (.unsupported construct)⟩

theorem cut_of_constructs_nil {run : Run α} (h : run.constructs = []) : run.cut = run := by
  simp only [cut, h]

theorem cut_of_constructs_cons {run : Run α} {construct : Unsupported} {rest : List Unsupported}
    (h : run.constructs = construct :: rest) :
    run.cut = ⟨run.events.takeWhile recordsNothing, .error (.unsupported construct)⟩ := by
  simp only [cut, h]

theorem forall_recordsNothing_iff (events : List Event) :
    (∀ event ∈ events, recordsNothing event) ↔ events.filterMap Event.construct? = [] := by
  simp only [recordsNothing, Option.isNone_iff_eq_none, List.filterMap_eq_nil_iff]

theorem takeWhile_append_of_recorded {events : List Event} (more : List Event)
    (recorded : events.filterMap Event.construct? ≠ []) :
    (events ++ more).takeWhile recordsNothing = events.takeWhile recordsNothing := by
  rw [List.takeWhile_append, if_neg]
  intro whole
  have kept : events.takeWhile recordsNothing = events :=
    (List.takeWhile_prefix _).eq_of_length whole
  apply recorded
  rw [← forall_recordsNothing_iff, ← kept]
  exact List.all_eq_true.mp List.all_takeWhile

theorem takeWhile_append_of_unrecorded {events : List Event} (more : List Event)
    (unrecorded : events.filterMap Event.construct? = []) :
    (events ++ more).takeWhile recordsNothing = events ++ more.takeWhile recordsNothing :=
  List.takeWhile_append_of_pos ((forall_recordsNothing_iff events).mpr unrecorded)

theorem cut_bind (run : Run α) (next : α → Run β) :
    (run >>= next).cut = run.cut >>= fun a => (next a).cut := by
  cases recorded : run.constructs with
  | cons construct rest =>
    have recorded_ne : run.events.filterMap Event.construct? ≠ [] := by
      change run.constructs ≠ []
      simp [recorded]
    have stopped : run.cut.outcome = .error (.unsupported construct) := by
      rw [cut_of_constructs_cons recorded]
    rw [bind_of_error stopped, cut_of_constructs_cons recorded]
    cases returned : run.outcome with
    | error failure =>
      have same := (constructs_bind_of_error returned next).trans recorded
      rw [cut_of_constructs_cons same, bind_of_error returned]
    | ok a =>
      have same := (constructs_bind_of_ok returned next).trans (congrArg (· ++ _) recorded)
      rw [cut_of_constructs_cons same, bind_of_ok returned, takeWhile_append_of_recorded _ recorded_ne]
  | nil =>
    rw [cut_of_constructs_nil recorded]
    cases returned : run.outcome with
    | error failure =>
      have same := (constructs_bind_of_error returned next).trans recorded
      rw [cut_of_constructs_nil same, bind_of_error returned, bind_of_error returned]
    | ok a =>
      have same := (constructs_bind_of_ok returned next).trans (congrArg (· ++ _) recorded)
      rw [List.nil_append] at same
      rw [bind_of_ok returned fun a => (next a).cut]
      cases later : (next a).constructs with
      | nil => rw [cut_of_constructs_nil (same.trans later), cut_of_constructs_nil later, bind_of_ok returned]
      | cons construct rest =>
        rw [cut_of_constructs_cons (same.trans later), cut_of_constructs_cons later, bind_of_ok returned,
          takeWhile_append_of_unrecorded _ recorded]

theorem cut_gather (f : α → Run (List β)) (xs : List α) :
    (gather f xs).cut = gather (fun x => (f x).cut) xs := by
  induction xs with
  | nil => rfl
  | cons x xs ih =>
    simp only [gather, cut_bind, ih]
    rfl

theorem cut_report (construct : Unsupported) :
    (report .collect construct).cut = report .abort construct := rfl

theorem cut_withConstructs (run : Run α) : run.withConstructs.cut = run.cut.withConstructs := by
  have same : run.withConstructs.constructs = run.constructs := rfl
  cases recorded : run.constructs with
  | nil => rw [cut_of_constructs_nil recorded, cut_of_constructs_nil (same.trans recorded)]
  | cons construct rest =>
    rw [cut_of_constructs_cons recorded, cut_of_constructs_cons (same.trans recorded)]
    rfl

/-- The outcome of a cut run in terms of the run itself. -/
theorem outcome_cut (run : Run α) :
    run.cut.outcome = match run.constructs with
      | [] => run.outcome
      | construct :: _ => .error (.unsupported construct) := by
  cases recorded : run.constructs with
  | nil => rw [cut_of_constructs_nil recorded]
  | cons construct rest => rw [cut_of_constructs_cons recorded]

end SliceGrowth.Run
