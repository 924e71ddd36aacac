import SliceGrowth.Proofs.Analysis.Findings
import SliceGrowth.Proofs.Policy
import SliceGrowth.Proofs.Run.Agreement

/-!
How a report depends on the names of operations. Names are ordered by what they make of each callee:
below are those that grow less and shrink more. Going up in this order adds findings and changes nothing
else, and there are names below all others, so two checks can only differ in what they find.
-/
namespace SliceGrowth

open Analysis Syntax

namespace Analysis

def Operations.Below (a b : Operations) : Prop :=
  ∀ callee, (a.classify callee = .grow → b.classify callee = .grow) ∧
    (b.classify callee = .shrink → a.classify callee = .shrink)

theorem BeginsWithAny.mono {names more : List String} {text : List Char} (subset : names ⊆ more)
    (begins : BeginsWithAny names text) : BeginsWithAny more text := by
  obtain ⟨name, member, begins⟩ := begins
  exact ⟨name, subset member, begins⟩

theorem Operations.below_of_more_shrink {a b : Operations} (grow : a.grow = b.grow)
    (more : b.shrink ⊆ a.shrink) : a.Below b := by
  intro callee
  simp only [classify_eq_grow_iff, classify_eq_shrink_iff, Operations.Grows, Operations.Shrinks]
  constructor
  · rintro ⟨grows, notShrunk⟩
    rw [grow] at grows
    exact ⟨grows, fun shrunk => notShrunk (shrunk.mono more)⟩
  · intro shrinks
    exact shrinks.mono more

theorem Operations.below_of_more_grow {a b : Operations} (shrink : a.shrink = b.shrink)
    (more : a.grow ⊆ b.grow) : a.Below b := by
  intro callee
  simp only [classify_eq_grow_iff, classify_eq_shrink_iff, Operations.Grows, Operations.Shrinks, shrink]
  constructor
  · rintro ⟨grows, notShrunk⟩
    exact ⟨grows.mono more, notShrunk⟩
  · exact id

/-- Every callee begins with the empty name, so here every call shrinks. -/
def Operations.shrinkAll : Operations := { shrink := [""], grow := [] }

theorem Operations.shrinkAll_below (b : Operations) : shrinkAll.Below b := by
  intro callee
  have shrinks : shrinkAll.classify callee = .shrink := by
    rw [classify_eq_shrink_iff]
    exact ⟨"", by simp [shrinkAll], by simp⟩
  rw [shrinks]
  exact ⟨by simp, by simp⟩

/-- The first updates grow no target that the second do not, and shrink every target that the second do. -/
def GrowsNoMore (made made' : List Update) : Prop :=
  ∀ target, (isUpdated made target .grow → isUpdated made' target .grow) ∧
    (isUpdated made' target .shrink → isUpdated made target .shrink)

theorem GrowsNoMore.append {us vs us' vs' : List Update} (front : GrowsNoMore us vs)
    (back : GrowsNoMore us' vs') : GrowsNoMore (us ++ us') (vs ++ vs') := by
  intro target
  simp only [isUpdated, List.any_append, Bool.or_eq_true]
  exact ⟨Or.imp (front target).1 (back target).1, Or.imp (front target).2 (back target).2⟩

theorem isUpdated_filter_known (made : List Update) (target : Target) {kind : UpdateKind}
    (known : kind ≠ .unknown) :
    isUpdated (made.filter (·.kind != .unknown)) target kind = isUpdated made target kind := by
  simp only [isUpdated, List.any_filter]
  congr 1
  funext u
  by_cases same : u.kind = kind
  · simp [same, known]
  · simp [same]

theorem GrowsNoMore.onlyGrows {made made' : List Update} (less : GrowsNoMore made made') (target : Target)
    (grows : onlyGrows (made.filter (·.kind != .unknown)) target) :
    onlyGrows (made'.filter (·.kind != .unknown)) target := by
  have growKnown : UpdateKind.grow ≠ .unknown := by decide
  have shrinkKnown : UpdateKind.shrink ≠ .unknown := by decide
  simp only [Analysis.onlyGrows, isUpdated_filter_known _ _ growKnown, isUpdated_filter_known _ _ shrinkKnown,
    Bool.and_eq_true, Bool.not_eq_true', ← Bool.not_eq_true] at grows ⊢
  exact ⟨(less target).1 grows.1, fun shrunk => grows.2 ((less target).2 shrunk)⟩

section Below

variable {a b : Operations} (below : a.Below b)
include below

theorem classifyValue_below (f : SourceFile) (value : Node) :
    (classifyValue f a value = .grow → classifyValue f b value = .grow) ∧
      (classifyValue f b value = .shrink → classifyValue f a value = .shrink) := by
  unfold classifyValue
  split
  · split
    · exact below _
    · simp
  · simp

theorem growsNoMore_updates (f : SourceFile) (identity : String) (found : List Assignment) :
    GrowsNoMore (found.map (·.update f a identity)) (found.map (·.update f b identity)) := by
  intro target
  simp only [isUpdated, List.any_map, List.any_eq_true, Function.comp_apply, Bool.and_eq_true, beq_iff_eq]
  constructor
  · rintro ⟨assignment, member, grows, same⟩
    exact ⟨assignment, member, (classifyValue_below below f _).1 grows, same⟩
  · rintro ⟨assignment, member, shrinks, same⟩
    exact ⟨assignment, member, (classifyValue_below below f _).2 shrinks, same⟩

theorem bodyUpdates_below (policy : Policy) (f : SourceFile) (receiver : Receiver) (body : Node) :
    Run.Agree GrowsNoMore (bodyUpdates policy a f receiver body) (bodyUpdates policy b f receiver body) := by
  have reflexive : ∀ made, GrowsNoMore made made := fun _ _ => ⟨id, id⟩
  unfold bodyUpdates
  cases assignments f receiver.name body with
  | nil => exact .refl reflexive _
  | cons first others =>
    cases receiverType f receiver.type with
    | error construct => exact .refl reflexive _
    | ok identity =>
      exact .of_returns (logged_updates_return _) (logged_updates_return _)
        (growsNoMore_updates below f identity _)

theorem updates_below (policy : Policy) (f : SourceFile) (method : Node) :
    Run.Agree GrowsNoMore (updates policy a f method) (updates policy b f method) := by
  have reflexive : ∀ made, GrowsNoMore made made := fun _ _ => ⟨id, id⟩
  unfold updates
  split
  · cases method.child? "body" with
    | none => exact .refl reflexive _
    | some body =>
      refine Run.Agree.bind_same fun r _ => ?_
      exact bodyUpdates_below below policy f r body
  · exact .refl reflexive _

end Below

/-- Whatever the policy, the targets of a file are those of its declarations. -/
theorem targets_eq {policy : Policy} {f : SourceFile} {declared : List Target}
    (returned : (targets policy f).outcome = .ok declared) :
    declared = f.root.namedChildren.flatMap (declarationValue f) := by
  cases policy with
  | collect => exact (targets_yields f declared returned).1
  | abort =>
    rw [targets_abort, Run.outcome_cut] at returned
    split at returned
    · exact (targets_yields f declared returned).1
    · cases returned

theorem checkSlices_below {a b : Operations} (below : a.Below b) (policy : Policy) (f : SourceFile) :
    Run.Agree List.Sublist (checkSlices policy a f) (checkSlices policy b f) := by
  refine Run.Agree.bind_same fun declared returned => ?_
  rw [targets_eq returned]
  have made : Run.Agree GrowsNoMore (Run.gather (updates policy a f) (methods f))
      (Run.gather (updates policy b f) (methods f)) :=
    .gather (fun _ => ⟨id, id⟩) GrowsNoMore.append fun method _ => updates_below below policy f method
  refine made.bind fun us vs _ less => ?_
  refine .of_returns (findings_declared_returns f _) (findings_declared_returns f _) ?_
  apply List.Sublist.map
  exact List.monotone_filter_right _ fun d grows => less.onlyGrows (d.target f) grows

end Analysis

namespace Options

/-- The options with other names of operations. -/
def naming (options : Options) (operations : Operations) : Options :=
  { options with operations := operations }

theorem checkFile_below {a b : Operations} (below : a.Below b) (options : Options) (checks : List CheckId)
    (input : Input) :
    Run.Agree List.Sublist ((options.naming a).checkFile checks input)
      ((options.naming b).checkFile checks input) := by
  refine Run.Agree.bind_same fun f _ => ?_
  refine .gather (.refl []) List.Sublist.append fun id _ => ?_
  have found : Run.Agree List.Sublist ((options.naming a).runCheck f id) ((options.naming b).runCheck f id) := by
    cases id with
    | slices => exact checkSlices_below below options.policy f
    | goroutines => exact .refl List.Sublist.refl _
  -- How many findings there are is logged, so the events differ; the constructs do not.
  refine found.bind fun xs ys _ sublist => ?_
  exact .of_returns ((⟨rfl, rfl⟩ : Run.Returns _ () []).bind (Run.Returns.pure _))
    ((⟨rfl, rfl⟩ : Run.Returns _ () []).bind (Run.Returns.pure _)) sublist

theorem checkFiles_below {a b : Operations} (below : a.Below b) (options : Options) (name : String)
    (inputs : List Input) :
    Run.Agree List.Sublist ((options.naming a).checkFiles name inputs)
      ((options.naming b).checkFiles name inputs) := by
  refine Run.Agree.bind_same fun checks _ => ?_
  refine Run.Agree.bind_same fun _ _ => ?_
  exact .gather (.refl []) List.Sublist.append fun input _ => checkFile_below below options checks input

theorem checkInputs_below {a b : Operations} (below : a.Below b) (options : Options) (name : String)
    (problems : List Problem) (inputs : List Input) :
    Run.Agree (fun report report' => report.findings.Sublist report'.findings ∧
        report.unsupported = report'.unsupported)
      ((options.naming a).checkInputs name problems inputs)
      ((options.naming b).checkInputs name problems inputs) := by
  cases problems with
  | cons problem others =>
    rw [checkInputs_cons, checkInputs_cons]
    exact ⟨.failed _, rfl⟩
  | nil =>
    rw [checkInputs_nil, checkInputs_nil]
    refine (checkFiles_below below options name inputs).withConstructs.bind fun found found' _ same => ?_
    exact .of_returns (Run.Returns.pure _) (Run.Returns.pure _) same

theorem check_below {a b : Operations} (below : a.Below b) (options : Options) (fs : FileSystem)
    (package : Package) :
    Run.Agree (fun report report' => report.findings.Sublist report'.findings ∧
        report.unsupported = report'.unsupported)
      ((options.naming a).check fs package) ((options.naming b).check fs package) :=
  checkInputs_below below options _ _ _

/-- More names that shrink only take findings away, more names that grow only add some, and no names
change how a check fails or what it cannot judge. -/
theorem check_monotone_in_names (options : Options) (fs : FileSystem) (package : Package)
    (first second : Operations) :
    let run := (options.naming first).check fs package
    let other := (options.naming second).check fs package
    (∃ failure, run.outcome = .error failure ∧ other.outcome = .error failure) ∨
      ∃ report report', run.outcome = .ok report ∧ other.outcome = .ok report' ∧
        report.unsupported = report'.unsupported ∧
        (first.grow = second.grow → first.shrink ⊆ second.shrink →
          report'.findings.Sublist report.findings) ∧
        (first.shrink = second.shrink → first.grow ⊆ second.grow →
          report.findings.Sublist report'.findings) := by
  intro run other
  have least := check_below (Operations.shrinkAll_below first) options fs package
  have least' := check_below (Operations.shrinkAll_below second) options fs package
  rcases (least.common least').cases with failed | ⟨report, report', returned, returned', lowest, low, low'⟩
  · exact .inl failed
  · refine .inr ⟨report, report', returned, returned', low.2.symm.trans low'.2, ?_, ?_⟩
    · intro grow more
      have below := Operations.below_of_more_shrink grow.symm more
      exact ((check_below below options fs package).results returned' returned).1
    · intro shrink more
      have below := Operations.below_of_more_grow shrink more
      exact ((check_below below options fs package).results returned returned').1

end Options

end SliceGrowth
