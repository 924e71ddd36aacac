import SliceGrowth.Proofs.Analysis.Findings
import SliceGrowth.Proofs.Syntax.Commented

/-!
Comments do not count. The check for slice fields goes the same way through a file and through the file with
a comment put in, wherever it is put but right below a side of an assignment. For each function of the check
there is one lemma, which says that it does the same with nodes that look alike.
-/
namespace SliceGrowth.Analysis

open Syntax

section Lists

variable {α β γ : Type} {R : α → β → Prop} {xs : List α} {ys : List β}

theorem map_eq_of_forall₂ {g : α → γ} {h : β → γ} (related : List.Forall₂ R xs ys)
    (each : ∀ a b, R a b → h b = g a) : ys.map h = xs.map g := by
  induction related with
  | nil => rfl
  | cons first _ ih => rw [List.map_cons, List.map_cons, each _ _ first, ih]

theorem mapM_eq_of_forall₂ {ε : Type} {g : α → Except ε γ} {h : β → Except ε γ}
    (related : List.Forall₂ R xs ys) (each : ∀ a b, R a b → h b = g a) : ys.mapM h = xs.mapM g := by
  induction related with
  | nil => rfl
  | cons first _ ih => rw [List.mapM_cons, List.mapM_cons, each _ _ first, ih]

theorem gather_eq_of_forall₂ {g : α → Run (List γ)} {h : β → Run (List γ)} (related : List.Forall₂ R xs ys)
    (each : ∀ a b, R a b → h b = g a) : Run.gather h ys = Run.gather g xs := by
  induction related with
  | nil => rfl
  | cons first _ ih => rw [Run.gather, Run.gather, each _ _ first, ih]

end Lists

variable {n n' : Node}

theorem fieldTargets_alike (f : SourceFile) (identity : String) (alike : LooksLike n n') :
    fieldTargets f identity n' = fieldTargets f identity n := by
  rcases cases_of_rel (alike.child? "type") with ⟨absent, absent'⟩ | ⟨type, type', found, found', typeAlike⟩
  · simp only [fieldTargets, absent, absent']
  · simp only [fieldTargets, found, found', typeAlike.kind, alike.text, alike.position]
    rw [map_eq_of_forall₂ (alike.childrenIn "name")]
    intro name name' nameAlike
    rw [nameAlike.text, nameAlike.position]

theorem fieldDeclarations_alike (alike : LooksLike n n') :
    List.Forall₂ LooksLike (fieldDeclarations n) (fieldDeclarations n') := by
  refine List.rel_flatMap (alike.ofKind (by decide)) ?_
  intro list list' listAlike
  exact listAlike.ofKind (by decide)

theorem specIdentity_alike (f : SourceFile) (alike : LooksLike n n') :
    specIdentity f n' = specIdentity f n := by
  rcases cases_of_rel (alike.child? "name") with ⟨absent, absent'⟩ | ⟨name, name', found, found', nameAlike⟩
  · simp only [specIdentity, absent, absent']
  · simp only [specIdentity, found, found', nameAlike.text]

theorem filter_alike {found found' : Option Node} (alike : Option.Rel LooksLike found found') (kind : String) :
    Option.Rel LooksLike (found.filter (·.kind == kind)) (found'.filter (·.kind == kind)) := by
  cases alike with
  | none => exact .none
  | some alike =>
    simp only [Option.filter, alike.kind]
    split
    · exact .some alike
    · exact .none

theorem specStruct?_alike (alike : LooksLike n n') :
    Option.Rel LooksLike (specStruct? n) (specStruct? n') := by
  unfold specStruct?
  rw [alike.kind]
  split
  · exact filter_alike (alike.child? "type") "struct_type"
  · exact .none

theorem specTargets_alike (f : SourceFile) (alike : LooksLike n n') :
    specTargets f n' = specTargets f n := by
  unfold specTargets
  rw [specIdentity_alike f alike, alike.position]
  rcases cases_of_rel (specStruct?_alike alike) with ⟨other, other'⟩ | ⟨struct, struct', found, found', structAlike⟩
  · simp only [other, other']
  · simp only [found, found']
    rw [mapM_eq_of_forall₂ (fieldDeclarations_alike structAlike)]
    intro line line' lineAlike
    exact fieldTargets_alike f _ lineAlike

theorem reportedTargets_alike (policy : Policy) (f : SourceFile) (alike : LooksLike n n') :
    reportedTargets policy f n' = reportedTargets policy f n := by
  simp only [reportedTargets, specTargets_alike f alike]

theorem declarationTargets_alike (policy : Policy) (f : SourceFile) (alike : LooksLike n n') :
    declarationTargets policy f n' = declarationTargets policy f n := by
  have specs : Run.gather (reportedTargets policy f) n'.contents =
      Run.gather (reportedTargets policy f) n.contents :=
    gather_eq_of_forall₂ alike.contents fun _ _ specAlike => reportedTargets_alike policy f specAlike
  simp only [declarationTargets, alike.kind, alike.text, alike.position, specs]

/-- Comments declare nothing. -/
theorem targets_eq_of_contents (policy : Policy) (f : SourceFile) :
    targets policy f = Run.gather (declarationTargets policy f) f.root.contents := by
  apply targets_eq_filter
  intro declaration dropped
  have kind : declaration.kind = "comment" := by simpa [Node.isComment] using dropped
  rw [kind]
  decide

theorem receiverCore?_alike (alike : LooksLike n n') :
    Option.Rel LooksLike (receiverCore? n) (receiverCore? n') := by
  have applied : ∀ a b : Node, LooksLike a b →
      Option.Rel LooksLike (if a.kind == "generic_type" then a.child? "type" else some a)
        (if b.kind == "generic_type" then b.child? "type" else some b) := by
    intro a b alike
    rw [alike.kind]
    split
    · exact alike.child? "type"
    · exact .some alike
  unfold receiverCore?
  rw [alike.kind]
  split
  · rcases cases_of_rel (head?_of_forall₂ alike.contents) with
      ⟨absent, absent'⟩ | ⟨pointee, pointee', found, found', pointeeAlike⟩
    · rw [absent, absent']
      exact .none
    · rw [found, found']
      exact applied pointee pointee' pointeeAlike
  · exact applied n n' alike

theorem receiverType_alike (f : SourceFile) (alike : LooksLike n n') :
    receiverType f n' = receiverType f n := by
  have core := filter_alike (receiverCore?_alike alike) "type_identifier"
  unfold receiverType
  rw [alike.position, alike.compactText]
  rcases cases_of_rel core with ⟨absent, absent'⟩ | ⟨name, name', found, found', nameAlike⟩
  · simp only [absent, absent']
  · simp only [found, found', nameAlike.text]

theorem receiverParameters_alike (alike : LooksLike n n') :
    List.Forall₂ LooksLike (receiverParameters n) (receiverParameters n') := by
  unfold receiverParameters
  rcases cases_of_rel (alike.child? "receiver") with ⟨absent, absent'⟩ | ⟨list, list', found, found', listAlike⟩
  · rw [absent, absent']
    exact .nil
  · rw [found, found']
    exact listAlike.ofKind (by decide)

theorem breakAt_alike {γ : Type} (f : SourceFile) (assumption : String) (next next' : Receiver → Run γ)
    (alike : LooksLike n n') : breakAt f assumption n' >>= next' = breakAt f assumption n >>= next := by
  unfold breakAt
  rw [Run.bind_of_error rfl, Run.bind_of_error rfl, alike.span]

/-- The receivers of two methods that look alike have the same name, and types that look alike. -/
theorem receiver_alike {γ : Type} (f : SourceFile) {next next' : Receiver → Run γ} (alike : LooksLike n n')
    (later : ∀ name type type', LooksLike type type' → next' ⟨name, type'⟩ = next ⟨name, type⟩) :
    receiver f n' >>= next' = receiver f n >>= next := by
  have parameters := receiverParameters_alike alike
  unfold receiver
  rw [← receiverParameters, ← receiverParameters]
  generalize receiverParameters n = first, receiverParameters n' = first' at parameters ⊢
  cases parameters with
  | nil => exact breakAt_alike f _ next next' alike
  | @cons parameter parameter' _ _ parameterAlike _ =>
    have named : (parameter'.child? "name").map f.text = (parameter.child? "name").map f.text := by
      rcases cases_of_rel (parameterAlike.child? "name") with
        ⟨absent, absent'⟩ | ⟨name, name', found, found', nameAlike⟩
      · rw [absent, absent']
      · rw [found, found', Option.map_some, Option.map_some, nameAlike.text]
    rcases cases_of_rel (parameterAlike.child? "type") with
      ⟨absent, absent'⟩ | ⟨type, type', found, found', typeAlike⟩
    · simp only [absent, absent']
      exact breakAt_alike f _ next next' parameterAlike
    · simp only [found, found', pure_bind, named]
      exact later _ type type' typeAlike

theorem classifyValue_alike (f : SourceFile) (operations : Operations) (alike : LooksLike n n') :
    classifyValue f operations n' = classifyValue f operations n := by
  unfold classifyValue
  rw [alike.kind]
  rcases cases_of_rel (alike.child? "function") with ⟨absent, absent'⟩ | ⟨callee, callee', found, found', calleeAlike⟩
  · simp only [absent, absent']
  · simp only [found, found', calleeAlike.compactText]

/-- Two assignments of the same field, whose statements and values look alike. -/
structure AssignmentsAlike (a a' : Assignment) : Prop where
  statement : LooksLike a.statement a'.statement
  field : a'.field = a.field
  value : LooksLike a.value a'.value

theorem AssignmentsAlike.update {a a' : Assignment} (alike : AssignmentsAlike a a') (f : SourceFile)
    (operations : Operations) (identity : String) :
    a'.update f operations identity = a.update f operations identity := by
  have position : f.position ((a'.statement.child? "operator").getD a'.statement) =
      f.position ((a.statement.child? "operator").getD a.statement) := by
    rcases cases_of_rel (alike.statement.child? "operator") with
      ⟨absent, absent'⟩ | ⟨operator, operator', found, found', operatorAlike⟩
    · rw [absent, absent']
      exact alike.statement.position f
    · rw [found, found']
      exact operatorAlike.position f
  unfold Assignment.update
  rw [position, alike.field, classifyValue_alike f operations alike.value]

/-- A selector names the same field of the receiver if it looks alike. -/
theorem selector_alike {γ : Type} {R : γ → γ → Prop} (f : SourceFile) (name : String)
    (next next' : String → Option γ) (alike : LooksLike n n')
    (later : ∀ field, Option.Rel R (next field) (next' field)) :
    Option.Rel R
      (do
        guard (n.kind == "selector_expression")
        let operand ← n.child? "operand"
        let field ← n.child? "field"
        guard (operand.kind == "identifier" && f.text operand == name)
        next (f.text field))
      (do
        guard (n'.kind == "selector_expression")
        let operand ← n'.child? "operand"
        let field ← n'.child? "field"
        guard (operand.kind == "identifier" && f.text operand == name)
        next' (f.text field)) := by
  rw [alike.kind]
  cases n.kind == "selector_expression" with
  | false => exact .none
  | true =>
    rcases cases_of_rel (alike.child? "operand") with
      ⟨absent, absent'⟩ | ⟨operand, operand', found, found', operandAlike⟩
    · rw [absent, absent']
      exact .none
    rcases cases_of_rel (alike.child? "field") with
      ⟨absent, absent'⟩ | ⟨field, field', named, named', fieldAlike⟩
    · rw [found, found', absent, absent']
      exact .none
    rw [found, found', named, named']
    simp only [Option.bind_eq_bind, Option.bind_some, operandAlike.kind, operandAlike.text, fieldAlike.text]
    cases operand.kind == "identifier" && f.text operand == name with
    | false => exact .none
    | true => exact later (f.text field)

theorem assignment?_alike (f : SourceFile) (receiverName : Option String) (alike : LooksLike n n') :
    Option.Rel AssignmentsAlike (assignment? f receiverName n) (assignment? f receiverName n') := by
  unfold assignment?
  rw [alike.kind]
  cases receiverName with
  | none => exact .none
  | some name =>
    by_cases kind : n.kind = "assignment_statement"
    · simp only [kind, beq_self_eq_true, guard_true, Option.pure_def, Option.bind_eq_bind, Option.bind_some]
      rcases cases_of_rel (alike.side kind (.inl rfl)) with
        ⟨absent, absent'⟩ | ⟨left, left', found, found', selectors⟩
      · rw [absent, absent']
        exact .none
      rcases cases_of_rel (alike.side kind (.inr rfl)) with
        ⟨absent, absent'⟩ | ⟨right, right', assigned, assigned', values⟩
      · rw [found, found', absent, absent']
        exact .none
      simp only [found, found', assigned, assigned', Option.bind_some]
      generalize left.namedChildren = lefts, left'.namedChildren = lefts' at selectors ⊢
      generalize right.namedChildren = rights, right'.namedChildren = rights' at values ⊢
      -- Both sides have as many named children as before, so one of each is still one of each.
      cases selectors with
      | nil => exact .none
      | cons selectorAlike others =>
        cases others with
        | cons _ _ => exact .none
        | nil =>
          cases values with
          | nil => exact .none
          | @cons value value' _ _ valueAlike others =>
            cases others with
            | cons _ _ => exact .none
            | nil =>
              have same : ∀ field, AssignmentsAlike ⟨n, field, value⟩ ⟨n', field, value'⟩ :=
                fun field => ⟨alike, rfl, valueAlike⟩
              exact selector_alike f name (fun field => some (Assignment.mk n field value))
                (fun field => some (Assignment.mk n' field value')) selectorAlike
                fun field => .some (same field)
    · have other : (n.kind == "assignment_statement") = false := beq_false_of_ne kind
      rw [other]
      exact .none

theorem assignments_alike (f : SourceFile) (receiverName : Option String) (alike : LooksLike n n') :
    List.Forall₂ AssignmentsAlike (assignments f receiverName n) (assignments f receiverName n') := by
  refine List.rel_filterMap ?_ alike.statements
  intro statement statement' statementAlike
  exact assignment?_alike f receiverName statementAlike

theorem bodyUpdates_alike (policy : Policy) (operations : Operations) (f : SourceFile) (name : Option String)
    {type type' : Node} (typeAlike : LooksLike type type') (alike : LooksLike n n') :
    bodyUpdates policy operations f ⟨name, type'⟩ n' = bodyUpdates policy operations f ⟨name, type⟩ n := by
  have found := assignments_alike f name alike
  have made : ∀ identity, (assignments f name n').map (·.update f operations identity) =
      (assignments f name n).map (·.update f operations identity) := by
    intro identity
    exact map_eq_of_forall₂ found fun _ _ assigned => assigned.update f operations identity
  unfold bodyUpdates
  rw [receiverType_alike f typeAlike]
  generalize assignments f name n = as, assignments f name n' = as' at found made ⊢
  cases found with
  | nil => rfl
  | cons _ _ =>
    cases receiverType f type with
    | error construct => rfl
    | ok identity =>
      dsimp only
      rw [made identity]

theorem updates_alike (policy : Policy) (operations : Operations) (f : SourceFile) (alike : LooksLike n n') :
    updates policy operations f n' = updates policy operations f n := by
  unfold updates
  rw [alike.kind]
  rcases cases_of_rel (alike.child? "body") with ⟨absent, absent'⟩ | ⟨body, body', found, found', bodyAlike⟩
  · simp only [absent, absent']
  · have made : receiver f n' >>= (bodyUpdates policy operations f · body') =
        receiver f n >>= (bodyUpdates policy operations f · body) := by
      apply receiver_alike f alike
      intro name type type' typeAlike
      exact bodyUpdates_alike policy operations f name typeAlike bodyAlike
    simp only [found, found', made]

/-- The type of the mixed file, and a method whose receiver is written with these comments after the star. -/
def starredStore (comments : List Node) : SourceFile where
  path := .ofString "store.go"
  source := "type S struct\x7bd []int\x7d;func (s *S) f()\x7bs.d=append(s.d)\x7d".toUTF8
  root := onLine "source_file" 0 55 (mixedStore.root.children.take 1 ++ [
    assigningMethod 23 (onLine "pointer_type" 31 33 (comments ++ [onLine "type_identifier" 32 33 []]))
      (onLine "call_expression" 43 54 [(onLine "identifier" 43 49 []).inRole "function"])])

/-- A comment put into a file changes nothing: a check returns, logs, records and fails with the same. -/
theorem checkSlices_of_commented (policy : Policy) (operations : Operations) (f : SourceFile) (root : Node)
    (commented : Commented False f.root root) :
    checkSlices policy operations { f with root := root } = checkSlices policy operations f := by
  have alike : LooksLike f.root root := .inr commented
  have declared : targets policy { f with root := root } = targets policy f := by
    rw [targets_eq_of_contents, targets_eq_of_contents]
    apply gather_eq_of_forall₂ alike.contents
    intro declaration declaration' declarationAlike
    rw [declarationTargets_withRoot, declarationTargets_alike policy f declarationAlike]
  have made : Run.gather (updates policy operations { f with root := root })
      (methods { f with root := root }) = Run.gather (updates policy operations f) (methods f) := by
    apply gather_eq_of_forall₂ (alike.ofKind (by decide))
    intro method method' methodAlike
    rw [updates_withRoot, updates_alike policy operations f methodAlike]
  unfold checkSlices
  rw [declared, made]

theorem checkSlices_of_commented_star :
    Commented False (starredStore []).root (starredStore [onLine "comment" 32 32 []]).root ∧
      checkSlices .abort {} (starredStore [onLine "comment" 32 32 []]) = checkSlices .abort {} (starredStore []) ∧
      (checkSlices .abort {} (starredStore [])).outcome = .ok [mixedFinding] := by
  have commented : Commented False (starredStore []).root (starredStore [onLine "comment" 32 32 []]).root := by
    apply @Commented.inside _ _ _ _ [_] [] rfl
    apply @Commented.inside _ _ _ _ [] [_] rfl
    apply @Commented.inside _ _ _ _ [] [] rfl
    apply @Commented.inside _ _ _ _ [_] [] rfl
    exact @Commented.here _ _ (onLine "comment" 32 32 []) [] [_] (by simp [Node.HasSide, onLine]) ⟨rfl, rfl, rfl⟩ rfl
  exact ⟨commented, checkSlices_of_commented .abort {} (starredStore []) _ commented, rfl⟩

end SliceGrowth.Analysis
