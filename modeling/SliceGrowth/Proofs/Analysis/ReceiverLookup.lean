import Mathlib.Data.List.Forall2
import SliceGrowth.Proofs.Analysis.Findings

/-!
When the type of a receiver is looked up. A method is worked through statement by statement, and the name of
the receiver's type is looked up at the first assignment to one of its fields. So a method gives all of its
updates under one name, or one construct and no update, or, if it assigns no field, nothing at all.
-/
namespace SliceGrowth.Analysis

open Syntax

/-- The name of the receiver's type, looked up unless it is known. -/
def knownOrLookedUp (f : SourceFile) (r : Receiver) (known : Option String) : Except Unsupported String :=
  match known with
  | some identity => .ok identity
  | none => receiverType f r.type

/-- The updates of statements in turn. Once the name of the receiver's type is looked up it is known for the
statements that follow; if it has none, these are not looked at. -/
def updatesInTurn (policy : Policy) (operations : Operations) (f : SourceFile) (r : Receiver) :
    Option String → List Node → Run (List Update)
  | _, [] => return []
  | known, statement :: rest =>
    match assignment? f r.name statement with
    | none => updatesInTurn policy operations f r known rest
    | some a =>
      match knownOrLookedUp f r known with
      | .error construct => do
        Run.report policy construct
        return []
      | .ok identity => do
        let first := a.update f operations identity
        logUpdate first
        let others ← updatesInTurn policy operations f r (some identity) rest
        return first :: others

section InTurn

variable (policy : Policy) (operations : Operations) {f : SourceFile} {r : Receiver}

theorem updatesInTurn_of_none (known : Option String) {statements : List Node}
    (unassigned : ∀ statement ∈ statements, assignment? f r.name statement = none) :
    updatesInTurn policy operations f r known statements = pure [] := by
  induction statements with
  | nil => rfl
  | cons statement rest ih =>
    simp only [updatesInTurn, unassigned statement List.mem_cons_self]
    apply ih
    intro later member
    exact unassigned later (List.mem_cons_of_mem _ member)

/-- Nothing is done up to the first assignment, and nothing is looked at after it. -/
theorem updatesInTurn_of_unnamed {construct : Unsupported} (unnamed : receiverType f r.type = .error construct)
    {statements : List Node} (assigned : statements.filterMap (assignment? f r.name) ≠ []) :
    updatesInTurn policy operations f r none statements = (do
      Run.report policy construct
      return []) := by
  induction statements with
  | nil => exact absurd rfl assigned
  | cons statement rest ih =>
    cases found : assignment? f r.name statement with
    | none =>
      rw [List.filterMap_cons_none found] at assigned
      simp only [updatesInTurn, found, ih assigned]
    | some a => simp only [updatesInTurn, found, knownOrLookedUp, unnamed]

/-- The invariant is that the name stays the one that is looked up, whether it is known by now or not. -/
theorem updatesInTurn_of_named {identity : String} (statements : List Node) (known : Option String)
    (named : knownOrLookedUp f r known = .ok identity) :
    updatesInTurn policy operations f r known statements = (do
      let made := (statements.filterMap (assignment? f r.name)).map (·.update f operations identity)
      Run.forEach logUpdate made
      return made) := by
  induction statements generalizing known with
  | nil => rfl
  | cons statement rest ih =>
    cases found : assignment? f r.name statement with
    | none => simp only [updatesInTurn, found, ih known named, List.filterMap_cons_none found]
    | some a =>
      have later := ih (some identity) rfl
      simp only [updatesInTurn, found, named, later, List.filterMap_cons_some found, List.map_cons, Run.forEach,
        bind_assoc, pure_bind]

theorem bodyUpdates_eq_inTurn (f : SourceFile) (r : Receiver) (body : Node) :
    bodyUpdates policy operations f r body = updatesInTurn policy operations f r none body.statements := by
  unfold bodyUpdates assignments
  cases found : body.statements.filterMap (assignment? f r.name) with
  | nil => rw [updatesInTurn_of_none policy operations none (List.filterMap_eq_nil_iff.mp found)]
  | cons first others =>
    cases looked : receiverType f r.type with
    | error construct => rw [updatesInTurn_of_unnamed policy operations looked (by simp [found])]
    | ok identity => rw [updatesInTurn_of_named policy operations _ none looked, found]

end InTurn

/-- A statement that assigns one value to one field of the receiver that the parameter names. -/
def AssignsReceiver (f : SourceFile) (parameter statement : Node) : Prop :=
  ∃ name ∈ parameter.child? "name", ∃ field value, AssignsTo f (f.text name) statement field value

/-- The update that an assignment makes to a field of a type. -/
def IsUpdateBy (f : SourceFile) (operations : Operations) (parameter : Node) (identity : String)
    (statement : Node) (u : Update) : Prop :=
  ∃ name ∈ parameter.child? "name", ∃ field value, AssignsTo f (f.text name) statement field value ∧
    u.target = { identity := identity, field := some field } ∧
    u.kind = classifyValue f operations value ∧
    u.position = f.position ((statement.child? "operator").getD statement)

/-- The receiver that a parameter with this type declares. -/
def declaredReceiver (f : SourceFile) (parameter type : Node) : Receiver :=
  { name := (parameter.child? "name").map f.text, type := type }

theorem assignment?_isSome_iff {f : SourceFile} {parameter type statement : Node} :
    (assignment? f (declaredReceiver f parameter type).name statement).isSome = true ↔
      AssignsReceiver f parameter statement := by
  rw [Option.isSome_iff_exists]
  unfold AssignsReceiver declaredReceiver
  simp only [assignment?_eq_some_iff, Option.mem_def, Option.map_eq_some_iff]
  constructor
  · intro found
    obtain ⟨a, -, _, ⟨name, named, rfl⟩, assigned⟩ := found
    exact ⟨name, named, a.field, a.value, assigned⟩
  · intro assigned
    obtain ⟨name, named, field, value, assigned⟩ := assigned
    exact ⟨⟨statement, field, value⟩, rfl, _, ⟨name, named, rfl⟩, assigned⟩

instance (f : SourceFile) (parameter : Node) : DecidablePred (AssignsReceiver f parameter) := fun _ =>
  decidable_of_iff _ (@assignment?_isSome_iff f parameter parameter _)

/-- The statements of a body that assign a field of the receiver. -/
def assigningStatements (f : SourceFile) (parameter body : Node) : List Node :=
  body.statements.filter (AssignsReceiver f parameter ·)

theorem forall₂_filterMap {α β : Type} {R : α → β → Prop} {g : α → Option β} {xs : List α}
    (each : ∀ x y, g x = some y → R x y) : List.Forall₂ R (xs.filter (g · |>.isSome)) (xs.filterMap g) := by
  induction xs with
  | nil => exact .nil
  | cons x xs ih =>
    cases found : g x with
    | none => rwa [List.filter_cons_of_neg (by simp [found]), List.filterMap_cons_none found]
    | some y =>
      rw [List.filter_cons_of_pos (by simp [found]), List.filterMap_cons_some found]
      exact .cons (each x y found) ih

theorem assigningStatements_eq (f : SourceFile) (parameter type body : Node) :
    assigningStatements f parameter body =
      body.statements.filter (assignment? f (declaredReceiver f parameter type).name · |>.isSome) := by
  apply List.filter_congr
  intro statement _
  rw [Bool.eq_iff_iff, decide_eq_true_iff, assignment?_isSome_iff]

theorem assigningStatements_eq_nil_iff {f : SourceFile} {parameter body : Node} (type : Node) :
    assigningStatements f parameter body = [] ↔
      ∀ statement ∈ body.statements,
        assignment? f (declaredReceiver f parameter type).name statement = none := by
  rw [assigningStatements_eq f parameter type, List.filter_eq_nil_iff]
  simp only [Option.not_isSome_iff_eq_none]

/-- Each statement that assigns a field makes one update, in order. -/
theorem assigningStatements_updates (operations : Operations) (f : SourceFile) (parameter type body : Node)
    (identity : String) :
    List.Forall₂ (IsUpdateBy f operations parameter identity) (assigningStatements f parameter body)
      ((body.statements.filterMap (assignment? f (declaredReceiver f parameter type).name)).map
        (·.update f operations identity)) := by
  rw [assigningStatements_eq f parameter type, List.forall₂_map_right_iff]
  apply forall₂_filterMap
  intro statement a found
  obtain ⟨same, _, hasName, assigned⟩ := assignment?_eq_some_iff.mp found
  obtain ⟨name, named, rfl⟩ := Option.map_eq_some_iff.mp hasName
  exact ⟨name, named, a.field, a.value, assigned, rfl, rfl, by rw [← same]; rfl⟩

/-- A method with a body, and with a type in the first parameter of its receiver list. -/
structure HasTypedReceiver (method body parameter type : Node) : Prop where
  kind : method.kind = "method_declaration"
  bodied : body ∈ method.child? "body"
  first : parameter ∈ receiverParameter? method
  typed : type ∈ parameter.child? "type"

namespace HasTypedReceiver

variable {method body parameter type : Node} (has : HasTypedReceiver method body parameter type)
include has

theorem receiver_eq (f : SourceFile) : receiver f method = pure (declaredReceiver f parameter type) := by
  have first := has.first
  rw [receiverParameter?_eq_head?, Option.mem_def, List.head?_eq_some_iff] at first
  obtain ⟨others, parameters⟩ := first
  have typed : parameter.child? "type" = some type := has.typed
  unfold receiver
  rw [← receiverParameters, parameters]
  simp only [typed, declaredReceiver]

theorem updates_eq_inTurn (policy : Policy) (operations : Operations) (f : SourceFile) :
    updates policy operations f method =
      updatesInTurn policy operations f (declaredReceiver f parameter type) none body.statements := by
  have bodied : method.child? "body" = some body := has.bodied
  simp only [updates, has.kind, bodied, beq_self_eq_true, if_true, has.receiver_eq, pure_bind,
    bodyUpdates_eq_inTurn]

end HasTypedReceiver

/-- A method is worked through in turn. If it assigns no field of its receiver it gives nothing, whatever the
type of the receiver is. If it does, and the type is written in a way that gives it no name, the type is
reported once and there are no updates. Otherwise nothing is reported, and each assignment makes its update
under the name of the type, in order. -/
theorem updates_all_or_nothing (operations : Operations) (f : SourceFile) (method body parameter type : Node)
    (has : HasTypedReceiver method body parameter type) :
    (∀ policy, updates policy operations f method =
      updatesInTurn policy operations f (declaredReceiver f parameter type) none body.statements) ∧
    (assigningStatements f parameter body = [] →
      ∀ policy, (updates policy operations f method).Returns [] []) ∧
    (assigningStatements f parameter body ≠ [] → (∀ name, ¬ NamesReceiver type name) →
      (updates .collect operations f method).Returns [] [receiverReport f type] ∧
      (updates .abort operations f method).outcome = .error (.unsupported (receiverReport f type))) ∧
    (assigningStatements f parameter body ≠ [] → ∀ name, NamesReceiver type name →
      ∃ made, (∀ policy, (updates policy operations f method).Returns made []) ∧
        List.Forall₂ (IsUpdateBy f operations parameter (f.text name)) (assigningStatements f parameter body)
          made) := by
  have inTurn := fun policy => has.updates_eq_inTurn policy operations f
  have unassigned := @assigningStatements_eq_nil_iff f parameter body type
  refine ⟨inTurn, ?_, ?_, ?_⟩
  · intro none policy
    rw [inTurn, updatesInTurn_of_none policy operations _ (unassigned.mp none)]
    exact Run.Returns.pure []
  · intro some unnamed
    have assigned : body.statements.filterMap (assignment? f (declaredReceiver f parameter type).name) ≠ [] := by
      rwa [ne_eq, List.filterMap_eq_nil_iff, ← unassigned]
    have reported := fun policy =>
      updatesInTurn_of_unnamed policy operations (receiverType_of_unnamed f unnamed) assigned
    rw [inTurn, inTurn, reported, reported]
    exact ⟨(Run.Returns.report_collect _).bind (Run.Returns.pure []), rfl⟩
  · intro _ name named
    have looked : knownOrLookedUp f (declaredReceiver f parameter type) none = .ok (f.text name) :=
      receiverType_of_named f named
    refine ⟨_, fun policy => ?_, assigningStatements_updates operations f parameter type body (f.text name)⟩
    rw [inTurn, updatesInTurn_of_named policy operations _ none looked]
    exact logged_updates_return _

set_option maxRecDepth 2000 in
/-- In the mixed file one method has a receiver that is not named, and the other grows the field. -/
theorem updates_all_or_nothing_mixedStore :
    (∃ method ∈ methods mixedStore, ∃ body parameter type, HasTypedReceiver method body parameter type ∧
      (updates .collect {} mixedStore method).Returns [] [receiverReport mixedStore type]) ∧
    ∃ method ∈ methods mixedStore, ∃ body parameter type made, HasTypedReceiver method body parameter type ∧
      (∀ policy, (updates policy {} mixedStore method).Returns made []) ∧
      List.Forall₂ (IsUpdateBy mixedStore {} parameter "S") (assigningStatements mixedStore parameter body)
        made := by
  constructor
  · have has : HasTypedReceiver ((methods mixedStore).get ⟨1, by decide⟩) _ _ _ := ⟨rfl, rfl, rfl, rfl⟩
    refine ⟨_, List.get_mem _ _, _, _, _, has, ?_⟩
    refine ((updates_all_or_nothing {} mixedStore _ _ _ _ has).2.2.1 (List.cons_ne_nil _ _) ?_).1
    intro name named
    have looked := receiverType_of_named mixedStore named
    cases looked
  · have has : HasTypedReceiver ((methods mixedStore).get ⟨0, by decide⟩) _ _ _ := ⟨rfl, rfl, rfl, rfl⟩
    have spelled : mixedStore.text (onLine "type_identifier" 61 62 []) = "S" := by decide +kernel
    obtain ⟨made, returns, updated⟩ := (updates_all_or_nothing {} mixedStore _ _ _ _ has).2.2.2
      (List.cons_ne_nil _ _) (onLine "type_identifier" 61 62 []) (.inr ⟨rfl, _, rfl, rfl, .inl rfl⟩)
    rw [spelled] at updated
    exact ⟨_, List.get_mem _ _, _, _, _, made, has, returns, updated⟩

/-- A method with two receivers, of which the second has a type. -/
def secondTyped : SourceFile where
  path := .ofString "store.go"
  source := "func (s, t T) f()\x7b\x7d".toUTF8
  root := onLine "source_file" 0 19 [
    onLine "method_declaration" 0 19 [
      (onLine "parameter_list" 5 13 [
        onLine "parameter_declaration" 6 7 [(onLine "identifier" 6 7 []).inRole "name"],
        onLine "parameter_declaration" 9 12 [
          (onLine "identifier" 9 10 []).inRole "name",
          (onLine "type_identifier" 11 12 []).inRole "type"]]).inRole "receiver",
      (onLine "block" 17 19 []).inRole "body"]]

/-- It is the first parameter that has to have a type, even where no field is assigned. -/
theorem untyped_first_parameter_breaks :
    ∃ method ∈ methods secondTyped, ∃ body ∈ method.child? "body", ∃ list ∈ method.child? "receiver",
      (∃ parameter ∈ list.ofKind "parameter_declaration", (parameter.child? "type").isSome) ∧
      (∀ parameter, assigningStatements secondTyped parameter body = []) ∧
      ∀ policy, (updates policy {} secondTyped method).outcome = .error (.defect (.broken
        "receiver without type" [("path", .text "store.go"), ("line", .number 1)])) := by
  refine ⟨_, List.mem_singleton_self _, _, rfl, _, rfl, ?_, fun _ => rfl, fun policy => rfl⟩
  exact ⟨_, List.mem_cons_of_mem _ (List.mem_singleton_self _), rfl⟩

end SliceGrowth.Analysis
