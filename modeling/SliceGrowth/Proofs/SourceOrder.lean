import SliceGrowth.Proofs.Command.Told
import SliceGrowth.Proofs.Syntax.Placement

/-!
Findings come in the order of the source: file by file as the package has them, and within a file from the top to
the bottom. So no place is told twice.
-/
namespace SliceGrowth

open Analysis Syntax

/-- An earlier line, or earlier in the same line. -/
def Position.Before (a b : Position) : Prop := a.line < b.line ∨ a.line = b.line ∧ a.column < b.column

namespace Analysis

theorem fieldDeclarations_laidOut {struct : Node} (follows : FollowsSource struct) :
    LaidOut struct (fieldDeclarations struct) :=
  (follows.ofKind "field_declaration_list").flatMap follows fun _ inner => inner.ofKind "field_declaration"

theorem sequenceNames_laidOut {spec : Node} (follows : FollowsSource spec) : LaidOut spec (sequenceNames spec) := by
  refine (follows.child? "type").flatMap follows fun type inner => ?_
  refine ((fieldDeclarations_laidOut inner).sublist List.filter_sublist).flatMap inner fun line own => ?_
  exact own.childrenIn "name"

theorem names_declaredFields (f : SourceFile) :
    (declaredFields f).map (·.name) = (f.root.ofKind "type_declaration").flatMap fun declaration =>
      (declaration.ofKind "type_spec").flatMap sequenceNames := by
  simp [declaredFields, List.map_flatMap, Function.comp_def]

theorem declaredNames_laidOut {f : SourceFile} (follows : FollowsSource f.root) :
    LaidOut f.root ((declaredFields f).map (·.name)) := by
  rw [names_declaredFields]
  refine (follows.ofKind "type_declaration").flatMap follows fun declaration inner => ?_
  exact (inner.ofKind "type_spec").flatMap inner fun spec => sequenceNames_laidOut

theorem field_of_mem_declaredFields {f : SourceFile} {d : DeclaredField} (member : d ∈ declaredFields f) :
    d.name.field = some "name" := by
  simp only [declaredFields, List.mem_flatMap, List.mem_map, sequenceNames] at member
  obtain ⟨_, -, _, -, name, ⟨_, -, _, -, found⟩, rfl⟩ := member
  exact eq_of_beq (List.mem_filter.mp found).2

/-- Fields are declared one after the other, whatever types they belong to. -/
theorem declaredFields_rise {f : SourceFile} (follows : FollowsSource f.root) :
    (declaredFields f).Pairwise fun a b => (f.position a.name).Before (f.position b.name) := by
  have laid := declaredNames_laidOut follows
  have apart := List.pairwise_map.mp laid.apart
  refine apart.imp_of_mem fun {a b} inA inB order => ?_
  have below : ∀ d ∈ declaredFields f, d.name ∈ f.root.nodes := fun d member =>
    laid.below d.name (List.mem_map_of_mem member)
  have spelled := follows.spelled a.name (below a inA) (field_of_mem_declaredFields inA)
  have starts := follows.rising a.name (below a inA) b.name (below b inB) (Nat.lt_of_lt_of_le spelled order)
  rcases starts with row | ⟨row, column⟩
  · exact .inl (Nat.succ_lt_succ row)
  · exact .inr ⟨congrArg (· + 1) row, Nat.succ_lt_succ column⟩

end Analysis

/-- Findings at places of one file, from the top to the bottom. -/
structure ListedIn (path : SlashPath) (found : List Finding) : Prop where
  own : ∀ r ∈ found, r.position.path = path
  rising : found.Pairwise fun a b => a.position.Before b.position

/-- Findings file by file, with no place told twice. -/
structure ListedByFile (paths : List SlashPath) (found : List Finding) : Prop where
  grouped : ∃ groups, List.Forall₂ ListedIn paths groups ∧ found = groups.flatten
  placed : ∀ r ∈ found, r.position.path ∈ paths
  distinct : (found.map (·.position)).Nodup

theorem Position.Before.ne {a b : Position} (order : a.Before b) : a ≠ b := by
  rintro rfl
  rcases order with line | ⟨-, column⟩
  · exact Nat.lt_irrefl _ line
  · exact Nat.lt_irrefl _ column

theorem declared_listedIn {f : SourceFile} (follows : FollowsSource f.root) {ds : List DeclaredField}
    (part : ds.Sublist (declaredFields f)) : ListedIn f.path (ds.map (·.finding f)) where
  own r member := by
    obtain ⟨d, -, rfl⟩ := List.mem_map.mp member
    rfl
  rising := List.pairwise_map.mpr ((declaredFields_rise follows).sublist part)

theorem checkSlices_listedIn {policy : Policy} {operations : Operations} {f : SourceFile} {found : List Finding}
    (follows : FollowsSource f.root) (returned : (checkSlices policy operations f).outcome = .ok found) :
    ListedIn f.path found := by
  rw [checkSlices_found returned]
  exact declared_listedIn follows List.filter_sublist

theorem findingsIn_listedIn (options : Options) {f : SourceFile} (follows : FollowsSource f.root) :
    ListedIn f.path (options.findingsIn f) := by
  unfold Options.findingsIn
  split
  · exact declared_listedIn follows List.filter_sublist
  · exact ⟨fun r none => absurd none List.not_mem_nil, .nil⟩

theorem placed_of_grouped {paths : List SlashPath} {groups : List (List Finding)}
    (each : List.Forall₂ ListedIn paths groups) {r : Finding} (member : r ∈ groups.flatten) :
    r.position.path ∈ paths := by
  induction each with
  | nil => exact absurd member List.not_mem_nil
  | cons listed _ ih =>
    rw [List.flatten_cons] at member
    rcases List.mem_append.mp member with member | member
    · exact List.mem_cons.mpr (.inl (listed.own r member))
    · exact List.mem_cons_of_mem _ (ih member)

theorem distinct_of_grouped {paths : List SlashPath} {groups : List (List Finding)} (unique : paths.Nodup)
    (each : List.Forall₂ ListedIn paths groups) : (groups.flatten.map (·.position)).Nodup := by
  induction each with
  | nil => exact .nil
  | @cons path group paths groups listed rest ih =>
    obtain ⟨fresh, unique⟩ := List.nodup_cons.mp unique
    rw [List.flatten_cons, List.map_append, List.nodup_append]
    refine ⟨List.pairwise_map.mpr (listed.rising.imp Position.Before.ne), ih unique, ?_⟩
    -- A place of this file is no place of a later one.
    rintro _ inGroup _ inRest rfl
    obtain ⟨a, inA, rfl⟩ := List.mem_map.mp inGroup
    obtain ⟨b, inB, same⟩ := List.mem_map.mp inRest
    apply fresh
    rw [← listed.own a inA, ← same]
    exact placed_of_grouped rest inB

theorem checkInputs_listedByFile {options : Options} {name : String} {problems : List Problem}
    {inputs : List Input} {report : Report} (unique : (inputs.map (·.path)).Nodup)
    (read : ∀ input ∈ inputs, ∀ f, input.file.outcome = .ok f → f.path = input.path ∧ FollowsSource f.root)
    (returned : (options.checkInputs name problems inputs).outcome = .ok report) :
    ListedByFile (inputs.map (·.path)) report.findings := by
  obtain ⟨files, each, same⟩ := Options.checkInputs_found returned
  have listed : List.Forall₂ ListedIn (inputs.map (·.path)) (files.map options.findingsIn) := by
    rw [List.forall₂_map_left_iff, List.forall₂_map_right_iff]
    refine ((List.forall₂_and_left _ _).mpr ⟨read, each⟩).imp fun input f both => ?_
    obtain ⟨own, follows⟩ := both.1 f both.2
    exact own ▸ findingsIn_listedIn options follows
  rw [same, List.flatMap_def]
  exact ⟨⟨_, listed, rfl⟩, fun r => placed_of_grouped listed, distinct_of_grouped unique listed⟩

theorem input_eq_ok {fs : FileSystem} {path : SlashPath} {f : SourceFile}
    (accepted : (fs.input path).file.outcome = .ok f) :
    ∃ source, fs.read path = .ok source ∧ f = ⟨path, source, Go.parse source⟩ := by
  obtain ⟨_, -, rest⟩ := Run.bind_eq_ok accepted
  cases found : fs.read path with
  | error cause =>
    simp only [found] at rest
    cases rest
  | ok source =>
    simp only [found, SourceFile.accept] at rest
    split at rest
    · cases rest
    · cases rest
      exact ⟨source, rfl, rfl⟩

/-- Findings come in the order of the source, with no place told twice. -/
theorem results_in_source_order :
    (∀ policy operations f found, FollowsSource f.root → (checkSlices policy operations f).outcome = .ok found →
      ListedIn f.path found) ∧
    (∀ (options : Options) name problems inputs report, (inputs.map (·.path)).Nodup →
      (∀ input ∈ inputs, ∀ f, input.file.outcome = .ok f → f.path = input.path ∧ FollowsSource f.root) →
      (options.checkInputs name problems inputs).outcome = .ok report →
      ListedByFile (inputs.map (·.path)) report.findings) ∧
    ∀ (options : Options) fs package report, package.files.Nodup →
      (∀ path ∈ package.files, ∀ source, fs.read path = .ok source → FollowsSource (Go.parse source)) →
      (options.check fs package).outcome = .ok report → ListedByFile package.files report.findings := by
  refine ⟨?_, ?_, ?_⟩
  · intro policy operations f found follows returned
    exact checkSlices_listedIn follows returned
  · intro options name problems inputs report unique read returned
    exact checkInputs_listedByFile unique read returned
  · intro options fs package report unique parsed returned
    have paths : (package.files.map fs.input).map (·.path) = package.files := by
      rw [List.map_map]
      exact List.map_id _
    have listed := checkInputs_listedByFile (paths.symm ▸ unique) ?_ returned
    · rwa [paths] at listed
    intro input member f accepted
    obtain ⟨path, inFiles, rfl⟩ := List.mem_map.mp member
    obtain ⟨source, found, rfl⟩ := input_eq_ok accepted
    exact ⟨rfl, parsed path inFiles source found⟩

/-- Two structs with a slice that is only grown, on one line. -/
def twinTree : Node :=
  onLine "source_file" 0 111 [
    onLine "type_declaration" 0 22 [
      onLine "type_spec" 5 22 [
        (onLine "type_identifier" 5 6 []).inRole "name",
        (onLine "struct_type" 7 22 [
          onLine "field_declaration_list" 13 22 [
            onLine "field_declaration" 14 21 [
              (onLine "field_identifier" 14 15 []).inRole "name",
              (onLine "slice_type" 16 21 []).inRole "type"]]]).inRole "type"]],
    onLine "type_declaration" 23 45 [
      onLine "type_spec" 28 45 [
        (onLine "type_identifier" 28 29 []).inRole "name",
        (onLine "struct_type" 30 45 [
          onLine "field_declaration_list" 36 45 [
            onLine "field_declaration" 37 44 [
              (onLine "field_identifier" 37 38 []).inRole "name",
              (onLine "slice_type" 39 44 []).inRole "type"]]]).inRole "type"]],
    assigningMethod 46 (onLine "pointer_type" 54 56 [onLine "type_identifier" 55 56 []])
      (onLine "call_expression" 66 77 [(onLine "identifier" 66 72 []).inRole "function"]),
    assigningMethod 79 (onLine "pointer_type" 87 89 [onLine "type_identifier" 88 89 []])
      (onLine "call_expression" 99 110 [(onLine "identifier" 99 105 []).inRole "function"])]

def twinFile (name : String) : SourceFile where
  path := .ofString name
  source := ("type S struct\x7bd []int\x7d;type T struct\x7bd []int\x7d;" ++
    "func (s *S) f()\x7bs.d=append(s.d)\x7d;func (s *T) g()\x7bs.d=append(s.d)\x7d").toUTF8
  root := twinTree

def twinInput (name : String) : Input where
  path := .ofString name
  file := SourceFile.accept (.ofString name) (twinFile name).source twinTree

def twinPositions (name : String) : List Position := [⟨.ofString name, 1, 15⟩, ⟨.ofString name, 1, 38⟩]

theorem twinTree_followsSource : FollowsSource twinTree := by decide +kernel

theorem twinInput_read {name : String} {f : SourceFile} (accepted : (twinInput name).file.outcome = .ok f) :
    f.path = (twinInput name).path ∧ FollowsSource f.root := by
  cases accepted
  exact ⟨rfl, twinTree_followsSource⟩

set_option maxRecDepth 4000 in
theorem twinInputs_outcome : ∃ report,
    (({} : Options).checkInputs "p" [] [twinInput "b.go", twinInput "a.go"]).outcome = .ok report ∧
      report.findings.map (·.position) = twinPositions "b.go" ++ twinPositions "a.go" :=
  ⟨_, rfl, rfl⟩

set_option maxRecDepth 4000 in
theorem twinFile_outcome : ∃ found, (checkSlices .abort {} (twinFile "b.go")).outcome = .ok found ∧
    found.map (·.position) = twinPositions "b.go" :=
  ⟨_, rfl, rfl⟩

def emptySystem : FileSystem where
  root := .folder [("a.go", .file .empty), ("b.go", .file .empty)]

def emptyPackage : Package where
  name := "p"
  directory := .ofString "."
  files := [.ofString "b.go", .ofString "a.go"]

theorem emptySystem_read {path : SlashPath} (member : path ∈ emptyPackage.files) :
    emptySystem.read path = .ok .empty := by
  rcases List.mem_pair.mp member with rfl | rfl <;> rfl

theorem emptyPackage_outcome : (({} : Options).check emptySystem emptyPackage).outcome = .ok {} := by
  have input : ∀ path ∈ emptyPackage.files, emptySystem.input path = {
      path := path
      file := do
        Run.emit (.debug .sources ("parsing " ++ path.text))
        SourceFile.accept path .empty { kind := "source_file", span := ⟨0, 0, 0, 0⟩ } } := by
    intro path member
    simp only [FileSystem.input, emptySystem_read member, parse_empty]
  rw [Options.check, List.map_congr_left input]
  rfl

theorem results_in_source_order_twins :
    (∃ found, (checkSlices .abort {} (twinFile "b.go")).outcome = .ok found ∧
      found.map (·.position) = twinPositions "b.go" ∧ ListedIn (.ofString "b.go") found) ∧
    (∃ report, (({} : Options).checkInputs "p" [] [twinInput "b.go", twinInput "a.go"]).outcome = .ok report ∧
      report.findings.map (·.position) = twinPositions "b.go" ++ twinPositions "a.go" ∧
      ListedByFile [.ofString "b.go", .ofString "a.go"] report.findings) ∧
    (({} : Options).check emptySystem emptyPackage).outcome = .ok {} ∧
      ListedByFile emptyPackage.files [] := by
  obtain ⟨inFile, inInputs, inPackage⟩ := results_in_source_order
  refine ⟨?_, ?_, emptyPackage_outcome, ?_⟩
  · obtain ⟨found, returned, positions⟩ := twinFile_outcome
    exact ⟨found, returned, positions, inFile _ _ (twinFile "b.go") found twinTree_followsSource returned⟩
  · obtain ⟨report, returned, positions⟩ := twinInputs_outcome
    refine ⟨report, returned, positions, inInputs _ _ _ _ report (by decide) ?_ returned⟩
    intro input member f accepted
    rcases List.mem_pair.mp member with rfl | rfl
    · exact twinInput_read accepted
    · exact twinInput_read accepted
  · refine inPackage _ _ emptyPackage {} (by decide) ?_ emptyPackage_outcome
    intro path member source found
    rw [emptySystem_read member] at found
    cases found
    rw [parse_empty]
    decide

end SliceGrowth
