import SliceGrowth.Build.FileName
import SliceGrowth.Proofs.Build.Grammar
import SliceGrowth.Proofs.Build.Tokens
import SliceGrowth.Proofs.SlashPath

/-!
Constraints in names of files beside the build lines they stand for. A system in a name counts as it does in a
build line. An architecture in a name has to be the one that the build is for, while a build line takes it for
satisfied also if it is one of the tags.
-/
namespace SliceGrowth

namespace Build

open Constraint

theorem tokens_tag {name : String} (tag : IsTag name) : tokens name.toList = .ok [.tag name] := by
  have cut : tokens (name.toList ++ []) = _ := tokens_tag_append tag (by simp)
  rwa [List.append_nil, tokens_nil] at cut

theorem tokens_both {left right : String} (leftTag : IsTag left) (rightTag : IsTag right) :
    tokens (left ++ " && " ++ right).toList = .ok [.tag left, .both, .tag right] := by
  have chars : (left ++ " && " ++ right).toList = left.toList ++ ' ' :: '&' :: '&' :: ' ' :: right.toList := by simp
  have stop : ∀ c ∈ (' ' :: '&' :: '&' :: ' ' :: right.toList).head?, isTagChar c = false := by
    intro c first
    rw [← Option.some.inj first]
    decide
  have sign : tokens ('&' :: '&' :: ' ' :: right.toList) = do return .both :: (← tokens (' ' :: right.toList)) :=
    @tokens_token .both _ trivial trivial
  rw [chars, tokens_tag_append leftTag stop, tokens_blank rfl, sign, tokens_blank rfl, tokens_tag rightTag]
  rfl

theorem evaluate_tag (context : Context) {name : String} (tag : IsTag name) :
    evaluate name context = .ok (context.satisfies name) := by
  have value := evaluate_of_tree (t := .or (.and (.operand (.tag name)) .andEnd) .orEnd) context (tokens_tag tag)
  simpa [Tree.value] using value

theorem evaluate_both (context : Context) {left right : String} (leftTag : IsTag left) (rightTag : IsTag right) :
    evaluate (left ++ " && " ++ right) context = .ok (context.satisfies left && context.satisfies right) := by
  have value := evaluate_of_tree
    (t := .or (.and (.operand (.tag left)) (.andMore (.operand (.tag right)) .andEnd)) .orEnd) context
    (tokens_both leftTag rightTag)
  simpa [Tree.value] using value

theorem isTag_of_system {system : String} (known : system ∈ knownSystems) : IsTag system := by
  revert system
  decide +kernel

theorem isTag_of_architecture {architecture : String} (known : architecture ∈ knownArchitectures) :
    IsTag architecture := by
  revert architecture
  decide +kernel

/-- The context satisfies the tag of an architecture that it is not for. -/
def Context.AlsoSatisfies (context : Context) (architecture : String) : Prop :=
  architecture ≠ context.architecture ∧ (architecture ∈ context.tags ∨ architecture = context.system)

theorem impliedSystem?_known {system implied : String} (found : impliedSystem? system = some implied) :
    implied ∈ knownSystems := by
  unfold impliedSystem? at found
  split at found
  all_goals
    cases found
    try decide

/-- No architecture has a meaning as another kind of tag. -/
theorem architecture_apart {architecture : String} (known : architecture ∈ knownArchitectures) :
    architecture ∉ knownSystems ∧ architecture ≠ "unix" ∧ isReleaseTag architecture = false := by
  revert architecture
  decide +kernel

theorem satisfies_architecture (context : Context) {architecture : String}
    (known : architecture ∈ knownArchitectures) : context.satisfies architecture = true ↔
      architecture = context.architecture ∨ context.AlsoSatisfies architecture := by
  obtain ⟨noSystem, notUnix, noRelease⟩ := architecture_apart known
  have notImplied : impliedSystem? context.system ≠ some architecture :=
    fun found => noSystem (impliedSystem?_known found)
  simp only [Context.satisfies, Context.AlsoSatisfies, notUnix, noRelease, notImplied, Bool.or_eq_true,
    List.contains_iff_mem, beq_iff_eq, Bool.false_eq_true, ↓reduceIte, or_false]
  by_cases own : architecture = context.architecture
  · simp [own]
  · simp [own]

section Names

variable {base system architecture mark : String}

/-- The mark of a test at the end of a stem would be its last part. -/
theorem dropEnding_test {stem : String} (last : (Text.splitAt '_' stem).getLast? ≠ some "test") :
    Text.dropEnding "_test" stem = stem := by
  have other : Text.endsWith "_test" stem = false := by
    rw [← Bool.not_eq_true]
    intro ends
    obtain ⟨front, chars⟩ := List.isSuffixOf_iff_suffix.mp ends
    have parts := Text.splitAt_append '_' (String.ofList front) "test"
    have whole : String.ofList front ++ String.singleton '_' ++ "test" = stem := by
      rw [← String.toList_inj, ← chars]
      simp
    rw [whole] at parts
    exact last (by rw [parts, List.getLast?_append]; rfl)
  rw [Text.dropEnding, other]
  rfl

theorem plain_of_known {tag : String} (known : tag ∈ knownSystems ++ knownArchitectures) :
    '_' ∉ tag.toList ∧ tag ≠ "test" := by
  revert tag
  decide +kernel

theorem nameTags_intercalate {tags : List String} (plain : '_' ∉ base.toList) (nonempty : tags ≠ [])
    (known : ∀ tag ∈ tags, tag ∈ knownSystems ++ knownArchitectures) (test : mark = "" ∨ mark = "_test") :
    nameTags ("_".intercalate (base :: tags) ++ mark ++ ".go") = tags := by
  have parts : Text.splitAt '_' ("_".intercalate (base :: tags)) = base :: tags := by
    refine @Text.splitAt_intercalate '_' (base :: tags) (by simp) fun part member => ?_
    rcases List.mem_cons.mp member with rfl | member
    · exact plain
    · exact (plain_of_known (known part member)).1
  have last : (Text.splitAt '_' ("_".intercalate (base :: tags))).getLast? ≠ some "test" := by
    intro ends
    rw [parts, List.getLast?_cons, Option.some_inj, List.getLast?_eq_some_getLast nonempty] at ends
    exact (plain_of_known (known _ (List.getLast_mem nonempty))).2 ends
  have stem : Text.dropEnding "_test" ("_".intercalate (base :: tags) ++ mark) = "_".intercalate (base :: tags) := by
    rcases test with rfl | rfl
    · rw [String.append_empty, dropEnding_test last]
    · rw [Text.dropEnding_append]
  rw [nameTags, Text.dropEnding_append, stem, parts]
  rfl

theorem nameTags_one {tag : String} (plain : '_' ∉ base.toList)
    (known : tag ∈ knownSystems ++ knownArchitectures) (test : mark = "" ∨ mark = "_test") :
    nameTags (base ++ "_" ++ tag ++ mark ++ ".go") = [tag] := by
  have joined := nameTags_intercalate plain (List.cons_ne_nil tag []) (List.forall_mem_singleton.mpr known) test
  rwa [String.intercalate_cons_cons, String.intercalate_singleton] at joined

variable (context : Context)

theorem matchesFileName_system (plain : '_' ∉ base.toList) (known : system ∈ knownSystems)
    (test : mark = "" ∨ mark = "_test") :
    context.matchesFileName (base ++ "_" ++ system ++ mark ++ ".go") = context.satisfies system := by
  have unnamed : "" ∉ knownSystems := by decide
  rw [Context.matchesFileName, nameTags_one plain (List.mem_append_left _ known) test]
  simp [Context.matchesTags, unnamed, known]

theorem matchesFileName_architecture (plain : '_' ∉ base.toList) (known : architecture ∈ knownArchitectures)
    (test : mark = "" ∨ mark = "_test") :
    context.matchesFileName (base ++ "_" ++ architecture ++ mark ++ ".go") =
      (context.architecture == architecture) := by
  have unnamed : "" ∉ knownSystems := by decide
  rw [Context.matchesFileName, nameTags_one plain (List.mem_append_right _ known) test]
  simp [Context.matchesTags, unnamed, known, (architecture_apart known).1]

theorem matchesFileName_both (plain : '_' ∉ base.toList) (systemKnown : system ∈ knownSystems)
    (architectureKnown : architecture ∈ knownArchitectures) (test : mark = "" ∨ mark = "_test") :
    context.matchesFileName (base ++ "_" ++ system ++ "_" ++ architecture ++ mark ++ ".go") =
      (context.satisfies system && context.architecture == architecture) := by
  have tags : nameTags (base ++ "_" ++ system ++ "_" ++ architecture ++ mark ++ ".go") = [system, architecture] := by
    have joined := nameTags_intercalate plain (List.cons_ne_nil system [architecture])
      (by simp [systemKnown, architectureKnown]) test
    rwa [String.intercalate_cons_cons, String.intercalate_cons_cons, String.intercalate_singleton,
      ← String.append_assoc, ← String.append_assoc] at joined
  rw [Context.matchesFileName, tags]
  simp [Context.matchesTags, systemKnown, architectureKnown]

end Names

/-- Names and build lines agree on systems. They agree on an architecture exactly if the context does not satisfy
its tag without being for it; then the build line is true and the name does not match. -/
theorem matchesFileName_agrees_build_line (context : Context) (base system architecture mark : String)
    (plain : '_' ∉ base.toList) (systemKnown : system ∈ knownSystems)
    (architectureKnown : architecture ∈ knownArchitectures) (test : mark = "" ∨ mark = "_test") :
    let named := context.matchesFileName
    let ofSystem := base ++ "_" ++ system ++ mark ++ ".go"
    let ofArchitecture := base ++ "_" ++ architecture ++ mark ++ ".go"
    let ofBoth := base ++ "_" ++ system ++ "_" ++ architecture ++ mark ++ ".go"
    evaluate system context = .ok (named ofSystem) ∧
    (¬ context.AlsoSatisfies architecture →
      evaluate architecture context = .ok (named ofArchitecture) ∧
      evaluate (system ++ " && " ++ architecture) context = .ok (named ofBoth)) ∧
    (context.AlsoSatisfies architecture →
      evaluate architecture context = .ok true ∧ named ofArchitecture = false ∧
      evaluate (system ++ " && " ++ architecture) context = .ok (named ofSystem) ∧ named ofBoth = false) := by
  intro named ofSystem ofArchitecture ofBoth
  have line := evaluate_tag context (isTag_of_architecture architectureKnown)
  have both := evaluate_both context (isTag_of_system systemKnown) (isTag_of_architecture architectureKnown)
  have satisfied := satisfies_architecture context architectureKnown
  have systemName : named ofSystem = context.satisfies system :=
    matchesFileName_system context plain systemKnown test
  have name : named ofArchitecture = (context.architecture == architecture) :=
    matchesFileName_architecture context plain architectureKnown test
  have bothName : named ofBoth = (context.satisfies system && context.architecture == architecture) :=
    matchesFileName_both context plain systemKnown architectureKnown test
  refine ⟨?_, fun only => ?_, fun also => ?_⟩
  · rw [systemName, evaluate_tag context (isTag_of_system systemKnown)]
  · have same : context.satisfies architecture = (context.architecture == architecture) := by
      rw [Bool.eq_iff_iff, satisfied, beq_iff_eq, eq_comm]
      exact or_iff_left only
    rw [line, both, name, bothName, same]
    exact ⟨rfl, rfl⟩
  · have other : (context.architecture == architecture) = false := beq_eq_false_iff_ne.mpr also.1.symm
    rw [line, both, name, bothName, systemName, satisfied.mpr (.inr also), other, Bool.and_true, Bool.and_false]
    exact ⟨rfl, rfl, rfl, rfl⟩

def taggedArm : Context := { system := "linux", architecture := "arm64", tags := ["amd64"] }

theorem matchesFileName_agrees_build_line_taggedArm :
    '_' ∉ "store".toList ∧ "linux" ∈ knownSystems ∧ "arm64" ∈ knownArchitectures ∧
      ¬ taggedArm.AlsoSatisfies "arm64" ∧
      evaluate "arm64" taggedArm = .ok (taggedArm.matchesFileName "store_arm64_test.go") ∧
      evaluate "linux && arm64" taggedArm = .ok (taggedArm.matchesFileName "store_linux_arm64_test.go") := by
  have only : ¬ taggedArm.AlsoSatisfies "arm64" := fun also => also.1 rfl
  have agrees := matchesFileName_agrees_build_line taggedArm "store" "linux" "arm64" "_test" (by decide) (by decide)
    (by decide) (.inr rfl)
  exact ⟨by decide, by decide, by decide, only, agrees.2.1 only⟩

/-- A build line and the name of a file disagree about an architecture that is a tag of the context. -/
theorem build_line_takes_tagged_architecture :
    '_' ∉ "store".toList ∧ "amd64" ∈ knownArchitectures ∧
      evaluate "amd64" taggedArm = .ok true ∧ taggedArm.matchesFileName "store_amd64.go" = false := by
  refine ⟨by decide, by decide, ?_, by decide⟩
  rw [evaluate_tag taggedArm (by decide)]
  exact congrArg _ (by decide)

end Build

end SliceGrowth
