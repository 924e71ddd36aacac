import SliceGrowth.Proofs.Analysis.Findings

/-!
How callees are judged by their beginnings. A callee that grows may shrink once it is longer, because a shrink
name can be longer than the grow name that it begins with. This is ruled out by a condition on the names alone. The
layout of a callee does not count.
-/
namespace SliceGrowth.Analysis

open Syntax

/-- A callee that has a kind keeps it, however the callee goes on. -/
def Operations.IsStable (operations : Operations) : Prop :=
  ∀ callee suffix, operations.classify callee ≠ .unknown →
    operations.classify (callee ++ suffix) = operations.classify callee

/-- A grow name that is the beginning of a shrink name begins with a shrink name itself. -/
def Operations.IsShadowed (operations : Operations) : Prop :=
  ∀ grown ∈ operations.grow, (∃ shrunk ∈ operations.shrink, grown.toList <+: shrunk.toList) →
    ∃ shrunk ∈ operations.shrink, shrunk.toList <+: grown.toList

instance : DecidablePred Operations.IsShadowed := fun _ => inferInstanceAs (Decidable (∀ _ ∈ _, _ → _))

theorem BeginsWithAny.append {names : List String} {text : List Char} (begins : BeginsWithAny names text)
    (more : List Char) : BeginsWithAny names (text ++ more) := by
  obtain ⟨name, member, begins⟩ := begins
  exact ⟨name, member, begins.trans (List.prefix_append text more)⟩

/-- A name that fits only once a text goes on is longer than the text. -/
theorem exists_longer_name {names : List String} {text more : List Char} (begins : BeginsWithAny names (text ++ more))
    (before : ¬ BeginsWithAny names text) : ∃ name ∈ names, text <+: name.toList := by
  obtain ⟨name, member, begins⟩ := begins
  rcases List.prefix_or_prefix_of_prefix begins (List.prefix_append text more) with shorter | longer
  · exact absurd ⟨name, member, shorter⟩ before
  · exact ⟨name, member, longer⟩

namespace Operations

variable {operations : Operations}

theorem Shrinks.append {callee : List Char} (shrinks : operations.Shrinks callee) (suffix : List Char) :
    operations.Shrinks (callee ++ suffix) :=
  BeginsWithAny.append shrinks suffix

theorem IsShadowed.append_grows (shadowed : operations.IsShadowed) {callee : List Char}
    (grows : operations.Grows callee) (suffix : List Char) : operations.Grows (callee ++ suffix) := by
  obtain ⟨⟨grown, member, begins⟩, notShrunk⟩ := grows
  have stillGrown : BeginsWithAny operations.grow (callee ++ suffix) :=
    BeginsWithAny.append ⟨grown, member, begins⟩ suffix
  refine ⟨stillGrown, fun overtaken => notShrunk ?_⟩
  -- A shrink name that overtakes the callee has the grow name as its beginning, so another shrink name begins the
  -- grow name, and with it the callee.
  obtain ⟨shrunk, shrinkMember, longer⟩ := exists_longer_name overtaken notShrunk
  obtain ⟨shadow, shadowMember, shadows⟩ := shadowed grown member ⟨shrunk, shrinkMember, begins.trans longer⟩
  exact ⟨shadow, shadowMember, shadows.trans begins⟩

theorem IsShadowed.isStable (shadowed : operations.IsShadowed) : operations.IsStable := by
  intro callee suffix known
  cases kind : operations.classify callee with
  | unknown => exact absurd kind known
  | shrink =>
    rw [classify_eq_shrink_iff] at kind ⊢
    rw [String.toList_append]
    exact kind.append suffix.toList
  | grow =>
    rw [classify_eq_grow_iff] at kind ⊢
    rw [String.toList_append]
    exact shadowed.append_grows kind suffix.toList

theorem IsStable.isShadowed (stable : operations.IsStable) : operations.IsShadowed := by
  intro grown member goesOn
  obtain ⟨shrunk, shrinkMember, suffix, whole⟩ := goesOn
  by_contra unshadowed
  have grows : operations.classify grown = .grow := by
    rw [classify_eq_grow_iff]
    exact ⟨⟨grown, member, List.prefix_rfl⟩, unshadowed⟩
  have shrinks : operations.classify (grown ++ String.ofList suffix) = .shrink := by
    rw [classify_eq_shrink_iff, String.toList_append, String.toList_ofList, whole]
    exact ⟨shrunk, shrinkMember, List.prefix_rfl⟩
  have kept := stable grown (String.ofList suffix) (by simp [grows])
  rw [grows, shrinks] at kept
  cases kept

end Operations

/-- Names judge longer callees like shorter ones exactly if no grow name is overtaken, and the usual names do. -/
theorem classify_stable_iff :
    (∀ operations : Operations, operations.IsStable ↔ operations.IsShadowed) ∧ ({} : Operations).IsStable := by
  constructor
  · intro operations
    exact ⟨Operations.IsStable.isShadowed, Operations.IsShadowed.isStable⟩
  · have shadowed : ({} : Operations).IsShadowed := by decide
    exact shadowed.isStable

theorem classifyValue_of_call {f : SourceFile} {operations : Operations} {call callee : Node}
    (isCall : call.kind = "call_expression") (called : call.child? "function" = some callee) :
    classifyValue f operations call = operations.classify (f.compactText callee) := by
  simp [classifyValue, isCall, called]

theorem compactText_eq_iff {f g : SourceFile} {n m : Node} :
    f.compactText n = g.compactText m ↔ Text.DifferInBlanks (f.text n) (g.text m) :=
  Text.compact_eq_iff

/-- A callee is judged by its text without the blanks. So calls are judged alike, in whatever files they are, if blanks
    are all that tells their callees apart. -/
theorem callee_layout_ignored :
    (∀ (f : SourceFile) (n : Node),
      (f.compactText n).toList = (f.text n).toList.filter fun c => !Text.isBlank c) ∧
    (∀ (f g : SourceFile) (n m : Node),
      f.compactText n = g.compactText m ↔ Text.DifferInBlanks (f.text n) (g.text m)) ∧
    ∀ (operations : Operations) (f g : SourceFile) (call other callee otherCallee : Node),
      call.kind = "call_expression" → other.kind = "call_expression" →
      call.child? "function" = some callee → other.child? "function" = some otherCallee →
      Text.DifferInBlanks (f.text callee) (g.text otherCallee) →
      classifyValue f operations call = classifyValue g operations other := by
  refine ⟨compactText_toList, fun _ _ _ _ => compactText_eq_iff, ?_⟩
  intro operations f g call other callee otherCallee isCall otherIsCall called otherCalled differ
  have same : f.compactText callee = g.compactText otherCallee := compactText_eq_iff.mpr differ
  rw [classifyValue_of_call isCall called, classifyValue_of_call otherIsCall otherCalled, same]

def calleeTo (stop : Nat) : Node := (onLine "selector_expression" 0 stop []).inRole "function"

/-- A file that begins with a call, whose callee reaches up to the given byte. -/
def callFile (source : String) (stop : Nat) : SourceFile where
  path := .ofString "call.go"
  source := source.toUTF8
  root := onLine "call_expression" 0 stop [calleeTo stop]

def plainCall : SourceFile := callFile "slices.Delete()" 13

/-- Here the callee goes on beyond the end of the file. -/
def spacedCall : SourceFile := callFile "slices\u00a0.\n\tDelete" 40

set_option maxRecDepth 2000 in
theorem callee_layout_ignored_spaced :
    plainCall.text (calleeTo 13) = "slices.Delete" ∧ spacedCall.text (calleeTo 40) = "slices\u00a0.\n\tDelete" ∧
      classifyValue plainCall {} plainCall.root = .shrink ∧ classifyValue spacedCall {} spacedCall.root = .shrink := by
  have plainText : plainCall.text (calleeTo 13) = "slices.Delete" := rfl
  have spacedText : spacedCall.text (calleeTo 40) = "slices\u00a0.\n\tDelete" := rfl
  have differ : Text.DifferInBlanks (spacedCall.text (calleeTo 40)) (plainCall.text (calleeTo 13)) := by
    rw [plainText, spacedText]
    exact Text.compact_eq_iff.mp (by decide +kernel)
  have same := callee_layout_ignored.2.2 {} spacedCall plainCall spacedCall.root plainCall.root (calleeTo 40)
    (calleeTo 13) rfl rfl rfl rfl differ
  have shrinks : classifyValue plainCall {} plainCall.root = .shrink := rfl
  exact ⟨plainText, spacedText, shrinks, same.trans shrinks⟩

end SliceGrowth.Analysis
