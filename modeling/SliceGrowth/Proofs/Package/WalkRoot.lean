import SliceGrowth.Proofs.Package.Unselected

/-!
Where a walk starts. The text before the dots of a pattern for a walk is read as a path, and slashes at its end do not
count, so the walk goes through the directory that the text denotes and all it finds is there or below. A text of
slashes alone is the exception: it denotes the root, but the walk goes through the working directory.
-/
namespace SliceGrowth

namespace SlashPath

def IsAbsolute (p : SlashPath) : Prop := p.anchor ≠ .relative

instance (p : SlashPath) : Decidable p.IsAbsolute := inferInstanceAs (Decidable (p.anchor ≠ .relative))

theorem not_isAbsolute_here : ¬ here.IsAbsolute := by decide

@[simp] theorem isAbsolute_descend (p : SlashPath) (names : List String) :
    (p.descend names).IsAbsolute ↔ p.IsAbsolute := Iff.rfl

theorem isAbsolute_ofString_iff (s : String) : (ofString s).IsAbsolute ↔ s.toList.head? = some '/' := by
  rw [IsAbsolute, ofString_eq]
  cases chars : s.toList with
  | nil => simp [leadingSlashes, Anchor.ofSlashes]
  | cons c cs =>
    by_cases slash : c = '/'
    · rw [slash, leadingSlashes_slash_cons]
      refine iff_of_true ?_ rfl
      unfold Anchor.ofSlashes
      split <;> simp_all
    · simp [leadingSlashes, Anchor.ofSlashes, slash]

/-- A slash more at the end of a text does not count if something else stands before it. -/
theorem ofString_append_slash {s : String} (other : ∃ c ∈ s.toList, c ≠ '/') : ofString (s ++ "/") = ofString s := by
  have slash : ∀ c ∈ "/".toList, c = '/' := by simp
  rw [ofString_eq, ofString_eq s, String.toList_append, leadingSlashes_append other, partsOf_append_slashes _ slash]

end SlashPath

namespace Package

open FileSystem SlashPath

section Root

variable {fs : FileSystem} {base : SlashPath} {excluded : List String} {context : Build.Context}

/-- A walk from a place: its packages, or what is told if it is no directory. -/
def walkFrom (fs : FileSystem) (base : SlashPath) (excluded : List String) (context : Build.Context) :
    Run (List Package) :=
  match fs.get base with
  | .ok (.folder entries) => walk excluded context base.text base (.folder entries)
  | _ => return [failed base.name base (.noDirectory base)]

theorem resolve_eq_walkFrom {pattern : String} (named : walkBase? pattern = some base) :
    resolve fs pattern excluded context = walkFrom fs base excluded context := by
  simp only [resolve, named]
  rfl

theorem Reaches.visible {entries reached : List (String × FileTree)} {names : List String}
    (reaches : Reaches excluded entries names reached) : ∀ name ∈ names, Visible excluded name := by
  induction reaches with
  | here => simp
  | into _ visible _ ih => exact List.forall_mem_cons.mpr ⟨visible, ih⟩

/-- The directory of a package is `base` or below it, by names that a walk goes on to. -/
def IsBelow (excluded : List String) (base : SlashPath) (p : Package) : Prop :=
  ∃ names, p.directory = base.descend names ∧ ∀ name ∈ names, Visible excluded name

/-- A walk always returns, and what it returns is below the place where it starts. -/
theorem resolve_below {pattern : String} (named : walkBase? pattern = some base) :
    ∃ packages, (resolve fs pattern excluded context).outcome = .ok packages ∧
      ∀ p ∈ packages, IsBelow excluded base p := by
  by_cases present : fs.IsFolder base
  · obtain ⟨entries, found⟩ := present
    refine ⟨_, (resolve_walk_returns excluded context named found).outcome, fun p member => ?_⟩
    obtain ⟨v, met, rfl⟩ := List.mem_map.mp member
    exact ⟨v.names, built_directory, (mem_packageVisits_iff.mp met).1.visible⟩
  · refine ⟨_, (resolve_noDirectory named (not_exists.mp present)).outcome, fun p member => ?_⟩
    rw [List.mem_singleton.mp member]
    exact ⟨[], (descend_nil base).symm, nofun⟩

theorem walkedDirectory_of_slashes {dir : String} (slashes : IsSlashes (dir ++ "/")) : walkedDirectory dir = .here := by
  refine if_pos (List.all_eq_true.mpr fun c member => beq_iff_eq.mpr (slashes.2 c ?_))
  rw [String.toList_append]
  exact List.mem_append_left _ member

theorem walkedDirectory_of_other {dir : String} (other : ¬ IsSlashes (dir ++ "/")) :
    walkedDirectory dir = .ofString (dir ++ "/") := by
  have letter : ∃ c ∈ dir.toList, c ≠ '/' := by
    by_contra none
    refine other ⟨by simp, fun c member => ?_⟩
    rw [String.toList_append] at member
    rcases List.mem_append.mp member with inside | last
    · by_contra apart
      exact none ⟨c, inside, apart⟩
    · simpa using last
  rw [ofString_append_slash letter, walkedDirectory, if_neg (by simpa using letter)]

theorem isAbsolute_of_slashes {s : String} (slashes : IsSlashes s) : (SlashPath.ofString s).IsAbsolute := by
  rw [isAbsolute_ofString_iff]
  have some : s.toList ≠ [] := fun none => slashes.1 (String.toList_eq_nil_iff.mp none)
  obtain ⟨c, cs, chars⟩ := List.exists_cons_of_ne_nil some
  rw [chars, List.head?_cons, slashes.2 c (by simp [chars])]

theorem walkedDirectory_eq_iff (dir : String) :
    walkedDirectory dir = .ofString (dir ++ "/") ↔ ¬ IsSlashes (dir ++ "/") := by
  refine ⟨fun same slashes => ?_, walkedDirectory_of_other⟩
  have absolute := isAbsolute_of_slashes slashes
  rw [← same, walkedDirectory_of_slashes slashes] at absolute
  exact not_isAbsolute_here absolute

theorem isAbsolute_pattern (dir : String) :
    (SlashPath.ofString (dir ++ "/...")).IsAbsolute ↔ (SlashPath.ofString (dir ++ "/")).IsAbsolute := by
  rw [isAbsolute_ofString_iff, isAbsolute_ofString_iff, String.toList_append, String.toList_append]
  cases dir.toList <;> simp

end Root

/-- A pattern for a walk goes through the directory that the text before its dots denotes, and finds packages only there
and below, unless the text is of slashes alone. Then it goes through the working directory. -/
theorem resolve_walks_denoted_directory (fs : FileSystem) (dir : String) (excluded : List String)
    (context : Build.Context) :
    ∃ root packages, resolve fs (dir ++ "/...") excluded context = walkFrom fs root excluded context ∧
      (resolve fs (dir ++ "/...") excluded context).outcome = .ok packages ∧
      (root = .ofString (dir ++ "/") ↔ ¬ IsSlashes (dir ++ "/")) ∧ (IsSlashes (dir ++ "/") → root = .here) ∧
      ∀ p ∈ packages, IsBelow excluded root p ∧
        (p.directory.IsAbsolute ↔ (SlashPath.ofString (dir ++ "/...")).IsAbsolute ∧ ¬ IsSlashes (dir ++ "/")) := by
  have named := walkBase?_eq_walkedDirectory dir
  obtain ⟨packages, resolved, below⟩ := @resolve_below fs _ excluded context _ named
  refine ⟨_, packages, resolve_eq_walkFrom named, resolved, ?_, walkedDirectory_of_slashes, fun p member => ?_⟩
  · exact walkedDirectory_eq_iff dir
  · refine ⟨below p member, ?_⟩
    obtain ⟨names, place, -⟩ := below p member
    rw [place, isAbsolute_descend, isAbsolute_pattern]
    by_cases slashes : IsSlashes (dir ++ "/")
    · rw [walkedDirectory_of_slashes slashes]
      exact iff_of_false not_isAbsolute_here fun both => both.2 slashes
    · rw [walkedDirectory_of_other slashes]
      exact ⟨fun absolute => ⟨absolute, slashes⟩, And.left⟩

/-- One empty source file, in the working directory. -/
def singleSystem : FileSystem where
  root := .folder [("w", .folder [("a.go", .file .empty)])]
  workingDirectory := ["w"]

theorem singleSystem_holdsPackage : HoldsPackage linux [("a.go", .file .empty)] := by
  have takes : Takes linux "a.go" .empty := by
    refine ⟨rfl, ?_⟩
    rw [headerOf_empty]
    exact nofun
  refine ⟨⟨"a.go", .empty, List.mem_singleton_self _, by decide⟩, fun all => ?_⟩
  exact takes.not_leavesOut (all "a.go" .empty (List.mem_singleton_self _) (by decide))

/-- A pattern of slashes and dots is absolute, and what it finds is not. -/
theorem slashes_find_relative_directories :
    (SlashPath.ofString "/...").IsAbsolute ∧ SlashPath.ofString "/" = ⟨.root, []⟩ ∧
      ∃ packages, (resolve singleSystem "/..." defaultExcluded linux).outcome = .ok packages ∧
        ∃ p ∈ packages, p.directory = .here ∧ ¬ p.directory.IsAbsolute := by
  have named : walkBase? "/..." = some .here := rfl
  have found : singleSystem.get .here = .ok (.folder [("a.go", .file .empty)]) := rfl
  refine ⟨by decide, by decide, _, (resolve_walk_returns defaultExcluded linux named found).outcome, ?_⟩
  have met : (⟨[], [("a.go", .file .empty)]⟩ : Visit) ∈ packageVisits defaultExcluded linux [("a.go", .file .empty)] :=
    mem_packageVisits_iff.mpr ⟨.here _, singleSystem_holdsPackage⟩
  have place : (walkPackage linux .here ⟨[], [("a.go", .file .empty)]⟩).directory = .here := built_directory
  exact ⟨_, List.mem_map_of_mem met, place, by rw [place]; decide⟩

end Package

end SliceGrowth
