import SliceGrowth.Proofs.Package.Loading

/-!
What resolving a pattern does not depend on: the contents of files that no build selects by name, and for a walk all
that is in folders which it leaves out. A walk still asks for its directory by the path it is given, and that path
may lead through such a folder and back.
-/
namespace SliceGrowth

namespace FileSystem

open FileTree

def IsFolder (fs : FileSystem) (path : SlashPath) : Prop := ∃ entries, fs.get path = .ok (.folder entries)

/-- File systems with the same working directory that differ at most in free files and hidden folders. -/
structure AlikeBut (free hidden : List String → Prop) (fs other : FileSystem) : Prop where
  root : FileTree.AlikeBut free hidden [] fs.root other.root
  workingDirectory : other.workingDirectory = fs.workingDirectory

/-- Where nothing is hidden, a path leads to alike trees. -/
theorem get_alike {free : List String → Prop} {fs other : FileSystem} {path : SlashPath} {tree : FileTree}
    (proper : fs.root.Proper) (same : AlikeBut free (fun _ => False) fs other) (found : fs.get path = .ok tree) :
    ∃ tree' names, other.get path = .ok tree' ∧ FileTree.AlikeBut free (fun _ => False) names tree tree' := by
  have goesOn : GoesOn fun t t' => t.Proper ∧ ∃ names, FileTree.AlikeBut free (fun _ => False) names t t' := by
    constructor
    · rintro entries _ ⟨-, names, alike⟩
      exact alike.eq_folder
    · rintro entries entries' name tree ⟨inside, names, alike⟩ below
      obtain ⟨tree', below', inner⟩ := alike.named? inside (fun hidden => hidden) below
      exact ⟨tree', below', inside.inner _ (mem_of_named? below), _, inner⟩
  obtain ⟨tree', found', -, names, alike⟩ :=
    get_related goesOn same.workingDirectory ⟨proper, [], same.root⟩ found
  exact ⟨tree', names, found', alike⟩

/-- Where a path leads to a tree in both of two file systems, these are alike unless it is inside a hidden folder. -/
theorem get_alike_of_both {free hidden : List String → Prop} {fs other : FileSystem} {path : SlashPath}
    {tree tree' : FileTree} (proper : fs.Proper) (same : AlikeBut free hidden fs other)
    (found : fs.get path = .ok tree) (found' : other.get path = .ok tree')
    (shown : ∀ front back, fs.names path = front ++ back → back ≠ [] → ¬ hidden front) :
    FileTree.AlikeBut free hidden (fs.names path) tree tree' := by
  have plain : ∀ name ∈ fs.workingDirectory, name ≠ ".." := fun name member =>
    (proper.workingDirectory name member).notUp
  have names : other.names path = fs.names path := by
    unfold FileSystem.names
    rw [same.workingDirectory]
  obtain ⟨trail, led⟩ := get_trail plain found
  obtain ⟨trail', led'⟩ := get_trail (same.workingDirectory ▸ plain) found'
  rw [names] at led'
  exact led.alikeBut proper.root same.root led' shown

end FileSystem

namespace Package

open FileSystem

variable {fs other : FileSystem} {pattern : String} {context : Build.Context} {excluded : List String}

theorem resolve_directory_alike {entries : List (String × FileTree)} (excluded : List String)
    (proper : fs.root.Proper) (named : walkBase? pattern = none)
    (found : fs.get (.ofString pattern) = .ok (.folder entries))
    (same : AlikeBut (Unselected context) (fun _ => False) fs other) :
    resolve other pattern excluded context = resolve fs pattern excluded context := by
  obtain ⟨tree', names, found', alike⟩ := get_alike proper same found
  obtain ⟨entries', rfl⟩ := alike.eq_folder
  have judged := ofFolder_alike (.ofString pattern) (get_proper proper found) (fun hidden => hidden) alike
  simp only [resolve, named, resolvePath, found, found', judged.1]

theorem resolve_walk_alike {base : SlashPath} {entries entries' : List (String × FileTree)} (proper : fs.Proper)
    (named : walkBase? pattern = some base) (found : fs.get base = .ok (.folder entries))
    (found' : other.get base = .ok (.folder entries'))
    (same : AlikeBut (Unselected context) (HiddenBelow excluded (fs.names base)) fs other) :
    resolve other pattern excluded context = resolve fs pattern excluded context := by
  have alike := get_alike_of_both proper same found found' fun front back split rest => by
    apply not_hiddenBelow_of_le
    rw [split, List.length_append]
    omega
  have here : ¬ HiddenBelow excluded (fs.names base) (fs.names base) := not_hiddenBelow_of_le (Nat.le_refl _)
  have walks := walk_alike (get_proper proper.root found) here alike base.text base
  rw [resolve_eq_walk excluded context named found, resolve_eq_walk excluded context named found', walks]

theorem walkPackage_noDirectory {base path : SlashPath} {v : Visit} :
    Problem.noDirectory path ∉ (walkPackage context base v).problems := by
  intro member
  rcases built_problem_cases member with about | ⟨found, same⟩
  · cases about
  · cases same

/-- A walk from a directory never gives what is told of a missing one. -/
theorem resolve_walk_ne {base : SlashPath} {entries : List (String × FileTree)}
    (named : walkBase? pattern = some base) (found : fs.get base = .ok (.folder entries))
    (missing : ¬ other.IsFolder base) :
    (resolve other pattern excluded context).outcome ≠ (resolve fs pattern excluded context).outcome := by
  intro same
  rw [(resolve_noDirectory named (not_exists.mp missing)).outcome,
    (resolve_walk_returns excluded context named found).outcome] at same
  have listed : failed base.name base (.noDirectory base) ∈
      (packageVisits excluded context entries).map (walkPackage context base) := by
    rw [← Except.ok.inj same]
    exact List.mem_singleton_self _
  obtain ⟨v, -, package⟩ := List.mem_map.mp listed
  apply walkPackage_noDirectory (v := v)
  rw [package]
  exact List.mem_singleton_self _

theorem resolve_walk_same_iff {base : SlashPath} (proper : fs.Proper) (named : walkBase? pattern = some base)
    (same : AlikeBut (Unselected context) (HiddenBelow excluded (fs.names base)) fs other) :
    (resolve other pattern excluded context).outcome = (resolve fs pattern excluded context).outcome ↔
      (fs.IsFolder base ↔ other.IsFolder base) := by
  by_cases here : fs.IsFolder base
  · obtain ⟨entries, found⟩ := here
    by_cases there : other.IsFolder base
    · obtain ⟨entries', found'⟩ := there
      rw [resolve_walk_alike proper named found found' same]
      exact ⟨fun _ => ⟨fun _ => ⟨entries', found'⟩, fun _ => ⟨entries, found⟩⟩, fun _ => rfl⟩
    · exact ⟨fun equal => absurd equal (resolve_walk_ne named found there),
        fun both => absurd (both.mp ⟨entries, found⟩) there⟩
  · by_cases there : other.IsFolder base
    · obtain ⟨entries', found'⟩ := there
      exact ⟨fun equal => absurd equal.symm (resolve_walk_ne named found' here),
        fun both => absurd (both.mpr ⟨entries', found'⟩) here⟩
    · rw [(resolve_noDirectory named (not_exists.mp here)).outcome,
        (resolve_noDirectory named (not_exists.mp there)).outcome]
      exact ⟨fun _ => ⟨fun is => absurd is here, fun is => absurd is there⟩, fun _ => rfl⟩

/-- The directory that a walk asked for by `dir/...` goes through: slashes alone mean the working directory. -/
def walkedDirectory (dir : String) : SlashPath :=
  if dir.toList.all (· == '/') then .here else .ofString dir

theorem walkBase?_eq_walkedDirectory (dir : String) : walkBase? (dir ++ "/...") = some (walkedDirectory dir) := by
  rw [walkBase?_eq, walkedDirectory]
  split
  · rename_i slashes
    rw [List.rdropWhile_eq_nil_iff.mpr (List.all_eq_true.mp slashes)]
    rfl
  · rename_i other
    rw [SlashPath.ofString_rdropWhile (by simpa using other)]

/-- Resolving returns the same packages for file systems that differ only in files which the build does not select
by name, and for a walk in what is below folders that it leaves out. There the path to the directory must lead to
one in both or in neither. -/
theorem resolve_ignores_unselected (fs other : FileSystem) (excluded : List String) (context : Build.Context)
    (proper : fs.Proper) :
    (∀ pattern, walkBase? pattern = none → fs.IsFolder (.ofString pattern) →
      AlikeBut (Unselected context) (fun _ => False) fs other →
      ∃ packages, (resolve fs pattern excluded context).outcome = .ok packages ∧
        (resolve other pattern excluded context).outcome = .ok packages) ∧
    ∀ dir, AlikeBut (Unselected context) (HiddenBelow excluded (fs.names (walkedDirectory dir))) fs other →
      ∃ packages, (resolve fs (dir ++ "/...") excluded context).outcome = .ok packages ∧
        ((resolve other (dir ++ "/...") excluded context).outcome = .ok packages ↔
          (fs.IsFolder (walkedDirectory dir) ↔ other.IsFolder (walkedDirectory dir))) := by
  constructor
  · rintro pattern named ⟨entries, found⟩ same
    obtain ⟨packages, resolved, -⟩ := resolve_complete fs pattern excluded context proper.root
    refine ⟨packages, resolved, ?_⟩
    rw [resolve_directory_alike excluded proper.root named found same, resolved]
  · intro dir same
    obtain ⟨packages, resolved, -⟩ := resolve_complete fs (dir ++ "/...") excluded context proper.root
    refine ⟨packages, resolved, ?_⟩
    rw [← resolved]
    exact resolve_walk_same_iff proper (walkBase?_eq_walkedDirectory dir) same

/-- The workspace with another text in a file that is for another system, and with these entries in the directories
that a walk leaves out. -/
def changedWorkspace (git vendor : List (String × FileTree)) : FileSystem where
  root := .folder [("w", .folder [(".git", .folder git),
    ("sub", .folder [("b.go", .file "package b\n".toUTF8), ("a_windows.go", .file "//go:build (\n".toUTF8)]),
    ("main.go", .file "package main\n".toUTF8), ("vendor", .folder vendor)])]
  workingDirectory := ["w"]

def vendored : List (String × FileTree) := [("c.go", .file "package c\n".toUTF8)]

theorem workspaceSystem_eq : workspaceSystem = ⟨.folder [("w", .folder workspace)], ["w"]⟩ := rfl

theorem changedWorkspace_alike {hidden : List String → Prop} {git vendor : List (String × FileTree)}
    (inGit : FileTree.AlikeBut (Unselected linux) hidden ["w", ".git"] (.folder []) (.folder git))
    (inVendor : FileTree.AlikeBut (Unselected linux) hidden ["w", "vendor"] (.folder vendored) (.folder vendor)) :
    AlikeBut (Unselected linux) hidden workspaceSystem (changedWorkspace git vendor) := by
  have windows : Unselected linux ["w", "sub", "a_windows.go"] := ⟨"a_windows.go", rfl, .inr (by decide +kernel)⟩
  rw [workspaceSystem_eq]
  refine ⟨.of_forall₂ (.cons ⟨rfl, .of_forall₂ ?_⟩ .nil), rfl⟩
  refine .cons ⟨rfl, inGit⟩ (.cons ⟨rfl, .of_forall₂ ?_⟩ (.cons ⟨rfl, .file (.inl rfl)⟩ (.cons ⟨rfl, inVendor⟩ .nil)))
  exact .cons ⟨rfl, .file (.inl rfl)⟩ (.cons ⟨rfl, .file (.inr windows)⟩ .nil)

theorem resolve_ignores_unselected_workspace :
    workspaceSystem.Proper ∧
    (∃ packages, (resolve workspaceSystem "sub" defaultExcluded linux).outcome = .ok packages ∧
      (resolve (changedWorkspace [] vendored) "sub" defaultExcluded linux).outcome = .ok packages) ∧
    ∃ packages, (resolve workspaceSystem "./..." defaultExcluded linux).outcome = .ok packages ∧
      (resolve (changedWorkspace vendored []) "./..." defaultExcluded linux).outcome = .ok packages := by
  have proper : workspaceSystem.Proper := ⟨workspaceSystem_proper, by decide⟩
  refine ⟨proper, ?_, ?_⟩
  · refine (resolve_ignores_unselected _ _ defaultExcluded linux proper).1 "sub" (by decide) ⟨_, get_library⟩ ?_
    exact changedWorkspace_alike (.of_forall₂ .nil) (.of_forall₂ (.cons ⟨rfl, .file (.inl rfl)⟩ .nil))
  · have git : HiddenBelow defaultExcluded ["w"] ["w", ".git"] := ⟨[], ".git", rfl, by decide⟩
    have vendor : HiddenBelow defaultExcluded ["w"] ["w", "vendor"] := ⟨[], "vendor", rfl, by decide⟩
    obtain ⟨packages, resolved, same⟩ := (resolve_ignores_unselected workspaceSystem (changedWorkspace vendored [])
      defaultExcluded linux proper).2 "." (changedWorkspace_alike (.hidden git) (.hidden vendor))
    exact ⟨packages, resolved, same.mpr ⟨fun _ => ⟨_, rfl⟩, fun _ => ⟨_, get_workspace⟩⟩⟩

def hidingSystem (inside : List (String × FileTree)) : FileSystem where
  root := .folder [("_b", .folder inside)]

/-- What is in a hidden directory decides whether there is a directory to walk, where the path leads through it. -/
theorem resolve_goes_through_hidden :
    AlikeBut (Unselected linux) (HiddenBelow defaultExcluded []) (hidingSystem [("c", .folder [])]) (hidingSystem []) ∧
      (hidingSystem [("c", .folder [])]).names (walkedDirectory "_b/c/../..") = [] ∧
      (resolve (hidingSystem [("c", .folder [])]) "_b/c/../../..." defaultExcluded linux).outcome = .ok [] ∧
      (resolve (hidingSystem []) "_b/c/../../..." defaultExcluded linux).outcome =
        .ok [failed ".." (.ofString "_b/c/../..") (.noDirectory (.ofString "_b/c/../.."))] := by
  have hidden : HiddenBelow defaultExcluded [] ["_b"] := ⟨[], "_b", rfl, by decide⟩
  refine ⟨⟨.of_forall₂ (.cons ⟨rfl, .hidden hidden⟩ .nil), rfl⟩, ?_, ?_, ?_⟩
  · rfl
  · have named : walkBase? "_b/c/../../..." = some (.ofString "_b/c/../..") := rfl
    have found : (hidingSystem [("c", .folder [])]).get (.ofString "_b/c/../..") =
        .ok (.folder [("_b", .folder [("c", .folder [])])]) := rfl
    have nothing : subfolders defaultExcluded [("_b", .folder [("c", .folder [])])] = [] := List.mergeSort_nil
    have unsourced : sources [("_b", .folder [("c", .folder [])])] = [] := List.mergeSort_nil
    rw [resolve_eq_walk defaultExcluded linux named found, walk_folder, nothing, atFolder, unsourced]
    rfl
  · rfl

end Package

end SliceGrowth
