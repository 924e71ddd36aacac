import SliceGrowth.Package.Pattern
import SliceGrowth.Proofs.FileTree.Alike
import SliceGrowth.Proofs.Package.Files

/-!
What a walk finds. It meets the folders that visible names lead to, in the order of those names: a folder
before what is below it, and the folders of one folder by name. Each of them that holds a file which the
build does not leave out gives one package.
-/
namespace SliceGrowth

namespace Package

def Visible (excluded : List String) (name : String) : Prop :=
  name ∉ excluded ∧ Text.beginsWith "." name = false ∧ Text.beginsWith "_" name = false

theorem isHidden_eq_false_iff {excluded : List String} {name : String} :
    isHidden excluded name = false ↔ Visible excluded name := by
  simp [isHidden, Visible, and_assoc]

/-- The folder whose entries are `reached` is below the one with `entries`, by visible names. -/
inductive Reaches (excluded : List String) :
    List (String × FileTree) → List String → List (String × FileTree) → Prop
  | here (entries : List (String × FileTree)) : Reaches excluded entries [] entries
  | into {entries inner reached : List (String × FileTree)} {name : String} {names : List String}
    (member : (name, .folder inner) ∈ entries) (visible : Visible excluded name)
    (rest : Reaches excluded inner names reached) : Reaches excluded entries (name :: names) reached

/-- The folders that a walk goes on to, in order. -/
def subfolders (excluded : List String) (entries : List (String × FileTree)) : List (String × FileTree) :=
  (entries.filter fun e => e.2.isFolder && !isHidden excluded e.1).mergeSort fun a b => a.1 ≤ b.1

theorem mem_subfolders_iff {excluded : List String} {entries : List (String × FileTree)}
    {name : String} {tree : FileTree} : (name, tree) ∈ subfolders excluded entries ↔
      (name, tree) ∈ entries ∧ Visible excluded name ∧ ∃ inner, tree = .folder inner := by
  simp only [subfolders, List.mem_mergeSort, List.mem_filter, Bool.and_eq_true, Bool.not_eq_true',
    isHidden_eq_false_iff]
  cases tree <;> simp [FileTree.isFolder]

/-- A folder met on a walk, with the names that lead there. -/
structure Visit where
  names : List String
  entries : List (String × FileTree)

def Visit.under (name : String) (v : Visit) : Visit := { v with names := name :: v.names }

/-- The folders that a walk meets, in order. -/
def visits (excluded : List String) : FileTree → List Visit
  | .file _ => []
  | .folder entries =>
    ⟨[], entries⟩ :: (subfolders excluded entries).attach.flatMap fun e =>
      (visits excluded e.1.2).map (.under e.1.1)
termination_by tree => sizeOf tree
decreasing_by exact FileTree.sizeOf_entry (mem_subfolders_iff.mp e.2).1

theorem visits_folder (excluded : List String) (entries : List (String × FileTree)) :
    visits excluded (.folder entries) =
      ⟨[], entries⟩ :: (subfolders excluded entries).flatMap fun e => (visits excluded e.2).map (.under e.1) := by
  have plain : (subfolders excluded entries).attach.flatMap
        (fun e => (visits excluded e.1.2).map (Visit.under e.1.1)) =
      (subfolders excluded entries).attach.unattach.flatMap fun e => (visits excluded e.2).map (.under e.1) :=
    List.flatMap_subtype fun _ _ => rfl
  rw [visits, plain, List.unattach_attach]

theorem reaches_of_mem_visits {excluded : List String} {tree : FileTree} {entries : List (String × FileTree)}
    {v : Visit} (same : tree = .folder entries) (member : v ∈ visits excluded tree) :
    Reaches excluded entries v.names v.entries := by
  induction tree using FileTree.induction_on_entries generalizing entries v with
  | file content => cases same
  | folder entries' ih =>
    cases same
    rw [visits_folder] at member
    rcases List.mem_cons.mp member with rfl | member
    · exact .here _
    · obtain ⟨⟨name, tree⟩, sub, member⟩ := List.mem_flatMap.mp member
      obtain ⟨w, found, rfl⟩ := List.mem_map.mp member
      obtain ⟨entry, visible, inner, rfl⟩ := mem_subfolders_iff.mp sub
      exact .into entry visible (ih _ entry rfl found)

theorem mem_visits_of_reaches {excluded : List String} {entries reached : List (String × FileTree)}
    {names : List String} (reaches : Reaches excluded entries names reached) :
    ⟨names, reached⟩ ∈ visits excluded (.folder entries) := by
  induction reaches with
  | here entries =>
    rw [visits_folder]
    exact List.mem_cons_self
  | @into entries inner reached name names entry visible rest ih =>
    rw [visits_folder]
    have sub : (name, .folder inner) ∈ subfolders excluded entries :=
      mem_subfolders_iff.mpr ⟨entry, visible, inner, rfl⟩
    exact List.mem_cons_of_mem _ (List.mem_flatMap.mpr ⟨_, sub, List.mem_map.mpr ⟨_, ih, rfl⟩⟩)

theorem mem_visits_iff {excluded : List String} {entries : List (String × FileTree)} {v : Visit} :
    v ∈ visits excluded (.folder entries) ↔ Reaches excluded entries v.names v.entries :=
  ⟨reaches_of_mem_visits rfl, mem_visits_of_reaches⟩

section Packages

variable (excluded : List String) (context : Build.Context)

/-- The packages, one or none, of a folder that a walk meets. -/
def packagesAt (directory : SlashPath) (entries : List (String × FileTree)) : List Package :=
  let package := built context directory (folderFiles directory entries)
  if (sources entries).isEmpty || package.isExcluded then [] else [package]

theorem atFolder_returns (label : String) (directory : SlashPath) (entries : List (String × FileTree)) :
    (atFolder context label directory entries).Returns (packagesAt context directory entries) [] := by
  unfold atFolder packagesAt
  by_cases none : sources entries = []
  · simp only [none, List.isEmpty_nil, Bool.true_or, ↓reduceIte]
    exact Run.Returns.pure []
  · have some : (sources entries).isEmpty = false := by simpa using none
    simp only [some, Bool.false_or, Bool.false_eq_true, ↓reduceIte]
    refine (ofFolder_returns context none).bind ?_
    split
    · exact (⟨rfl, rfl⟩ : Run.Returns _ () []).bind (Run.Returns.pure [])
    · exact Run.Returns.pure _

theorem walkEntries_eq (label : String) (directory : SlashPath) (entries : List (String × FileTree)) :
    walkEntries excluded context label directory entries =
      (entries.filter fun e => e.2.isFolder && !isHidden excluded e.1).map fun e =>
        (e.1, walk excluded context (label ++ "/" ++ e.1) (directory.child e.1) e.2) := by
  induction entries with
  | nil => rw [walkEntries, List.filter_nil, List.map_nil]
  | cons e rest ih =>
    rw [walkEntries, ih, List.filter_cons]
    split <;> rfl

theorem walk_folder (label : String) (directory : SlashPath) (entries : List (String × FileTree)) :
    walk excluded context label directory (.folder entries) = do
      let first ← atFolder context label directory entries
      let others ← Run.gather (fun e =>
        walk excluded context (label ++ "/" ++ e.1) (directory.child e.1) e.2) (subfolders excluded entries)
      return first ++ others := by
  have sorted : (walkEntries excluded context label directory entries).mergeSort (fun a b => a.1 ≤ b.1) =
      (subfolders excluded entries).map fun e =>
        (e.1, walk excluded context (label ++ "/" ++ e.1) (directory.child e.1) e.2) := by
    rw [walkEntries_eq, byName_map]
    rfl
  rw [walk]
  simp only [sorted, Run.gather_map]

theorem walk_returns (label : String) (directory : SlashPath) (tree : FileTree) :
    (walk excluded context label directory tree).Returns
      ((visits excluded tree).flatMap fun v => packagesAt context (directory.descend v.names) v.entries) [] := by
  induction tree using FileTree.induction_on_entries generalizing label directory with
  | file content =>
    rw [walk, visits]
    exact Run.Returns.pure []
  | folder entries ih =>
    have below := Run.Returns.gather_nil fun e (sub : e ∈ subfolders excluded entries) =>
      ih e (mem_subfolders_iff.mp sub).1 (label ++ "/" ++ e.1) (directory.child e.1)
    rw [walk_folder, visits_folder, List.flatMap_cons, SlashPath.descend_nil, List.flatMap_assoc]
    simp only [List.flatMap_map, Visit.under, SlashPath.descend_cons]
    exact (atFolder_returns context label directory entries).bind (below.bind (Run.Returns.pure _))

end Packages

section Held

variable {context : Build.Context} {directory : SlashPath} {entries : List (String × FileTree)}

/-- The folder itself holds source files, and the build does not leave out all of them. -/
def HoldsPackage (context : Build.Context) (entries : List (String × FileTree)) : Prop :=
  (∃ name content, (name, .file content) ∈ entries ∧ isSourceName name = true) ∧
    ¬ ∀ name content, (name, .file content) ∈ entries → isSourceName name = true →
      LeavesOut context name content

theorem sources_ne_nil_iff : sources entries ≠ [] ↔
    ∃ name content, (name, .file content) ∈ entries ∧ isSourceName name = true := by
  constructor
  · intro nonempty
    obtain ⟨⟨name, content⟩, member⟩ := List.exists_mem_of_ne_nil _ nonempty
    exact ⟨name, content, mem_sources_iff.mp member⟩
  · rintro ⟨name, content, accepted⟩
    exact List.ne_nil_of_mem (mem_sources_iff.mpr accepted)

theorem all_left_out_iff : (∀ file ∈ folderFiles directory entries, LeavesOut context file.1.name file.2) ↔
    ∀ name content, (name, .file content) ∈ entries → isSourceName name = true →
      LeavesOut context name content := by
  constructor
  · intro left name content member accepted
    have out := left (directory.child name, content) (mem_folderFiles_iff.mpr ⟨name, rfl, member, accepted⟩)
    rwa [SlashPath.name_child] at out
  · rintro left ⟨path, content⟩ member
    obtain ⟨name, rfl, member, accepted⟩ := mem_folderFiles_iff.mp member
    rw [SlashPath.name_child]
    exact left name content member accepted

theorem holdsPackage_iff (directory : SlashPath) : HoldsPackage context entries ↔
    sources entries ≠ [] ∧ (built context directory (folderFiles directory entries)).isExcluded = false := by
  rw [← Bool.not_eq_true, isExcluded_built_iff, all_left_out_iff, HoldsPackage, ← sources_ne_nil_iff]
  refine and_congr_right fun nonempty => not_congr ?_
  exact ⟨fun left => ⟨folderFiles_ne_nil nonempty, left⟩, And.right⟩

instance : Decidable (HoldsPackage context entries) := decidable_of_iff' _ (holdsPackage_iff .here)

theorem packagesAt_eq : packagesAt context directory entries =
    if HoldsPackage context entries then [built context directory (folderFiles directory entries)] else [] := by
  by_cases nonempty : sources entries = []
  · simp [packagesAt, holdsPackage_iff directory, nonempty]
  · cases excluded : (built context directory (folderFiles directory entries)).isExcluded <;>
      simp [packagesAt, holdsPackage_iff directory, nonempty, excluded]

end Held

section Alike

variable {context : Build.Context} {excluded : List String} {entries entries' : List (String × FileTree)}

/-- The name of a file that a build never looks into. -/
def Unselected (context : Build.Context) (names : List String) : Prop :=
  ∃ name ∈ names.getLast?, isSourceName name = false ∨ context.matchesFileName name = false

/-- A folder below the one at `base` that a walk from there leaves out. -/
def HiddenBelow (excluded base names : List String) : Prop :=
  ∃ front name, names = base ++ front ++ [name] ∧ isHidden excluded name = true

theorem not_hiddenBelow_of_le {base names : List String} (short : names.length ≤ base.length) :
    ¬ HiddenBelow excluded base names := by
  rintro ⟨front, name, same, -⟩
  have size := congrArg List.length same
  simp only [List.length_append, List.length_singleton] at size
  omega

theorem not_hiddenBelow_concat {base names : List String} {name : String} (visible : isHidden excluded name = false) :
    ¬ HiddenBelow excluded base (names ++ [name]) := by
  rintro ⟨front, last, same, hidden⟩
  cases (List.append_inj' same rfl).2
  rw [visible] at hidden
  cases hidden

section Matched

variable {matched : List (String × FileTree × FileTree)} (distinct : (entries.map Prod.fst).Nodup)
  (left : entries.Perm (matched.map fun m => (m.1, m.2.1)))
  (right : entries'.Perm (matched.map fun m => (m.1, m.2.2)))
  (kinds : ∀ m ∈ matched, m.2.2.isFolder = m.2.1.isFolder)

def sourcePair? : String × FileTree × FileTree → Option (String × ByteArray × ByteArray)
  | (name, .file content, .file content') => if isSourceName name then some (name, content, content') else none
  | _ => none

theorem sourcePair?_eq_some {m : String × FileTree × FileTree} {file : String × ByteArray × ByteArray}
    (found : sourcePair? m = some file) :
    isSourceName file.1 = true ∧ m = (file.1, .file file.2.1, .file file.2.2) := by
  unfold sourcePair? at found
  split at found
  · split at found
    · cases found
      exact ⟨‹_›, rfl⟩
    · cases found
  · cases found

theorem sourceOf?_pair {m : String × FileTree × FileTree} (kind : m.2.2.isFolder = m.2.1.isFolder) :
    sourceOf? (m.1, m.2.1) = (sourcePair? m).map (fun file => (file.1, file.2.1)) ∧
      sourceOf? (m.1, m.2.2) = (sourcePair? m).map fun file => (file.1, file.2.2) := by
  obtain ⟨name, tree, tree'⟩ := m
  cases tree with
  | folder inner =>
    cases tree' with
    | folder inner' => exact ⟨rfl, rfl⟩
    | file content' => cases kind
  | file content =>
    cases tree' with
    | folder inner' => cases kind
    | file content' =>
      simp only [sourceOf?, sourcePair?]
      split <;> exact ⟨rfl, rfl⟩

include distinct left right kinds

/-- The matched entries of two folders give the source files of either of them. -/
theorem sources_matched : ∃ files : List (String × ByteArray × ByteArray),
    (∀ file ∈ files, isSourceName file.1 = true ∧ (file.1, .file file.2.1, .file file.2.2) ∈ matched) ∧
    sources entries = files.map (fun file => (file.1, file.2.1)) ∧
    sources entries' = files.map fun file => (file.1, file.2.2) := by
  have distinct' := FileTree.distinct_of_matched left right distinct
  refine ⟨(matched.filterMap sourcePair?).mergeSort fun a b => a.1 ≤ b.1, ?_, ?_, ?_⟩
  · intro file member
    obtain ⟨m, listed, found⟩ := List.mem_filterMap.mp (List.mem_mergeSort.mp member)
    obtain ⟨accepted, rfl⟩ := sourcePair?_eq_some found
    exact ⟨accepted, listed⟩
  · have perm := left.filterMap sourceOf?
    rw [List.filterMap_map, Function.comp_def, List.filterMap_congr fun m member => (sourceOf?_pair (kinds m member)).1,
      ← List.map_filterMap] at perm
    rw [sources, byName_eq_of_perm (unsorted_sources_nodup distinct) perm]
    exact byName_map fun file : String × ByteArray × ByteArray => file.2.1
  · have perm := right.filterMap sourceOf?
    rw [List.filterMap_map, Function.comp_def, List.filterMap_congr fun m member => (sourceOf?_pair (kinds m member)).2,
      ← List.map_filterMap] at perm
    rw [sources, byName_eq_of_perm (unsorted_sources_nodup distinct') perm]
    exact byName_map fun file : String × ByteArray × ByteArray => file.2.2

/-- The matched entries of two folders give the folders that a walk goes on to in either of them. -/
theorem subfolders_matched (excluded : List String) : ∃ sub : List (String × FileTree × FileTree),
    (∀ m ∈ sub, m ∈ matched ∧ isHidden excluded m.1 = false) ∧
    subfolders excluded entries = sub.map (fun m => (m.1, m.2.1)) ∧
    subfolders excluded entries' = sub.map fun m => (m.1, m.2.2) := by
  let kept := matched.filter fun m => m.2.1.isFolder && !isHidden excluded m.1
  have distinct' := FileTree.distinct_of_matched left right distinct
  refine ⟨kept.mergeSort fun a b => a.1 ≤ b.1, ?_, ?_, ?_⟩
  · intro m member
    obtain ⟨listed, shown⟩ := List.mem_filter.mp (List.mem_mergeSort.mp member)
    simp only [Bool.and_eq_true, Bool.not_eq_true'] at shown
    exact ⟨listed, shown.2⟩
  · have perm := left.filter fun e => e.2.isFolder && !isHidden excluded e.1
    rw [List.filter_map] at perm
    rw [subfolders, byName_eq_of_perm (distinct.sublist (List.filter_sublist.map Prod.fst)) perm]
    exact byName_map fun m : String × FileTree × FileTree => m.2.1
  · have alike : matched.filter ((fun e => e.2.isFolder && !isHidden excluded e.1) ∘ fun m => (m.1, m.2.2)) =
        kept := by
      refine List.filter_congr fun m member => ?_
      simp [kinds m member]
    have perm := right.filter fun e => e.2.isFolder && !isHidden excluded e.1
    rw [List.filter_map, alike] at perm
    rw [subfolders, byName_eq_of_perm (distinct'.sublist (List.filter_sublist.map Prod.fst)) perm]
    exact byName_map fun m : String × FileTree × FileTree => m.2.2

end Matched

variable {hidden : List String → Prop} {names : List String}

theorem judge_alike {path : SlashPath} {name : String} {content content' : ByteArray} (named : path.name = name)
    (accepted : isSourceName name = true)
    (same : FileTree.AlikeBut (Unselected context) hidden (names ++ [name]) (.file content) (.file content')) :
    judge context path (.ok content) = judge context path (.ok content') := by
  cases same with
  | file same =>
    rcases same with rfl | ⟨last, is, other⟩
    · rfl
    · rw [List.getLast?_concat] at is
      cases is
      have unmatched := other.resolve_left (by rw [accepted]; decide)
      rw [← named] at unmatched
      rw [judge_of_otherName _ unmatched, judge_of_otherName _ unmatched]

/-- A folder is judged by the names of its source files and by the contents of those that a build may take. -/
theorem ofFolder_alike (directory : SlashPath) (proper : (FileTree.folder entries).Proper) (shown : ¬ hidden names)
    (same : FileTree.AlikeBut (Unselected context) hidden names (.folder entries) (.folder entries')) :
    ofFolder directory entries context = ofFolder directory entries' context ∧
      (sources entries).isEmpty = (sources entries').isEmpty := by
  cases same with
  | hidden is => exact absurd is shown
  | folder matched left right inner =>
    obtain ⟨files, members, first, second⟩ :=
      sources_matched proper.distinct left right fun m member => (inner m member).isFolder
    by_cases none : files = []
    · rw [none] at first second
      rw [ofFolder, ofFolder, first, second]
      exact ⟨rfl, rfl⟩
    · have some : sources entries ≠ [] := by simpa [first] using none
      have some' : sources entries' ≠ [] := by simpa [second] using none
      refine ⟨?_, by rw [List.isEmpty_eq_false_iff.mpr some, List.isEmpty_eq_false_iff.mpr some']⟩
      rw [ofFolder_eq context some, ofFolder_eq context some']
      apply ofFiles_congr
      simp only [folderFiles, first, second, List.map_map]
      refine List.map_congr_left fun file member => ?_
      obtain ⟨accepted, listed⟩ := members file member
      exact congrArg (Prod.mk _) (judge_alike (SlashPath.name_child _ _) accepted (inner _ listed))

theorem walk_alike {base : List String} {tree tree' : FileTree} (proper : tree.Proper)
    (shown : ¬ HiddenBelow excluded base names)
    (same : FileTree.AlikeBut (Unselected context) (HiddenBelow excluded base) names tree tree') (label : String)
    (directory : SlashPath) :
    walk excluded context label directory tree = walk excluded context label directory tree' := by
  induction same generalizing label directory with
  | file => rfl
  | hidden is => exact absurd is shown
  | @folder names entries entries' matched left right inner ih =>
    obtain ⟨sub, members, first, second⟩ :=
      subfolders_matched proper.distinct left right (fun m member => (inner m member).isFolder) excluded
    obtain ⟨alike, empty⟩ := ofFolder_alike directory proper shown (.folder matched left right inner)
    have own : atFolder context label directory entries = atFolder context label directory entries' := by
      rw [atFolder, atFolder, alike, empty]
    have below := Run.gather_congr fun m (member : m ∈ sub) =>
      ih m (members m member).1 (proper.inner _ (left.mem_iff.mpr (List.mem_map_of_mem (members m member).1)))
        (not_hiddenBelow_concat (members m member).2) (label ++ "/" ++ m.1) (directory.child m.1)
    rw [walk_folder, walk_folder, own, first, second, Run.gather_map, Run.gather_map, below]

end Alike

section Base

/-- A text of one or more slashes and nothing else. -/
def IsSlashes (s : String) : Prop := s ≠ "" ∧ ∀ c ∈ s.toList, c = '/'

theorem walkBase?_eq (root : String) :
    walkBase? (root ++ "/...") = some (.ofString (String.ofList (root.toList.rdropWhile (· == '/')))) := by
  have cut : Text.dropEnding "..." (root ++ "/...") = root ++ "/" := by
    have same : root ++ "/..." = root ++ "/" ++ "..." := by
      rw [String.append_assoc]
      rfl
    rw [same, Text.dropEnding_append]
  simp [walkBase?, Text.endsWith_append, cut, List.rdropWhile]

theorem walkBase?_of_directory {root : String} (other : ¬ IsSlashes root) :
    walkBase? (root ++ "/...") = some (.ofString root) := by
  rw [walkBase?_eq]
  by_cases empty : root = ""
  · rw [empty]
    rfl
  · have letter : ∃ c ∈ root.toList, c ≠ '/' := by
      by_contra none
      exact other ⟨empty, by simpa using none⟩
    rw [SlashPath.ofString_rdropWhile letter]

end Base

section Found

variable {fs : FileSystem} {pattern : String} {base : SlashPath} {entries : List (String × FileTree)}

/-- The package of a folder met on a walk from `base`. -/
def walkPackage (context : Build.Context) (base : SlashPath) (v : Visit) : Package :=
  built context (base.descend v.names) (folderFiles (base.descend v.names) v.entries)

/-- The folders met on a walk that give a package. -/
def packageVisits (excluded : List String) (context : Build.Context) (entries : List (String × FileTree)) :
    List Visit :=
  (visits excluded (.folder entries)).filter (HoldsPackage context ·.entries)

theorem mem_packageVisits_iff {excluded : List String} {context : Build.Context} {v : Visit} :
    v ∈ packageVisits excluded context entries ↔
      Reaches excluded entries v.names v.entries ∧ HoldsPackage context v.entries := by
  rw [packageVisits, List.mem_filter, mem_visits_iff, decide_eq_true_iff]

theorem resolve_eq_walk (excluded : List String) (context : Build.Context) (named : walkBase? pattern = some base)
    (found : fs.get base = .ok (.folder entries)) :
    resolve fs pattern excluded context = walk excluded context base.text base (.folder entries) := by
  simp only [resolve, named, found]

theorem flatMap_packagesAt (context : Build.Context) (base : SlashPath) (met : List Visit) :
    (met.flatMap fun v => packagesAt context (base.descend v.names) v.entries) =
      (met.filter (HoldsPackage context ·.entries)).map (walkPackage context base) := by
  induction met with
  | nil => rfl
  | cons v met ih =>
    rw [List.flatMap_cons, ih, packagesAt_eq]
    by_cases holds : HoldsPackage context v.entries <;> simp [holds, walkPackage]

theorem resolve_walk_returns (excluded : List String) (context : Build.Context)
    (named : walkBase? pattern = some base) (found : fs.get base = .ok (.folder entries)) :
    (resolve fs pattern excluded context).Returns
      ((packageVisits excluded context entries).map (walkPackage context base)) [] := by
  rw [resolve_eq_walk excluded context named found, packageVisits, ← flatMap_packagesAt]
  exact walk_returns excluded context base.text base (.folder entries)

end Found

theorem Reaches.proper {excluded : List String} {entries reached : List (String × FileTree)}
    {names : List String} (reaches : Reaches excluded entries names reached)
    (proper : (FileTree.folder entries).Proper) : (FileTree.folder reached).Proper := by
  induction reaches with
  | here => exact proper
  | into member _ _ ih => exact ih (proper.inner _ member)

/-- A directory with one package of its own and one below, beside directories that a walk leaves out. -/
def workspaceSystem : FileSystem :=
  FileSystem.empty ["w"]
    |>.makeFolder (.ofString ".git")
    |>.write (.ofString "sub/b.go") "package b\n".toUTF8
    |>.write (.ofString "sub/a_windows.go") "package a\n".toUTF8
    |>.write (.ofString "old.go") "package old\n".toUTF8
    |>.write (.ofString "main.go") "package main\n".toUTF8
    |>.write (.ofString "vendor/c.go") "package c\n".toUTF8
    |>.remove (.ofString "old.go")

theorem workspaceSystem_proper : workspaceSystem.root.Proper := by
  have spelled := SlashPath.ofString_spelled
  have empty : (FileSystem.empty ["w"]).Proper := .empty (by decide)
  have made := empty.makeFolder (spelled ".git")
  have below := (made.write (spelled "sub/b.go") "package b\n".toUTF8).write (spelled "sub/a_windows.go")
    "package a\n".toUTF8
  have here := (below.write (spelled "old.go") "package old\n".toUTF8).write (spelled "main.go")
    "package main\n".toUTF8
  have whole := here.write (spelled "vendor/c.go") "package c\n".toUTF8
  exact (whole.remove (spelled "old.go")).root

def library : List (String × FileTree) :=
  [("b.go", .file "package b\n".toUTF8), ("a_windows.go", .file "package a\n".toUTF8)]

def workspace : List (String × FileTree) :=
  [(".git", .folder []), ("sub", .folder library), ("main.go", .file "package main\n".toUTF8),
    ("vendor", .folder [("c.go", .file "package c\n".toUTF8)])]

theorem get_workspace : workspaceSystem.get (.ofString ".") = .ok (.folder workspace) := rfl

theorem get_library : workspaceSystem.get (.ofString "sub") = .ok (.folder library) := rfl

def linux : Build.Context := { system := "linux", architecture := "amd64" }

end Package

end SliceGrowth
