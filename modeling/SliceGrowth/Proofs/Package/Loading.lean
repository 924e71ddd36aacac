import SliceGrowth.Proofs.Package.Walk
import SliceGrowth.Proofs.Policy

/-!
What loading promises. A pattern is loaded if it stands for packages and nothing is wrong with any of them;
such packages have files, which the build takes and which name the package, and checking them does not fail
for a reason that loading could have given.
-/
namespace SliceGrowth

open Syntax

namespace Options

end Options

namespace FileSystem

/-- What visible names lead to in a proper tree is found at the path that goes on by these names. -/
theorem get_descend {fs : FileSystem} {base : SlashPath} {excluded names : List String}
    {entries reached : List (String × FileTree)} (found : fs.get base = .ok (.folder entries))
    (proper : (FileTree.folder entries).Proper) (reaches : Package.Reaches excluded entries names reached) :
    fs.get (base.descend names) = .ok (.folder reached) := by
  induction reaches generalizing base with
  | here => rwa [SlashPath.descend_nil]
  | into member _ _ ih =>
    rw [SlashPath.descend_cons]
    have below := FileTree.named?_of_mem proper.distinct member
    exact ih (get_child found below (proper.named _ member).notUp) (proper.inner _ member)

theorem read_folderFiles {fs : FileSystem} {directory : SlashPath} {entries : List (String × FileTree)}
    (found : fs.get directory = .ok (.folder entries)) (proper : (FileTree.folder entries).Proper) :
    ∀ file ∈ Package.folderFiles directory entries, fs.read file.1 = .ok file.2 := by
  intro file member
  obtain ⟨name, place, entry, -⟩ := Package.mem_folderFiles_iff.mp member
  have below := FileTree.named?_of_mem proper.distinct entry
  rw [place]
  exact read_of_get (get_child found below (proper.named _ entry).notUp)

end FileSystem

namespace Package

/-- Nothing is wrong with the package, it has files, and each of them can be read, is taken by the build and
has a package clause with the name of the package. -/
structure IsComplete (fs : FileSystem) (context : Build.Context) (p : Package) : Prop where
  clean : p.problems = []
  nonempty : p.files ≠ []
  belongs : ∀ path ∈ p.files, ∃ source, fs.read path = .ok source ∧ Takes context path.name source ∧
    (headerOf source).packageName = some p.name

section Complete

variable {fs : FileSystem} {context : Build.Context} {directory path : SlashPath}
  {files : List (SlashPath × ByteArray)} {entries : List (String × FileTree)}

theorem built_isComplete (nonempty : files ≠ []) (readable : ∀ file ∈ files, fs.read file.1 = .ok file.2)
    (included : (built context directory files).isExcluded = false)
    (clean : (built context directory files).problems = []) :
    IsComplete fs context (built context directory files) := by
  refine ⟨clean, fun none => ?_, ?_⟩
  · -- Without problems a file that is not taken is ignored, and then the package is excluded.
    obtain ⟨⟨path, source⟩, member⟩ := List.exists_mem_of_ne_nil files nonempty
    have ignored : path ∈ (built context directory files).ignored := by
      have accounted := (@built_accounts context directory path files).mpr ⟨source, member⟩
      simpa only [none, clean, List.not_mem_nil, false_and, exists_false, false_or, or_false] using accounted
    simp [isExcluded, none, clean, List.ne_nil_of_mem ignored] at included
  · intro path listed
    obtain ⟨source, member, takes⟩ := mem_files_built.mp listed
    have named := (built_of_clean clean member).resolve_left takes.not_leavesOut
    exact ⟨source, readable (path, source) member, named⟩

@[simp] theorem requireFiles_directory (p : Package) : (requireFiles p).directory = p.directory := by
  unfold requireFiles
  split <;> rfl

@[simp] theorem requireFiles_files (p : Package) : (requireFiles p).files = p.files := by
  unfold requireFiles
  split <;> rfl

@[simp] theorem requireFiles_ignored (p : Package) : (requireFiles p).ignored = p.ignored := by
  unfold requireFiles
  split <;> rfl

theorem requireFiles_of_clean {p : Package} (clean : (requireFiles p).problems = []) :
    requireFiles p = p ∧ p.isExcluded = false := by
  cases excluded : p.isExcluded with
  | true => simp [requireFiles, excluded] at clean
  | false => simp [requireFiles, excluded]

/-- A package asked for by name is complete as soon as nothing is wrong with it. -/
theorem requireFiles_isComplete (nonempty : files ≠ [])
    (readable : ∀ file ∈ files, fs.read file.1 = .ok file.2)
    (clean : (requireFiles (built context directory files)).problems = []) :
    IsComplete fs context (requireFiles (built context directory files)) := by
  obtain ⟨same, included⟩ := requireFiles_of_clean clean
  rw [same] at clean ⊢
  exact built_isComplete nonempty readable included clean

end Complete

section Paths

variable {fs : FileSystem} {path : SlashPath} {entries : List (String × FileTree)} {content : ByteArray}

theorem resolvePath_folder (context : Build.Context) (found : fs.get path = .ok (.folder entries))
    (nonempty : sources entries ≠ []) : (resolvePath fs path context).Returns
      (requireFiles (built context path (folderFiles path entries))) [] := by
  simp only [resolvePath, found]
  exact (ofFolder_returns context nonempty).map requireFiles

theorem resolvePath_file (context : Build.Context) (found : fs.get path = .ok (.file content))
    (suffix : path.suffix = ".go") : (resolvePath fs path context).Returns
      (requireFiles (built context path.parent [(path, content)])) [] := by
  simp only [resolvePath, found, suffix, beq_self_eq_true, ↓reduceIte]
  exact (ofFiles_returns context path.parent [(path, content)]).map requireFiles

theorem resolvePath_missing (context : Build.Context) {e : ReadError} (missing : fs.get path = .error e) :
    (resolvePath fs path context).Returns (failed path.stem path.parent (.noSuchPath path)) [] := by
  simp only [resolvePath, missing]
  exact Run.Returns.pure _

theorem resolvePath_notSource (context : Build.Context) (found : fs.get path = .ok (.file content))
    (suffix : path.suffix ≠ ".go") :
    (resolvePath fs path context).Returns (failed path.stem path.parent (.notSource path)) [] := by
  simp only [resolvePath, found, beq_eq_false_iff_ne.mpr suffix, Bool.false_eq_true, ↓reduceIte]
  exact Run.Returns.pure _

theorem resolvePath_complete (context : Build.Context) (proper : fs.root.Proper) :
    ∃ p, (resolvePath fs path context).Returns p [] ∧ (p.problems = [] → IsComplete fs context p) := by
  cases found : fs.get path with
  | error e => exact ⟨_, resolvePath_missing context found, fun clean => by cases clean⟩
  | ok tree =>
    cases tree with
    | folder entries =>
      by_cases none : sources entries = []
      · refine ⟨⟨path.name, path, [], [.noFiles path], []⟩, ?_, fun clean => by cases clean⟩
        simp only [resolvePath, found, ofFolder, none]
        exact (Run.Returns.pure _).map requireFiles
      · refine ⟨_, resolvePath_folder context found none, ?_⟩
        have readable := FileSystem.read_folderFiles found (FileSystem.get_proper proper found)
        exact requireFiles_isComplete (folderFiles_ne_nil none) readable
    | file content =>
      by_cases suffix : path.suffix = ".go"
      · refine ⟨_, resolvePath_file context found suffix, ?_⟩
        refine requireFiles_isComplete (by simp) fun file member => ?_
        rw [List.mem_singleton.mp member]
        exact FileSystem.read_of_get found
      · exact ⟨_, resolvePath_notSource context found suffix, fun clean => by cases clean⟩

end Paths

section Patterns

variable {fs : FileSystem} {pattern : String} {excluded : List String} {context : Build.Context}

theorem resolve_path (excluded : List String) {p : Package} (named : walkBase? pattern = none)
    (resolved : (resolvePath fs (.ofString pattern) context).Returns p []) :
    (resolve fs pattern excluded context).Returns [p] [] := by
  simp only [resolve, named]
  exact resolved.map fun package => [package]

theorem resolve_noDirectory {base : SlashPath} (named : walkBase? pattern = some base)
    (missing : ∀ entries, fs.get base ≠ .ok (.folder entries)) :
    (resolve fs pattern excluded context).Returns [failed base.name base (.noDirectory base)] [] := by
  simp only [resolve, named]
  exact Run.Returns.pure _

theorem walkPackage_isComplete {base : SlashPath} {entries : List (String × FileTree)} {v : Visit}
    (found : fs.get base = .ok (.folder entries)) (proper : (FileTree.folder entries).Proper)
    (member : v ∈ packageVisits excluded context entries) (clean : (walkPackage context base v).problems = []) :
    IsComplete fs context (walkPackage context base v) := by
  obtain ⟨reaches, holds⟩ := mem_packageVisits_iff.mp member
  obtain ⟨nonempty, included⟩ := (holdsPackage_iff (base.descend v.names)).mp holds
  have place := FileSystem.get_descend found proper reaches
  have readable := FileSystem.read_folderFiles place (reaches.proper proper)
  exact built_isComplete (folderFiles_ne_nil nonempty) readable included clean

/-- Resolving always returns, and what has no problems then is complete. -/
theorem resolve_complete (fs : FileSystem) (pattern : String) (excluded : List String) (context : Build.Context)
    (proper : fs.root.Proper) :
    ∃ packages, (resolve fs pattern excluded context).outcome = .ok packages ∧
      ∀ p ∈ packages, p.problems = [] → IsComplete fs context p := by
  cases named : walkBase? pattern with
  | none =>
    obtain ⟨p, resolved, complete⟩ := resolvePath_complete context proper
    refine ⟨[p], (resolve_path excluded named resolved).outcome, fun q member => ?_⟩
    rwa [List.mem_singleton.mp member]
  | some base =>
    by_cases present : ∃ entries, fs.get base = .ok (.folder entries)
    · obtain ⟨entries, found⟩ := present
      refine ⟨_, (resolve_walk_returns excluded context named found).outcome, fun p member => ?_⟩
      obtain ⟨v, met, rfl⟩ := List.mem_map.mp member
      exact walkPackage_isComplete found (FileSystem.get_proper proper found) met
    · refine ⟨_, (resolve_noDirectory named (not_exists.mp present)).outcome, fun p member clean => ?_⟩
      rw [List.mem_singleton.mp member] at clean
      cases clean

end Patterns

end Package

end SliceGrowth
