import SliceGrowth.Package.Package
import SliceGrowth.Proofs.FileTree
import SliceGrowth.Proofs.Run.Laws

/-!
What a package makes of its files. A build takes a file, leaves it out, or cannot tell because the build
line of the file is malformed; the package lists the files of the first two kinds and has a problem for
each of the third.
-/
namespace SliceGrowth

/-- The file that a problem is about, if it is about one. -/
def Problem.file? : Problem → Option SlashPath
  | unreadable path _ => some path
  | badConstraint path _ => some path
  | noPackageClause path => some path
  | _ => none

theorem parse_empty : Go.parse .empty = { kind := "source_file", span := ⟨0, 0, 0, 0⟩ } := by
  have none : Go.tokens .empty = [] := by
    change Go.cutTokens {} false [] [] = []
    rw [Go.cutTokens]
  rw [Go.parse, none]
  rfl

namespace Package

open Syntax

def headerOf (source : ByteArray) : Header := header source (Go.parse source)

theorem headerOf_empty : headerOf .empty = ⟨none, none⟩ := by
  rw [headerOf, parse_empty]
  rfl

structure Takes (context : Build.Context) (name : String) (source : ByteArray) : Prop where
  name : context.matchesFileName name = true
  line : ∀ expression ∈ (headerOf source).constraint, Build.evaluate expression context = .ok true

def LeavesOut (context : Build.Context) (name : String) (source : ByteArray) : Prop :=
  context.matchesFileName name = false ∨
    ∃ expression ∈ (headerOf source).constraint, Build.evaluate expression context = .ok false

theorem Takes.not_leavesOut {context : Build.Context} {name : String} {source : ByteArray}
    (takes : Takes context name source) : ¬ LeavesOut context name source := by
  rintro (other | ⟨expression, line, value⟩)
  · rw [takes.name] at other
    cases other
  · rw [takes.line expression line] at value
    cases value

theorem judge_of_otherName {context : Build.Context} {path : SlashPath} (content : Except ReadError ByteArray)
    (other : context.matchesFileName path.name = false) : judge context path content = .otherName := by
  simp [judge, other]

theorem judge_of_matching {context : Build.Context} {path : SlashPath} (source : ByteArray)
    (matching : context.matchesFileName path.name = true) :
    judge context path (.ok source) =
      match (headerOf source).constraint with
      | none => .selected (headerOf source).packageName
      | some expression =>
        match Build.evaluate expression context with
        | .error e => .broken (.badConstraint path e)
        | .ok false => .excluded expression
        | .ok true => .selected (headerOf source).packageName := by
  simp only [judge, matching, Bool.not_true, Bool.false_eq_true, ↓reduceIte]
  rfl

/-- The three ways to judge a file that can be read. -/
theorem judge_cases (context : Build.Context) (path : SlashPath) (source : ByteArray) :
    (Takes context path.name source ∧ ¬ LeavesOut context path.name source ∧
      judge context path (.ok source) = .selected (headerOf source).packageName) ∨
    (LeavesOut context path.name source ∧ ¬ Takes context path.name source ∧
      (judge context path (.ok source)).isIgnored = true) ∨
    (¬ Takes context path.name source ∧ ¬ LeavesOut context path.name source ∧
      ∃ e, judge context path (.ok source) = .broken (.badConstraint path e)) := by
  cases matching : context.matchesFileName path.name with
  | false =>
    rw [judge_of_otherName _ matching]
    refine .inr (.inl ⟨.inl matching, fun takes => ?_, rfl⟩)
    rw [takes.name] at matching
    cases matching
  | true =>
    rw [judge_of_matching _ matching]
    -- By name the file belongs to the build, so it is left out exactly if its build line is false.
    have left : LeavesOut context path.name source ↔
        ∃ expression ∈ (headerOf source).constraint, Build.evaluate expression context = .ok false := by
      simp [LeavesOut, matching]
    have taken : Takes context path.name source ↔
        ∀ expression ∈ (headerOf source).constraint, Build.evaluate expression context = .ok true :=
      ⟨Takes.line, fun line => ⟨matching, line⟩⟩
    rw [left, taken]
    cases (headerOf source).constraint with
    | none => simp
    | some expression =>
      cases value : Build.evaluate expression context with
      | error e => simp [value]
      | ok b => cases b <;> simp [value, Verdict.isIgnored]

theorem judge_isSelected_iff {context : Build.Context} {path : SlashPath} {source : ByteArray} :
    (judge context path (.ok source)).isSelected = true ↔ Takes context path.name source := by
  rcases judge_cases context path source with
    ⟨takes, -, verdict⟩ | ⟨-, other, ignored⟩ | ⟨other, -, e, verdict⟩
  · simp [verdict, takes, Verdict.isSelected]
  · cases verdict : judge context path (.ok source) <;>
      simp_all [Verdict.isSelected, Verdict.isIgnored]
  · simp [verdict, other, Verdict.isSelected]

theorem judge_isIgnored_iff {context : Build.Context} {path : SlashPath} {source : ByteArray} :
    (judge context path (.ok source)).isIgnored = true ↔ LeavesOut context path.name source := by
  rcases judge_cases context path source with
    ⟨-, other, verdict⟩ | ⟨left, -, ignored⟩ | ⟨-, other, e, verdict⟩
  · simp [verdict, other, Verdict.isIgnored]
  · simp [left, ignored]
  · simp [verdict, other, Verdict.isIgnored]

section Verdicts

variable {directory path : SlashPath} {verdicts : List (SlashPath × Verdict)}

/-- The package names that the selected files have. -/
def namedFiles (verdicts : List (SlashPath × Verdict)) : List (String × SlashPath) :=
  verdicts.filterMap fun (path, v) => v.packageName?.map (·, path)

theorem mem_namedFiles_iff {name : String} : (name, path) ∈ namedFiles verdicts ↔
    ∃ v, (path, v) ∈ verdicts ∧ v.packageName? = some name := by
  simp only [namedFiles, List.mem_filterMap, Prod.exists, Option.map_eq_some_iff, Prod.mk.injEq]
  constructor
  · intro found
    obtain ⟨_, v, member, name', hasName, rfl, rfl⟩ := found
    exact ⟨v, member, hasName⟩
  · intro found
    obtain ⟨v, member, hasName⟩ := found
    exact ⟨path, v, member, name, hasName, rfl, rfl⟩

theorem mem_files_iff : path ∈ (ofVerdicts directory verdicts).files ↔
    ∃ v, (path, v) ∈ verdicts ∧ v.isSelected = true := by
  simp [ofVerdicts]

theorem mem_ignored_iff : path ∈ (ofVerdicts directory verdicts).ignored ↔
    ∃ v, (path, v) ∈ verdicts ∧ v.isIgnored = true := by
  simp [ofVerdicts]

theorem files_sublist : (ofVerdicts directory verdicts).files.Sublist (verdicts.map Prod.fst) :=
  List.filter_sublist.map Prod.fst

theorem ignored_sublist : (ofVerdicts directory verdicts).ignored.Sublist (verdicts.map Prod.fst) :=
  List.filter_sublist.map Prod.fst

theorem mem_problems_of_verdict {v : Verdict} {problem : Problem} (member : (path, v) ∈ verdicts)
    (found : v.problem? path = some problem) : problem ∈ (ofVerdicts directory verdicts).problems :=
  List.mem_append_left _ (List.mem_filterMap.mpr ⟨_, member, found⟩)

/-- A problem comes from the verdict on a file, or is that names are mixed, which is about no file. -/
theorem verdict_of_mem_problems {problem : Problem}
    (member : problem ∈ (ofVerdicts directory verdicts).problems) (about : problem.file? = some path) :
    ∃ path' v, (path', v) ∈ verdicts ∧ v.problem? path' = some problem := by
  rcases List.mem_append.mp member with perFile | mixed
  · obtain ⟨⟨path', v⟩, judged, found⟩ := List.mem_filterMap.mp perFile
    exact ⟨path', v, judged, found⟩
  · split at mixed
    · rw [List.mem_singleton.mp mixed] at about
      cases about
    · cases mixed

theorem problem?_eq_none_of_isIgnored {v : Verdict} (ignored : v.isIgnored = true) : v.problem? path = none := by
  cases v <;> simp_all [Verdict.isIgnored, Verdict.problem?]

theorem packageName?_eq_none_of_isIgnored {v : Verdict} (ignored : v.isIgnored = true) :
    v.packageName? = none := by
  cases v <;> simp_all [Verdict.isIgnored, Verdict.packageName?]

theorem ofVerdicts_of_all_ignored (ignored : ∀ path v, (path, v) ∈ verdicts → v.isIgnored = true) :
    (ofVerdicts directory verdicts).files = [] ∧ (ofVerdicts directory verdicts).problems = [] := by
  have unnamed : namedFiles verdicts = [] := by
    refine List.eq_nil_iff_forall_not_mem.mpr fun named member => ?_
    obtain ⟨v, judged, hasName⟩ := mem_namedFiles_iff.mp member
    rw [packageName?_eq_none_of_isIgnored (ignored named.2 v judged)] at hasName
    cases hasName
  constructor
  · refine List.eq_nil_iff_forall_not_mem.mpr fun path taken => ?_
    obtain ⟨v, member, selected⟩ := mem_files_iff.mp taken
    have := ignored path v member
    cases v <;> simp_all [Verdict.isSelected, Verdict.isIgnored]
  · refine List.append_eq_nil_iff.mpr ⟨?_, ?_⟩
    · refine List.filterMap_eq_nil_iff.mpr fun judged member => ?_
      exact problem?_eq_none_of_isIgnored (ignored judged.1 judged.2 member)
    · change (if (firstFiles (namedFiles verdicts)).length > 1 then _ else []) = []
      rw [unnamed]
      rfl

/-- Whatever name a file has is the name of a first file. -/
theorem name_mem_firstFiles {name : String} {named : List (String × SlashPath)}
    (member : name ∈ named.map Prod.fst) : name ∈ (firstFiles named).map Prod.fst := by
  induction named with
  | nil => exact member
  | cons first rest ih =>
    obtain ⟨other, path⟩ := first
    rw [firstFiles, List.map_cons, List.mem_cons]
    by_cases same : name = other
    · exact .inl same
    · have later := ih ((List.mem_cons.mp member).resolve_left same)
      obtain ⟨file, found, rfl⟩ := List.mem_map.mp later
      exact .inr (List.mem_map.mpr ⟨file, List.mem_filter.mpr ⟨found, by simpa using same⟩, rfl⟩)

/-- In a package without problems, the files that have a package name have that of the package. -/
theorem packageName?_of_clean {v : Verdict} {name : String}
    (clean : (ofVerdicts directory verdicts).problems = []) (member : (path, v) ∈ verdicts)
    (hasName : v.packageName? = some name) : (ofVerdicts directory verdicts).name = name := by
  obtain ⟨-, unmixed⟩ := List.append_eq_nil_iff.mp clean
  have listed : name ∈ (firstFiles (namedFiles verdicts)).map Prod.fst := by
    apply name_mem_firstFiles
    exact List.mem_map.mpr ⟨(name, path), mem_namedFiles_iff.mpr ⟨v, member, hasName⟩, rfl⟩
  change (if (firstFiles (namedFiles verdicts)).length > 1 then _ else []) = [] at unmixed
  change ((firstFiles (namedFiles verdicts)).head?.map Prod.fst).getD directory.name = name
  -- Two first files would be mixed, so the one that has this name is the first.
  generalize firstFiles (namedFiles verdicts) = named at listed unmixed ⊢
  rcases named with _ | ⟨first, _ | ⟨second, rest⟩⟩
  · cases listed
  · simpa [eq_comm] using listed
  · simp at unmixed

end Verdicts

/-- A file as a package gets it: its path, and what reading it gives. -/
abbrev Candidate := SlashPath × Except ReadError ByteArray

def judged (context : Build.Context) (files : List Candidate) : List (SlashPath × Verdict) :=
  files.map fun file => (file.1, judge context file.1 file.2)

/-- The package of some files with their sources. -/
@[irreducible] def built (context : Build.Context) (directory : SlashPath)
    (files : List (SlashPath × ByteArray)) : Package :=
  ofVerdicts directory (files.map fun file => (file.1, judge context file.1 (.ok file.2)))

theorem logExclusion_returns (judged : SlashPath × Verdict) : (logExclusion judged).Returns () [] := by
  unfold logExclusion
  split <;> exact ⟨rfl, rfl⟩

theorem ofFiles_congr {context : Build.Context} (directory : SlashPath)
    {files files' : List (SlashPath × Except ReadError ByteArray)}
    (same : files.map (fun file => (file.1, judge context file.1 file.2)) =
      files'.map fun file => (file.1, judge context file.1 file.2)) :
    ofFiles directory files context = ofFiles directory files' context := by
  unfold ofFiles
  change (let verdicts := files.map fun file => (file.1, judge context file.1 file.2); _) = _
  rw [same]

theorem ofFiles_judged (context : Build.Context) (directory : SlashPath) (files : List Candidate) :
    (ofFiles directory files context).Returns (ofVerdicts directory (judged context files)) [] := by
  unfold ofFiles
  exact (Run.Returns.forEach fun verdict _ => logExclusion_returns verdict).bind (Run.Returns.pure _)

theorem ofFiles_returns (context : Build.Context) (directory : SlashPath)
    (files : List (SlashPath × ByteArray)) :
    (ofFiles directory (files.map fun file => (file.1, .ok file.2)) context).Returns
      (built context directory files) [] := by
  have formed := ofFiles_judged context directory (files.map fun file => (file.1, .ok file.2))
  rw [judged, List.map_map] at formed
  unfold built
  exact formed

section Built

variable {context : Build.Context} {directory path : SlashPath} {files : List (SlashPath × ByteArray)}

@[simp] theorem built_directory : (built context directory files).directory = directory := by
  unfold built
  rfl

theorem mem_judged_iff {v : Verdict} :
    (path, v) ∈ files.map (fun file => (file.1, judge context file.1 (.ok file.2))) ↔
      ∃ source, (path, source) ∈ files ∧ judge context path (.ok source) = v := by
  simp only [List.mem_map, Prod.mk.injEq, Prod.exists]
  constructor
  · rintro ⟨_, source, member, rfl, verdict⟩
    exact ⟨source, member, verdict⟩
  · rintro ⟨source, member, verdict⟩
    exact ⟨path, source, member, rfl, verdict⟩

theorem mem_files_built : path ∈ (built context directory files).files ↔
    ∃ source, (path, source) ∈ files ∧ Takes context path.name source := by
  simp only [built, mem_files_iff, mem_judged_iff, ← judge_isSelected_iff]
  constructor
  · rintro ⟨_, ⟨source, member, rfl⟩, selected⟩
    exact ⟨source, member, selected⟩
  · rintro ⟨source, member, selected⟩
    exact ⟨_, ⟨source, member, rfl⟩, selected⟩

theorem mem_ignored_built : path ∈ (built context directory files).ignored ↔
    ∃ source, (path, source) ∈ files ∧ LeavesOut context path.name source := by
  simp only [built, mem_ignored_iff, mem_judged_iff, ← judge_isIgnored_iff]
  constructor
  · rintro ⟨_, ⟨source, member, rfl⟩, ignored⟩
    exact ⟨source, member, ignored⟩
  · rintro ⟨source, member, ignored⟩
    exact ⟨_, ⟨source, member, rfl⟩, ignored⟩

theorem judge_problem_file {source : ByteArray} {problem : Problem}
    (found : (judge context path (.ok source)).problem? path = some problem) : problem.file? = some path := by
  rcases judge_cases context path source with ⟨-, -, verdict⟩ | ⟨-, -, ignored⟩ | ⟨-, -, e, verdict⟩
  · rw [verdict] at found
    cases hasName : (headerOf source).packageName with
    | none =>
      rw [hasName] at found
      cases found
      rfl
    | some name =>
      rw [hasName] at found
      cases found
  · rw [problem?_eq_none_of_isIgnored ignored] at found
    cases found
  · rw [verdict] at found
    cases found
    rfl

/-- A package of files has problems with these files, or that their package names are mixed. -/
theorem built_problem_cases {problem : Problem} (member : problem ∈ (built context directory files).problems) :
    problem.file?.isSome = true ∨ ∃ found, problem = .mixedPackages found directory := by
  unfold built at member
  rcases List.mem_append.mp member with perFile | mixed
  · obtain ⟨⟨path, v⟩, judged, found⟩ := List.mem_filterMap.mp perFile
    obtain ⟨source, -, rfl⟩ := mem_judged_iff.mp judged
    exact .inl (by rw [judge_problem_file found]; rfl)
  · split at mixed
    · exact .inr ⟨_, List.mem_singleton.mp mixed⟩
    · exact absurd mixed List.not_mem_nil

/-- The files of a package, those it ignores and those it has problems with are the files it is built of. -/
theorem built_accounts :
    (path ∈ (built context directory files).files ∨ path ∈ (built context directory files).ignored ∨
      ∃ problem ∈ (built context directory files).problems, problem.file? = some path) ↔
    ∃ source, (path, source) ∈ files := by
  constructor
  · rintro (taken | ignored | ⟨problem, member, about⟩)
    · obtain ⟨source, member, -⟩ := mem_files_built.mp taken
      exact ⟨source, member⟩
    · obtain ⟨source, member, -⟩ := mem_ignored_built.mp ignored
      exact ⟨source, member⟩
    · unfold built at member
      obtain ⟨path', v, judged, found⟩ := verdict_of_mem_problems member about
      obtain ⟨source, member, rfl⟩ := mem_judged_iff.mp judged
      rw [judge_problem_file found] at about
      cases about
      exact ⟨source, member⟩
  · rintro ⟨source, member⟩
    rcases judge_cases context path source with ⟨takes, -⟩ | ⟨left, -⟩ | ⟨-, -, e, verdict⟩
    · exact .inl (mem_files_built.mpr ⟨source, member, takes⟩)
    · exact .inr (.inl (mem_ignored_built.mpr ⟨source, member, left⟩))
    · refine .inr (.inr ⟨.badConstraint path e, ?_, rfl⟩)
      unfold built
      exact mem_problems_of_verdict (mem_judged_iff.mpr ⟨source, member, verdict⟩) rfl

/-- In a package without problems every file is left out, or taken and named like the package. -/
theorem built_of_clean {source : ByteArray} (clean : (built context directory files).problems = [])
    (member : (path, source) ∈ files) :
    LeavesOut context path.name source ∨ Takes context path.name source ∧
      (headerOf source).packageName = some (built context directory files).name := by
  unfold built at clean ⊢
  have none : (judge context path (.ok source)).problem? path = none := by
    cases found : (judge context path (.ok source)).problem? path with
    | none => rfl
    | some problem =>
      have listed : problem ∈ (ofVerdicts directory _).problems :=
        mem_problems_of_verdict (mem_judged_iff.mpr ⟨source, member, rfl⟩) found
      rw [clean] at listed
      cases listed
  rcases judge_cases context path source with ⟨takes, -, verdict⟩ | ⟨left, -⟩ | ⟨-, -, e, verdict⟩
  · rw [verdict] at none
    cases hasName : (headerOf source).packageName with
    | none =>
      rw [hasName] at none
      cases none
    | some name =>
      rw [hasName] at verdict
      have same := packageName?_of_clean clean (mem_judged_iff.mpr ⟨source, member, verdict⟩) rfl
      exact .inr ⟨takes, by rw [same]⟩
  · exact .inl left
  · rw [verdict] at none
    cases none

theorem built_of_all_left_out (left : ∀ file ∈ files, LeavesOut context file.1.name file.2) :
    (built context directory files).files = [] ∧ (built context directory files).problems = [] := by
  unfold built
  refine ofVerdicts_of_all_ignored fun path v judged => ?_
  obtain ⟨source, member, verdict⟩ := mem_judged_iff.mp judged
  rw [← verdict]
  exact judge_isIgnored_iff.mpr (left (path, source) member)

theorem isExcluded_built_iff : (built context directory files).isExcluded = true ↔
    files ≠ [] ∧ ∀ file ∈ files, LeavesOut context file.1.name file.2 := by
  simp only [isExcluded, Bool.and_eq_true, Bool.not_eq_true', List.isEmpty_iff, ← Bool.not_eq_true]
  constructor
  · rintro ⟨⟨ignored, noFiles⟩, clean⟩
    constructor
    · obtain ⟨path, member⟩ := List.exists_mem_of_ne_nil _ ignored
      obtain ⟨source, member, -⟩ := mem_ignored_built.mp member
      exact List.ne_nil_of_mem member
    · rintro ⟨path, source⟩ member
      rcases built_of_clean clean member with left | ⟨takes, -⟩
      · exact left
      · have listed : path ∈ (built context directory files).files :=
          mem_files_built.mpr ⟨source, member, takes⟩
        rw [noFiles] at listed
        cases listed
  · rintro ⟨nonempty, left⟩
    refine ⟨⟨fun none => ?_, (built_of_all_left_out left).1⟩, (built_of_all_left_out left).2⟩
    obtain ⟨⟨path, source⟩, member⟩ := List.exists_mem_of_ne_nil files nonempty
    have listed : path ∈ (built context directory files).ignored :=
      mem_ignored_built.mpr ⟨source, member, left (path, source) member⟩
    rw [none] at listed
    cases listed

end Built

section Folder

variable {directory : SlashPath} {entries : List (String × FileTree)}

theorem mem_sources_iff {name : String} {content : ByteArray} :
    (name, content) ∈ sources entries ↔ (name, .file content) ∈ entries ∧ isSourceName name = true := by
  simp only [sources, List.mem_mergeSort, List.mem_filterMap]
  constructor
  · rintro ⟨⟨name', tree⟩, member, found⟩
    cases tree with
    | folder inner => cases found
    | file content' =>
      simp only [sourceOf?] at found
      split at found
      · rename_i accepted
        cases found
        exact ⟨member, accepted⟩
      · cases found
  · rintro ⟨member, accepted⟩
    exact ⟨(name, .file content), member, by simp [sourceOf?, accepted]⟩

theorem sourceOf?_name {e : String × FileTree} {source : String × ByteArray} (found : sourceOf? e = some source) :
    source.1 = e.1 := by
  obtain ⟨name, tree⟩ := e
  cases tree with
  | folder inner => cases found
  | file content =>
    simp only [sourceOf?] at found
    split at found
    · cases found
      rfl
    · cases found

theorem unsorted_sources_nodup (distinct : (entries.map Prod.fst).Nodup) :
    ((entries.filterMap sourceOf?).map Prod.fst).Nodup := by
  refine distinct.sublist ?_
  induction entries with
  | nil => exact .refl _
  | cons e rest ih =>
    have later := ih (List.nodup_cons.mp distinct).2
    cases found : sourceOf? e with
    | none =>
      rw [List.filterMap_cons_none found]
      exact later.cons _
    | some source =>
      rw [List.filterMap_cons_some found, List.map_cons, List.map_cons, sourceOf?_name found]
      exact later.cons_cons _

/-- The source files of a folder at a path. -/
def folderFiles (directory : SlashPath) (entries : List (String × FileTree)) : List (SlashPath × ByteArray) :=
  (sources entries).map fun source => (directory.child source.1, source.2)

theorem mem_folderFiles_iff {path : SlashPath} {content : ByteArray} :
    (path, content) ∈ folderFiles directory entries ↔ ∃ name, path = directory.child name ∧
      (name, .file content) ∈ entries ∧ isSourceName name = true := by
  simp only [folderFiles, List.mem_map, Prod.exists, Prod.mk.injEq, mem_sources_iff]
  constructor
  · rintro ⟨name, _, accepted, rfl, rfl⟩
    exact ⟨name, rfl, accepted⟩
  · rintro ⟨name, rfl, accepted⟩
    exact ⟨name, content, accepted, rfl, rfl⟩

theorem folderFiles_ne_nil (nonempty : sources entries ≠ []) : folderFiles directory entries ≠ [] := by
  simpa [folderFiles] using nonempty

theorem ofFolder_eq (context : Build.Context) (nonempty : sources entries ≠ []) :
    ofFolder directory entries context =
      ofFiles directory ((folderFiles directory entries).map fun file => (file.1, .ok file.2)) context := by
  unfold ofFolder folderFiles
  rw [List.map_map]
  split
  · contradiction
  · rfl

theorem ofFolder_returns (context : Build.Context) (nonempty : sources entries ≠ []) :
    (ofFolder directory entries context).Returns (built context directory (folderFiles directory entries)) [] := by
  rw [ofFolder_eq context nonempty]
  exact ofFiles_returns context directory (folderFiles directory entries)

end Folder

end Package

end SliceGrowth
