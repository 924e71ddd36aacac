import Mathlib.Data.List.Nodup
import SliceGrowth.Proofs.Package.Files

/-!
How a package accounts for the files it is formed of. Each file is taken, or ignored, or has one problem that keeps it
from both; a file that is taken has a problem only if it lacks a package clause. What else a package can have is one
problem, the last, that package names are mixed.
-/
namespace SliceGrowth

theorem Problem.message_of_file {problem : Problem} {path : SlashPath} (about : problem.file? = some path) :
    ∃ cause, problem.message = path.text ++ ": " ++ cause := by
  cases problem with
  | unreadable path cause =>
    cases about
    exact ⟨_, rfl⟩
  | badConstraint path error =>
    cases about
    exact ⟨_, rfl⟩
  | noPackageClause path =>
    cases about
    refine ⟨"expected package clause", ?_⟩
    rw [String.append_assoc]
    rfl
  | _ => cases about

namespace Package

/-- The problems of a package that are about one file. -/
def problemsWith (p : Package) (path : SlashPath) : List Problem := p.problems.filter (·.file? == some path)

/-- What the verdicts on single files tell, before the names are compared. -/
def fileProblems (verdicts : List (SlashPath × Verdict)) : List Problem :=
  verdicts.filterMap fun judged => judged.2.problem? judged.1

section Verdicts

variable {path : SlashPath} {verdicts : List (SlashPath × Verdict)} {v : Verdict}

theorem verdicts_at_path (distinct : (verdicts.map Prod.fst).Nodup) (member : (path, v) ∈ verdicts) :
    verdicts.filter (·.1 == path) = [(path, v)] := by
  induction verdicts with
  | nil => cases member
  | cons first rest ih =>
    obtain ⟨absent, distinct⟩ := List.nodup_cons.mp distinct
    rw [List.filter_cons]
    rcases List.mem_cons.mp member with rfl | later
    · have none : rest.filter (·.1 == path) = [] := by
        refine List.filter_eq_nil_iff.mpr fun other listed same => absent ?_
        rw [← eq_of_beq same]
        exact List.mem_map.mpr ⟨other, listed, rfl⟩
      simp [none]
    · have apart : first.1 ≠ path := by
        intro same
        exact absent (List.mem_map.mpr ⟨(path, v), later, same.symm⟩)
      simp [apart, ih distinct later]

theorem mem_kept_iff (keep : Verdict → Bool) (distinct : (verdicts.map Prod.fst).Nodup)
    (member : (path, v) ∈ verdicts) : path ∈ (verdicts.filter (keep ·.2)).map Prod.fst ↔ keep v = true := by
  rw [List.mem_map]
  constructor
  · rintro ⟨other, listed, same⟩
    obtain ⟨listed, kept⟩ := List.mem_filter.mp listed
    cases List.inj_on_of_nodup_map distinct member listed same.symm
    exact kept
  · intro kept
    exact ⟨(path, v), List.mem_filter.mpr ⟨member, kept⟩, rfl⟩

theorem isSelected_eq_false_of_isIgnored (ignored : v.isIgnored = true) : v.isSelected = false := by
  cases v <;> simp_all [Verdict.isIgnored, Verdict.isSelected]

theorem ofVerdicts_problems (directory : SlashPath) (verdicts : List (SlashPath × Verdict)) :
    ∃ mixed, (ofVerdicts directory verdicts).problems = fileProblems verdicts ++ mixed ∧
      (mixed = [] ∨ ∃ found, mixed = [.mixedPackages found directory]) := by
  refine ⟨_, rfl, ?_⟩
  split
  · exact .inr ⟨_, rfl⟩
  · exact .inl rfl

/-- The problems about a file are those that its own verdict tells. -/
theorem problemsWith_ofVerdicts (directory : SlashPath) (distinct : (verdicts.map Prod.fst).Nodup)
    (member : (path, v) ∈ verdicts)
    (own : ∀ other ∈ verdicts, ∀ problem, other.2.problem? other.1 = some problem → problem.file? = some other.1) :
    (ofVerdicts directory verdicts).problemsWith path = (v.problem? path).toList := by
  obtain ⟨mixed, problems, rest⟩ := ofVerdicts_problems directory verdicts
  have aboutNone : mixed.filter (·.file? == some path) = [] := by
    rcases rest with rfl | ⟨found, rfl⟩ <;> rfl
  -- A verdict tells only of its own file, so the problems about a file come from the verdicts on it.
  have aboutOne : (fileProblems verdicts).filter (·.file? == some path) =
      (verdicts.filter (·.1 == path)).filterMap fun judged => judged.2.problem? judged.1 := by
    rw [fileProblems, List.filter_filterMap, List.filterMap_filter]
    refine List.filterMap_congr fun other listed => ?_
    cases told : other.2.problem? other.1 with
    | none => simp
    | some problem => simp [Option.filter, own other listed problem told]
  rw [problemsWith, problems, List.filter_append, aboutNone, aboutOne, verdicts_at_path distinct member]
  cases told : v.problem? path <;> simp [told]

end Verdicts

section Judged

variable {context : Build.Context} {directory path : SlashPath} {files : List Candidate}

theorem judge_unreadable (matching : context.matchesFileName path.name = true) (cause : ReadError) :
    judge context path (.error cause) = .broken (.unreadable path cause) := by
  simp [judge, matching]

theorem judge_unreadable_isSelected (context : Build.Context) (path : SlashPath) (cause : ReadError) :
    (judge context path (.error cause)).isSelected = false := by
  cases matching : context.matchesFileName path.name with
  | false => rw [judge_of_otherName _ matching]; rfl
  | true => rw [judge_unreadable matching]; rfl

theorem judge_unreadable_isIgnored (context : Build.Context) (path : SlashPath) (cause : ReadError) :
    (judge context path (.error cause)).isIgnored = !context.matchesFileName path.name := by
  cases matching : context.matchesFileName path.name with
  | false => rw [judge_of_otherName _ matching]; rfl
  | true => rw [judge_unreadable matching]; rfl

theorem refused_of_broken {source : ByteArray} {error : Build.ConstraintError}
    (verdict : judge context path (.ok source) = .broken (.badConstraint path error)) :
    ∃ expression, (headerOf source).constraint = some expression ∧ Build.evaluate expression context = .error error := by
  cases matching : context.matchesFileName path.name with
  | false =>
    rw [judge_of_otherName _ matching] at verdict
    cases verdict
  | true =>
    rw [judge_of_matching source matching] at verdict
    split at verdict
    · cases verdict
    · split at verdict
      · cases verdict
        exact ⟨_, ‹_›, ‹_›⟩
      · cases verdict
      · cases verdict

theorem map_fst_judged (context : Build.Context) (files : List Candidate) :
    (judged context files).map Prod.fst = files.map Prod.fst := by
  rw [judged, List.map_map]
  rfl

theorem judged_problem_file {verdict : SlashPath × Verdict} (member : verdict ∈ judged context files)
    {problem : Problem} (told : verdict.2.problem? verdict.1 = some problem) : problem.file? = some verdict.1 := by
  obtain ⟨⟨path, content⟩, -, rfl⟩ := List.mem_map.mp member
  dsimp only at told ⊢
  cases content with
  | ok source => exact judge_problem_file told
  | error cause =>
    cases matching : context.matchesFileName path.name with
    | false =>
      rw [judge_of_otherName _ matching] at told
      cases told
    | true =>
      rw [judge_unreadable matching] at told
      cases told
      rfl

/-- What becomes of one file in a package: where it is listed, and all that is told about it. -/
inductive Accounted (context : Build.Context) (p : Package) : Candidate → Prop where
  | taken {path : SlashPath} {source : ByteArray} (takes : Takes context path.name source) (listed : path ∈ p.files)
    (notIgnored : path ∉ p.ignored)
    (told : p.problemsWith path =
      if (headerOf source).packageName = none then [.noPackageClause path] else []) : Accounted context p (path, .ok source)
  | otherName {path : SlashPath} {content : Except ReadError ByteArray}
    (other : context.matchesFileName path.name = false) (listed : path ∈ p.ignored) (notTaken : path ∉ p.files)
    (told : p.problemsWith path = []) : Accounted context p (path, content)
  | excluded {path : SlashPath} {source : ByteArray} {expression : String}
    (matching : context.matchesFileName path.name = true) (line : (headerOf source).constraint = some expression)
    (value : Build.evaluate expression context = .ok false) (listed : path ∈ p.ignored) (notTaken : path ∉ p.files)
    (told : p.problemsWith path = []) : Accounted context p (path, .ok source)
  | unreadable {path : SlashPath} {cause : ReadError} (matching : context.matchesFileName path.name = true)
    (notTaken : path ∉ p.files) (notIgnored : path ∉ p.ignored)
    (told : p.problemsWith path = [.unreadable path cause]) : Accounted context p (path, .error cause)
  | malformed {path : SlashPath} {source : ByteArray} {expression : String} {error : Build.ConstraintError}
    (matching : context.matchesFileName path.name = true) (line : (headerOf source).constraint = some expression)
    (refused : Build.evaluate expression context = .error error) (notTaken : path ∉ p.files)
    (notIgnored : path ∉ p.ignored) (told : p.problemsWith path = [.badConstraint path error]) :
    Accounted context p (path, .ok source)

theorem Accounted.not_ignored_of_taken {p : Package} {file : Candidate} (accounted : Accounted context p file)
    (taken : file.1 ∈ p.files) : file.1 ∉ p.ignored := by
  cases accounted with
  | taken _ _ notIgnored => exact notIgnored
  | otherName _ _ notTaken => exact absurd taken notTaken
  | excluded _ _ _ _ notTaken => exact absurd taken notTaken
  | unreadable _ notTaken => exact absurd taken notTaken
  | malformed _ _ _ notTaken => exact absurd taken notTaken

theorem judged_accounted {file : Candidate} (distinct : (files.map Prod.fst).Nodup) (member : file ∈ files) :
    Accounted context (ofVerdicts directory (judged context files)) file := by
  obtain ⟨path, content⟩ := file
  have verdict : (path, judge context path content) ∈ judged context files := List.mem_map.mpr ⟨_, member, rfl⟩
  rw [← map_fst_judged context] at distinct
  have inFiles : path ∈ (ofVerdicts directory (judged context files)).files ↔ _ :=
    mem_kept_iff Verdict.isSelected distinct verdict
  have inIgnored : path ∈ (ofVerdicts directory (judged context files)).ignored ↔ _ :=
    mem_kept_iff Verdict.isIgnored distinct verdict
  have told := problemsWith_ofVerdicts directory distinct verdict fun _ member _ => judged_problem_file member
  cases matching : context.matchesFileName path.name with
  | false =>
    rw [judge_of_otherName _ matching] at inFiles inIgnored told
    exact .otherName matching (inIgnored.mpr rfl) (by simp [inFiles, Verdict.isSelected]) told
  | true =>
    cases content with
    | error cause =>
      rw [judge_unreadable matching] at inFiles inIgnored told
      exact .unreadable matching (by simp [inFiles, Verdict.isSelected]) (by simp [inIgnored, Verdict.isIgnored]) told
    | ok source =>
      rcases judge_cases context path source with ⟨takes, -, verdict⟩ | ⟨left, -, ignored⟩ | ⟨-, -, error, verdict⟩
      · rw [verdict] at inFiles inIgnored told
        refine .taken takes (inFiles.mpr rfl) (by simp [inIgnored, Verdict.isIgnored]) ?_
        rw [told]
        cases (headerOf source).packageName <;> rfl
      · -- The name matches, so it is the build line that leaves the file out.
        obtain ⟨expression, line, value⟩ := left.resolve_left (by simp [matching])
        rw [problem?_eq_none_of_isIgnored ignored] at told
        refine .excluded matching line value (inIgnored.mpr ignored) (fun taken => ?_) told
        rw [isSelected_eq_false_of_isIgnored ignored] at inFiles
        cases inFiles.mp taken
      · obtain ⟨expression, line, refused⟩ := refused_of_broken verdict
        rw [verdict] at inFiles inIgnored told
        exact .malformed matching line refused (by simp [inFiles, Verdict.isSelected])
          (by simp [inIgnored, Verdict.isIgnored]) told

/-- The package lists, in the order it is given them, the files it takes and those it ignores, accounts for each file,
and has no other problem than that names are mixed, which is told last. -/
structure AccountsForEach (context : Build.Context) (files : List Candidate) (p : Package) : Prop where
  takenInOrder : p.files.Sublist (files.map Prod.fst)
  ignoredInOrder : p.ignored.Sublist (files.map Prod.fst)
  disjoint : p.files.Disjoint p.ignored
  each : ∀ file ∈ files, Accounted context p file
  further : ∃ single mixed, p.problems = single ++ mixed ∧
    (∀ problem ∈ single, ∃ file ∈ files, problem.file? = some file.1 ∧
      ∃ cause, problem.message = file.1.text ++ ": " ++ cause) ∧
    (mixed = [] ∨ ∃ found, mixed = [.mixedPackages found p.directory])

theorem judged_accountsForEach (distinct : (files.map Prod.fst).Nodup) :
    AccountsForEach context files (ofVerdicts directory (judged context files)) where
  takenInOrder := by
    rw [← map_fst_judged context]
    exact files_sublist
  ignoredInOrder := by
    rw [← map_fst_judged context]
    exact ignored_sublist
  disjoint := by
    intro path taken ignored
    have given := files_sublist.subset taken
    rw [map_fst_judged] at given
    obtain ⟨file, member, rfl⟩ := List.mem_map.mp given
    exact (judged_accounted distinct member).not_ignored_of_taken taken ignored
  each _ member := judged_accounted distinct member
  further := by
    obtain ⟨mixed, problems, rest⟩ := ofVerdicts_problems directory (judged context files)
    refine ⟨_, mixed, problems, fun problem told => ?_, rest⟩
    obtain ⟨verdict, listed, told⟩ := List.mem_filterMap.mp told
    obtain ⟨file, member, rfl⟩ := List.mem_map.mp listed
    have about := judged_problem_file listed told
    exact ⟨file, member, about, Problem.message_of_file about⟩

end Judged

/-- No file is lost or counted twice when a package is formed. -/
theorem forming_accounts_for_each_file (directory : SlashPath) (files : List Candidate) (context : Build.Context)
    (distinct : (files.map Prod.fst).Nodup) :
    ∃ p, (ofFiles directory files context).outcome = .ok p ∧ p.directory = directory ∧
      AccountsForEach context files p :=
  ⟨_, (ofFiles_judged context directory files).outcome, rfl, judged_accountsForEach distinct⟩

/-- A file that cannot be read, one that is for another system, and one that is empty. -/
def threeFiles : List Candidate :=
  [(.ofString "a.go", .error .notFound), (.ofString "b_windows.go", .error .isFolder), (.ofString "c.go", .ok .empty)]

theorem judged_threeFiles : judged ⟨"linux", "amd64", []⟩ threeFiles =
    [(.ofString "a.go", .broken (.unreadable (.ofString "a.go") .notFound)), (.ofString "b_windows.go", .otherName),
      (.ofString "c.go", .selected none)] := by
  have first : Build.Context.matchesFileName ⟨"linux", "amd64", []⟩ (SlashPath.ofString "a.go").name = true := by
    decide +kernel
  have second : Build.Context.matchesFileName ⟨"linux", "amd64", []⟩ (SlashPath.ofString "b_windows.go").name = false := by
    decide +kernel
  have third : Build.Context.matchesFileName ⟨"linux", "amd64", []⟩ (SlashPath.ofString "c.go").name = true := by
    decide +kernel
  simp only [judged, threeFiles, List.map_cons, List.map_nil, judge_unreadable first, judge_of_otherName _ second,
    judge_of_matching _ third, headerOf_empty]

theorem forming_accounts_for_each_file_three :
    (threeFiles.map Prod.fst).Nodup ∧
    ∃ p, (ofFiles .here threeFiles ⟨"linux", "amd64", []⟩).outcome = .ok p ∧ p.directory = .here ∧
      AccountsForEach ⟨"linux", "amd64", []⟩ threeFiles p ∧
      p.files = [.ofString "c.go"] ∧ p.ignored = [.ofString "b_windows.go"] ∧
      p.problems = [.unreadable (.ofString "a.go") .notFound, .noPackageClause (.ofString "c.go")] := by
  have distinct : (threeFiles.map Prod.fst).Nodup := by decide
  obtain ⟨p, formed, place, accounts⟩ :=
    forming_accounts_for_each_file .here threeFiles ⟨"linux", "amd64", []⟩ distinct
  refine ⟨distinct, p, formed, place, accounts, ?_⟩
  rw [(ofFiles_judged _ _ _).outcome, judged_threeFiles] at formed
  cases formed
  exact ⟨rfl, rfl, rfl⟩

end Package

end SliceGrowth
