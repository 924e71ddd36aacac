import SliceGrowth.Proofs.Package.Formed

/-!
What a package is called. The files that the build takes and that have a package clause give it the first of their
names; if there are two names, each is told once, with the first file that has it. No other file has a part in this.
-/
namespace SliceGrowth

def Problem.isMixture : Problem → Bool
  | mixedPackages _ _ => true
  | _ => false

namespace Package

/-- The list has each name of `named` once, in the order in which they first occur, with the file that has it first. -/
structure ListsFirst (named found : List (String × SlashPath)) : Prop where
  once : (found.map Prod.fst).Nodup
  all : ∀ name, name ∈ found.map Prod.fst ↔ name ∈ named.map Prod.fst
  first : ∀ file ∈ found, ∃ before after, named = before ++ file :: after ∧ file.1 ∉ before.map Prod.fst
  inOrder : found.Pairwise fun file later =>
    (named.map Prod.fst).idxOf file.1 < (named.map Prod.fst).idxOf later.1

namespace ListsFirst

variable {named found : List (String × SlashPath)}

theorem nil : ListsFirst [] [] := ⟨.nil, fun _ => .rfl, nofun, .nil⟩

theorem mem_others_iff (name other : String) :
    other ∈ (found.filter (·.1 ≠ name)).map Prod.fst ↔ other ∈ found.map Prod.fst ∧ other ≠ name := by
  simp only [List.mem_map, List.mem_filter, decide_eq_true_eq]
  constructor
  · rintro ⟨file, ⟨member, apart⟩, rfl⟩
    exact ⟨⟨file, member, rfl⟩, apart⟩
  · rintro ⟨⟨file, member, rfl⟩, apart⟩
    exact ⟨file, ⟨member, apart⟩, rfl⟩

/-- A file in front of the others has its name first, whichever file had it before. -/
theorem cons (lists : ListsFirst named found) (name : String) (path : SlashPath) :
    ListsFirst ((name, path) :: named) ((name, path) :: found.filter (·.1 ≠ name)) where
  once := by
    refine List.nodup_cons.mpr ⟨fun again => ?_, lists.once.sublist (List.filter_sublist.map Prod.fst)⟩
    exact ((mem_others_iff name name).mp again).2 rfl
  all := by
    intro other
    rw [List.map_cons, List.map_cons, List.mem_cons, List.mem_cons, mem_others_iff, lists.all]
    by_cases same : other = name <;> simp [same]
  first := by
    intro file listed
    rcases List.mem_cons.mp listed with rfl | kept
    · exact ⟨[], named, rfl, nofun⟩
    · obtain ⟨member, apart⟩ := List.mem_filter.mp kept
      obtain ⟨before, after, split, fresh⟩ := lists.first file member
      refine ⟨(name, path) :: before, after, by rw [split]; rfl, fun earlier => ?_⟩
      exact fresh ((List.mem_cons.mp earlier).resolve_left (of_decide_eq_true apart))
  inOrder := by
    have later : ∀ file ∈ found.filter (·.1 ≠ name),
        (((name, path) :: named).map Prod.fst).idxOf file.1 = (named.map Prod.fst).idxOf file.1 + 1 := by
      intro file kept
      have apart : file.1 ≠ name := of_decide_eq_true (List.mem_filter.mp kept).2
      exact List.idxOf_cons_ne _ apart.symm
    refine List.pairwise_cons.mpr ⟨fun file kept => ?_, ?_⟩
    · rw [later file kept, List.map_cons, List.idxOf_cons_self]
      omega
    · refine (lists.inOrder.filter _).imp_of_mem fun first second before => ?_
      rw [later _ first, later _ second]
      omega

/-- Two names are listed exactly if there are two. -/
theorem length_gt_one_iff (lists : ListsFirst named found) :
    found.length > 1 ↔ ∃ file ∈ named, ∃ other ∈ named, file.1 ≠ other.1 := by
  constructor
  · intro two
    rcases found with _ | ⟨first, _ | ⟨second, rest⟩⟩
    · cases two
    · exact absurd two (Nat.lt_irrefl 1)
    obtain ⟨file, member, same⟩ := List.mem_map.mp ((lists.all first.1).mp (by simp))
    obtain ⟨other, member', same'⟩ := List.mem_map.mp ((lists.all second.1).mp (by simp))
    have apart : first.1 ≠ second.1 := by
      intro again
      exact (List.nodup_cons.mp lists.once).1 (by simp [again])
    exact ⟨file, member, other, member', by rwa [same, same']⟩
  · rintro ⟨file, member, other, member', apart⟩
    have listed := (lists.all file.1).mpr (List.mem_map_of_mem member)
    have listed' := (lists.all other.1).mpr (List.mem_map_of_mem member')
    rcases found with _ | ⟨first, _ | ⟨second, rest⟩⟩
    · cases listed
    · exact absurd ((List.mem_singleton.mp listed).trans (List.mem_singleton.mp listed').symm) apart
    · exact Nat.succ_lt_succ (Nat.succ_pos _)

end ListsFirst

theorem firstFiles_listsFirst (named : List (String × SlashPath)) : ListsFirst named (firstFiles named) := by
  induction named with
  | nil => exact .nil
  | cons file named ih => exact ih.cons file.1 file.2

example : firstFiles [("a", .ofString "x.go"), ("b", .ofString "y.go"), ("a", .ofString "z.go")] =
    [("a", .ofString "x.go"), ("b", .ofString "y.go")] := by decide

section Taken

variable {context : Build.Context}

instance (context : Build.Context) (path : SlashPath) (source : ByteArray) :
    Decidable (Takes context path.name source) := decidable_of_iff _ judge_isSelected_iff

/-- A file that can be read and that the build takes, with its source. -/
def taken? (context : Build.Context) : Candidate → Option (SlashPath × ByteArray)
  | (path, .ok source) => if Takes context path.name source then some (path, source) else none
  | (_, .error _) => none

def takenFiles (context : Build.Context) (files : List Candidate) : List (SlashPath × ByteArray) :=
  files.filterMap (taken? context)

/-- The names in the package clauses of some sources, with the files that have them. -/
def clauses (sources : List (SlashPath × ByteArray)) : List (String × SlashPath) :=
  sources.filterMap fun file => (headerOf file.2).packageName.map (·, file.1)

theorem judge_of_taken {file : Candidate} {taken : SlashPath × ByteArray} (found : taken? context file = some taken) :
    taken.1 = file.1 ∧ judge context file.1 file.2 = .selected (headerOf taken.2).packageName := by
  obtain ⟨path, _ | source⟩ := file
  · cases found
  · simp only [taken?, Option.ite_none_right_eq_some, Option.some.injEq] at found
    obtain ⟨takes, rfl⟩ := found
    rcases judge_cases context path source with ⟨-, -, verdict⟩ | ⟨-, other, -⟩ | ⟨other, -⟩
    · exact ⟨rfl, verdict⟩
    · exact absurd takes other
    · exact absurd takes other

theorem judge_of_untaken {file : Candidate} (untaken : taken? context file = none) :
    (judge context file.1 file.2).isSelected = false := by
  obtain ⟨path, cause | source⟩ := file
  · exact judge_unreadable_isSelected context path cause
  · rw [← Bool.not_eq_true, judge_isSelected_iff]
    simpa [taken?] using untaken

theorem packageName?_of_unselected {v : Verdict} (other : v.isSelected = false) : v.packageName? = none := by
  cases v <;> simp_all [Verdict.isSelected, Verdict.packageName?]

theorem files_judged (context : Build.Context) (directory : SlashPath) (files : List Candidate) :
    (ofVerdicts directory (judged context files)).files = (takenFiles context files).map Prod.fst := by
  change ((judged context files).filter (·.2.isSelected)).map Prod.fst = _
  induction files with
  | nil => rfl
  | cons file files ih =>
    rw [judged, List.map_cons, takenFiles]
    cases found : taken? context file with
    | none =>
      rw [List.filter_cons_of_neg (by simp [judge_of_untaken found]), List.filterMap_cons_none found]
      exact ih
    | some taken =>
      obtain ⟨place, verdict⟩ := judge_of_taken found
      rw [List.filter_cons_of_pos (by simp [verdict, Verdict.isSelected]), List.filterMap_cons_some found,
        List.map_cons, List.map_cons, place]
      exact congrArg (file.1 :: ·) ih

theorem namedFiles_judged (context : Build.Context) (files : List Candidate) :
    namedFiles (judged context files) = clauses (takenFiles context files) := by
  rw [namedFiles, judged, clauses, takenFiles, List.filterMap_map, List.filterMap_filterMap]
  refine List.filterMap_congr fun file _ => ?_
  cases found : taken? context file with
  | none => simp [packageName?_of_unselected (judge_of_untaken found)]
  | some taken =>
    obtain ⟨place, verdict⟩ := judge_of_taken found
    simp [verdict, place, Verdict.packageName?]

/-- What a package has to tell about mixed names. -/
def mixtures (p : Package) : List Problem := p.problems.filter Problem.isMixture

theorem isMixture_eq_false {problem : Problem} {path : SlashPath} (about : problem.file? = some path) :
    problem.isMixture = false := by
  cases problem with
  | mixedPackages _ _ => cases about
  | _ => rfl

theorem mixtures_judged (context : Build.Context) (directory : SlashPath) (files : List Candidate) :
    (ofVerdicts directory (judged context files)).mixtures =
      if (firstFiles (clauses (takenFiles context files))).length > 1 then
        [.mixedPackages (firstFiles (clauses (takenFiles context files))) directory]
      else [] := by
  have single : (fileProblems (judged context files)).filter Problem.isMixture = [] := by
    refine List.filter_eq_nil_iff.mpr fun problem told => ?_
    obtain ⟨verdict, listed, told⟩ := List.mem_filterMap.mp told
    simp [isMixture_eq_false (judged_problem_file listed told)]
  have problems : (ofVerdicts directory (judged context files)).problems =
      fileProblems (judged context files) ++
        if (firstFiles (namedFiles (judged context files))).length > 1 then
          [.mixedPackages (firstFiles (namedFiles (judged context files))) directory]
        else [] := rfl
  rw [mixtures, problems, List.filter_append, single, namedFiles_judged, List.nil_append]
  split <;> rfl

theorem head?_firstFiles (named : List (String × SlashPath)) : (firstFiles named).head? = named.head? := by
  cases named <;> rfl

end Taken

/-- The package is called after the first of the names, or else after its directory, and tells which names there are
if there are two. -/
structure NamedBy (named : List (String × SlashPath)) (directory : SlashPath) (p : Package) : Prop where
  name : p.name = (named.head?.map Prod.fst).getD directory.name
  mixed : (∃ file ∈ named, ∃ other ∈ named, file.1 ≠ other.1) →
    ∃ found, ListsFirst named found ∧ p.mixtures = [.mixedPackages found directory] ∧
      p.mixtures.map Problem.message =
        ["found packages " ++ " and ".intercalate (found.map fun file => file.1 ++ " (" ++ file.2.name ++ ")") ++
          " in " ++ directory.text]
  unmixed : (∀ file ∈ named, ∀ other ∈ named, file.1 = other.1) → p.mixtures = []

theorem judged_namedBy (context : Build.Context) (directory : SlashPath) (files : List Candidate) :
    NamedBy (clauses (takenFiles context files)) directory (ofVerdicts directory (judged context files)) where
  name := by
    change ((firstFiles (namedFiles (judged context files))).head?.map Prod.fst).getD directory.name = _
    rw [namedFiles_judged, head?_firstFiles]
  mixed := by
    intro two
    have lists := firstFiles_listsFirst (clauses (takenFiles context files))
    have told := mixtures_judged context directory files
    rw [if_pos (lists.length_gt_one_iff.mpr two)] at told
    exact ⟨_, lists, told, by rw [told]; rfl⟩
  unmixed := by
    intro same
    rw [mixtures_judged, if_neg]
    intro two
    obtain ⟨file, member, other, member', apart⟩ := (firstFiles_listsFirst _).length_gt_one_iff.mp two
    exact apart (same file member other member')

/-- A package is called and tells mixed names by the files that the build takes and that have a package clause, and
by no other file. -/
theorem forming_names_exactly (directory : SlashPath) (files : List Candidate) (context : Build.Context) :
    ∃ p, (ofFiles directory files context).outcome = .ok p ∧ p.files = (takenFiles context files).map Prod.fst ∧
      NamedBy (clauses (takenFiles context files)) directory p ∧
      ∀ others, takenFiles context others = takenFiles context files →
        ∃ q, (ofFiles directory others context).outcome = .ok q ∧ q.name = p.name ∧ q.mixtures = p.mixtures := by
  refine ⟨_, (ofFiles_judged context directory files).outcome, files_judged context directory files,
    judged_namedBy context directory files, fun others same => ?_⟩
  refine ⟨_, (ofFiles_judged context directory others).outcome, ?_, ?_⟩
  · rw [(judged_namedBy context directory others).name, (judged_namedBy context directory files).name, same]
  · rw [mixtures_judged, mixtures_judged, same]

end Package

end SliceGrowth
