import SliceGrowth.Proofs.Package.Loading

/-!
The three forms of a pattern compared. The packages that a walk finds are those that their directories stand
for, and a source file is taken or ignored alone as it is among the files of its directory.
-/
namespace SliceGrowth

namespace Package

/-- A pattern is for a walk only if its last part says so. -/
theorem walkBase?_eq_none {pattern : String} (other : (SlashPath.ofString pattern).name ≠ "...") :
    walkBase? pattern = none := by
  have notWhole : pattern ≠ "..." := by
    intro whole
    rw [whole] at other
    exact other (by decide)
  have notEnd : ¬ Text.endsWith "/..." pattern = true := by
    intro ends
    obtain ⟨front, chars⟩ := List.isSuffixOf_iff_suffix.mp ends
    have parts : SlashPath.partsOf pattern.toList = SlashPath.partsOf front ++ ["..."] := by
      rw [← chars]
      exact SlashPath.partsOf_append_slash front "...".toList
    exact other (by simp [SlashPath.name, SlashPath.ofString_eq, parts])
  simp [walkBase?, notWhole, notEnd]

section Walked

variable {fs : FileSystem} {root : String} {base : SlashPath} {excluded : List String} {context : Build.Context}

theorem Reaches.name_visible {entries reached : List (String × FileTree)} {names : List String}
    (reaches : Reaches excluded entries names reached) (proper : (FileTree.folder entries).Proper) :
    ∀ name ∈ names, Visible excluded name ∧ IsEntryName name := by
  induction reaches with
  | here => simp
  | into member visible _ ih =>
    intro name listed
    rcases List.mem_cons.mp listed with rfl | listed
    · exact ⟨visible, proper.named _ member⟩
    · exact ih (proper.inner _ member) name listed

/-- The place that a walk starts from. Slashes alone stand for the working directory. -/
theorem walkBase?_spelled (root : String) :
    ∃ base, walkBase? (root ++ "/...") = some base ∧ base.Spelled ∧
      ((SlashPath.ofString root).name ≠ "..." → base.name ≠ "...") := by
  by_cases slashes : IsSlashes root
  · have none : root.toList.rdropWhile (· == '/') = [] :=
      List.rdropWhile_eq_nil_iff.mpr fun c member => beq_iff_eq.mpr (slashes.2 c member)
    refine ⟨.here, ?_, by simp [SlashPath.Spelled, SlashPath.here], fun _ => by decide⟩
    rw [walkBase?_eq, none]
    rfl
  · exact ⟨_, walkBase?_of_directory slashes, SlashPath.ofString_spelled root, id⟩

/-- A walk does not end at a place that would be read as a pattern for a walk. -/
theorem name_descend_ne {names : List String} (other : base.name ≠ "...")
    (visible : ∀ name ∈ names, Visible excluded name) : (base.descend names).name ≠ "..." := by
  rw [SlashPath.name_descend]
  cases last : names.getLast? with
  | none => exact other
  | some name =>
    intro same
    have shown := (visible name (List.mem_of_getLast? last)).2.1
    rw [show name = "..." from same] at shown
    exact absurd shown (by decide)

theorem resolve_text (excluded : List String) {path : SlashPath} {p : Package} (spelled : path.Spelled)
    (other : path.name ≠ "...") (resolved : (resolvePath fs path context).Returns p []) :
    (resolve fs path.text excluded context).Returns [p] [] := by
  have read := SlashPath.ofString_text spelled
  apply resolve_path
  · exact walkBase?_eq_none (by rwa [read])
  · rwa [read]

/-- The package of a directory that a walk meets is the one that the directory stands for. -/
theorem resolve_walked {entries : List (String × FileTree)} {v : Visit} (excluded' : List String)
    (found : fs.get base = .ok (.folder entries)) (proper : (FileTree.folder entries).Proper)
    (spelled : base.Spelled) (other : base.name ≠ "...")
    (member : v ∈ packageVisits excluded context entries) :
    (resolve fs (base.descend v.names).text excluded' context).outcome = .ok [walkPackage context base v] := by
  obtain ⟨reaches, holds⟩ := mem_packageVisits_iff.mp member
  have visible := reaches.name_visible proper
  obtain ⟨nonempty, included⟩ := (holdsPackage_iff (base.descend v.names)).mp holds
  have spelledHere := spelled.descend fun name listed => (visible name listed).2.toIsPart
  have named := name_descend_ne other fun name listed => (visible name listed).1
  have resolved := resolvePath_folder context (FileSystem.get_descend found proper reaches) nonempty
  rw [requireFiles, included] at resolved
  exact (resolve_text excluded' spelledHere named resolved).outcome

/-- A place that is no directory stands for another package than the one that a walk from there gives. -/
theorem resolve_missing (excluded' : List String) (missing : ∀ entries, fs.get base ≠ .ok (.folder entries))
    (spelled : base.Spelled) (other : base.name ≠ "...") :
    (resolve fs base.text excluded' context).outcome ≠ .ok [failed base.name base (.noDirectory base)] := by
  have differs : ∀ q, (resolvePath fs base context).Returns q [] →
      q ≠ failed base.name base (.noDirectory base) →
      (resolve fs base.text excluded' context).outcome ≠ .ok [failed base.name base (.noDirectory base)] := by
    intro q resolved differs same
    rw [(resolve_text excluded' spelled other resolved).outcome] at same
    cases same
    exact differs rfl
  cases found : fs.get base with
  | error e =>
    refine differs _ (resolvePath_missing context found) fun same => ?_
    cases congrArg Package.problems same
  | ok tree =>
    cases tree with
    | folder entries => exact absurd found (missing entries)
    | file content =>
      by_cases suffix : base.suffix = ".go"
      · refine differs _ (resolvePath_file context found suffix) fun same => ?_
        have directory := congrArg Package.directory same
        rw [requireFiles_directory, built_directory] at directory
        refine SlashPath.parent_ne (fun unnamed => ?_) directory
        rw [SlashPath.suffix, unnamed] at suffix
        exact absurd suffix (by decide)
      · refine differs _ (resolvePath_notSource context found suffix) fun same => ?_
        cases congrArg Package.problems same

theorem resolve_walk_agrees (root : String) (excluded : List String) (proper : fs.root.Proper)
    (other : (SlashPath.ofString root).name ≠ "...") :
    ∃ packages, (resolve fs (root ++ "/...") excluded context).outcome = .ok packages ∧
      ∀ p ∈ packages, ∀ excluded', (resolve fs p.directory.text excluded' context).outcome = .ok [p] ↔
        ∃ entries, fs.get p.directory = .ok (.folder entries) := by
  obtain ⟨base, named, spelled, different⟩ := walkBase?_spelled root
  by_cases present : ∃ entries, fs.get base = .ok (.folder entries)
  · obtain ⟨entries, found⟩ := present
    have properHere := FileSystem.get_proper proper found
    refine ⟨_, (resolve_walk_returns excluded context named found).outcome, fun p member excluded' => ?_⟩
    obtain ⟨v, met, rfl⟩ := List.mem_map.mp member
    have place : (walkPackage context base v).directory = base.descend v.names := built_directory
    rw [place]
    refine iff_of_true (resolve_walked excluded' found properHere spelled (different other) met) ?_
    exact ⟨v.entries, FileSystem.get_descend found properHere (mem_packageVisits_iff.mp met).1⟩
  · have missing := not_exists.mp present
    refine ⟨_, (resolve_noDirectory named missing).outcome, fun p member excluded' => ?_⟩
    rw [List.mem_singleton.mp member]
    exact iff_of_false (resolve_missing excluded' missing spelled (different other)) present

end Walked

section Single

variable {fs : FileSystem} {context : Build.Context} {directory : SlashPath}
  {entries : List (String × FileTree)} {name : String} {content : ByteArray}

theorem mem_folderFiles_iff_eq {source : ByteArray} (distinct : (entries.map Prod.fst).Nodup)
    (member : (name, .file content) ∈ entries) (accepted : isSourceName name = true) :
    (directory.child name, source) ∈ folderFiles directory entries ↔ source = content := by
  rw [mem_folderFiles_iff]
  constructor
  · intro listed
    obtain ⟨other, place, entry, -⟩ := listed
    have same := congrArg SlashPath.name place
    rw [SlashPath.name_child, SlashPath.name_child] at same
    rw [← same] at entry
    have first := FileTree.named?_of_mem distinct entry
    rw [FileTree.named?_of_mem distinct member] at first
    cases first
    rfl
  · intro same
    rw [same]
    exact ⟨name, rfl, member, accepted⟩

/-- Alone and among the files of its directory, a file has one and the same source. -/
theorem source_alone {keeps : ByteArray → Prop} (distinct : (entries.map Prod.fst).Nodup)
    (member : (name, .file content) ∈ entries) (accepted : isSourceName name = true) :
    (∃ source, (directory.child name, source) ∈ [(directory.child name, content)] ∧ keeps source) ↔
      ∃ source, (directory.child name, source) ∈ folderFiles directory entries ∧ keeps source := by
  simp [mem_folderFiles_iff_eq distinct member accepted]

theorem suffix_source (accepted : isSourceName name = true) : (directory.child name).suffix = ".go" := by
  simp only [isSourceName, Bool.and_eq_true, Bool.not_eq_true'] at accepted
  apply SlashPath.suffix_of_ends <;> rw [SlashPath.name_child]
  · exact accepted.1.2
  · exact accepted.1.1.1

end Single

/-- The forms of a pattern agree: a package that a walk finds is the one its directory stands for, if there
is such a directory at all, and a source file alone is taken or ignored as in its directory. -/
theorem resolve_forms_agree (fs : FileSystem) (context : Build.Context) (proper : fs.root.Proper) :
    (∀ root excluded, (SlashPath.ofString root).name ≠ "..." →
      ∃ packages, (resolve fs (root ++ "/...") excluded context).outcome = .ok packages ∧
        ∀ p ∈ packages, ∀ excluded', (resolve fs p.directory.text excluded' context).outcome = .ok [p] ↔
          ∃ entries, fs.get p.directory = .ok (.folder entries)) ∧
    ∀ d entries name content excluded, (SlashPath.ofString d).name ≠ "..." →
      fs.get (.ofString d) = .ok (.folder entries) → (name, .file content) ∈ entries →
      isSourceName name = true →
      let file := (SlashPath.ofString d).child name
      ∃ alone whole, (resolve fs file.text excluded context).outcome = .ok [alone] ∧
        (resolve fs d excluded context).outcome = .ok [whole] ∧ alone.directory = .ofString d ∧
        (file ∈ alone.files ↔ file ∈ whole.files) ∧ (file ∈ alone.ignored ↔ file ∈ whole.ignored) := by
  constructor
  · intro root excluded other
    exact resolve_walk_agrees root excluded proper other
  · intro d entries name content excluded other found member accepted file
    have properHere := FileSystem.get_proper proper found
    have entry := properHere.named _ member
    have nonempty := sources_ne_nil_iff.mpr ⟨name, content, member, accepted⟩
    have whole := resolve_path excluded (walkBase?_eq_none other) (resolvePath_folder context found nonempty)
    have foundFile := FileSystem.get_child found (FileTree.named?_of_mem properHere.distinct member) entry.notUp
    have spelled := (SlashPath.ofString_spelled d).child entry.toIsPart
    have suffix : file.suffix = ".go" := suffix_source accepted
    have notWalk : file.name ≠ "..." := by
      intro dots
      rw [SlashPath.suffix, dots] at suffix
      exact absurd suffix (by decide)
    have alone := resolve_text excluded spelled notWalk (resolvePath_file context foundFile suffix)
    refine ⟨_, _, alone.outcome, whole.outcome, ?_, ?_, ?_⟩
    · rw [requireFiles_directory, built_directory, SlashPath.parent_child]
    · rw [requireFiles_files, requireFiles_files, mem_files_built, mem_files_built]
      exact source_alone properHere.distinct member accepted
    · rw [requireFiles_ignored, requireFiles_ignored, mem_ignored_built, mem_ignored_built]
      exact source_alone properHere.distinct member accepted

theorem resolve_forms_agree_workspace :
    workspaceSystem.root.Proper ∧
    (∃ packages, (resolve workspaceSystem "./..." defaultExcluded linux).outcome = .ok packages ∧
      ∀ p ∈ packages, ∀ excluded',
        (resolve workspaceSystem p.directory.text excluded' linux).outcome = .ok [p] ↔
          ∃ entries, workspaceSystem.get p.directory = .ok (.folder entries)) ∧
    ∃ alone whole, (resolve workspaceSystem "sub/b.go" defaultExcluded linux).outcome = .ok [alone] ∧
      (resolve workspaceSystem "sub" defaultExcluded linux).outcome = .ok [whole] ∧
      alone.directory = .ofString "sub" ∧
      (.ofString "sub/b.go" ∈ alone.files ↔ .ofString "sub/b.go" ∈ whole.files) ∧
      (.ofString "sub/b.go" ∈ alone.ignored ↔ .ofString "sub/b.go" ∈ whole.ignored) := by
  obtain ⟨walked, single⟩ := resolve_forms_agree workspaceSystem linux workspaceSystem_proper
  refine ⟨workspaceSystem_proper, walked "." defaultExcluded (by decide), ?_⟩
  exact single "sub" library "b.go" _ defaultExcluded (by decide) get_library List.mem_cons_self (by decide)

/-- A walk from a place that does not exist gives a package that the place alone does not stand for. -/
theorem resolve_missing_walk_differs :
    (FileSystem.empty ["w"]).root.Proper ∧ (SlashPath.ofString "missing").name ≠ "..." ∧
      ∃ p, (resolve (FileSystem.empty ["w"]) "missing/..." defaultExcluded linux).outcome = .ok [p] ∧
        p.directory.text = "missing" ∧
        (resolve (FileSystem.empty ["w"]) p.directory.text defaultExcluded linux).outcome ≠ .ok [p] := by
  have empty : (FileSystem.empty ["w"]).Proper := .empty (by decide)
  have missing : (FileSystem.empty ["w"]).get (.ofString "missing") = .error .notFound := rfl
  refine ⟨empty.root, by decide, failed "missing" (.ofString "missing") (.noDirectory (.ofString "missing")),
    rfl, by decide, ?_⟩
  refine resolve_missing defaultExcluded (fun entries found => ?_) (SlashPath.ofString_spelled "missing") (by decide)
  cases missing.symm.trans found

end Package

end SliceGrowth
