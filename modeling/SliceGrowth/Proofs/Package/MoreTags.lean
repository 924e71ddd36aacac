import SliceGrowth.Proofs.Build.FileName
import SliceGrowth.Proofs.Package.Formed

/-!
What more tags do to a package. A context with more tags satisfies more, so it takes every name and every build line
without a negation that the context took before. The files of a package can then only become more, and the ignored ones
fewer; whether a file can be read and whether its build line is well formed does not depend on the tags.
-/
namespace SliceGrowth

namespace Build

open Constraint

/-- A context for the same system and architecture, with the tags of this one and perhaps others. -/
structure Context.Within (first second : Context) : Prop where
  system : second.system = first.system
  architecture : second.architecture = first.architecture
  tags : first.tags ⊆ second.tags

section Within

variable {first second : Context}

theorem satisfies_within (more : first.Within second) {name : String} (holds : first.satisfies name = true) :
    second.satisfies name = true := by
  simp only [Context.satisfies, Bool.or_eq_true, List.contains_iff_mem] at holds ⊢
  rw [more.system, more.architecture]
  rcases holds with (((tag | system) | architecture) | implied) | other
  · exact .inl (.inl (.inl (.inl (more.tags tag))))
  · exact .inl (.inl (.inl (.inr system)))
  · exact .inl (.inl (.inr architecture))
  · exact .inl (.inr implied)
  · exact .inr other

theorem matchesTags_within (more : first.Within second) {reversedTags : List String}
    (holds : first.matchesTags reversedTags = true) : second.matchesTags reversedTags = true := by
  cases reversedTags with
  | nil => rfl
  | cons last before =>
    simp only [Context.matchesTags, more.architecture] at holds ⊢
    by_cases both : (knownSystems.contains (before.head?.getD "") && knownArchitectures.contains last) = true
    · simp only [both, ↓reduceIte, Bool.and_eq_true] at holds ⊢
      exact ⟨satisfies_within more holds.1, holds.2⟩
    · simp only [both, Bool.false_eq_true, ↓reduceIte] at holds ⊢
      -- An architecture is compared with that of the context, which the tags do not touch.
      by_cases system : knownSystems.contains last = true
      · simp only [system, ↓reduceIte] at holds ⊢
        exact satisfies_within more holds
      · simp only [system, Bool.false_eq_true, ↓reduceIte] at holds ⊢
        exact holds

theorem matchesFileName_within (more : first.Within second) {name : String}
    (holds : first.matchesFileName name = true) : second.matchesFileName name = true :=
  matchesTags_within more holds

theorem matchesFileName_without (more : first.Within second) {name : String}
    (fails : second.matchesFileName name = false) : first.matchesFileName name = false := by
  rw [← Bool.not_eq_true] at fails ⊢
  exact fun holds => fails (matchesFileName_within more holds)

/-- Without a negation, a tree that holds goes on to hold with more tags. -/
theorem Constraint.Tree.value_within (more : first.Within second) {level : Level} (t : Tree level)
    (plain : .bang ∉ t.yield) (holds : t.value first = true) : t.value second = true := by
  induction t with
  | or left right leftIh rightIh | orMore left right leftIh rightIh =>
    have leftPlain : .bang ∉ left.yield := fun inside => plain (by simp [yield, inside])
    have rightPlain : .bang ∉ right.yield := fun inside => plain (by simp [yield, inside])
    rw [value, Bool.or_eq_true] at holds ⊢
    exact holds.imp (leftIh leftPlain) (rightIh rightPlain)
  | and left right leftIh rightIh | andMore left right leftIh rightIh =>
    have leftPlain : .bang ∉ left.yield := fun inside => plain (by simp [yield, inside])
    have rightPlain : .bang ∉ right.yield := fun inside => plain (by simp [yield, inside])
    rw [value, Bool.and_eq_true] at holds ⊢
    exact holds.imp (leftIh leftPlain) (rightIh rightPlain)
  | orEnd => exact holds
  | andEnd => rfl
  | bang inner => exact absurd List.mem_cons_self plain
  | operand inner ih => exact ih plain holds
  | group inner ih => exact ih (fun inside => plain (by simp [yield, inside])) holds
  | tag name => exact satisfies_within more holds

theorem Constraint.bang_of_tokens {line : List Char} {ts : List Token} (cut : tokens line = .ok ts)
    (member : .bang ∈ ts) : '!' ∈ line := by
  have kept : '!' ∈ line.filter fun c => !Text.isBlank c := by
    rw [(renders_of_tokens cut).filter_line]
    exact List.mem_flatMap.mpr ⟨.bang, member, by decide⟩
  exact List.mem_of_mem_filter kept

/-- A line without a negation has its value by a tree, and this value does not fall with more tags. -/
theorem evaluate_within (more : first.Within second) {expression : String} (plain : '!' ∉ expression.toList) :
    (evaluate expression first = .ok true → evaluate expression second = .ok true) ∧
      (evaluate expression second = .ok false → evaluate expression first = .ok false) := by
  constructor
  · intro holds
    obtain ⟨t, cut, value⟩ := tree_of_evaluate holds
    have unnegated : .bang ∉ t.yield := fun inside => plain (bang_of_tokens cut inside)
    rw [evaluate_of_tree second cut, t.value_within more unnegated value]
  · intro fails
    obtain ⟨t, cut, value⟩ := tree_of_evaluate fails
    have unnegated : .bang ∉ t.yield := fun inside => plain (bang_of_tokens cut inside)
    rw [evaluate_of_tree first cut]
    cases before : t.value first with
    | false => rfl
    | true =>
      rw [t.value_within more unnegated before] at value
      cases value

end Within

end Build

namespace Package

/-- The build line of a source, if it has one, has no negation. -/
def Unnegated (source : ByteArray) : Prop := ∀ expression ∈ (headerOf source).constraint, '!' ∉ expression.toList

section Within

variable {first second : Build.Context} {name : String} {source : ByteArray}

theorem Takes.within (takes : Takes first name source) (more : first.Within second) (plain : Unnegated source) :
    Takes second name source where
  name := Build.matchesFileName_within more takes.name
  line expression has := (Build.evaluate_within more (plain expression has)).1 (takes.line expression has)

theorem LeavesOut.without (left : LeavesOut second name source) (more : first.Within second)
    (plain : Unnegated source) : LeavesOut first name source := by
  rcases left with other | ⟨expression, has, value⟩
  · exact .inl (Build.matchesFileName_without more other)
  · exact .inr ⟨expression, has, (Build.evaluate_within more (plain expression has)).2 value⟩

variable {file : Candidate} (more : first.Within second) (plain : ∀ source, file.2 = .ok source → Unnegated source)

include more plain

theorem judge_isSelected_within (selected : (judge first file.1 file.2).isSelected = true) :
    (judge second file.1 file.2).isSelected = true := by
  obtain ⟨path, cause | source⟩ := file
  · rw [judge_unreadable_isSelected] at selected
    cases selected
  · rw [judge_isSelected_iff] at selected ⊢
    exact selected.within more (plain source rfl)

theorem judge_isIgnored_without (ignored : (judge second file.1 file.2).isIgnored = true) :
    (judge first file.1 file.2).isIgnored = true := by
  obtain ⟨path, cause | source⟩ := file
  · rw [judge_unreadable_isIgnored, Bool.not_eq_true'] at ignored ⊢
    exact Build.matchesFileName_without more ignored
  · rw [judge_isIgnored_iff] at ignored ⊢
    exact ignored.without more (plain source rfl)

end Within

theorem map_fst_filter_judged (context : Build.Context) (keep : Verdict → Bool) (files : List Candidate) :
    ((judged context files).filter (keep ·.2)).map Prod.fst =
      (files.filter fun file => keep (judge context file.1 file.2)).map Prod.fst := by
  simp only [judged, List.filter_map, List.map_map, Function.comp_def]

/-- Files that pass a test in one context are, in order, among those that pass a weaker one in another. -/
theorem judged_sublist {first second : Build.Context} {keep keep' : Verdict → Bool} {files : List Candidate}
    (weaker : ∀ file ∈ files, keep (judge first file.1 file.2) = true → keep' (judge second file.1 file.2) = true) :
    (((judged first files).filter (keep ·.2)).map Prod.fst).Sublist
      (((judged second files).filter (keep' ·.2)).map Prod.fst) := by
  rw [map_fst_filter_judged, map_fst_filter_judged]
  apply List.Sublist.map
  have twice : files.filter (fun file => keep (judge first file.1 file.2)) =
      (files.filter fun file => keep' (judge second file.1 file.2)).filter
        fun file => keep (judge first file.1 file.2) := by
    rw [List.filter_filter]
    refine List.filter_congr fun file member => ?_
    cases kept : keep (judge first file.1 file.2) with
    | false => rfl
    | true => rw [weaker file member kept]; rfl
  rw [twice]
  exact List.filter_sublist

/-- More tags never deselect a file if no build line has a negation. -/
theorem more_tags_never_deselect (directory : SlashPath) (files : List Candidate) (system architecture : String)
    (tags tags' : List String) (more : tags ⊆ tags')
    (plain : ∀ file ∈ files, ∀ source, file.2 = .ok source → Unnegated source) :
    ∃ p q, (ofFiles directory files ⟨system, architecture, tags⟩).outcome = .ok p ∧
      (ofFiles directory files ⟨system, architecture, tags'⟩).outcome = .ok q ∧
      p.files.Sublist q.files ∧ q.ignored.Sublist p.ignored := by
  have within : Build.Context.Within ⟨system, architecture, tags⟩ ⟨system, architecture, tags'⟩ := ⟨rfl, rfl, more⟩
  refine ⟨_, _, (ofFiles_judged _ directory files).outcome, (ofFiles_judged _ directory files).outcome, ?_, ?_⟩
  · exact judged_sublist fun file member => judge_isSelected_within within (plain file member)
  · exact judged_sublist fun file member => judge_isIgnored_without within (plain file member)

/-- A source that is only a build line. -/
def taggedSource : ByteArray := "//go:build linux && integration".toUTF8

theorem tokens_taggedSource : Go.tokens taggedSource =
    [⟨.comment, "//go:build linux && integration", ⟨0, 31, 0, 0⟩, false⟩] := by
  have shown : (Text.glyphs taggedSource).map (·.shown) = '/' :: "/go:build linux && integration".toList := by
    decide +kernel
  have sizes : (Text.glyphs taggedSource).map (·.size) = List.replicate 31 1 := by decide +kernel
  have token : Go.tokenAt ('/' :: "/go:build linux && integration".toList) = (.comment, 31) := by decide +kernel
  simp only [Go.tokens, shown, sizes]
  change Go.cutTokens {} false ('/' :: "/go:build linux && integration".toList) (List.replicate 31 1) = _
  rw [Go.cutTokens]
  simp only [token]
  rw [if_neg (by decide), show "/go:build linux && integration".toList.drop (max 1 31 - 1) = [] from by decide,
    Go.cutTokens]
  rfl

theorem header_taggedSource : headerOf taggedSource = ⟨none, some "linux && integration"⟩ := by
  rw [headerOf, Go.parse, tokens_taggedSource]
  rfl

theorem evaluate_taggedSource (tags : List String) :
    Build.evaluate "linux && integration" ⟨"linux", "amd64", tags⟩ = .ok (tags.contains "integration") := by
  have value := Build.evaluate_both ⟨"linux", "amd64", tags⟩ (by decide : Build.IsTag "linux")
    (by decide : Build.IsTag "integration")
  have linux : Build.Context.satisfies ⟨"linux", "amd64", tags⟩ "linux" = true := by simp [Build.Context.satisfies]
  have integration : Build.Context.satisfies ⟨"linux", "amd64", tags⟩ "integration" = tags.contains "integration" := by
    simp [Build.Context.satisfies, Build.impliedSystem?, Build.isReleaseTag]
  rw [linux, integration] at value
  simpa using value

def taggedFiles : List Candidate :=
  [(.ofString "a.go", .ok taggedSource), (.ofString "b_windows.go", .error .notFound)]

theorem taggedFiles_unnegated : ∀ file ∈ taggedFiles, ∀ source, file.2 = .ok source → Unnegated source := by
  intro file member source read
  rcases List.mem_pair.mp member with rfl | rfl
  · cases read
    rw [Unnegated, header_taggedSource]
    intro expression has
    rw [← Option.some.inj has]
    decide
  · cases read

theorem more_tags_never_deselect_integration :
    ([] : List String) ⊆ ["integration"] ∧
    (∀ file ∈ taggedFiles, ∀ source, file.2 = .ok source → Unnegated source) ∧
    ∃ p q, (ofFiles .here taggedFiles ⟨"linux", "amd64", []⟩).outcome = .ok p ∧
      (ofFiles .here taggedFiles ⟨"linux", "amd64", ["integration"]⟩).outcome = .ok q ∧
      p.files.Sublist q.files ∧ q.ignored.Sublist p.ignored ∧
      .ofString "a.go" ∈ p.ignored ∧ .ofString "a.go" ∈ q.files := by
  obtain ⟨p, q, before, after, files, ignored⟩ := more_tags_never_deselect .here taggedFiles "linux" "amd64" []
    ["integration"] (List.nil_subset _) taggedFiles_unnegated
  refine ⟨List.nil_subset _, taggedFiles_unnegated, p, q, before, after, files, ignored, ?_, ?_⟩
  · rw [(ofFiles_judged _ _ _).outcome] at before
    cases before
    refine mem_ignored_iff.mpr ⟨_, List.mem_cons_self, judge_isIgnored_iff.mpr (.inr ⟨"linux && integration", ?_, ?_⟩)⟩
    · rw [header_taggedSource]
      rfl
    · exact evaluate_taggedSource []
  · rw [(ofFiles_judged _ _ _).outcome] at after
    cases after
    refine mem_files_iff.mpr ⟨_, List.mem_cons_self, judge_isSelected_iff.mpr ⟨rfl, ?_⟩⟩
    rw [header_taggedSource]
    intro expression has
    rw [← Option.some.inj has]
    exact evaluate_taggedSource ["integration"]

end Package

end SliceGrowth
