import SliceGrowth.Command.Command
import SliceGrowth.Proofs.Analysis.Findings
import SliceGrowth.Proofs.Run.Laws
import SliceGrowth.Proofs.Text.Words

/-!
Names in settings and in arguments. A setting is cut at commas, and what stands between them is trimmed and dropped if
nothing is left. An argument is cut at blanks as well, so it gives the words of the names that it would give as a
setting. Neither way can a name be empty, so that no operation name begins the empty callee.
-/
namespace SliceGrowth

namespace Text

/-- The words between commas and blanks are those of the parts between the commas. -/
theorem words_of_parts (s : String) :
    words (String.ofList (s.toList.map fun c => if c == ',' then ' ' else c)) = (splitAt ',' s).flatMap words := by
  have blanked : pieces isBlank (s.toList.map fun c => if c == ',' then ' ' else c) =
      pieces (fun c => isBlank c || c == ',') s.toList := by
    apply pieces_map
    · intro c
      by_cases comma : c = ','
      · simp [comma, isBlank]
      · simp [comma]
    · intro c inner
      simp_all
  have refined := @pieces_refine (· == ',') (fun c => isBlank c || c == ',') (by simp_all) s.toList
  have plain : ∀ part ∈ pieces (· == ',') s.toList,
      pieces (fun c => isBlank c || c == ',') part = pieces isBlank part := by
    intro part member
    apply pieces_congr
    intro c inside
    simp [uncut_of_mem_pieces member c inside]
  rw [words, String.toList_ofList, wordsOf, blanked, refined, List.flatMap_congr plain]
  simp only [splitAt, words, wordsOf, List.filter_flatMap, List.map_flatMap, List.flatMap_map, String.toList_ofList]

end Text

namespace Settings

open Toml Text

/-- A name as settings give it. -/
structure IsNormal (name : String) : Prop where
  nonempty : name ≠ ""
  noComma : ',' ∉ name.toList
  first : ∀ c ∈ name.toList.head?, isBlank c = false
  last : ∀ c ∈ name.toList.getLast?, isBlank c = false

theorem isNormal_of_mem_namesIn {s name : String} (member : name ∈ namesIn s) : IsNormal name := by
  obtain ⟨trimmed, nonempty⟩ := List.mem_filter.mp member
  obtain ⟨part, isPart, rfl⟩ := List.mem_map.mp trimmed
  obtain ⟨cs, piece, rfl⟩ := List.mem_map.mp isPart
  have strips := trim_strips cs
  obtain ⟨front, back, whole, -, -⟩ := strips.around
  rw [trim, String.toList_ofList] at nonempty ⊢
  refine ⟨by simpa using nonempty, ?_, ?_, ?_⟩
  · rw [String.toList_ofList]
    intro comma
    have uncut := uncut_of_mem_pieces piece ',' (by rw [whole]; simp [comma])
    simp at uncut
  · rw [String.toList_ofList]
    exact strips.first
  · rw [String.toList_ofList]
    exact strips.last

theorem isNormal_of_mem_names {v : Value} {name : String} (member : name ∈ names v) : IsNormal name := by
  cases v with
  | text s => exact isNormal_of_mem_namesIn member
  | array items =>
    obtain ⟨item, -, found⟩ := List.mem_flatMap.mp member
    cases item with
    | text s => exact isNormal_of_mem_namesIn found
    | integer | boolean | float | moment | nothing | array | table => cases found
  | integer | boolean | float | moment | nothing | table => cases member

theorem IsNormal.trim_eq {name : String} (normal : IsNormal name) : trim name = name := by
  have strips : Strips name.toList name.toList :=
    ⟨⟨[], [], by simp, by simp [AllBlank], by simp [AllBlank]⟩, normal.first, normal.last⟩
  rw [trim, ← strips.eq_trim, String.ofList_toList]

theorem IsNormal.namesIn_eq {name : String} (normal : IsNormal name) : namesIn name = [name] := by
  rw [namesIn, splitAt_of_uncut normal.noComma, List.map_singleton, normal.trim_eq]
  simp [normal.nonempty]

/-- The names that texts give, as a list of them in settings does. -/
theorem names_texts (entries : List String) : names (.array (entries.map .text)) = entries.flatMap namesIn :=
  List.flatMap_map ..

theorem names_names (v : Value) : names (.array ((names v).map .text)) = names v := by
  rw [names_texts, List.flatMap_congr fun name member => (isNormal_of_mem_names member).namesIn_eq]
  exact List.flatMap_singleton' _

theorem flatMap_words_namesIn (s : String) : (namesIn s).flatMap words = (splitAt ',' s).flatMap words := by
  rw [namesIn, Analysis.flatMap_filter_of_nil, List.flatMap_map]
  · exact List.flatMap_congr fun part _ => words_trim part
  · intro name _ empty
    obtain rfl : name = "" := by simpa using empty
    rfl

end Settings

namespace Analysis

theorem beginsWithAny_nil_iff {names : List String} : BeginsWithAny names [] ↔ "" ∈ names := by
  simp [BeginsWithAny]

theorem classify_empty_eq_unknown_iff (operations : Operations) :
    operations.classify "" = .unknown ↔ "" ∉ operations.shrink ∧ "" ∉ operations.grow := by
  have shrink : operations.classify "" = .shrink ↔ "" ∈ operations.shrink := by
    rw [classify_eq_shrink_iff, ← beginsWithAny_nil_iff]
    rfl
  have grow : operations.classify "" = .grow ↔ "" ∈ operations.grow ∧ "" ∉ operations.shrink := by
    rw [classify_eq_grow_iff, ← beginsWithAny_nil_iff, ← beginsWithAny_nil_iff]
    rfl
  cases kind : operations.classify "" <;> simp_all

end Analysis

namespace Command

open Settings

theorem splitEntries_eq_words (entries : List String) :
    splitEntries entries = (names (.array (entries.map .text))).flatMap Text.words := by
  rw [names_texts, List.flatMap_assoc]
  apply List.flatMap_congr
  intro entry _
  rw [Text.words_of_parts, flatMap_words_namesIn]

theorem empty_not_mem_splitEntries (entries : List String) : "" ∉ splitEntries entries := by
  intro member
  obtain ⟨entry, -, word⟩ := List.mem_flatMap.mp member
  exact Text.ne_empty_of_mem_words word rfl

theorem empty_not_mem_names (v : Toml.Value) : "" ∉ names v := by
  intro member
  exact (isNormal_of_mem_names member).nonempty rfl

theorem empty_not_mem_operationList {usual extra : List String} (key extraKey : String) (slices : Toml.Table)
    (usualNamed : "" ∉ usual) (extraNamed : "" ∉ extra) :
    "" ∉ operationList usual key extraKey slices extra := by
  unfold operationList
  cases slices.lookup key with
  | none => simp [usualNamed, empty_not_mem_names, extraNamed]
  | some value => simp [empty_not_mem_names, extraNamed]

theorem operations_of_options {table : Toml.Table} {i : Invocation} {options : Options}
    (returned : (Command.options table i).outcome = .ok options) :
    options.operations = operations (sectionOf "slices" table) (splitEntries i.shrink) (splitEntries i.grow) := by
  obtain ⟨disabled, -, made⟩ := Run.bind_eq_ok returned
  cases made
  rfl

/-- Names in settings are normal and stay as they are, arguments give the words of the names in settings, and the
    operations that both make together have no empty name. -/
theorem operation_names_normal :
    (∀ v, (∀ name ∈ names v, IsNormal name) ∧ names (.array ((names v).map .text)) = names v) ∧
    (∀ entries, splitEntries entries = (names (.array (entries.map .text))).flatMap Text.words) ∧
    ∀ table i options, (Command.options table i).outcome = .ok options →
      (∀ name ∈ options.operations.shrink ++ options.operations.grow, name ≠ "") ∧
      options.operations.classify "" = .unknown := by
  refine ⟨fun v => ⟨fun name member => isNormal_of_mem_names member, names_names v⟩, splitEntries_eq_words, ?_⟩
  intro table i options returned
  have made := operations_of_options returned
  have shrink : "" ∉ options.operations.shrink := by
    rw [made]
    exact empty_not_mem_operationList _ _ _ (by decide) (empty_not_mem_splitEntries i.shrink)
  have grow : "" ∉ options.operations.grow := by
    rw [made]
    exact empty_not_mem_operationList _ _ _ (by decide) (empty_not_mem_splitEntries i.grow)
  refine ⟨?_, (Analysis.classify_empty_eq_unknown_iff _).mpr ⟨shrink, grow⟩⟩
  rintro name member rfl
  rcases List.mem_append.mp member with member | member
  · exact shrink member
  · exact grow member

/-- A setting without a name in one entry and with a blank in another, and no name beside a number. -/
def patchySettings : Toml.Table :=
  [("slices", .table [("shrink", .text " , trim it,,"), ("extra_grow", .array [.text "push, ", .integer 3])])]

def patchyArguments : Invocation := { grow := [",add\tto,"], shrink := [" ,"] }

def patchyOperations : Analysis.Operations where
  shrink := ["trim it"]
  grow := ({} : Analysis.Operations).grow ++ ["push", "add", "to"]

theorem operation_names_normal_patchy :
    (Command.options patchySettings patchyArguments).outcome = .ok { operations := patchyOperations } ∧
      patchyOperations.classify "" = .unknown := by
  have returned : (Command.options patchySettings patchyArguments).outcome = .ok { operations := patchyOperations } :=
    rfl
  exact ⟨returned, (operation_names_normal.2.2 _ _ _ returned).2⟩

end Command

end SliceGrowth
