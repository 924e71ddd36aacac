import Mathlib.Logic.Relation
import SliceGrowth.Text.Blank

/-!
The text without blanks: running the words of a text together is the same as leaving out its blanks. Two texts give the
same exactly if blanks can be put in and taken out until nothing tells them apart.
-/
namespace SliceGrowth.Text

theorem pieces_ne_nil (cut : Char → Bool) (cs : List Char) : pieces cut cs ≠ [] := by
  induction cs with
  | nil => simp [pieces]
  | cons c rest ih =>
    unfold pieces
    split
    · simp
    · simpa using ih

theorem flatten_pieces (cut : Char → Bool) (cs : List Char) :
    (pieces cut cs).flatten = cs.filter fun c => !cut c := by
  induction cs with
  | nil => rfl
  | cons c rest ih =>
    unfold pieces
    by_cases blank : cut c
    · simp [blank, ih]
    · obtain ⟨first, others, split⟩ := List.exists_cons_of_ne_nil (pieces_ne_nil cut rest)
      rw [split, List.flatten_cons] at ih
      simp [blank, split, ← ih]

theorem toList_compact (s : String) : (compact s).toList = s.toList.filter fun c => !isBlank c := by
  unfold compact wordsOf
  rw [String.toList_ofList, List.flatten_filter_not_isEmpty, flatten_pieces]

/-- The second text is the first with one blank put in. -/
inductive AddsBlank : List Char → List Char → Prop where
  | mk {c : Char} (before after : List Char) : isBlank c = true → AddsBlank (before ++ after) (before ++ c :: after)

/-- The one text becomes the other when blanks are put in and taken out, one at a time. -/
def DifferInBlanks (s t : String) : Prop := Relation.EqvGen AddsBlank s.toList t.toList

theorem AddsBlank.filter_eq {cs ds : List Char} (adds : AddsBlank cs ds) :
    cs.filter (fun c => !isBlank c) = ds.filter fun c => !isBlank c := by
  obtain ⟨before, after, blank⟩ := adds
  simp [blank]

theorem filter_eq_of_eqvGen {cs ds : List Char} (differ : Relation.EqvGen AddsBlank cs ds) :
    cs.filter (fun c => !isBlank c) = ds.filter fun c => !isBlank c := by
  induction differ with
  | rel _ _ adds => exact adds.filter_eq
  | refl => rfl
  | symm _ _ _ ih => exact ih.symm
  | trans _ _ _ _ _ first second => exact first.trans second

theorem eqvGen_filter (before cs : List Char) :
    Relation.EqvGen AddsBlank (before ++ cs.filter fun c => !isBlank c) (before ++ cs) := by
  induction cs generalizing before with
  | nil => exact .refl _
  | cons c cs ih =>
    by_cases blank : isBlank c = true
    · have added := Relation.EqvGen.rel _ _ (AddsBlank.mk before cs blank)
      simpa [blank] using (ih before).trans _ _ _ added
    · simpa [blank] using ih (before ++ [c])

theorem compact_eq_iff {s t : String} : compact s = compact t ↔ DifferInBlanks s t := by
  rw [String.ext_iff, toList_compact, toList_compact]
  constructor
  · intro same
    have left := eqvGen_filter [] s.toList
    have right := eqvGen_filter [] t.toList
    rw [List.nil_append, List.nil_append] at left right
    rw [same] at left
    exact (left.symm _ _).trans _ _ _ right
  · exact filter_eq_of_eqvGen

end SliceGrowth.Text
