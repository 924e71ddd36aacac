import Mathlib.Data.List.DropRight
import SliceGrowth.Proofs.Text.Words
import SliceGrowth.SlashPath
import SliceGrowth.Text.Ending

/-!
Paths and their texts. A path whose parts could stand between slashes is read back from its text, and
slashes at the end of a text do not count as long as something else stands before them.
-/
namespace SliceGrowth

namespace Text

theorem endsWith_append (s ending : String) : endsWith ending (s ++ ending) = true := by
  rw [endsWith, List.isSuffixOf_iff_suffix, String.toList_append]
  exact List.suffix_append _ _

theorem dropEnding_append (s ending : String) : dropEnding ending (s ++ ending) = s := by
  simp [dropEnding, endsWith_append]

end Text

namespace SlashPath

structure IsPart (part : String) : Prop where
  nonempty : part ≠ ""
  notHere : part ≠ "."
  noSlash : '/' ∉ part.toList

def Spelled (p : SlashPath) : Prop := ∀ part ∈ p.parts, IsPart part

/-- The parts that a text has between its slashes. -/
def partsOf (cs : List Char) : List String :=
  ((Text.pieces (· == '/') cs).map String.ofList).filter fun part => part ≠ "" ∧ part ≠ "."

theorem ofString_spelled (s : String) : (ofString s).Spelled := by
  intro part member
  obtain ⟨split, kept⟩ := List.mem_filter.mp member
  obtain ⟨piece, isPiece, rfl⟩ := List.mem_map.mp split
  have kept : String.ofList piece ≠ "" ∧ String.ofList piece ≠ "." := of_decide_eq_true kept
  refine ⟨kept.1, kept.2, fun slash => ?_⟩
  rw [String.toList_ofList] at slash
  simpa using Text.uncut_of_mem_pieces isPiece '/' slash

theorem partsOf_append_slash (xs ys : List Char) : partsOf (xs ++ '/' :: ys) = partsOf xs ++ partsOf ys := by
  have split : Text.pieces (· == '/') (xs ++ '/' :: ys) = _ := Text.pieces_append_cut (by decide) xs ys
  rw [partsOf, split, List.map_append, List.filter_append]
  rfl

theorem partsOf_slash_cons (cs : List Char) : partsOf ('/' :: cs) = partsOf cs := by
  have none : partsOf [] = [] := by decide
  have split := partsOf_append_slash [] cs
  rwa [none, List.nil_append] at split

theorem partsOf_part {part : String} (isPart : IsPart part) : partsOf part.toList = [part] := by
  have uncut : ∀ c ∈ part.toList, (c == '/') = false := by
    intro c member
    refine beq_eq_false_iff_ne.mpr fun slash => isPart.noSlash ?_
    rwa [slash] at member
  simp [partsOf, Text.pieces_of_uncut uncut, isPart.nonempty, isPart.notHere]

theorem partsOf_intercalate {parts : List String} (spelled : ∀ part ∈ parts, IsPart part) :
    partsOf ("/".intercalate parts).toList = parts := by
  rw [String.toList_intercalate]
  induction parts with
  | nil => rfl
  | cons part rest ih =>
    have first := partsOf_part (spelled part (by simp))
    have later := ih fun other member => spelled other (by simp [member])
    cases rest with
    | nil => simpa using first
    | cons next rest =>
      rw [List.map_cons, List.map_cons, List.intercalate_cons_cons, List.append_assoc]
      change partsOf (part.toList ++ '/' :: _) = _
      rw [partsOf_append_slash, first]
      exact congrArg (part :: ·) later

def leadingSlashes (cs : List Char) : Nat := (cs.takeWhile (· == '/')).length

theorem leadingSlashes_slash_cons (cs : List Char) : leadingSlashes ('/' :: cs) = leadingSlashes cs + 1 := by
  simp [leadingSlashes]

theorem leadingSlashes_intercalate {parts : List String} (spelled : ∀ part ∈ parts, IsPart part) :
    leadingSlashes ("/".intercalate parts).toList = 0 := by
  rw [String.toList_intercalate]
  cases parts with
  | nil => rfl
  | cons part rest =>
    have isPart := spelled part (by simp)
    have some : part.toList ≠ [] := fun none => isPart.nonempty (String.toList_eq_nil_iff.mp none)
    obtain ⟨c, cs, chars⟩ := List.exists_cons_of_ne_nil some
    have notSlash : (c == '/') = false := by
      refine beq_eq_false_iff_ne.mpr fun slash => isPart.noSlash ?_
      rw [chars, slash]
      exact List.mem_cons_self
    cases rest with
    | nil => simp [leadingSlashes, chars, notSlash]
    | cons next rest =>
      rw [List.map_cons, List.map_cons, List.intercalate_cons_cons, chars]
      simp [leadingSlashes, notSlash]

theorem ofString_eq (s : String) :
    ofString s = ⟨.ofSlashes (leadingSlashes s.toList), partsOf s.toList⟩ := rfl

/-- A path is read back from its text. -/
theorem ofString_text {p : SlashPath} (spelled : p.Spelled) : ofString p.text = p := by
  obtain ⟨anchor, parts⟩ := p
  have read := partsOf_intercalate spelled
  have relative := leadingSlashes_intercalate spelled
  cases anchor with
  | relative =>
    cases parts with
    | nil => decide
    | cons part rest =>
      have chars : (text ⟨.relative, part :: rest⟩).toList = ("/".intercalate (part :: rest)).toList := by
        simp [text, Anchor.text]
      rw [ofString_eq, chars, read, relative]
      rfl
  | root =>
    have chars : (text ⟨.root, parts⟩).toList = '/' :: ("/".intercalate parts).toList := by
      simp [text, Anchor.text]
    rw [ofString_eq, chars, partsOf_slash_cons, leadingSlashes_slash_cons, read, relative]
    rfl
  | doubleRoot =>
    have chars : (text ⟨.doubleRoot, parts⟩).toList = '/' :: '/' :: ("/".intercalate parts).toList := by
      simp [text, Anchor.text]
    rw [ofString_eq, chars, partsOf_slash_cons, partsOf_slash_cons, leadingSlashes_slash_cons,
      leadingSlashes_slash_cons, read, relative]
    rfl

theorem partsOf_of_slashes {cs : List Char} (slashes : ∀ c ∈ cs, c = '/') : partsOf cs = [] := by
  induction cs with
  | nil => decide
  | cons c cs ih =>
    rw [slashes c (by simp), partsOf_slash_cons]
    exact ih fun d member => slashes d (by simp [member])

theorem partsOf_append_slashes (xs : List Char) {ys : List Char} (slashes : ∀ c ∈ ys, c = '/') :
    partsOf (xs ++ ys) = partsOf xs := by
  cases ys with
  | nil => rw [List.append_nil]
  | cons c cs =>
    have rest := partsOf_of_slashes fun d member => slashes d (List.mem_cons_of_mem c member)
    rw [slashes c (by simp), partsOf_append_slash, rest, List.append_nil]

theorem leadingSlashes_append {xs : List Char} (other : ∃ c ∈ xs, c ≠ '/') (ys : List Char) :
    leadingSlashes (xs ++ ys) = leadingSlashes xs := by
  unfold leadingSlashes
  rw [List.takeWhile_append, if_neg]
  intro whole
  have kept := (List.takeWhile_prefix fun c : Char => c == '/').eq_of_length whole
  obtain ⟨c, member, notSlash⟩ := other
  rw [← kept] at member
  exact notSlash (eq_of_beq (List.all_eq_true.mp List.all_takeWhile c member))

/-- Slashes at the end of a text do not count if something else stands before them. -/
theorem ofString_rdropWhile {s : String} (other : ∃ c ∈ s.toList, c ≠ '/') :
    ofString (String.ofList (s.toList.rdropWhile (· == '/'))) = ofString s := by
  have whole : s.toList.rdropWhile (· == '/') ++ s.toList.rtakeWhile (· == '/') = s.toList :=
    List.rdropWhile_append_rtakeWhile
  have slashes : ∀ c ∈ s.toList.rtakeWhile (· == '/'), c = '/' := by
    intro c member
    have isSlash := List.mem_rtakeWhile_imp member
    exact eq_of_beq isSlash
  have kept : ∃ c ∈ s.toList.rdropWhile (· == '/'), c ≠ '/' := by
    obtain ⟨c, member, notSlash⟩ := other
    rw [← whole] at member
    rcases List.mem_append.mp member with member | member
    · exact ⟨c, member, notSlash⟩
    · exact absurd (slashes c member) notSlash
  have leading := leadingSlashes_append kept (s.toList.rtakeWhile (· == '/'))
  have parts := partsOf_append_slashes (s.toList.rdropWhile (· == '/')) slashes
  rw [whole] at leading parts
  rw [ofString_eq, ofString_eq s, String.toList_ofList, leading, parts]

/-- The path that leads on from a path by some names. -/
def descend (p : SlashPath) (names : List String) : SlashPath := { p with parts := p.parts ++ names }

@[simp] theorem descend_nil (p : SlashPath) : p.descend [] = p := by
  simp [descend]

theorem descend_cons (p : SlashPath) (name : String) (names : List String) :
    p.descend (name :: names) = (p.child name).descend names := by
  simp [descend, child]

@[simp] theorem name_child (p : SlashPath) (name : String) : (p.child name).name = name := by
  simp [child, SlashPath.name]

@[simp] theorem parent_child (p : SlashPath) (name : String) : (p.child name).parent = p := by
  simp [child, parent]

theorem Spelled.child {p : SlashPath} {name : String} (spelled : p.Spelled) (isPart : IsPart name) :
    (p.child name).Spelled := by
  intro part member
  rcases List.mem_append.mp member with member | member
  · exact spelled part member
  · rwa [List.mem_singleton.mp member]

theorem Spelled.descend {p : SlashPath} {names : List String} (spelled : p.Spelled)
    (areParts : ∀ name ∈ names, IsPart name) : (p.descend names).Spelled := by
  intro part member
  rcases List.mem_append.mp member with member | member
  · exact spelled part member
  · exact areParts part member

theorem name_descend (p : SlashPath) (names : List String) :
    (p.descend names).name = names.getLast?.getD p.name := by
  cases last : names.getLast? <;> simp [descend, SlashPath.name, List.getLast?_append, last]

theorem parent_ne {p : SlashPath} (named : p.name ≠ "") : p.parent ≠ p := by
  intro same
  have parts := congrArg (List.length ∘ SlashPath.parts) same
  simp only [Function.comp_apply, parent, List.length_dropLast] at parts
  have none : p.parts = [] := List.eq_nil_of_length_eq_zero (by omega)
  exact named (by simp [SlashPath.name, none])

theorem suffix_of_ends {p : SlashPath} (ends : Text.endsWith ".go" p.name = true)
    (visible : Text.beginsWith "." p.name = false) : p.suffix = ".go" := by
  obtain ⟨stem, chars⟩ := List.isSuffixOf_iff_suffix.mp ends
  have reversed : p.name.toList.reverse = 'o' :: 'g' :: '.' :: stem.reverse := by
    rw [← chars, List.reverse_append]
    rfl
  have nonempty : stem.reverse.isEmpty = false := by
    rw [List.isEmpty_reverse]
    cases stem with
    | nil =>
      rw [Text.beginsWith, ← chars] at visible
      exact absurd visible (by decide)
    | cons c cs => rfl
  simp [suffix, cutSuffix, reversed, nonempty]

end SlashPath

end SliceGrowth
