import Mathlib.Data.List.DropRight
import SliceGrowth.Proofs.Text.Compact

/-!
Pieces, words and trimmed texts. The first word of a text and the trimmed text after it are said by how they lie
in the text, and the words of a text begin with the first. Blanks around a text do not change its words.
-/
namespace SliceGrowth.Text

section Pieces

variable {cut : Char → Bool}

theorem pieces_append_cut {c : Char} (isCut : cut c = true) (xs ys : List Char) :
    pieces cut (xs ++ c :: ys) = pieces cut xs ++ pieces cut ys := by
  induction xs with
  | nil => simp [pieces, isCut]
  | cons x xs ih =>
    obtain ⟨first, others, split⟩ := List.exists_cons_of_ne_nil (pieces_ne_nil cut xs)
    rw [List.cons_append, pieces, pieces, ih, split]
    split <;> rfl

theorem pieces_of_uncut {cs : List Char} (uncut : ∀ c ∈ cs, cut c = false) : pieces cut cs = [cs] := by
  induction cs with
  | nil => rfl
  | cons c cs ih =>
    rw [pieces, ih fun d member => uncut d (by simp [member]), uncut c (by simp)]
    rfl

theorem uncut_of_mem_pieces {cs piece : List Char} (member : piece ∈ pieces cut cs) :
    ∀ c ∈ piece, cut c = false := by
  induction cs generalizing piece with
  | nil => simp_all [pieces]
  | cons c cs ih =>
    obtain ⟨first, others, split⟩ := List.exists_cons_of_ne_nil (pieces_ne_nil cut cs)
    rw [split] at ih
    rw [pieces, split] at member
    split at member
    · rcases List.mem_cons.mp member with rfl | member
      · simp
      · exact ih member
    · rename_i notCut
      rcases List.mem_cons.mp member with rfl | member
      · intro d inside
        rcases List.mem_cons.mp inside with rfl | inside
        · simpa using notCut
        · exact ih (by simp) d inside
      · exact ih (by simp [member])

/-- Cutting at some of the places first does not change what is cut in the end. -/
theorem pieces_refine {coarse fine : Char → Bool} (among : ∀ c, coarse c = true → fine c = true) (cs : List Char) :
    pieces fine cs = (pieces coarse cs).flatMap (pieces fine) := by
  induction cs with
  | nil => rfl
  | cons c cs ih =>
    obtain ⟨first, others, split⟩ := List.exists_cons_of_ne_nil (pieces_ne_nil coarse cs)
    obtain ⟨word, words, inner⟩ := List.exists_cons_of_ne_nil (pieces_ne_nil fine first)
    rw [split, List.flatMap_cons, inner] at ih
    by_cases cutFirst : coarse c = true
    · simp [pieces, cutFirst, among c cutFirst, split, inner, ih]
    · by_cases cut : fine c = true
      · simp [pieces, cutFirst, cut, split, inner, ih]
      · simp [pieces, cutFirst, cut, split, inner, ih]

theorem pieces_map {other : Char → Bool} {change : Char → Char} (same : ∀ c, cut (change c) = other c)
    (kept : ∀ c, other c = false → change c = c) (cs : List Char) : pieces cut (cs.map change) = pieces other cs := by
  induction cs with
  | nil => rfl
  | cons c cs ih =>
    rw [List.map_cons, pieces, pieces, same, ih]
    split
    · rfl
    · rename_i uncut
      rw [kept c (by simpa using uncut)]

theorem pieces_congr {other : Char → Bool} {cs : List Char} (same : ∀ c ∈ cs, cut c = other c) :
    pieces cut cs = pieces other cs := by
  induction cs with
  | nil => rfl
  | cons c cs ih =>
    rw [pieces, pieces, same c (by simp), ih fun d member => same d (by simp [member])]

end Pieces

theorem splitAt_append (sep : Char) (front back : String) :
    splitAt sep (front ++ String.singleton sep ++ back) = splitAt sep front ++ splitAt sep back := by
  have cut := @pieces_append_cut (· == sep) sep (beq_self_eq_true sep) front.toList back.toList
  have chars : (front ++ String.singleton sep ++ back).toList = front.toList ++ sep :: back.toList := by simp
  rw [splitAt, chars, cut, List.map_append]
  rfl

theorem splitAt_of_uncut {sep : Char} {s : String} (uncut : sep ∉ s.toList) : splitAt sep s = [s] := by
  have none : ∀ c ∈ s.toList, (c == sep) = false := by
    intro c member
    refine beq_eq_false_iff_ne.mpr fun same => uncut ?_
    rwa [same] at member
  rw [splitAt, pieces_of_uncut none, List.map_singleton, String.ofList_toList]

theorem splitAt_intercalate {sep : Char} {parts : List String} (nonempty : parts ≠ [])
    (uncut : ∀ part ∈ parts, sep ∉ part.toList) :
    splitAt sep ((String.singleton sep).intercalate parts) = parts := by
  induction parts with
  | nil => contradiction
  | cons part rest ih =>
    have first := splitAt_of_uncut (uncut part (by simp))
    have later := fun some => ih some fun other member => uncut other (by simp [member])
    cases rest with
    | nil => rwa [String.intercalate_singleton]
    | cons next rest =>
      rw [String.intercalate_cons_cons, splitAt_append, first, later (by simp)]
      rfl

section Runs

variable {α : Type} {p : α → Bool} {front rest : List α}

theorem takeWhile_append_of_stop (inside : ∀ a ∈ front, p a = true) (stops : ∀ a ∈ rest.head?, p a = false) :
    (front ++ rest).takeWhile p = front := by
  have stopped : rest.takeWhile p = [] := by
    cases rest with
    | nil => rfl
    | cons a rest => exact List.takeWhile_cons_of_neg (by simp [stops a rfl])
  rw [List.takeWhile_append_of_pos inside, stopped, List.append_nil]

theorem dropWhile_append_of_stop (inside : ∀ a ∈ front, p a = true) (stops : ∀ a ∈ rest.head?, p a = false) :
    (front ++ rest).dropWhile p = rest := by
  rw [List.dropWhile_append_of_pos inside]
  cases rest with
  | nil => rfl
  | cons a rest => exact List.dropWhile_cons_of_neg (by simp [stops a rfl])

theorem stops_of_dropWhile (p : α → Bool) (xs : List α) : ∀ a ∈ (xs.dropWhile p).head?, p a = false := by
  intro a first
  have dropped := List.head?_dropWhile_not p xs
  rw [Option.mem_def.mp first] at dropped
  exact dropped

end Runs

def AllBlank (cs : List Char) : Prop := ∀ c ∈ cs, isBlank c = true

/-- The inner text is what is left without the blanks around it. -/
structure Strips (cs inner : List Char) : Prop where
  around : ∃ front back, cs = front ++ inner ++ back ∧ AllBlank front ∧ AllBlank back
  first : ∀ c ∈ inner.head?, isBlank c = false
  last : ∀ c ∈ inner.getLast?, isBlank c = false

theorem trimEnd_append {rest back : List Char} (blank : AllBlank back)
    (ends : ∀ c ∈ rest.getLast?, isBlank c = false) : trimEnd (rest ++ back) = rest := by
  have blankBack : ∀ c ∈ back.reverse, isBlank c = true := fun c member => blank c (List.mem_reverse.mp member)
  rw [trimEnd, List.reverse_append, dropWhile_append_of_stop blankBack, List.reverse_reverse]
  rwa [List.head?_reverse]

theorem trim_strips (cs : List Char) : Strips cs (trimEnd (trimStart cs)) := by
  have whole : trimEnd (trimStart cs) ++ (trimStart cs).rtakeWhile isBlank = trimStart cs :=
    List.rdropWhile_append_rtakeWhile
  refine ⟨⟨cs.takeWhile isBlank, (trimStart cs).rtakeWhile isBlank, ?_, ?_, ?_⟩, ?_, ?_⟩
  · rw [List.append_assoc, whole]
    exact List.takeWhile_append_dropWhile.symm
  · exact fun c member => List.mem_takeWhile_imp member
  · exact fun c member => List.mem_rtakeWhile_imp member
  · intro c first
    apply stops_of_dropWhile isBlank cs
    rw [← trimStart, ← whole, List.head?_append, Option.mem_def.mp first]
    rfl
  · rw [trimEnd, List.getLast?_reverse]
    exact stops_of_dropWhile isBlank _

theorem Strips.eq_trim {cs inner : List Char} (strips : Strips cs inner) : inner = trimEnd (trimStart cs) := by
  obtain ⟨⟨front, back, rfl, blankFront, blankBack⟩, first, last⟩ := strips
  cases inner with
  | nil =>
    have blank : AllBlank (front ++ [] ++ back) := by
      intro c member
      rw [List.append_nil] at member
      rcases List.mem_append.mp member with member | member
      · exact blankFront c member
      · exact blankBack c member
    rw [trimStart, List.dropWhile_eq_nil_iff.mpr blank]
    rfl
  | cons c inner =>
    have stops : ∀ d ∈ (c :: inner ++ back).head?, isBlank d = false := first
    rw [List.append_assoc, trimStart, dropWhile_append_of_stop blankFront stops, trimEnd_append blankBack last]

/-- How a text begins: with blanks, a word, and nothing or a blank after it. -/
structure BeginsWithWord (cs word after : List Char) : Prop where
  split : ∃ front, cs = front ++ (word ++ after) ∧ AllBlank front
  nonempty : word ≠ []
  unbroken : ∀ c ∈ word, isBlank c = false
  stops : ∀ c ∈ after.head?, isBlank c = true

theorem blank_or_beginsWithWord (cs : List Char) : AllBlank cs ∨ ∃ word after, BeginsWithWord cs word after := by
  cases begun : trimStart cs with
  | nil => exact .inl (List.dropWhile_eq_nil_iff.mp begun)
  | cons c rest =>
    have notBlank : isBlank c = false := stops_of_dropWhile isBlank cs c (by rw [← trimStart, begun]; rfl)
    refine .inr ⟨(c :: rest).takeWhile fun d => !isBlank d, (c :: rest).dropWhile fun d => !isBlank d, ?_, ?_, ?_, ?_⟩
    · refine ⟨cs.takeWhile isBlank, ?_, fun d member => List.mem_takeWhile_imp member⟩
      rw [List.takeWhile_append_dropWhile, ← begun]
      exact List.takeWhile_append_dropWhile.symm
    · simp [notBlank]
    · intro d member
      simpa using List.mem_takeWhile_imp member
    · intro d first
      simpa using stops_of_dropWhile _ _ d first

theorem wordsOf_cons_blank {c : Char} (blank : isBlank c = true) (cs : List Char) : wordsOf (c :: cs) = wordsOf cs := by
  rw [wordsOf, pieces, if_pos blank]
  rfl

theorem wordsOf_append_of_blank {front : List Char} (blank : AllBlank front) (cs : List Char) :
    wordsOf (front ++ cs) = wordsOf cs := by
  induction front with
  | nil => rfl
  | cons c front ih =>
    have later : AllBlank front := fun d member => blank d (List.mem_cons_of_mem c member)
    rw [List.cons_append, wordsOf_cons_blank (blank c List.mem_cons_self), ih later]

theorem wordsOf_of_blank {cs : List Char} (blank : AllBlank cs) : wordsOf cs = [] := by
  have none := wordsOf_append_of_blank blank []
  rwa [List.append_nil] at none

theorem wordsOf_append_blank {c : Char} (blank : isBlank c = true) (xs ys : List Char) :
    wordsOf (xs ++ c :: ys) = wordsOf xs ++ wordsOf ys := by
  rw [wordsOf, pieces_append_cut blank, List.filter_append]
  rfl

theorem Strips.wordsOf_eq {cs inner : List Char} (strips : Strips cs inner) : wordsOf inner = wordsOf cs := by
  obtain ⟨⟨front, back, rfl, blankFront, blankBack⟩, -, -⟩ := strips
  rw [List.append_assoc, wordsOf_append_of_blank blankFront]
  cases back with
  | nil => rw [List.append_nil]
  | cons c back =>
    have later : AllBlank back := fun d member => blankBack d (List.mem_cons_of_mem c member)
    rw [wordsOf_append_blank (blankBack c List.mem_cons_self), wordsOf_of_blank later, List.append_nil]

theorem words_trim (s : String) : words (trim s) = words s := by
  rw [words, words, trim, String.toList_ofList, (trim_strips s.toList).wordsOf_eq]

theorem ne_empty_of_mem_words {s word : String} (member : word ∈ words s) : word ≠ "" := by
  obtain ⟨cs, found, rfl⟩ := List.mem_map.mp member
  have nonempty := (List.mem_filter.mp found).2
  simpa [String.ext_iff] using nonempty

namespace BeginsWithWord

variable {cs word after : List Char} (begins : BeginsWithWord cs word after)
include begins

theorem trimStart_eq : trimStart cs = word ++ after := by
  obtain ⟨⟨front, rfl, blank⟩, nonempty, unbroken, -⟩ := begins
  apply dropWhile_append_of_stop blank
  intro c first
  cases word with
  | nil => exact absurd rfl nonempty
  | cons d word =>
    cases first
    exact unbroken _ List.mem_cons_self

theorem wordsOf_eq : wordsOf cs = word :: wordsOf after := by
  obtain ⟨⟨front, rfl, blank⟩, nonempty, unbroken, stops⟩ := begins
  have single : wordsOf word = [word] := by simp [wordsOf, pieces_of_uncut unbroken, nonempty]
  rw [wordsOf_append_of_blank blank]
  cases after with
  | nil =>
    rw [List.append_nil, single]
    rfl
  | cons c after =>
    have isCut : isBlank c = true := stops c rfl
    rw [wordsOf_cons_blank isCut, wordsOf_append_blank isCut, single]
    rfl

end BeginsWithWord

theorem head?_words_eq_some_iff {s word : String} :
    (words s).head? = some word ↔ ∃ after, BeginsWithWord s.toList word.toList after := by
  constructor
  · intro first
    rcases blank_or_beginsWithWord s.toList with blank | ⟨found, after, begins⟩
    · rw [words, wordsOf_of_blank blank] at first
      cases first
    · rw [words, begins.wordsOf_eq] at first
      cases first
      exact ⟨after, by rwa [String.toList_ofList]⟩
  · rintro ⟨after, begins⟩
    rw [words, begins.wordsOf_eq, List.map_cons, String.ofList_toList]
    rfl

theorem firstWord?_of_blank {s : String} (blank : AllBlank s.toList) : firstWord? s = none := by
  rw [firstWord?, trimStart, List.dropWhile_eq_nil_iff.mpr blank]

theorem firstWord?_of_begins {s : String} {word after : List Char} (begins : BeginsWithWord s.toList word after) :
    firstWord? s = some (String.ofList word, trim (String.ofList after)) := by
  have inside : ∀ c ∈ word, (!isBlank c) = true := fun c member => by simp [begins.unbroken c member]
  have stops : ∀ c ∈ after.head?, (!isBlank c) = false := fun c first => by simp [begins.stops c first]
  rw [firstWord?, begins.trimStart_eq]
  split
  · rename_i empty
    exact absurd (List.append_eq_nil_iff.mp empty).1 begins.nonempty
  · dsimp only
    rw [takeWhile_append_of_stop inside stops, dropWhile_append_of_stop inside stops]

/-- The first word of a text with the text after it, said by how they lie in it. -/
theorem firstWord?_eq_some_iff {s word rest : String} :
    firstWord? s = some (word, rest) ↔
      ∃ after, BeginsWithWord s.toList word.toList after ∧ Strips after rest.toList := by
  constructor
  · intro read
    rcases blank_or_beginsWithWord s.toList with blank | ⟨found, after, begins⟩
    · rw [firstWord?_of_blank blank] at read
      cases read
    · rw [firstWord?_of_begins begins] at read
      cases read
      rw [String.toList_ofList, trim, String.toList_ofList, String.toList_ofList]
      exact ⟨after, begins, trim_strips after⟩
  · rintro ⟨after, begins, strips⟩
    rw [firstWord?_of_begins begins, String.ofList_toList, trim, String.toList_ofList, ← strips.eq_trim,
      String.ofList_toList]

end SliceGrowth.Text
