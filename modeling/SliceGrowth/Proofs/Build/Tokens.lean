import SliceGrowth.Build.Constraint
import SliceGrowth.Proofs.Text.Words

/-!
How a build line is cut into tokens. A line has the tokens that it is a rendering of: their texts in order, with blanks
around them, and at least one between two tags.
-/
namespace SliceGrowth.Build

open Constraint

structure IsTag (name : String) : Prop where
  nonempty : name ≠ ""
  inner : ∀ c ∈ name.toList, isTagChar c = true

instance (name : String) : Decidable (IsTag name) :=
  decidable_of_iff (name ≠ "" ∧ name.toList.all isTagChar = true)
    ⟨fun ⟨nonempty, inner⟩ => ⟨nonempty, List.all_eq_true.mp inner⟩,
      fun ⟨nonempty, inner⟩ => ⟨nonempty, List.all_eq_true.mpr inner⟩⟩

theorem isTagChar_code {c : Char} (tag : isTagChar c = true) : 0x2E ≤ c.toNat ∧ c.toNat ≤ 0x7A := by
  delta isTagChar Char.isAlphanum Char.isAlpha Char.isUpper Char.isLower Char.isDigit at tag
  simp only [Bool.or_eq_true, Bool.and_eq_true, decide_eq_true_eq, beq_iff_eq, UInt32.le_iff_toNat_le,
    ge_iff_le] at tag
  change ((((0x41 ≤ c.toNat ∧ c.toNat ≤ 0x5A) ∨ (0x61 ≤ c.toNat ∧ c.toNat ≤ 0x7A)) ∨
    (0x30 ≤ c.toNat ∧ c.toNat ≤ 0x39)) ∨ c = '_') ∨ c = '.' at tag
  rcases tag with (code | rfl) | rfl
  · omega
  · decide
  · decide

theorem isBlank_of_isTagChar {c : Char} (tag : isTagChar c = true) : Text.isBlank c = false := by
  have code := isTagChar_code tag
  simp only [Text.isBlank, Bool.or_eq_false_iff, Bool.and_eq_false_iff, decide_eq_false_iff_not, beq_eq_false_iff_ne]
  omega

theorem isTagChar_of_isBlank {c : Char} (blank : Text.isBlank c = true) : isTagChar c = false := by
  rw [← Bool.not_eq_true]
  intro tag
  rw [isBlank_of_isTagChar tag] at blank
  cases blank

theorem IsTag.exists_cons {name : String} (tag : IsTag name) : ∃ c cs, name.toList = c :: cs ∧ isTagChar c = true := by
  have nonempty : name.toList ≠ [] := fun none => tag.nonempty (String.toList_eq_nil_iff.mp none)
  obtain ⟨c, cs, chars⟩ := List.exists_cons_of_ne_nil nonempty
  exact ⟨c, cs, chars, tag.inner c (by simp [chars])⟩

/-- A tag is cut off as a whole in front of anything that does not go on with it. -/
theorem tokens_tag_append {name : String} (tag : IsTag name) {rest : List Char}
    (stop : ∀ c ∈ rest.head?, isTagChar c = false) :
    tokens (name.toList ++ rest) = do return .tag name :: (← tokens rest) := by
  obtain ⟨c, cs, chars, first⟩ := tag.exists_cons
  have inner := tag.inner
  rw [chars] at inner
  have others : ∀ d ∈ cs, isTagChar d = true := fun d member => inner d (by simp [member])
  have code := isTagChar_code first
  have whole : String.ofList (c :: cs) = name := by rw [← chars, String.ofList_toList]
  rw [chars, List.cons_append, tokens.eq_def]
  split
  case h_7 same =>
    cases same
    rw [if_neg (by simp [isBlank_of_isTagChar first]), if_pos first, Text.takeWhile_append_of_stop others stop,
      Text.dropWhile_append_of_stop others stop, whole]
  case h_1 same => cases same
  -- The signs that are tokens of their own lie outside the range of the characters of a tag.
  all_goals
    rename_i same
    rw [(List.cons.inj same).1] at code
    exact absurd code (by decide)

theorem tokens_nil : tokens [] = .ok [] := by
  rw [tokens.eq_def]

namespace Constraint

/-- Every tag is a word; the signs are legible as they are. -/
def Token.IsLegible : Token → Prop
  | .tag name => IsTag name
  | _ => True

/-- The text does not go on with the token. Only a tag can be gone on with. -/
def Token.StopsBefore (rest : List Char) : Token → Prop
  | .tag _ => ∀ c ∈ rest.head?, isTagChar c = false
  | _ => True

theorem Token.StopsBefore.of_head {token : Token} {rest other : List Char} (stop : token.StopsBefore rest)
    (first : ∀ c ∈ other.head?, c ∈ rest.head? ∨ Text.isBlank c = true) : token.StopsBefore other := by
  cases token with
  | tag name =>
    intro c head
    rcases first c head with same | blank
    · exact stop c same
    · exact isTagChar_of_isBlank blank
  | opening | closing | bang | both | either => trivial

/-- No token begins with the character, and it is no blank. A single `&` or `|` is one of these. -/
structure IsFault (c : Char) (rest : List Char) : Prop where
  notBlank : Text.isBlank c = false
  notTag : isTagChar c = false
  notSign : c ≠ '(' ∧ c ≠ ')' ∧ c ≠ '!'
  notDouble : c = '&' ∨ c = '|' → rest.head? ≠ some c

theorem tokens_token {token : Token} {rest : List Char} (legible : token.IsLegible) (stop : token.StopsBefore rest) :
    tokens (token.text.toList ++ rest) = do return token :: (← tokens rest) := by
  cases token with
  | tag name => exact tokens_tag_append legible stop
  | opening | closing | bang | both | either =>
    rw [tokens.eq_def]
    rfl

theorem tokens_blank {c : Char} (blank : Text.isBlank c = true) (rest : List Char) :
    tokens (c :: rest) = tokens rest := by
  rw [tokens.eq_def]
  split
  case h_7 same =>
    cases same
    exact if_pos blank
  case h_1 same => cases same
  all_goals
    rename_i same
    rw [(List.cons.inj same).1] at blank
    exact absurd blank (by decide)

theorem tokens_fault {c : Char} {rest : List Char} (fault : IsFault c rest) :
    tokens (c :: rest) = .error (.unexpectedCharacter c) := by
  rw [tokens.eq_def]
  split
  case h_7 same =>
    cases same
    rw [if_neg (by simp [fault.notBlank]), if_neg (by simp [fault.notTag])]
  case h_1 same => cases same
  case h_2 same => exact absurd (List.cons.inj same).1 fault.notSign.1
  case h_3 same => exact absurd (List.cons.inj same).1 fault.notSign.2.1
  case h_4 same => exact absurd (List.cons.inj same).1 fault.notSign.2.2
  case h_5 same =>
    cases same
    exact absurd rfl (fault.notDouble (.inl rfl))
  case h_6 same =>
    cases same
    exact absurd rfl (fault.notDouble (.inr rfl))

theorem exists_word {c : Char} (first : isTagChar c = true) (rest : List Char) :
    ∃ token : Token, ∃ after, c :: rest = token.text.toList ++ after ∧ token.IsLegible ∧ token.StopsBefore after := by
  refine ⟨.tag (String.ofList (c :: rest.takeWhile isTagChar)), rest.dropWhile isTagChar, ?_, ⟨?_, ?_⟩, ?_⟩
  · rw [Token.text, String.toList_ofList, List.cons_append, List.takeWhile_append_dropWhile]
  · intro none
    have chars := String.toList_eq_nil_iff.mpr none
    rw [String.toList_ofList] at chars
    cases chars
  · intro d member
    rw [String.toList_ofList] at member
    rcases List.mem_cons.mp member with rfl | member
    · exact first
    · exact List.all_eq_true.mp List.all_takeWhile d member
  · exact Text.stops_of_dropWhile isTagChar rest

theorem line_cases (c : Char) (rest : List Char) :
    Text.isBlank c = true ∨
    (∃ token : Token, ∃ after,
      c :: rest = token.text.toList ++ after ∧ token.IsLegible ∧ token.StopsBefore after) ∨
    IsFault c rest := by
  by_cases blank : Text.isBlank c = true
  · exact .inl blank
  by_cases first : isTagChar c = true
  · exact .inr (.inl (exists_word first rest))
  by_cases double : (c = '&' ∨ c = '|') ∧ rest.head? = some c
  · obtain ⟨after, rfl⟩ := List.head?_eq_some_iff.mp double.2
    rcases double.1 with rfl | rfl
    · exact .inr (.inl ⟨.both, after, rfl, trivial, trivial⟩)
    · exact .inr (.inl ⟨.either, after, rfl, trivial, trivial⟩)
  by_cases opening : c = '('
  · exact .inr (.inl ⟨.opening, rest, by rw [opening]; rfl, trivial, trivial⟩)
  by_cases closing : c = ')'
  · exact .inr (.inl ⟨.closing, rest, by rw [closing]; rfl, trivial, trivial⟩)
  by_cases bang : c = '!'
  · exact .inr (.inl ⟨.bang, rest, by rw [bang]; rfl, trivial, trivial⟩)
  exact .inr (.inr ⟨by simpa using blank, by simpa using first, ⟨opening, closing, bang⟩,
    fun sign same => double ⟨sign, same⟩⟩)

theorem Token.length_text_pos {token : Token} (legible : token.IsLegible) : 0 < token.text.toList.length := by
  cases token with
  | tag name =>
    obtain ⟨c, cs, chars, -⟩ := IsTag.exists_cons legible
    simp [Token.text, chars]
  | opening | closing | bang | both | either => decide

/-- Lines in the order in which they are cut. -/
@[elab_as_elim]
theorem line_induction {motive : List Char → Prop} (nil : motive [])
    (blank : ∀ c rest, Text.isBlank c = true → motive rest → motive (c :: rest))
    (token : ∀ (token : Token) (rest : List Char), token.IsLegible → token.StopsBefore rest → motive rest →
      motive (token.text.toList ++ rest))
    (fault : ∀ c rest, IsFault c rest → motive (c :: rest)) (line : List Char) : motive line := by
  induction length : line.length using Nat.strongRecOn generalizing line with
  | _ n ih =>
    subst length
    cases line with
    | nil => exact nil
    | cons c rest =>
      rcases line_cases c rest with first | ⟨first, after, same, legible, stop⟩ | first
      · exact blank c rest first (ih rest.length (by simp) rest rfl)
      · have pos := Token.length_text_pos legible
        have shorter : after.length < (c :: rest).length := by
          rw [same, List.length_append]
          omega
        rw [same]
        exact token first after legible stop (ih after.length shorter after rfl)
      · exact fault c rest first

/-- A line that has the tokens in their order, with blanks around them as one likes, but some after a tag that would
    go on otherwise. -/
inductive Renders : List Token → List Char → Prop where
  | done : Renders [] []
  | blank {ts : List Token} {c : Char} {line : List Char} :
    Text.isBlank c = true → Renders ts line → Renders ts (c :: line)
  | token {ts : List Token} {token : Token} {line : List Char} :
    token.IsLegible → token.StopsBefore line → Renders ts line → Renders (token :: ts) (token.text.toList ++ line)

theorem tokens_of_renders {ts : List Token} {line : List Char} (rendered : Renders ts line) :
    tokens line = .ok ts := by
  induction rendered with
  | done => exact tokens_nil
  | blank blank _ ih => rw [tokens_blank blank, ih]
  | token legible stop _ ih =>
    rw [tokens_token legible stop, ih]
    rfl

theorem renders_of_tokens {ts : List Token} {line : List Char} (cut : tokens line = .ok ts) : Renders ts line := by
  induction line using line_induction generalizing ts with
  | nil =>
    rw [tokens_nil] at cut
    cases cut
    exact .done
  | blank c rest blank ih =>
    rw [tokens_blank blank] at cut
    exact .blank blank (ih cut)
  | token token rest legible stop ih =>
    rw [tokens_token legible stop] at cut
    cases later : tokens rest with
    | error cause => rw [later] at cut; cases cut
    | ok others =>
      rw [later] at cut
      cases cut
      exact .token legible stop (ih later)
  | fault c rest fault =>
    rw [tokens_fault fault] at cut
    cases cut

namespace Renders

theorem blanks {ts : List Token} {gap line : List Char} (blank : ∀ c ∈ gap, Text.isBlank c = true)
    (rendered : Renders ts line) : Renders ts (gap ++ line) := by
  induction gap with
  | nil => exact rendered
  | cons c gap ih =>
    apply Renders.blank (blank c (by simp))
    exact ih fun d member => blank d (by simp [member])

theorem followed {ts : List Token} {gap line : List Char} (blank : ∀ c ∈ gap, Text.isBlank c = true)
    (rendered : Renders ts line) : Renders ts (line ++ gap) := by
  induction rendered with
  | done => simpa using blanks blank .done
  | blank first _ ih => exact .blank first ih
  | @token _ _ line legible stop _ ih =>
    rw [List.append_assoc]
    refine .token legible (stop.of_head ?_) ih
    intro c first
    cases line with
    | nil => exact .inr (blank c (List.mem_of_mem_head? first))
    | cons d line => exact .inl first

theorem exists_cons {token : Token} {ts : List Token} {line : List Char} (rendered : Renders (token :: ts) line) :
    ∃ gap rest, line = gap ++ (token.text.toList ++ rest) ∧ (∀ c ∈ gap, Text.isBlank c = true) ∧
      token.IsLegible ∧ token.StopsBefore rest ∧ Renders ts rest := by
  generalize whole : token :: ts = all at rendered
  induction rendered with
  | done => cases whole
  | @blank _ c _ blank _ ih =>
    obtain ⟨gap, rest, rfl, blanks, after⟩ := ih whole
    exact ⟨c :: gap, rest, rfl, List.forall_mem_cons.mpr ⟨blank, blanks⟩, after⟩
  | @token _ _ line legible stop rendered =>
    cases whole
    exact ⟨[], line, rfl, by simp, legible, stop, rendered⟩

theorem exists_append {before ts : List Token} {line : List Char} (rendered : Renders (before ++ ts) line) :
    ∃ left right, line = left ++ right ∧ Renders before left ∧ Renders ts right := by
  induction before generalizing line with
  | nil => exact ⟨[], line, rfl, .done, rendered⟩
  | cons token before ih =>
    obtain ⟨gap, rest, rfl, blank, legible, stop, later⟩ := rendered.exists_cons
    obtain ⟨left, right, rfl, front, back⟩ := ih later
    refine ⟨gap ++ (token.text.toList ++ left), right, by simp, blanks blank (.token legible ?_ front), back⟩
    apply stop.of_head
    intro c first
    left
    rw [Option.mem_def, List.head?_append, Option.mem_def.mp first]
    rfl

theorem legible {ts : List Token} {line : List Char} (rendered : Renders ts line) :
    ∀ token ∈ ts, token.IsLegible := by
  induction rendered with
  | done => simp
  | blank _ _ ih => exact ih
  | token legible _ _ ih => exact List.forall_mem_cons.mpr ⟨legible, ih⟩

end Renders

theorem Token.filter_text {token : Token} (legible : token.IsLegible) :
    token.text.toList.filter (fun c => !Text.isBlank c) = token.text.toList := by
  cases token with
  | tag name =>
    rw [List.filter_eq_self]
    intro c member
    rw [isBlank_of_isTagChar (IsTag.inner legible c member)]
    rfl
  | opening | closing | bang | both | either => decide

theorem Renders.filter_line {ts : List Token} {line : List Char} (rendered : Renders ts line) :
    line.filter (fun c => !Text.isBlank c) = ts.flatMap fun token => token.text.toList := by
  induction rendered with
  | done => rfl
  | blank blank _ ih => rw [List.filter_cons_of_neg (by simp [blank]), ih]
  | token legible _ _ ih => rw [List.filter_append, Token.filter_text legible, ih, List.flatMap_cons]

end Constraint

end SliceGrowth.Build
