import Mathlib
import SliceGrowth.Analysis.Target

/-!
Lines that tell findings can be read back. A path may hold every sign that a line is put together with, so a line is
taken apart from its right end: the target is what follows the last space, and the column and the line number are what
follows the last two colons before it.
-/
namespace SliceGrowth

namespace Text

theorem eq_nil_of_last {α : Type} {c : α} {between ys ys' : List α} (rest : c :: ys = between ++ c :: ys')
    (last : c ∉ ys) : between = [] := by
  cases between with
  | nil => rfl
  | cons d between =>
    cases rest
    exact absurd (by simp) last

/-- A list is cut in one way only at the last place where an element stands. -/
theorem append_cons_inj_of_last {α : Type} {c : α} {xs xs' ys ys' : List α} (same : xs ++ c :: ys = xs' ++ c :: ys')
    (last : c ∉ ys) (last' : c ∉ ys') : xs = xs' ∧ ys = ys' := by
  rcases List.append_eq_append_iff.mp same with ⟨between, rfl, rest⟩ | ⟨between, rfl, rest⟩
  · obtain rfl := eq_nil_of_last rest last
    cases rest
    exact ⟨(List.append_nil xs).symm, rfl⟩
  · obtain rfl := eq_nil_of_last rest last'
    cases rest
    exact ⟨List.append_nil xs', rfl⟩

theorem append_inj_of_last {separator : String} {c : Char} (single : separator.toList = [c]) {s s' t t' : String}
    (same : s ++ separator ++ t = s' ++ separator ++ t') (last : c ∉ t.toList) (last' : c ∉ t'.toList) :
    s = s' ∧ t = t' := by
  have chars : s.toList ++ c :: t.toList = s'.toList ++ c :: t'.toList := by
    simpa [single] using congrArg String.toList same
  obtain ⟨front, back⟩ := append_cons_inj_of_last chars last last'
  exact ⟨String.toList_injective front, String.toList_injective back⟩

theorem not_mem_repr {c : Char} (noDigit : c.isDigit = false) (n : Nat) : c ∉ (Nat.repr n).toList := by
  rw [Nat.repr_eq_ofList_toDigits, String.toList_ofList]
  intro member
  have digit := Nat.isDigit_of_mem_toDigits (by decide) (by decide) member
  rw [noDigit] at digit
  cases digit

end Text

theorem Position.text_eq_iff (p q : Position) :
    p.text = q.text ↔ p.path.text = q.path.text ∧ p.line = q.line ∧ p.column = q.column := by
  constructor
  · intro same
    have colon : ":".toList = [':'] := rfl
    have noColon : ∀ n, ':' ∉ (Nat.repr n).toList := Text.not_mem_repr rfl
    obtain ⟨front, column⟩ := Text.append_inj_of_last colon same (noColon _) (noColon _)
    obtain ⟨path, line⟩ := Text.append_inj_of_last colon front (noColon _) (noColon _)
    exact ⟨path, Nat.repr_inj.mp line, Nat.repr_inj.mp column⟩
  · rintro ⟨path, line, column⟩
    simp only [Position.text, path, line, column]

namespace Analysis

/-- A name as it stands in source code, where neither dots nor blanks can be part of one. -/
def isPlainName (name : String) : Bool := name.toList.all fun c => c != '.' && !Text.isBlank c

theorem not_mem_of_isPlainName {name : String} (plain : isPlainName name = true) {c : Char}
    (apart : c = '.' ∨ Text.isBlank c = true) : c ∉ name.toList := by
  intro member
  have inner := List.all_eq_true.mp plain c member
  simp only [Bool.and_eq_true, bne_iff_ne, Bool.not_eq_true'] at inner
  rcases apart with dot | blank
  · exact inner.1 dot
  · rw [inner.2] at blank
    cases blank

/-- The target is a field, and both of its names are plain. -/
structure Target.IsPlainField (t : Target) : Prop where
  identity : isPlainName t.identity = true
  field : ∃ name, t.field = some name ∧ isPlainName name = true

namespace Target.IsPlainField

variable {t u : Target}

theorem text_eq (plain : t.IsPlainField) :
    ∃ name, t.field = some name ∧ isPlainName name = true ∧ t.text = t.identity ++ "." ++ name := by
  obtain ⟨name, named, plainName⟩ := plain.field
  refine ⟨name, named, plainName, ?_⟩
  rw [Target.text, named]

theorem noSpace (plain : t.IsPlainField) : ' ' ∉ t.text.toList := by
  obtain ⟨name, -, plainName, text⟩ := plain.text_eq
  have apart : ' ' = '.' ∨ Text.isBlank ' ' = true := .inr rfl
  simp [text, not_mem_of_isPlainName plain.identity apart, not_mem_of_isPlainName plainName apart]

theorem text_eq_iff (plain : t.IsPlainField) (plain' : u.IsPlainField) :
    t.text = u.text ↔ t.identity = u.identity ∧ t.field = u.field := by
  constructor
  · intro same
    obtain ⟨name, named, plainName, text⟩ := plain.text_eq
    obtain ⟨name', named', plainName', text'⟩ := plain'.text_eq
    rw [text, text'] at same
    obtain ⟨identity, rfl⟩ := Text.append_inj_of_last (c := '.') rfl same
      (not_mem_of_isPlainName plainName (.inl rfl)) (not_mem_of_isPlainName plainName' (.inl rfl))
    exact ⟨identity, named.trans named'.symm⟩
  · rintro ⟨identity, field⟩
    rw [Target.text, Target.text, identity, field]

end Target.IsPlainField

/-- Whatever its path is, a line that tells of a field tells where and of which field. -/
theorem Finding.text_unambiguous {a b : Finding} (plain : a.target.IsPlainField) (plain' : b.target.IsPlainField) :
    a.text = b.text ↔
      (a.position.path.text = b.position.path.text ∧ a.position.line = b.position.line ∧
        a.position.column = b.position.column) ∧
      a.target.identity = b.target.identity ∧ a.target.field = b.target.field := by
  rw [← Position.text_eq_iff, ← plain.text_eq_iff plain']
  constructor
  · intro same
    have upToTarget := (String.append_left_inj _).mp same
    -- The words before the target end in a space, and there is none after it.
    have words : ": slice field " = ": slice field" ++ " " := rfl
    rw [words, ← String.append_assoc, ← String.append_assoc] at upToTarget
    obtain ⟨front, target⟩ := Text.append_inj_of_last (c := ' ') rfl upToTarget plain.noSpace plain'.noSpace
    exact ⟨(String.append_left_inj _).mp front, target⟩
  · rintro ⟨position, target⟩
    rw [Finding.text, Finding.text, position, target]

/-- The path looks like the line of another finding. -/
def linedPath : SlashPath := ⟨.relative, ["my pkg", "a.go:1:2: slice field S.d"]⟩

def nestedFinding : Finding where
  target := { identity := "S", field := some "d" }
  position := ⟨linedPath, 3, 14⟩

/-- The same path in one part, and a target that says where it is declared. -/
def joinedFinding : Finding where
  target := { identity := "S", field := some "d", position := some ⟨linedPath, 3, 14⟩ }
  position := ⟨⟨.relative, ["my pkg/a.go:1:2: slice field S.d"]⟩, 3, 14⟩

theorem Finding.text_unambiguous_nested :
    nestedFinding.text = joinedFinding.text ∧
      (nestedFinding.position.path.text = joinedFinding.position.path.text ∧
        nestedFinding.position.line = joinedFinding.position.line ∧
        nestedFinding.position.column = joinedFinding.position.column) ∧
      nestedFinding.target.identity = joinedFinding.target.identity ∧
      nestedFinding.target.field = joinedFinding.target.field := by
  have same : nestedFinding.text = joinedFinding.text := by decide
  have plain : nestedFinding.target.IsPlainField := ⟨by decide, "d", rfl, by decide⟩
  have plain' : joinedFinding.target.IsPlainField := ⟨by decide, "d", rfl, by decide⟩
  exact ⟨same, (Finding.text_unambiguous plain plain').mp same⟩

end Analysis

end SliceGrowth
