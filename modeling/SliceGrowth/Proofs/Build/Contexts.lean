import SliceGrowth.Proofs.Build.Grammar

/-!
What a build line takes from its context. The values of the tags can be put together while the tokens are being read,
and the line is then refused in the same way and has the same value: no value decides how the reading goes on. So the
context has no part in whether a line is refused, and of the context only the tags on the line count for the value.
-/
namespace SliceGrowth.Build.Constraint

/-- A value read from the front of the tokens, and the tokens after it. -/
abbrev Valuation := Except Cause (Bool × List Token)

section InPassing

variable (context : Context)

/-
The levels of reading, with the value of what has been read in place of its tree. Both operands are read before their
values are joined.
-/
mutual

def valueOr : Nat → List Token → Valuation
  | 0, _ => .error .unexpectedEnd
  | n + 1, ts => do
    let (left, rest) ← valueAnd n ts
    valueOrTail n left rest

def valueOrTail : Nat → Bool → List Token → Valuation
  | 0, _, _ => .error .unexpectedEnd
  | n + 1, left, .either :: ts => do
    let (right, rest) ← valueAnd n ts
    valueOrTail n (left || right) rest
  | _ + 1, left, ts => .ok (left, ts)

def valueAnd : Nat → List Token → Valuation
  | 0, _ => .error .unexpectedEnd
  | n + 1, ts => do
    let (left, rest) ← valueNot n ts
    valueAndTail n left rest

def valueAndTail : Nat → Bool → List Token → Valuation
  | 0, _, _ => .error .unexpectedEnd
  | n + 1, left, .both :: ts => do
    let (right, rest) ← valueNot n ts
    valueAndTail n (left && right) rest
  | _ + 1, left, ts => .ok (left, ts)

def valueNot : Nat → List Token → Valuation
  | 0, _ => .error .unexpectedEnd
  | n + 1, .bang :: ts => do
    let (inner, rest) ← valueNot n ts
    return (!inner, rest)
  | n + 1, ts => valueAtom n ts

def valueAtom : Nat → List Token → Valuation
  | 0, _ => .error .unexpectedEnd
  | _ + 1, [] => .error .unexpectedEnd
  | _ + 1, .tag name :: ts => .ok (context.satisfies name, ts)
  | n + 1, .opening :: ts => do
    let (inner, rest) ← valueOr n ts
    match rest with
    | .closing :: rest => return (inner, rest)
    | _ => .error .missingClosing
  | _ + 1, token :: _ => .error (.unexpectedToken token)

end

def valueOfTokens (ts : List Token) : Except Cause Bool :=
  if ts.isEmpty then .error .empty
  else do
    match ← valueOr context (steps ts) ts with
    | (value, []) => return value
    | (_, token :: _) => .error (.unexpectedToken token)

/-- A reading with the value of its tree. -/
def Reading.valued (reading : Reading) : Valuation :=
  reading.map fun read => (read.1.value context, read.2)

structure ValuesReadings (n : Nat) : Prop where
  or : ∀ ts, valueOr context n ts = Reading.valued context (readOr n ts)
  orTail : ∀ left ts,
    valueOrTail context n (left.value context) ts = Reading.valued context (readOrTail n left ts)
  and : ∀ ts, valueAnd context n ts = Reading.valued context (readAnd n ts)
  andTail : ∀ left ts,
    valueAndTail context n (left.value context) ts = Reading.valued context (readAndTail n left ts)
  not : ∀ ts, valueNot context n ts = Reading.valued context (readNot n ts)
  atom : ∀ ts, valueAtom context n ts = Reading.valued context (readAtom n ts)

variable {context}

theorem ValuesReadings.zero : ValuesReadings context 0 where
  or _ := rfl
  orTail _ _ := rfl
  and _ := rfl
  andTail _ _ := rfl
  not _ := rfl
  atom _ := rfl

theorem ValuesReadings.succ {n : Nat} (ih : ValuesReadings context n) : ValuesReadings context (n + 1) where
  or := by
    intro ts
    rw [valueOr, readOr, ih.and]
    rcases readAnd n ts with cause | ⟨left, rest⟩
    · rfl
    · exact ih.orTail left rest
  orTail := by
    intro left ts
    rcases ts with _ | ⟨token, ts⟩
    · rfl
    cases token with
    | either =>
      rw [valueOrTail, readOrTail, ih.and]
      rcases readAnd n ts with cause | ⟨right, rest⟩
      · rfl
      · exact ih.orTail (.or left right) rest
    | opening | closing | bang | both | tag => rfl
  and := by
    intro ts
    rw [valueAnd, readAnd, ih.not]
    rcases readNot n ts with cause | ⟨left, rest⟩
    · rfl
    · exact ih.andTail left rest
  andTail := by
    intro left ts
    rcases ts with _ | ⟨token, ts⟩
    · rfl
    cases token with
    | both =>
      rw [valueAndTail, readAndTail, ih.not]
      rcases readNot n ts with cause | ⟨right, rest⟩
      · rfl
      · exact ih.andTail (.and left right) rest
    | opening | closing | bang | either | tag => rfl
  not := by
    intro ts
    rcases ts with _ | ⟨token, ts⟩
    · exact ih.atom []
    cases token with
    | bang =>
      rw [valueNot, readNot, ih.not]
      rcases readNot n ts with cause | ⟨inner, rest⟩ <;> rfl
    | opening | closing | both | either | tag => exact ih.atom _
  atom := by
    intro ts
    rcases ts with _ | ⟨token, ts⟩
    · rfl
    cases token with
    | opening =>
      rw [valueAtom, readAtom, ih.or]
      rcases readOr n ts with cause | ⟨inner, _ | ⟨next, rest⟩⟩
      · rfl
      · rfl
      · cases next <;> rfl
    | closing | bang | both | either | tag => rfl

theorem valuesReadings (n : Nat) : ValuesReadings context n := by
  induction n with
  | zero => exact .zero
  | succ n ih => exact ih.succ

theorem valueOfTokens_eq (ts : List Token) :
    valueOfTokens context ts = (ofTokens ts).map fun tree => tree.value context := by
  unfold valueOfTokens ofTokens
  split
  · rfl
  · rw [(valuesReadings (steps ts)).or]
    rcases readOr (steps ts) ts with cause | ⟨tree, _ | ⟨token, rest⟩⟩ <;> rfl

end InPassing

theorem Tree.value_congr {first second : Context} {level : Level} (t : Tree level)
    (agree : ∀ name, .tag name ∈ t.yield → first.satisfies name = second.satisfies name) :
    t.value first = t.value second := by
  induction t with
  | or left right leftIh rightIh | and left right leftIh rightIh | orMore left right leftIh rightIh
  | andMore left right leftIh rightIh =>
    rw [value, value, leftIh fun name member => agree name (by simp [yield, member]),
      rightIh fun name member => agree name (by simp [yield, member])]
  | orEnd | andEnd => rfl
  | bang inner ih | operand inner ih | group inner ih =>
    rw [value, value, ih fun name member => agree name (by simp [yield, member])]
  | tag name => exact agree name (by simp [yield])

end SliceGrowth.Build.Constraint

namespace SliceGrowth.Build

open Constraint

/-- The value of a build line, put together while the line is being read. -/
def evaluateInPassing (expression : String) (context : Context) : Except ConstraintError Bool :=
  (tokens expression.toList >>= valueOfTokens context).mapError fun cause => ⟨expression, cause⟩

theorem evaluateInPassing_eq (expression : String) (context : Context) :
    evaluateInPassing expression context = evaluate expression context := by
  have read : tokens expression.toList >>= valueOfTokens context =
      (parse expression).map fun tree => tree.value context := by
    unfold parse
    rcases tokens expression.toList with cause | ts
    · rfl
    · exact valueOfTokens_eq ts
  rw [evaluateInPassing, read, evaluate]
  rcases parse expression with cause | tree <;> rfl

/-- A line is refused in every context or in none, and for the same cause; otherwise two contexts that agree about the
    tags on the line give it the same value. -/
theorem evaluate_malformed_in_every_context (expression : String) (first second : Context) :
    (∀ context, evaluateInPassing expression context = evaluate expression context) ∧
    ((∃ error, error.expression = expression ∧ evaluate expression first = .error error ∧
        evaluate expression second = .error error) ∨
      ∃ ts value other, tokens expression.toList = .ok ts ∧ evaluate expression first = .ok value ∧
        evaluate expression second = .ok other ∧
        ((∀ name, .tag name ∈ ts → first.satisfies name = second.satisfies name) → value = other)) := by
  refine ⟨evaluateInPassing_eq expression, ?_⟩
  unfold evaluate
  cases parsed : parse expression with
  | error cause => exact .inl ⟨⟨expression, cause⟩, rfl, rfl, rfl⟩
  | ok tree =>
    obtain ⟨t, cut, value⟩ := parse_sound parsed
    refine .inr ⟨t.yield, tree.value first, tree.value second, cut, rfl, rfl, ?_⟩
    intro agree
    rw [← value, ← value]
    exact t.value_congr agree

end SliceGrowth.Build
