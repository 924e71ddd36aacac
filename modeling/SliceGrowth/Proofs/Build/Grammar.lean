import SliceGrowth.Build.Constraint

/-!
The grammar of build constraints. A line has a value exactly if its tokens are those of a tree of the
grammar, and the value is that of the tree.
-/
namespace SliceGrowth.Build.Constraint

/-- The levels of the grammar, each operator's repetition being a level of its own:
    `or := and orTail`, `orTail := ε | "||" and orTail`, `and := not andTail`,
    `andTail := ε | "&&" not andTail`, `not := "!" not | atom`, `atom := "(" or ")" | tag`. -/
inductive Level where
  | or
  | orTail
  | and
  | andTail
  | not
  | atom

inductive Tree : Level → Type where
  | or (first : Tree .and) (rest : Tree .orTail) : Tree .or
  | orEnd : Tree .orTail
  | orMore (next : Tree .and) (rest : Tree .orTail) : Tree .orTail
  | and (first : Tree .not) (rest : Tree .andTail) : Tree .and
  | andEnd : Tree .andTail
  | andMore (next : Tree .not) (rest : Tree .andTail) : Tree .andTail
  | bang (inner : Tree .not) : Tree .not
  | operand (inner : Tree .atom) : Tree .not
  | group (inner : Tree .or) : Tree .atom
  | tag (name : String) : Tree .atom

namespace Tree

/-- The tokens of a tree, from left to right. -/
def yield {level : Level} : Tree level → List Token
  | or first rest => first.yield ++ rest.yield
  | orEnd => []
  | orMore next rest => .either :: (next.yield ++ rest.yield)
  | and first rest => first.yield ++ rest.yield
  | andEnd => []
  | andMore next rest => .both :: (next.yield ++ rest.yield)
  | bang inner => .bang :: inner.yield
  | operand inner => inner.yield
  | group inner => .opening :: (inner.yield ++ [.closing])
  | tag name => [.tag name]

/-- The value of a tree; an empty repetition is neutral for its operator. -/
def value (context : Context) {level : Level} : Tree level → Bool
  | or first rest => first.value context || rest.value context
  | orEnd => false
  | orMore next rest => next.value context || rest.value context
  | and first rest => first.value context && rest.value context
  | andEnd => true
  | andMore next rest => next.value context && rest.value context
  | bang inner => !inner.value context
  | operand inner => inner.value context
  | group inner => inner.value context
  | tag name => context.satisfies name

end Tree

attribute [local simp] Tree.yield Tree.value

/-- The tokens up to `rest` are those of a tree at the level, with the value of `c`. -/
def Spans (level : Level) (ts rest : List Token) (c : Constraint) : Prop :=
  ∃ t : Tree level, ts = t.yield ++ rest ∧ ∀ context, t.value context = c.value context

theorem bind_eq_ok {α β : Type} {x : Except Cause α} {next : α → Except Cause β} {b : β}
    (returned : x >>= next = .ok b) : ∃ a, x = .ok a ∧ next a = .ok b := by
  cases x with
  | error cause => cases returned
  | ok a => exact ⟨a, rfl, returned⟩

theorem readOrTail_stop (n : Nat) (left : Constraint) {ts : List Token} (stop : ts.head? ≠ some .either) :
    readOrTail (n + 1) left ts = .ok (left, ts) := by
  rw [readOrTail]
  rintro more rfl
  exact stop rfl

theorem readAndTail_stop (n : Nat) (left : Constraint) {ts : List Token} (stop : ts.head? ≠ some .both) :
    readAndTail (n + 1) left ts = .ok (left, ts) := by
  rw [readAndTail]
  rintro more rfl
  exact stop rfl

theorem readNot_operand (n : Nat) {ts : List Token} (plain : ts.head? ≠ some .bang) :
    readNot (n + 1) ts = readAtom n ts := by
  rw [readNot]
  rintro more rfl
  exact plain rfl

/-- What is read at each level, given the steps, is a tree of that level. A repetition is read after the
    operand on its left, whose value it carries on. -/
structure Sound (n : Nat) : Prop where
  or : ∀ ts c rest, readOr n ts = .ok (c, rest) → Spans .or ts rest c
  orTail : ∀ left ts c rest, readOrTail n left ts = .ok (c, rest) →
    ∃ t : Tree .orTail, ts = t.yield ++ rest ∧
      ∀ context, (left.value context || t.value context) = c.value context
  and : ∀ ts c rest, readAnd n ts = .ok (c, rest) → Spans .and ts rest c
  andTail : ∀ left ts c rest, readAndTail n left ts = .ok (c, rest) →
    ∃ t : Tree .andTail, ts = t.yield ++ rest ∧
      ∀ context, (left.value context && t.value context) = c.value context
  not : ∀ ts c rest, readNot n ts = .ok (c, rest) → Spans .not ts rest c
  atom : ∀ ts c rest, readAtom n ts = .ok (c, rest) → Spans .atom ts rest c

theorem Sound.zero : Sound 0 where
  or _ _ _ returned := by cases returned
  orTail _ _ _ _ returned := by cases returned
  and _ _ _ returned := by cases returned
  andTail _ _ _ _ returned := by cases returned
  not _ _ _ returned := by cases returned
  atom _ _ _ returned := by cases returned

theorem Sound.succ {n : Nat} (ih : Sound n) : Sound (n + 1) where
  or := by
    intro ts c rest returned
    rw [readOr] at returned
    obtain ⟨⟨left, middle⟩, first, tail⟩ := bind_eq_ok returned
    obtain ⟨t, rfl, value⟩ := ih.and _ _ _ first
    obtain ⟨u, rfl, whole⟩ := ih.orTail _ _ _ _ tail
    refine ⟨.or t u, by simp only [Tree.yield, List.append_assoc], fun context => ?_⟩
    rw [Tree.value, value, whole]
  orTail := by
    intro left ts c rest returned
    by_cases more : ts.head? = some .either
    · obtain ⟨ts, rfl⟩ := List.head?_eq_some_iff.mp more
      rw [readOrTail] at returned
      obtain ⟨⟨right, middle⟩, next, tail⟩ := bind_eq_ok returned
      obtain ⟨t, rfl, value⟩ := ih.and _ _ _ next
      obtain ⟨u, rfl, whole⟩ := ih.orTail _ _ _ _ tail
      refine ⟨.orMore t u, by simp only [Tree.yield, List.cons_append, List.append_assoc], fun context => ?_⟩
      rw [Tree.value, value, ← Bool.or_assoc, ← whole, Constraint.value]
    · rw [readOrTail_stop n left more] at returned
      cases returned
      exact ⟨.orEnd, rfl, fun context => Bool.or_false _⟩
  and := by
    intro ts c rest returned
    rw [readAnd] at returned
    obtain ⟨⟨left, middle⟩, first, tail⟩ := bind_eq_ok returned
    obtain ⟨t, rfl, value⟩ := ih.not _ _ _ first
    obtain ⟨u, rfl, whole⟩ := ih.andTail _ _ _ _ tail
    refine ⟨.and t u, by simp only [Tree.yield, List.append_assoc], fun context => ?_⟩
    rw [Tree.value, value, whole]
  andTail := by
    intro left ts c rest returned
    by_cases more : ts.head? = some .both
    · obtain ⟨ts, rfl⟩ := List.head?_eq_some_iff.mp more
      rw [readAndTail] at returned
      obtain ⟨⟨right, middle⟩, next, tail⟩ := bind_eq_ok returned
      obtain ⟨t, rfl, value⟩ := ih.not _ _ _ next
      obtain ⟨u, rfl, whole⟩ := ih.andTail _ _ _ _ tail
      refine ⟨.andMore t u, by simp only [Tree.yield, List.cons_append, List.append_assoc], fun context => ?_⟩
      rw [Tree.value, value, ← Bool.and_assoc, ← whole, Constraint.value]
    · rw [readAndTail_stop n left more] at returned
      cases returned
      exact ⟨.andEnd, rfl, fun context => Bool.and_true _⟩
  not := by
    intro ts c rest returned
    by_cases negated : ts.head? = some .bang
    · obtain ⟨ts, rfl⟩ := List.head?_eq_some_iff.mp negated
      rw [readNot] at returned
      obtain ⟨⟨inner, middle⟩, below, same⟩ := bind_eq_ok returned
      cases same
      obtain ⟨t, rfl, value⟩ := ih.not _ _ _ below
      refine ⟨.bang t, rfl, fun context => ?_⟩
      rw [Tree.value, value, Constraint.value]
    · rw [readNot_operand n negated] at returned
      obtain ⟨t, rfl, value⟩ := ih.atom _ _ _ returned
      exact ⟨.operand t, rfl, value⟩
  atom := by
    intro ts c rest returned
    cases ts with
    | nil => cases returned
    | cons token ts =>
      cases token with
      | tag name =>
        cases returned
        exact ⟨.tag name, rfl, fun context => rfl⟩
      | opening =>
        rw [readAtom] at returned
        obtain ⟨⟨inner, middle⟩, below, closed⟩ := bind_eq_ok returned
        obtain ⟨t, rfl, value⟩ := ih.or _ _ _ below
        simp only at closed
        split at closed
        next =>
          cases closed
          exact ⟨.group t, by simp, value⟩
        next => cases closed
      | closing | bang | both | either => cases returned

theorem sound (n : Nat) : Sound n := by
  induction n with
  | zero => exact .zero
  | succ n ih => exact ih.succ

theorem Tree.length_pos {level : Level} (t : Tree level) (full : level ≠ .orTail ∧ level ≠ .andTail) :
    0 < t.yield.length := by
  induction t with
  | or first rest ih _ =>
    have := ih ⟨nofun, nofun⟩
    simp only [yield, List.length_append]
    omega
  | and first rest ih _ =>
    have := ih ⟨nofun, nofun⟩
    simp only [yield, List.length_append]
    omega
  | orEnd | orMore => exact absurd rfl full.1
  | andEnd | andMore => exact absurd rfl full.2
  | operand inner ih => exact ih ⟨nofun, nofun⟩
  | bang | group | tag => exact Nat.succ_pos _

theorem Tree.head_orTail (t : Tree .orTail) {rest : List Token} (noBoth : rest.head? ≠ some .both) :
    (t.yield ++ rest).head? ≠ some .both := by
  cases t with
  | orEnd => exact noBoth
  | orMore => nofun

theorem Tree.head_atom (t : Tree .atom) (rest : List Token) : (t.yield ++ rest).head? ≠ some .bang := by
  cases t <;> nofun

/-- A tree is read from its tokens, whatever follows them short of an operator it would go on with. The
    levels between two tokens are four, so that each level down asks for one step less. -/
def Complete : (level : Level) → Tree level → Prop
  | .or, t => ∀ n rest, 4 * t.yield.length ≤ n → rest.head? ≠ some .both → rest.head? ≠ some .either →
    ∃ c, readOr n (t.yield ++ rest) = .ok (c, rest) ∧ ∀ context, c.value context = t.value context
  | .orTail, t => ∀ n left rest, 4 * t.yield.length + 1 ≤ n →
    rest.head? ≠ some .both → rest.head? ≠ some .either →
    ∃ c, readOrTail n left (t.yield ++ rest) = .ok (c, rest) ∧
      ∀ context, c.value context = (left.value context || t.value context)
  | .and, t => ∀ n rest, 4 * t.yield.length ≤ n + 1 → rest.head? ≠ some .both →
    ∃ c, readAnd n (t.yield ++ rest) = .ok (c, rest) ∧ ∀ context, c.value context = t.value context
  | .andTail, t => ∀ n left rest, 4 * t.yield.length + 1 ≤ n → rest.head? ≠ some .both →
    ∃ c, readAndTail n left (t.yield ++ rest) = .ok (c, rest) ∧
      ∀ context, c.value context = (left.value context && t.value context)
  | .not, t => ∀ n rest, 4 * t.yield.length ≤ n + 2 →
    ∃ c, readNot n (t.yield ++ rest) = .ok (c, rest) ∧ ∀ context, c.value context = t.value context
  | .atom, t => ∀ n rest, 4 * t.yield.length ≤ n + 3 →
    ∃ c, readAtom n (t.yield ++ rest) = .ok (c, rest) ∧ ∀ context, c.value context = t.value context

theorem Complete.or {first : Tree .and} {rest : Tree .orTail} (left : Complete .and first)
    (tail : Complete .orTail rest) : Complete .or (.or first rest) := by
  intro n after enough noBoth noEither
  have pos := first.length_pos ⟨nofun, nofun⟩
  simp only [Tree.yield, List.length_append] at enough
  obtain ⟨n, rfl⟩ := Nat.exists_eq_add_one_of_ne_zero (n := n) (by omega)
  obtain ⟨c, read, value⟩ := left n (rest.yield ++ after) (by omega) (rest.head_orTail noBoth)
  obtain ⟨d, more, whole⟩ := tail n c after (by omega) noBoth noEither
  refine ⟨d, ?_, fun context => ?_⟩
  · rw [Tree.yield, List.append_assoc, readOr, read]
    exact more
  · rw [whole, value, Tree.value]

theorem Complete.orEnd : Complete .orTail .orEnd := by
  intro n left after enough _ noEither
  obtain ⟨n, rfl⟩ := Nat.exists_eq_add_one_of_ne_zero (n := n) (by omega)
  exact ⟨left, readOrTail_stop n left noEither, fun context => (Bool.or_false _).symm⟩

theorem Complete.orMore {next : Tree .and} {rest : Tree .orTail} (right : Complete .and next)
    (tail : Complete .orTail rest) : Complete .orTail (.orMore next rest) := by
  intro n left after enough noBoth noEither
  simp only [Tree.yield, List.length_cons, List.length_append] at enough
  obtain ⟨n, rfl⟩ := Nat.exists_eq_add_one_of_ne_zero (n := n) (by omega)
  obtain ⟨c, read, value⟩ := right n (rest.yield ++ after) (by omega) (rest.head_orTail noBoth)
  obtain ⟨d, more, whole⟩ := tail n (.or left c) after (by omega) noBoth noEither
  refine ⟨d, ?_, fun context => ?_⟩
  · rw [Tree.yield, List.cons_append, List.append_assoc, readOrTail, read]
    exact more
  · rw [whole, Constraint.value, value, Tree.value, Bool.or_assoc]

theorem Complete.and {first : Tree .not} {rest : Tree .andTail} (left : Complete .not first)
    (tail : Complete .andTail rest) : Complete .and (.and first rest) := by
  intro n after enough noBoth
  have pos := first.length_pos ⟨nofun, nofun⟩
  simp only [Tree.yield, List.length_append] at enough
  obtain ⟨n, rfl⟩ := Nat.exists_eq_add_one_of_ne_zero (n := n) (by omega)
  obtain ⟨c, read, value⟩ := left n (rest.yield ++ after) (by omega)
  obtain ⟨d, more, whole⟩ := tail n c after (by omega) noBoth
  refine ⟨d, ?_, fun context => ?_⟩
  · rw [Tree.yield, List.append_assoc, readAnd, read]
    exact more
  · rw [whole, value, Tree.value]

theorem Complete.andEnd : Complete .andTail .andEnd := by
  intro n left after enough noBoth
  obtain ⟨n, rfl⟩ := Nat.exists_eq_add_one_of_ne_zero (n := n) (by omega)
  exact ⟨left, readAndTail_stop n left noBoth, fun context => (Bool.and_true _).symm⟩

theorem Complete.andMore {next : Tree .not} {rest : Tree .andTail} (right : Complete .not next)
    (tail : Complete .andTail rest) : Complete .andTail (.andMore next rest) := by
  intro n left after enough noBoth
  simp only [Tree.yield, List.length_cons, List.length_append] at enough
  obtain ⟨n, rfl⟩ := Nat.exists_eq_add_one_of_ne_zero (n := n) (by omega)
  obtain ⟨c, read, value⟩ := right n (rest.yield ++ after) (by omega)
  obtain ⟨d, more, whole⟩ := tail n (.and left c) after (by omega) noBoth
  refine ⟨d, ?_, fun context => ?_⟩
  · rw [Tree.yield, List.cons_append, List.append_assoc, readAndTail, read]
    exact more
  · rw [whole, Constraint.value, value, Tree.value, Bool.and_assoc]

theorem Complete.bang {inner : Tree .not} (below : Complete .not inner) : Complete .not (.bang inner) := by
  intro n after enough
  simp only [Tree.yield, List.length_cons] at enough
  obtain ⟨n, rfl⟩ := Nat.exists_eq_add_one_of_ne_zero (n := n) (by omega)
  obtain ⟨c, read, value⟩ := below n after (by omega)
  refine ⟨.not c, ?_, fun context => ?_⟩
  · rw [Tree.yield, List.cons_append, readNot, read]
    rfl
  · rw [Constraint.value, value, Tree.value]

theorem Complete.operand {inner : Tree .atom} (below : Complete .atom inner) :
    Complete .not (.operand inner) := by
  intro n after enough
  have pos := inner.length_pos ⟨nofun, nofun⟩
  simp only [Tree.yield] at enough
  obtain ⟨n, rfl⟩ := Nat.exists_eq_add_one_of_ne_zero (n := n) (by omega)
  obtain ⟨c, read, value⟩ := below n after (by omega)
  exact ⟨c, (readNot_operand n (inner.head_atom after)).trans read, value⟩

theorem Complete.group {inner : Tree .or} (below : Complete .or inner) : Complete .atom (.group inner) := by
  intro n after enough
  simp only [Tree.yield, List.length_cons, List.length_append, List.length_nil] at enough
  obtain ⟨n, rfl⟩ := Nat.exists_eq_add_one_of_ne_zero (n := n) (by omega)
  obtain ⟨c, read, value⟩ := below n (.closing :: after) (by omega) nofun nofun
  refine ⟨c, ?_, value⟩
  rw [Tree.yield, List.cons_append, List.append_assoc, List.singleton_append, readAtom, read]
  rfl

theorem Complete.tag (name : String) : Complete .atom (.tag name) := by
  intro n after enough
  simp only [Tree.yield, List.length_singleton] at enough
  obtain ⟨n, rfl⟩ := Nat.exists_eq_add_one_of_ne_zero (n := n) (by omega)
  exact ⟨.tag name, rfl, fun context => rfl⟩

theorem complete {level : Level} (t : Tree level) : Complete level t := by
  induction t with
  | or _ _ left tail => exact left.or tail
  | orEnd => exact .orEnd
  | orMore _ _ right tail => exact right.orMore tail
  | and _ _ left tail => exact left.and tail
  | andEnd => exact .andEnd
  | andMore _ _ right tail => exact right.andMore tail
  | bang _ below => exact below.bang
  | operand _ below => exact below.operand
  | group _ below => exact below.group
  | tag name => exact .tag name

theorem ofTokens_sound {ts : List Token} {c : Constraint} (returned : ofTokens ts = .ok c) :
    ∃ t : Tree .or, t.yield = ts ∧ ∀ context, t.value context = c.value context := by
  unfold ofTokens at returned
  split at returned
  next => cases returned
  next =>
    obtain ⟨⟨tree, rest⟩, read, whole⟩ := bind_eq_ok returned
    cases rest with
    | cons token rest => cases whole
    | nil =>
      cases whole
      obtain ⟨t, rfl, value⟩ := (sound _).or _ _ _ read
      exact ⟨t, (List.append_nil _).symm, value⟩

theorem ofTokens_complete (t : Tree .or) :
    ∃ c, ofTokens t.yield = .ok c ∧ ∀ context, c.value context = t.value context := by
  have pos := t.length_pos ⟨nofun, nofun⟩
  have filled : ¬ t.yield.isEmpty = true := by
    rw [List.isEmpty_iff_length_eq_zero]
    omega
  have enough : 4 * t.yield.length ≤ steps t.yield := Nat.le_add_right _ _
  obtain ⟨c, read, value⟩ := complete t (steps t.yield) [] enough nofun nofun
  rw [List.append_nil] at read
  refine ⟨c, ?_, value⟩
  rw [ofTokens, if_neg filled, read]
  rfl

theorem parse_sound {expression : String} {c : Constraint} (parsed : parse expression = .ok c) :
    ∃ t : Tree .or, tokens expression.toList = .ok t.yield ∧ ∀ context, t.value context = c.value context := by
  obtain ⟨ts, cut, read⟩ := bind_eq_ok parsed
  obtain ⟨t, rfl, value⟩ := ofTokens_sound read
  exact ⟨t, cut, value⟩

theorem parse_complete {expression : String} {t : Tree .or} (cut : tokens expression.toList = .ok t.yield) :
    ∃ c, parse expression = .ok c ∧ ∀ context, c.value context = t.value context := by
  obtain ⟨c, read, value⟩ := ofTokens_complete t
  refine ⟨c, ?_, value⟩
  rw [parse, cut]
  exact read

end SliceGrowth.Build.Constraint

namespace SliceGrowth.Build

open Constraint

theorem evaluate_of_tree {expression : String} {t : Tree .or} (context : Context)
    (cut : tokens expression.toList = .ok t.yield) : evaluate expression context = .ok (t.value context) := by
  obtain ⟨c, parsed, value⟩ := parse_complete cut
  rw [evaluate, parsed]
  exact congrArg _ (value context)

theorem tree_of_evaluate {expression : String} {context : Context} {b : Bool}
    (returned : evaluate expression context = .ok b) :
    ∃ t : Tree .or, tokens expression.toList = .ok t.yield ∧ t.value context = b := by
  unfold evaluate at returned
  split at returned
  next c parsed =>
    cases returned
    obtain ⟨t, cut, value⟩ := parse_sound parsed
    exact ⟨t, cut, value context⟩
  next => cases returned

theorem evaluate_error {expression : String} {context : Context} {error : ConstraintError}
    (refused : evaluate expression context = .error error) : error.expression = expression := by
  unfold evaluate at refused
  split at refused
  next => cases refused
  next => cases refused; rfl

/-- A build line has the value of the tree whose tokens it has; without such a tree it is refused, and the
    refusal carries the line. -/
theorem evaluate_eq_tree_value (expression : String) (context : Context) :
    (∀ b, evaluate expression context = .ok b ↔
      ∃ ts, tokens expression.toList = .ok ts ∧ ∃ t : Tree .or, t.yield = ts ∧ t.value context = b) ∧
    ((∃ cause, evaluate expression context = .error ⟨expression, cause⟩) ↔
      ¬ ∃ ts, tokens expression.toList = .ok ts ∧ ∃ t : Tree .or, t.yield = ts) := by
  refine ⟨fun b => ⟨fun returned => ?_, ?_⟩, ⟨?_, fun none => ?_⟩⟩
  · obtain ⟨t, cut, value⟩ := tree_of_evaluate returned
    exact ⟨t.yield, cut, t, rfl, value⟩
  · rintro ⟨_, cut, t, rfl, rfl⟩
    exact evaluate_of_tree context cut
  · rintro ⟨cause, refused⟩ ⟨_, cut, t, rfl⟩
    rw [evaluate_of_tree context cut] at refused
    cases refused
  · cases outcome : evaluate expression context with
    | ok b =>
      obtain ⟨t, cut, _⟩ := tree_of_evaluate outcome
      exact absurd ⟨t.yield, cut, t, rfl⟩ none
    | error error =>
      obtain rfl := evaluate_error outcome
      exact ⟨error.cause, rfl⟩

end SliceGrowth.Build
