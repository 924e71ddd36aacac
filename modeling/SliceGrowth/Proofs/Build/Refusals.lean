import SliceGrowth.Proofs.Build.Sentences

/-!
What a refusal says about the tokens. A refused token is the first one that no sentence has after the tokens before it.
A line that ends too early is no sentence, but begins one.
-/
namespace SliceGrowth.Build.Constraint

theorem bind_eq_error {α β : Type} {x : Except Cause α} {next : α → Except Cause β} {cause : Cause}
    (refused : x >>= next = .error cause) : x = .error cause ∨ ∃ a, x = .ok a ∧ next a = .error cause := by
  cases x with
  | error other =>
    cases refused
    exact .inl rfl
  | ok a => exact .inr ⟨a, rfl, refused⟩

/-- A reading goes on as long as its operator, or one that binds more strongly, is next. -/
structure Stops (n : Nat) : Prop where
  or : ∀ ts c rest, readOr n ts = .ok (c, rest) → rest.head? ≠ some .both ∧ rest.head? ≠ some .either
  orTail : ∀ left ts c rest, ts.head? ≠ some .both → readOrTail n left ts = .ok (c, rest) →
    rest.head? ≠ some .both ∧ rest.head? ≠ some .either
  and : ∀ ts c rest, readAnd n ts = .ok (c, rest) → rest.head? ≠ some .both
  andTail : ∀ left ts c rest, readAndTail n left ts = .ok (c, rest) → rest.head? ≠ some .both

theorem Stops.zero : Stops 0 where
  or _ _ _ returned := by cases returned
  orTail _ _ _ _ _ returned := by cases returned
  and _ _ _ returned := by cases returned
  andTail _ _ _ _ returned := by cases returned

theorem Stops.succ {n : Nat} (ih : Stops n) : Stops (n + 1) where
  or := by
    intro ts c rest returned
    rw [readOr] at returned
    obtain ⟨⟨left, middle⟩, first, tail⟩ := bind_eq_ok returned
    exact ih.orTail left middle c rest (ih.and _ _ _ first) tail
  orTail := by
    intro left ts c rest noBoth returned
    by_cases more : ts.head? = some .either
    · obtain ⟨ts, rfl⟩ := List.head?_eq_some_iff.mp more
      rw [readOrTail] at returned
      obtain ⟨⟨right, middle⟩, next, tail⟩ := bind_eq_ok returned
      exact ih.orTail _ middle c rest (ih.and _ _ _ next) tail
    · rw [readOrTail_stop n left more] at returned
      cases returned
      exact ⟨noBoth, more⟩
  and := by
    intro ts c rest returned
    rw [readAnd] at returned
    obtain ⟨⟨left, middle⟩, -, tail⟩ := bind_eq_ok returned
    exact ih.andTail left middle c rest tail
  andTail := by
    intro left ts c rest returned
    by_cases more : ts.head? = some .both
    · obtain ⟨ts, rfl⟩ := List.head?_eq_some_iff.mp more
      rw [readAndTail] at returned
      obtain ⟨⟨right, middle⟩, -, tail⟩ := bind_eq_ok returned
      exact ih.andTail _ middle c rest tail
    · rw [readAndTail_stop n left more] at returned
      cases returned
      exact more

theorem stops (n : Nat) : Stops n := by
  induction n with
  | zero => exact .zero
  | succ n ih => exact ih.succ

/-- Whatever is read at the level next begins a sentence together with the tokens before it. -/
def Awaits (level : Level) (before : List Token) : Prop :=
  ∀ t : Tree level, AllLegible t.yield → IsViable (before ++ t.yield)

theorem Awaits.inside {outer inner : Level} {before : List Token} (awaits : Awaits outer before)
    (front back : List Token) (around : Tree inner → Tree outer)
    (yield : ∀ t, (around t).yield = front ++ (t.yield ++ back))
    (frontLegible : AllLegible front) (backLegible : AllLegible back) : Awaits inner (before ++ front) := by
  intro t legible
  have whole : AllLegible (around t).yield := by
    rw [yield]
    exact frontLegible.append (legible.append backLegible)
  have viable := awaits (around t) whole
  rw [yield, ← List.append_assoc, ← List.append_assoc] at viable
  exact viable.front

theorem exists_tree (level : Level) : ∃ t : Tree level, AllLegible t.yield := by
  have word : AllLegible [.tag "a"] := .cons (by decide : IsTag "a") .nil
  cases level with
  | or => exact ⟨.or (.and (.operand (.tag "a")) .andEnd) .orEnd, word⟩
  | orTail => exact ⟨.orEnd, .nil⟩
  | and => exact ⟨.and (.operand (.tag "a")) .andEnd, word⟩
  | andTail => exact ⟨.andEnd, .nil⟩
  | not => exact ⟨.operand (.tag "a"), word⟩
  | atom => exact ⟨.tag "a", word⟩

theorem Awaits.viable {level : Level} {before : List Token} (awaits : Awaits level before) : IsViable before := by
  obtain ⟨t, legible⟩ := exists_tree level
  exact (awaits t legible).front

/-- What each cause says about the tokens of a line. -/
def Blames (ts : List Token) : Cause → Prop
  | .unexpectedToken token => ∃ before after, ts = before ++ [token] ++ after ∧
      IsViable before ∧ ¬ IsViable (before ++ [token])
  | .unexpectedEnd => ¬ IsSentence ts ∧ IsViable ts
  | .missingClosing => ∃ before inner, IsSentence inner ∧ IsViable (before ++ .opening :: inner) ∧
      ((before ++ .opening :: inner = ts ∧ ¬ IsSentence ts) ∨
        ∃ token after, ts = before ++ .opening :: inner ++ [token] ++ after ∧
          ¬ IsViable (before ++ .opening :: inner ++ [token]))
  | .empty => ts = []
  | .unexpectedCharacter _ => False

/-- Something of the level can come after the tokens, and so many parentheses are open there. -/
structure Ready (level : Level) (depth : Nat) (before : List Token) : Prop where
  passed : Mark.pass? ⟨false, 0⟩ before = some (level.mark depth)
  awaits : Awaits level before

namespace Ready

variable {depth : Nat} {before : List Token}

theorem inside {outer inner : Level} {innerDepth : Nat} (ready : Ready outer depth before)
    (front back : List Token) (around : Tree inner → Tree outer)
    (yield : ∀ t, (around t).yield = front ++ (t.yield ++ back))
    (frontLegible : AllLegible front) (backLegible : AllLegible back)
    (passed : (outer.mark depth).pass? front = some (inner.mark innerDepth)) :
    Ready inner innerDepth (before ++ front) where
  passed := by rw [Mark.pass?_append, ready.passed, Option.bind_some, passed]
  awaits := ready.awaits.inside front back around yield frontLegible backLegible

theorem first {outer inner : Level} (ready : Ready outer depth before) (around : Tree inner → Tree outer)
    (yield : ∀ t, (around t).yield = t.yield) (same : outer.mark depth = inner.mark depth) :
    Ready inner depth before := by
  have inner := ready.inside [] [] around (by simpa using yield) .nil .nil (congrArg some same)
  rwa [List.append_nil] at inner

theorem and (ready : Ready .or depth before) : Ready .and depth before :=
  ready.first (fun t => .or t .orEnd) (fun _ => List.append_nil _) rfl

theorem orTail (ready : Ready .or depth before) (t : Tree .and) (legible : AllLegible t.yield) :
    Ready .orTail depth (before ++ t.yield) :=
  ready.inside t.yield [] (.or t) (by simp [Tree.yield]) legible .nil (pass?_yield t depth)

theorem either (ready : Ready .orTail depth before) : Ready .and depth (before ++ [.either]) :=
  ready.inside [.either] [] (fun t => .orMore t .orEnd) (by simp [Tree.yield]) (.cons trivial .nil) .nil rfl

theorem orMore (ready : Ready .orTail depth before) (t : Tree .and) (legible : AllLegible t.yield) :
    Ready .orTail depth (before ++ .either :: t.yield) :=
  ready.inside (.either :: t.yield) [] (.orMore t) (by simp [Tree.yield]) (.cons trivial legible) .nil
    (pass?_yield t depth)

theorem not (ready : Ready .and depth before) : Ready .not depth before :=
  ready.first (fun t => .and t .andEnd) (fun _ => List.append_nil _) rfl

theorem andTail (ready : Ready .and depth before) (t : Tree .not) (legible : AllLegible t.yield) :
    Ready .andTail depth (before ++ t.yield) :=
  ready.inside t.yield [] (.and t) (by simp [Tree.yield]) legible .nil (pass?_yield t depth)

theorem both (ready : Ready .andTail depth before) : Ready .not depth (before ++ [.both]) :=
  ready.inside [.both] [] (fun t => .andMore t .andEnd) (by simp [Tree.yield]) (.cons trivial .nil) .nil rfl

theorem andMore (ready : Ready .andTail depth before) (t : Tree .not) (legible : AllLegible t.yield) :
    Ready .andTail depth (before ++ .both :: t.yield) :=
  ready.inside (.both :: t.yield) [] (.andMore t) (by simp [Tree.yield]) (.cons trivial legible) .nil
    (pass?_yield t depth)

theorem bang (ready : Ready .not depth before) : Ready .not depth (before ++ [.bang]) :=
  ready.inside [.bang] [] .bang (by simp [Tree.yield]) (.cons trivial .nil) .nil rfl

theorem atom (ready : Ready .not depth before) : Ready .atom depth before :=
  ready.first .operand (fun _ => rfl) rfl

theorem opening (ready : Ready .atom depth before) : Ready .or (depth + 1) (before ++ [.opening]) :=
  ready.inside [.opening] [.closing] .group (by simp [Tree.yield]) (.cons trivial .nil) (.cons trivial .nil) rfl

end Ready

/-- Where an operand is awaited the tokens so far are no sentence yet. -/
theorem blames_end {depth : Nat} {before : List Token} (ready : Ready .atom depth before) :
    Blames before .unexpectedEnd := by
  refine ⟨?_, ready.awaits.viable⟩
  intro sentence
  have ended := ready.passed.symm.trans sentence.passed
  cases ended

theorem blames_token {depth : Nat} {before after : List Token} {token : Token} (ready : Ready .atom depth before)
    (stuck : Mark.next? ⟨false, depth⟩ token = none) : Blames (before ++ token :: after) (.unexpectedToken token) := by
  refine ⟨before, after, by simp, ready.awaits.viable, ?_⟩
  exact not_viable_of_stuck ready.passed stuck

/-- After an operand only an operator can come, or a parenthesis that closes an open one. -/
theorem next?_of_ended {depth : Nat} {token : Token} (noClosing : token = .closing → depth = 0)
    (noBoth : token ≠ .both) (noEither : token ≠ .either) : Mark.next? ⟨true, depth⟩ token = none := by
  cases token with
  | closing =>
    obtain rfl := noClosing rfl
    rfl
  | both => exact absurd rfl noBoth
  | either => exact absurd rfl noEither
  | opening | bang | tag => rfl

theorem blames_missing {depth : Nat} {before rest : List Token} {inner : Tree .or} (legible : AllLegible inner.yield)
    (ready : Ready .or (depth + 1) (before ++ [.opening])) (noClosing : rest.head? ≠ some .closing)
    (noBoth : rest.head? ≠ some .both) (noEither : rest.head? ≠ some .either) :
    Blames (before ++ .opening :: (inner.yield ++ rest)) .missingClosing := by
  have passed : Mark.pass? ⟨false, 0⟩ (before ++ .opening :: inner.yield) = some ⟨true, depth + 1⟩ := by
    have whole : before ++ .opening :: inner.yield = before ++ [.opening] ++ inner.yield := by simp
    rw [whole, Mark.pass?_append, ready.passed, Option.bind_some]
    exact pass?_yield inner (depth + 1)
  have viable := ready.awaits inner legible
  rw [List.append_assoc, List.singleton_append] at viable
  refine ⟨before, inner.yield, ⟨legible, inner, rfl⟩, viable, ?_⟩
  rcases rest with _ | ⟨token, after⟩
  · left
    rw [List.append_nil]
    refine ⟨rfl, ?_⟩
    intro sentence
    have closed := passed.symm.trans sentence.passed
    cases closed
  · right
    refine ⟨token, after, by simp, ?_⟩
    apply not_viable_of_stuck passed
    apply next?_of_ended
    · intro same
      exact absurd (congrArg some same) noClosing
    · intro same
      exact noBoth (congrArg some same)
    · intro same
      exact noEither (congrArg some same)

/-- What each level refuses is to blame, if the steps are enough for the tokens. -/
structure Blaming (n : Nat) : Prop where
  or : ∀ before ts depth cause, 4 * ts.length + 4 ≤ n → AllLegible ts → Ready .or depth before →
    readOr n ts = .error cause → Blames (before ++ ts) cause
  orTail : ∀ before left ts depth cause, 4 * ts.length + 1 ≤ n → AllLegible ts → Ready .orTail depth before →
    readOrTail n left ts = .error cause → Blames (before ++ ts) cause
  and : ∀ before ts depth cause, 4 * ts.length + 3 ≤ n → AllLegible ts → Ready .and depth before →
    readAnd n ts = .error cause → Blames (before ++ ts) cause
  andTail : ∀ before left ts depth cause, 4 * ts.length + 1 ≤ n → AllLegible ts → Ready .andTail depth before →
    readAndTail n left ts = .error cause → Blames (before ++ ts) cause
  not : ∀ before ts depth cause, 4 * ts.length + 2 ≤ n → AllLegible ts → Ready .not depth before →
    readNot n ts = .error cause → Blames (before ++ ts) cause
  atom : ∀ before ts depth cause, 4 * ts.length + 1 ≤ n → AllLegible ts → Ready .atom depth before →
    ts.head? ≠ some .bang → readAtom n ts = .error cause → Blames (before ++ ts) cause

theorem Blaming.zero : Blaming 0 where
  or _ _ _ _ enough := by omega
  orTail _ _ _ _ _ enough := by omega
  and _ _ _ _ enough := by omega
  andTail _ _ _ _ _ enough := by omega
  not _ _ _ _ enough := by omega
  atom _ _ _ _ enough := by omega

theorem Blaming.succ {n : Nat} (ih : Blaming n) : Blaming (n + 1) where
  or := by
    intro before ts depth cause enough legible ready refused
    rw [readOr] at refused
    rcases bind_eq_error refused with refused | ⟨⟨left, rest⟩, read, later⟩
    · exact ih.and before ts depth cause (by omega) legible ready.and refused
    · obtain ⟨t, rfl, -⟩ := (sound n).and _ _ _ read
      rw [List.length_append] at enough
      rw [← List.append_assoc]
      exact ih.orTail _ left rest depth cause (by omega) legible.right (ready.orTail t legible.left) later
  orTail := by
    intro before left ts depth cause enough legible ready refused
    by_cases more : ts.head? = some .either
    · obtain ⟨ts, rfl⟩ := List.head?_eq_some_iff.mp more
      rw [List.length_cons] at enough
      rw [readOrTail] at refused
      rcases bind_eq_error refused with refused | ⟨⟨right, rest⟩, read, later⟩
      · rw [← List.singleton_append, ← List.append_assoc]
        exact ih.and _ ts depth cause (by omega) legible.tail ready.either refused
      · obtain ⟨t, rfl, -⟩ := (sound n).and _ _ _ read
        rw [List.length_append] at enough
        rw [← List.cons_append, ← List.append_assoc]
        exact ih.orTail _ _ rest depth cause (by omega) legible.tail.right (ready.orMore t legible.tail.left) later
    · rw [readOrTail_stop n left more] at refused
      cases refused
  and := by
    intro before ts depth cause enough legible ready refused
    rw [readAnd] at refused
    rcases bind_eq_error refused with refused | ⟨⟨left, rest⟩, read, later⟩
    · exact ih.not before ts depth cause (by omega) legible ready.not refused
    · obtain ⟨t, rfl, -⟩ := (sound n).not _ _ _ read
      rw [List.length_append] at enough
      rw [← List.append_assoc]
      exact ih.andTail _ left rest depth cause (by omega) legible.right (ready.andTail t legible.left) later
  andTail := by
    intro before left ts depth cause enough legible ready refused
    by_cases more : ts.head? = some .both
    · obtain ⟨ts, rfl⟩ := List.head?_eq_some_iff.mp more
      rw [List.length_cons] at enough
      rw [readAndTail] at refused
      rcases bind_eq_error refused with refused | ⟨⟨right, rest⟩, read, later⟩
      · rw [← List.singleton_append, ← List.append_assoc]
        exact ih.not _ ts depth cause (by omega) legible.tail ready.both refused
      · obtain ⟨t, rfl, -⟩ := (sound n).not _ _ _ read
        rw [List.length_append] at enough
        rw [← List.cons_append, ← List.append_assoc]
        exact ih.andTail _ _ rest depth cause (by omega) legible.tail.right (ready.andMore t legible.tail.left) later
    · rw [readAndTail_stop n left more] at refused
      cases refused
  not := by
    intro before ts depth cause enough legible ready refused
    by_cases negated : ts.head? = some .bang
    · obtain ⟨ts, rfl⟩ := List.head?_eq_some_iff.mp negated
      rw [List.length_cons] at enough
      rw [readNot] at refused
      rcases bind_eq_error refused with refused | ⟨⟨inner, rest⟩, -, later⟩
      · rw [← List.singleton_append, ← List.append_assoc]
        exact ih.not _ ts depth cause (by omega) legible.tail ready.bang refused
      · cases later
    · rw [readNot_operand n negated] at refused
      exact ih.atom before ts depth cause (by omega) legible ready.atom negated refused
  atom := by
    intro before ts depth cause enough legible ready plain refused
    rcases ts with _ | ⟨token, ts⟩
    · cases refused
      rw [List.append_nil]
      exact blames_end ready
    rw [List.length_cons] at enough
    cases token with
    | tag name => cases refused
    | bang => exact absurd rfl plain
    | closing | both | either =>
      -- None of these begins an operand.
      cases refused
      exact blames_token ready rfl
    | opening =>
      rw [readAtom] at refused
      rcases bind_eq_error refused with refused | ⟨⟨inner, rest⟩, read, later⟩
      · rw [← List.singleton_append, ← List.append_assoc]
        exact ih.or _ ts (depth + 1) cause (by omega) legible.tail ready.opening refused
      · obtain ⟨t, rfl, -⟩ := (sound n).or _ _ _ read
        obtain ⟨noBoth, noEither⟩ := (stops n).or _ _ _ read
        simp only at later
        split at later
        next => cases later
        next unclosed =>
          cases later
          refine blames_missing legible.tail.left ready.opening ?_ noBoth noEither
          intro closing
          obtain ⟨more, same⟩ := List.head?_eq_some_iff.mp closing
          exact unclosed more same

theorem blaming (n : Nat) : Blaming n := by
  induction n with
  | zero => exact .zero
  | succ n ih => exact ih.succ

theorem ready_start : Ready .or 0 [] where
  passed := rfl
  awaits t legible := IsSentence.viable ⟨legible, t, rfl⟩

theorem ofTokens_blames {ts : List Token} {cause : Cause} (legible : AllLegible ts)
    (refused : ofTokens ts = .error cause) : Blames ts cause := by
  unfold ofTokens at refused
  split at refused
  next empty =>
    cases refused
    exact List.isEmpty_iff.mp empty
  next =>
    rcases bind_eq_error refused with refused | ⟨⟨tree, rest⟩, read, later⟩
    · exact (blaming (steps ts)).or [] ts 0 cause (Nat.le_refl _) legible ready_start refused
    · obtain ⟨noBoth, noEither⟩ := (stops _).or _ _ _ read
      obtain ⟨t, same, -⟩ := (sound _).or _ _ _ read
      rcases rest with _ | ⟨token, after⟩
      · cases later
      · cases later
        rw [same] at legible
        refine ⟨t.yield, after, by rw [same]; simp, IsSentence.viable ⟨legible.left, t, rfl⟩, ?_⟩
        apply not_viable_of_stuck (pass?_yield t 0)
        apply next?_of_ended
        · exact fun _ => rfl
        · exact fun same => noBoth (congrArg some same)
        · exact fun same => noEither (congrArg some same)

end SliceGrowth.Build.Constraint

namespace SliceGrowth.Build

open Constraint

theorem ofTokens_of_evaluate {expression : String} {context : Context} {ts : List Token} {error : ConstraintError}
    (cut : tokens expression.toList = .ok ts) (refused : evaluate expression context = .error error) :
    ofTokens ts = .error error.cause := by
  have whole : parse expression = ofTokens ts := by
    rw [parse, cut]
    rfl
  rw [evaluate, whole] at refused
  cases read : ofTokens ts with
  | error cause =>
    rw [read] at refused
    cases refused
    rfl
  | ok tree =>
    rw [read] at refused
    cases refused

/-- A refusal names the first token that cannot stand where it does, or tells that the line ends too early. A missing
    parenthesis is told where a whole sentence stands after the opening one. -/
theorem refusal_blames_first_impossible {expression : String} {context : Context} {ts : List Token}
    {error : ConstraintError} (cut : tokens expression.toList = .ok ts)
    (refused : evaluate expression context = .error error) :
    (error.cause = .empty ↔ ts = []) ∧
    (∀ token, error.cause = .unexpectedToken token → ∃ before after, ts = before ++ [token] ++ after ∧
      IsViable before ∧ ¬ IsViable (before ++ [token])) ∧
    (error.cause = .unexpectedEnd → ¬ IsSentence ts ∧ IsViable ts) ∧
    (error.cause = .missingClosing → ∃ before inner, IsSentence inner ∧ IsViable (before ++ .opening :: inner) ∧
      ((before ++ .opening :: inner = ts ∧ ¬ IsSentence ts) ∨
        ∃ token after, ts = before ++ .opening :: inner ++ [token] ++ after ∧
          ¬ IsViable (before ++ .opening :: inner ++ [token]))) ∧
    ∀ c, error.cause ≠ .unexpectedCharacter c := by
  have read := ofTokens_of_evaluate cut refused
  have blames := ofTokens_blames (renders_of_tokens cut).legible read
  refine ⟨⟨?_, ?_⟩, ?_, ?_, ?_, ?_⟩
  · intro same
    rw [same] at blames
    exact blames
  · intro none
    subst none
    exact (Except.error.inj read).symm
  · intro token same
    rw [same] at blames
    exact blames
  · intro same
    rw [same] at blames
    exact blames
  · intro same
    rw [same] at blames
    exact blames
  · intro c same
    rw [same] at blames
    exact blames

def unclosedTokens : List Token := [.bang, .opening, .tag "linux", .either, .tag "cgo", .bang, .tag "x"]

theorem tokens_unclosed : tokens "!(linux||cgo !x".toList = .ok unclosedTokens := by
  have chars : "!(linux||cgo !x".toList = Token.bang.text.toList ++ (Token.opening.text.toList ++
      ("linux".toList ++ (Token.either.text.toList ++ ("cgo".toList ++
        ' ' :: (Token.bang.text.toList ++ ("x".toList ++ [])))))) := by decide
  have stop : ∀ {c rest}, isTagChar c = false → ∀ name, (Token.tag name).StopsBefore (c :: rest) := by
    intro c rest other name d first
    cases first
    exact other
  rw [chars]
  apply tokens_of_renders
  refine .token trivial trivial (.token trivial trivial (.token (by decide : IsTag "linux") (stop rfl _) ?_))
  refine .token trivial trivial (.token (by decide : IsTag "cgo") (stop rfl _) (.blank rfl (.token trivial trivial ?_)))
  exact .token (by decide : IsTag "x") nofun .done

-- The second bang stands where the parenthesis would have to be closed.
theorem refusal_blames_first_impossible_unclosed :
    evaluate "!(linux||cgo !x" { system := "linux", architecture := "amd64" } =
      .error ⟨"!(linux||cgo !x", .missingClosing⟩ ∧
    tokens "!(linux||cgo !x".toList = .ok unclosedTokens ∧
    ∃ before inner, IsSentence inner ∧ IsViable (before ++ .opening :: inner) ∧
      ((before ++ .opening :: inner = unclosedTokens ∧ ¬ IsSentence unclosedTokens) ∨
        ∃ token after, unclosedTokens = before ++ .opening :: inner ++ [token] ++ after ∧
          ¬ IsViable (before ++ .opening :: inner ++ [token])) := by
  have refused : evaluate "!(linux||cgo !x" { system := "linux", architecture := "amd64" } =
      .error ⟨"!(linux||cgo !x", .missingClosing⟩ := by
    rw [evaluate, parse, tokens_unclosed]
    rfl
  exact ⟨refused, tokens_unclosed, (refusal_blames_first_impossible tokens_unclosed refused).2.2.2.1 rfl⟩

end SliceGrowth.Build
