import SliceGrowth.Proofs.Build.Contexts
import SliceGrowth.Proofs.Build.Refusals

/-!
Reading a build line comes to an end and never leaves the line. A run of a reader is told without steps, from place to
place in the tokens: every run ends, since each call is made at a later place or one level further down; it ends where
the reader with enough steps ends; and where it returns it has taken a token at least and none beyond the last.
-/
namespace SliceGrowth.Build.Constraint

/-- The operators that join two operands. -/
inductive Operator where
  | either
  | both

/-- What can be done at a place: operands joined by an operator are read, or the operator is looked for after the
    value so far, or an operand is read that no operator joins. -/
inductive Call where
  | chain (operator : Operator)
  | loop (operator : Operator) (left : Bool)
  | not
  | atom

namespace Operator

def token : Operator → Token
  | either => .either
  | both => .both

def join : Operator → Bool → Bool → Bool
  | either => (· || ·)
  | both => (· && ·)

def operand : Operator → Call
  | either => .chain .both
  | both => .not

end Operator

/-- A value and the place after what has been read, or why nothing can be read. -/
abbrev Outcome := Except Cause (Bool × Nat)

/-- The call at the place ends with the outcome. A place is looked at only by the token there, if there is one. -/
inductive Runs (context : Context) (ts : List Token) : Call → Nat → Outcome → Prop where
  | chain {operator : Operator} {start middle : Nat} {left : Bool} {outcome : Outcome} :
    Runs context ts operator.operand start (.ok (left, middle)) →
    Runs context ts (.loop operator left) middle outcome → Runs context ts (.chain operator) start outcome
  | chainFails {operator : Operator} {start : Nat} {cause : Cause} :
    Runs context ts operator.operand start (.error cause) → Runs context ts (.chain operator) start (.error cause)
  | loopMore {operator : Operator} {start middle : Nat} {left right : Bool} {outcome : Outcome} :
    ts[start]? = some operator.token → Runs context ts operator.operand (start + 1) (.ok (right, middle)) →
    Runs context ts (.loop operator (operator.join left right)) middle outcome →
    Runs context ts (.loop operator left) start outcome
  | loopFails {operator : Operator} {start : Nat} {left : Bool} {cause : Cause} :
    ts[start]? = some operator.token → Runs context ts operator.operand (start + 1) (.error cause) →
    Runs context ts (.loop operator left) start (.error cause)
  | loopEnds {operator : Operator} {start : Nat} {left : Bool} :
    ts[start]? ≠ some operator.token → Runs context ts (.loop operator left) start (.ok (left, start))
  | bang {start stop : Nat} {inner : Bool} :
    ts[start]? = some .bang → Runs context ts .not (start + 1) (.ok (inner, stop)) →
    Runs context ts .not start (.ok (!inner, stop))
  | bangFails {start : Nat} {cause : Cause} :
    ts[start]? = some .bang → Runs context ts .not (start + 1) (.error cause) →
    Runs context ts .not start (.error cause)
  | operand {start : Nat} {outcome : Outcome} :
    ts[start]? ≠ some .bang → Runs context ts .atom start outcome → Runs context ts .not start outcome
  | tag {start : Nat} {name : String} :
    ts[start]? = some (.tag name) → Runs context ts .atom start (.ok (context.satisfies name, start + 1))
  | group {start middle : Nat} {inner : Bool} :
    ts[start]? = some .opening → Runs context ts (.chain .either) (start + 1) (.ok (inner, middle)) →
    ts[middle]? = some .closing → Runs context ts .atom start (.ok (inner, middle + 1))
  | groupFails {start : Nat} {cause : Cause} :
    ts[start]? = some .opening → Runs context ts (.chain .either) (start + 1) (.error cause) →
    Runs context ts .atom start (.error cause)
  | groupOpen {start middle : Nat} {inner : Bool} :
    ts[start]? = some .opening → Runs context ts (.chain .either) (start + 1) (.ok (inner, middle)) →
    ts[middle]? ≠ some .closing → Runs context ts .atom start (.error .missingClosing)
  | refused {start : Nat} {token : Token} :
    ts[start]? = some token → token ∈ [.closing, .bang, .both, .either] →
    Runs context ts .atom start (.error (.unexpectedToken token))
  | ended {start : Nat} : ts[start]? = none → Runs context ts .atom start (.error .unexpectedEnd)

namespace Call

/-- How many calls can follow each other before a token is taken. -/
def level : Call → Nat
  | chain .either => 3
  | chain .both => 2
  | not => 1
  | atom | loop _ _ => 0

/-- How many tokens are taken at least. -/
def least : Call → Nat
  | loop _ _ => 0
  | chain _ | not | atom => 1

/-- What goes down with every call: four levels for each token that is left. -/
def work (ts : List Token) (start : Nat) (call : Call) : Nat := 4 * (ts.length - start) + call.level

/-- What the reader with so many steps does with the tokens that are left. -/
def valuation (context : Context) : Call → Nat → List Token → Valuation
  | chain .either => valueOr context
  | chain .both => valueAnd context
  | loop .either left => fun n => valueOrTail context n left
  | loop .both left => fun n => valueAndTail context n left
  | not => valueNot context
  | atom => valueAtom context

end Call

theorem Operator.level_operand (operator : Operator) : operator.operand.level < (Call.chain operator).level := by
  cases operator <;> decide

theorem Operator.least_operand (operator : Operator) : operator.operand.least = 1 := by
  cases operator <;> rfl

theorem Call.level_lt_four (call : Call) : call.level < 4 := by
  unfold Call.level
  split <;> decide

section

variable {context : Context} {ts : List Token} {call next : Call} {start place : Nat}

theorem Call.work_lt_of_lower (lower : next.level < call.level) : next.work ts start < call.work ts start :=
  Nat.add_lt_add_left lower _

theorem Call.work_lt_of_later (inside : start < ts.length) (later : start < place) :
    next.work ts place < call.work ts start := by
  have low := next.level_lt_four
  unfold Call.work
  omega

theorem lt_length_of_getElem? {token : Token} (here : ts[start]? = some token) : start < ts.length :=
  (List.getElem?_eq_some_iff.mp here).1

theorem Call.work_lt_next {token : Token} (here : ts[start]? = some token) :
    next.work ts (start + 1) < call.work ts start :=
  work_lt_of_later (lt_length_of_getElem? here) (Nat.lt_succ_self start)

theorem Runs.advances {outcome : Outcome} (runs : Runs context ts call start outcome)
    {value : Bool} {stop : Nat} (returned : outcome = .ok (value, stop)) :
    start + call.least ≤ stop ∧ stop ≤ max start ts.length := by
  induction runs generalizing value stop with
  | chainFails | loopFails | bangFails | groupFails | groupOpen | refused | ended => cases returned
  | @chain operator start middle left outcome _ _ first rest =>
    have taken := first rfl
    have later := rest returned
    rw [operator.least_operand] at taken
    simp only [Call.least] at later ⊢
    omega
  | @loopMore operator start middle left right outcome here _ _ next rest =>
    have inside := lt_length_of_getElem? here
    have taken := next rfl
    have later := rest returned
    simp only [Call.least] at later ⊢
    omega
  | loopEnds =>
    cases returned
    simp only [Call.least]
    omega
  | bang here _ inner =>
    cases returned
    have inside := lt_length_of_getElem? here
    have taken := inner rfl
    omega
  | operand _ _ inner => exact inner returned
  | tag here =>
    cases returned
    have inside := lt_length_of_getElem? here
    simp only [Call.least]
    omega
  | group here _ closed inner =>
    cases returned
    have inside := lt_length_of_getElem? closed
    have taken := inner rfl
    simp only [Call.least] at taken ⊢
    omega

theorem Runs.operand_advances {operator : Operator} {value : Bool} {stop : Nat}
    (runs : Runs context ts operator.operand start (.ok (value, stop))) : start < stop ∧ stop ≤ ts.length := by
  have moved := runs.advances rfl
  rw [operator.least_operand] at moved
  omega

def Ends (context : Context) (ts : List Token) (call : Call) (start : Nat) : Prop :=
  ∃ outcome, Runs context ts call start outcome

/-- Every call with less work than this one ends. -/
def EndsBelow (context : Context) (ts : List Token) (call : Call) (start : Nat) : Prop :=
  ∀ next place, next.work ts place < call.work ts start → Ends context ts next place

theorem ends_chain {operator : Operator} (below : EndsBelow context ts (.chain operator) start) :
    Ends context ts (.chain operator) start := by
  obtain ⟨cause | ⟨left, middle⟩, first⟩ := below operator.operand start (Call.work_lt_of_lower operator.level_operand)
  · exact ⟨_, .chainFails first⟩
  · have moved := first.operand_advances
    obtain ⟨outcome, rest⟩ := below (.loop operator left) middle (Call.work_lt_of_later (by omega) moved.1)
    exact ⟨outcome, .chain first rest⟩

theorem ends_loop {operator : Operator} {left : Bool} (below : EndsBelow context ts (.loop operator left) start) :
    Ends context ts (.loop operator left) start := by
  by_cases here : ts[start]? = some operator.token
  · obtain ⟨cause | ⟨right, middle⟩, next⟩ := below operator.operand (start + 1) (Call.work_lt_next here)
    · exact ⟨_, .loopFails here next⟩
    · have moved := next.operand_advances
      obtain ⟨outcome, rest⟩ := below (.loop operator (operator.join left right)) middle
        (Call.work_lt_of_later (by omega) (by omega))
      exact ⟨outcome, .loopMore here next rest⟩
  · exact ⟨_, .loopEnds here⟩

theorem ends_not (below : EndsBelow context ts .not start) : Ends context ts .not start := by
  by_cases here : ts[start]? = some .bang
  · obtain ⟨cause | ⟨inner, stop⟩, negated⟩ := below .not (start + 1) (Call.work_lt_next here)
    · exact ⟨_, .bangFails here negated⟩
    · exact ⟨_, .bang here negated⟩
  · obtain ⟨outcome, runs⟩ := below .atom start (Call.work_lt_of_lower (by decide))
    exact ⟨outcome, .operand here runs⟩

theorem ends_group (here : ts[start]? = some .opening) (below : EndsBelow context ts .atom start) :
    Ends context ts .atom start := by
  obtain ⟨cause | ⟨inner, middle⟩, runs⟩ := below (.chain .either) (start + 1) (Call.work_lt_next here)
  · exact ⟨_, .groupFails here runs⟩
  · by_cases closed : ts[middle]? = some .closing
    · exact ⟨_, .group here runs closed⟩
    · exact ⟨_, .groupOpen here runs closed⟩

theorem ends_atom (below : EndsBelow context ts .atom start) : Ends context ts .atom start := by
  cases here : ts[start]? with
  | none => exact ⟨_, .ended here⟩
  | some token =>
    cases token with
    | tag name => exact ⟨_, .tag here⟩
    | opening => exact ends_group here below
    | closing | bang | both | either => exact ⟨_, .refused here (by decide)⟩

/-- No call runs for ever, wherever it is made. -/
theorem ends (context : Context) (ts : List Token) (call : Call) (start : Nat) : Ends context ts call start := by
  induction work : call.work ts start using Nat.strong_induction_on generalizing call start with
  | _ bound ih =>
    subst work
    have below : EndsBelow context ts call start := fun next place less => ih _ less next place rfl
    cases call with
    | chain operator => exact ends_chain below
    | loop operator left => exact ends_loop below
    | not => exact ends_not below
    | atom => exact ends_atom below

/-- An outcome with the tokens that are left in place of the place where they begin. -/
def Outcome.placed (ts : List Token) (outcome : Outcome) : Valuation :=
  outcome.map fun read => (read.1, ts.drop read.2)

theorem drop_of_getElem? {start : Nat} {token : Token} (here : ts[start]? = some token) :
    ts.drop start = token :: ts.drop (start + 1) := by
  obtain ⟨inside, rfl⟩ := List.getElem?_eq_some_iff.mp here
  exact List.drop_eq_getElem_cons inside

theorem valuation_chain (operator : Operator) (n : Nat) (rest : List Token) :
    (Call.chain operator).valuation context (n + 1) rest = (do
      let (left, later) ← operator.operand.valuation context n rest
      (Call.loop operator left).valuation context n later) := by
  cases operator with
  | either =>
    change valueOr context (n + 1) rest = _
    rw [valueOr]
    rfl
  | both =>
    change valueAnd context (n + 1) rest = _
    rw [valueAnd]
    rfl

theorem valuation_loop_more (operator : Operator) (left : Bool) (n : Nat) (rest : List Token) :
    (Call.loop operator left).valuation context (n + 1) (operator.token :: rest) = (do
      let (right, later) ← operator.operand.valuation context n rest
      (Call.loop operator (operator.join left right)).valuation context n later) := by
  cases operator with
  | either =>
    change valueOrTail context (n + 1) left (.either :: rest) = _
    rw [valueOrTail]
    rfl
  | both =>
    change valueAndTail context (n + 1) left (.both :: rest) = _
    rw [valueAndTail]
    rfl

theorem valuation_loop_end {operator : Operator} {rest : List Token} (other : rest.head? ≠ some operator.token)
    (left : Bool) (n : Nat) : (Call.loop operator left).valuation context (n + 1) rest = .ok (left, rest) := by
  cases operator with
  | either =>
    change valueOrTail context (n + 1) left rest = _
    rw [valueOrTail]
    rintro more rfl
    exact other rfl
  | both =>
    change valueAndTail context (n + 1) left rest = _
    rw [valueAndTail]
    rintro more rfl
    exact other rfl

theorem valuation_bang (n : Nat) (rest : List Token) :
    Call.not.valuation context (n + 1) (.bang :: rest) = (do
      let (inner, later) ← Call.not.valuation context n rest
      return (!inner, later)) := by
  change valueNot context (n + 1) (.bang :: rest) = _
  rw [valueNot]
  rfl

theorem valuation_operand {rest : List Token} (plain : rest.head? ≠ some .bang) (n : Nat) :
    Call.not.valuation context (n + 1) rest = Call.atom.valuation context n rest := by
  change valueNot context (n + 1) rest = _
  rw [valueNot]
  · rfl
  · rintro more rfl
    exact plain rfl

section Group

variable {n : Nat} {rest later : List Token} {inner : Bool}

theorem valuation_group (read : (Call.chain .either).valuation context n rest = .ok (inner, .closing :: later)) :
    Call.atom.valuation context (n + 1) (.opening :: rest) = .ok (inner, later) := by
  change valueAtom context (n + 1) (.opening :: rest) = _
  change valueOr context n rest = _ at read
  rw [valueAtom, read]
  rfl

theorem valuation_group_open (read : (Call.chain .either).valuation context n rest = .ok (inner, later))
    (unclosed : later.head? ≠ some .closing) :
    Call.atom.valuation context (n + 1) (.opening :: rest) = .error .missingClosing := by
  change valueAtom context (n + 1) (.opening :: rest) = _
  change valueOr context n rest = _ at read
  rw [valueAtom, read]
  rcases later with _ | ⟨token, later⟩
  · rfl
  · cases token with
    | closing => exact absurd rfl unclosed
    | opening | bang | both | either | tag => rfl

theorem valuation_group_fails {cause : Cause}
    (failed : (Call.chain .either).valuation context n rest = .error cause) :
    Call.atom.valuation context (n + 1) (.opening :: rest) = .error cause := by
  change valueAtom context (n + 1) (.opening :: rest) = _
  change valueOr context n rest = _ at failed
  rw [valueAtom, failed]
  rfl

end Group

/-- The reader that has a step for each piece of work ends in this way. -/
def Agrees (context : Context) (ts : List Token) (call : Call) (start : Nat) (outcome : Outcome) : Prop :=
  ∀ n, call.work ts start ≤ n → call.valuation context (n + 1) (ts.drop start) = outcome.placed ts

namespace Agrees

variable {operator : Operator} {middle stop n : Nat} {left right inner : Bool} {cause : Cause} {outcome : Outcome}

theorem of_lt (agrees : Agrees context ts call start outcome) (enough : call.work ts start < n) :
    call.valuation context n (ts.drop start) = outcome.placed ts := by
  obtain ⟨n, rfl⟩ := Nat.exists_eq_add_one_of_ne_zero (n := n) (by omega)
  exact agrees n (by omega)

theorem chain (first : Agrees context ts operator.operand start (.ok (left, middle))) (inside : start < ts.length)
    (moved : start < middle) (rest : Agrees context ts (.loop operator left) middle outcome) :
    Agrees context ts (.chain operator) start outcome := by
  intro n enough
  rw [valuation_chain, first.of_lt ((Call.work_lt_of_lower operator.level_operand).trans_le enough)]
  exact rest.of_lt ((Call.work_lt_of_later inside moved).trans_le enough)

theorem chainFails (first : Agrees context ts operator.operand start (.error cause)) :
    Agrees context ts (.chain operator) start (.error cause) := by
  intro n enough
  rw [valuation_chain, first.of_lt ((Call.work_lt_of_lower operator.level_operand).trans_le enough)]
  rfl

theorem loopMore (here : ts[start]? = some operator.token)
    (next : Agrees context ts operator.operand (start + 1) (.ok (right, middle))) (moved : start + 1 < middle)
    (rest : Agrees context ts (.loop operator (operator.join left right)) middle outcome) :
    Agrees context ts (.loop operator left) start outcome := by
  intro n enough
  have inside := lt_length_of_getElem? here
  rw [drop_of_getElem? here, valuation_loop_more, next.of_lt ((Call.work_lt_next here).trans_le enough)]
  exact rest.of_lt ((Call.work_lt_of_later inside (Nat.lt_of_succ_lt moved)).trans_le enough)

theorem loopFails (here : ts[start]? = some operator.token)
    (next : Agrees context ts operator.operand (start + 1) (.error cause)) :
    Agrees context ts (.loop operator left) start (.error cause) := by
  intro n enough
  rw [drop_of_getElem? here, valuation_loop_more, next.of_lt ((Call.work_lt_next here).trans_le enough)]
  rfl

theorem loopEnds (other : ts[start]? ≠ some operator.token) :
    Agrees context ts (.loop operator left) start (.ok (left, start)) := by
  intro n _
  apply valuation_loop_end
  rwa [List.head?_drop]

theorem bang (here : ts[start]? = some .bang) (negated : Agrees context ts .not (start + 1) (.ok (inner, stop))) :
    Agrees context ts .not start (.ok (!inner, stop)) := by
  intro n enough
  rw [drop_of_getElem? here, valuation_bang, negated.of_lt ((Call.work_lt_next here).trans_le enough)]
  rfl

theorem bangFails (here : ts[start]? = some .bang) (negated : Agrees context ts .not (start + 1) (.error cause)) :
    Agrees context ts .not start (.error cause) := by
  intro n enough
  rw [drop_of_getElem? here, valuation_bang, negated.of_lt ((Call.work_lt_next here).trans_le enough)]
  rfl

theorem operand (other : ts[start]? ≠ some .bang) (agrees : Agrees context ts .atom start outcome) :
    Agrees context ts .not start outcome := by
  intro n enough
  have plain : (ts.drop start).head? ≠ some .bang := by rwa [List.head?_drop]
  have lower : Call.atom.work ts start < Call.not.work ts start := Call.work_lt_of_lower (by decide)
  rw [valuation_operand plain]
  exact agrees.of_lt (lower.trans_le enough)

theorem tag {name : String} (here : ts[start]? = some (.tag name)) :
    Agrees context ts .atom start (.ok (context.satisfies name, start + 1)) := by
  intro n _
  rw [drop_of_getElem? here]
  rfl

theorem group (here : ts[start]? = some .opening)
    (agrees : Agrees context ts (.chain .either) (start + 1) (.ok (inner, middle)))
    (closed : ts[middle]? = some .closing) : Agrees context ts .atom start (.ok (inner, middle + 1)) := by
  intro n enough
  have read := agrees.of_lt ((Call.work_lt_next here).trans_le enough)
  rw [drop_of_getElem? here]
  apply valuation_group
  rw [← drop_of_getElem? closed]
  exact read

theorem groupFails (here : ts[start]? = some .opening)
    (agrees : Agrees context ts (.chain .either) (start + 1) (.error cause)) :
    Agrees context ts .atom start (.error cause) := by
  intro n enough
  rw [drop_of_getElem? here]
  exact valuation_group_fails (agrees.of_lt ((Call.work_lt_next here).trans_le enough))

theorem groupOpen (here : ts[start]? = some .opening)
    (agrees : Agrees context ts (.chain .either) (start + 1) (.ok (inner, middle)))
    (unclosed : ts[middle]? ≠ some .closing) : Agrees context ts .atom start (.error .missingClosing) := by
  intro n enough
  rw [drop_of_getElem? here]
  apply valuation_group_open (agrees.of_lt ((Call.work_lt_next here).trans_le enough))
  rwa [List.head?_drop]

theorem refused {token : Token} (here : ts[start]? = some token) (sign : token ∈ [.closing, .bang, .both, .either]) :
    Agrees context ts .atom start (.error (.unexpectedToken token)) := by
  intro n _
  rw [drop_of_getElem? here]
  simp only [List.mem_cons, List.not_mem_nil, or_false] at sign
  rcases sign with rfl | rfl | rfl | rfl <;> rfl

theorem ended (beyond : ts[start]? = none) : Agrees context ts .atom start (.error .unexpectedEnd) := by
  intro n _
  rw [List.drop_eq_nil_of_le (List.getElem?_eq_none_iff.mp beyond)]
  rfl

end Agrees

theorem Runs.agrees {outcome : Outcome} (runs : Runs context ts call start outcome) :
    Agrees context ts call start outcome := by
  induction runs with
  | chain first _ firstIh restIh =>
    have moved := first.operand_advances
    exact firstIh.chain (by omega) moved.1 restIh
  | chainFails _ ih => exact ih.chainFails
  | loopMore here next _ nextIh restIh => exact .loopMore here nextIh next.operand_advances.1 restIh
  | loopFails here _ ih => exact .loopFails here ih
  | loopEnds other => exact .loopEnds other
  | bang here _ ih => exact .bang here ih
  | bangFails here _ ih => exact .bangFails here ih
  | operand other _ ih => exact .operand other ih
  | tag here => exact .tag here
  | group here _ closed ih => exact .group here ih closed
  | groupFails here _ ih => exact .groupFails here ih
  | groupOpen here _ unclosed ih => exact .groupOpen here ih unclosed
  | refused here sign => exact .refused here sign
  | ended beyond => exact .ended beyond

end

/-- What a reader does at a place. Its run ends, and ends as the reader does with enough steps; where it returns it has
    moved on inside the line, to a place before such a token. -/
structure Progresses (context : Context) (ts : List Token) (start : Nat) (call : Call)
    (read : Nat → List Token → Reading) (before : Option Token → Prop) : Prop where
  ends : ∃ outcome, Runs context ts call start outcome
  reads : ∀ outcome, Runs context ts call start outcome → ∀ n, steps (ts.drop start) ≤ n →
    Reading.valued context (read n (ts.drop start)) = outcome.placed ts
  returns : ∀ value stop, Runs context ts call start (.ok (value, stop)) →
    start < stop ∧ stop ≤ ts.length ∧ before ts[stop]?

theorem Call.work_lt_steps (call : Call) (ts : List Token) (start : Nat) :
    call.work ts start < steps (ts.drop start) := by
  have low := call.level_lt_four
  rw [steps, List.length_drop, work]
  omega

theorem Reading.valued_eq_ok {context : Context} {reading : Reading} {value : Bool} {rest : List Token}
    (valued : Reading.valued context reading = .ok (value, rest)) : ∃ c, reading = .ok (c, rest) := by
  rcases reading with cause | ⟨c, later⟩
  · cases valued
  · cases valued
    exact ⟨c, rfl⟩

theorem Call.progresses {context : Context} {call : Call} {read : Nat → List Token → Reading}
    {before : Option Token → Prop} (taking : call.least = 1)
    (valued : ∀ n rest, call.valuation context n rest = Reading.valued context (read n rest))
    (stopping : ∀ n rest c later, read n rest = .ok (c, later) → before later.head?) (ts : List Token) (start : Nat) :
    Progresses context ts start call read before := by
  have reads : ∀ outcome, Runs context ts call start outcome → ∀ n, steps (ts.drop start) ≤ n →
      Reading.valued context (read n (ts.drop start)) = outcome.placed ts := by
    intro outcome runs n enough
    have work := call.work_lt_steps ts start
    rw [← valued, runs.agrees.of_lt (by omega)]
  refine ⟨Constraint.ends context ts call start, reads, fun value stop runs => ?_⟩
  have moved := runs.advances rfl
  rw [taking] at moved
  obtain ⟨c, returned⟩ := Reading.valued_eq_ok (reads _ runs _ (Nat.le_refl _))
  have next := stopping _ _ _ _ returned
  rw [List.head?_drop] at next
  exact ⟨by omega, by omega, next⟩

/-- Every level of the grammar is read to an end from every place, takes a token at least and none beyond the last, and
    leaves no operator that it would go on with. -/
theorem reading_progresses (context : Context) (ts : List Token) (start : Nat) :
    Progresses context ts start (.chain .either) readOr (fun next => next ≠ some .either ∧ next ≠ some .both) ∧
    Progresses context ts start (.chain .both) readAnd (fun next => next ≠ some .both) ∧
    Progresses context ts start .not readNot (fun _ => True) ∧
    Progresses context ts start .atom readAtom (fun _ => True) := by
  refine ⟨?_, ?_, ?_, ?_⟩
  · apply Call.progresses rfl
    · exact fun n rest => (valuesReadings n).or rest
    · exact fun n rest c later returned => ((stops n).or rest c later returned).symm
  · apply Call.progresses rfl
    · exact fun n rest => (valuesReadings n).and rest
    · exact fun n => (stops n).and
  · apply Call.progresses rfl
    · exact fun n rest => (valuesReadings n).not rest
    · exact fun _ _ _ _ _ => trivial
  · apply Call.progresses rfl
    · exact fun n rest => (valuesReadings n).atom rest
    · exact fun _ _ _ _ _ => trivial

end SliceGrowth.Build.Constraint
