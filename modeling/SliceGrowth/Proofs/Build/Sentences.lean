import SliceGrowth.Proofs.Build.Grammar
import SliceGrowth.Proofs.Build.Tokens

/-!
The sentences of the grammar of build constraints and their beginnings. A mark moves over the tokens from left to
right and keeps whether an operand has just ended and how many parentheses are open. It passes over every beginning of
a sentence, so tokens at which it gets stuck begin none.
-/
namespace SliceGrowth.Build.Constraint

def AllLegible (ts : List Token) : Prop := ∀ token ∈ ts, token.IsLegible

theorem AllLegible.nil : AllLegible [] := nofun

theorem AllLegible.cons {token : Token} {ts : List Token} (first : token.IsLegible) (rest : AllLegible ts) :
    AllLegible (token :: ts) :=
  List.forall_mem_cons.mpr ⟨first, rest⟩

theorem AllLegible.tail {token : Token} {ts : List Token} (legible : AllLegible (token :: ts)) : AllLegible ts :=
  (List.forall_mem_cons.mp legible).2

theorem AllLegible.left {before after : List Token} (legible : AllLegible (before ++ after)) : AllLegible before :=
  (List.forall_mem_append.mp legible).1

theorem AllLegible.right {before after : List Token} (legible : AllLegible (before ++ after)) : AllLegible after :=
  (List.forall_mem_append.mp legible).2

theorem AllLegible.append {before after : List Token} (front : AllLegible before) (back : AllLegible after) :
    AllLegible (before ++ after) :=
  List.forall_mem_append.mpr ⟨front, back⟩

/-- The tokens of a whole constraint. -/
def IsSentence (ts : List Token) : Prop := AllLegible ts ∧ ∃ t : Tree .or, t.yield = ts

/-- The tokens begin a sentence. -/
def IsViable (ts : List Token) : Prop := ∃ more, IsSentence (ts ++ more)

theorem IsSentence.viable {ts : List Token} (sentence : IsSentence ts) : IsViable ts :=
  ⟨[], by rwa [List.append_nil]⟩

theorem IsViable.front {before after : List Token} (viable : IsViable (before ++ after)) : IsViable before := by
  obtain ⟨more, sentence⟩ := viable
  rw [List.append_assoc] at sentence
  exact ⟨after ++ more, sentence⟩

structure Mark where
  ended : Bool
  depth : Nat

/-- Where the mark is after a token that can stand there. -/
def Mark.next? : Mark → Token → Option Mark
  | ⟨false, depth⟩, .opening => some ⟨false, depth + 1⟩
  | ⟨false, depth⟩, .bang => some ⟨false, depth⟩
  | ⟨false, depth⟩, .tag _ => some ⟨true, depth⟩
  | ⟨true, depth⟩, .both => some ⟨false, depth⟩
  | ⟨true, depth⟩, .either => some ⟨false, depth⟩
  | ⟨true, depth + 1⟩, .closing => some ⟨true, depth⟩
  | _, _ => none

def Mark.pass? (mark : Mark) (ts : List Token) : Option Mark := ts.foldlM Mark.next? mark

namespace Mark

theorem pass?_append (mark : Mark) (before after : List Token) :
    mark.pass? (before ++ after) = (mark.pass? before).bind fun next => next.pass? after :=
  List.foldlM_append

theorem pass?_cons (mark : Mark) (token : Token) (ts : List Token) :
    mark.pass? (token :: ts) = (mark.next? token).bind fun next => next.pass? ts :=
  List.foldlM_cons

theorem pass?_concat {mark next : Mark} {before : List Token} (passed : mark.pass? before = some next)
    (token : Token) : mark.pass? (before ++ [token]) = next.next? token := by
  rw [pass?_append, passed, Option.bind_some, pass?_cons]
  exact Option.bind_fun_some (next.next? token)

end Mark

/-- Before an operator's repetition an operand has ended; before everything else one is awaited. -/
def Level.mark (depth : Nat) : Level → Mark
  | .orTail | .andTail => ⟨true, depth⟩
  | .or | .and | .not | .atom => ⟨false, depth⟩

theorem pass?_yield {level : Level} (t : Tree level) (depth : Nat) :
    (level.mark depth).pass? t.yield = some ⟨true, depth⟩ := by
  induction t generalizing depth with
  | or first rest left tail | and first rest left tail =>
    rw [Tree.yield, Mark.pass?_append]
    exact (congrArg (Option.bind · _) (left depth)).trans (tail depth)
  | orEnd | andEnd => rfl
  | orMore next rest right tail | andMore next rest right tail =>
    change Mark.pass? ⟨false, depth⟩ (next.yield ++ rest.yield) = _
    rw [Mark.pass?_append]
    exact (congrArg (Option.bind · _) (right depth)).trans (tail depth)
  | bang inner ih => exact ih depth
  | operand inner ih => exact ih depth
  | group inner ih =>
    change Mark.pass? ⟨false, depth + 1⟩ (inner.yield ++ [.closing]) = _
    exact Mark.pass?_concat (ih (depth + 1)) .closing
  | tag name => rfl

theorem IsSentence.passed {ts : List Token} (sentence : IsSentence ts) :
    Mark.pass? ⟨false, 0⟩ ts = some ⟨true, 0⟩ := by
  obtain ⟨-, t, rfl⟩ := sentence
  exact pass?_yield t 0

theorem not_viable_of_stuck {before : List Token} {mark : Mark} {token : Token}
    (passed : Mark.pass? ⟨false, 0⟩ before = some mark) (stuck : mark.next? token = none) :
    ¬ IsViable (before ++ [token]) := by
  rintro ⟨more, sentence⟩
  have whole := sentence.passed
  rw [Mark.pass?_append, Mark.pass?_concat passed, stuck] at whole
  cases whole

end SliceGrowth.Build.Constraint
