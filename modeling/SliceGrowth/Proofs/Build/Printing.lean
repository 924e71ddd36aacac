import SliceGrowth.Proofs.Build.Sentences

/-!
Constraints written out as build lines. Parentheses stand where the order of binding needs them and nowhere else, and
blanks as one likes. A written constraint evaluates to the value of the constraint.
-/
namespace SliceGrowth.Build.Constraint

def tags : Constraint → List String
  | tag name => [name]
  | not inner => inner.tags
  | and left right | or left right => left.tags ++ right.tags

def isOr : Constraint → Bool
  | or _ _ => true
  | tag _ | not _ | and _ _ => false

def isJoined : Constraint → Bool
  | and _ _ | or _ _ => true
  | tag _ | not _ => false

def grouped (needed : Bool) (ts : List Token) : List Token :=
  if needed then .opening :: (ts ++ [.closing]) else ts

/-- The tokens of a constraint, with parentheses around an alternative that is a part of a conjunction, and around
    either of them under a negation. -/
def printed : Constraint → List Token
  | tag name => [.tag name]
  | not inner => .bang :: grouped inner.isJoined inner.printed
  | and left right => grouped left.isOr left.printed ++ .both :: grouped right.isOr right.printed
  | or left right => left.printed ++ .either :: right.printed

/-- The texts of the tokens, with a gap in front of each and one after the last. -/
def spread : (Nat → List Char) → List Token → List Char
  | gaps, [] => gaps 0
  | gaps, token :: ts => gaps 0 ++ (token.text.toList ++ spread (fun i => gaps (i + 1)) ts)

section Reading

variable {ts us : List Token} {v w : Context → Bool}

def ReadsNot (ts : List Token) (v : Context → Bool) : Prop :=
  ∃ t : Tree .not, t.yield = ts ∧ ∀ context, t.value context = v context

-- A chain of one operator is a single repetition however its parts are nested, so what comes later in the chain is
-- taken along.
def ReadsAnd (ts : List Token) (v : Context → Bool) : Prop :=
  ∀ rest : Tree .andTail, ∃ t : Tree .and,
    t.yield = ts ++ rest.yield ∧ ∀ context, t.value context = (v context && rest.value context)

def ReadsOr (ts : List Token) (v : Context → Bool) : Prop :=
  ∀ rest : Tree .orTail, ∃ t : Tree .or,
    t.yield = ts ++ rest.yield ∧ ∀ context, t.value context = (v context || rest.value context)

theorem ReadsNot.bang (inner : ReadsNot ts v) : ReadsNot (.bang :: ts) fun context => !v context := by
  obtain ⟨t, rfl, value⟩ := inner
  refine ⟨.bang t, rfl, ?_⟩
  intro context
  rw [Tree.value, value]

theorem ReadsNot.and (operand : ReadsNot ts v) : ReadsAnd ts v := by
  obtain ⟨t, rfl, value⟩ := operand
  intro rest
  refine ⟨.and t rest, rfl, ?_⟩
  intro context
  rw [Tree.value, value]

theorem ReadsAnd.or (operand : ReadsAnd ts v) : ReadsOr ts v := by
  obtain ⟨t, yield, value⟩ := operand .andEnd
  intro rest
  refine ⟨.or t rest, ?_, ?_⟩
  · rw [Tree.yield, yield, Tree.yield, List.append_nil]
  · intro context
    rw [Tree.value, value, Tree.value, Bool.and_true]

theorem ReadsOr.group (inner : ReadsOr ts v) : ReadsNot (.opening :: (ts ++ [.closing])) v := by
  obtain ⟨t, yield, value⟩ := inner .orEnd
  refine ⟨.operand (.group t), ?_, ?_⟩
  · rw [Tree.yield, Tree.yield, yield, Tree.yield, List.append_nil]
  · intro context
    rw [Tree.value, Tree.value, value, Tree.value, Bool.or_false]

theorem ReadsAnd.both (left : ReadsAnd ts v) (right : ReadsAnd us w) :
    ReadsAnd (ts ++ .both :: us) fun context => v context && w context := by
  intro rest
  obtain ⟨u, yield, value⟩ := right rest
  cases u with | and first tail
  obtain ⟨t, whole, total⟩ := left (.andMore first tail)
  refine ⟨t, ?_, ?_⟩
  · rw [Tree.yield] at yield
    rw [whole, Tree.yield, yield]
    simp
  · intro context
    have later := value context
    rw [Tree.value] at later
    rw [total, Tree.value, later, Bool.and_assoc]

theorem ReadsOr.either (left : ReadsOr ts v) (right : ReadsOr us w) :
    ReadsOr (ts ++ .either :: us) fun context => v context || w context := by
  intro rest
  obtain ⟨u, yield, value⟩ := right rest
  cases u with | or first tail
  obtain ⟨t, whole, total⟩ := left (.orMore first tail)
  refine ⟨t, ?_, ?_⟩
  · rw [Tree.yield] at yield
    rw [whole, Tree.yield, yield]
    simp
  · intro context
    have later := value context
    rw [Tree.value] at later
    rw [total, Tree.value, later, Bool.or_assoc]

end Reading

structure ReadsBack (c : Constraint) : Prop where
  or : ReadsOr c.printed fun context => c.value context
  and : ReadsAnd (grouped c.isOr c.printed) fun context => c.value context
  not : ReadsNot (grouped c.isJoined c.printed) fun context => c.value context

theorem readsBack (c : Constraint) : ReadsBack c := by
  induction c with
  | tag name =>
    have whole : ReadsNot [.tag name] fun context => context.satisfies name :=
      ⟨.operand (.tag name), rfl, fun context => rfl⟩
    exact ⟨whole.and.or, whole.and, whole⟩
  | not inner ih =>
    have whole := ih.not.bang
    exact ⟨whole.and.or, whole.and, whole⟩
  | and left right leftIh rightIh =>
    have whole := leftIh.and.both rightIh.and
    exact ⟨whole.or, whole, whole.or.group⟩
  | or left right leftIh rightIh =>
    have whole := leftIh.or.either rightIh.or
    exact ⟨whole, whole.group.and, whole.group⟩

theorem exists_tree_printed (c : Constraint) :
    ∃ t : Tree .or, t.yield = c.printed ∧ ∀ context, t.value context = c.value context := by
  obtain ⟨t, yield, value⟩ := (readsBack c).or .orEnd
  refine ⟨t, ?_, ?_⟩
  · rw [yield, Tree.yield, List.append_nil]
  · intro context
    rw [value, Tree.value, Bool.or_false]

theorem tag_mem_grouped (needed : Bool) (name : String) (ts : List Token) :
    .tag name ∈ grouped needed ts ↔ .tag name ∈ ts := by
  cases needed <;> simp [grouped]

theorem tag_mem_printed (c : Constraint) (name : String) : .tag name ∈ c.printed ↔ name ∈ c.tags := by
  induction c with
  | tag other => simp [printed, tags]
  | not inner ih => simp [printed, tags, tag_mem_grouped, ih]
  | and left right leftIh rightIh => simp [printed, tags, tag_mem_grouped, leftIh, rightIh]
  | or left right leftIh rightIh => simp [printed, tags, leftIh, rightIh]

theorem printed_legible {c : Constraint} (words : ∀ name ∈ c.tags, IsTag name) : AllLegible c.printed := by
  intro token member
  cases token with
  | tag name => exact words name ((tag_mem_printed c name).mp member)
  | opening | closing | bang | both | either => trivial

section Spreading

variable {gaps : Nat → List Char} (blank : ∀ i, ∀ c ∈ gaps i, Text.isBlank c = true)

include blank

/-- No token that can come after an operand goes on with a tag. -/
theorem head_spread {ts : List Token} {depth : Nat} {next : Mark} (passed : Mark.pass? ⟨true, depth⟩ ts = some next) :
    ∀ c ∈ (spread gaps ts).head?, isTagChar c = false := by
  intro c first
  cases ts with
  | nil => exact isTagChar_of_isBlank (blank 0 c (List.mem_of_mem_head? first))
  | cons token ts =>
    cases gap : gaps 0 with
    | cons d others =>
      rw [spread, gap] at first
      cases first
      exact isTagChar_of_isBlank (blank 0 c (by simp [gap]))
    | nil =>
      rw [spread, gap] at first
      cases token with
      | opening | bang | tag => cases passed
      | closing | both | either =>
        cases first
        rfl

theorem renders_spread {ts : List Token} {mark next : Mark} (legible : AllLegible ts)
    (passed : mark.pass? ts = some next) : Renders ts (spread gaps ts) := by
  induction ts generalizing gaps mark with
  | nil =>
    have whole : Renders [] (gaps 0 ++ []) := Renders.blanks (blank 0) .done
    rwa [List.append_nil] at whole
  | cons token ts ih =>
    rw [Mark.pass?_cons] at passed
    obtain ⟨after, step, passed⟩ := Option.bind_eq_some_iff.mp passed
    have later : ∀ i, ∀ c ∈ gaps (i + 1), Text.isBlank c = true := fun i => blank (i + 1)
    have rest := ih later (fun other member => legible other (by simp [member])) passed
    apply Renders.blanks (blank 0)
    refine .token (legible token (by simp)) ?_ rest
    cases token with
    | tag name =>
      obtain ⟨ended, depth⟩ := mark
      cases ended with
      | true => cases step
      | false =>
        cases step
        exact head_spread later passed
    | opening | closing | bang | both | either => trivial

end Spreading

theorem tokens_spread {c : Constraint} (words : ∀ name ∈ c.tags, IsTag name) {gaps : Nat → List Char}
    (blank : ∀ i, ∀ d ∈ gaps i, Text.isBlank d = true) : tokens (spread gaps c.printed) = .ok c.printed := by
  obtain ⟨t, yield, -⟩ := exists_tree_printed c
  have passed := pass?_yield t 0
  rw [yield] at passed
  exact tokens_of_renders (renders_spread blank (printed_legible words) passed)

end SliceGrowth.Build.Constraint

namespace SliceGrowth.Build

open Constraint

/-- A constraint that is written out, with any blanks between its tokens, evaluates to its value. -/
theorem evaluate_spread_printed (tree : Constraint) (words : ∀ name ∈ tree.tags, IsTag name)
    (gaps : Nat → List Char) (blank : ∀ i, ∀ c ∈ gaps i, Text.isBlank c = true) (context : Context) :
    evaluate (String.ofList (spread gaps tree.printed)) context = .ok (tree.value context) := by
  obtain ⟨t, yield, value⟩ := exists_tree_printed tree
  have cut : tokens (String.ofList (spread gaps tree.printed)).toList = .ok t.yield := by
    rw [String.toList_ofList, yield]
    exact tokens_spread words blank
  rw [evaluate_of_tree context cut, value]

def nestedConstraint : Constraint :=
  .or (.tag "js") (.or (.and (.or (.tag "cgo") (.tag "go1.21")) (.and (.not (.not (.tag "linux")))
    (.not (.and (.tag "arm64") (.tag "a_b"))))) (.tag "x"))

def unevenGaps (i : Nat) : List Char := if i % 4 = 0 then [' ', '\u3000'] else []

theorem evaluate_spread_printed_nested :
    (∀ name ∈ nestedConstraint.tags, IsTag name) ∧ (∀ i, ∀ c ∈ unevenGaps i, Text.isBlank c = true) ∧
      spread unevenGaps nestedConstraint.printed =
        " \u3000js||(cgo \u3000||go1.21)&& \u3000!!linux&& \u3000!(arm64&& \u3000a_b)||x \u3000".toList ∧
      evaluate " \u3000js||(cgo \u3000||go1.21)&& \u3000!!linux&& \u3000!(arm64&& \u3000a_b)||x \u3000"
        { system := "linux", architecture := "amd64" } = .ok true := by
  have words : ∀ name ∈ nestedConstraint.tags, IsTag name := by decide
  have blank : ∀ i, ∀ c ∈ unevenGaps i, Text.isBlank c = true := by
    intro i c member
    unfold unevenGaps at member
    split at member
    · exact List.all_eq_true.mp (by decide : [' ', '\u3000'].all Text.isBlank = true) c member
    · cases member
  have text : spread unevenGaps nestedConstraint.printed =
      " \u3000js||(cgo \u3000||go1.21)&& \u3000!!linux&& \u3000!(arm64&& \u3000a_b)||x \u3000".toList := by decide
  refine ⟨words, blank, text, ?_⟩
  have value := evaluate_spread_printed nestedConstraint words unevenGaps blank
    { system := "linux", architecture := "amd64" }
  rw [text, String.ofList_toList] at value
  exact value.trans (congrArg _ (by decide))

end SliceGrowth.Build
