import SliceGrowth.Proofs.Build.Tokens

/-!
Where a build line cannot be cut. The places at fault are told from the line alone: a character that no token has, or
the last one of a run of `&` or of `|` that has an odd length. The first of them is the one that a refusal names.
-/
namespace SliceGrowth.Build.Constraint

def IsLegal (c : Char) : Prop :=
  Text.isBlank c = true ∨ isTagChar c = true ∨ c ∈ ['(', ')', '!', '&', '|']

/-- The place is the last one of a run of the character that cannot be made longer and has an odd length. -/
def EndsOddRun (chars : List Char) (c : Char) (place : Nat) : Prop :=
  ∃ before n after, chars = before ++ (List.replicate (2 * n + 1) c ++ after) ∧
    before.getLast? ≠ some c ∧ after.head? ≠ some c ∧ place = before.length + 2 * n

inductive OffendsAt (chars : List Char) (place : Nat) : Prop where
  | illegal {c : Char} : chars[place]? = some c → ¬ IsLegal c → OffendsAt chars place
  | oddRun {c : Char} : c = '&' ∨ c = '|' → EndsOddRun chars c place → OffendsAt chars place

/-- A text in which nothing is at fault, and which hides no fault of what comes after it. -/
def Passes (front : List Char) : Prop :=
  ∀ rest place, OffendsAt (front ++ rest) place ↔ ∃ later, place = front.length + later ∧ OffendsAt rest later

theorem Passes.nil : Passes [] := by
  intro rest place
  simp

theorem Passes.append {front back : List Char} (first : Passes front) (second : Passes back) :
    Passes (front ++ back) := by
  intro rest place
  rw [List.append_assoc, first, List.length_append]
  constructor
  · intro offending
    obtain ⟨later, rfl, offends⟩ := offending
    obtain ⟨last, rfl, inRest⟩ := (second rest later).mp offends
    exact ⟨last, by omega, inRest⟩
  · intro offending
    obtain ⟨last, rfl, offends⟩ := offending
    exact ⟨back.length + last, by omega, (second rest _).mpr ⟨last, rfl, offends⟩⟩

theorem getLast?_cons_ne {c d : Char} {front : List Char} (apart : c ≠ d) (last : front.getLast? ≠ some d) :
    (c :: front).getLast? ≠ some d := by
  cases front with
  | nil => simpa using apart
  | cons e front => simpa using last

theorem getLast?_ne_of_cons {c d : Char} {front : List Char} (last : (c :: front).getLast? ≠ some d) :
    front.getLast? ≠ some d := by
  cases front with
  | nil => simp
  | cons e front => simpa using last

/-- A run does not begin before a character of another kind. -/
theorem endsOddRun_cons {c d : Char} (apart : c ≠ d) (rest : List Char) (place : Nat) :
    EndsOddRun (c :: rest) d place ↔ ∃ later, place = later + 1 ∧ EndsOddRun rest d later := by
  constructor
  · intro run
    obtain ⟨before, n, after, same, left, right, rfl⟩ := run
    cases before with
    | nil => exact absurd (List.cons.inj same).1 apart
    | cons b before =>
      refine ⟨before.length + 2 * n, by simp; omega, before, n, after, (List.cons.inj same).2, ?_, right, rfl⟩
      exact getLast?_ne_of_cons left
  · intro run
    obtain ⟨_, rfl, before, n, after, rfl, left, right, rfl⟩ := run
    exact ⟨c :: before, n, after, rfl, getLast?_cons_ne apart left, right, by simp; omega⟩

theorem replicate_two_more (n : Nat) (c : Char) :
    List.replicate (2 * (n + 1) + 1) c = c :: c :: List.replicate (2 * n + 1) c := by
  have long : 2 * (n + 1) + 1 = 2 * n + 1 + 1 + 1 := by omega
  rw [long, List.replicate_succ, List.replicate_succ]

/-- Two more of the same leave the length of a run odd or even. -/
theorem endsOddRun_double (c : Char) (rest : List Char) (place : Nat) :
    EndsOddRun (c :: c :: rest) c place ↔ ∃ later, place = later + 2 ∧ EndsOddRun rest c later := by
  constructor
  · intro run
    obtain ⟨before, n, after, same, left, right, rfl⟩ := run
    -- The run begins at the first of the two, cannot begin at the second, or comes later.
    rcases before with _ | ⟨b, _ | ⟨b', before⟩⟩
    · cases n with
      | zero =>
        cases same
        exact absurd rfl right
      | succ n =>
        rw [replicate_two_more] at same
        cases same
        exact ⟨2 * n, by simp; omega, [], n, after, rfl, by simp, right, by simp⟩
    · cases same
      exact absurd rfl left
    · cases same
      refine ⟨before.length + 2 * n, by simp; omega, before, n, after, rfl, ?_, right, rfl⟩
      exact getLast?_ne_of_cons (getLast?_ne_of_cons left)
  · intro run
    obtain ⟨_, rfl, before, n, after, rfl, left, right, rfl⟩ := run
    cases before with
    | nil =>
      refine ⟨[], n + 1, after, ?_, by simp, right, by simp; omega⟩
      rw [replicate_two_more]
      rfl
    | cons b before =>
      refine ⟨c :: c :: b :: before, n, after, rfl, ?_, right, by simp; omega⟩
      simpa using left

theorem passes_of_legal {front : List Char} (legal : ∀ c ∈ front, IsLegal c)
    (shift : ∀ c rest place, c = '&' ∨ c = '|' → (EndsOddRun (front ++ rest) c place ↔
      ∃ later, place = front.length + later ∧ EndsOddRun rest c later)) : Passes front := by
  intro rest place
  constructor
  · rintro (⟨here, illegal⟩ | ⟨double, run⟩)
    · by_cases inside : place < front.length
      · rw [List.getElem?_append_left inside] at here
        exact absurd (legal _ (List.mem_of_getElem? here)) illegal
      · rw [List.getElem?_append_right (by omega)] at here
        exact ⟨place - front.length, by omega, .illegal here illegal⟩
    · obtain ⟨later, same, inRest⟩ := (shift _ rest place double).mp run
      exact ⟨later, same, .oddRun double inRest⟩
  · rintro ⟨later, rfl, ⟨here, illegal⟩ | ⟨double, run⟩⟩
    · refine .illegal ?_ illegal
      rwa [List.getElem?_append_right (by omega), Nat.add_sub_cancel_left]
    · exact .oddRun double ((shift _ rest _ double).mpr ⟨later, rfl, run⟩)

theorem passes_single {c : Char} (legal : IsLegal c) (single : ¬ (c = '&' ∨ c = '|')) : Passes [c] := by
  apply passes_of_legal (List.forall_mem_singleton.mpr legal)
  intro d rest place double
  have apart : c ≠ d := fun same => single (by rwa [same])
  rw [List.length_singleton]
  simp only [Nat.add_comm 1]
  exact endsOddRun_cons apart rest place

theorem passes_double {c : Char} (double : c = '&' ∨ c = '|') : Passes [c, c] := by
  apply passes_of_legal
  · intro d member
    have same : d = c := by simpa using member
    refine .inr (.inr ?_)
    rcases double with rfl | rfl
    · simp [same]
    · simp [same]
  · intro d rest place _
    rw [show [c, c].length = 2 from rfl]
    simp only [Nat.add_comm 2]
    by_cases same : c = d
    · subst same
      exact endsOddRun_double c rest place
    · -- A run of the other sign does not reach into these two.
      constructor
      · intro run
        obtain ⟨_, rfl, inTail⟩ := (endsOddRun_cons same (c :: rest) place).mp run
        obtain ⟨later, rfl, inRest⟩ := (endsOddRun_cons same rest _).mp inTail
        exact ⟨later, rfl, inRest⟩
      · intro inLater
        obtain ⟨later, rfl, run⟩ := inLater
        apply (endsOddRun_cons same (c :: rest) _).mpr
        exact ⟨later + 1, rfl, (endsOddRun_cons same rest _).mpr ⟨later, rfl, run⟩⟩

theorem passes_tag {cs : List Char} (inner : ∀ c ∈ cs, isTagChar c = true) : Passes cs := by
  induction cs with
  | nil => exact .nil
  | cons c cs ih =>
    have first := inner c (by simp)
    have code := isTagChar_code first
    have single : ¬ (c = '&' ∨ c = '|') := by
      rintro (rfl | rfl)
      · exact absurd code (by decide)
      · exact absurd code (by decide)
    exact (passes_single (.inr (.inl first)) single).append (ih fun d member => inner d (by simp [member]))

theorem passes_token {token : Token} (legible : token.IsLegible) : Passes token.text.toList := by
  cases token with
  | tag name => exact passes_tag (IsTag.inner legible)
  | both => exact passes_double (.inl rfl)
  | either => exact passes_double (.inr rfl)
  | opening | closing | bang => exact passes_single (.inr (.inr (by decide))) (by decide)

theorem passes_blank {c : Char} (blank : Text.isBlank c = true) : Passes [c] := by
  apply passes_single (.inl blank)
  rintro (rfl | rfl)
  · exact absurd blank (by decide)
  · exact absurd blank (by decide)

theorem IsFault.offends {c : Char} {rest : List Char} (fault : IsFault c rest) : OffendsAt (c :: rest) 0 := by
  by_cases double : c = '&' ∨ c = '|'
  · exact .oddRun double ⟨[], 0, rest, rfl, by simp, fault.notDouble double, rfl⟩
  · refine .illegal rfl ?_
    rintro (blank | tag | sign)
    · exact absurd blank (by simp [fault.notBlank])
    · exact absurd tag (by simp [fault.notTag])
    · simp only [List.mem_cons, List.not_mem_nil, or_false] at sign
      rcases sign with same | same | same | same
      · exact fault.notSign.1 same
      · exact fault.notSign.2.1 same
      · exact fault.notSign.2.2 same
      · exact double same

/-- The line is cut and nothing in it is at fault, or the first place at fault is named. -/
def Judged (chars : List Char) : Prop :=
  (∃ ts, tokens chars = .ok ts ∧ ∀ place, ¬ OffendsAt chars place) ∨
  ∃ c place, tokens chars = .error (.unexpectedCharacter c) ∧ chars[place]? = some c ∧ OffendsAt chars place ∧
    ∀ earlier < place, ¬ OffendsAt chars earlier

theorem Judged.front {front rest : List Char} (passes : Passes front)
    (cut : ∃ first, tokens (front ++ rest) = do return first ++ (← tokens rest)) (judged : Judged rest) :
    Judged (front ++ rest) := by
  obtain ⟨first, cut⟩ := cut
  rcases judged with ⟨ts, later, clean⟩ | ⟨c, place, later, here, offends, least⟩
  · refine .inl ⟨first ++ ts, by rw [cut, later]; rfl, ?_⟩
    intro place offends
    obtain ⟨inRest, -, offends⟩ := (passes rest place).mp offends
    exact clean inRest offends
  · refine .inr ⟨c, front.length + place, by rw [cut, later]; rfl, ?_, ?_, ?_⟩
    · rwa [List.getElem?_append_right (by omega), Nat.add_sub_cancel_left]
    · exact (passes rest _).mpr ⟨place, rfl, offends⟩
    · intro earlier before inLine
      obtain ⟨inRest, rfl, inRestOffends⟩ := (passes rest earlier).mp inLine
      exact least inRest (by omega) inRestOffends

theorem judged (line : List Char) : Judged line := by
  induction line using line_induction with
  | nil =>
    refine .inl ⟨[], tokens_nil, ?_⟩
    rintro place (⟨here, -⟩ | ⟨-, before, n, after, none, -⟩)
    · cases here
    · simp at none
  | blank c rest blank ih =>
    refine @Judged.front [c] rest (passes_blank blank) ⟨[], ?_⟩ ih
    rw [List.singleton_append, tokens_blank blank]
    simp
  | token token rest legible stop ih =>
    exact ih.front (passes_token legible) ⟨[token], tokens_token legible stop⟩
  | fault c rest fault =>
    exact .inr ⟨c, 0, tokens_fault fault, rfl, fault.offends, by omega⟩

theorem tokens_gap {before after : List Token} {first second : String} {line : List Char}
    (cut : tokens line = .ok (before ++ .tag first :: .tag second :: after)) :
    ∃ left gap right, line = left ++ first.toList ++ gap ++ second.toList ++ right ∧
      gap ≠ [] ∧ (∀ c ∈ gap, Text.isBlank c = true) ∧ tokens left = .ok before ∧ tokens right = .ok after := by
  obtain ⟨left, _, rfl, front, rest⟩ := (renders_of_tokens cut).exists_append
  obtain ⟨lead, _, rfl, leadBlank, -, stop, rest⟩ := rest.exists_cons
  obtain ⟨gap, right, rfl, gapBlank, legible, -, back⟩ := rest.exists_cons
  refine ⟨left ++ lead, gap, right, by simp [Token.text], ?_, gapBlank, tokens_of_renders (front.followed leadBlank),
    tokens_of_renders back⟩
  -- Without a blank the first tag would have gone on with the second.
  rintro rfl
  obtain ⟨c, cs, chars, tag⟩ := IsTag.exists_cons legible
  have noTag := stop c (by simp [Token.text, chars])
  rw [tag] at noTag
  cases noTag

/-- A line is refused exactly if a place in it is at fault, and for the first such place. The tokens of any other line
    are its text without the blanks, and blanks stand between every two tags in a row. -/
theorem tokens_exact (s : String) :
    ((∃ cause, tokens s.toList = .error cause) ↔ ∃ place, OffendsAt s.toList place) ∧
    (∀ cause, tokens s.toList = .error cause → ∃ c place, cause = .unexpectedCharacter c ∧
      s.toList[place]? = some c ∧ OffendsAt s.toList place ∧ ∀ earlier < place, ¬ OffendsAt s.toList earlier) ∧
    ∀ ts, tokens s.toList = .ok ts →
      (∀ token ∈ ts, token.IsLegible) ∧
      (ts.flatMap fun token => token.text.toList) = s.toList.filter (fun c => !Text.isBlank c) ∧
      ∀ before first second after, ts = before ++ .tag first :: .tag second :: after →
        ∃ left gap right, s.toList = left ++ first.toList ++ gap ++ second.toList ++ right ∧
          gap ≠ [] ∧ (∀ c ∈ gap, Text.isBlank c = true) ∧ tokens left = .ok before ∧ tokens right = .ok after := by
  refine ⟨?_, ?_, ?_⟩
  · rcases judged s.toList with ⟨ts, cut, clean⟩ | ⟨c, place, refused, -, offends, -⟩
    · simp [cut, clean]
    · simp only [refused, Except.error.injEq, exists_eq', true_iff]
      exact ⟨place, offends⟩
  · intro cause refused
    rcases judged s.toList with ⟨ts, cut, -⟩ | ⟨c, place, named, here, offends, least⟩
    · rw [cut] at refused
      cases refused
    · rw [named] at refused
      cases refused
      exact ⟨c, place, rfl, here, offends, least⟩
  · intro ts cut
    have rendered := renders_of_tokens cut
    refine ⟨rendered.legible, rendered.filter_line.symm, ?_⟩
    rintro before first second after rfl
    exact tokens_gap cut

end SliceGrowth.Build.Constraint
