import SliceGrowth.Text.Utf8

/-!
Bytes are read as a text exactly if they are the UTF-8 encoding of it. So bytes are refused only if they encode no
text at all.
-/
namespace SliceGrowth.Text

/-- The characters of bytes that go on after a character begun, if there is no malformed part. -/
def decodeFrom (begun : Option PartialChar) (bytes : List UInt8) : Option (List Char) :=
  (glyphsFrom begun bytes).mapM Glyph.char?

def Between (low high b : UInt8) : Prop := low.toNat ≤ b.toNat ∧ b.toNat ≤ high.toNat

section Steps

variable {low high b : UInt8} {read value missing : Nat}

theorem decodeFrom_cons (begun : Option PartialChar) (b : UInt8) (bytes : List UInt8) :
    decodeFrom begun (b :: bytes) = do
      let front ← (readByte begun b).1.mapM Glyph.char?
      let back ← decodeFrom (readByte begun b).2 bytes
      return front ++ back := by
  simp only [decodeFrom, glyphsFrom, List.mapM_append]

theorem between_iff : (low ≤ b && b ≤ high) = true ↔ Between low high b := by
  simp only [Bool.and_eq_true, decide_eq_true_eq, UInt8.le_iff_toNat_le, Between]

theorem decodeFrom_refused (bytes : List UInt8) (outside : ¬ Between low high b) :
    decodeFrom (some ⟨read, value, missing, low, high⟩) (b :: bytes) = none := by
  have refused : ¬ (low ≤ b && b ≤ high) = true := fun between => outside (between_iff.mp between)
  rw [decodeFrom_cons]
  simp only [readByte, if_neg refused]
  rfl

theorem decodeFrom_more (bytes : List UInt8) (taken : Between low high b) :
    decodeFrom (some ⟨read, value, missing + 2, low, high⟩) (b :: bytes) =
      decodeFrom (some ⟨read + 1, value * 64 + (b.toNat - 0x80), missing + 1, 0x80, 0xBF⟩) bytes := by
  have more : ¬ missing + 2 ≤ 1 := by omega
  rw [decodeFrom_cons]
  simp only [readByte, if_pos (between_iff.mpr taken), if_neg more]
  exact Option.bind_fun_some _

theorem decodeFrom_last (bytes : List UInt8) (taken : Between low high b) :
    decodeFrom (some ⟨read, value, 1, low, high⟩) (b :: bytes) =
      (Char.ofNat (value * 64 + (b.toNat - 0x80)) :: ·) <$> decodeFrom none bytes := by
  rw [decodeFrom_cons]
  simp only [readByte, if_pos (between_iff.mpr taken), Nat.le_refl, ↓reduceIte]
  cases decodeFrom none bytes <;> rfl

theorem decodeFrom_lead {p : PartialChar} (bytes : List UInt8) (lead : readLead b = ([], some p)) :
    decodeFrom none (b :: bytes) = decodeFrom (some p) bytes := by
  rw [decodeFrom_cons]
  simp only [readByte, lead]
  exact Option.bind_fun_some _

theorem decodeFrom_char {c : Char} (bytes : List UInt8) (lead : readLead b = ([.char c], none)) :
    decodeFrom none (b :: bytes) = (c :: ·) <$> decodeFrom none bytes := by
  rw [decodeFrom_cons]
  simp only [readByte, lead]
  cases decodeFrom none bytes <;> rfl

theorem decodeFrom_malformed {size : Nat} (bytes : List UInt8) (lead : readLead b = ([.malformed size], none)) :
    decodeFrom none (b :: bytes) = none := by
  rw [decodeFrom_cons]
  simp only [readByte, lead]
  rfl

theorem decodeFrom_begun_eq_some {bytes : List UInt8} {cs : List Char}
    (decoded : decodeFrom (some ⟨read, value, missing, low, high⟩) bytes = some cs) :
    ∃ b rest, bytes = b :: rest ∧ Between low high b := by
  cases bytes with
  | nil => cases decoded
  | cons b rest =>
    refine ⟨b, rest, rfl, Classical.byContradiction fun outside => ?_⟩
    rw [decodeFrom_refused rest outside] at decoded
    cases decoded

end Steps

/-- What a byte at the start of a character means, by its number. -/
theorem readLead_cases (b : UInt8) :
    (b.toNat < 0x80 ∧ readLead b = ([.char (Char.ofNat b.toNat)], none)) ∨
    (0xC2 ≤ b.toNat ∧ b.toNat < 0xE0 ∧ readLead b = ([], some ⟨1, b.toNat - 0xC0, 1, 0x80, 0xBF⟩)) ∨
    (0xE0 ≤ b.toNat ∧ b.toNat < 0xF0 ∧ readLead b = ([], some ⟨1, b.toNat - 0xE0, 2,
      if b.toNat = 0xE0 then 0xA0 else 0x80, if b.toNat = 0xED then 0x9F else 0xBF⟩)) ∨
    (0xF0 ≤ b.toNat ∧ b.toNat < 0xF5 ∧ readLead b = ([], some ⟨1, b.toNat - 0xF0, 3,
      if b.toNat = 0xF0 then 0x90 else 0x80, if b.toNat = 0xF4 then 0x8F else 0xBF⟩)) ∨
    ((0x80 ≤ b.toNat ∧ b.toNat < 0xC2 ∨ 0xF5 ≤ b.toNat) ∧ readLead b = ([.malformed 1], none)) := by
  unfold readLead
  simp only [UInt8.lt_iff_toNat_lt, beq_iff_eq, ← UInt8.toNat_inj, UInt8.reduceToNat]
  split
  · exact .inl ⟨‹_›, rfl⟩
  split
  · exact .inr (.inr (.inr (.inr ⟨.inl ⟨by omega, ‹_›⟩, rfl⟩)))
  split
  · exact .inr (.inl ⟨by omega, ‹_›, rfl⟩)
  split
  · next first => exact .inr (.inr (.inl ⟨by omega, by omega, by simp [first]⟩))
  split
  · next surrogate => exact .inr (.inr (.inl ⟨by omega, by omega, by simp [surrogate]⟩))
  split
  · exact .inr (.inr (.inl ⟨by omega, by omega, rfl⟩))
  split
  · next first => exact .inr (.inr (.inr (.inl ⟨by omega, by omega, by simp [first]⟩)))
  split
  · exact .inr (.inr (.inr (.inl ⟨by omega, by omega, by rw [if_neg (by omega)]⟩)))
  split
  · next last => exact .inr (.inr (.inr (.inl ⟨by omega, by omega, by simp [last]⟩)))
  · exact .inr (.inr (.inr (.inr ⟨.inr (by omega), rfl⟩)))

def IsTail (b : UInt8) : Prop := 0x80 ≤ b.toNat ∧ b.toNat < 0xC0

/-- The bytes that spell a character, by its number: the least number of bytes that can hold it. -/
inductive Spells : List UInt8 → Nat → Prop where
  | one {a : UInt8} (small : a.toNat < 0x80) : Spells [a] a.toNat
  | two {a b : UInt8} {n : Nat} (lead : 0xC0 ≤ a.toNat) (b_tail : IsTail b)
      (value : n = (a.toNat - 0xC0) * 64 + (b.toNat - 0x80)) (least : 0x80 ≤ n) (most : n < 0x800) :
      Spells [a, b] n
  | three {a b c : UInt8} {n : Nat} (lead : 0xE0 ≤ a.toNat) (b_tail : IsTail b) (c_tail : IsTail c)
      (value : n = ((a.toNat - 0xE0) * 64 + (b.toNat - 0x80)) * 64 + (c.toNat - 0x80))
      (least : 0x800 ≤ n) (most : n < 0x10000) (whole : n < 0xD800 ∨ 0xDFFF < n) : Spells [a, b, c] n
  | four {a b c d : UInt8} {n : Nat} (lead : 0xF0 ≤ a.toNat) (b_tail : IsTail b) (c_tail : IsTail c)
      (d_tail : IsTail d)
      (value : n = (((a.toNat - 0xF0) * 64 + (b.toNat - 0x80)) * 64 + (c.toNat - 0x80)) * 64 + (d.toNat - 0x80))
      (least : 0x10000 ≤ n) (most : n < 0x110000) : Spells [a, b, c, d] n

namespace Spells

theorem isValidChar {bytes : List UInt8} {n : Nat} (spelled : Spells bytes n) : n.isValidChar := by
  cases spelled with
  | one small => exact .inl (by omega)
  | two _ _ _ _ most => exact .inl (by omega)
  | three _ _ _ _ _ most whole =>
    rcases whole with below | above
    · exact .inl below
    · exact .inr ⟨above, by omega⟩
  | four _ _ _ _ _ least most => exact .inr ⟨by omega, most⟩

theorem utf8EncodeChar_ofNat {bytes : List UInt8} {n : Nat} (spelled : Spells bytes n) :
    String.utf8EncodeChar (Char.ofNat n) = bytes := by
  have number : (Char.ofNat n).val.toNat = n := by
    rw [Char.ofNat, dif_pos spelled.isValidChar]
    rfl
  have byte : ∀ {k : Nat} {b : UInt8}, k = b.toNat → UInt8.ofNat k = b := by
    rintro _ b rfl
    exact UInt8.ofNat_toNat
  unfold String.utf8EncodeChar
  rw [number]
  cases spelled with
  | one small => rw [if_pos (by omega), UInt8.ofNat_toNat]
  | two lead b_tail value least most =>
    unfold IsTail at b_tail
    rw [if_neg (by omega), if_pos (by omega)]
    congr 1
    · exact byte (by omega)
    · exact congrArg (List.cons · _) (byte (by omega))
  | three lead b_tail c_tail value least most whole =>
    unfold IsTail at b_tail c_tail
    rw [if_neg (by omega), if_neg (by omega), if_pos (by omega)]
    congr 1
    · exact byte (by omega)
    congr 1
    · exact byte (by omega)
    · exact congrArg (List.cons · _) (byte (by omega))
  | four lead b_tail c_tail d_tail value least most =>
    unfold IsTail at b_tail c_tail d_tail
    rw [if_neg (by omega), if_neg (by omega), if_neg (by omega)]
    congr 1
    · exact byte (by omega)
    congr 1
    · exact byte (by omega)
    congr 1
    · exact byte (by omega)
    · exact congrArg (List.cons · _) (byte (by omega))

theorem utf8EncodeChar (c : Char) : Spells (String.utf8EncodeChar c) c.toNat := by
  have valid : c.val.toNat < 0xD800 ∨ 0xDFFF < c.val.toNat ∧ c.val.toNat < 0x110000 := c.valid
  have same : c.toNat = c.val.toNat := rfl
  have number : ∀ {k : Nat}, k < 256 → (UInt8.ofNat k).toNat = k := by
    intro k small
    rw [UInt8.toNat_ofNat', Nat.mod_eq_of_lt small]
  have tail : ∀ k : Nat, IsTail (UInt8.ofNat (k % 0x40 + 0x80)) := by
    intro k
    unfold IsTail
    rw [number (by omega)]
    omega
  unfold String.utf8EncodeChar
  rw [same]
  generalize c.val.toNat = n at valid
  dsimp only
  split
  · have spelled : Spells [UInt8.ofNat n] (UInt8.ofNat n).toNat := .one (by rw [number (by omega)]; omega)
    rwa [number (by omega)] at spelled
  split
  · refine .two ?_ (tail n) ?_ (by omega) (by omega)
    · rw [number (by omega)]
      omega
    · rw [number (by omega), number (by omega)]
      omega
  split
  · refine .three ?_ (tail (n / 64)) (tail n) ?_ (by omega) (by omega) (by omega)
    · rw [number (by omega)]
      omega
    · rw [number (by omega), number (by omega), number (by omega)]
      omega
  · refine .four ?_ (tail (n / 4096)) (tail (n / 64)) (tail n) ?_ (by omega) (by omega)
    · rw [number (by omega)]
      omega
    · rw [number (by omega), number (by omega), number (by omega), number (by omega)]
      omega

end Spells

theorem between_tail_iff {b : UInt8} : Between 0x80 0xBF b ↔ IsTail b := by
  simp only [Between, IsTail, UInt8.reduceToNat]
  omega

/-- Some bytes that begin a character have a tighter bound for the next on one side. -/
theorem between_ite_iff {b : UInt8} {s t : Prop} [Decidable s] [Decidable t] (low high : UInt8)
    (least : 0x80 ≤ low.toNat) (most : high.toNat < 0xC0) :
    Between (if s then low else 0x80) (if t then high else 0xBF) b ↔
      IsTail b ∧ (s → low.toNat ≤ b.toNat) ∧ (t → b.toNat ≤ high.toNat) := by
  by_cases raised : s <;> by_cases lowered : t <;>
    simp only [Between, IsTail, raised, lowered, ↓reduceIte, true_implies, false_implies, and_true, true_and,
      UInt8.reduceToNat] <;>
    omega

theorem decodeFrom_spelled {bytes : List UInt8} {n : Nat} (spelled : Spells bytes n) (rest : List UInt8) :
    decodeFrom none (bytes ++ rest) = (Char.ofNat n :: ·) <$> decodeFrom none rest := by
  cases spelled with
  | @one a small =>
    rcases readLead_cases a with ⟨_, lead⟩ | ⟨_, _, _⟩ | ⟨_, _, _⟩ | ⟨_, _, _⟩ | ⟨_, _⟩
    case inl => exact decodeFrom_char rest lead
    all_goals omega
  | @two a b _ first b_tail value least most =>
    have bounds := b_tail
    unfold IsTail at bounds
    rcases readLead_cases a with ⟨_, _⟩ | ⟨_, _, lead⟩ | ⟨_, _, _⟩ | ⟨_, _, _⟩ | ⟨_, _⟩
    case inr.inl =>
      simp only [List.cons_append, List.nil_append]
      rw [decodeFrom_lead _ lead, decodeFrom_last _ (between_tail_iff.mpr b_tail), value]
    all_goals omega
  | @three a b c _ first b_tail c_tail value least most whole =>
    have bounds := And.intro b_tail c_tail
    unfold IsTail at bounds
    rcases readLead_cases a with ⟨_, _⟩ | ⟨_, _, _⟩ | ⟨_, _, lead⟩ | ⟨_, _, _⟩ | ⟨_, _⟩
    case inr.inr.inl =>
      have taken := (between_ite_iff 0xA0 0x9F (by decide) (by decide)).mpr
        ⟨b_tail, fun (_ : a.toNat = 0xE0) => by simp only [UInt8.reduceToNat]; omega,
          fun (_ : a.toNat = 0xED) => by simp only [UInt8.reduceToNat]; omega⟩
      simp only [List.cons_append, List.nil_append]
      rw [decodeFrom_lead _ lead, decodeFrom_more _ taken, decodeFrom_last _ (between_tail_iff.mpr c_tail), value]
    all_goals omega
  | @four a b c d _ first b_tail c_tail d_tail value least most =>
    have bounds := And.intro b_tail (And.intro c_tail d_tail)
    unfold IsTail at bounds
    rcases readLead_cases a with ⟨_, _⟩ | ⟨_, _, _⟩ | ⟨_, _, _⟩ | ⟨_, _, lead⟩ | ⟨_, _⟩
    case inr.inr.inr.inl =>
      have taken := (between_ite_iff 0x90 0x8F (by decide) (by decide)).mpr
        ⟨b_tail, fun (_ : a.toNat = 0xF0) => by simp only [UInt8.reduceToNat]; omega,
          fun (_ : a.toNat = 0xF4) => by simp only [UInt8.reduceToNat]; omega⟩
      simp only [List.cons_append, List.nil_append]
      rw [decodeFrom_lead _ lead, decodeFrom_more _ taken, decodeFrom_more _ (between_tail_iff.mpr c_tail),
        decodeFrom_last _ (between_tail_iff.mpr d_tail), value]
    all_goals omega

/-- Bytes that decode begin with the bytes of the first character. -/
theorem exists_spelled_of_decodeFrom {a : UInt8} {bytes : List UInt8} {cs : List Char}
    (decoded : decodeFrom none (a :: bytes) = some cs) :
    ∃ front n rest, Spells front n ∧ a :: bytes = front ++ rest := by
  rcases readLead_cases a with ⟨small, -⟩ | ⟨least, most, lead⟩ | ⟨least, most, lead⟩ | ⟨least, most, lead⟩ |
    ⟨-, lead⟩
  · exact ⟨[a], a.toNat, bytes, .one small, rfl⟩
  · rw [decodeFrom_lead _ lead] at decoded
    obtain ⟨b, rest, rfl, taken⟩ := decodeFrom_begun_eq_some decoded
    have b_tail := between_tail_iff.mp taken
    have bounds := b_tail
    unfold IsTail at bounds
    exact ⟨[a, b], _, rest, .two (by omega) b_tail rfl (by omega) (by omega), rfl⟩
  · rw [decodeFrom_lead _ lead] at decoded
    obtain ⟨b, rest, rfl, taken⟩ := decodeFrom_begun_eq_some decoded
    rw [decodeFrom_more _ taken] at decoded
    obtain ⟨c, rest, rfl, c_taken⟩ := decodeFrom_begun_eq_some decoded
    obtain ⟨b_tail, low, high⟩ := (between_ite_iff 0xA0 0x9F (by decide) (by decide)).mp taken
    have c_tail := between_tail_iff.mp c_taken
    have bounds := And.intro b_tail c_tail
    simp only [UInt8.reduceToNat] at low high
    unfold IsTail at bounds
    exact ⟨[a, b, c], _, rest, .three (by omega) b_tail c_tail rfl (by omega) (by omega) (by omega), rfl⟩
  · rw [decodeFrom_lead _ lead] at decoded
    obtain ⟨b, rest, rfl, taken⟩ := decodeFrom_begun_eq_some decoded
    rw [decodeFrom_more _ taken] at decoded
    obtain ⟨c, rest, rfl, c_taken⟩ := decodeFrom_begun_eq_some decoded
    rw [decodeFrom_more _ c_taken] at decoded
    obtain ⟨d, rest, rfl, d_taken⟩ := decodeFrom_begun_eq_some decoded
    obtain ⟨b_tail, low, high⟩ := (between_ite_iff 0x90 0x8F (by decide) (by decide)).mp taken
    have c_tail := between_tail_iff.mp c_taken
    have d_tail := between_tail_iff.mp d_taken
    have bounds := And.intro b_tail (And.intro c_tail d_tail)
    simp only [UInt8.reduceToNat] at low high
    unfold IsTail at bounds
    exact ⟨[a, b, c, d], _, rest, .four (by omega) b_tail c_tail d_tail rfl (by omega) (by omega), rfl⟩
  · rw [decodeFrom_malformed _ lead] at decoded
    cases decoded

theorem decodeFrom_encoded (cs : List Char) : decodeFrom none (cs.flatMap String.utf8EncodeChar) = some cs := by
  induction cs with
  | nil => rfl
  | cons c cs ih =>
    rw [List.flatMap_cons, decodeFrom_spelled (.utf8EncodeChar c), ih, Char.ofNat_toNat]
    rfl

theorem eq_encoded_of_decodeFrom {bytes : List UInt8} {cs : List Char}
    (decoded : decodeFrom none bytes = some cs) : bytes = cs.flatMap String.utf8EncodeChar := by
  -- By the length, since a character takes up to four bytes at once.
  induction length : bytes.length using Nat.strongRecOn generalizing bytes cs with
  | _ size ih =>
    cases bytes with
    | nil =>
      cases decoded
      rfl
    | cons a bytes =>
      obtain ⟨front, n, rest, spelled, split⟩ := exists_spelled_of_decodeFrom decoded
      rw [split, decodeFrom_spelled spelled] at decoded
      obtain ⟨tail, rest_decoded, rfl⟩ := Option.map_eq_some_iff.mp decoded
      have shorter : rest.length < size := by
        have nonempty : 0 < front.length := by cases spelled <;> exact Nat.succ_pos _
        rw [← length, split, List.length_append]
        omega
      rw [split, List.flatMap_cons, spelled.utf8EncodeChar_ofNat, ← ih _ shorter rest_decoded rfl]

/-- Bytes are read as a text exactly if they are its encoding. -/
theorem decode?_eq_some_iff {bytes : ByteArray} {cs : List Char} :
    decode? bytes = some cs ↔ bytes = cs.utf8Encode := by
  constructor
  · intro decoded
    have same := eq_encoded_of_decodeFrom decoded
    rw [List.utf8Encode, ← same]
    exact ByteArray.ext (by rw [List.data_toByteArray, Array.toArray_toList])
  · rintro rfl
    rw [decode?, glyphs, List.utf8Encode, List.toList_data_toByteArray]
    exact decodeFrom_encoded cs

theorem decode?_eq_none_iff {bytes : ByteArray} : decode? bytes = none ↔ ¬ bytes.IsValidUTF8 := by
  constructor
  · rintro undecoded ⟨cs, encoded⟩
    rw [decode?_eq_some_iff.mpr encoded] at undecoded
    cases undecoded
  · intro invalid
    rw [Option.eq_none_iff_forall_ne_some]
    exact fun cs decoded => invalid ⟨cs, decode?_eq_some_iff.mp decoded⟩

end SliceGrowth.Text
