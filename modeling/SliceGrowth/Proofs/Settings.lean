import SliceGrowth.Proofs.Text.Utf8
import SliceGrowth.Settings

/-!
How reading a configuration file can end. What there is at a path decides it: nothing that can be read, bytes that
are no text, a text that is no configuration, or a configuration. Only bytes that are no text are never passed
over or told as a problem of the file.
-/
namespace SliceGrowth.Settings

open Toml

section

variable (fs : FileSystem) (path : SlashPath)

def Holds (table : Table) : Prop :=
  ∃ cs : List Char, fs.read path = .ok cs.utf8Encode ∧ parse? (Text.unifyLineEnds cs) = some table

def Malformed : Prop :=
  ∃ cs : List Char, fs.read path = .ok cs.utf8Encode ∧ parse? (Text.unifyLineEnds cs) = none

def Undecodable : Prop := ∃ content, fs.read path = .ok content ∧ ¬ content.IsValidUTF8

theorem content_cases :
    (∃ cause, fs.read path = .error cause) ∨ Undecodable fs path ∨ Malformed fs path ∨
      ∃ table, Holds fs path table := by
  cases found : fs.read path with
  | error cause => exact .inl ⟨cause, rfl⟩
  | ok content =>
    by_cases valid : content.IsValidUTF8
    · obtain ⟨cs, rfl⟩ := valid
      cases parsed : parse? (Text.unifyLineEnds cs) with
      | none => exact .inr (.inr (.inl ⟨cs, found, parsed⟩))
      | some table => exact .inr (.inr (.inr ⟨table, cs, found, parsed⟩))
    · exact .inr (.inl ⟨content, found, valid⟩)

end

variable {fs : FileSystem} {path : SlashPath}

theorem readTable_of_unreadable {cause : ReadError} (found : fs.read path = .error cause) :
    readTable fs path = Run.fail (.config path (.unreadable cause)) := by
  simp only [readTable, found]

theorem readTable_of_undecodable (undecodable : Undecodable fs path) :
    readTable fs path = Run.fail (.defect .notUtf8) := by
  obtain ⟨content, found, invalid⟩ := undecodable
  simp only [readTable, found, Text.decode?_eq_none_iff.mpr invalid]

theorem readTable_of_malformed (malformed : Malformed fs path) :
    readTable fs path = Run.fail (.config path (.malformed malformedDetail)) := by
  obtain ⟨cs, found, unparsed⟩ := malformed
  simp only [readTable, found, Text.decode?_eq_some_iff.mpr rfl, unparsed]

theorem readTable_of_holds {table : Table} (holds : Holds fs path table) : readTable fs path = pure table := by
  obtain ⟨cs, found, parsed⟩ := holds
  simp only [readTable, found, Text.decode?_eq_some_iff.mpr rfl, parsed]

theorem exists?_of_read {content : ByteArray} (found : fs.read path = .ok content) : fs.exists? path = true := by
  unfold FileSystem.read at found
  unfold FileSystem.exists?
  cases got : fs.get path with
  | error cause =>
    rw [got] at found
    cases found
  | ok tree => rfl

theorem readImplicit_of_unreadable {cause : ReadError} (found : fs.read path = .error cause) :
    (readImplicit fs path).outcome = .ok [] := by
  unfold readImplicit
  split
  · rw [readTable_of_unreadable found]
    rfl
  · rfl

theorem readImplicit_of_malformed (malformed : Malformed fs path) : (readImplicit fs path).outcome = .ok [] := by
  have ⟨_, found, _⟩ := malformed
  rw [readImplicit, if_pos (exists?_of_read found), readTable_of_malformed malformed]
  rfl

theorem readImplicit_of_undecodable (undecodable : Undecodable fs path) :
    (readImplicit fs path).outcome = .error (.defect .notUtf8) := by
  have ⟨_, found, _⟩ := undecodable
  rw [readImplicit, if_pos (exists?_of_read found), readTable_of_undecodable undecodable]
  rfl

theorem readImplicit_of_holds {table : Table} (holds : Holds fs path table) :
    (readImplicit fs path).outcome = .ok table := by
  have ⟨_, found, _⟩ := holds
  rw [readImplicit, if_pos (exists?_of_read found), readTable_of_holds holds]
  rfl

theorem readTable_ok_iff {table : Table} : (readTable fs path).outcome = .ok table ↔ Holds fs path table := by
  refine ⟨fun returned => ?_, fun holds => by rw [readTable_of_holds holds]; rfl⟩
  rcases content_cases fs path with ⟨cause, unreadable⟩ | undecodable | malformed | ⟨held, holds⟩
  · cases (readTable_of_unreadable unreadable) ▸ returned
  · cases (readTable_of_undecodable undecodable) ▸ returned
  · cases (readTable_of_malformed malformed) ▸ returned
  · cases (readTable_of_holds holds) ▸ returned
    exact holds

theorem readTable_error_iff {failure : Failure} :
    (readTable fs path).outcome = .error failure ↔
      (∃ cause, fs.read path = .error cause ∧ failure = .config path (.unreadable cause)) ∨
      (Malformed fs path ∧ failure = .config path (.malformed malformedDetail)) ∨
      (Undecodable fs path ∧ failure = .defect .notUtf8) := by
  constructor
  · intro failed
    rcases content_cases fs path with ⟨cause, unreadable⟩ | undecodable | malformed | ⟨held, holds⟩
    · cases (readTable_of_unreadable unreadable) ▸ failed
      exact .inl ⟨cause, unreadable, rfl⟩
    · cases (readTable_of_undecodable undecodable) ▸ failed
      exact .inr (.inr ⟨undecodable, rfl⟩)
    · cases (readTable_of_malformed malformed) ▸ failed
      exact .inr (.inl ⟨malformed, rfl⟩)
    · cases (readTable_of_holds holds) ▸ failed
  · rintro (⟨cause, unreadable, rfl⟩ | ⟨malformed, rfl⟩ | ⟨undecodable, rfl⟩)
    · rw [readTable_of_unreadable unreadable]
      rfl
    · rw [readTable_of_malformed malformed]
      rfl
    · rw [readTable_of_undecodable undecodable]
      rfl

theorem readImplicit_ok_iff {table : Table} :
    (readImplicit fs path).outcome = .ok table ↔
      Holds fs path table ∨ (Malformed fs path ∨ ∃ cause, fs.read path = .error cause) ∧ table = [] := by
  constructor
  · intro returned
    rcases content_cases fs path with unreadable | undecodable | malformed | ⟨held, holds⟩
    · obtain ⟨cause, found⟩ := unreadable
      cases (readImplicit_of_unreadable found) ▸ returned
      exact .inr ⟨.inr ⟨cause, found⟩, rfl⟩
    · cases (readImplicit_of_undecodable undecodable) ▸ returned
    · cases (readImplicit_of_malformed malformed) ▸ returned
      exact .inr ⟨.inl malformed, rfl⟩
    · cases (readImplicit_of_holds holds) ▸ returned
      exact .inl holds
  · rintro (holds | ⟨malformed | ⟨cause, found⟩, rfl⟩)
    · exact readImplicit_of_holds holds
    · exact readImplicit_of_malformed malformed
    · exact readImplicit_of_unreadable found

theorem readImplicit_error_iff {failure : Failure} :
    (readImplicit fs path).outcome = .error failure ↔ Undecodable fs path ∧ failure = .defect .notUtf8 := by
  constructor
  · intro failed
    rcases content_cases fs path with ⟨cause, found⟩ | undecodable | malformed | ⟨held, holds⟩
    · cases (readImplicit_of_unreadable found) ▸ failed
    · cases (readImplicit_of_undecodable undecodable) ▸ failed
      exact ⟨undecodable, rfl⟩
    · cases (readImplicit_of_malformed malformed) ▸ failed
    · cases (readImplicit_of_holds holds) ▸ failed
  · rintro ⟨undecodable, rfl⟩
    exact readImplicit_of_undecodable undecodable

/-- Settings are loaded, or given up, as what the file holds has it. A named file gives its table or a problem of
that file, and the usual file its table or an empty one, but for bytes that are no text: these end both with a
defect. -/
theorem load_breaks_on_undecodable (fs : FileSystem) (root : Option SlashPath) :
    (∀ path table, (load fs root (some path)).outcome = .ok table ↔ Holds fs path table) ∧
    (∀ path failure, (load fs root (some path)).outcome = .error failure ↔
      (∃ cause, fs.read path = .error cause ∧ failure = .config path (.unreadable cause)) ∨
      (Malformed fs path ∧ failure = .config path (.malformed malformedDetail)) ∨
      (Undecodable fs path ∧ failure = .defect .notUtf8)) ∧
    let usual := (root.getD fs.workingPath).child configName
    (∀ table, (load fs root none).outcome = .ok table ↔
      Holds fs usual table ∨ (Malformed fs usual ∨ ∃ cause, fs.read usual = .error cause) ∧ table = []) ∧
    ∀ failure, (load fs root none).outcome = .error failure ↔
      Undecodable fs usual ∧ failure = .defect .notUtf8 := by
  refine ⟨?_, ?_, ?_, ?_⟩
  · intro path table
    exact readTable_ok_iff
  · intro path failure
    exact readTable_error_iff
  · intro table
    exact readImplicit_ok_iff
  · intro failure
    exact readImplicit_error_iff

/-- A folder with a configuration file of one byte that no text has. -/
def undecodableSystem : FileSystem where
  root := .folder [(configName, .file ⟨#[0xFF]⟩)]

theorem undecodable_settings_break :
    (load undecodableSystem none none).outcome = .error (.defect .notUtf8) ∧
      (load undecodableSystem none (some (.ofString configName))).outcome = .error (.defect .notUtf8) := by
  constructor <;> rfl

end SliceGrowth.Settings
