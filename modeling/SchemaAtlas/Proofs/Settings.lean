import SchemaAtlas.Settings
import SchemaAtlas.Proofs.Outcome

/-!
# Settings that may be used

The checks of settings report the first one that fails.  All of them pass
exactly if no text that is asked for is blank, there is an extension, and some
lookup may be open.  A title and a banner may be anything.
-/

namespace SchemaAtlas

/-- The text has something else than white space. -/
def Text.NotBlank (text : String) : Prop :=
  ∃ letter ∈ text.toList, isBlank letter = false

theorem Text.isBlankText_eq_false_iff {text : String} :
    isBlankText text = false ↔ NotBlank text := by
  rw [isBlankText, List.all_eq_false, NotBlank]
  simp only [Bool.not_eq_true]

namespace Check

variable {field : String}

/-- Two checks, one after the other. -/
theorem bind_eq_ok_iff
    (first : Except Failure Unit) (next : Unit → Except Failure Unit) :
    first >>= next = .ok () ↔ first = .ok () ∧ next () = .ok () := by
  rw [Except.bind_eq_ok_iff]
  constructor
  · rintro ⟨⟨⟩, passes, nextPasses⟩
    exact ⟨passes, nextPasses⟩
  · rintro ⟨passes, nextPasses⟩
    exact ⟨(), passes, nextPasses⟩

theorem positive_eq_ok_iff {value : Nat} :
    positive field value = .ok () ↔ 0 < value := by
  rw [positive, Nat.pos_iff_ne_zero]
  split
  · simp_all
  · simp_all

theorem notBlank_eq_ok_iff {value : String} :
    notBlank field value = .ok () ↔ Text.NotBlank value := by
  rw [← Text.isBlankText_eq_false_iff, notBlank]
  cases Text.isBlankText value with
  | true => simp
  | false => simp

/-- Each of the values passes the check, or the first that does not is told. -/
theorem forM_notBlank_eq_ok_iff {values : List String} :
    values.forM (notBlank field) = .ok () ↔
      ∀ value ∈ values, Text.NotBlank value := by
  induction values with
  | nil => exact iff_of_true rfl (List.forall_mem_nil _)
  | cons value rest induction =>
      rw [List.forall_mem_cons, ← induction]
      exact (bind_eq_ok_iff _ _).trans
        (and_congr_left' notBlank_eq_ok_iff)

theorem entries_eq_ok_iff {values : List String} :
    entries field values = .ok () ↔
      values ≠ [] ∧ ∀ value ∈ values, Text.NotBlank value := by
  rw [entries]
  cases values with
  | nil => simp
  | cons value rest =>
      rw [List.isEmpty_cons, if_neg Bool.false_ne_true,
        forM_notBlank_eq_ok_iff]
      exact (and_iff_right (List.cons_ne_nil value rest)).symm

end Check

/-- The settings are in order. -/
structure ExportSettings.Valid (settings : ExportSettings) : Prop where
  fileName : Text.NotBlank settings.defaultFileName
  filterName : Text.NotBlank settings.filterName
  anyExtension : settings.extensions ≠ []
  extensions : ∀ extension ∈ settings.extensions, Text.NotBlank extension
  limit : 0 < settings.maxConcurrent

theorem ExportSettings.validate_eq_ok_iff (settings : ExportSettings) :
    settings.validate = .ok () ↔ settings.Valid := by
  simp only [validate, Check.bind_eq_ok_iff, Check.notBlank_eq_ok_iff,
    Check.entries_eq_ok_iff, Check.positive_eq_ok_iff]
  constructor
  · rintro ⟨fileName, filterName, ⟨any, extensions⟩, limit⟩
    exact ⟨fileName, filterName, any, extensions, limit⟩
  · rintro ⟨fileName, filterName, any, extensions, limit⟩
    exact ⟨fileName, filterName, ⟨any, extensions⟩, limit⟩

theorem Settings.validate_eq_ok_iff (settings : Settings) :
    settings.validate = .ok () ↔ settings.exporting.Valid := by
  rw [Settings.validate, ← ExportSettings.validate_eq_ok_iff]
  cases settings.exporting.validate with
  | ok passed => simp
  | error failure => simp

end SchemaAtlas
