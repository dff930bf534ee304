import ParticipantRegistry.Text.Blank

/-!
# Required texts

Records are named by texts that may not be blank. `BlankField` names the field of a record that is.
-/

namespace ParticipantRegistry

structure BlankField where
  name : Text
  deriving DecidableEq

def BlankField.message (e : BlankField) : Text := e.name ++ " must not be blank"

def requireTexts : List (Text × Text) → Except BlankField Unit
  | [] => .ok ()
  | (name, value) :: rest => if value.isBlank then .error ⟨name⟩ else requireTexts rest

theorem requireTexts_eq_ok_iff (fields : List (Text × Text)) :
    requireTexts fields = .ok () ↔ ∀ f ∈ fields, f.2.isBlank = false := by
  induction fields with
  | nil => simp [requireTexts]
  | cons f fields ih =>
    obtain ⟨name, value⟩ := f
    by_cases h : value.isBlank = true <;> simp [requireTexts, h, ih]

/-- A record type whose values carry their own key. -/
class Keyed (α : Type) (κ : outParam Type) where
  key : α → κ

export Keyed (key)

end ParticipantRegistry
