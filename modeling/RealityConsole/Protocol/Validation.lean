import RealityConsole.Framework.Outcome

/-!
# Validation errors of the control protocol

Every participant reports a refused protocol value with a stable failure class,
the field it checked and a fixed diagnostic.
-/

namespace RealityConsole.Protocol

open Framework

/-- Stable machine-readable validation failure classes. -/
inductive ValidationCode where
  | missingField
  | outOfRange
  | invalidFormat
  | unsupportedSchema
  | identityMismatch
  | staleState
  | inconsistentState
  | duplicateIdentity
  | sequenceGap
  | invalidTransition
  deriving DecidableEq, Repr

structure ProtocolValidationError where
  /-- The failure class. -/
  code : ValidationCode
  /-- The protocol field the check was about. -/
  field : String
  /-- The fixed diagnostic. -/
  message : String
  deriving DecidableEq, Repr

abbrev Checked := Except ProtocolValidationError

/-- `require_present`: the field must be there in this result state. -/
def requirePresent {α : Type} (value : Option α) (field : String) : Checked Unit :=
  refuseWhen value.isNone
    ⟨.missingField, field, "field is required for this revision result state"⟩

/-- `require_absent`: the field must not be there in this result state. -/
def requireAbsent {α : Type} (value : Option α) (field : String) : Checked Unit :=
  refuseWhen value.isSome
    ⟨.inconsistentState, field, "field is not permitted for this revision result state"⟩

end RealityConsole.Protocol
