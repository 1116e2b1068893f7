import Crosscheck.Duration

/-!
# Crosscheck.Error

**What can go wrong, by cause.** `CheckError` is everything that stops a check from being set up or
evaluated; `ExecutionFailure` is why one kernel on one device gave no comparable output. The second
kind is always local to its point: it is recorded in the report and never stops a run.
-/

namespace Crosscheck

/-- Why a check cannot be set up or evaluated. -/
inductive CheckError where
  /-- A file cannot be read. -/
  | unreadableInput (detail : String)
  /-- A text is not YAML, or not of the expected shape. -/
  | invalidYaml (detail : String)
  /-- A point filter is not a pattern. -/
  | invalidFilter (detail : String)
  /-- A template has a placeholder that nothing binds. -/
  | unresolvedPlaceholder (template placeholder : String)
  /-- An operation is not defined for a type. -/
  | unsupportedCombination (operation type : String)
  /-- A template breaks a rule. -/
  | malformedTemplate (id reason : String)
  /-- Two templates have one identifier. -/
  | duplicateTemplate (id : String)
  /-- A catalog lacks types, or operations. -/
  | emptyCatalog (part : String)
  /-- A type's byte size does not spell its width. -/
  | invalidType (name : String) (bits : Nat) (bytes : UInt32)
  /-- An operation got the wrong number of operands. -/
  | operandCount (operation : String) (expected actual : Nat)
  /-- A bit-field operation got no field. -/
  | missingBitField (operation : String)
  /-- An operation has no meaning at a width; no catalogued combination leads here. -/
  | undefinedSemantics (operation : String) (bits : Nat)
  deriving DecidableEq, Repr

/-- What is said about an error. -/
def CheckError.message : CheckError → String
  | .unreadableInput detail => "Failed to read template input: " ++ detail
  | .invalidYaml detail => "Failed to parse YAML: " ++ detail
  | .invalidFilter detail => "Invalid point filter: " ++ detail
  | .unresolvedPlaceholder template placeholder =>
    "Template " ++ template ++ " references unresolved placeholder <" ++ placeholder ++ ">"
  | .unsupportedCombination operation type =>
    "Operation " ++ operation ++ " does not support type " ++ type
  | .malformedTemplate id reason => "Malformed template " ++ id ++ ": " ++ reason
  | .duplicateTemplate id => "Duplicate template ID: " ++ id
  | .emptyCatalog part => "Registry has no " ++ part
  | .invalidType name bits bytes =>
    "Type profile " ++ name ++ " declares " ++ toString bytes.toNat ++ " byte(s) for "
      ++ toString bits ++ " bit(s)"
  | .operandCount operation expected actual =>
    "Operation " ++ operation ++ " expects " ++ toString expected ++ " operand(s), got "
      ++ toString actual
  | .missingBitField operation =>
    "Operation " ++ operation ++ " requires a bit-field position and length"
  | .undefinedSemantics operation bits =>
    "Operation " ++ operation ++ " has no meaning for " ++ toString bits ++ " bit(s)"

/-- Why a kernel produced no comparable output. -/
inductive ExecutionFailure where
  /-- The deadline passed. -/
  | timeout (after : Duration)
  /-- The device reported an error, or cannot be talked to. -/
  | driver (reason : String)
  /-- The device went away without an answer. -/
  | disconnected
  /-- No worker could be started for the call. -/
  | spawn (reason : String)
  /-- An output buffer was not returned. -/
  | missingOutput (name : String)
  /-- An output buffer has the wrong number of elements. -/
  | outputShape (name : String) (expected actual : Nat)
  deriving DecidableEq

/-- What is said about a failure. -/
def ExecutionFailure.message : ExecutionFailure → String
  | .timeout after => "timeout after " ++ after.text
  | .driver reason => "driver error: " ++ reason
  | .disconnected => "driver terminated without a response"
  | .spawn reason => "failed to start driver worker: " ++ reason
  | .missingOutput name => "output buffer " ++ name ++ " missing from driver response"
  | .outputShape name expected actual =>
    "output buffer " ++ name ++ " has " ++ toString actual ++ " element(s), expected "
      ++ toString expected

end Crosscheck
