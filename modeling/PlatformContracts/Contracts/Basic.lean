import PlatformContracts.Lib.Check

/-!
# Identifiers, errors and bounds (`platform-contracts-v0/src/{lib,ids,error}.rs`)

* `ContractError`, `validateNonemptyBounded`: the error of the envelopes and their common check.
  Lengths are in bytes of UTF-8 (`bytes`).
* `Identifier`: the identifiers of the `identifier!` macro. The string is private there and built
  by `new` only, so the structure carries the validity.
* `ContentDigest`: its fields are public, so a digest may be invalid.
* `ServiceErrorV0` and its `validate`.
-/

namespace Platform
namespace Contracts

/-- `value.bytes()`; `value.len()` is the length. -/
def bytes (value : String) : List UInt8 := value.toUTF8.data.toList

theorem bytes_ofList (l : List Char) :
    bytes (String.ofList l) = l.flatMap String.utf8EncodeChar := by
  unfold bytes
  rw [String.toUTF8_eq_toByteArray, String.toByteArray_ofList]
  induction l with
  | nil => rfl
  | cons c l ih =>
    rw [List.utf8Encode_cons, List.utf8Encode_singleton, ByteArray.data_append,
      Array.toList_append, ih, List.flatMap_cons]
    congr 1
    simp

/-! ## Contract errors -/

inductive ContractError where
  | empty (field : String)
  | tooLong (field : String) (max : Nat)
  | invalid (field : String)
  | duplicate (field : String)
  | inconsistent (field : String)
  deriving DecidableEq, Repr

def validateNonemptyBounded (field value : String) (max : Nat) : Except ContractError Unit := do
  check (bytes value ≠ []) (.empty field)
  check ((bytes value).length ≤ max) (.tooLong field max)

/-! ## Identifiers -/

inductive IdentifierError where
  | empty
  | tooLong
  | invalidCharacter
  deriving DecidableEq, Repr

def maxIdentifierBytes : Nat := 256

/-- `byte.is_ascii_graphic()`. -/
def isAsciiGraphic (byte : UInt8) : Bool := 0x21 ≤ byte && byte ≤ 0x7E

/-- `byte.is_ascii_digit()`. -/
def isAsciiDigit (byte : UInt8) : Bool := 0x30 ≤ byte && byte ≤ 0x39

/-- `byte.is_ascii_lowercase()`. -/
def isAsciiLowercase (byte : UInt8) : Bool := 0x61 ≤ byte && byte ≤ 0x7A

def validateIdentifier (value : String) : Except IdentifierError Unit := do
  check (bytes value ≠ []) .empty
  check ((bytes value).length ≤ maxIdentifierBytes) .tooLong
  -- Neither `"` nor a backslash.
  check ((bytes value).all fun byte => isAsciiGraphic byte && !(byte == 0x22 || byte == 0x5C))
    .invalidCharacter

/-- An identifier of the `identifier!` macro. -/
structure Identifier where
  value : String
  valid : validateIdentifier value = .ok ()
  deriving DecidableEq

def Identifier.new (value : String) : Except IdentifierError Identifier :=
  match h : validateIdentifier value with
  | .ok () => .ok ⟨value, h⟩
  | .error e => .error e

abbrev OperationId := Identifier

abbrev AttemptId := Identifier

abbrev ServiceId := Identifier

/-! ## Digests -/

inductive DigestAlgorithm where
  | sha256
  deriving DecidableEq, Repr

structure ContentDigest where
  algorithm : DigestAlgorithm
  hex : String
  deriving DecidableEq, Repr

def validateSha256 (value : String) : Except IdentifierError Unit := do
  check ((bytes value).length = 64) .tooLong
  -- A digit, or `a` to `f`.
  check ((bytes value).all fun byte => isAsciiDigit byte || (0x61 ≤ byte && byte ≤ 0x66))
    .invalidCharacter

def ContentDigest.sha256 (hex : String) : Except IdentifierError ContentDigest := do
  validateSha256 hex
  pure { algorithm := .sha256, hex }

def ContentDigest.validate (digest : ContentDigest) : Except IdentifierError Unit :=
  match digest.algorithm with
  | .sha256 => validateSha256 digest.hex

/-! ## Service errors -/

def serviceErrorSchemaV0 : String := "delysis.service_error.v0"

inductive ErrorClass where
  | invalidRequest
  | unsupported
  | unavailable
  | permission
  | privacy
  | cancelled
  | timeout
  | resourceExhausted
  | integrity
  | publication
  | storage
  | worker
  | internal
  deriving DecidableEq, Repr

inductive RetryAdvice where
  | immediate
  | afterUserAction
  | afterRestart
  | differentRoute
  | never
  deriving DecidableEq, Repr

structure ServiceErrorV0 where
  schema : String
  code : String
  errorClass : ErrorClass
  retry : RetryAdvice
  operationId : Option OperationId
  service : ServiceId
  safeDetail : String
  deriving DecidableEq

/-- The parts between the dots are not empty and have lower-case letters, digits and underscores
only. `.` is one byte of UTF-8 and no part of another character. -/
def validateCode (code : String) : Except ContractError Unit := do
  validateNonemptyBounded "code" code 128
  check (((bytes code).splitOn 0x2E).all fun part =>
    part ≠ [] && part.all fun byte =>
      isAsciiLowercase byte || isAsciiDigit byte || byte == 0x5F) (.invalid "code")

def ServiceErrorV0.validate (error : ServiceErrorV0) : Except ContractError Unit := do
  check (error.schema = serviceErrorSchemaV0) (.invalid "schema")
  validateCode error.code
  validateNonemptyBounded "safe_detail" error.safeDetail 2048

end Contracts
end Platform
