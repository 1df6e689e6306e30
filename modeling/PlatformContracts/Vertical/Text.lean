import PlatformContracts.Vertical.Model

/-!
# Checks of strings (`platform-vertical-fixtures-v0/src/validation.rs`)

`ValidationError` and the validators of identifiers, texts, paths, arguments and names. They look
at the bytes of UTF-8; the separators that they split at are single bytes there, and no part of
another character.
-/

namespace Platform
namespace Vertical

open Contracts

inductive ValidationError where
  | empty (field : String)
  | invalid (field : String)
  | duplicate (field : String)
  | inconsistent (field : String)
  | digestMismatch (field : String)
  | lengthMismatch (field : String)
  | invalidProjectionJson (message : String)
  | invalidManifestJson (message : String)
  | projectionMismatch
  | missingCase (caseId : String)
  | missingVerticals (rows : List VerticalIdV0)
  deriving DecidableEq, Repr

/-- The result of a validator. -/
abbrev Validated := Except ValidationError Unit

def maxIdBytes : Nat := 256

def maxTextBytes : Nat := 4096

/-- `byte.is_ascii_uppercase()`. -/
def isAsciiUppercase (byte : UInt8) : Bool := 0x41 ≤ byte && byte ≤ 0x5A

/-- `byte.is_ascii_alphanumeric()`. -/
def isAsciiAlphanumeric (byte : UInt8) : Bool :=
  isAsciiDigit byte || isAsciiUppercase byte || isAsciiLowercase byte

/-- `byte.to_ascii_uppercase()`. -/
def toAsciiUppercase (byte : UInt8) : UInt8 :=
  if isAsciiLowercase byte then byte - 0x20 else byte

def validateSafeId (field value : String) : Validated := do
  check (bytes value ≠ []) (.empty field)
  -- Neither `"` nor a backslash.
  check ((bytes value).length ≤ maxIdBytes ∧
    (bytes value).all fun byte => isAsciiGraphic byte && !(byte == 0x22 || byte == 0x5C))
    (.invalid field)

/-- An identifier is safe whatever the field is that names it in an error. -/
theorem validateSafeId_field {field field' value : String}
    (h : validateSafeId field value = .ok ()) : validateSafeId field' value = .ok () := by
  simp only [validateSafeId, unit_bind_eq_ok, check_eq_ok] at h ⊢
  exact h

def validateText (field value : String) : Validated := do
  check (bytes value ≠ []) (.empty field)
  check ((bytes value).length ≤ maxTextBytes ∧ 0x00 ∉ bytes value) (.invalid field)

def validateUniqueText (field : String) (values : List String) : Validated :=
  checkUnique (validateText field) id (.duplicate field) values

def validateUniqueById {α : Type} (field : String) (values : List α) (id : α → String)
    (validate : α → Validated) : Validated :=
  checkUnique validate id (.duplicate field) values

/-- Two parts, neither empty. -/
def isOwnerAndRepository : List (List UInt8) → Bool
  | [owner, repository] => owner ≠ [] && repository ≠ []
  | _ => false

/-- One `/` between letters, digits, `.`, `_` and `-`. -/
def validateRepositoryId (value : String) : Validated := do
  validateSafeId "source.repository_id" value
  check (isOwnerAndRepository ((bytes value).splitOn 0x2F) ∧
    (bytes value).all fun byte => isAsciiAlphanumeric byte ||
      (byte == 0x2E || byte == 0x5F || byte == 0x2D || byte == 0x2F))
    (.invalid "source.repository_id")

/-- 40 digits and letters `a` to `f`. -/
def validateGitCommit (field value : String) : Validated :=
  check ((bytes value).length = 40 ∧
    (bytes value).all fun byte => isAsciiDigit byte || (0x61 ≤ byte && byte ≤ 0x66))
    (.invalid field)

/-- No component between the slashes is empty, `.` or `..`, and there is no backslash. -/
def validateRelativePath (value : String) : Validated :=
  check (¬(bytes value = [] ∨ (bytes value).length > 1024 ∨ (bytes value).head? = some 0x2F ∨
    (bytes value).getLast? = some 0x2F ∨ 0x5C ∈ bytes value ∨
    ¬(bytes value).all isAsciiGraphic ∨
    ((bytes value).splitOn 0x2F).any fun component =>
      component = [] || component = bytes "." || component = bytes ".."))
    (.invalid "relative_path")

/-- No NUL, line feed or carriage return. -/
def validateArgument (value : String) : Validated :=
  check (¬(bytes value = [] ∨ (bytes value).length > maxTextBytes ∨ 0x00 ∈ bytes value ∨
    0x0A ∈ bytes value ∨ 0x0D ∈ bytes value)) (.invalid "replay.argv")

/-- Upper-case letters, digits and `_`, with no digit first. -/
def validateEnvironmentName (value : String) : Validated :=
  match bytes value with
  | [] => .error (.empty "replay.required_environment")
  | first :: rest =>
    check (¬((bytes value).length > 128 ∨ ¬(isAsciiUppercase first || first == 0x5F) ∨
      ¬rest.all fun byte => isAsciiUppercase byte || isAsciiDigit byte || byte == 0x5F))
      (.invalid "replay.required_environment")

/-- Names that look like a secret: a part between underscores, or a part of the whole. -/
def rejectAuthorityName (field value : String) : Validated :=
  let upper := (bytes value).map toAsciiUppercase
  check (¬((upper.splitOn 0x5F).any fun segment =>
      segment ∈ ["KEY", "TOKEN", "SECRET", "PASSWORD", "CREDENTIAL"].map bytes) ∧
    ¬(["APIKEY", "ACCESSTOKEN"].any fun forbidden => bytes forbidden <:+: upper))
    (.invalid field)

def validateArtifact (field : String) (artifact : ArtifactIdentityV0) : Validated := do
  validateSafeId "artifact.id" artifact.id
  mapErr (fun _ => .invalid field) artifact.validate

end Vertical
end Platform
