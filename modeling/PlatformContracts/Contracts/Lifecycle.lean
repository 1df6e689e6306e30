import PlatformContracts.Contracts.Basic

/-!
# Terminal records (`platform-contracts-v0/src/lifecycle.rs`)

`TerminalV0.validate_eq_ok`: a completed record has no error; the others have a valid one about
their operation, of the class `Cancelled` exactly when the record is cancelled.
-/

namespace Platform
namespace Contracts

def terminalSchemaV0 : String := "delysis.operation_terminal.v0"

inductive SupervisorPhase where
  | running
  | quiescing
  | closed
  deriving DecidableEq, Repr

inductive TerminalClass where
  | completed
  | cancelled
  | failed
  deriving DecidableEq, Repr

structure TerminalV0 where
  schema : String
  operationId : OperationId
  attemptId : Option AttemptId
  termClass : TerminalClass
  error : Option ServiceErrorV0
  deriving DecidableEq

def TerminalV0.validateError (terminal : TerminalV0) (error : ServiceErrorV0) :
    Except ContractError Unit := do
  error.validate
  check (error.operationId = some terminal.operationId) (.inconsistent "error.operation_id")

def TerminalV0.validate (terminal : TerminalV0) : Except ContractError Unit := do
  check (terminal.schema = terminalSchemaV0) (.invalid "schema")
  match terminal.termClass, terminal.error with
  | .completed, none => pure ()
  | .cancelled, some error =>
    if error.errorClass = .cancelled then terminal.validateError error
    else .error (.inconsistent "error")
  | .failed, some error =>
    if error.errorClass ≠ .cancelled then terminal.validateError error
    else .error (.inconsistent "error")
  | _, _ => .error (.inconsistent "error")

theorem TerminalV0.validateError_eq_ok {terminal : TerminalV0} {error : ServiceErrorV0} :
    terminal.validateError error = .ok () ↔
      error.validate = .ok () ∧ error.operationId = some terminal.operationId := by
  rw [validateError, unit_bind_eq_ok, check_eq_ok]

theorem TerminalV0.validate_eq_ok {terminal : TerminalV0} :
    terminal.validate = .ok () ↔ terminal.schema = terminalSchemaV0 ∧
      match terminal.error with
      | none => terminal.termClass = .completed
      | some error => terminal.termClass ≠ .completed ∧
          (terminal.termClass = .cancelled ↔ error.errorClass = .cancelled) ∧
          error.validate = .ok () ∧ error.operationId = some terminal.operationId := by
  rw [validate, unit_bind_eq_ok, check_eq_ok]
  refine and_congr_right fun _ => ?_
  rcases terminal with ⟨schema, operationId, attemptId, _ | _ | _, _ | error⟩
  case completed.none => simp [pure, Except.pure]
  case cancelled.some | failed.some =>
    by_cases hc : error.errorClass = .cancelled
    · simp [hc, validateError_eq_ok]
    · simp [hc, validateError_eq_ok]
  all_goals simp

end Contracts
end Platform
