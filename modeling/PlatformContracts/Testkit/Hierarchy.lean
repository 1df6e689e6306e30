import PlatformContracts.Lib.FinMap
import PlatformContracts.Lib.Sys
import PlatformContracts.Testkit.AdapterIdentities

/-!
# Operations with attempts (`platform-contract-testkit/src/compositional_lifecycle.rs`)

`ReferenceAttemptHierarchyAdapter` has operations, each with attempts of its own and one
cancellation flag for all of them. An ID can be created again once its operation is finished.

* The calls, each one section; the reads `activeAttempts`, `cancellationRequested` and
  `operationActive`.
* `createOperation_on` and the lemmas like it: what each call does.
* `hierarchySys`: any number of callers, who keep every handle that they got and may use it again.
-/

namespace Platform
namespace Testkit
namespace Hierarchy

open Std

/-! ## The adapter -/

structure ReferenceAttemptHierarchyOperation where
  cancellationRequested : Bool
  attempts : ExtTreeMap UInt64 AttemptIdentity
  deriving DecidableEq

structure ReferenceAttemptHierarchyState where
  nextSequence : UInt64
  operations : ExtTreeMap String ReferenceAttemptHierarchyOperation
  deriving DecidableEq

structure ReferenceHierarchyOperation where
  operationId : String
  deriving DecidableEq, Repr

structure ReferenceHierarchyAttempt where
  identity : AttemptIdentity
  deriving DecidableEq, Repr

abbrev HierarchyAdapter := Exec ReferenceAttemptHierarchyState AdapterError

def deterministic : ReferenceAttemptHierarchyState where
  nextSequence := 1
  operations := ∅

/-- An operation that was just created. -/
def newOperation : ReferenceAttemptHierarchyOperation where
  cancellationRequested := false
  attempts := ∅

def createOperation (operationId : String) : HierarchyAdapter ReferenceHierarchyOperation := do
  let state ← get
  Exec.ensure (¬state.operations.contains operationId) .duplicateOperation
  modify fun state =>
    { state with operations := state.operations.insert operationId newOperation }
  pure ⟨operationId⟩

/-- `state.operations.get_mut(operation_id).ok_or(UnknownOperation)?`. -/
def getOwner (operationId : String) : HierarchyAdapter ReferenceAttemptHierarchyOperation := do
  let state ← get
  Exec.ofResult (Exec.okOr state.operations[operationId]? .unknownOperation)

/-- The write through what `get_mut` returned. -/
def setOwner (operationId : String) (owner : ReferenceAttemptHierarchyOperation) :
    HierarchyAdapter Unit :=
  modify fun state => { state with operations := state.operations.insert operationId owner }

def startAttempt (operation : ReferenceHierarchyOperation) :
    HierarchyAdapter ReferenceHierarchyAttempt := do
  let state ← get
  let sequence := state.nextSequence
  let next ← Exec.ofResult (Exec.okOr (checkedAdd sequence 1) .sequenceExhausted)
  -- The sequence is taken before the operation is looked up.
  modify fun state => { state with nextSequence := next }
  let owner ← getOwner operation.operationId
  let identity := mintIdentity operation.operationId sequence
  setOwner operation.operationId
    { owner with attempts := owner.attempts.insert sequence identity }
  pure ⟨identity⟩

def operationActive (state : ReferenceAttemptHierarchyState)
    (operation : ReferenceHierarchyOperation) : Bool :=
  state.operations.contains operation.operationId

def activeAttempts (state : ReferenceAttemptHierarchyState)
    (operation : ReferenceHierarchyOperation) : List AttemptIdentity :=
  match state.operations[operation.operationId]? with
  | some owner => owner.attempts.toList.map (·.2)
  | none => []

def requestOperationCancel (operation : ReferenceHierarchyOperation) : HierarchyAdapter Unit := do
  let owner ← getOwner operation.operationId
  setOwner operation.operationId { owner with cancellationRequested := true }

def cancellationRequested (state : ReferenceAttemptHierarchyState)
    (attempt : ReferenceHierarchyAttempt) : Bool :=
  match state.operations[attempt.identity.operationId]? with
  | some owner =>
    owner.cancellationRequested && owner.attempts.contains attempt.identity.sequence
  | none => false

def finishAttempt (attempt : ReferenceHierarchyAttempt) : HierarchyAdapter Unit := do
  let owner ← getOwner attempt.identity.operationId
  let removed := owner.attempts[attempt.identity.sequence]?
  setOwner attempt.identity.operationId
    { owner with attempts := owner.attempts.erase attempt.identity.sequence }
  -- Compared after the removal.
  Exec.ensure (removed = some attempt.identity) .staleLease

def finishOperation (operation : ReferenceHierarchyOperation) : HierarchyAdapter Unit := do
  let owner ← getOwner operation.operationId
  Exec.ensure owner.attempts.isEmpty .invalidTransition
  modify fun state =>
    { state with operations := state.operations.erase operation.operationId }

/-! ## What the calls do -/

section Calls

variable {s : ReferenceAttemptHierarchyState} {operation : ReferenceHierarchyOperation}
  {attempt : ReferenceHierarchyAttempt}

/-- The state with another record for an operation. -/
def ReferenceAttemptHierarchyState.put (s : ReferenceAttemptHierarchyState) (operationId : String)
    (owner : ReferenceAttemptHierarchyOperation) : ReferenceAttemptHierarchyState :=
  { s with operations := s.operations.insert operationId owner }

theorem put_self {operationId : String} {owner : ReferenceAttemptHierarchyOperation}
    (h : s.operations[operationId]? = some owner) : s.put operationId owner = s := by
  rw [ReferenceAttemptHierarchyState.put, insert_eq_insert_erase, erase_insert_self h]

theorem contains_iff {operationId : String} :
    s.operations.contains operationId = true ↔ (s.operations[operationId]?).isSome := by
  rw [ExtTreeMap.contains_iff_mem, ExtTreeMap.mem_iff_isSome_getElem?]

theorem createOperation_on {operationId : String} : (createOperation operationId).on s =
    match s.operations[operationId]? with
    | some _ => (.error (.err .duplicateOperation), s)
    | none => (.ok ⟨operationId⟩, s.put operationId newOperation) := by
  unfold createOperation
  rw [Exec.on_get_bind, Exec.on_ensure_bind]
  cases ho : s.operations[operationId]? with
  | none =>
    rw [if_pos (by rw [contains_iff, ho]; simp)]
    rfl
  | some owner => rw [if_neg (by rw [contains_iff, ho]; simp)]

theorem getOwner_bind {α : Type} {operationId : String}
    {f : ReferenceAttemptHierarchyOperation → HierarchyAdapter α} :
    (getOwner operationId >>= f).on s =
      match s.operations[operationId]? with
      | some owner => (f owner).on s
      | none => (.error (.err .unknownOperation), s) := by
  unfold getOwner
  rw [bind_assoc, Exec.on_get_bind, Exec.on_ofResult_bind]
  cases s.operations[operationId]? <;> rfl

/-- The record with one more attempt. -/
def ReferenceAttemptHierarchyOperation.started (owner : ReferenceAttemptHierarchyOperation)
    (identity : AttemptIdentity) : ReferenceAttemptHierarchyOperation :=
  { owner with attempts := owner.attempts.insert identity.sequence identity }

theorem startAttempt_on : (startAttempt operation).on s =
    match checkedAdd s.nextSequence 1 with
    | none => (.error (.err .sequenceExhausted), s)
    | some next =>
      match s.operations[operation.operationId]? with
      | none => (.error (.err .unknownOperation), { s with nextSequence := next })
      | some owner =>
        let identity := mintIdentity operation.operationId s.nextSequence
        (.ok ⟨identity⟩, { s with nextSequence := next }.put operation.operationId
          (owner.started identity)) := by
  unfold startAttempt
  rw [Exec.on_get_bind, Exec.on_ofResult_bind]
  cases checkedAdd s.nextSequence 1 with
  | none => rfl
  | some next =>
    simp only [Exec.okOr, Exec.on_modify_bind, getOwner_bind]
    cases s.operations[operation.operationId]? <;> rfl

theorem requestOperationCancel_on : (requestOperationCancel operation).on s =
    match s.operations[operation.operationId]? with
    | none => (.error (.err .unknownOperation), s)
    | some owner =>
      (.ok (), s.put operation.operationId { owner with cancellationRequested := true }) := by
  unfold requestOperationCancel
  rw [getOwner_bind]
  cases s.operations[operation.operationId]? <;> rfl

/-- The record without the attempt of the sequence. -/
def ReferenceAttemptHierarchyOperation.finished (owner : ReferenceAttemptHierarchyOperation)
    (sequence : UInt64) : ReferenceAttemptHierarchyOperation :=
  { owner with attempts := owner.attempts.erase sequence }

theorem finishAttempt_on : (finishAttempt attempt).on s =
    match s.operations[attempt.identity.operationId]? with
    | none => (.error (.err .unknownOperation), s)
    | some owner =>
      (if owner.attempts[attempt.identity.sequence]? = some attempt.identity then .ok ()
        else .error (.err .staleLease),
        s.put attempt.identity.operationId (owner.finished attempt.identity.sequence)) := by
  unfold finishAttempt
  rw [getOwner_bind]
  cases s.operations[attempt.identity.operationId]? with
  | none => rfl
  | some owner =>
    simp only [setOwner, Exec.on_modify_bind]
    unfold Exec.ensure
    split <;> rfl

theorem finishOperation_on : (finishOperation operation).on s =
    match s.operations[operation.operationId]? with
    | none => (.error (.err .unknownOperation), s)
    | some owner =>
      if owner.attempts.isEmpty then
        (.ok (), { s with operations := s.operations.erase operation.operationId })
      else (.error (.err .invalidTransition), s) := by
  unfold finishOperation
  rw [getOwner_bind]
  cases s.operations[operation.operationId]? with
  | none => rfl
  | some owner =>
    simp only [Exec.on_ensure_bind, Exec.on_modify]

end Calls

/-! ## Callers -/

inductive Call where
  | createOperation (operationId : String)
  | startAttempt (operation : ReferenceHierarchyOperation)
  | requestOperationCancel (operation : ReferenceHierarchyOperation)
  | finishAttempt (attempt : ReferenceHierarchyAttempt)
  | finishOperation (operation : ReferenceHierarchyOperation)
  deriving DecidableEq, Repr

/-- The value that a call returns. -/
inductive Answer where
  | unit
  | operation (operation : ReferenceHierarchyOperation)
  | attempt (attempt : ReferenceHierarchyAttempt)
  deriving DecidableEq, Repr

abbrev Reply := Except (Stop AdapterError) Answer

/-- `m`, with its value as an answer. -/
def answer {α : Type} (wrap : α → Answer) (m : HierarchyAdapter α) : HierarchyAdapter Answer := do
  let a ← m
  pure (wrap a)

def Call.run : Call → HierarchyAdapter Answer
  | createOperation operationId => answer .operation (Hierarchy.createOperation operationId)
  | startAttempt operation => answer .attempt (Hierarchy.startAttempt operation)
  | requestOperationCancel operation =>
    answer (fun _ => .unit) (Hierarchy.requestOperationCancel operation)
  | finishAttempt attempt => answer (fun _ => .unit) (Hierarchy.finishAttempt attempt)
  | finishOperation operation => answer (fun _ => .unit) (Hierarchy.finishOperation operation)

theorem answer_on {α : Type} (wrap : α → Answer) (m : HierarchyAdapter α)
    (s : ReferenceAttemptHierarchyState) :
    (answer wrap m).on s = ((m.on s).1.map wrap, (m.on s).2) :=
  Exec.on_bind_pure s m wrap

/-- The state behind the lock, and the handles that the callers got. -/
structure World where
  state : ReferenceAttemptHierarchyState
  operations : List ReferenceHierarchyOperation
  attempts : List ReferenceHierarchyAttempt

structure Event where
  call : Call
  reply : Reply
  deriving Repr

/-- The handle of the call is one that a caller got. -/
def Call.Issued (w : World) : Call → Prop
  | createOperation _ => True
  | startAttempt operation | requestOperationCancel operation | finishOperation operation =>
    operation ∈ w.operations
  | finishAttempt attempt => attempt ∈ w.attempts

instance (w : World) (c : Call) : Decidable (c.Issued w) := by
  cases c <;> unfold Call.Issued <;> infer_instance

/-- The world after a call: a caller keeps the handle that it got. -/
def World.after (w : World) (s : ReferenceAttemptHierarchyState) : Reply → World
  | .ok (.operation operation) => { w with state := s, operations := w.operations ++ [operation] }
  | .ok (.attempt attempt) => { w with state := s, attempts := w.attempts ++ [attempt] }
  | _ => { w with state := s }

def startWorld : World where
  state := deterministic
  operations := []
  attempts := []

/-- The adapter under any number of callers. -/
def hierarchySys : Sys World Event where
  init w := w = startWorld
  step w e w' := e.call.Issued w ∧ ∃ s, e.call.run.on w.state = (e.reply, s) ∧
    w' = w.after s e.reply

/-- The world after the event, if it can happen. -/
def World.exec (w : World) (e : Event) : Option World :=
  if e.call.Issued w ∧ e.reply = (e.call.run.on w.state).1 then
    some (w.after (e.call.run.on w.state).2 e.reply)
  else none

theorem World.exec_step {w w' : World} {e : Event} (h : w.exec e = some w') :
    hierarchySys.step w e w' := by
  unfold World.exec at h
  split at h
  · rename_i hc
    refine ⟨hc.1, _, ?_, (Option.some.inj h).symm⟩
    rw [hc.2]
  · cases h

end Hierarchy
end Testkit
end Platform
