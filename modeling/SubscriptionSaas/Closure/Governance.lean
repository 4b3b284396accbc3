import SubscriptionSaas.Closure.Repository

/-!
# The governance commands and the case row

The governance service checks and raises the row of a case as well, and writes no event for it. What
else its commands check and write is in other tables: whether that permits the command is an input
here. The delta commands read the case without a lock, so that they do not check the row that they
write.
-/

namespace SubscriptionSaas.Closure

open Billing (Id)

inductive GovernanceCommand
  | captureChecklist
  | generateDelta
  | confirmDelta
  | recordCustomerResponse (settlementRevisionId : Id)
  | recordNoResponse (settlementRevisionId : Id)
  | decideDispute
  /-- `returns`: the disposition is `OPEN`, `DISPUTED` or `COLLECTION_PENDING`. -/
  | recordDisposition (returns : Bool)
  | transferLegalCollection (packageVersion : Nat)
  | recordLegalCollectionEvent
  | completeOperations (occurredAt : Int)
  /-- The early termination is executed with what is to be returned. -/
  | linkReturn (vehicleReturnId returnAssetWorkOrderId returnHandoverWorkOrderId : Id)
  deriving DecidableEq

def CaseFile.currentSettlement (f : CaseFile) : Option SettlementRevision :=
  f.record.currentSettlementRevisionId.bind (f.settlements[·]?)

/-- What a command checks of the row that it has locked. -/
def CaseFile.governable (f : CaseFile) : GovernanceCommand → Bool
  | .captureChecklist =>
    f.record.vehicleReturnId.isSome && f.record.retiredAt.isNone &&
      f.record.status == .preparingReturn
  | .recordCustomerResponse settlementRevisionId =>
    f.record.retiredAt.isNone &&
      f.record.currentSettlementRevisionId == some settlementRevisionId &&
      f.currentSettlement.any (·.content.stage == .finalized)
  | .recordNoResponse settlementRevisionId =>
    f.record.currentSettlementRevisionId == some settlementRevisionId &&
      f.currentSettlement.any fun r =>
        r.content.stage == .finalized && r.content.finalizedAt.isSome
  | .recordDisposition returns => !(terminalStatus f.record.status && returns)
  | .transferLegalCollection packageVersion =>
    f.currentSettlement.any (·.content.stage == .finalized) && packageVersion == f.record.version
  | .completeOperations _ =>
    f.record.status == .pendingSettlement && f.record.physicalControlledAt.isSome &&
      f.currentSettlement.any fun r =>
        r.content.stage == .finalized || r.content.stage == .settled
  | .linkReturn _ _ _ =>
    f.record.returnAssetWorkOrderId.isNone && f.record.returnHandoverWorkOrderId.isNone &&
      f.record.vehicleReturnId.isNone
  | .generateDelta | .confirmDelta | .decideDispute | .recordLegalCollectionEvent => true

/-- What a command writes to the row. -/
def CaseRecord.governed (c : CaseRecord) : GovernanceCommand → CaseRecord
  | .completeOperations occurredAt =>
    { c with
      closedAt := some occurredAt
      operationalCompletedAt := some occurredAt
      status := if c.profile.finalDisposition = .terminate then .terminated else .completed
      version := c.version + 1 }
  | .linkReturn vehicleReturnId returnAssetWorkOrderId returnHandoverWorkOrderId =>
    { c with
      vehicleReturnId := some vehicleReturnId
      returnAssetWorkOrderId := some returnAssetWorkOrderId
      returnHandoverWorkOrderId := some returnHandoverWorkOrderId
      version := c.version + 1 }
  | _ => { c with version := c.version + 1 }

/-- `none` when the command is refused. -/
def govern (s : State) (closureCaseId : Id) (command : GovernanceCommand) (permitted : Bool) :
    Option State :=
  match s.cases[closureCaseId]? with
  | none => none
  | some f =>
    if f.governable command && permitted then
      match writeCase s.references { f with record := f.record.governed command } with
      | .ok f => some { s with cases := s.cases.set closureCaseId f }
      | .error _ => none
    else none

/-! ## Both writers -/

inductive Write
  | repository (input : Input)
  | governance (closureCaseId : Id) (command : GovernanceCommand) (permitted : Bool)

def write (s : State) : Write → State
  | .repository input => step s input
  | .governance closureCaseId command permitted =>
    (govern s closureCaseId command permitted).getD s

/-- The history of the cases under both writers. -/
def mixedHistory (clock : Int) (references : References) (writes : List Write) : State :=
  Runs.runs write (initial clock references) writes

end SubscriptionSaas.Closure
