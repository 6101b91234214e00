/-!
# Fixed vocabularies

The kinds of business events that trigger workflows, the stages of a workflow's life, and the actions
that a workflow can decide on.
-/

namespace TriggerFlow

/-- A kind of business event. -/
inductive Trigger
  | orderCreated
  | payinReceived
  | payoutRequested
  | kycSubmitted
  | userRegistered
  | walletAdded
  | amountThreshold
  deriving DecidableEq

namespace Trigger

def all : List Trigger := [
  .orderCreated, .payinReceived, .payoutRequested, .kycSubmitted, .userRegistered, .walletAdded,
  .amountThreshold]

def name : Trigger → String
  | .orderCreated => "ORDER_CREATED"
  | .payinReceived => "PAYIN_RECEIVED"
  | .payoutRequested => "PAYOUT_REQUESTED"
  | .kycSubmitted => "KYC_SUBMITTED"
  | .userRegistered => "USER_REGISTERED"
  | .walletAdded => "WALLET_ADDED"
  | .amountThreshold => "AMOUNT_THRESHOLD"

def ofName? (s : String) : Option Trigger := all.find? fun t => t.name == s

/-- The type of the business object that raises the event. -/
def entityType : Trigger → String
  | .orderCreated => "Order"
  | .payinReceived => "PayIn"
  | .payoutRequested => "PayOut"
  | .kycSubmitted => "KYC"
  | .userRegistered => "User"
  | .walletAdded => "Wallet"
  | .amountThreshold => "Order"

/-- The key under which the context of the event holds the id of that object. -/
def entityIdKey : Trigger → String
  | .orderCreated => "orderId"
  | .payinReceived => "payInId"
  | .payoutRequested => "payOutId"
  | .kycSubmitted => "kycSessionId"
  | .userRegistered => "userId"
  | .walletAdded => "walletId"
  | .amountThreshold => "orderId"

end Trigger

/-- A stage of a workflow's life. Only active workflows run. -/
inductive Status
  | draft
  | active
  | paused
  | archived
  deriving DecidableEq

namespace Status

def all : List Status := [.draft, .active, .paused, .archived]

def name : Status → String
  | .draft => "DRAFT"
  | .active => "ACTIVE"
  | .paused => "PAUSED"
  | .archived => "ARCHIVED"

def ofName? (s : String) : Option Status := all.find? fun t => t.name == s

end Status

/-- An action that others carry out once a workflow has decided on it. -/
inductive ActionType
  | freezeOrder
  | rejectTransaction
  | requestDocument
  | requireApproval
  | sendNotification
  | flagForReview
  | autoApprove
  | escalateToCompliance
  deriving DecidableEq

namespace ActionType

def all : List ActionType := [
  .freezeOrder, .rejectTransaction, .requestDocument, .requireApproval, .sendNotification,
  .flagForReview, .autoApprove, .escalateToCompliance]

def name : ActionType → String
  | .freezeOrder => "FREEZE_ORDER"
  | .rejectTransaction => "REJECT_TRANSACTION"
  | .requestDocument => "REQUEST_DOCUMENT"
  | .requireApproval => "REQUIRE_APPROVAL"
  | .sendNotification => "SEND_NOTIFICATION"
  | .flagForReview => "FLAG_FOR_REVIEW"
  | .autoApprove => "AUTO_APPROVE"
  | .escalateToCompliance => "ESCALATE_TO_COMPLIANCE"

def ofName? (s : String) : Option ActionType := all.find? fun a => a.name == s

end ActionType

end TriggerFlow
