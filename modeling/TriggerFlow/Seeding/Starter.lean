import TriggerFlow.Value

/-!
# Starter workflows

The document that is seeded if no other one is named: three workflows to start from.
-/

namespace TriggerFlow.Seeding

/-- A tree that reads a value of the context. -/
def pathValue (path : String) : Value := .object [("var", .str path)]

/-- A tree that applies an operator. -/
def operation (operator : String) (operands : List Value) : Value :=
  .object [(operator, .list operands)]

/-- A tree that decides on an action if a condition holds, and on none otherwise. -/
def decideOn (condition : Value) (action : String) (config : Entries) : Value :=
  operation "if" [condition, .object [("action", .str action), ("config", .object config)], .null]

def flagHighValue : Value :=
  .object [
    ("name", .str "Flag high value orders"),
    ("description", .str "Orders above 10,000 from approved users go to manual review"),
    ("trigger", .str "ORDER_CREATED"), ("priority", .int 10), ("is_active", .bool true),
    ("status", .str "ACTIVE"),
    ("logic_tree",
      decideOn
        (operation "and" [
          operation ">" [pathValue "orderAmount", .int 10000],
          operation "==" [pathValue "userKycStatus", .str "APPROVED"]])
        "FLAG_FOR_REVIEW" [("queue", .str "risk")])]

def freezeUnapproved : Value :=
  .object [
    ("name", .str "Freeze orders without KYC"),
    ("trigger", .str "ORDER_CREATED"), ("priority", .int 20), ("is_active", .bool true),
    ("status", .str "ACTIVE"),
    ("logic_tree",
      decideOn (operation "!=" [pathValue "userKycStatus", .str "APPROVED"])
        "FREEZE_ORDER" [("reason", .str "KYC not approved")])]

def escalateLargePayouts : Value :=
  .object [
    ("name", .str "Escalate large EU payouts"),
    ("trigger", .str "PAYOUT_REQUESTED"), ("priority", .int 5), ("is_active", .bool true),
    ("status", .str "ACTIVE"),
    ("trigger_config", .object [
      ("enabled", .bool true), ("logic", .str "AND"),
      ("filters", .list [.object [
        ("field", .str "user.country"), ("operator", .str "in"),
        ("value", .list [.str "PL", .str "DE", .str "FR"])]])]),
    ("logic_tree",
      decideOn (operation ">=" [pathValue "amount", .int 50000]) "ESCALATE_TO_COMPLIANCE" [])]

/-- The document with the starter workflows. -/
def starter : Value :=
  .object [("workflows", .list [flagHighValue, freezeUnapproved, escalateLargePayouts])]

end TriggerFlow.Seeding
