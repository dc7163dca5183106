import SherwoodMonitor.FundDisk

/-! Host authority for the tools (`fund/authz.py`, `session.py`): who started this turn, and
whether that person may use the host's authority. -/
namespace SherwoodMonitor.Authz
open PyText PyJson Models Rules FundDisk

/-- Surfaces that are not a human chat channel. -/
def nonMessaging : List String :=
  ["", "api_server", "cli", "codex", "cron", "desktop", "gateway", "kanban", "local",
   "msgraph_webhook", "tool", "tui", "webhook"]

structure Caller where
  platform : String := ""
  userId : String := ""
  chatId : String := ""

def Caller.messaging (caller : Caller) : Bool := caller.platform ∉ nonMessaging

def Caller.telegramUser (caller : Caller) : Option String :=
  if caller.platform = "telegram" ∧ caller.userId ≠ "" then some caller.userId else none

/-- `HOST_TOOLS`. -/
inductive HostTool
  | fundSetup | fundApproveMember | fundApproveAgent | fundRemoveAgent | fundRecordSettle
  | fundSetProposalStatus
  deriving DecidableEq

def hostUnset : String :=
  "the fund has no host on record, so nobody may do this from chat; " ++
    "ask the operator to set the fund's host"

def expectedHost (state : Option FundState) (ownerTelegramId : String) : String :=
  match state with
  | some state =>
      if state.fund.hostTelegramId ≠ "" then state.fund.hostTelegramId else ownerTelegramId
  | none => ownerTelegramId

/-- May the person who started this turn use the host's authority? -/
def checkCaller (state : Option FundState) (caller : Caller) (ownerTelegramId : String) :
    Verdict :=
  if !caller.messaging then allow
  else if caller.platform ≠ "telegram" then
    deny "not_host" ("host actions are not taken from " ++ caller.platform ++
      "; use the host's Telegram or the CLI")
  else if expectedHost state ownerTelegramId = "" then deny "host_unset" hostUnset
  else if caller.userId ≠ expectedHost state ownerTelegramId then
    deny "not_host" "only the fund host can do that"
  else allow

/-- A member records their own back or object; anyone else's needs the host. -/
def checkMemberVoteCaller (state : Option FundState) (caller : Caller) (voter : String)
    (ownerTelegramId : String) : Verdict :=
  if caller.messaging ∧ caller.platform = "telegram" ∧ caller.userId ≠ "" ∧
      caller.userId = voter then allow
  else checkCaller state caller ownerTelegramId

lemma checkCaller_ok {state : Option FundState} {caller : Caller} {owner : String}
    (hmessaging : caller.messaging = true) :
    (checkCaller state caller owner).ok = true ↔ caller.platform = "telegram" ∧
      caller.userId ≠ "" ∧ caller.userId = expectedHost state owner := by
  by_cases hplatform : caller.platform = "telegram"
  · by_cases hunset : expectedHost state owner = ""
    · simp [checkCaller, hmessaging, hplatform, hunset]
    · by_cases huser : caller.userId = expectedHost state owner
      · simp [checkCaller, hmessaging, hplatform, hunset, huser]
      · simp [checkCaller, hmessaging, hplatform, hunset, huser]
  · simp [checkCaller, hmessaging, hplatform]

end SherwoodMonitor.Authz
