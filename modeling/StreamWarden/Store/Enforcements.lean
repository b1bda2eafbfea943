import StreamWarden.Store.Basic

/-!
# The enforcement log

Every warning and kill is appended to the log. Beside it, the store keeps one row per policy,
server and actor that sums the log up: when the actor was first and last acted on, when it was
last warned (whether or not the warning arrived), when it was last killed (only a kill that
succeeded counts), and the reason of the last action, prefixed with `{action} failed: ` when it
failed.
-/

namespace StreamWarden

/-- An action of the enforcer to log. -/
structure EnforcementEntry where
  policyId : Int
  serverId : Int
  provider : String
  sessionKey : String
  actorKey : String
  vodumUserId : Option Int
  externalUserId : Option String
  action : EnforcementAction
  reason : String
  succeeded : Bool
  deriving Repr

/-- The entry of the log an action becomes, with its row id and time. -/
def EnforcementEntry.toRow (e : EnforcementEntry) (id : Nat) (now : Int) : EnforcementRow :=
  { id, policyId := e.policyId, serverId := e.serverId, provider := e.provider
    sessionKey := e.sessionKey, actorKey := e.actorKey, vodumUserId := e.vodumUserId
    externalUserId := e.externalUserId, action := e.action, reason := e.reason
    succeeded := e.succeeded, createdAt := now }

/-- The reason the summary row keeps for a logged action. -/
def EnforcementRow.stateReason (r : EnforcementRow) : String :=
  if r.succeeded then r.reason else r.action.name ++ " failed: " ++ r.reason

/-- The first summary row of a policy, server and actor. -/
def findState? (states : List EnforcementState) (policyId serverId : Int) (actorKey : String) :
    Option EnforcementState :=
  states.find? fun st => st.policyId == policyId && st.serverId == serverId && st.actorKey == actorKey

/-- A summary row brought up to date with an entry of the log about its key: the entry's time is
its last sighting, its warning time on a warning and its kill time on a kill that succeeded, and
the entry's reason is its last reason. -/
def EnforcementState.record (st : EnforcementState) (r : EnforcementRow) : EnforcementState :=
  { st with lastSeenAt := r.createdAt
            warnedAt := if r.action == .warn then some r.createdAt else st.warnedAt
            killedAt := if r.action == .kill && r.succeeded then some r.createdAt else st.killedAt
            lastReason := some r.stateReason }

/-- The summary row an entry of the log starts when its key has none. -/
def EnforcementRow.startState (r : EnforcementRow) (id : Nat) : EnforcementState :=
  { id, policyId := r.policyId, serverId := r.serverId, actorKey := r.actorKey
    firstSeenAt := r.createdAt, lastSeenAt := r.createdAt
    warnedAt := if r.action == .warn then some r.createdAt else none
    killedAt := if r.action == .kill && r.succeeded then some r.createdAt else none
    lastReason := some r.stateReason }

/-- The summary rows brought up to date with one more entry of the log: the row of the entry's
key is updated in place (every row sharing its id is), or else a new row starts with the next id. -/
def summarize (states : List EnforcementState) (r : EnforcementRow) : List EnforcementState :=
  match findState? states r.policyId r.serverId r.actorKey with
  | some old => states.map fun st => if st.id == old.id then st.record r else st
  | none => states ++ [r.startState (nextRowId (states.map (·.id)))]

namespace Store

/-- The enabled policies, by priority and then id. -/
def enabledPolicies (s : Store) : List PolicyRow :=
  (s.policies.filter (·.isEnabled)).mergeSort fun a b =>
    a.priority < b.priority || (a.priority == b.priority && a.id ≤ b.id)

/-- The summary row of a policy, server and actor. -/
def enforcementState? (s : Store) (policyId serverId : Int) (actorKey : String) :
    Option EnforcementState :=
  findState? s.states policyId serverId actorKey

/-- When an actor was last warned under a policy on a server. -/
def lastWarnedAt (s : Store) (policyId serverId : Int) (actorKey : String) : Option Int :=
  (s.enforcementState? policyId serverId actorKey).bind (·.warnedAt)

/-- Logs an action at `now` and brings its summary row up to date. -/
def recordAction (s : Store) (e : EnforcementEntry) (now : Int) : Except AppError Store :=
  if !s.policies.any (·.id == e.policyId) then .error Constraint.foreignKey.toAppError
  else
    let logged := e.toRow (nextRowId (s.enforcements.map (·.id))) now
    .ok { s with enforcements := s.enforcements ++ [logged], states := summarize s.states logged }

end Store

end StreamWarden
