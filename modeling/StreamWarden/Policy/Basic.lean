import StreamWarden.Policy.Options
import StreamWarden.Enforce.LiveSession
import StreamWarden.Error

/-!
# Stream policies

A policy row names a scope (every session, the sessions of one server, or those of one
monitor user), optionally a server family and a server, a rule and the rule's settings. Reading
a row checks, in this order, the scope, the rule and the family; each is trimmed, and the scope
and the rule are recognised without regard to ASCII case. A server id that is not positive
counts as none.

A policy applies to a live session when the family and the server match (when the policy names
them) and the session is in the policy's scope. A user-scoped policy never applies to a session
without a monitor user.
-/

namespace StreamWarden

/-- What a policy's limit is counted over. -/
inductive PolicyScope where
  | global
  | server
  | user
  deriving DecidableEq, Repr, Inhabited

/-- The rule a policy enforces. -/
inductive RuleType where
  | maxStreamsPerUser
  | maxIpsPerUser
  | maxStreamsPerIp
  | maxTranscodesGlobal
  | ban4kTranscode
  | maxBitrateKbps
  | deviceAllowlist
  deriving DecidableEq, Repr, Inhabited

namespace PolicyScope

/-- The name of a scope. -/
def name : PolicyScope → String
  | .global => "global"
  | .server => "server"
  | .user => "user"

/-- Reads a scope name, ignoring ASCII case. -/
def parse? (s : String) : Option PolicyScope :=
  [PolicyScope.global, .server, .user].find? fun m => Text.eqIgnoreAsciiCase m.name s

end PolicyScope

namespace RuleType

/-- The name of a rule. -/
def name : RuleType → String
  | .maxStreamsPerUser => "max_streams_per_user"
  | .maxIpsPerUser => "max_ips_per_user"
  | .maxStreamsPerIp => "max_streams_per_ip"
  | .maxTranscodesGlobal => "max_transcodes_global"
  | .ban4kTranscode => "ban_4k_transcode"
  | .maxBitrateKbps => "max_bitrate_kbps"
  | .deviceAllowlist => "device_allowlist"

/-- All rules. -/
def all : List RuleType :=
  [.maxStreamsPerUser, .maxIpsPerUser, .maxStreamsPerIp, .maxTranscodesGlobal, .ban4kTranscode,
    .maxBitrateKbps, .deviceAllowlist]

/-- Reads a rule name, ignoring ASCII case. -/
def parse? (s : String) : Option RuleType := all.find? fun m => Text.eqIgnoreAsciiCase m.name s

/-- The limit of a rule whose settings give none: two streams per address, one otherwise. -/
def defaultMax : RuleType → Int
  | .maxStreamsPerIp => 2
  | _ => 1

end RuleType

/-- A policy as it is stored. -/
structure PolicyRow where
  id : Int := 1
  scopeType : String := "global"
  scopeId : Option Int := none
  provider : Option String := none
  serverId : Option Int := none
  isEnabled : Bool := true
  priority : Int := 100
  ruleType : String := "max_streams_per_user"
  ruleValueJson : String := "{}"
  deriving Repr, Inhabited

/-- A policy ready to be evaluated. -/
structure Policy where
  id : Int
  priority : Int
  scope : PolicyScope
  scopeId : Option Int
  provider : Option ProviderKind
  serverId : Option Int
  rule : RuleType
  options : RuleOptions
  deriving Repr, Inhabited

namespace Policy

/-- Reads a stored policy, checking its scope, then its rule, then its family. -/
def ofRow (row : PolicyRow) : Except AppError Policy := do
  let scope ← match PolicyScope.parse? (Text.trim row.scopeType) with
    | some s => pure s
    | none => throw (.validation s!"policy {row.id} has unknown scope '{row.scopeType}'")
  let rule ← match RuleType.parse? (Text.trim row.ruleType) with
    | some r => pure r
    | none => throw (.validation s!"policy {row.id} has unknown rule type '{row.ruleType}'")
  let provider ← match row.provider.map Text.trim with
    | none => pure none
    | some p =>
      if p.isEmpty then pure none
      else match ProviderKind.parse? p with
        | some k => pure (some k)
        | none => throw (.validation s!"policy {row.id} has unknown provider '{p}'")
  pure { id := row.id, priority := row.priority, scope, scopeId := row.scopeId, provider,
         serverId := row.serverId.filter (· > 0), rule,
         options := RuleOptions.ofText row.ruleValueJson }

/-- The policy counts over all servers at once: global scope and no server named. -/
def isGlobal (p : Policy) : Bool := p.scope == .global && p.serverId.isNone

/-- The limit: the one the settings give, or the rule's default. -/
def max (p : Policy) : Int := p.options.max.getD p.rule.defaultMax

/-- The policy applies to a live session. -/
def appliesTo (p : Policy) (s : LiveSession) : Bool :=
  let familyOk := match p.provider with
    | some k => s.providerKind? == some k
    | none => true
  let serverOk := match p.serverId with
    | some id => id == s.serverId
    | none => true
  familyOk && serverOk &&
    match p.scope with
    | .global => true
    | .server => p.scopeId == some s.serverId
    | .user => match s.vodumUserId with
      | some u => p.scopeId == some u
      | none => false

end Policy

end StreamWarden
