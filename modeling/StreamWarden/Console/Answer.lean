import StreamWarden.Console.Provider
import StreamWarden.Console.Scenario

/-!
# The console

The console reads one request per line, a JSON object whose `op` names the operation, and
answers with one JSON object per line. A request that cannot be read (not JSON, no `op`, an
unknown `op`, or a field of the wrong type) is answered with the error kind `bad_input` and a
message saying what was wrong.
-/

namespace StreamWarden.Console

/-- The answer to a request object. -/
def answerRequest (req : Json) : Answer :=
  match req.get? "op" with
  | some (.str op) =>
    if op = "ip" then answerIp req
    else if op = "actor_key" then answerActorKey req
    else if op = "season_episode" then answerSeasonEpisode req
    else if op = "parse_enum" then answerParseEnum req
    else if op = "rule_default_max" then answerRuleDefaultMax req
    else if op = "rule_options" then answerRuleOptions req
    else if op = "policy_parse" then answerPolicyParse req
    else if op = "applies_to" then answerAppliesTo req
    else if op = "evaluate" then answerEvaluate req
    else if op = "select" then answerSelect req
    else if op = "diff" then answerDiff req
    else if op = "server_bases" then answerServerBases req
    else if op = "provider_error" then answerProviderError req
    else if op = "config" then answerConfig req
    else if op = "backoff" then answerBackoff req
    else if op = "retention_cutoff" then answerRetentionCutoff req
    else if op = "time" then answerTime req
    else if op = "jellyfin_ids" then answerJellyfinIds req
    else if op = "item_cache" then answerItemCache req
    else if op = "provider" then answerProvider req
    else if op = "scenario" then answerScenario req
    else throw s!"unknown op {op}"
  | _ => throw "missing op"

/-- The answer line to a request line. -/
def answerLine (line : String) : String :=
  let answer : Json := match Json.parse line with
    | .ok req => match answerRequest req with
      | .ok a => a
      | .error msg => errorJson "bad_input" msg
    | .error e => errorJson "bad_input" e.message
  answer.render

end StreamWarden.Console
