import StreamWarden.Media.Adapter
import StreamWarden.Enforce.Tick

/-!
# Scripted media servers

A scripted server stands in for a real one when the monitor is rehearsed. It lists whatever its
script says (nothing until it has one) or fails as scripted, answers every message and every
stop with the reply set for it, and records each of those calls in order. It can be told to
make one session vanish from the store on the first message it gets, as a viewer who gives up
when warned would.

A rehearsal keeps its own clock. Only pauses move it, by as long as they wait; once shutdown was
requested, every pause ends at once.
-/

namespace StreamWarden

/-- What a scripted server answers to a listing. -/
inductive Script where
  | sessions (xs : List NormalizedSession)
  | failure (e : ProviderError)

/-- What a scripted server answers to a message or a stop. -/
inductive Reply where
  | done
  | refused
  | failure (e : ProviderError)

/-- The answer a reply stands for. -/
def Reply.answer : Reply → Except ProviderError Bool
  | .done => .ok true
  | .refused => .ok false
  | .failure e => .error e

/-- A call made to a scripted server. -/
inductive Call where
  | message (serverId : Int) (sessionKey title text : String) (timeoutMs : Nat)
  | terminate (serverId : Int) (sessionKey reason : String)

/-- The state of the scripted servers. -/
structure Stage where
  scripts : List (Int × Script) := []
  messageReply : Reply := .done
  terminateReply : Reply := .done
  clearOnMessage : Option String := none
  calls : List Call := []
  clock : Int := 0
  cancelled : Bool := false

/-- The monad of a rehearsal: the store, over the scripted servers. -/
abbrev Rehearsal := StateT Store (StateM Stage)

/-- Sets the script of a server, replacing its earlier one. -/
def Stage.setScript (st : Stage) (serverId : Int) (script : Script) : Stage :=
  { st with scripts := (serverId, script) :: st.scripts.filter (·.1 != serverId) }

/-- The scripted server for a server's settings. -/
def scriptedAdapter (config : ServerConfig) : Adapter Rehearsal where
  kind := config.provider
  serverId := config.id
  listSessions := fun _ => do
    let st : Stage ← getThe Stage
    match st.scripts.lookup config.id with
    | some (.sessions xs) => pure (.ok xs)
    | some (.failure e) => pure (.error e)
    | none => pure (.ok [])
  sendMessage := fun key title text timeout => do
    let st : Stage ← getThe Stage
    modifyThe Stage fun st =>
      { st with calls := st.calls ++ [.message config.id key title text timeout], clearOnMessage := none }
    match st.clearOnMessage with
    | some gone =>
      modifyThe Store fun s =>
        { s with live := s.live.filter fun r => !(r.serverId == config.id && r.sessionKey == gone) }
    | none => pure ()
    pure st.messageReply.answer
  terminate := fun key reason => do
    let st : Stage ← getThe Stage
    modifyThe Stage fun st => { st with calls := st.calls ++ [.terminate config.id key reason] }
    pure st.terminateReply.answer

/-- Builds the scripted server of any server. -/
def scriptedFactory (config : ServerConfig) : Except ProviderError (Adapter Rehearsal) :=
  .ok (scriptedAdapter config)

/-- The clock of a rehearsal. -/
def rehearsalClock : Rehearsal Int := do
  pure (← getThe Stage).clock

/-- The world of a rehearsal: both clocks read the rehearsal's clock, and a pause waits unless
shutdown was requested. -/
def rehearsalWorld : TickWorld Rehearsal where
  now := rehearsalClock
  instant := rehearsalClock
  pause ms := do
    let st : Stage ← getThe Stage
    if st.cancelled then pure true
    else
      modifyThe Stage fun st => { st with clock := st.clock + max ms 0 }
      pure false

end StreamWarden
