import StreamWarden.Media.Session

/-!
# What changed between two polls

A poll's sessions are keyed by session key; when a key comes twice, the last report wins, and
the map is kept in key order. Each key of the new map gives at most one transition, in key
order: a key not seen before starts; a key seen before in another state pauses (playing to
paused), resumes (paused to playing) or changes state (any other change); an unchanged state
gives nothing. The keys seen before and absent now have vanished; they are listed sorted.
-/

namespace StreamWarden

/-- The kinds of lifecycle event of a session. -/
inductive LifecycleEvent where
  | start
  | pause
  | resume
  | stateChange
  | stop
  deriving DecidableEq, Repr, Inhabited

/-- The name of a lifecycle event. -/
def LifecycleEvent.name : LifecycleEvent → String
  | .start => "start"
  | .pause => "pause"
  | .resume => "resume"
  | .stateChange => "state_change"
  | .stop => "stop"

/-- A change of one session seen in a poll. -/
structure Transition where
  event : LifecycleEvent
  sessionKey : String
  fromState : Option PlaybackState
  toState : PlaybackState
  deriving DecidableEq, Repr

/-- The states of the sessions of the previous poll, later entries winning. -/
abbrev PreviousStates := List (String × PlaybackState)

/-- The previous state of a session key. -/
def PreviousStates.get? (p : PreviousStates) (key : String) : Option PlaybackState :=
  (p.reverse.find? (·.1 == key)).map (·.2)

/-- The event between two states of a session, if they differ. -/
def transitionKind (a b : PlaybackState) : Option LifecycleEvent :=
  if a = b then none
  else match a, b with
    | .playing, .paused => some .pause
    | .paused, .playing => some .resume
    | _, _ => some .stateChange

/-- Puts a session into a key-sorted map, replacing the session with the same key. -/
def insertByKey (s : NormalizedSession) :
    List (String × NormalizedSession) → List (String × NormalizedSession)
  | [] => [(s.sessionKey, s)]
  | (k, v) :: rest =>
    if s.sessionKey < k then (s.sessionKey, s) :: (k, v) :: rest
    else if s.sessionKey = k then (k, s) :: rest
    else (k, v) :: insertByKey s rest

/-- The sessions of a poll keyed by session key, in key order, the last report of a key
winning. -/
def sessionMap (current : List NormalizedSession) : List (String × NormalizedSession) :=
  current.foldl (fun m s => insertByKey s m) []

/-- The transition of a key of the new map from its previous state: a start for a new key,
nothing for an unchanged state. -/
def transitionOf (previous : PreviousStates) (k : String) (s : NormalizedSession) :
    Option Transition :=
  match previous.get? k with
  | none => some ⟨.start, k, none, s.state⟩
  | some a => (transitionKind a s.state).map fun e => ⟨e, k, some a, s.state⟩

/-- The transitions from the previous states to a new map, in key order. -/
def transitions (previous : PreviousStates) (newMap : List (String × NormalizedSession)) :
    List Transition :=
  newMap.filterMap fun (k, s) => transitionOf previous k s

/-- Inserts a text into a sorted list of texts, keeping it free of repeats. -/
def insertSorted (k : String) : List String → List String
  | [] => [k]
  | x :: rest => if k < x then k :: x :: rest else if k = x then x :: rest else x :: insertSorted k rest

/-- The previous keys absent from the new map, sorted. -/
def vanishedKeys (previous : PreviousStates) (newMap : List (String × NormalizedSession)) :
    List String :=
  (previous.map (·.1)).foldl (fun acc k =>
    if (newMap.lookup k).isSome then acc else insertSorted k acc) []

end StreamWarden
