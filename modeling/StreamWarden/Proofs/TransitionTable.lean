import StreamWarden.Proofs.SessionDiff

/-!
# The transition table of a poll

Each key of a poll is told apart by its previous state and its last report. The table
(`EventFor`) names the event of a key: a start for a key not seen before, a pause from playing
to paused, a resume from paused to playing, a change of state for any other change; a key whose
state did not change has no event.

Main statement (`diff_follows_transition_table`): the map of a poll holds each key reported once,
in ascending order, with its last report; its events come one per key at most, in ascending key
order, each the table's event from the key's previous state to its last reported one; and the
vanished keys are the previous keys the poll lacks, ascending.
-/

namespace StreamWarden

/-- The last report of a key in a poll. -/
def lastReport (X : List NormalizedSession) (k : String) : Option NormalizedSession :=
  (X.filter (·.sessionKey == k)).getLast?

/-- The event of a key with previous state `prev` (none for a key not seen before) whose state is
now `now`; an unchanged state has none. -/
inductive EventFor : Option PlaybackState → PlaybackState → LifecycleEvent → Prop
  | start (now : PlaybackState) : EventFor none now .start
  | pause : EventFor (some .playing) .paused .pause
  | resume : EventFor (some .paused) .playing .resume
  | change {prev now : PlaybackState} (hne : prev ≠ now)
      (hpause : ¬(prev = .playing ∧ now = .paused))
      (hresume : ¬(prev = .paused ∧ now = .playing)) : EventFor (some prev) now .stateChange

/-- Between two states the differ's event is the table's, over every pair of states. -/
theorem transitionKind_eq_some_iff {a b : PlaybackState} {e : LifecycleEvent} :
    transitionKind a b = some e ↔ EventFor (some a) b e := by
  constructor
  · intro h
    unfold transitionKind at h
    split_ifs at h with hab
    split at h
    · cases h; exact .pause
    · cases h; exact .resume
    · cases h
      rename_i hp hr
      exact .change hab (fun ⟨h1, h2⟩ => hp h1 h2) (fun ⟨h1, h2⟩ => hr h1 h2)
  · intro h
    cases h with
    | pause => rfl
    | resume => rfl
    | change hne hpause hresume =>
      unfold transitionKind
      rw [if_neg hne]
      split <;> simp_all

/-- A transition carries the table's event from the key's previous state. -/
theorem transitionOf_eventFor {P : PreviousStates} {k : String} {x : NormalizedSession}
    {t : Transition} (h : transitionOf P k x = some t) : EventFor (P.get? k) x.state t.event := by
  unfold transitionOf at h
  cases hk : P.get? k with
  | none =>
    simp only [hk, Option.some.injEq] at h
    subst h
    exact .start _
  | some a =>
    simp only [hk, Option.map_eq_some_iff] at h
    obtain ⟨e, he, rfl⟩ := h
    exact transitionKind_eq_some_iff.mp he

/-- The transition of a key: none when its state is unchanged, else the table's event, with the
key, its previous state and its new one. -/
theorem transitionOf_cases (P : PreviousStates) (k : String) (x : NormalizedSession) :
    (P.get? k = some x.state ∧ transitionOf P k x = none) ∨
      ∃ e, EventFor (P.get? k) x.state e ∧ transitionOf P k x = some ⟨e, k, P.get? k, x.state⟩ := by
  cases h : transitionOf P k x with
  | none =>
    have hsame : ¬P.get? k ≠ some x.state := by
      rw [← transitionOf_isSome, h]
      simp
    exact .inl ⟨not_not.mp hsame, rfl⟩
  | some t =>
    obtain ⟨rfl, hfrom, hto⟩ := transitionOf_eq_some h
    refine .inr ⟨t.event, transitionOf_eventFor h, ?_⟩
    rw [← hfrom, ← hto]

/-- The events of a map come in strictly ascending key order. -/
theorem transitions_keys_ascending (P : PreviousStates) {M : List (String × NormalizedSession)}
    (hM : KeysAscending M) : ((transitions P M).map (·.sessionKey)).Pairwise (· < ·) := by
  rw [transitions_keys]
  exact (List.pairwise_map.mpr hM).sublist (List.filter_sublist.map _)

/-- A key the map lacks is one the poll did not report. -/
theorem lookup_sessionMap_eq_none_iff {X : List NormalizedSession} {k : String} :
    (sessionMap X).lookup k = none ↔ k ∉ X.map (·.sessionKey) := by
  rw [← mem_keys_sessionMap, mem_keys_iff_lookup_isSome, Option.not_isSome_iff_eq_none]

/-- The map of a poll, its events and its vanished keys, as the table says. -/
theorem diff_follows_transition_table (P : PreviousStates) (X : List NormalizedSession) :
    let M := sessionMap X
    let events := transitions P M
    (KeysAscending M ∧ ∀ k v, (k, v) ∈ M ↔ lastReport X k = some v) ∧
    (events.map (·.sessionKey)).Pairwise (· < ·) ∧
    (∀ k x, lastReport X k = some x →
      (P.get? k = some x.state ∧ events.filter (·.sessionKey == k) = []) ∨
      ∃ e, EventFor (P.get? k) x.state e ∧
        events.filter (·.sessionKey == k) = [⟨e, k, P.get? k, x.state⟩]) ∧
    (∀ k, lastReport X k = none → events.filter (·.sessionKey == k) = []) ∧
    (vanishedKeys P M).Pairwise (· < ·) ∧
    ∀ k, k ∈ vanishedKeys P M ↔ k ∈ P.map (·.1) ∧ k ∉ X.map (·.sessionKey) := by
  intro M events
  have hM : KeysAscending M := sessionMap_ascending X
  have hkey : ∀ k, events.filter (·.sessionKey == k) = ((lastReport X k).bind (transitionOf P k)).toList :=
    fun k => by rw [transitions_filter_key hM, lookup_sessionMap]; rfl
  refine ⟨⟨hM, fun k v => mem_sessionMap_iff⟩, transitions_keys_ascending P hM, ?_, ?_,
    vanishedKeys_ascending P M, fun k => ?_⟩
  · intro k x hx
    rw [hkey, hx, Option.bind_some]
    rcases transitionOf_cases P k x with ⟨hsame, hnone⟩ | ⟨e, he, hsome⟩
    · exact .inl ⟨hsame, by rw [hnone]; rfl⟩
    · exact .inr ⟨e, he, by rw [hsome]; rfl⟩
  · intro k hk
    rw [hkey, hk]
    rfl
  · rw [mem_vanishedKeys, lookup_sessionMap_eq_none_iff]

end StreamWarden
