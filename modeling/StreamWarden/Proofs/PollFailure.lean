import StreamWarden.Proofs.PollRuns
import StreamWarden.Media.Scripted

/-!
# A poll that fails before the server answers

A poll fails before any session is returned when no adapter can be built for the server, or when
the adapter fails to list the sessions. Nothing has been written by then, and the collector
writes only what the failure says about the server: it is checked now, and it stays `up` while
one of its sessions was seen within the grace window; otherwise it is `down` when it could not be
reached or answered with an error of its own, and `unknown` for any other failure.

The grace window is measured with a saturating subtraction, as on a 64-bit clock; with 64-bit
times and a window that is not negative, that is the plain difference (`hasRecentLive_clamp_iff`).
-/

namespace StreamWarden

/-- The status a failed poll leaves on a server none of whose sessions is recent: `down` when the
server could not be reached or answered with an error of its own, `unknown` for a refused
credential, an answer that could not be read, an unusable configuration, or a failure that is not
the server's. -/
def statusWithoutRecent : AppError → ServerStatus
  | .provider (.unreachable _) | .provider (.serverError _) => .down
  | _ => .unknown

/-- The status of a failure goes through its class to the same place. -/
theorem statusForFailure_failureClass (err : AppError) :
    statusForFailure (failureClass err) = statusWithoutRecent err := by
  cases err with
  | provider e => cases e <;> rfl
  | database _ | serialization _ | storeConflict _ | notFound _ _ | validation _
  | configuration _ | unavailable | other _ => rfl

/-- With a grace window that is not negative, a clock that fits in 64 bits and sightings that fit
in 64 bits, the saturating lower end of the window finds a recent session exactly when the plain
difference does. -/
theorem hasRecentLive_clamp_iff {s : Store} {sid now grace : Int} (hgrace : 0 ≤ grace)
    (hnow : now ≤ Text.i64Max)
    (htimes : ∀ r ∈ s.live, r.serverId = sid → Text.i64Min ≤ r.lastSeenAt) :
    s.hasRecentLive sid (clampI64 (now - grace)) = true ↔
      ∃ r ∈ s.live, r.serverId = sid ∧ now - grace ≤ r.lastSeenAt := by
  simp only [Store.hasRecentLive, List.any_eq_true, Bool.and_eq_true, beq_iff_eq,
    decide_eq_true_eq, ge_iff_le]
  have hend : ∀ r ∈ s.live, r.serverId = sid →
      (clampI64 (now - grace) ≤ r.lastSeenAt ↔ now - grace ≤ r.lastSeenAt) := by
    intro r hr hs
    have hmin := htimes r hr hs
    unfold clampI64 Text.i64Min Text.i64Max at *
    omega
  constructor
  · rintro ⟨r, hr, hs, hle⟩
    exact ⟨r, hr, hs, (hend r hr hs).mp hle⟩
  · rintro ⟨r, hr, hs, hle⟩
    exact ⟨r, hr, hs, (hend r hr hs).mpr hle⟩

variable {σ : Type} {F : ServerConfig → Except ProviderError (Adapter (Op σ))} {server : ServerRow}
  {now : Int} {s : Store} {e : σ}

/-- A poll that fails before the server returns any session returns that failure and writes only
the server's status and check time: it is checked now, and is `up` when one of its sessions was
seen within the grace window, else `down` when unreachable or answering with its own error, else
`unknown`. -/
theorem collectServer_fails_before_listing (config : CollectorConfig) {err : ProviderError}
    (hgrace : 0 ≤ config.graceWindowMs) (hnow : now ≤ Text.i64Max)
    (htimes : ∀ r ∈ s.live, r.serverId = server.id → Text.i64Min ≤ r.lastSeenAt)
    (hfail : FailsBeforeListing F server now s e err) :
    let r := Op.exec (collectServer F config server now) s e
    let status := if ∃ row ∈ s.live, row.serverId = server.id ∧
        now - config.graceWindowMs ≤ row.lastSeenAt then .up
      else statusWithoutRecent (.provider err)
    r.1.1 = .error (.provider err) ∧ r.1.2.live = s.live ∧ r.1.2.events = s.events ∧
      r.1.2.history = s.history ∧
      r.1.2.server? server.id =
        (s.server? server.id).map fun row => { row with status, lastChecked := some now } := by
  intro r status
  obtain ⟨e₁, hpoll⟩ := pollAndPersist_exec_of_fails hfail
  have hstatus : (if s.hasRecentLive server.id (clampI64 (now - config.graceWindowMs)) then
      ServerStatus.up else statusForFailure (failureClass (.provider err))) = status := by
    rw [statusForFailure_failureClass]
    by_cases hrec : ∃ row ∈ s.live, row.serverId = server.id ∧
        now - config.graceWindowMs ≤ row.lastSeenAt
    · rw [if_pos ((hasRecentLive_clamp_iff hgrace hnow htimes).mpr hrec)]
      exact (if_pos hrec).symm
    · rw [if_neg (mt (hasRecentLive_clamp_iff hgrace hnow htimes).mp hrec)]
      exact (if_neg hrec).symm
  have hr : r = ((.error (.provider err), s.updateStatus server.id (some status) now), e₁) := by
    simp only [r, collectServer_exec, hpoll, hstatus]
  rw [hr]
  exact ⟨rfl, rfl, rfl, rfl, Store.server?_updateStatus s server.id (some status) now⟩

/-- The rehearsal of a server that refuses connections, polled a thousand seconds after its one
session was last seen. -/
theorem rehearsal_unreachable_server_goes_down :
    let server : ServerRow := { id := 1, kind := .plex }
    let s : Store :=
      { servers := [server]
        live := [{ id := 1, serverId := 1, sessionKey := "a", startedAt := 0, lastSeenAt := 0 }] }
    let err : ProviderError := .unreachable "connection refused"
    let e : Stage := { scripts := [(1, .failure err)] }
    let config : CollectorConfig := {}
    let now : Int := 1000000
    0 ≤ config.graceWindowMs ∧ now ≤ Text.i64Max ∧
      (∀ r ∈ s.live, r.serverId = server.id → Text.i64Min ≤ r.lastSeenAt) ∧
      FailsBeforeListing scriptedFactory server now s e err ∧
      let r := Op.exec (collectServer scriptedFactory config server now) s e
      let status := if ∃ row ∈ s.live, row.serverId = server.id ∧
          now - config.graceWindowMs ≤ row.lastSeenAt then .up
        else statusWithoutRecent (.provider err)
      r.1.1 = .error (.provider err) ∧ r.1.2.live = s.live ∧ r.1.2.events = s.events ∧
        r.1.2.history = s.history ∧
        r.1.2.server? server.id =
          (s.server? server.id).map fun row => { row with status, lastChecked := some now } := by
  intro server s err e config now
  have hgrace : 0 ≤ config.graceWindowMs := by decide
  have hnow : now ≤ Text.i64Max := by decide
  have htimes : ∀ r ∈ s.live, r.serverId = server.id → Text.i64Min ≤ r.lastSeenAt := by decide
  have hfail : FailsBeforeListing scriptedFactory server now s e err :=
    .inr ⟨scriptedAdapter server.config, e, rfl, rfl⟩
  exact ⟨hgrace, hnow, htimes, hfail,
    collectServer_fails_before_listing config hgrace hnow htimes hfail⟩

/-- In that rehearsal the stale session does not keep the server up: it goes down. -/
example :
    let s : Store :=
      { servers := [{ id := 1, kind := .plex }]
        live := [{ id := 1, serverId := 1, sessionKey := "a", startedAt := 0, lastSeenAt := 0 }] }
    let e : Stage := { scripts := [(1, .failure (.unreachable "connection refused"))] }
    let r := Op.exec (collectServer scriptedFactory {} { id := 1, kind := .plex } 1000000) s e
    (r.1.2.server? 1).map (fun row => (row.status, row.lastChecked)) =
      some (.down, some 1000000) := by
  decide

end StreamWarden
