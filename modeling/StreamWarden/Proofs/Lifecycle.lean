import StreamWarden.Monitor.Collect
import Mathlib.Computability.RegularExpressions
import Mathlib.Data.List.Chain

/-!
# The lifecycle of a session key

The log of a session key reads as a word over the kinds of lifecycle event: sessions that
started, changed state and stopped, then at most one that started and has not stopped yet. Each
change names the state it leaves, which is the state the event before it entered.

`Lifecycle marks o` says that `marks`, the kinds and payloads of a key's log, form such a word
whose changes chain, `o` being the state of the session still open (none when nothing is).
-/

namespace StreamWarden

open RegularExpression

/-! ## The words of a key's log -/

/-- Pause, resume and state change: the events between a start and a stop. -/
def LifecycleEvent.isChange : LifecycleEvent → Bool
  | .pause | .resume | .stateChange => true
  | _ => false

/-- One change. -/
def changeEvent : RegularExpression LifecycleEvent :=
  char .pause + char .resume + char .stateChange

/-- A session that started and has not stopped: a start, then changes. -/
def openedWord : RegularExpression LifecycleEvent := char .start * changeEvent.star

/-- Sessions that started, changed and stopped, one after another. -/
def finishedWords : RegularExpression LifecycleEvent := (openedWord * char LifecycleEvent.stop).star

/-- The words of a key's log: `(start change* stop)* (start change*)?`. -/
def lifecycleWords : RegularExpression LifecycleEvent := finishedWords * (1 + openedWord)

theorem mem_changeEvent {ev : LifecycleEvent} (h : ev.isChange) : [ev] ∈ changeEvent.matches' := by
  rw [changeEvent, matches'_add, matches'_add, matches'_char, matches'_char, matches'_char,
    Language.mem_add, Language.mem_add]
  cases ev with
  | pause => exact .inl (.inl rfl)
  | resume => exact .inl (.inr rfl)
  | stateChange => exact .inr rfl
  | start | stop => simp [LifecycleEvent.isChange] at h

theorem append_mem_kstar {l : Language LifecycleEvent} {x y : List LifecycleEvent}
    (hx : x ∈ KStar.kstar l) (hy : y ∈ l) : x ++ y ∈ KStar.kstar l := by
  obtain ⟨L, rfl, hL⟩ := hx
  have hflat : (L ++ [y]).flatten = L.flatten ++ y := by simp
  rw [← hflat]
  refine Language.join_mem_kstar fun z hz => ?_
  rcases List.mem_append.mp hz with hz | hz
  · exact hL z hz
  · rw [List.mem_singleton.mp hz]
    exact hy

theorem start_mem_openedWord : [LifecycleEvent.start] ∈ openedWord.matches' := by
  rw [openedWord, matches'_mul, matches'_star, matches'_char]
  exact Language.mem_mul.mpr ⟨[.start], rfl, [], Language.nil_mem_kstar _, rfl⟩

theorem append_change_mem_openedWord {w : List LifecycleEvent} {ev : LifecycleEvent}
    (hw : w ∈ openedWord.matches') (hev : ev.isChange) : w ++ [ev] ∈ openedWord.matches' := by
  rw [openedWord, matches'_mul, matches'_star] at hw ⊢
  obtain ⟨a, ha, b, hb, rfl⟩ := Language.mem_mul.mp hw
  rw [List.append_assoc]
  exact Language.append_mem_mul ha (append_mem_kstar hb (mem_changeEvent hev))

/-! ## Lifecycles -/

/-- A member of an event's payload. -/
def payloadField (p : Option Json) (key : String) : Option Json := p.bind (·.get? key)

/-- The kinds and payloads of a key's log form a lifecycle whose open session, if any, is in
state `o`: a start enters the state its payload goes `to`, a change goes `from` the open state
`to` a new one, and a stop closes the open session. -/
inductive Lifecycle : List (LifecycleEvent × Option Json) → Option PlaybackState → Prop
  | nil : Lifecycle [] none
  | start {marks : List (LifecycleEvent × Option Json)} {p : Option Json} {b : PlaybackState} :
      Lifecycle marks none → payloadField p "to" = some (.str b.name) →
      Lifecycle (marks ++ [(.start, p)]) (some b)
  | change {marks : List (LifecycleEvent × Option Json)} {ev : LifecycleEvent} {p : Option Json}
      {a b : PlaybackState} :
      Lifecycle marks (some a) → ev.isChange → payloadField p "from" = some (.str a.name) →
      payloadField p "to" = some (.str b.name) → Lifecycle (marks ++ [(ev, p)]) (some b)
  | stop {marks : List (LifecycleEvent × Option Json)} {p : Option Json} {a : PlaybackState} :
      Lifecycle marks (some a) → Lifecycle (marks ++ [(.stop, p)]) none

namespace Lifecycle

variable {marks : List (LifecycleEvent × Option Json)} {o : Option PlaybackState}

/-- The kinds of a lifecycle: finished sessions when none is open, finished sessions and then an
opened one otherwise. -/
theorem kinds (h : Lifecycle marks o) :
    (o = none → marks.map (·.1) ∈ finishedWords.matches') ∧
      (o.isSome → ∃ u v, marks.map (·.1) = u ++ v ∧ u ∈ finishedWords.matches' ∧
        v ∈ openedWord.matches') := by
  induction h with
  | nil =>
    refine ⟨fun _ => ?_, fun h => absurd h (by simp)⟩
    rw [finishedWords, matches'_star]
    exact Language.nil_mem_kstar _
  | @start marks p b _ _ ih =>
    refine ⟨fun h => absurd h (by simp), fun _ => ⟨marks.map (·.1), [.start], by simp, ih.1 rfl,
      start_mem_openedWord⟩⟩
  | @change marks ev p a b _ hev _ _ ih =>
    obtain ⟨u, v, heq, hu, hv⟩ := ih.2 rfl
    refine ⟨fun h => absurd h (by simp), fun _ => ⟨u, v ++ [ev], by simp [heq], hu,
      append_change_mem_openedWord hv hev⟩⟩
  | @stop marks p a _ ih =>
    obtain ⟨u, v, heq, hu, hv⟩ := ih.2 rfl
    have hdone : v ++ [.stop] ∈ (openedWord * char LifecycleEvent.stop).matches' := by
      rw [matches'_mul, matches'_char]
      exact Language.append_mem_mul hv rfl
    refine ⟨fun _ => ?_, fun h => absurd h (by simp)⟩
    rw [finishedWords, matches'_star]
    have hmarks : (marks ++ [(LifecycleEvent.stop, p)]).map (·.1) = u ++ (v ++ [.stop]) := by
      simp [heq]
    rw [hmarks]
    rw [finishedWords, matches'_star] at hu
    exact append_mem_kstar hu hdone

theorem kinds_mem_words (h : Lifecycle marks o) : marks.map (·.1) ∈ lifecycleWords.matches' := by
  rw [lifecycleWords, matches'_mul, matches'_add, matches'_epsilon]
  cases o with
  | none =>
    refine Language.mem_mul.mpr ⟨_, h.kinds.1 rfl, [], ?_, by simp⟩
    exact (Language.mem_add _ _ _).mpr (.inl rfl)
  | some a =>
    obtain ⟨u, v, heq, hu, hv⟩ := h.kinds.2 rfl
    exact Language.mem_mul.mpr ⟨u, hu, v, (Language.mem_add _ _ _).mpr (.inr hv), heq.symm⟩

/-- A session is open exactly when something was logged and the last event is not a stop. -/
theorem isSome_iff (h : Lifecycle marks o) :
    o.isSome ↔ marks ≠ [] ∧ marks.getLast?.map (·.1) ≠ some .stop := by
  induction h with
  | nil => simp
  | start => simp
  | change _ hev =>
    simp only [Option.isSome_some, ne_eq, List.append_eq_nil_iff, List.cons_ne_self, and_false,
      not_false_eq_true, List.getLast?_append, List.getLast?_singleton, Option.some_or,
      Option.map_some, Option.some.injEq, true_and, true_iff]
    rintro rfl
    exact absurd hev (by decide)
  | stop => simp

/-- The open state is the state the last event went to. -/
theorem last_to (h : Lifecycle marks o) :
    ∀ a, o = some a → marks.getLast?.bind (fun m => payloadField m.2 "to") = some (.str a.name) := by
  induction h with
  | nil => exact fun a h => absurd h (by simp)
  | start _ hto | change _ _ _ hto =>
    intro a ha
    rw [Option.some.injEq] at ha
    subst ha
    simpa using hto
  | stop => exact fun a h => absurd h (by simp)

/-- A mark that is no change extends a chain of changes. -/
theorem isChain_append_of_not_isChange {m : LifecycleEvent × Option Json}
    (h : marks.IsChain fun m m' => m'.1.isChange → payloadField m'.2 "from" = payloadField m.2 "to")
    (hm : m.1.isChange = false) :
    (marks ++ [m]).IsChain fun m m' => m'.1.isChange → payloadField m'.2 "from" = payloadField m.2 "to" := by
  refine h.append (List.isChain_singleton _) fun _ _ m' hm' hchange => ?_
  simp only [List.head?_cons, Option.mem_def, Option.some.injEq] at hm'
  subst hm'
  simp [hm] at hchange

/-- Every change goes from the state the event before it went to. -/
theorem chain (h : Lifecycle marks o) :
    marks.IsChain fun m m' => m'.1.isChange → payloadField m'.2 "from" = payloadField m.2 "to" := by
  induction h with
  | nil => exact List.IsChain.nil
  | start _ _ ih => exact isChain_append_of_not_isChange ih rfl
  | @change marks ev p a b hprev _ hfrom _ ih =>
    refine ih.append (List.isChain_singleton _) fun m hm m' hm' _ => ?_
    simp only [List.head?_cons, Option.mem_def, Option.some.injEq] at hm'
    subst hm'
    have hlast := hprev.last_to a rfl
    rw [hm, Option.bind_some] at hlast
    rw [hfrom, hlast]
  | stop _ ih => exact isChain_append_of_not_isChange ih rfl

end Lifecycle

end StreamWarden
