import StreamWarden.Media.Failover

/-!
# Runs of failover

The calls failover makes are observed by an operation that notes each address it is called
with (`recordedAttempt`); what a call answers is any function of the calls made before it and
of its address, so every assignment of outcomes to calls is covered. `outcomesAlong` lists the
outcomes the addresses would give if each were called in turn.

Main statement (`firstResponding_fails_over`): the addresses are called in order, each once,
up to and including the first whose outcome is an answer or a failure that another address
would not mend, and that outcome is the result. When every address fails in a way another
address might mend, each is called once and the result is the last failure if it is a server
error, and otherwise one unreachable failure that lists every attempt. The result is an
unreachable-class failure exactly when every address called failed in such a way.
-/

namespace StreamWarden

variable {α : Type}

/-- An outcome that sends failover on to the next address: a failure another address may not
have. -/
def FailsRetryably : Except ProviderError α → Prop
  | .ok _ => False
  | .error e => e.shouldTryNextBase = true

/-- The operation that notes the address it is called with and answers as `outcome` says after
the calls made before it. -/
def recordedAttempt (outcome : List String → String → Except ProviderError α) (base : String) :
    StateM (List String) (Except ProviderError α) :=
  modifyGet fun calls => (outcome calls base, calls ++ [base])

/-- The outcomes of calling the addresses in turn, after the calls `calls`. -/
def outcomesAlong {β : Type} (outcome : List String → String → β) (calls : List String) :
    List String → List β
  | [] => []
  | b :: rest => outcome calls b :: outcomesAlong outcome (calls ++ [b]) rest

/-- A logged action run after the calls `calls`: its result and every call made so far. -/
def runLogged {β : Type} (x : StateM (List String) β) (calls : List String) : β × List String :=
  x.run calls

theorem outcomesAlong_append {β : Type} (outcome : List String → String → β)
    (calls l₁ l₂ : List String) :
    outcomesAlong outcome calls (l₁ ++ l₂) =
      outcomesAlong outcome calls l₁ ++ outcomesAlong outcome (calls ++ l₁) l₂ := by
  induction l₁ generalizing calls with
  | nil => simp [outcomesAlong]
  | cons b rest ih => simp [outcomesAlong, ih]

/-- The last of a failure and those after it, or `o` when there is none. -/
theorem getLast?_cons_or {β : Type} (a : β) (l : List β) (o : Option β) :
    (a :: l).getLast?.or o = l.getLast?.or (some a) := by
  rw [List.getLast?_cons]
  cases l.getLast? <;> rfl

theorem failsRetryably_iff {o : Except ProviderError α} :
    FailsRetryably o ↔ ∃ e, o = .error e ∧ e.shouldTryNextBase = true := by
  cases o <;> simp [FailsRetryably]

theorem classify_eq_unreachable_iff {e : ProviderError} :
    e.classify = .unreachable ↔ e.shouldTryNextBase = true := by
  cases e <;> simp [ProviderError.classify, ProviderError.shouldTryNextBase]

/-- An outcome fails retryably exactly when it is a failure of the unreachable class. -/
theorem failsRetryably_iff_classify {o : Except ProviderError α} :
    FailsRetryably o ↔ ∃ e, o = .error e ∧ e.classify = .unreachable := by
  simp only [failsRetryably_iff, classify_eq_unreachable_iff]

section Exhausted

variable (what : String) (attempts : List String) {last : Option ProviderError}
  (hlast : ∀ e, last = some e → e.shouldTryNextBase = true)
include hlast

/-- After failures another address might mend, the failure reported is one too. -/
theorem exhaustedError_shouldTryNextBase :
    (exhaustedError what attempts last).shouldTryNextBase = true := by
  cases last with
  | none => rfl
  | some e =>
    cases e with
    | unreachable d => rfl
    | _ => exact hlast _ rfl

/-- Unless the last failure was a server error, the failure reported lists every attempt. -/
theorem exhaustedError_of_not_serverError (hs : ∀ s, last ≠ some (.serverError s)) :
    exhaustedError what attempts last =
      .unreachable (what ++ " failed on every base URL: [" ++ ", ".intercalate attempts ++ "]") := by
  cases last with
  | none => rfl
  | some e =>
    cases e with
    | unreachable d => rfl
    | serverError s => exact absurd rfl (hs s)
    | _ => exact absurd (hlast _ rfl) (by simp [ProviderError.shouldTryNextBase])

end Exhausted

/-! ## One step of failover -/

section Step

variable (what : String) (outcome : List String → String → Except ProviderError α)
  (b : String) (rest attempts calls : List String) (last : Option ProviderError)

theorem failoverFrom_nil_run :
    runLogged (failoverFrom what (recordedAttempt outcome) [] attempts last) calls =
      (.error (exhaustedError what attempts last), calls) := rfl

/-- An answer, or a failure no other address would mend, ends failover at once. -/
theorem failoverFrom_cons_run_of_decisive (h : ¬FailsRetryably (outcome calls b)) :
    runLogged (failoverFrom what (recordedAttempt outcome) (b :: rest) attempts last) calls =
      (outcome calls b, calls ++ [b]) := by
  unfold runLogged
  simp only [failoverFrom, recordedAttempt, StateT.run_bind, StateT.run_modifyGet, pure_bind]
  cases ho : outcome calls b with
  | ok v => rfl
  | error e =>
    have he : e.shouldTryNextBase = false := by simpa [FailsRetryably, ho] using h
    simp only [he, Bool.false_eq_true, if_false]
    rfl

/-- A failure another address may mend moves on to the next address, noting the attempt. -/
theorem failoverFrom_cons_run_of_retry {e : ProviderError} (h : outcome calls b = .error e)
    (he : e.shouldTryNextBase = true) :
    runLogged (failoverFrom what (recordedAttempt outcome) (b :: rest) attempts last) calls =
      runLogged (failoverFrom what (recordedAttempt outcome) rest
        (attempts ++ [attemptLine b e]) (some e)) (calls ++ [b]) := by
  unfold runLogged
  simp only [failoverFrom, recordedAttempt, StateT.run_bind, StateT.run_modifyGet, pure_bind, h,
    he, if_true]

end Step

/-! ## Whole runs -/

/-- A failover from any point: it stops at the first decisive address, or it runs out of
addresses after failures that another address might have mended. -/
theorem failoverFrom_run (what : String) (outcome : List String → String → Except ProviderError α)
    (bases attempts calls : List String) (last : Option ProviderError) :
    let r := runLogged (failoverFrom what (recordedAttempt outcome) bases attempts last) calls
    (∃ pre b post, bases = pre ++ b :: post ∧
        (∀ o ∈ outcomesAlong outcome calls pre, FailsRetryably o) ∧
        ¬FailsRetryably (outcome (calls ++ pre) b) ∧
        r = (outcome (calls ++ pre) b, calls ++ pre ++ [b])) ∨
      ∃ errs, outcomesAlong outcome calls bases = errs.map .error ∧
        (∀ e ∈ errs, e.shouldTryNextBase = true) ∧
        r = (.error (exhaustedError what (attempts ++ List.zipWith attemptLine bases errs)
          (errs.getLast?.or last)), calls ++ bases) := by
  induction bases generalizing attempts calls last with
  | nil =>
    refine .inr ⟨[], rfl, by simp, ?_⟩
    simp [failoverFrom_nil_run]
  | cons b rest ih =>
    intro r
    by_cases hb : FailsRetryably (outcome calls b)
    · obtain ⟨e, ho, he⟩ := failsRetryably_iff.mp hb
      have hr : r = runLogged (failoverFrom what (recordedAttempt outcome) rest
          (attempts ++ [attemptLine b e]) (some e)) (calls ++ [b]) :=
        failoverFrom_cons_run_of_retry what outcome b rest attempts calls last ho he
      rcases ih (attempts ++ [attemptLine b e]) (calls ++ [b]) (some e) with
        ⟨pre, b', post, hrest, hpre, hb', hrun⟩ | ⟨errs, hout, herrs, hrun⟩
      · refine .inl ⟨b :: pre, b', post, by simp [hrest], ?_, by simpa using hb', ?_⟩
        · intro o ho'
          simp only [outcomesAlong, List.mem_cons] at ho'
          rcases ho' with rfl | ho'
          · exact hb
          · exact hpre o ho'
        · rw [hr, hrun]
          simp
      · refine .inr ⟨e :: errs, by simp [outcomesAlong, ho, hout], ?_, ?_⟩
        · intro e' he'
          rcases List.mem_cons.mp he' with rfl | he'
          · exact he
          · exact herrs e' he'
        · rw [hr, hrun, getLast?_cons_or]
          simp
    · exact .inl ⟨[], b, rest, rfl, by simp [outcomesAlong], by simpa using hb,
        by simpa using failoverFrom_cons_run_of_decisive what outcome b rest attempts calls last hb⟩

/-- Failover over the addresses `bases`, each call answering as `outcome` says after the calls
before it: which addresses are called, what the result is, and when it is an unreachable-class
failure. -/
theorem firstResponding_fails_over (bases : List String) (what : String)
    (outcome : List String → String → Except ProviderError α) :
    let r := runLogged (firstResponding bases what (recordedAttempt outcome)) []
    ((∃ pre b post, bases = pre ++ b :: post ∧
        (∀ o ∈ outcomesAlong outcome [] pre, FailsRetryably o) ∧
        ¬FailsRetryably (outcome pre b) ∧ r = (outcome pre b, pre ++ [b])) ∨
      ∃ errs, outcomesAlong outcome [] bases = errs.map .error ∧
        (∀ e ∈ errs, e.shouldTryNextBase = true) ∧ r.2 = bases ∧
        (∀ s, errs.getLast? = some (.serverError s) → r.1 = .error (.serverError s)) ∧
        ((∀ s, errs.getLast? ≠ some (.serverError s)) →
          r.1 = .error (.unreachable (what ++ " failed on every base URL: [" ++
            ", ".intercalate (List.zipWith attemptLine bases errs) ++ "]")))) ∧
      ((∃ e, r.1 = .error e ∧ e.classify = .unreachable) ↔
        ∀ o ∈ outcomesAlong outcome [] r.2, FailsRetryably o) := by
  intro r
  rw [← failsRetryably_iff_classify]
  rcases failoverFrom_run what outcome bases [] [] none with
    ⟨pre, b, post, hbases, hpre, hb, hrun⟩ | ⟨errs, hout, herrs, hrun⟩
  · simp only [List.nil_append] at hb hrun
    have hr : r = (outcome pre b, pre ++ [b]) := hrun
    refine ⟨.inl ⟨pre, b, post, hbases, hpre, hb, hr⟩, ?_⟩
    rw [hr, outcomesAlong_append]
    exact iff_of_false hb fun hall => hb (hall _ (by simp [outcomesAlong]))
  · simp only [List.nil_append, Option.or_none] at hrun
    have hr : r = (.error (exhaustedError what (List.zipWith attemptLine bases errs) errs.getLast?),
        bases) := hrun
    have hlast : ∀ e, errs.getLast? = some e → e.shouldTryNextBase = true :=
      fun e he => herrs e (List.mem_of_getLast? he)
    refine ⟨.inr ⟨errs, hout, herrs, by rw [hr], fun s hs => by rw [hr, hs]; rfl,
      fun hs => by rw [hr, exhaustedError_of_not_serverError what _ hlast hs]⟩, ?_⟩
    rw [hr, hout]
    refine iff_of_true (exhaustedError_shouldTryNextBase what _ hlast) fun o ho => ?_
    obtain ⟨e, he, rfl⟩ := List.mem_map.mp ho
    exact herrs e he

end StreamWarden
