import StreamWarden.Enforce.Evaluate
import Mathlib.Data.String.Basic

/-!
# What an evaluation reports

Every violation a policy reports is built by one of two emitters. The counting rules narrow a
group of sessions to the one session the selector would stop; the server-wide rules report the
offending sessions of one server together. Either way the sessions of a violation are in-scope
sessions of one server, the first of them names the server family, and the violation carries the
policy's id and warning settings.

The argument follows the data: grouping keeps each item in the group of its key, selection picks
one of its candidates, and every rule feeds the emitters with sessions drawn from the in-scope
ones.
-/

namespace StreamWarden

/-! ## Groups -/

section Groups

variable {K α : Type} {lt : K → K → Bool} {key : α → K}

/-- A group after one insertion is the new singleton group, an old group, or an old group
extended at its end by the item, whose key the order cannot tell apart from the group's. -/
theorem mem_insertGroup {k : K} {x : α} {groups : List (K × List α)} {g : K × List α}
    (hg : g ∈ insertGroup lt k x groups) :
    g = (k, [x]) ∨ g ∈ groups ∨
      ∃ xs, (g.1, xs) ∈ groups ∧ g.2 = xs ++ [x] ∧ lt k g.1 = false ∧ lt g.1 k = false := by
  induction groups with
  | nil =>
    simp only [insertGroup, List.mem_singleton] at hg
    exact Or.inl hg
  | cons first rest ih =>
    obtain ⟨k', xs⟩ := first
    simp only [insertGroup] at hg
    by_cases hlt : lt k k' = true
    · simp only [hlt, if_true, List.mem_cons] at hg
      rcases hg with rfl | hg
      · exact Or.inl rfl
      · exact Or.inr (Or.inl (List.mem_cons.mpr hg))
    · by_cases hgt : lt k' k = true
      · simp only [hlt, hgt, if_true, if_false, Bool.false_eq_true, List.mem_cons] at hg
        rcases hg with rfl | hg
        · exact Or.inr (Or.inl List.mem_cons_self)
        · rcases ih hg with h | h | ⟨ys, hys, hg2, h1, h2⟩
          · exact Or.inl h
          · exact Or.inr (Or.inl (List.mem_cons_of_mem _ h))
          · exact Or.inr (Or.inr ⟨ys, List.mem_cons_of_mem _ hys, hg2, h1, h2⟩)
      · simp only [hlt, hgt, if_false, Bool.false_eq_true, List.mem_cons] at hg
        rcases hg with rfl | hg
        · exact Or.inr (Or.inr ⟨xs, List.mem_cons_self, rfl,
            Bool.eq_false_iff.mpr hlt, Bool.eq_false_iff.mpr hgt⟩)
        · exact Or.inr (Or.inl (List.mem_cons_of_mem _ hg))

/-- Grouping keeps every item in a group of its own key, when the order tells keys apart. -/
theorem foldl_insertGroup_inv [Std.Trichotomous fun a b : K => lt a b = true]
    (P : α → Prop) (xs : List α) (hxs : ∀ x ∈ xs, P x) (acc : List (K × List α))
    (hacc : ∀ g ∈ acc, ∀ y ∈ g.2, P y ∧ key y = g.1) :
    ∀ g ∈ xs.foldl (fun acc x => insertGroup lt (key x) x acc) acc,
      ∀ y ∈ g.2, P y ∧ key y = g.1 := by
  induction xs generalizing acc with
  | nil => exact hacc
  | cons x xs ih =>
    apply ih (fun y hy => hxs y (List.mem_cons_of_mem x hy))
    intro g hg y hy
    rcases mem_insertGroup hg with rfl | hg | ⟨ys, hys, hg2, h1, h2⟩
    · rw [List.mem_singleton.mp hy]
      exact ⟨hxs x List.mem_cons_self, rfl⟩
    · exact hacc g hg y hy
    · rw [hg2, List.mem_append, List.mem_singleton] at hy
      rcases hy with hy | rfl
      · exact hacc _ hys y hy
      · have hk : key y = g.1 :=
          Std.Trichotomous.trichotomous (r := fun a b : K => lt a b = true) _ _
            (by simp [h1]) (by simp [h2])
        exact ⟨hxs y List.mem_cons_self, hk⟩

/-- Every item of a group is an item of the grouped list, and has the group's key. -/
theorem mem_of_mem_groupSorted [Std.Trichotomous fun a b : K => lt a b = true]
    {xs : List α} {g : K × List α} (hg : g ∈ groupSorted lt key xs) {y : α} (hy : y ∈ g.2) :
    y ∈ xs ∧ key y = g.1 :=
  foldl_insertGroup_inv (· ∈ xs) xs (fun _ h => h) [] (by simp) g hg y hy

/-- Two orders that tell keys apart give a lexicographic order on pairs that does too. -/
theorem lex_trichotomous {K₁ K₂ : Type} [BEq K₁] [LawfulBEq K₁] {lt₁ : K₁ → K₁ → Bool}
    {lt₂ : K₂ → K₂ → Bool} (h₁ : Std.Trichotomous fun a b : K₁ => lt₁ a b = true)
    (h₂ : Std.Trichotomous fun a b : K₂ => lt₂ a b = true) :
    Std.Trichotomous fun a b : K₁ × K₂ => (lt₁ a.1 b.1 || (a.1 == b.1 && lt₂ a.2 b.2)) = true := by
  constructor
  rintro ⟨a₁, a₂⟩ ⟨b₁, b₂⟩ hab hba
  simp only [Bool.or_eq_true, Bool.and_eq_true, beq_iff_eq, not_or, not_and] at hab hba
  have h1 : a₁ = b₁ := h₁.trichotomous a₁ b₁ hab.1 hba.1
  subst h1
  have h2 : a₂ = b₂ := h₂.trichotomous a₂ b₂ (hab.2 rfl) (hba.2 rfl)
  rw [h2]

end Groups

instance intLt_trichotomous : Std.Trichotomous fun a b : Int => decide (a < b) = true := by
  constructor
  intro a b hab hba
  simp only [decide_eq_true_eq] at hab hba
  omega

instance stringLt_trichotomous : Std.Trichotomous fun a b : String => decide (a < b) = true := by
  constructor
  intro a b hab hba
  simp only [decide_eq_true_eq, not_lt] at hab hba
  exact le_antisymm hba hab

instance : Std.Trichotomous fun a b : Option Int => optIntLt a b = true := by
  constructor
  rintro (_ | a) (_ | b) hab hba
  · rfl
  · simp [optIntLt] at hab
  · simp [optIntLt] at hba
  · simp only [optIntLt, decide_eq_true_eq] at hab hba
    rw [show a = b by omega]

instance : Std.Trichotomous fun a b : UserKey => userKeyLt a b = true := by
  unfold userKeyLt
  exact @lex_trichotomous (Option Int) String _ _ optIntLt (fun a b => decide (a < b))
    inferInstance inferInstance

instance : Std.Trichotomous fun a b : Option Int × UserKey => serverUserLt a b = true :=
  lex_trichotomous inferInstance inferInstance

instance : Std.Trichotomous fun a b : Option Int × String => serverTextLt a b = true := by
  unfold serverTextLt
  exact @lex_trichotomous (Option Int) String _ _ optIntLt (fun a b => decide (a < b))
    inferInstance inferInstance

/-! ## Selection -/

/-- A fold that keeps one of its two arguments ends on an item of the list. -/
theorem foldl_mem_of_pick {α : Type} {f : α → α → α} (hf : ∀ a b, f a b = a ∨ f a b = b)
    (x : α) (xs : List α) : xs.foldl f x ∈ x :: xs := by
  induction xs generalizing x with
  | nil => exact List.mem_cons_self
  | cons y ys ih =>
    rw [List.foldl_cons]
    rcases List.mem_cons.mp (ih (f x y)) with h | h
    · rcases hf x y with hx | hy
      · rw [h, hx]
        exact List.mem_cons_self
      · rw [h, hy]
        exact List.mem_cons_of_mem _ List.mem_cons_self
    · exact List.mem_cons_of_mem _ (List.mem_cons_of_mem _ h)

theorem newestSession_mem {xs : List LiveSession} {t : LiveSession}
    (h : newestSession xs = some t) : t ∈ xs := by
  cases xs with
  | nil => simp [newestSession] at h
  | cons x xs =>
    simp only [newestSession, Option.some.injEq] at h
    rw [← h]
    exact foldl_mem_of_pick (fun a b => by split <;> simp) x xs

theorem oldestSession_mem {xs : List LiveSession} {t : LiveSession}
    (h : oldestSession xs = some t) : t ∈ xs := by
  cases xs with
  | nil => simp [oldestSession] at h
  | cons x xs =>
    simp only [oldestSession, Option.some.injEq] at h
    rw [← h]
    exact foldl_mem_of_pick (fun a b => by split <;> simp) x xs

/-- The session a selector chooses is one of the candidates. -/
theorem selectTarget_mem {xs : List LiveSession} {sel : Selector} {t : LiveSession}
    (h : selectTarget xs sel = some t) : t ∈ xs := by
  cases sel with
  | killNewest => exact newestSession_mem h
  | killOldest => exact oldestSession_mem h
  | killTranscodingFirst =>
    simp only [selectTarget] at h
    split at h
    · rename_i s hs
      cases h
      exact (List.mem_filter.mp (newestSession_mem hs)).1
    · exact newestSession_mem h

/-- A violation seen again is one of the same kind, server and actor. -/
theorem Violation.sameAs_iff {v w : Violation} :
    v.sameAs w = true ↔ v.kind = w.kind ∧ v.serverId = w.serverId ∧ v.actorKey = w.actorKey := by
  simp [Violation.sameAs, and_assoc]

/-! ## The emitters -/

/-- The kinds whose violations are narrowed to the one session the selector would stop. -/
def ViolationKind.narrowed : ViolationKind → Bool
  | .userStreams | .userIps | .ipStreams => true
  | .serverTranscodes | .transcode4k | .bitrate | .device => false

namespace Policy

/-- What a violation reported by a policy over a pool of sessions satisfies: it is the policy's,
its sessions are sessions of the pool on its server, the first of them names its family, it
carries the policy's warning settings, and a counting rule names one session. -/
structure Finding (p : Policy) (pool : List LiveSession) (v : Violation) : Prop where
  policyId_eq : v.policyId = p.id
  sessions_ne_nil : v.sessions ≠ []
  mem_pool : ∀ s ∈ v.sessions, s ∈ pool
  serverId_eq : ∀ s ∈ v.sessions, s.serverId = v.serverId
  provider_eq : v.sessions.head?.map (·.provider) = some v.provider
  selector_eq : v.selector = p.options.selector
  warnTitle_eq : v.warnTitle = p.options.warnTitle
  warnText_eq : v.warnText = p.options.warnText
  length_eq_one : v.kind.narrowed = true → v.sessions.length = 1

variable {p : Policy} {kind : ViolationKind} {pool : List LiveSession} {v : Violation}

theorem Finding.mono {pool' : List LiveSession} (h : p.Finding pool v)
    (hsub : ∀ s ∈ pool, s ∈ pool') : p.Finding pool' v :=
  { h with mem_pool := fun s hs => hsub s (h.mem_pool s hs) }

/-- A narrowed violation names one of the candidates. -/
theorem mem_single {user : Option UserKey} {actorKey : String} {candidates : List LiveSession}
    {reason : String} (hv : v ∈ p.single kind user actorKey candidates reason) :
    ∃ t ∈ candidates, v = p.violation kind user actorKey t.serverId t.provider [t] reason := by
  unfold single at hv
  split at hv
  · rename_i t ht
    exact ⟨t, selectTarget_mem ht, List.mem_singleton.mp hv⟩
  · simp at hv

theorem finding_of_mem_single {user : Option UserKey} {actorKey : String}
    {candidates : List LiveSession} {reason : String} (hc : ∀ s ∈ candidates, s ∈ pool) (hv : v ∈ p.single kind user actorKey candidates reason) :
    p.Finding pool v := by
  obtain ⟨t, ht, rfl⟩ := mem_single hv
  refine ⟨rfl, by simp [violation], ?_, ?_, rfl, rfl, rfl, rfl, fun _ => rfl⟩
  · intro s hs
    rw [show s = t by simpa [violation] using hs]
    exact hc t ht
  · intro s hs
    rw [show s = t by simpa [violation] using hs]
    rfl

/-- A server-wide violation carries a non-empty group of offending sessions of its server, led by
the session whose family it names. -/
theorem mem_perServer {offending : List LiveSession} {reason : List LiveSession → String}
    (hv : v ∈ p.perServer kind offending reason) :
    ∃ sid first rest,
      v = p.violation kind none ("rule:" ++ kind.name) sid first.provider (first :: rest)
        (reason (first :: rest)) ∧
      ∀ s ∈ first :: rest, s ∈ offending ∧ s.serverId = sid := by
  unfold perServer at hv
  rw [List.mem_filterMap] at hv
  obtain ⟨⟨sid, ss⟩, hg, hv⟩ := hv
  cases ss with
  | nil => simp at hv
  | cons first rest =>
    simp only [Option.some.injEq] at hv
    exact ⟨sid, first, rest, hv.symm, fun s hs => mem_of_mem_groupSorted hg hs⟩

theorem finding_of_mem_perServer {offending : List LiveSession}
    {reason : List LiveSession → String} (hk : kind.narrowed = false)
    (ho : ∀ s ∈ offending, s ∈ pool) (hv : v ∈ p.perServer kind offending reason) :
    p.Finding pool v := by
  obtain ⟨sid, first, rest, rfl, hss⟩ := mem_perServer hv
  refine ⟨rfl, by simp [violation], ?_, ?_, rfl, rfl, rfl, rfl, ?_⟩
  · intro s hs
    exact ho s (hss s hs).1
  · intro s hs
    exact (hss s hs).2
  · simp [violation, hk]

/-! ## The rules -/

variable {inScope : List LiveSession} {o : Overrides}

theorem finding_of_mem_userStreams (hv : v ∈ p.userStreams inScope o) :
    p.Finding inScope v := by
  unfold userStreams at hv
  rw [List.mem_flatMap] at hv
  obtain ⟨⟨⟨server, user⟩, ss⟩, hg, hv⟩ := hv
  simp only [List.mem_ite_nil_left] at hv
  refine finding_of_mem_single (fun s hs => ?_) hv.2
  exact (mem_of_mem_groupSorted hg (List.mem_filter.mp hs).1).1

theorem finding_of_mem_userIps (hv : v ∈ p.userIps inScope o) : p.Finding inScope v := by
  unfold userIps at hv
  rw [List.mem_flatMap] at hv
  obtain ⟨⟨user, ss⟩, hg, hv⟩ := hv
  simp only [List.mem_ite_nil_left] at hv
  refine finding_of_mem_single (fun s hs => ?_) hv.2.2
  exact (mem_of_mem_groupSorted hg (List.mem_filter.mp hs).1).1

theorem finding_of_mem_ipStreams (hv : v ∈ p.ipStreams inScope o) : p.Finding inScope v := by
  unfold ipStreams at hv
  rw [List.mem_flatMap] at hv
  obtain ⟨⟨⟨server, ip⟩, ss⟩, hg, hv⟩ := hv
  simp only [List.mem_ite_nil_left] at hv
  refine finding_of_mem_single (fun s hs => ?_) hv.2
  exact (List.mem_filter.mp (mem_of_mem_groupSorted hg hs).1).1

theorem finding_of_mem_serverTranscodes (hv : v ∈ p.serverTranscodes inScope) :
    p.Finding inScope v := by
  unfold serverTranscodes at hv
  refine finding_of_mem_perServer rfl (fun s hs => ?_) hv
  obtain ⟨g, hg, hs⟩ := List.mem_flatMap.mp hs
  exact (List.mem_filter.mp (mem_of_mem_groupSorted (List.mem_filter.mp hg).1 hs).1).1

theorem finding_of_mem_transcodes4k (hv : v ∈ p.transcodes4k inScope) :
    p.Finding inScope v := by
  unfold transcodes4k at hv
  exact finding_of_mem_perServer rfl (fun s hs => (List.mem_filter.mp hs).1) hv

theorem finding_of_mem_bitrates (hv : v ∈ p.bitrates inScope) : p.Finding inScope v := by
  unfold bitrates at hv
  simp only [List.mem_ite_nil_right] at hv
  exact finding_of_mem_perServer rfl (fun s hs => (List.mem_filter.mp hs).1) hv.2

theorem finding_of_mem_devices (hv : v ∈ p.devices inScope) : p.Finding inScope v := by
  unfold devices at hv
  simp only [List.mem_ite_nil_left] at hv
  exact finding_of_mem_perServer rfl (fun s hs => (List.mem_filter.mp hs).1) hv.2

/-- Every violation of an evaluation is a finding over the sessions the policy applies to. -/
theorem finding_of_mem_evaluate {sessions : List LiveSession} (hv : v ∈ p.evaluate sessions o) :
    p.Finding (sessions.filter p.appliesTo) v := by
  unfold evaluate at hv
  split at hv
  · exact finding_of_mem_userStreams hv
  · exact finding_of_mem_userIps hv
  · exact finding_of_mem_ipStreams hv
  · exact finding_of_mem_serverTranscodes hv
  · exact finding_of_mem_transcodes4k hv
  · exact finding_of_mem_bitrates hv
  · exact finding_of_mem_devices hv

end Policy

/-! ## Every violation is well formed -/

/-- Every violation of an evaluation belongs to the policy, names sessions of the evaluated list
that the policy applies to, all on the violation's server and led by the one whose family it
gives, carries the policy's selector and warning, and names exactly one session when it comes
from a rule that counts streams or addresses. -/
theorem evaluate_violation_wellFormed {p : Policy} {sessions : List LiveSession} {o : Overrides}
    {v : Violation} (hv : v ∈ p.evaluate sessions o) :
    v.policyId = p.id ∧ v.sessions ≠ [] ∧
      (∀ s ∈ v.sessions, s ∈ sessions ∧ p.appliesTo s = true) ∧
      (∀ s ∈ v.sessions, s.serverId = v.serverId) ∧
      v.sessions.head?.map (·.provider) = some v.provider ∧
      v.selector = p.options.selector ∧ v.warnTitle = p.options.warnTitle ∧
      v.warnText = p.options.warnText ∧
      (v.kind = .userStreams ∨ v.kind = .userIps ∨ v.kind = .ipStreams →
        v.sessions.length = 1) := by
  have h := Policy.finding_of_mem_evaluate hv
  refine ⟨h.policyId_eq, h.sessions_ne_nil, fun s hs => List.mem_filter.mp (h.mem_pool s hs),
    h.serverId_eq, h.provider_eq, h.selector_eq, h.warnTitle_eq, h.warnText_eq, ?_⟩
  rintro (hk | hk | hk) <;> exact h.length_eq_one (by simp [hk, ViolationKind.narrowed])

/-- A 4K transcode is reported on its own server with the policy's settings. -/
theorem transcode4k_violation_wellFormed :
    let p : Policy := { (default : Policy) with rule := .ban4kTranscode }
    let s : LiveSession := { isTranscode := true, mediaHeight := some 2160 }
    let v := p.violation .transcode4k none "rule:4k_transcode" 1 "plex" [s]
      "ban_4k_transcode: 4K transcode detected"
    v ∈ p.evaluate [s] [] ∧
      (v.policyId = p.id ∧ v.sessions ≠ [] ∧
        (∀ t ∈ v.sessions, t ∈ [s] ∧ p.appliesTo t = true) ∧
        (∀ t ∈ v.sessions, t.serverId = v.serverId) ∧
        v.sessions.head?.map (·.provider) = some v.provider ∧
        v.selector = p.options.selector ∧ v.warnTitle = p.options.warnTitle ∧
        v.warnText = p.options.warnText ∧
        (v.kind = .userStreams ∨ v.kind = .userIps ∨ v.kind = .ipStreams →
          v.sessions.length = 1)) := by
  intro p s v
  have hv : v ∈ p.evaluate [s] [] := by
    have he : p.evaluate [s] [] = [v] := rfl
    rw [he]
    exact List.mem_singleton_self v
  exact ⟨hv, evaluate_violation_wellFormed hv⟩

end StreamWarden
