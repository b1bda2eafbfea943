import StreamWarden.Proofs.Evaluation

/-!
# Match keys of one evaluation

A recheck finds a violation again by its match key: its kind, its server and its actor. Within
one evaluation two violations share a match key in one way only.

Groups are built with distinct keys, since insertion keeps them sorted, and each group reports at
most once. A server-wide rule reports each server once; an address rule names its address, and
the server too when it counts per server. A user rule names its user as `vodum:<id>`,
`ext:<account>` or `ext:unknown`, and the last two meet when an account is named `unknown`: that
account and the sessions with no account at all are two groups under one actor, and when both
report on one server their violations have one match key.
-/

namespace StreamWarden

/-! ## Groups have distinct keys -/

section Sorted

variable {K α : Type} {lt : K → K → Bool}

/-- The keys of a list of groups, in ascending order of `lt`. -/
def GroupsSorted (lt : K → K → Bool) (groups : List (K × List α)) : Prop :=
  groups.Pairwise fun g h => lt g.1 h.1 = true

theorem key_of_mem_insertGroup {k : K} {x : α} {groups : List (K × List α)} {g : K × List α}
    (hg : g ∈ insertGroup lt k x groups) : g.1 = k ∨ ∃ h ∈ groups, h.1 = g.1 := by
  rcases mem_insertGroup hg with rfl | hg | ⟨xs, hxs, -, -, -⟩
  · exact .inl rfl
  · exact .inr ⟨g, hg, rfl⟩
  · exact .inr ⟨(g.1, xs), hxs, rfl⟩

variable [IsTrans K fun a b => lt a b = true]

theorem insertGroup_sorted (k : K) (x : α) {groups : List (K × List α)}
    (hs : GroupsSorted lt groups) : GroupsSorted lt (insertGroup lt k x groups) := by
  induction groups with
  | nil => exact List.pairwise_singleton _ _
  | cons first rest ih =>
    obtain ⟨k', xs⟩ := first
    obtain ⟨hfirst, hrest⟩ := List.pairwise_cons.mp hs
    unfold insertGroup
    by_cases hlt : lt k k' = true
    · simp only [hlt, if_true]
      refine List.pairwise_cons.mpr ⟨?_, hs⟩
      intro g hg
      rcases List.mem_cons.mp hg with rfl | hg
      · exact hlt
      · exact IsTrans.trans (r := fun a b => lt a b = true) _ _ _ hlt (hfirst g hg)
    by_cases hgt : lt k' k = true
    · simp only [hlt, hgt, if_true, if_false, Bool.false_eq_true]
      refine List.pairwise_cons.mpr ⟨?_, ih hrest⟩
      intro g hg
      rcases key_of_mem_insertGroup hg with hk | ⟨h, hh, hk⟩
      · rw [hk]
        exact hgt
      · rw [← hk]
        exact hfirst h hh
    · simp only [hlt, hgt, if_false, Bool.false_eq_true]
      exact List.pairwise_cons.mpr ⟨hfirst, hrest⟩

theorem groupSorted_sorted (key : α → K) (xs : List α) :
    GroupsSorted lt (groupSorted lt key xs) := by
  suffices h : ∀ acc, GroupsSorted lt acc →
      GroupsSorted lt (xs.foldl (fun acc x => insertGroup lt (key x) x acc) acc) from
    h [] List.Pairwise.nil
  induction xs with
  | nil => exact fun _ h => h
  | cons x xs ih => exact fun acc h => ih _ (insertGroup_sorted (key x) x h)

/-- Grouping gives each key one group. -/
theorem groupSorted_keys_ne [Std.Irrefl fun a b : K => lt a b = true] (key : α → K)
    (xs : List α) : (groupSorted lt key xs).Pairwise fun g h => g.1 ≠ h.1 := by
  refine (groupSorted_sorted key xs).imp fun {g h} hlt heq => ?_
  rw [heq] at hlt
  exact Std.Irrefl.irrefl (r := fun a b : K => lt a b = true) _ hlt

end Sorted

/-! ## The orders of group keys are strict -/

/-- Lexicographic order of two strict orders is transitive. -/
theorem lex_trans {K₁ K₂ : Type} [BEq K₁] [LawfulBEq K₁] {lt₁ : K₁ → K₁ → Bool}
    {lt₂ : K₂ → K₂ → Bool} (h₁ : IsTrans K₁ fun a b => lt₁ a b = true)
    (h₂ : IsTrans K₂ fun a b => lt₂ a b = true) :
    IsTrans (K₁ × K₂) fun a b => (lt₁ a.1 b.1 || (a.1 == b.1 && lt₂ a.2 b.2)) = true := by
  constructor
  rintro ⟨a₁, a₂⟩ ⟨b₁, b₂⟩ ⟨c₁, c₂⟩ hab hbc
  simp only [Bool.or_eq_true, Bool.and_eq_true, beq_iff_eq] at hab hbc ⊢
  rcases hab with hab | ⟨rfl, hab⟩ <;> rcases hbc with hbc | ⟨rfl, hbc⟩
  · exact .inl (h₁.trans _ _ _ hab hbc)
  · exact .inl hab
  · exact .inl hbc
  · exact .inr ⟨rfl, h₂.trans _ _ _ hab hbc⟩

theorem lex_irrefl {K₁ K₂ : Type} [BEq K₁] {lt₁ : K₁ → K₁ → Bool} {lt₂ : K₂ → K₂ → Bool}
    (h₁ : Std.Irrefl fun a b : K₁ => lt₁ a b = true) (h₂ : Std.Irrefl fun a b : K₂ => lt₂ a b = true) :
    Std.Irrefl fun a b : K₁ × K₂ => (lt₁ a.1 b.1 || (a.1 == b.1 && lt₂ a.2 b.2)) = true := by
  constructor
  rintro ⟨a₁, a₂⟩ h
  simp only [Bool.or_eq_true, Bool.and_eq_true] at h
  rcases h with h | ⟨-, h⟩
  · exact h₁.irrefl a₁ h
  · exact h₂.irrefl a₂ h

instance intLt_isTrans : IsTrans Int fun a b => decide (a < b) = true :=
  ⟨fun a b c hab hbc => by simp only [decide_eq_true_eq] at hab hbc ⊢; omega⟩

instance intLt_irrefl : Std.Irrefl fun a b : Int => decide (a < b) = true :=
  ⟨fun a h => by simp at h⟩

instance stringLt_isTrans : IsTrans String fun a b => decide (a < b) = true :=
  ⟨fun a b c hab hbc => by simp only [decide_eq_true_eq] at hab hbc ⊢; exact lt_trans hab hbc⟩

instance stringLt_irrefl : Std.Irrefl fun a b : String => decide (a < b) = true :=
  ⟨fun a h => by simp at h⟩

instance : IsTrans (Option Int) fun a b => optIntLt a b = true := by
  constructor
  rintro (_ | a) (_ | b) (_ | c) hab hbc <;> simp_all [optIntLt]
  omega

instance : Std.Irrefl fun a b : Option Int => optIntLt a b = true :=
  ⟨fun a h => by cases a <;> simp [optIntLt] at h⟩

instance : IsTrans UserKey fun a b => userKeyLt a b = true := by
  unfold userKeyLt
  exact @lex_trans (Option Int) String _ _ optIntLt (fun a b => decide (a < b))
    inferInstance inferInstance

instance : Std.Irrefl fun a b : UserKey => userKeyLt a b = true := by
  unfold userKeyLt
  exact @lex_irrefl (Option Int) String _ optIntLt (fun a b => decide (a < b))
    inferInstance inferInstance

instance : IsTrans (Option Int × UserKey) fun a b => serverUserLt a b = true :=
  lex_trans inferInstance inferInstance

instance : Std.Irrefl fun a b : Option Int × UserKey => serverUserLt a b = true :=
  lex_irrefl inferInstance inferInstance

instance : IsTrans (Option Int × String) fun a b => serverTextLt a b = true := by
  unfold serverTextLt
  exact @lex_trans (Option Int) String _ _ optIntLt (fun a b => decide (a < b))
    inferInstance inferInstance

instance : Std.Irrefl fun a b : Option Int × String => serverTextLt a b = true := by
  unfold serverTextLt
  exact @lex_irrefl (Option Int) String _ optIntLt (fun a b => decide (a < b))
    inferInstance inferInstance

/-! ## Actors of users -/

theorem Text.dropBlank_eq_self {cs : List Char} (h : ∀ c ∈ cs.head?, Text.isBlank c = false) :
    Text.dropBlank cs = cs := by
  cases cs with
  | nil => rfl
  | cons c rest => exact List.dropWhile_cons_of_neg (by simpa using h)

theorem Text.head_dropBlank (cs : List Char) :
    ∀ c ∈ (Text.dropBlank cs).head?, Text.isBlank c = false := by
  intro c hc
  have h := List.head?_dropWhile_not Text.isBlank cs
  rw [Option.mem_def] at hc
  unfold Text.dropBlank at hc
  rw [hc] at h
  exact h

theorem Text.getLast_dropBlank (cs : List Char) :
    ∀ c ∈ (Text.dropBlank cs).getLast?, c ∈ cs.getLast? := by
  intro c hc
  obtain ⟨pre, hpre⟩ := List.dropWhile_suffix (l := cs) Text.isBlank
  rw [← hpre]
  exact List.mem_getLast?_append_of_mem_getLast? hc

theorem Text.trimList_trimList (cs : List Char) :
    Text.trimList (Text.trimList cs) = Text.trimList cs := by
  unfold Text.trimList
  generalize hL : Text.dropBlank cs = L
  generalize hM : Text.dropBlank L.reverse = M
  have hfront : Text.dropBlank M.reverse = M.reverse := by
    apply Text.dropBlank_eq_self
    intro c hc
    rw [List.head?_reverse] at hc
    have hc' := Text.getLast_dropBlank L.reverse c (hM ▸ hc)
    rw [List.getLast?_reverse, ← hL] at hc'
    exact Text.head_dropBlank cs c hc'
  rw [hfront, List.reverse_reverse, ← hM, Text.dropBlank_eq_self (Text.head_dropBlank _)]

theorem Text.trim_trim (s : String) : Text.trim (Text.trim s) = Text.trim s := by
  simp only [Text.trim, String.toList_ofList, Text.trimList_trimList]

/-- Integers are written apart: no two have the same decimal text. -/
theorem toString_int_injective {a b : Int} (h : toString a = toString b) : a = b := by
  have digits : ∀ {m n : Nat}, Nat.repr m = Nat.repr n → m = n := by
    intro m n hmn
    have := congrArg (fun s => Nat.ofDigitChars 10 s.toList 0) hmn
    simpa only [Nat.toList_repr, Nat.ofDigitChars_ten_toDigits] using this
  have sign : ∀ m n : Nat, Nat.repr m ≠ "-" ++ Nat.repr n := by
    intro m n hmn
    have hhead := congrArg (fun s => s.toList.head?) hmn
    simp only [String.toList_append, Nat.toList_repr] at hhead
    obtain ⟨c, hc⟩ : ∃ c, (Nat.toDigits 10 m).head? = some c :=
      Option.ne_none_iff_exists'.mp (List.head?_eq_none_iff.not.mpr Nat.toDigits_ne_nil)
    have hdigit : c.isDigit = true :=
      Nat.isDigit_of_mem_toDigits (b := 10) (n := m) (by decide) (by decide)
        (List.mem_of_mem_head? hc)
    rw [hc] at hhead
    simp at hhead
    rw [hhead] at hdigit
    exact absurd hdigit (by decide)
  change Int.repr a = Int.repr b at h
  cases a with
  | ofNat m =>
    cases b with
    | ofNat n => exact congrArg _ (digits h)
    | negSucc n => exact absurd h (sign _ _)
  | negSucc m =>
    cases b with
    | ofNat n => exact absurd h.symm (sign _ _)
    | negSucc n =>
      have h' : Nat.repr (m + 1) = Nat.repr (n + 1) := by
        have := congrArg String.toList h
        simp only [Int.repr, String.toList_append] at this
        exact String.ext (List.append_cancel_left this)
      have := digits h'
      omega

theorem append_left_cancel {p a b : String} (h : p ++ a = p ++ b) : a = b := by
  have := congrArg String.toList h
  simp only [String.toList_append] at this
  exact String.ext (List.append_cancel_left this)

/-- A user key as sessions make them: a monitor user with no account name, or the trimmed
account name. -/
def UserKey.WellFormed (u : UserKey) : Prop :=
  match u.1 with
  | some _ => u.2 = ""
  | none => Text.trim u.2 = u.2

theorem LiveSession.userKey_wellFormed (s : LiveSession) : s.userKey.WellFormed := by
  unfold LiveSession.userKey
  split <;> simp [UserKey.WellFormed, Text.trim_trim]

theorem userActorKey_of_trimmed {e : String} (he : Text.trim e = e) :
    userActorKey none e = "ext:" ++ (if e.isEmpty then "unknown" else e) := by
  simp only [userActorKey, he]
  split <;> rfl

theorem userActorKey_some (id : Int) (e : String) :
    userActorKey (some id) e = "vodum:" ++ toString id := rfl

theorem vodum_ne_ext (x y : String) : "vodum:" ++ x ≠ "ext:" ++ y := by
  intro h
  have hhead := congrArg (fun s => s.toList.head?) h
  simp [String.toList_append] at hhead

/-- Two user keys have one actor only when they are the same, or when one is the sessions with no
account and the other the account named `unknown`. -/
theorem userActorKey_inj {u v : UserKey} (hu : u.WellFormed) (hv : v.WellFormed)
    (h : userActorKey u.1 u.2 = userActorKey v.1 v.2) :
    u = v ∨ u.1 = none ∧ v.1 = none ∧
      (u.2 = "" ∧ v.2 = "unknown" ∨ u.2 = "unknown" ∧ v.2 = "") := by
  obtain ⟨_ | a, e⟩ := u <;> obtain ⟨_ | b, f⟩ := v
  · have he : Text.trim e = e := hu
    have hf : Text.trim f = f := hv
    rw [userActorKey_of_trimmed he, userActorKey_of_trimmed hf] at h
    have h' := append_left_cancel h
    by_cases he : e = "" <;> by_cases hf : f = "" <;> simp_all
  · have he : Text.trim e = e := hu
    rw [userActorKey_of_trimmed he, userActorKey_some] at h
    exact absurd h.symm (vodum_ne_ext _ _)
  · have hf : Text.trim f = f := hv
    rw [userActorKey_of_trimmed hf, userActorKey_some] at h
    exact absurd h (vodum_ne_ext _ _)
  · have he : e = "" := hu
    have hf : f = "" := hv
    rw [userActorKey_some, userActorKey_some] at h
    rw [toString_int_injective (append_left_cancel h), he, hf]
    exact .inl rfl

/-! ## Violations that share a match key -/

/-- The two violations are about the sessions with no account and about the account named
`unknown`, in either order: both user groups have the actor `ext:unknown`. -/
def Violation.UnknownPair (v w : Violation) : Prop :=
  v.actorKey = "ext:unknown" ∧ v.vodumUserId = none ∧ w.vodumUserId = none ∧
    (v.externalUserId = none ∧ w.externalUserId = some "unknown" ∨
      v.externalUserId = some "unknown" ∧ w.externalUserId = none)

/-- Within a list of groups with distinct keys, each reporting at most once, a relation holds of
every two reports once it holds of reports of groups with different keys. -/
theorem pairwise_flatMap_of_keys_ne {K α β : Type} {G : List (K × List α)}
    {emit : K × List α → List β} {R : β → β → Prop} (hkeys : G.Pairwise fun g h => g.1 ≠ h.1)
    (hone : ∀ g ∈ G, (emit g).length ≤ 1)
    (hsep : ∀ g ∈ G, ∀ h ∈ G, g.1 ≠ h.1 → ∀ v ∈ emit g, ∀ w ∈ emit h, R v w) :
    (G.flatMap emit).Pairwise R := by
  refine List.pairwise_flatMap.mpr ⟨fun g hg => ?_, hkeys.imp_of_mem fun hg hh hne =>
    hsep _ hg _ hh hne⟩
  have hlen := hone g hg
  match emit g, hlen with
  | [], _ => exact List.Pairwise.nil
  | [_], _ => exact List.pairwise_singleton _ _

namespace Policy

variable {p : Policy}

theorem length_single_le (kind : ViolationKind) (user : Option UserKey) (actorKey : String)
    (candidates : List LiveSession) (reason : String) :
    (p.single kind user actorKey candidates reason).length ≤ 1 := by
  unfold single
  split <;> simp

theorem length_ite_nil_le {α : Type} {c : Prop} [Decidable c] {L : List α} (h : L.length ≤ 1) :
    (if c then [] else L).length ≤ 1 := by
  split
  · simp
  · exact h

theorem unknownPair_of_users {k k' : ViolationKind} {u u' : UserKey} {sid sid' : Int}
    {prov prov' : String} {ss ss' : List LiveSession} {r r' : String}
    (hpair : u.1 = none ∧ u'.1 = none ∧ (u.2 = "" ∧ u'.2 = "unknown" ∨ u.2 = "unknown" ∧ u'.2 = "")) :
    (p.violation k (some u) (userActorKey u.1 u.2) sid prov ss r).UnknownPair
      (p.violation k' (some u') (userActorKey u'.1 u'.2) sid' prov' ss' r') := by
  obtain ⟨u₁, u₂⟩ := u
  obtain ⟨u₁', u₂'⟩ := u'
  obtain ⟨h₁, h₁', ⟨rfl, rfl⟩ | ⟨rfl, rfl⟩⟩ := hpair <;> simp only at h₁ h₁' <;> subst h₁ h₁' <;>
    exact ⟨rfl, rfl, rfl, by simp [violation]⟩

variable {inScope : List LiveSession} {o : Overrides}

theorem userStreams_matchKeys :
    (p.userStreams inScope o).Pairwise fun v w => v.sameAs w = true → v.UnknownPair w := by
  unfold userStreams
  apply pairwise_flatMap_of_keys_ne (groupSorted_keys_ne _ _)
  · rintro ⟨⟨server, user⟩, ss⟩ -
    exact length_ite_nil_le (length_single_le _ _ _ _ _)
  · rintro ⟨⟨srv, u⟩, ss⟩ hg ⟨⟨srv', u'⟩, ss'⟩ hh hne v hv w hw hsame
    simp only [List.mem_ite_nil_left] at hv hw
    obtain ⟨t, ht, rfl⟩ := mem_single hv.2
    obtain ⟨t', ht', rfl⟩ := mem_single hw.2
    have hkey := (mem_of_mem_groupSorted hg (List.mem_filter.mp ht).1).2
    have hkey' := (mem_of_mem_groupSorted hh (List.mem_filter.mp ht').1).2
    simp only [Prod.mk.injEq] at hkey hkey'
    obtain ⟨-, hsid, hactor⟩ := Violation.sameAs_iff.mp hsame
    simp only [violation] at hsid hactor
    have hu := hkey.2 ▸ t.userKey_wellFormed
    have hu' := hkey'.2 ▸ t'.userKey_wellFormed
    rcases userActorKey_inj hu hu' hactor with rfl | hpair
    · refine absurd ?_ hne
      simp only [← hkey.1, ← hkey'.1, hsid]
    · exact unknownPair_of_users hpair

theorem userIps_matchKeys :
    (p.userIps inScope o).Pairwise fun v w => v.sameAs w = true → v.UnknownPair w := by
  unfold userIps
  apply pairwise_flatMap_of_keys_ne (groupSorted_keys_ne _ _)
  · rintro ⟨user, ss⟩ -
    exact length_ite_nil_le (length_ite_nil_le (length_single_le _ _ _ _ _))
  · rintro ⟨u, ss⟩ hg ⟨u', ss'⟩ hh hne v hv w hw hsame
    simp only [List.mem_ite_nil_left] at hv hw
    obtain ⟨t, ht, rfl⟩ := mem_single hv.2.2
    obtain ⟨t', ht', rfl⟩ := mem_single hw.2.2
    have hkey := (mem_of_mem_groupSorted hg (List.mem_filter.mp ht).1).2
    have hkey' := (mem_of_mem_groupSorted hh (List.mem_filter.mp ht').1).2
    obtain ⟨-, -, hactor⟩ := Violation.sameAs_iff.mp hsame
    simp only [violation] at hactor
    have hu : u.WellFormed := by
      rw [← show t.userKey = u from hkey]
      exact t.userKey_wellFormed
    have hu' : u'.WellFormed := by
      rw [← show t'.userKey = u' from hkey']
      exact t'.userKey_wellFormed
    rcases userActorKey_inj hu hu' hactor with rfl | hpair
    · exact absurd rfl hne
    · exact unknownPair_of_users hpair

/-- An address rule never reports two groups under one match key. -/
theorem ipStreams_matchKeys :
    (p.ipStreams inScope o).Pairwise fun v w => v.sameAs w = false := by
  unfold ipStreams
  apply pairwise_flatMap_of_keys_ne (groupSorted_keys_ne _ _)
  · rintro ⟨⟨server, ip⟩, ss⟩ -
    exact length_ite_nil_le (length_single_le _ _ _ _ _)
  · rintro ⟨⟨srv, ip⟩, ss⟩ hg ⟨⟨srv', ip'⟩, ss'⟩ hh hne v hv w hw
    simp only [List.mem_ite_nil_left] at hv hw
    obtain ⟨t, ht, rfl⟩ := mem_single hv.2
    obtain ⟨t', ht', rfl⟩ := mem_single hw.2
    have hkey := (mem_of_mem_groupSorted hg ht).2
    have hkey' := (mem_of_mem_groupSorted hh ht').2
    simp only [Prod.mk.injEq] at hkey hkey'
    rw [Bool.eq_false_iff]
    intro hsame
    obtain ⟨-, hsid, hactor⟩ := Violation.sameAs_iff.mp hsame
    simp only [violation] at hsid hactor
    have hip : ip = ip' := append_left_cancel hactor
    refine absurd ?_ hne
    simp only [← hkey.1, ← hkey'.1, hsid, hip]

/-- A server-wide rule reports each server once. -/
theorem perServer_matchKeys (kind : ViolationKind) (offending : List LiveSession)
    (reason : List LiveSession → String) :
    (p.perServer kind offending reason).Pairwise fun v w => v.sameAs w = false := by
  unfold perServer
  refine List.pairwise_filterMap.mpr ((groupSorted_keys_ne _ _).imp fun {g h} hne => ?_)
  obtain ⟨sid, ss⟩ := g
  obtain ⟨sid', ss'⟩ := h
  intro v hv w hw
  cases ss with
  | nil => simp at hv
  | cons first rest =>
    cases ss' with
    | nil => simp at hw
    | cons first' rest' =>
      simp only [Option.some.injEq] at hv hw
      subst hv hw
      rw [Bool.eq_false_iff]
      intro hsame
      exact hne (by simpa [violation] using (Violation.sameAs_iff.mp hsame).2.1)

end Policy

/-- Two violations of one evaluation share a match key only when they are the violations of
the sessions with no account and of the account named `unknown`: every other pair differs in
kind, server or actor. -/
theorem evaluate_shared_matchKey_unknownPair {p : Policy} {sessions : List LiveSession}
    {o : Overrides} :
    (p.evaluate sessions o).Pairwise fun v w => v.sameAs w = true → v.UnknownPair w := by
  have never : ∀ {vs : List Violation}, vs.Pairwise (fun v w => v.sameAs w = false) →
      vs.Pairwise fun v w => v.sameAs w = true → v.UnknownPair w :=
    fun h => h.imp fun hne hsame => absurd (hne ▸ hsame) (by simp)
  unfold Policy.evaluate
  split
  · exact Policy.userStreams_matchKeys
  · exact Policy.userIps_matchKeys
  · exact never Policy.ipStreams_matchKeys
  · exact never (by dsimp only [Policy.serverTranscodes]; exact Policy.perServer_matchKeys _ _ _)
  · exact never (by dsimp only [Policy.transcodes4k]; exact Policy.perServer_matchKeys _ _ _)
  · dsimp only [Policy.bitrates]
    split
    · exact never (Policy.perServer_matchKeys _ _ _)
    · exact List.Pairwise.nil
  · dsimp only [Policy.devices]
    split
    · exact List.Pairwise.nil
    · exact never (Policy.perServer_matchKeys _ _ _)

/-- A policy allowing no streams per user, over one session with no account and one of the
account named `unknown` on the same server, reports two violations with one match key. -/
theorem anonymous_and_unknown_share_matchKey :
    let p : Policy := { id := 1, priority := 100, scope := .global, scopeId := none,
                        provider := none, serverId := none, rule := .maxStreamsPerUser,
                        options := { max := some 0 } }
    let a : LiveSession := { sessionKey := "a", startedAt := 1, lastSeenAt := 1 }
    let b : LiveSession := { sessionKey := "b", externalUserId := some "unknown", startedAt := 2,
                             lastSeenAt := 2 }
    ¬ (p.evaluate [a, b] []).Pairwise fun v w => v.sameAs w = false := by
  decide

end StreamWarden
