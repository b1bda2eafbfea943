import StreamWarden.Store.Users
import Mathlib.Order.Bounds.Basic

/-!
# Finding the account of a session's user

A session names its user on a server by an external id and a user name. The rule for the
account it belongs to (`ResolvesTo`) is stated here without the lookup: the account of the
server whose external id is the trimmed external id, when there is one; otherwise, for a
non-blank trimmed name, the least id among the server's accounts whose user name folds to the
same ASCII lowercase; otherwise no account.

Main statement (`Store.resolveAccount_eq_iff_resolvesTo`): over a store that keeps the unique
index of external ids (`Store.ExternalIdsUnique`), the lookup returns exactly what the rule
gives, and so only ever an account of the server asked about. The lookup is a function of the
store: it writes nothing.
-/

namespace StreamWarden

/-- The key of an account in the unique index of external ids: its server and external id, for
a non-empty external id only. -/
def AccountRow.externalKey (a : AccountRow) : Option (Int × String) :=
  (a.externalUserId.filter (!·.isEmpty)).map (a.serverId, ·)

/-- The account has a server's user name `name`: its user name folds to the same ASCII
lowercase. -/
def AccountRow.Named (a : AccountRow) (serverId : Int) (name : String) : Prop :=
  a.serverId = serverId ∧ a.username.map Text.asciiLower = some (Text.asciiLower name)

theorem Text.nonBlank_isEmpty {s x : String} (h : Text.nonBlank s = some x) :
    x.isEmpty = false := by
  dsimp only [Text.nonBlank] at h
  split at h
  · cases h
  · rename_i hne
    cases h
    exact Bool.eq_false_iff.mpr hne

namespace Store

/-- The unique index of the account table: no two accounts share a server and a non-empty
external id. -/
def ExternalIdsUnique (s : Store) : Prop := (s.accounts.filterMap (·.externalKey)).Nodup

instance (s : Store) : Decidable s.ExternalIdsUnique :=
  inferInstanceAs (Decidable (s.accounts.filterMap (·.externalKey)).Nodup)

/-- The index holds of every store built by adding accounts one at a time. -/
theorem ExternalIdsUnique.addAccount {s s' : Store} {row : AccountRow}
    (hs : s.ExternalIdsUnique) (h : s.addAccount row = .ok s') : s'.ExternalIdsUnique := by
  dsimp only [Store.addAccount] at h
  split at h
  · cases h
  split at h
  · cases h
  rename_i hnew
  split at h
  · cases h
  split at h
  · cases h
  cases h
  unfold ExternalIdsUnique
  rw [List.filterMap_append, List.nodup_append]
  refine ⟨hs, by cases hk : row.externalKey <;> simp [hk], ?_⟩
  intro k hk k' hk' hkk'
  subst hkk'
  obtain ⟨a, ha, hka⟩ := List.mem_filterMap.mp hk
  have hrow : row.externalKey = some k := by simpa using hk'
  simp only [AccountRow.externalKey, Option.map_eq_some_iff, Option.filter_eq_some_iff] at hka hrow
  obtain ⟨x, ⟨hax, -⟩, hak⟩ := hka
  obtain ⟨y, ⟨hry, hyne⟩, hrk⟩ := hrow
  rw [← hrk, Prod.mk.injEq] at hak
  obtain ⟨hsid, rfl⟩ := hak
  apply hnew
  simp only [hry, Option.filter_some, hyne, if_true, Option.isSome_some, Bool.true_and,
    List.any_eq_true, Bool.and_eq_true, beq_iff_eq]
  exact ⟨a, ha, hsid, hax⟩

/-- Under the index, an account with a non-empty external id is the first, and only, account of
its server with that external id. -/
theorem find?_external_eq {s : Store} (hs : s.ExternalIdsUnique) {b : AccountRow}
    (hb : b ∈ s.accounts) {serverId : Int} {x : String} (hbs : b.serverId = serverId)
    (hbx : b.externalUserId = some x) (hx : x.isEmpty = false) :
    s.accounts.find? (fun a => a.serverId == serverId && a.externalUserId == some x) = some b := by
  have hkey : ∀ a : AccountRow, (a.serverId == serverId && a.externalUserId == some x) = true →
      a.externalKey = some (serverId, x) := by
    intro a ha
    have hx' : x ≠ "" := fun h => by simp [h] at hx
    simp only [Bool.and_eq_true, beq_iff_eq] at ha
    simp [AccountRow.externalKey, ha.1, ha.2, hx']
  cases hfind : s.accounts.find? (fun a => a.serverId == serverId && a.externalUserId == some x)
    with
  | none =>
    have := List.find?_eq_none.mp hfind b hb
    simp [hbs, hbx] at this
  | some a =>
    obtain ⟨ha, pre, post, hsplit, hpre⟩ := List.find?_eq_some_iff_append.mp hfind
    rw [hsplit] at hb
    rcases List.mem_append.mp hb with hb | hb
    · have := hpre b hb
      simp [hbs, hbx] at this
    rcases List.mem_cons.mp hb with rfl | hb
    · rfl
    · have hnodup := hs
      unfold ExternalIdsUnique at hnodup
      rw [hsplit, List.filterMap_append, List.filterMap_cons, hkey a ha] at hnodup
      have hbkey := hkey b (by simp [hbs, hbx])
      have hmem : (serverId, x) ∈ post.filterMap (·.externalKey) :=
        List.mem_filterMap.mpr ⟨b, hb, hbkey⟩
      exact absurd hmem (List.nodup_cons.mp (List.nodup_append.mp hnodup).2.1).1

/-! ## The rule -/

/-- No account of the server has the trimmed external id. -/
def NoExternalMatch (s : Store) (serverId : Int) (ext : Option String) : Prop :=
  ∀ x, ext.bind Text.nonBlank = some x →
    ∀ a ∈ s.accounts, a.serverId = serverId → a.externalUserId ≠ some x

/-- The account a server's user resolves to. -/
inductive ResolvesTo (s : Store) (serverId : Int) (ext name : Option String) : Option Int → Prop
  /-- The account of the server with the trimmed external id. -/
  | external {x : String} {a : AccountRow} : ext.bind Text.nonBlank = some x → a ∈ s.accounts →
      a.serverId = serverId → a.externalUserId = some x → ResolvesTo s serverId ext name (some a.id)
  /-- Failing that, the least id among the server's accounts with the trimmed user name. -/
  | named {n : String} {id : Int} : s.NoExternalMatch serverId ext → name.bind Text.nonBlank = some n →
      IsLeast {i | ∃ a ∈ s.accounts, AccountRow.Named a serverId n ∧ a.id = i} id →
      ResolvesTo s serverId ext name (some id)
  /-- Otherwise, no account. -/
  | none : s.NoExternalMatch serverId ext →
      (∀ n, name.bind Text.nonBlank = some n → ∀ a ∈ s.accounts, ¬AccountRow.Named a serverId n) →
      ResolvesTo s serverId ext name none

variable {s : Store} {serverId : Int} {ext name : Option String}

/-- An account the rule gives belongs to the server asked about. -/
theorem ResolvesTo.serverId_eq {id : Int} (h : s.ResolvesTo serverId ext name (some id)) :
    ∃ a ∈ s.accounts, a.serverId = serverId ∧ a.id = id := by
  cases h with
  | external _ ha hs _ => exact ⟨_, ha, hs, rfl⟩
  | named _ _ hleast =>
    obtain ⟨a, ha, ⟨hs, -⟩, hid⟩ := hleast.1
    exact ⟨a, ha, hs, hid⟩

/-- Under the index, the rule gives one answer. -/
theorem ResolvesTo.deterministic (hs : s.ExternalIdsUnique) {r r' : Option Int}
    (h : s.ResolvesTo serverId ext name r) (h' : s.ResolvesTo serverId ext name r') : r = r' := by
  cases h with
  | external hx ha has hax =>
    cases h' with
    | external hx' hb hbs hbx =>
      rw [hx] at hx'
      cases hx'
      have hne := Text.nonBlank_isEmpty (Option.bind_eq_some_iff.mp hx).choose_spec.2
      have hab := (find?_external_eq hs ha has hax hne).symm.trans (find?_external_eq hs hb hbs hbx hne)
      rw [Option.some_inj.mp hab]
    | named hno => exact absurd hax (hno _ hx _ ha has)
    | none hno => exact absurd hax (hno _ hx _ ha has)
  | named hno hn hleast =>
    cases h' with
    | external hx' hb hbs hbx => exact absurd hbx (hno _ hx' _ hb hbs)
    | named _ hn' hleast' =>
      rw [hn] at hn'
      cases hn'
      rw [hleast.unique hleast']
    | none _ hnone =>
      obtain ⟨a, ha, hnamed, -⟩ := hleast.1
      exact absurd hnamed (hnone _ hn a ha)
  | none hno hnone =>
    cases h' with
    | external hx' hb hbs hbx => exact absurd hbx (hno _ hx' _ hb hbs)
    | named _ hn' hleast' =>
      obtain ⟨a, ha, hnamed, -⟩ := hleast'.1
      exact absurd hnamed (hnone _ hn' a ha)
    | none => rfl

/-! ## The lookup follows the rule -/

/-- The lookup by user name gives what the rule's second and third cases give, once no account
has the external id. -/
theorem resolvesTo_byName (hno : s.NoExternalMatch serverId ext) :
    s.ResolvesTo serverId ext name ((name.bind Text.nonBlank).bind fun n =>
      ((s.accounts.filter fun a => a.serverId == serverId &&
        (a.username.map Text.asciiLower) == some (Text.asciiLower n)).map (·.id)).min?) := by
  have hnamed : ∀ n a, (a.serverId == serverId &&
      (a.username.map Text.asciiLower) == some (Text.asciiLower n)) = true ↔
        AccountRow.Named a serverId n := by
    intro n a
    simp [AccountRow.Named]
  cases hn : name.bind Text.nonBlank with
  | none => exact .none hno (fun n hn' => by simp [hn] at hn')
  | some n =>
    simp only [Option.bind_some]
    cases hmin : ((s.accounts.filter fun a => a.serverId == serverId &&
        (a.username.map Text.asciiLower) == some (Text.asciiLower n)).map (·.id)).min? with
    | none =>
      refine .none hno fun n' hn' a ha hna => ?_
      rw [hn] at hn'
      cases hn'
      rw [List.min?_eq_none_iff, List.map_eq_nil_iff, List.filter_eq_nil_iff] at hmin
      exact hmin a ha ((hnamed n a).mpr hna)
    | some id =>
      obtain ⟨hmem, hle⟩ := List.min?_eq_some_iff.mp hmin
      obtain ⟨a, ha, rfl⟩ := List.mem_map.mp hmem
      obtain ⟨ha, hna⟩ := List.mem_filter.mp ha
      refine .named hno hn ⟨⟨a, ha, (hnamed n a).mp hna, rfl⟩, ?_⟩
      rintro _ ⟨b, hb, hnb, rfl⟩
      exact hle b.id (List.mem_map.mpr ⟨b, List.mem_filter.mpr ⟨hb, (hnamed n b).mpr hnb⟩, rfl⟩)

/-- The lookup gives what the rule gives, whatever the accounts. -/
theorem resolveAccount_resolvesTo (s : Store) (serverId : Int) (ext name : Option String) :
    s.ResolvesTo serverId ext name (s.resolveAccount serverId ext name) := by
  unfold resolveAccount
  cases hx : ext.bind Text.nonBlank with
  | none =>
    exact resolvesTo_byName fun x hx' => by simp [hx] at hx'
  | some x =>
    simp only [Option.bind_some]
    cases hfind : s.accounts.find? (fun a => a.serverId == serverId && a.externalUserId == some x)
      with
    | none =>
      refine resolvesTo_byName fun x' hx' a ha has hax => ?_
      rw [hx] at hx'
      cases hx'
      have := List.find?_eq_none.mp hfind a ha
      simp [has, hax] at this
    | some a =>
      have hsat := List.find?_some hfind
      simp only [Bool.and_eq_true, beq_iff_eq] at hsat
      exact .external hx (List.mem_of_find?_eq_some hfind) hsat.1 hsat.2

/-- The account of a server's user. Over a store that keeps the unique index of external ids,
the lookup returns exactly the account the rule gives: by trimmed external id when not blank, else
the least id among the server's accounts with the same trimmed name up to ASCII case; never an
account of another server. -/
theorem resolveAccount_eq_iff_resolvesTo (hs : s.ExternalIdsUnique) :
    (∀ r, s.resolveAccount serverId ext name = r ↔ s.ResolvesTo serverId ext name r) ∧
      ∀ id, s.resolveAccount serverId ext name = some id →
        ∃ a ∈ s.accounts, a.serverId = serverId ∧ a.id = id := by
  have hrule := resolveAccount_resolvesTo s serverId ext name
  refine ⟨fun r => ⟨fun h => h ▸ hrule, fun h => hrule.deterministic hs h⟩, fun id h => ?_⟩
  rw [h] at hrule
  exact hrule.serverId_eq

/-- Two accounts of server 1 and one of server 2: a padded external id finds its account, an
unknown one falls back to the user name in another case, and the account of server 2 is not
found from server 1. -/
theorem resolveAccount_three_accounts :
    let alice : AccountRow :=
      { id := 7, serverId := 1, externalUserId := some "a1", username := some "Alice" }
    let twin : AccountRow :=
      { id := 4, serverId := 1, externalUserId := some "b1", username := some "alice" }
    let other : AccountRow :=
      { id := 2, serverId := 2, externalUserId := some "a1", username := some "alice" }
    let s : Store := { accounts := [alice, twin, other] }
    s.ExternalIdsUnique ∧ s.ResolvesTo 1 (some " a1 ") none (some 7) ∧
      s.ResolvesTo 1 (some "zz") (some " ALICE ") (some 4) ∧
      ∀ id, s.resolveAccount 2 none (some "ALICE") = some id →
        ∃ a ∈ s.accounts, a.serverId = 2 ∧ a.id = id := by
  intro alice twin other s
  have hs : s.ExternalIdsUnique := by decide
  refine ⟨hs, ((resolveAccount_eq_iff_resolvesTo hs).1 _).mp (by decide),
    ((resolveAccount_eq_iff_resolvesTo hs).1 _).mp (by decide),
    (resolveAccount_eq_iff_resolvesTo hs).2⟩

end Store

end StreamWarden
