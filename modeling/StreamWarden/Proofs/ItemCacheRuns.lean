import StreamWarden.Media.Jellyfin.ItemCache
import StreamWarden.Proofs.KeyedTables

/-!
# The item cache over any sequence of inserts

Reads leave the cache as it is, so what a read sees anywhere in a sequence of calls is fixed by
the inserts before it: the cache after them is `replay {} ops`.

Every such cache is `Valid`: at most `capacity` entries, one per key. An insert empties the
cache first exactly when it already holds `capacity` entries, whether or not its key is among
them, and then stores its entry (`get?_insert`, `size_insert`). Over a whole sequence, a key
reads as the summary of its latest insert when no insert since then met a full cache, and reads
as nothing otherwise (`get?_replay_eq_some_iff`); an entry is only ever read back under the
server and item it was stored for.
-/

namespace StreamWarden.Jellyfin.ItemCache

/-- One insert into the cache: the summary of an item of a server. -/
structure Insert where
  server : Int
  item : String
  summary : ItemSummary
  deriving DecidableEq, Repr

/-- The key an insert writes. -/
def Insert.key (op : Insert) : Int × String := (op.server, op.item)

/-- The cache after one insert. -/
def put (c : ItemCache) (op : Insert) : ItemCache := c.insert op.server op.item op.summary

/-- The cache after a sequence of inserts, in order. -/
def replay (c : ItemCache) (ops : List Insert) : ItemCache := ops.foldl put c

/-- No insert of `ops`, made from `c` on, meets a full cache: none of them empties it. -/
def Uncleared : ItemCache → List Insert → Prop
  | _, [] => True
  | c, op :: ops => c.size ≠ capacity ∧ Uncleared (c.put op) ops

/-- The cache after `ops` holds the entry `x` stored: `x` is the latest insert of its key, and
no insert after it met a full cache. -/
def LatestSinceClear (ops : List Insert) (x : Insert) : Prop :=
  ∃ pre post, ops = pre ++ x :: post ∧ (∀ op ∈ post, op.key ≠ x.key) ∧
    Uncleared ((replay {} pre).put x) post

/-- What every cache reached from the empty one satisfies: at most `capacity` entries, one per
key. -/
structure Valid (c : ItemCache) : Prop where
  size_le : c.size ≤ capacity
  keys_nodup : (c.entries.map (·.1)).Nodup

/-! ### One insert -/

theorem insert_entries (c : ItemCache) (s : Int) (i : String) (v : ItemSummary) :
    (c.insert s i v).entries =
      ((s, i), v) :: if c.size ≥ capacity then [] else c.entries.filter (·.1 != (s, i)) := rfl

theorem size_insert_le (c : ItemCache) (s : Int) (i : String) (v : ItemSummary) :
    (c.insert s i v).size ≤ capacity := by
  rw [size, insert_entries, List.length_cons]
  by_cases hfull : c.size ≥ capacity
  · rw [if_pos hfull]
    simp [capacity]
  · have hkept : (c.entries.filter (·.1 != (s, i))).length ≤ c.size := List.length_filter_le _ _
    rw [if_neg hfull]
    omega

/-- An insert stores its entry; every other key keeps its entry unless the cache was full, in
which case it is gone. -/
theorem get?_insert {c : ItemCache} (hc : c.size ≤ capacity) (s : Int) (i : String)
    (v : ItemSummary) (s' : Int) (i' : String) :
    (c.insert s i v).get? s' i' =
      if (s', i') = (s, i) then some v
      else if c.size = capacity then none else c.get? s' i' := by
  have hfull : c.size ≥ capacity ↔ c.size = capacity := by omega
  rw [get?, insert_entries, lookup_cons_eq_ite]
  by_cases hkey : (s', i') = (s, i)
  · simp [hkey]
  · by_cases hc' : c.size = capacity
    · simp [hkey, hc']
    · simp only [if_neg hkey, if_neg hc', if_neg (mt hfull.1 hc'), lookup_filter_ne]
      rfl

/-- An insert into a full cache leaves one entry; otherwise it adds one exactly when its key is
new. -/
theorem size_insert {c : ItemCache} (hc : c.Valid) (s : Int) (i : String) (v : ItemSummary) :
    (c.insert s i v).size =
      if c.size = capacity then 1
      else if (c.get? s i).isSome then c.size else c.size + 1 := by
  have hfull : c.size ≥ capacity ↔ c.size = capacity := by have := hc.size_le; omega
  by_cases hc' : c.size = capacity
  · rw [size, insert_entries, if_pos (hfull.2 hc'), if_pos hc']
    rfl
  · rw [size, insert_entries, if_neg (mt hfull.1 hc'), if_neg hc', List.length_cons]
    have hlen := length_filter_ne hc.keys_nodup (s, i)
    change _ = if (c.entries.lookup (s, i)).isSome then c.entries.length else c.entries.length + 1
    by_cases hsome : (c.entries.lookup (s, i)).isSome = true <;> simp [hsome] at hlen ⊢ <;> omega

theorem Valid.insert {c : ItemCache} (hc : c.Valid) (s : Int) (i : String) (v : ItemSummary) :
    (c.insert s i v).Valid where
  size_le := size_insert_le c s i v
  keys_nodup := by
    rw [insert_entries]
    split
    · simp
    · exact keys_nodup_cons_filter hc.keys_nodup (s, i) v

theorem valid_empty : ({} : ItemCache).Valid :=
  ⟨by simp [size, capacity], by simp⟩

/-! ### Runs of inserts -/

theorem replay_cons (c : ItemCache) (op : Insert) (ops : List Insert) :
    c.replay (op :: ops) = (c.put op).replay ops := rfl

theorem replay_append (c : ItemCache) (xs ys : List Insert) :
    c.replay (xs ++ ys) = (c.replay xs).replay ys :=
  List.foldl_append

theorem replay_append_singleton (c : ItemCache) (ops : List Insert) (op : Insert) :
    c.replay (ops ++ [op]) = (c.replay ops).put op := by
  rw [replay_append]
  rfl

theorem Valid.replay {c : ItemCache} (hc : c.Valid) (ops : List Insert) : (c.replay ops).Valid := by
  induction ops generalizing c with
  | nil => exact hc
  | cons op ops ih => exact ih (hc.insert _ _ _)

theorem valid_replay (ops : List Insert) : (replay {} ops).Valid :=
  valid_empty.replay ops

theorem uncleared_append (c : ItemCache) (xs ys : List Insert) :
    Uncleared c (xs ++ ys) ↔ Uncleared c xs ∧ Uncleared (c.replay xs) ys := by
  induction xs generalizing c with
  | nil => simp [Uncleared, replay]
  | cons op xs ih => simp [Uncleared, ih, replay_cons, and_assoc]

theorem uncleared_singleton (c : ItemCache) (op : Insert) :
    Uncleared c [op] ↔ c.size ≠ capacity := by
  simp [Uncleared]

/-- A list with one more element, split around one of its elements: the split element is the
new one, or the new one ends the part after it. -/
theorem eq_or_split_of_snoc_eq {α : Type} {xs pre post : List α} {y x : α}
    (h : xs ++ [y] = pre ++ x :: post) :
    (pre = xs ∧ x = y ∧ post = []) ∨ ∃ post', post = post' ++ [y] ∧ xs = pre ++ x :: post' := by
  rcases List.eq_nil_or_concat post with rfl | ⟨post', z, rfl⟩
  · obtain ⟨hxs, hyx⟩ := List.append_inj' h rfl
    exact .inl ⟨hxs.symm, (List.singleton_inj.1 hyx).symm, rfl⟩
  · have h' : xs ++ [y] = (pre ++ x :: post') ++ [z] := by simpa using h
    obtain ⟨hxs, hyz⟩ := List.append_inj' h' rfl
    obtain rfl := List.singleton_inj.1 hyz
    exact .inr ⟨post', by simp, hxs⟩

/-- The step of the lookup law: after one more insert, an entry is held when it is that insert,
or when it was held before, has another key and the insert met a cache that was not full. -/
theorem latestSinceClear_append_singleton (ops : List Insert) (op x : Insert) :
    LatestSinceClear (ops ++ [op]) x ↔
      x = op ∨ (x.key ≠ op.key ∧ (replay {} ops).size ≠ capacity ∧ LatestSinceClear ops x) := by
  constructor
  · rintro ⟨pre, post, hsplit, hlater, hkept⟩
    rcases eq_or_split_of_snoc_eq hsplit with ⟨rfl, rfl, rfl⟩ | ⟨post', rfl, rfl⟩
    · exact .inl rfl
    · rw [uncleared_append, uncleared_singleton] at hkept
      refine .inr ⟨fun h => hlater op (by simp) h.symm, ?_, pre, post', rfl,
        fun o ho => hlater o (by simp [ho]), hkept.1⟩
      rw [replay_append, replay_cons]
      exact hkept.2
  · rintro (rfl | ⟨hkey, hroom, pre, post, rfl, hlater, hkept⟩)
    · exact ⟨ops, [], rfl, by simp, trivial⟩
    · refine ⟨pre, post ++ [op], by simp, ?_, ?_⟩
      · intro o ho
        rcases List.mem_append.1 ho with ho | ho
        · exact hlater o ho
        · rw [List.mem_singleton.1 ho]
          exact Ne.symm hkey
      · rw [uncleared_append, uncleared_singleton]
        refine ⟨hkept, ?_⟩
        rwa [replay_append, replay_cons] at hroom

/-- The lookup law: after any sequence of inserts from the empty cache, a key reads as the summary
of its latest insert when no insert since then met a full cache, and as nothing otherwise. -/
theorem get?_replay_eq_some_iff (ops : List Insert) (s : Int) (i : String) (v : ItemSummary) :
    (replay {} ops).get? s i = some v ↔ LatestSinceClear ops ⟨s, i, v⟩ := by
  induction ops using List.reverseRecOn with
  | nil => simp [LatestSinceClear, replay, get?]
  | append_singleton ops op ih =>
    have hc := valid_replay ops
    rw [replay_append_singleton, put, get?_insert hc.size_le, latestSinceClear_append_singleton]
    obtain ⟨s', i', v'⟩ := op
    by_cases hkey : s = s' ∧ i = i'
    · obtain ⟨rfl, rfl⟩ := hkey
      simp [Insert.key, eq_comm]
    · have hne : (⟨s, i, v⟩ : Insert) ≠ ⟨s', i', v'⟩ := fun h => hkey (by cases h; simp)
      rw [if_neg (by simpa using hkey), ← ih]
      by_cases hfull : (replay {} ops).size = capacity
      · simp [hfull, hne]
      · simp [hfull, hne, Insert.key, hkey]

/-- What is read back was stored under that server and item. -/
theorem get?_replay_stored (ops : List Insert) (s : Int) (i : String) :
    (replay {} ops).get? s i = none ∨
      ∃ op ∈ ops, op.server = s ∧ op.item = i ∧ (replay {} ops).get? s i = some op.summary := by
  cases hget : (replay {} ops).get? s i with
  | none => exact .inl rfl
  | some v =>
    obtain ⟨pre, post, rfl, -, -⟩ := (get?_replay_eq_some_iff _ s i v).1 hget
    exact .inr ⟨⟨s, i, v⟩, by simp, rfl, rfl, rfl⟩

/-- The item cache over any inserts from empty: it holds at most `capacity` entries; an insert
empties it first exactly when it is full; a key reads as its latest insert's summary while no
insert since met a full cache, else as nothing; and what is read was stored under that server and
item. -/
theorem replay_bounded_serves_latest (ops : List Insert) :
    let c := replay {} ops
    c.size ≤ capacity ∧
    (∀ s i v s' i', (c.insert s i v).get? s' i' =
      if (s', i') = (s, i) then some v else if c.size = capacity then none else c.get? s' i') ∧
    (∀ s i v, (c.insert s i v).size =
      if c.size = capacity then 1 else if (c.get? s i).isSome then c.size else c.size + 1) ∧
    (∀ s i v, c.get? s i = some v ↔ LatestSinceClear ops ⟨s, i, v⟩) ∧
    ∀ s i, c.get? s i = none ∨
      ∃ op ∈ ops, op.server = s ∧ op.item = i ∧ c.get? s i = some op.summary := by
  intro c
  have hc : c.Valid := valid_replay ops
  exact ⟨hc.size_le, fun s i v => get?_insert hc.size_le s i v, fun s i v => size_insert hc s i v,
    get?_replay_eq_some_iff ops, get?_replay_stored ops⟩

end StreamWarden.Jellyfin.ItemCache
