import StreamWarden.Media.Server
import StreamWarden.Proofs.MatchKeys

/-!
# Usable base URLs

The bases of a server are its configured URLs in the order canonical, local, public, each
normalized (trimmed, then stripped of every trailing `/`), kept when usable, and kept only at
their first occurrence: `candidateBases_eq_eraseDups` states this as a filter of the normalized
URLs followed by `List.eraseDups`, which keeps first occurrences.

So the bases have no repeats, none begins with a blank and none ends with `/`. They can end with
a blank: the blank in `"http://a /"` survives, since the slash is stripped after the trimming.
Normalizing the bases again (configuring them as the server's URLs) gives them back exactly when
that does not happen (`withBases_candidateBases`); `candidateBases_not_idempotent` is the case
where it does. A server has no usable base exactly when none of its URLs normalizes to a usable
one (`requireBases_fails_iff`).
-/

namespace StreamWarden

/-! ### Keeping first occurrences -/

section EraseDups

variable {α : Type} [BEq α] [LawfulBEq α]

omit [LawfulBEq α] in
theorem eraseDups_sublist : ∀ l : List α, l.eraseDups.Sublist l
  | [] => by simp
  | a :: as => by
    rw [List.eraseDups_cons]
    exact ((eraseDups_sublist _).trans (List.filter_sublist)).cons_cons a
termination_by l => l.length
decreasing_by exact Nat.lt_succ_of_le (List.length_filter_le _ _)

theorem nodup_eraseDups : ∀ l : List α, l.eraseDups.Nodup
  | [] => by simp
  | a :: as => by
    rw [List.eraseDups_cons]
    refine List.nodup_cons.2 ⟨?_, nodup_eraseDups _⟩
    simp [List.mem_eraseDups]
termination_by l => l.length
decreasing_by exact Nat.lt_succ_of_le (List.length_filter_le _ _)

theorem eraseDups_eq_self : ∀ {l : List α}, l.Nodup → l.eraseDups = l
  | [], _ => by simp
  | a :: as, h => by
    obtain ⟨ha, has⟩ := List.nodup_cons.1 h
    have hkeep : as.filter (fun b => !b == a) = as :=
      List.filter_eq_self.2 fun b hb => by
        have hne : b ≠ a := fun hba => ha (hba ▸ hb)
        simpa using hne
    rw [List.eraseDups_cons, hkeep, eraseDups_eq_self has]

/-- Appending one more value keeps it only when it is new. -/
theorem eraseDups_append_singleton (l : List α) (b : α) :
    (l ++ [b]).eraseDups = if b ∈ l then l.eraseDups else l.eraseDups ++ [b] := by
  rw [List.eraseDups_append]
  by_cases hb : b ∈ l <;> simp [List.removeAll, hb, List.eraseDups_cons]

/-- Collecting normalized values one by one, skipping the unusable and the repeated, keeps the
first occurrence of each usable value. -/
theorem foldl_keepFirst {β : Type} (n : β → α) (u : α → Bool) (pre xs : List β) :
    xs.foldl (fun acc x => if u (n x) && !acc.contains (n x) then acc ++ [n x] else acc)
        ((pre.map n).filter u).eraseDups =
      (((pre ++ xs).map n).filter u).eraseDups := by
  induction xs generalizing pre with
  | nil => simp
  | cons x xs ih =>
    rw [List.foldl_cons, show pre ++ x :: xs = (pre ++ [x]) ++ xs by simp, ← ih (pre ++ [x])]
    congr 1
    by_cases hu : u (n x) = true
    · have hfilter : ((pre ++ [x]).map n).filter u = (pre.map n).filter u ++ [n x] := by
        simp [List.filter_append, hu]
      rw [hfilter, eraseDups_append_singleton]
      by_cases hmem : n x ∈ (pre.map n).filter u <;> simp [hu, hmem, List.mem_eraseDups]
    · simp [hu]

end EraseDups

/-! ### Normalized bases -/

theorem normalizeBase_toList (raw : String) :
    (normalizeBase raw).toList = dropTrailingSlashes (Text.trimList raw.toList) := by
  simp [normalizeBase, Text.trim]

theorem dropTrailingSlashes_prefix (cs : List Char) : dropTrailingSlashes cs <+: cs := by
  have h := (List.dropWhile_suffix (l := cs.reverse) (· = '/')).reverse
  rwa [List.reverse_reverse] at h

theorem getLast?_dropTrailingSlashes (cs : List Char) :
    (dropTrailingSlashes cs).getLast? ≠ some '/' := by
  intro h
  have hnot := List.head?_dropWhile_not (· = '/') cs.reverse
  rw [dropTrailingSlashes, List.getLast?_reverse] at h
  rw [h] at hnot
  simp at hnot

theorem dropTrailingSlashes_eq_self {cs : List Char} (h : cs.getLast? ≠ some '/') :
    dropTrailingSlashes cs = cs := by
  rw [← List.head?_reverse] at h
  unfold dropTrailingSlashes
  cases hrev : cs.reverse with
  | nil => simp_all
  | cons c rest =>
    rw [hrev] at h
    rw [List.dropWhile_cons_of_neg (by simpa using h), ← hrev, List.reverse_reverse]

theorem Text.head_trimList (cs : List Char) :
    ∀ c ∈ (Text.trimList cs).head?, Text.isBlank c = false := by
  intro c hc
  rw [Text.trimList, List.head?_reverse] at hc
  have hlast := Text.getLast_dropBlank _ c hc
  rw [List.getLast?_reverse] at hlast
  exact Text.head_dropBlank cs c hlast

theorem Text.trimList_eq_self {cs : List Char} (hhead : ∀ c ∈ cs.head?, Text.isBlank c = false)
    (hlast : ∀ c ∈ cs.getLast?, Text.isBlank c = false) : Text.trimList cs = cs := by
  rw [Text.trimList, Text.dropBlank_eq_self hhead, Text.dropBlank_eq_self (by rwa [List.head?_reverse]),
    List.reverse_reverse]

/-- A normalized base begins where its trimmed text begins, so never with a blank. -/
theorem head_normalizeBase (raw : String) :
    ∀ c ∈ (normalizeBase raw).toList.head?, Text.isBlank c = false := by
  intro c hc
  rw [normalizeBase_toList] at hc
  obtain ⟨rest, hrest⟩ := dropTrailingSlashes_prefix (Text.trimList raw.toList)
  have hne : dropTrailingSlashes (Text.trimList raw.toList) ≠ [] := by
    rintro hnil
    simp [hnil] at hc
  apply Text.head_trimList raw.toList c
  rw [← hrest, List.head?_append_of_ne_nil _ hne]
  exact hc

theorem getLast_normalizeBase (raw : String) : (normalizeBase raw).toList.getLast? ≠ some '/' := by
  rw [normalizeBase_toList]
  exact getLast?_dropTrailingSlashes _

/-- A normalized base that does not end in a blank is normalized again to itself. -/
theorem normalizeBase_normalizeBase {raw : String}
    (hlast : ∀ c ∈ (normalizeBase raw).toList.getLast?, Text.isBlank c = false) :
    normalizeBase (normalizeBase raw) = normalizeBase raw := by
  have htrim : Text.trimList (normalizeBase raw).toList = (normalizeBase raw).toList :=
    Text.trimList_eq_self (head_normalizeBase raw) hlast
  rw [normalizeBase, Text.trim, String.toList_ofList, htrim,
    dropTrailingSlashes_eq_self (getLast_normalizeBase raw), String.ofList_toList]

/-! ### The bases of a server -/

namespace ServerConfig

/-- The configured base URLs, in the order canonical, local, public. -/
def configuredUrls (c : ServerConfig) : List String :=
  [c.url, c.localUrl, c.publicUrl].filterMap fun u => u

/-- The same server with the given bases as its canonical, local and public URLs. -/
def withBases (c : ServerConfig) (bases : List String) : ServerConfig :=
  { c with url := bases[0]?, localUrl := bases[1]?, publicUrl := bases[2]? }

theorem configuredUrls_length_le (c : ServerConfig) : c.configuredUrls.length ≤ 3 :=
  (List.length_filterMap_le _ _).trans (by simp)

theorem configuredUrls_withBases (c : ServerConfig) {bases : List String}
    (h : bases.length ≤ 3) : (c.withBases bases).configuredUrls = bases := by
  rcases bases with _ | ⟨a, _ | ⟨b, _ | ⟨d, _ | ⟨e, rest⟩⟩⟩⟩
  · rfl
  · rfl
  · rfl
  · rfl
  · simp only [List.length_cons] at h
    omega

/-- The bases are the usable normalized URLs, each at its first occurrence. -/
theorem candidateBases_eq_eraseDups (c : ServerConfig) :
    c.candidateBases = ((c.configuredUrls.map normalizeBase).filter usableBase).eraseDups := by
  have h := foldl_keepFirst normalizeBase usableBase [] c.configuredUrls
  simp only [List.map_nil, List.filter_nil, List.eraseDups_nil, List.nil_append] at h
  rw [← h]
  rfl

theorem mem_candidateBases {c : ServerConfig} {b : String} (hb : b ∈ c.candidateBases) :
    ∃ raw ∈ c.configuredUrls, normalizeBase raw = b ∧ usableBase b = true := by
  rw [candidateBases_eq_eraseDups, List.mem_eraseDups, List.mem_filter, List.mem_map] at hb
  obtain ⟨⟨raw, hraw, rfl⟩, husable⟩ := hb
  exact ⟨raw, hraw, rfl, husable⟩

theorem candidateBases_nodup (c : ServerConfig) : c.candidateBases.Nodup := by
  rw [candidateBases_eq_eraseDups]
  exact nodup_eraseDups _

theorem candidateBases_length_le (c : ServerConfig) : c.candidateBases.length ≤ 3 := by
  rw [candidateBases_eq_eraseDups]
  calc _ ≤ ((c.configuredUrls.map normalizeBase).filter usableBase).length :=
        (eraseDups_sublist _).length_le
    _ ≤ (c.configuredUrls.map normalizeBase).length := List.length_filter_le _ _
    _ ≤ 3 := by simpa using c.configuredUrls_length_le

/-- Configuring the bases as the server's URLs gives them back, when none ends in a blank. -/
theorem withBases_candidateBases (c : ServerConfig)
    (hlast : ∀ b ∈ c.candidateBases, ∀ x ∈ b.toList.getLast?, Text.isBlank x = false) :
    (c.withBases c.candidateBases).candidateBases = c.candidateBases := by
  have hfixed : ∀ b ∈ c.candidateBases, normalizeBase b = b ∧ usableBase b = true := by
    intro b hb
    obtain ⟨raw, -, rfl, husable⟩ := mem_candidateBases hb
    exact ⟨normalizeBase_normalizeBase (hlast _ hb), husable⟩
  have hmap : c.candidateBases.map normalizeBase = c.candidateBases := by
    conv_rhs => rw [← List.map_id c.candidateBases]
    exact List.map_congr_left fun b hb => (hfixed b hb).1
  rw [candidateBases_eq_eraseDups (c.withBases _), configuredUrls_withBases c c.candidateBases_length_le,
    hmap, List.filter_eq_self.2 fun b hb => (hfixed b hb).2,
    eraseDups_eq_self c.candidateBases_nodup]

/-- A server has no usable base exactly when none of its URLs normalizes to a usable one. -/
theorem requireBases_fails_iff (c : ServerConfig) :
    (∃ e, c.requireBases = .error e) ↔
      ∀ raw ∈ c.configuredUrls, usableBase (normalizeBase raw) = false := by
  have hnil : c.candidateBases = [] ↔
      ∀ raw ∈ c.configuredUrls, usableBase (normalizeBase raw) = false := by
    rw [candidateBases_eq_eraseDups, List.eq_nil_iff_forall_not_mem]
    simp [List.mem_eraseDups]
  rw [← hnil, requireBases]
  cases c.candidateBases with
  | nil => simp
  | cons b bs => simp

/-- Usable bases: the canonical, local and public URLs in that order, trimmed, stripped of trailing
slashes, kept when usable and at first occurrence; no repeats, no leading blank or trailing `/`,
and given back when configured unless one ends in a blank. A server has no bases exactly when
none of its URLs is usable. -/
theorem candidate_bases_normalized (c : ServerConfig) :
    c.candidateBases = ((c.configuredUrls.map normalizeBase).filter usableBase).eraseDups ∧
    c.candidateBases.Nodup ∧
    (∀ b ∈ c.candidateBases,
      (∀ x ∈ b.toList.head?, Text.isBlank x = false) ∧ b.toList.getLast? ≠ some '/') ∧
    ((∀ b ∈ c.candidateBases, ∀ x ∈ b.toList.getLast?, Text.isBlank x = false) →
      (c.withBases c.candidateBases).candidateBases = c.candidateBases) ∧
    ((∃ e, c.requireBases = .error e) ↔
      ∀ raw ∈ c.configuredUrls, usableBase (normalizeBase raw) = false) := by
  refine ⟨c.candidateBases_eq_eraseDups, c.candidateBases_nodup, ?_, c.withBases_candidateBases,
    c.requireBases_fails_iff⟩
  intro b hb
  obtain ⟨raw, -, rfl, -⟩ := mem_candidateBases hb
  exact ⟨head_normalizeBase raw, getLast_normalizeBase raw⟩

/-- A blank before a trailing slash survives normalization, and a second normalization trims it:
the bases of `"http://a /"` are `["http://a "]`, and configuring those gives `["http://a"]`. -/
theorem candidateBases_not_idempotent :
    let c : ServerConfig := { url := some "http://a /" }
    c.candidateBases = ["http://a "] ∧
      (c.withBases c.candidateBases).candidateBases = ["http://a"] := by
  decide +kernel

end ServerConfig

end StreamWarden
