import Mathlib
import StreamWarden.Net.Address
import StreamWarden.Media.Jellyfin.Sessions

/-!
# Ports on client endpoints

A Jellyfin server may report a client's address with the port it connected from: `a.b.c.d:port`
or `[v6]:port`. `Jellyfin.stripPort` removes it by one rule for bracketed endpoints (the text
inside the brackets) and one for the rest (the part before a single `:`, when that part is a
nonempty run of digits and points).

The second rule must leave every IPv6 address alone. It does, because the reader of addresses
accepts only hex digits, colons and points, and never a text with exactly one colon: an IPv4
address has none, and an IPv6 address has at least two, as `::` or as the separators of its
groups (`address_chars`). So an endpoint loses exactly its port, and an address as read stays
as it is (`stripPort_strips_only_ports`).
-/

namespace StreamWarden

namespace Net

/-- Reading a text from `cs` stops at `r`, and every character read is of class `P`. -/
def Consumes (P : Char → Prop) (cs r : List Char) : Prop :=
  ∃ q, cs = q ++ r ∧ ∀ c ∈ q, P c

/-- A decimal digit or a point: what an IPv4 address is written with. -/
def IsDottedChar (c : Char) : Prop := (digitValue? 10 c).isSome ∨ c = '.'

/-- A hex digit, a colon or a point: what any address is written with. -/
def IsAddressChar (c : Char) : Prop := (digitValue? 16 c).isSome ∨ c = ':' ∨ c = '.'

/-! ### Consuming text -/

section Consumes

variable {P Q : Char → Prop} {cs r t : List Char}

theorem Consumes.refl (P : Char → Prop) (cs : List Char) : Consumes P cs cs :=
  ⟨[], rfl, by simp⟩

theorem Consumes.cons {c : Char} (hc : P c) (r : List Char) : Consumes P (c :: r) r :=
  ⟨[c], rfl, by simpa using hc⟩

theorem Consumes.trans (h₁ : Consumes P cs r) (h₂ : Consumes P r t) : Consumes P cs t := by
  obtain ⟨q₁, rfl, hq₁⟩ := h₁
  obtain ⟨q₂, rfl, hq₂⟩ := h₂
  refine ⟨q₁ ++ q₂, by simp, fun c hc => ?_⟩
  rcases List.mem_append.1 hc with hc | hc
  · exact hq₁ c hc
  · exact hq₂ c hc

theorem Consumes.mono (hPQ : ∀ c, P c → Q c) (h : Consumes P cs r) : Consumes Q cs r := by
  obtain ⟨q, rfl, hq⟩ := h
  exact ⟨q, rfl, fun c hc => hPQ c (hq c hc)⟩

theorem Consumes.all_of_nil (h : Consumes P cs []) : ∀ c ∈ cs, P c := by
  obtain ⟨q, rfl, hq⟩ := h
  simpa using hq

/-- What is left holds no more of a character than the text did. -/
theorem Consumes.count_le (a : Char) (h : Consumes P cs r) : r.count a ≤ cs.count a := by
  obtain ⟨q, rfl, -⟩ := h
  simp [List.count_append]

/-- Reading characters of a class without `a` leaves every `a` of the text. -/
theorem Consumes.count_eq {a : Char} (ha : ¬P a) (h : Consumes P cs r) :
    cs.count a = r.count a := by
  obtain ⟨q, rfl, hq⟩ := h
  have hnot : a ∉ q := fun hmem => ha (hq a hmem)
  simp [List.count_append, List.count_eq_zero_of_not_mem hnot]

end Consumes

/-! ### Character classes -/

theorem digitValue?_colon (radix : Nat) : digitValue? radix ':' = none := by
  simp [digitValue?]

theorem isDigit_of_digitValue? {c : Char} (h : (digitValue? 10 c).isSome) :
    Text.isDigit c = true := by
  simp only [digitValue?] at h
  split_ifs at h with h09 haf hAF <;> simp_all [Text.isDigit]
  · have : 97 ≤ c.toNat := haf.1
    omega
  · have : 65 ≤ c.toNat := hAF.1
    omega

theorem digitValue?_isSome_mono {radix radix' : Nat} (hr : radix ≤ radix') {c : Char}
    (h : (digitValue? radix c).isSome) : (digitValue? radix' c).isSome := by
  simp only [digitValue?] at h ⊢
  split_ifs at h ⊢ <;> simp_all <;> omega

theorem IsDottedChar.isAddressChar {c : Char} (h : IsDottedChar c) : IsAddressChar c := by
  rcases h with h | h
  · exact .inl (digitValue?_isSome_mono (by decide) h)
  · exact .inr (.inr h)

theorem not_isDottedChar_colon : ¬IsDottedChar ':' := by
  simp [IsDottedChar, digitValue?_colon]

theorem not_isAddressChar_bracket : ¬IsAddressChar '[' := by
  simp [IsAddressChar, digitValue?]

/-! ### What the address reader consumes -/

theorem takeDigits_consumes (radix : Nat) :
    ∀ cs, Consumes (fun c => (digitValue? radix c).isSome) cs (takeDigits radix cs).2
  | [] => Consumes.refl _ _
  | c :: rest => by
    rw [takeDigits]
    cases hd : digitValue? radix c with
    | none => exact Consumes.refl _ _
    | some v => exact (Consumes.cons (by simp [hd]) rest).trans (takeDigits_consumes radix rest)

theorem octet_consumes {cs r : List Char} {n : Nat} (h : octet cs = some (n, r)) :
    Consumes (fun c => (digitValue? 10 c).isSome) cs r := by
  have hc := takeDigits_consumes 10 cs
  rcases hd : takeDigits 10 cs with ⟨ds, rest⟩
  simp only [octet, hd] at h hc
  split_ifs at h
  cases h
  exact hc

theorem hexGroup_consumes {cs r : List Char} {g : Nat} (h : hexGroup cs = some (g, r)) :
    Consumes (fun c => (digitValue? 16 c).isSome) cs r := by
  have hc := takeDigits_consumes 16 cs
  rcases hd : takeDigits 16 cs with ⟨ds, rest⟩
  simp only [hexGroup, hd] at h hc
  split_ifs at h
  cases h
  exact hc

/-- An octet followed by a point. -/
theorem octet_point_consumes {cs r r' : List Char} {n : Nat} (h : octet cs = some (n, r))
    (hr : r = '.' :: r') : Consumes IsDottedChar cs r' :=
  ((octet_consumes h).mono fun _ hc => .inl hc).trans (hr ▸ Consumes.cons (.inr rfl) r')

/-- An IPv4 address is read over digits and points only. -/
theorem ipv4Prefix_consumes {cs r : List Char} {v : Nat × Nat × Nat × Nat}
    (h : ipv4Prefix cs = some (v, r)) : Consumes IsDottedChar cs r := by
  simp only [ipv4Prefix, Option.bind_eq_bind, Option.bind_eq_some_iff] at h
  obtain ⟨⟨a, r1⟩, h1, h⟩ := h
  split at h
  case h_2 => simp at h
  rename_i r1' hr1
  simp only [Option.bind_some, Option.bind_eq_some_iff] at h
  obtain ⟨⟨b, r2⟩, h2, h⟩ := h
  split at h
  case h_2 => simp at h
  rename_i r2' hr2
  simp only [Option.bind_eq_some_iff] at h
  obtain ⟨⟨c, r3⟩, h3, h⟩ := h
  split at h
  case h_2 => simp at h
  rename_i r3' hr3
  simp only [Option.bind_eq_some_iff, Option.pure_def, Option.some.injEq] at h
  obtain ⟨⟨d, r4⟩, h4, h⟩ := h
  have hr : r4 = r := (Prod.mk.inj h).2
  subst hr
  exact (octet_point_consumes h1 hr1).trans <| (octet_point_consumes h2 hr2).trans <|
    (octet_point_consumes h3 hr3).trans ((octet_consumes h4).mono fun _ hc => .inl hc)

/-- Reading groups consumes address characters, and each group after the first costs a colon:
only the first group, when it comes first, and an IPv4 address standing for two groups, come
without one. -/
theorem readGroups_consumes :
    ∀ (n : Nat) (first : Bool) (cs : List Char) {gs : List Nat} {v4 : Bool} {r : List Char},
      readGroups n first cs = (gs, v4, r) →
      Consumes IsAddressChar cs r ∧
        gs.length + r.count ':' ≤ cs.count ':' + (if first then 1 else 0) + (if v4 then 1 else 0)
  | 0, first, cs, gs, v4, r, h => by
    simp only [readGroups, Prod.mk.injEq] at h
    obtain ⟨rfl, rfl, rfl⟩ := h
    exact ⟨Consumes.refl _ _, by simp⟩
  | slots + 1, first, cs, gs, v4, r, h => by
    simp only [readGroups] at h
    split at h
    · simp only [Prod.mk.injEq] at h
      obtain ⟨rfl, rfl, rfl⟩ := h
      exact ⟨Consumes.refl _ _, by simp⟩
    rename_i r0 h0
    have hsep : Consumes IsAddressChar cs r0 ∧
        r0.count ':' + 1 = cs.count ':' + (if first then 1 else 0) := by
      cases first with
      | true =>
        simp only [if_true] at h0
        cases h0
        exact ⟨Consumes.refl _ _, by simp⟩
      | false =>
        simp only [Bool.false_eq_true, if_false] at h0
        split at h0
        · cases h0
          exact ⟨Consumes.cons (.inr (.inl rfl)) _, by simp⟩
        · simp at h0
    obtain ⟨hc0, hcount0⟩ := hsep
    split at h
    · rename_i a b c d r' h4
      simp only [Prod.mk.injEq] at h
      obtain ⟨rfl, rfl, rfl⟩ := h
      split_ifs at h4 with hslots
      have hc4 := ipv4Prefix_consumes h4
      have hcount4 := hc4.count_eq not_isDottedChar_colon
      exact ⟨hc0.trans (hc4.mono fun _ hc => hc.isAddressChar), by simp; omega⟩
    · split at h
      · rename_i g r' hg
        rcases hrest : readGroups slots false r' with ⟨gs', v4', r''⟩
        simp only [hrest, Prod.mk.injEq] at h
        obtain ⟨rfl, rfl, rfl⟩ := h
        have hcg := hexGroup_consumes hg
        have hcountg : r0.count ':' = r'.count ':' := hcg.count_eq (by simp [digitValue?_colon])
        obtain ⟨hcr, hcountr⟩ := readGroups_consumes slots false r' hrest
        refine ⟨hc0.trans ((hcg.mono fun _ hc => .inl hc).trans hcr), ?_⟩
        simp only [List.length_cons, Bool.false_eq_true, if_false] at hcountr ⊢
        omega
      · simp only [Prod.mk.injEq] at h
        obtain ⟨rfl, rfl, rfl⟩ := h
        exact ⟨Consumes.refl _ _, by simp⟩

/-- An IPv6 address is read over address characters, two colons at least. -/
theorem ipv6Prefix_consumes {cs r : List Char} {gs : List Nat}
    (h : ipv6Prefix cs = some (gs, r)) :
    Consumes IsAddressChar cs r ∧ r.count ':' + 2 ≤ cs.count ':' := by
  rcases hhead : readGroups 8 true cs with ⟨head, headV4, r0⟩
  obtain ⟨hc0, hcount0⟩ := readGroups_consumes 8 true cs hhead
  simp only [ipv6Prefix, hhead] at h
  split_ifs at h with h8 hv4
  · simp only [Option.some.injEq, Prod.mk.injEq] at h
    obtain ⟨rfl, rfl⟩ := h
    refine ⟨hc0, ?_⟩
    simp only [h8, if_true] at hcount0
    split at hcount0 <;> omega
  · split at h
    · rename_i r2
      rcases htail : readGroups (8 - (head.length + 1)) true r2 with ⟨tail, tailV4, r3⟩
      simp only [htail, Option.some.injEq, Prod.mk.injEq] at h
      obtain ⟨rfl, rfl⟩ := h
      have hc3 := (readGroups_consumes _ true r2 htail).1
      have hcolons : Consumes IsAddressChar (':' :: ':' :: r2) r2 :=
        (Consumes.cons (.inr (.inl rfl)) _).trans (Consumes.cons (.inr (.inl rfl)) _)
      refine ⟨hc0.trans (hcolons.trans hc3), ?_⟩
      have hle0 := hc0.count_le ':'
      have hle3 := hc3.count_le ':'
      simp only [List.count_cons_self] at hle0
      omega
    · simp at h

/-- An IPv4 address text is written with digits and points only. -/
theorem dotted_of_parse?_v4 {s : String} {w x y z : Nat}
    (h : Address.parse? s = some (.v4 w x y z)) : ∀ c ∈ s.toList, IsDottedChar c := by
  simp only [Address.parse?] at h
  split at h
  · rename_i h4
    exact (ipv4Prefix_consumes h4).all_of_nil
  · simp at h
  · split at h <;> simp at h

/-- An IPv6 address text is written with address characters, two colons at least. -/
theorem colons_of_parse?_v6 {s : String} {gs : List Nat} (h : Address.parse? s = some (.v6 gs)) :
    (∀ c ∈ s.toList, IsAddressChar c) ∧ 2 ≤ s.toList.count ':' := by
  simp only [Address.parse?] at h
  split at h
  · simp at h
  · simp at h
  · split at h
    · rename_i h6
      obtain ⟨hc, hcount⟩ := ipv6Prefix_consumes h6
      exact ⟨hc.all_of_nil, by simpa using hcount⟩
    · simp at h

/-- An address text is written with hex digits, colons and points only, and never holds
exactly one colon: an IPv4 address has none, an IPv6 address at least two. -/
theorem address_chars {s : String} {a : Address} (h : Address.parse? s = some a) :
    (∀ c ∈ s.toList, IsAddressChar c) ∧ s.toList.count ':' ≠ 1 := by
  cases a with
  | v4 w x y z =>
    have hdotted := dotted_of_parse?_v4 h
    have hnone : ':' ∉ s.toList := fun hc => not_isDottedChar_colon (hdotted _ hc)
    exact ⟨fun c hc => (hdotted c hc).isAddressChar, by simp [List.count_eq_zero_of_not_mem hnone]⟩
  | v6 gs =>
    obtain ⟨hchars, hcount⟩ := colons_of_parse?_v6 h
    exact ⟨hchars, by omega⟩

end Net

namespace Jellyfin

open Net

/-! ### Stripping ports -/

theorem stripPort_eq_plain {s : String} (h : s.toList.head? ≠ some '[') :
    stripPort s = stripPort.plain s.toList := by
  rw [stripPort]
  split
  · rename_i rest hcs
    simp [hcs] at h
  · rfl

/-- A text without exactly one colon is no host and port. -/
theorem plain_of_count_ne_one {cs : List Char} (h : cs.count ':' ≠ 1) :
    stripPort.plain cs = String.ofList cs := by
  rw [stripPort.plain]
  split
  · rename_i port hport
    have hsplit := List.prefix_iff_eq_append.1 (List.takeWhile_prefix (l := cs) (· ≠ ':'))
    rw [hport] at hsplit
    have hhost : ':' ∉ cs.takeWhile (· ≠ ':') := fun hmem => by
      simpa using List.mem_takeWhile_imp hmem
    have hcount : cs.count ':' = port.count ':' + 1 := by
      rw [← hsplit, List.count_append, List.count_cons_self, List.count_eq_zero_of_not_mem hhost]
      omega
    have hmem : ':' ∈ port := List.count_pos_iff.1 (by omega)
    simp [hmem]
  · rfl

/-- A nonempty run of digits and points before a single colon is a host, and what follows the
colon its port. -/
theorem plain_host_port {host port : List Char} (hhost : host ≠ [])
    (hdigits : ∀ c ∈ host, Text.isDigit c = true ∨ c = '.') (hport : ':' ∉ port) :
    stripPort.plain (host ++ ':' :: port) = String.ofList host := by
  have hnocolon : ∀ c ∈ host, c ≠ ':' := fun c hc hcolon => by
    rcases hdigits c hc with hd | hd <;> subst hcolon <;> simp_all [Text.isDigit]
  have htake : (host ++ ':' :: port).takeWhile (· ≠ ':') = host := by
    rw [List.takeWhile_append_of_pos (by simpa using hnocolon)]
    simp
  rw [stripPort.plain, htake, List.drop_left]
  simp [hport, hhost]
  intro c hc hnot
  simpa [hnot] using hdigits c hc

/-- A bracketed endpoint reads as the text inside the brackets. -/
theorem stripPort_bracketed {h : String} (hh : ']' ∉ h.toList) (r : String) :
    stripPort ("[" ++ h ++ "]" ++ r) = h := by
  have hcs : ("[" ++ h ++ "]" ++ r).toList = '[' :: (h.toList ++ ']' :: r.toList) := by simp
  have htake : (h.toList ++ ']' :: r.toList).takeWhile (· ≠ ']') = h.toList := by
    rw [List.takeWhile_append_of_pos (by simpa using fun c hc (hb : c = ']') => hh (hb ▸ hc))]
    simp
  have hclosed : (h.toList ++ ']' :: r.toList).contains ']' = true := by simp
  rw [stripPort, hcs]
  simp only [hclosed, if_true, htake, String.ofList_toList]

/-- An address as read keeps its text. -/
theorem stripPort_address {x : String} {a : Address} (h : Address.parse? x = some a) :
    stripPort x = x := by
  obtain ⟨hchars, hcount⟩ := address_chars h
  have hhead : x.toList.head? ≠ some '[' := fun hb =>
    not_isAddressChar_bracket (hchars _ (List.mem_of_mem_head? hb))
  rw [stripPort_eq_plain hhead, plain_of_count_ne_one hcount, String.ofList_toList]

/-- An IPv4 address followed by a port reads as the address. -/
theorem stripPort_ipv4_port {a : String} {w x y z : Nat}
    (ha : Address.parse? a = some (.v4 w x y z)) {p : String} (hp : ':' ∉ p.toList) :
    stripPort (a ++ ":" ++ p) = a := by
  have hdotted := dotted_of_parse?_v4 ha
  obtain ⟨c, rest, hcs⟩ : ∃ c rest, a.toList = c :: rest := by
    cases hcs : a.toList with
    | nil =>
      rw [String.toList_eq_nil_iff] at hcs
      have hempty : Address.parse? "" = none := by decide
      rw [hcs, hempty] at ha
      cases ha
    | cons c rest => exact ⟨c, rest, rfl⟩
  have hhead : (a ++ ":" ++ p).toList.head? ≠ some '[' := by
    intro hb
    have hc : IsDottedChar c := hdotted c (by simp [hcs])
    simp only [String.toList_append, hcs, List.cons_append, List.head?_cons,
      Option.some.injEq] at hb
    exact not_isAddressChar_bracket (hb ▸ hc.isAddressChar)
  have hdigits : ∀ c ∈ a.toList, Text.isDigit c = true ∨ c = '.' := fun c hc =>
    (hdotted c hc).imp_left isDigit_of_digitValue?
  rw [stripPort_eq_plain hhead, show (a ++ ":" ++ p).toList = a.toList ++ ':' :: p.toList by simp,
    plain_host_port (by simp [hcs]) hdigits hp, String.ofList_toList]

/-- Ports are stripped from IPv4 and bracketed endpoints, and nothing else changes an address:
an IPv4 address, a colon and a port without colons read as the address; a bracketed text reads
as what stands inside the brackets, whatever follows; and every IPv4 or IPv6 address as read,
mapped and compressed forms included, keeps its text. -/
theorem stripPort_strips_only_ports :
    (∀ a p : String, (∃ w x y z, Address.parse? a = some (.v4 w x y z)) → ':' ∉ p.toList →
      stripPort (a ++ ":" ++ p) = a) ∧
    (∀ h r : String, ']' ∉ h.toList → stripPort ("[" ++ h ++ "]" ++ r) = h) ∧
    ∀ x : String, (Address.parse? x).isSome → stripPort x = x := by
  refine ⟨fun a p ⟨w, x, y, z, ha⟩ hp => stripPort_ipv4_port ha hp,
    fun h r hh => stripPort_bracketed hh r, fun x hx => ?_⟩
  obtain ⟨addr, haddr⟩ := Option.isSome_iff_exists.1 hx
  exact stripPort_address haddr

/-- The endpoints of a LAN client: an IPv4 address with a port, a bracketed IPv6 address with a
port, and an IPv4 address mapped into IPv6. -/
theorem stripPort_lan_endpoints :
    (Address.parse? "192.168.1.12" = some (.v4 192 168 1 12) ∧ ':' ∉ "51234".toList ∧
      stripPort ("192.168.1.12" ++ ":" ++ "51234") = "192.168.1.12") ∧
    (']' ∉ "2001:db8::1".toList ∧ stripPort ("[" ++ "2001:db8::1" ++ "]" ++ ":8096") = "2001:db8::1") ∧
    ((Address.parse? "::ffff:10.0.0.1").isSome ∧ stripPort "::ffff:10.0.0.1" = "::ffff:10.0.0.1") := by
  have h4 : Address.parse? "192.168.1.12" = some (.v4 192 168 1 12) := by decide
  have hp : ':' ∉ "51234".toList := by decide
  have hb : ']' ∉ "2001:db8::1".toList := by decide
  have h6 : (Address.parse? "::ffff:10.0.0.1").isSome := by decide
  exact ⟨⟨h4, hp, stripPort_strips_only_ports.1 _ _ ⟨_, _, _, _, h4⟩ hp⟩,
    ⟨hb, stripPort_strips_only_ports.2.1 _ _ hb⟩, ⟨h6, stripPort_strips_only_ports.2.2 _ h6⟩⟩

end Jellyfin

end StreamWarden
