import Mathlib
import StreamWarden.Policy.Options

/-!
# Reading the settings of a rule

A rule's settings are read field by field, each from its own key with its own lenient reader
and its own default (`RuleOptions.ofJson_eq_fields`). The readers differ on large integers: a
limit saturates, because an integer beyond the signed 64-bit range is read through its binary64
value and that value truncates to the upper bound (`Binary64.truncate_ofNat_of_i64Max_lt`); a
switch has no such fallback, so the same integer leaves a switch at its default.

The main statement is `RuleOptions.ofJson_reads_each_key`.
-/

namespace StreamWarden

namespace Binary64

theorem pow2_of_nonpos {k : Int} (hk : k ≤ 0) : pow2 k = 1 := by
  simp only [pow2, Int.toNat_of_nonpos hk]

theorem pow2_eq_pow (k : Int) : pow2 k = 2 ^ k.toNat := rfl

theorem hidden_mul_pow (k : Nat) : hidden * 2 ^ k = 2 ^ (52 + k) := by
  rw [hidden, Nat.pow_eq, Nat.pow_add]

theorem div_le_roundHalfEven (num den : Nat) : num / den ≤ roundHalfEven num den := by
  unfold roundHalfEven
  dsimp only
  split <;> omega

/-- Over the denominator `1` the estimate of `floorLog2` is exact. -/
theorem floorLog2_one {n : Nat} (hn : n ≠ 0) : floorLog2 n 1 = n.log2 := by
  unfold floorLog2
  dsimp only
  have hguess : (n.log2 : Int) - (Nat.log2 1 : Int) = n.log2 := by
    rw [show Nat.log2 1 = 0 by decide]
    omega
  rw [hguess, if_pos]
  rw [pow2_of_nonpos (by omega), pow2_eq_pow]
  simpa using Nat.log2_self_le hn

/-- A normal significand `q` at a nonnegative power, with `q * 2 ^ e` at least `2 ^ 63`,
truncates to the upper bound of the signed 64-bit range, whether it is encoded finite or
overflows to infinity. -/
theorem truncate_encode_of_big {q : Nat} {e : Int} (hq : hidden ≤ q) (he : 0 ≤ e)
    (hbig : 2 ^ 63 ≤ q * 2 ^ e.toNat) :
    (encode false q e).truncate Text.i64Min Text.i64Max = Text.i64Max := by
  unfold encode
  rw [if_neg (by omega)]
  dsimp only
  split
  · rfl
  · rename_i hfin
    have hexp : ((e + 1075).toNat == 0) = false := by simp; omega
    have hsig : significand ⟨false, (e + 1075).toNat, q - hidden⟩ = q := by
      simp only [significand, hexp, Bool.false_eq_true, if_false]
      omega
    have hpow : power ⟨false, (e + 1075).toNat, q - hidden⟩ = e := by
      simp only [power, hexp, Bool.false_eq_true, if_false]
      omega
    have hnan : isNaN ⟨false, (e + 1075).toNat, q - hidden⟩ = false := by
      simp only [isNaN, Bool.and_eq_false_iff, beq_eq_false_iff_ne]
      omega
    have hinf : isInfinite ⟨false, (e + 1075).toNat, q - hidden⟩ = false := by
      simp only [isInfinite, Bool.and_eq_false_iff, beq_eq_false_iff_ne]
      omega
    unfold truncate truncateFinite ratio
    rw [hnan, hinf, hsig, hpow, pow2_of_nonpos (by omega : -e ≤ 0), pow2_eq_pow]
    simp only [Bool.false_eq_true, if_false, Nat.div_one]
    unfold Text.i64Max Text.i64Min
    generalize q * 2 ^ e.toNat = m at *
    omega

/-- An integer beyond the signed 64-bit range, rounded to binary64 and truncated back into
that range, saturates at its upper bound. -/
theorem truncate_ofNat_of_i64Max_lt {n : Nat} (hn : Text.i64Max < n) :
    (ofNat n).truncate Text.i64Min Text.i64Max = Text.i64Max := by
  have hn0 : n ≠ 0 := by unfold Text.i64Max at hn; omega
  have hL : 63 ≤ n.log2 := (Nat.le_log2 hn0).mpr (by unfold Text.i64Max at hn; omega)
  unfold ofNat round
  rw [if_neg (by omega)]
  dsimp only
  rw [floorLog2_one hn0]
  have he : max ((n.log2 : Int) - 52) (-1074) = (n.log2 : Int) - 52 := by omega
  have hk : ((n.log2 : Int) - 52).toNat = n.log2 - 52 := by omega
  rw [he, pow2_of_nonpos (by omega : -((n.log2 : Int) - 52) ≤ 0), Nat.mul_one, Nat.one_mul,
    pow2_eq_pow, hk]
  have hq : hidden ≤ roundHalfEven n (2 ^ (n.log2 - 52)) := by
    refine Nat.le_trans ?_ (div_le_roundHalfEven _ _)
    rw [Nat.le_div_iff_mul_le (Nat.two_pow_pos _), hidden_mul_pow]
    calc 2 ^ (52 + (n.log2 - 52)) = 2 ^ n.log2 := by congr 1; omega
      _ ≤ n := Nat.log2_self_le hn0
  have h63 : ∀ k, 63 ≤ k → 2 ^ 63 ≤ 2 ^ k := fun k hk => Nat.pow_le_pow_right (by omega) hk
  split
  · apply truncate_encode_of_big (Nat.le_refl _) (by omega)
    rw [hidden_mul_pow]
    exact h63 _ (by omega)
  · apply truncate_encode_of_big hq (by omega)
    rw [hk]
    calc 2 ^ 63 ≤ hidden * 2 ^ (n.log2 - 52) := by rw [hidden_mul_pow]; exact h63 _ (by omega)
      _ ≤ _ := Nat.mul_le_mul_right _ hq

end Binary64

theorem Numeral.asI64?_nat (n : Nat) :
    (Numeral.nat n).asI64? = if (n : Int) ≤ Text.i64Max then some (n : Int) else none := by
  show (if n ≤ Text.i64Max.toNat then some (n : Int) else none) = _
  by_cases h : (n : Int) ≤ Text.i64Max
  · rw [if_pos (by unfold Text.i64Max at h ⊢; omega), if_pos h]
  · rw [if_neg (by unfold Text.i64Max at h ⊢; omega), if_neg h]

namespace RuleOptions

/-! ## The readers -/

/-- A nonnegative integer reads as a limit clamped to the signed 64-bit range. -/
@[simp] theorem intValue_nat (n : Nat) :
    intValue (.num (.nat n)) = some (min (n : Int) Text.i64Max) := by
  simp only [intValue, Numeral.asI64?_nat]
  by_cases h : (n : Int) ≤ Text.i64Max
  · rw [if_pos h, Int.min_eq_left h]
  · rw [if_neg h, Int.min_eq_right (by omega)]
    simp only [Numeral.asF64]
    rw [Binary64.truncate_ofNat_of_i64Max_lt (by omega)]

/-- A nonnegative integer reads as a switch only within the signed 64-bit range. -/
@[simp] theorem boolValue_nat (n : Nat) :
    boolValue (.num (.nat n)) =
      if (n : Int) ≤ Text.i64Max then some (decide (n ≠ 0)) else none := by
  simp only [boolValue, Numeral.asI64?_nat]
  split <;> simp

/-- The words a switch reads as on. -/
def onWords : List String := ["true", "1", "yes", "on"]

/-- The words a switch reads as off; a blank text is off. -/
def offWords : List String := ["false", "0", "no", "off", ""]

theorem boolValue_str (s : String) :
    (boolValue (.str s) = some true ↔ Text.asciiLower (Text.trim s) ∈ onWords) ∧
    (boolValue (.str s) = some false ↔ Text.asciiLower (Text.trim s) ∈ offWords) := by
  simp only [boolValue, onWords, offWords, List.mem_cons, List.not_mem_nil, or_false]
  split
  · rename_i hon
    refine ⟨by simpa using hon, ?_⟩
    simp only [Option.some.injEq, Bool.true_eq_false, false_iff]
    rcases hon with h | h | h | h <;> rw [h] <;> decide
  · split
    · rename_i hoff _
      exact ⟨by simpa using hoff, by simpa using ‹_›⟩
    · rename_i hon hoff
      simp only [reduceCtorEq, false_iff]
      exact ⟨hon, hoff⟩

/-- A text is a string verbatim, nothing for `null`, and the compact JSON text otherwise. -/
theorem textValue_eq (w : Json) :
    textValue w = if w.isNull then none else some (w.str?.getD w.render) := by
  cases w <;> rfl

/-! ## The allow-list -/

/-- The texts the allow-list is made from: the items of an array under `allowed`, as texts, or
else the comma-separated pieces of the text under `allowed_devices`, or under `allowed` when
that key is absent. -/
def allowSource (v : Json) : List String :=
  match v.get? "allowed" with
  | some (.arr items) => items.filterMap textValue
  | _ => ((((v.get? "allowed_devices").or (v.get? "allowed")).bind textValue).getD "").splitOn ","

theorem filterMap_allowEntry (l : List String) :
    l.filterMap allowEntry = (l.map fun s => Text.toLower (Text.trim s)).filter (!·.isEmpty) := by
  induction l with
  | nil => rfl
  | cons s l ih =>
    simp only [List.filterMap_cons, List.map_cons, List.filter_cons, allowEntry, ih]
    by_cases h : (Text.toLower (Text.trim s)).isEmpty <;> simp [h]

theorem splitOn_empty_comma : "".splitOn "," = [""] := by
  rw [String.splitOn, if_neg (by decide), String.splitOnAux]
  rfl

/-- With neither key the allow-list is empty. -/
theorem allowList_of_absent {v : Json} (hallowed : v.get? "allowed" = none)
    (hdevices : v.get? "allowed_devices" = none) : allowList v = [] := by
  unfold allowList
  rw [hallowed, hdevices]
  show ("".splitOn ",").filterMap allowEntry = []
  rw [splitOn_empty_comma]
  decide

theorem allowList_eq (v : Json) : allowList v = (allowSource v).filterMap allowEntry := by
  unfold allowList allowSource
  generalize v.get? "allowed" = a
  generalize v.get? "allowed_devices" = d
  cases a with
  | some w =>
    cases w with
    | arr items =>
      dsimp only
      rw [List.filterMap_filterMap]
      congr 1
      funext w
      cases w <;> simp only [textValue, Option.bind_some, Option.bind_none]
    | _ => cases d <;> simp only [Option.some_or, Option.none_or]
  | none => cases d <;> simp only [Option.some_or, Option.none_or]

/-! ## The whole object -/

/-- Every field is read from its own key with its own reader and default; the allow-list is
trimmed and lowercased with empty entries dropped. -/
theorem ofJson_eq_fields (v : Json) : ofJson v =
    { max := (v.get? "max").bind intValue
      maxKbps := ((v.get? "max_kbps").bind intValue).getD 0
      perServer := ((v.get? "per_server").bind boolValue).getD true
      ignoreUnknown := ((v.get? "ignore_unknown").bind boolValue).getD true
      allowLocalIp := ((v.get? "allow_local_ip").bind boolValue).getD false
      allowed := ((allowSource v).map fun s => Text.toLower (Text.trim s)).filter (!·.isEmpty)
      selector := (((v.get? "selector").bind Json.str?).map Selector.parseLenient).getD .killNewest
      warnTitle := ((v.get? "warn_title").bind textValue).getD defaultWarnTitle
      warnText := ((v.get? "warn_text").bind textValue).getD defaultWarnText } := by
  rw [← filterMap_allowEntry, ← allowList_eq]
  cases v with
  | obj members =>
    simp only [ofJson]
    congr 1
    generalize (Json.obj members).get? "selector" = sel
    cases sel with
    | none => rfl
    | some w =>
      cases w <;> simp only [Option.bind_some, Json.str?, Option.map_some, Option.map_none,
        Option.getD_some, Option.getD_none]
  | _ => rw [allowList_of_absent rfl rfl]; rfl

/-- The empty object gives every default. -/
theorem ofJson_empty : ofJson (.obj []) = {} := by
  simp only [ofJson]
  rw [allowList_of_absent rfl rfl]
  rfl

/-- Reading a rule's settings: a value that is not an object gives every default, and each field is
read from its own key (the allow-list also from its legacy key) with its own reader and default:
integers clamp to 64 bits as limits but are switches only in range, texts are trimmed and parsed,
and a text setting is a string verbatim or another value's compact JSON. -/
theorem ofJson_reads_each_key (v : Json) :
    ofJson v = ofJson (.obj (v.members?.getD [])) ∧
    ofJson (.obj []) = {} ∧
    ofJson v =
      { max := (v.get? "max").bind intValue
        maxKbps := ((v.get? "max_kbps").bind intValue).getD 0
        perServer := ((v.get? "per_server").bind boolValue).getD true
        ignoreUnknown := ((v.get? "ignore_unknown").bind boolValue).getD true
        allowLocalIp := ((v.get? "allow_local_ip").bind boolValue).getD false
        allowed := ((allowSource v).map fun s => Text.toLower (Text.trim s)).filter (!·.isEmpty)
        selector :=
          (((v.get? "selector").bind Json.str?).map Selector.parseLenient).getD .killNewest
        warnTitle := ((v.get? "warn_title").bind textValue).getD defaultWarnTitle
        warnText := ((v.get? "warn_text").bind textValue).getD defaultWarnText } ∧
    (∀ n : Nat, intValue (.num (.nat n)) = some (min (n : Int) Text.i64Max) ∧
      boolValue (.num (.nat n)) =
        if (n : Int) ≤ Text.i64Max then some (decide (n ≠ 0)) else none) ∧
    (∀ n : Int, intValue (.num (.negInt n)) = some n ∧
      boolValue (.num (.negInt n)) = some (decide (n ≠ 0))) ∧
    (∀ x : Binary64, intValue (.num (.float x)) = some (x.truncate Text.i64Min Text.i64Max) ∧
      boolValue (.num (.float x)) = none) ∧
    (∀ s : String, intValue (.str s) = Text.parseI64? (Text.trim s) ∧
      (boolValue (.str s) = some true ↔ Text.asciiLower (Text.trim s) ∈ onWords) ∧
      (boolValue (.str s) = some false ↔ Text.asciiLower (Text.trim s) ∈ offWords)) ∧
    (∀ b : Bool,
      intValue (.bool b) = some (if b then 1 else 0) ∧ boolValue (.bool b) = some b) ∧
    (∀ w : Json, textValue w = if w.isNull then none else some (w.str?.getD w.render)) := by
  have hobject : ofJson v = ofJson (.obj (v.members?.getD [])) := by
    cases v with
    | obj members => rfl
    | _ => exact ofJson_empty.symm
  exact ⟨hobject, ofJson_empty, ofJson_eq_fields v,
    fun n => ⟨intValue_nat n, boolValue_nat n⟩, fun _ => ⟨rfl, rfl⟩, fun _ => ⟨rfl, rfl⟩,
    fun s => ⟨rfl, boolValue_str s⟩, fun _ => ⟨rfl, rfl⟩, textValue_eq⟩

/-- The least integer beyond the signed 64-bit range leaves a switch at its default, while the
same integer as a limit saturates at the upper bound of that range. -/
theorem switch_ignores_integer_beyond_i64 :
    (ofJson (.obj [("allow_local_ip", .num (.nat 9223372036854775808))])).allowLocalIp =
      false ∧
    (ofJson (.obj [("max", .num (.nat 9223372036854775808))])).max = some Text.i64Max := by
  decide

end RuleOptions

end StreamWarden
