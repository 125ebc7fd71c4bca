/-
  DomainScope.Proofs.Resolver.Delays
  ──────────────────────────────────
  **HOW LONG IS WAITED BETWEEN ATTEMPTS.**

  A source that multiplies words keeps the current power of its base, cut to the
  greatest word, until a delay passes the greatest one; from there on every
  delay is the greatest one (`PowerState.Stands`).  So its delays are the powers
  of the base times the factor, as in `DelaySource.RaisesBase`.

  The settings are documented in another way: the first delay is the initial
  one, and each further one the previous one times the factor (`Documents`).
  With the initial delay as the base of the powers, both agree only where the
  greatest delay is reached at once, where the delays stay at zero or one
  millisecond, or where there are too few of them to tell.

  Main results
    `powers_raisesBase`       the source on words gives cut powers
    `delays_eq_backoff`       the delays between attempts in closed form
    `cut_powers_eq_iff`       when powers of the base are powers of the factor
    `delays_documented_iff`   the delays, and when they are the documented ones
-/
import DomainScope.Resolver.DelaySource

namespace DomainScope

/-! ## §1. Products that are cut. -/

/-- A product may be cut before or after it is multiplied on. -/
theorem min_mul_min (m n limit : Nat) : min (min m limit * n) limit = min (m * n) limit := by
  rcases Nat.le_total m limit with hle | hle
  · rw [Nat.min_eq_left hle]
  · rw [Nat.min_eq_right hle]
    rcases Nat.eq_zero_or_pos n with rfl | hpos
    · rfl
    · have hlimit : limit ≤ limit * n := Nat.le_mul_of_pos_right limit hpos
      have hproduct : limit * n ≤ m * n := Nat.mul_le_mul_right n hle
      rw [Nat.min_eq_right hlimit, Nat.min_eq_right (Nat.le_trans hlimit hproduct)]

theorem toNat_saturatingMul (a b : BitVec 64) :
    (saturatingMul a b).toNat = min (a.toNat * b.toNat) Backoff.greatestWord := by
  have hword : Backoff.greatestWord = 2 ^ 64 - 1 := by decide
  unfold saturatingMul
  rw [hword]
  split
  next hfits =>
    rw [BitVec.toNat_mul, Nat.mod_eq_of_lt hfits]
    omega
  next hfits =>
    rw [BitVec.toNat_allOnes]
    omega

/-! ## §2. The source on words. -/

namespace PowerState

open DelaySource

variable {base factor : BitVec 64} {greatest : Nat}

/-- Where the source stands in front of delay number `i`. -/
inductive Stands (base factor : BitVec 64) (greatest i : Nat) : PowerState → Prop where
  /-- It holds the power for that delay, cut to the greatest word. -/
  | growing {current : BitVec 64}
      (hcurrent : current.toNat = min (base.toNat ^ (i + 1)) Backoff.greatestWord) :
      Stands base factor greatest i ⟨current, base, factor, greatest⟩
  /-- The greatest delay has been passed, and by all powers that would follow. -/
  | passed {current : BitVec 64} (hdelay : greatest < (saturatingMul current factor).toNat)
      (hpowers : ∀ j, i ≤ j →
        greatest < min (base.toNat ^ (j + 1) * factor.toNat) Backoff.greatestWord) :
      Stands base factor greatest i ⟨current, base, factor, greatest⟩

/-- Past the greatest delay nothing changes. -/
theorem next_of_lt {s : PowerState} (h : s.greatest < (saturatingMul s.current s.factor).toNat) :
    s.next = (s.greatest, s) :=
  if_pos h

/-- Up to the greatest delay the power is raised. -/
theorem next_of_not_lt {s : PowerState}
    (h : ¬ s.greatest < (saturatingMul s.current s.factor).toNat) :
    s.next = ((saturatingMul s.current s.factor).toNat,
      { s with current := saturatingMul s.current s.base }) :=
  if_neg h

/-- A power that passes a delay is followed by powers that do. -/
theorem lt_cut_of_le {b f limit g i j : Nat} (h : g < min (b ^ (i + 1) * f) limit) (hij : i ≤ j) :
    g < min (b ^ (j + 1) * f) limit := by
  rcases Nat.eq_zero_or_pos b with rfl | hpos
  · rw [Nat.zero_pow (Nat.succ_pos i), Nat.zero_mul] at h
    omega
  · rw [Nat.lt_min] at h ⊢
    have hpow : b ^ (i + 1) ≤ b ^ (j + 1) := Nat.pow_le_pow_right hpos (by omega)
    exact ⟨Nat.lt_of_lt_of_le h.1 (Nat.mul_le_mul_right f hpow), h.2⟩

/-- **One delay**: it is the cut power, and the source stands in front of the
next one. -/
theorem Stands.step {i : Nat} {s : PowerState} (h : Stands base factor greatest i s) :
    s.next.1 = cutPower base factor greatest i ∧ Stands base factor greatest (i + 1) s.next.2 := by
  unfold cutPower
  cases h with
  | @growing current hcurrent =>
    have hdelay : (saturatingMul current factor).toNat
        = min (base.toNat ^ (i + 1) * factor.toNat) Backoff.greatestWord := by
      rw [toNat_saturatingMul, hcurrent, min_mul_min]
    by_cases hpassed : greatest < (saturatingMul current factor).toNat
    · rw [next_of_lt hpassed]
      refine ⟨?_, .passed hpassed fun j hij => ?_⟩
      · rw [← hdelay, Nat.min_eq_right (Nat.le_of_lt hpassed)]
      · rw [hdelay] at hpassed
        exact lt_cut_of_le hpassed (by omega)
    · rw [next_of_not_lt hpassed]
      refine ⟨?_, .growing ?_⟩
      · rw [← hdelay, Nat.min_eq_left (Nat.le_of_not_lt hpassed)]
      · rw [toNat_saturatingMul, hcurrent, min_mul_min, ← Nat.pow_succ]
  | @passed current hdelay hpowers =>
    rw [next_of_lt hdelay]
    refine ⟨?_, .passed hdelay fun j hij => hpowers j (by omega)⟩
    rw [Nat.min_eq_right (Nat.le_of_lt (hpowers i (Nat.le_refl i)))]

/-- **A row of delays** from number `i` on. -/
theorem Stands.take_eq {i : Nat} {s : PowerState} (h : Stands base factor greatest i s)
    (count : Nat) :
    powers.take count s = (List.range count).map fun k => cutPower base factor greatest (i + k) := by
  induction count generalizing i s with
  | zero => rfl
  | succ count ih =>
    obtain ⟨hdelay, hlater⟩ := h.step
    show s.next.1 :: powers.take count s.next.2 = _
    rw [hdelay, ih hlater, List.range_succ_eq_map, List.map_cons, List.map_map]
    refine congrArg _ (List.map_congr_left fun k _ => ?_)
    show cutPower base factor greatest (i + 1 + k) = cutPower base factor greatest (i + (k + 1))
    rw [Nat.add_assoc, Nat.add_comm 1 k]

end PowerState

/-- **The source on words gives cut powers.** -/
theorem DelaySource.powers_raisesBase : powers.RaisesBase := by
  intro base factor greatest count
  have hlt := base.isLt
  have hstart : PowerState.Stands base factor greatest 0 (powers.start base factor greatest) := by
    refine .growing ?_
    rw [Nat.pow_one, Nat.min_eq_left]
    show base.toNat ≤ 1 <<< 64 - 1
    omega
  rw [hstart.take_eq count]
  simp only [Nat.zero_add]

/-! ## §3. The documented delays. -/

namespace RetrySettings

variable {settings : RetrySettings}

/-- What no delay exceeds: the greatest word, and the greatest delay. -/
def limit (settings : RetrySettings) : Nat := min Backoff.greatestWord settings.greatestMillis

/-- The delays that the settings are documented to give: one less than there are
attempts, the first one the initial delay, each further one the previous one
times the factor, and none of them over the greatest delay. -/
structure Documents (settings : RetrySettings) (delays : List Nat) : Prop where
  length_eq : delays.length = settings.attempts.toNat - 1
  first : ∀ delay, delays[0]? = some delay →
    delay = min settings.initialMillis.toNat settings.limit
  next : ∀ i delay later, delays[i]? = some delay → delays[i + 1]? = some later →
    later = min (delay * settings.factor.toNat) settings.limit
  closed : ∀ i delay, delays[i]? = some delay →
    delay = min (settings.initialMillis.toNat * settings.factor.toNat ^ i) settings.limit

/-- **The closed form is all there is to it**: a row of cut powers of the factor
begins with the initial delay and grows by the factor. -/
theorem documents_iff {delays : List Nat} :
    settings.Documents delays ↔ delays = (List.range (settings.attempts.toNat - 1)).map fun i =>
      min (settings.initialMillis.toNat * settings.factor.toNat ^ i) settings.limit := by
  constructor
  · intro h
    refine List.ext_getElem (by simp [h.length_eq]) fun i hi _ => ?_
    rw [List.getElem_map, List.getElem_range]
    exact h.closed i _ (List.getElem?_eq_getElem hi)
  · intro heq
    have hclosed : ∀ i delay, delays[i]? = some delay →
        delay = min (settings.initialMillis.toNat * settings.factor.toNat ^ i) settings.limit := by
      intro i delay hdelay
      rw [heq, List.getElem?_map, Option.map_eq_some_iff] at hdelay
      obtain ⟨k, hk, rfl⟩ := hdelay
      obtain ⟨hlt, rfl⟩ := List.getElem?_eq_some_iff.mp hk
      rw [List.getElem_range]
    refine ⟨by simp [heq], fun delay hdelay => ?_, fun i delay later hdelay hlater => ?_, hclosed⟩
    · rw [hclosed 0 delay hdelay, Nat.pow_zero, Nat.mul_one]
    · rw [hclosed i delay hdelay, hclosed (i + 1) later hlater, min_mul_min, Nat.mul_assoc,
        ← Nat.pow_succ]

/-! ## §4. Powers of the base and powers of the factor. -/

variable {b f limit : Nat}

/-- Where the base and its product with the factor reach the limit, so does all
that follows. -/
theorem cut_powers_of_limit_le (hbase : limit ≤ b) (hproduct : limit ≤ b * f) (i : Nat) :
    min (b ^ (i + 1) * f) limit = limit ∧ min (b * f ^ i) limit = limit := by
  rcases Nat.eq_zero_or_pos limit with rfl | hpos
  · exact ⟨Nat.min_zero _, Nat.min_zero _⟩
  · have hf : 0 < f := Nat.pos_of_mul_pos_left (Nat.lt_of_lt_of_le hpos hproduct)
    have hraised : b * f ≤ b ^ (i + 1) * f :=
      Nat.mul_le_mul_right f (Nat.le_self_pow (Nat.succ_ne_zero i) b)
    have hgrown : b ≤ b * f ^ i := Nat.le_mul_of_pos_right b (Nat.pow_pos hf)
    exact ⟨Nat.min_eq_right (Nat.le_trans hproduct hraised),
      Nat.min_eq_right (Nat.le_trans hbase hgrown)⟩

/-- A product that is cut to the same as its first part is that part, unless both
reach the limit. -/
theorem eq_one_of_cut_eq (h : min (b * f) limit = min b limit) (hzero : b ≠ 0)
    (hlimit : ¬ (limit ≤ b ∧ limit ≤ b * f)) : f = 1 := by
  have hsame : b * f = b := by omega
  exact (Nat.mul_eq_left hzero).mp hsame

/-- **When a row of cut powers is the same for both**: the powers of a base from
the first one on, times a factor, and the base times the powers of the factor. -/
theorem cut_powers_eq_iff {count : Nat} :
    (∀ i < count, min (b ^ (i + 1) * f) limit = min (b * f ^ i) limit) ↔
      count = 0 ∨ b = 0 ∨ (limit ≤ b ∧ limit ≤ b * f) ∨ (f = 1 ∧ (b = 1 ∨ count = 1)) := by
  constructor
  · intro h
    by_cases hcount : count = 0
    · exact .inl hcount
    by_cases hzero : b = 0
    · exact .inr (.inl hzero)
    by_cases hlimit : limit ≤ b ∧ limit ≤ b * f
    · exact .inr (.inr (.inl hlimit))
    -- The first two numbers of the row decide: one for the factor, one for the base.
    have hfirst := h 0 (Nat.pos_of_ne_zero hcount)
    rw [Nat.zero_add, Nat.pow_one, Nat.pow_zero, Nat.mul_one] at hfirst
    have hone := eq_one_of_cut_eq hfirst hzero hlimit
    subst hone
    refine .inr (.inr (.inr ⟨rfl, ?_⟩))
    by_cases hcount' : count = 1
    · exact .inr hcount'
    · have hsecond := h 1 (by omega)
      rw [Nat.pow_one, Nat.mul_one, Nat.mul_one, Nat.pow_two] at hsecond
      rw [Nat.mul_one, and_self] at hlimit
      exact .inl (eq_one_of_cut_eq hsecond hzero fun hyp => hlimit hyp.1)
  · rintro (rfl | rfl | ⟨hbase, hproduct⟩ | ⟨rfl, hone⟩) i hi
    · exact absurd hi (Nat.not_lt_zero i)
    · rw [Nat.zero_pow (Nat.succ_pos i), Nat.zero_mul, Nat.zero_mul]
    · obtain ⟨hraised, hgrown⟩ := cut_powers_of_limit_le hbase hproduct i
      rw [hraised, hgrown]
    · rw [Nat.one_pow, Nat.mul_one, Nat.mul_one]
      rcases hone with rfl | rfl
      · rw [Nat.one_pow]
      · rw [Nat.lt_one_iff.mp hi, Nat.zero_add, Nat.pow_one]

/-! ## §5. The delays between attempts. -/

/-- **The delays between attempts in closed form**, from any source that raises
its base. -/
theorem delays_eq_backoff {source : DelaySource} (h : source.RaisesBase)
    (settings : RetrySettings) : settings.delays source = settings.toBackoff.delays :=
  h _ _ _ _

/-- **The delays between attempts are the documented ones** exactly if there are
none, the initial delay is zero, it and its product with the factor reach the
limit at once, or the factor is one and either the initial delay is one or there
is one delay only. -/
theorem delays_documented_iff {source : DelaySource} (h : source.RaisesBase)
    (settings : RetrySettings) :
    let initial := settings.initialMillis.toNat
    let factor := settings.factor.toNat
    settings.delays source = (List.range (settings.attempts.toNat - 1)).map (fun i =>
        min (initial ^ (i + 1) * factor) settings.limit) ∧
      (settings.Documents (settings.delays source) ↔
        settings.attempts.toNat ≤ 1 ∨ initial = 0 ∨
          (settings.limit ≤ initial ∧ settings.limit ≤ initial * factor) ∨
          (factor = 1 ∧ (initial = 1 ∨ settings.attempts.toNat = 2))) := by
  intro initial factor
  have hdelays : settings.delays source = (List.range (settings.attempts.toNat - 1)).map
      fun i => min (initial ^ (i + 1) * factor) settings.limit := by
    rw [delays_eq_backoff h]
    refine List.map_congr_left fun i _ => ?_
    exact Nat.min_assoc _ _ _
  refine ⟨hdelays, ?_⟩
  rw [documents_iff, hdelays, List.map_inj_left]
  simp only [List.mem_range]
  rw [cut_powers_eq_iff]
  have hnone : settings.attempts.toNat - 1 = 0 ↔ settings.attempts.toNat ≤ 1 := by omega
  have hone : settings.attempts.toNat - 1 = 1 ↔ settings.attempts.toNat = 2 := by omega
  rw [hnone, hone]

/-- From six seconds on every delay is the greatest one. -/
theorem delays_documented_six_seconds :
    let settings : RetrySettings := ⟨6000, 2, 5, 4⟩
    DelaySource.powers.RaisesBase ∧ settings.delays .powers = [5000, 5000, 5000] ∧
      settings.Documents (settings.delays .powers) := by
  intro settings
  have hraises := DelaySource.powers_raisesBase
  have hlaw := delays_documented_iff hraises settings
  refine ⟨hraises, hlaw.1.trans (by decide), hlaw.2.mpr (.inr (.inr (.inl ?_)))⟩
  decide

/-- The settings of the resolver are documented to give 200 and 400 milliseconds,
and give 400 and 5000. -/
theorem not_documents_standard :
    RetrySettings.standard.toBackoff = Backoff.standard ∧
      RetrySettings.standard.delays .powers = [400, 5000] ∧
      ¬ RetrySettings.standard.Documents [400, 5000] ∧
      RetrySettings.standard.Documents [200, 400] := by
  refine ⟨by decide, by decide, ?_, ?_⟩
  · intro h
    exact absurd (h.first 400 rfl) (by decide)
  · exact documents_iff.mpr (by decide)

end RetrySettings

end DomainScope
