import UiSurface.Device.Backoff
import Mathlib.Algebra.Order.Ring.Int
import Mathlib.Tactic.Ring

/-!
# Delays — every wait is a number of seconds

The seconds of a wait are the smaller of a square and a cap.  An integer has a double nearest to it unless
it is past the largest one, and so a wait is a double wherever the cap is in range: the square is
chosen only if it is not above the cap.

Main lemmas: `Number.isSome_toBinary64?` (an integer that is not past the largest double has a double
nearest to it), `Number.isSome_least_of_inRange`, `Number.isSome_least_float`.
-/

namespace UiSurface

namespace Binary64

/-! ## Powers of two -/

theorem pow2_pos (k : Nat) : 0 < pow2 k := Nat.two_pow_pos k

theorem pow2_add (j k : Nat) : pow2 (j + k) = pow2 j * pow2 k := Nat.pow_add 2 j k

theorem pow2_le {j k : Nat} (h : j ≤ k) : pow2 j ≤ pow2 k := Nat.pow_le_pow_right (by decide) h

def largest : Nat := (pow2 53 - 1) * pow2 971

/-- A number below a power of two has no more bits than that. -/
theorem log2_lt_of_le {num k : Nat} (h : num ≤ (pow2 53 - 1) * pow2 k) : num.log2 < 53 + k := by
  rcases Nat.eq_zero_or_pos num with rfl | hpos
  · exact Nat.lt_add_right k (by decide)
  · have hlt : num < pow2 (53 + k) := by
      rw [pow2_add]
      exact h.trans_lt ((Nat.mul_lt_mul_right (pow2_pos k)).mpr (by decide))
    exact (Nat.log2_lt (Nat.pos_iff_ne_zero.mp hpos)).mpr hlt

/-! ## Rounding an integer -/

/-- What is not above an integer is not rounded above it. -/
theorem roundDiv_le {num den bound : Nat} (h : num ≤ bound * den) (hden : 0 < den) :
    roundDiv num den ≤ bound := by
  have hround := two_mul_roundDiv_le num den
  have htwice : (2 * roundDiv num den) * den < (2 * bound + 2) * den := by
    calc (2 * roundDiv num den) * den = 2 * (roundDiv num den * den) := Nat.mul_assoc ..
      _ ≤ 2 * (bound * den) + den := by omega
      _ < 2 * (bound * den) + den + den := by omega
      _ = (2 * bound + 2) * den := by ring
  have := Nat.lt_of_mul_lt_mul_right htwice
  omega

/-- The nearest double of an integer, by its binary logarithm. -/
theorem nearest_one (negative : Bool) {num : Nat} (h : num ≠ 0) :
    nearest negative num 1 = ofMagnitude negative (min infiniteMagnitude
      ((num.log2 + 1022) * pow2 52 +
        roundDiv (num * pow2 (52 - num.log2)) (pow2 (num.log2 - 52)))) := by
  have hlog : Nat.log2 1 = 0 := by decide
  have hreached : 1 * pow2 ((num.log2 : Int) - (Nat.log2 1 : Nat)).toNat ≤
      num * pow2 (-((num.log2 : Int) - (Nat.log2 1 : Nat))).toNat := by
    have hneg : (-((num.log2 : Int) - (Nat.log2 1 : Nat))).toNat = 0 := by omega
    have htop : ((num.log2 : Int) - (Nat.log2 1 : Nat)).toNat = num.log2 := by omega
    rw [hneg, htop]
    simpa [pow2] using Nat.log2_self_le h
  have hscale : max (-1074) ((num.log2 : Int) - (Nat.log2 1 : Nat) - 52) = (num.log2 : Int) - 52 := by
    omega
  have hexponent : ((num.log2 : Int) - 52 + 1074).toNat = num.log2 + 1022 := by omega
  have hdown : ((num.log2 : Int) - 52).toNat = num.log2 - 52 := by omega
  have hup : (-((num.log2 : Int) - 52)).toNat = 52 - num.log2 := by omega
  simp only [nearest, if_neg h, if_pos hreached, hscale, hexponent, hdown, hup]
  rw [Nat.one_mul]

/-- An integer that is not past the largest double is rounded below infinity. -/
theorem exists_nearest_one (negative : Bool) {num : Nat} (h : num ≤ largest) :
    ∃ magnitude < infiniteMagnitude, nearest negative num 1 = ofMagnitude negative magnitude := by
  rcases Nat.eq_zero_or_pos num with rfl | hpos
  · exact ⟨0, by decide, rfl⟩
  have hne : num ≠ 0 := Nat.pos_iff_ne_zero.mp hpos
  have hlog : num.log2 < 53 + 971 := log2_lt_of_le h
  have hcarry : pow2 53 = 2 * pow2 52 := rfl
  have hmagnitude : (num.log2 + 1022) * pow2 52 +
      roundDiv (num * pow2 (52 - num.log2)) (pow2 (num.log2 - 52)) < infiniteMagnitude := by
    have hunit := pow2_pos 52
    rcases Nat.lt_or_ge num.log2 1023 with hlow | htop
    · -- below the last exponent the mantissa may carry into it
      have hround : roundDiv (num * pow2 (52 - num.log2)) (pow2 (num.log2 - 52)) ≤ pow2 53 := by
        refine roundDiv_le ?_ (pow2_pos _)
        have hexponents : num.log2 + 1 + (52 - num.log2) = 53 + (num.log2 - 52) := by omega
        calc num * pow2 (52 - num.log2) ≤ pow2 (num.log2 + 1) * pow2 (52 - num.log2) :=
              Nat.mul_le_mul_right _ (Nat.le_of_lt Nat.lt_log2_self)
          _ = pow2 53 * pow2 (num.log2 - 52) := by rw [← pow2_add, hexponents, pow2_add]
      calc (num.log2 + 1022) * pow2 52 +
            roundDiv (num * pow2 (52 - num.log2)) (pow2 (num.log2 - 52))
          ≤ 2044 * pow2 52 + pow2 53 :=
            Nat.add_le_add (Nat.mul_le_mul_right _ (by omega)) hround
        _ < 2047 * pow2 52 := by omega
    · have hlast : num.log2 = 1023 := by omega
      have hround : roundDiv (num * pow2 0) (pow2 971) ≤ pow2 53 - 1 :=
        roundDiv_le (h.trans' (Nat.mul_one num).le) (pow2_pos _)
      rw [hlast]
      calc (1023 + 1022) * pow2 52 + roundDiv (num * pow2 0) (pow2 971)
          ≤ 2045 * pow2 52 + (pow2 53 - 1) := Nat.add_le_add_left hround _
        _ < 2047 * pow2 52 := by omega
  exact ⟨_, hmagnitude, by rw [nearest_one negative hne, Nat.min_eq_right hmagnitude.le]⟩

/-- Bits below those of infinity are those of no infinity. -/
theorem shape_ofMagnitude (negative : Bool) {magnitude : Nat} (h : magnitude < infiniteMagnitude)
    (sign : Bool) : (ofMagnitude negative magnitude).shape ≠ .infinite sign := by
  have hinfinite : infiniteMagnitude = 2047 * 2 ^ 52 := rfl
  have hpow : pow2 52 = 2 ^ 52 := rfl
  have hsign : pow2 63 = 2 ^ 63 := rfl
  have hexponent : (ofMagnitude negative magnitude).bits.toNat / pow2 52 % 2048 ≠ 2047 := by
    simp only [ofMagnitude, UInt64.toNat_ofNat', hpow, hsign]
    split <;> omega
  unfold shape
  simp only [if_neg hexponent]
  split <;> exact nofun

/-! ## Finite doubles -/

/-- The mantissa and the scale of a finite double are bounded. -/
theorem bounds_of_shape {x : Binary64} {negative : Bool} {m : Nat} {q : Int}
    (h : x.shape = .finite negative m q) : m ≤ pow2 53 - 1 ∧ q.toNat ≤ 971 := by
  have hfraction : x.bits.toNat % pow2 52 < pow2 52 := Nat.mod_lt _ (pow2_pos 52)
  have hexponent : x.bits.toNat / pow2 52 % 2048 < 2048 := Nat.mod_lt _ (by decide)
  have hcarry : pow2 53 = 2 * pow2 52 := rfl
  simp only [shape] at h
  split at h
  · split at h <;> cases h
  · split at h
    · cases h
      omega
    · cases h
      omega

/-- The numerator of a finite double is not past the largest one. -/
theorem bounds_of_ratio? {x : Binary64} {num : Int} {den : Nat} (h : x.ratio? = some (num, den)) :
    num.natAbs ≤ largest ∧ 0 < den := by
  unfold ratio? at h
  split at h
  · rename_i negative m q hshape
    obtain ⟨rfl, rfl⟩ := Prod.mk.inj (Option.some.inj h)
    obtain ⟨hm, hq⟩ := bounds_of_shape hshape
    have hnum : m * pow2 q.toNat ≤ largest := Nat.mul_le_mul hm (pow2_le hq)
    refine ⟨?_, pow2_pos _⟩
    split
    · rwa [Int.natAbs_neg, Int.natAbs_natCast]
    · rwa [Int.natAbs_natCast]
  · cases h

/-- A natural number that a finite double is not below is not past the largest double. -/
theorem natAbs_le_of_not_below {n : Int} (hn : 0 ≤ n) {x : Binary64} (hx : x.ratio?.isSome = true)
    (h : Number.below (.float x) (.int n) = false) : n.natAbs ≤ largest := by
  obtain ⟨⟨num, den⟩, hratio⟩ := Option.isSome_iff_exists.mp hx
  obtain ⟨hnum, hden⟩ := bounds_of_ratio? hratio
  have hvalue : n * den ≤ num := by
    simpa [Number.below, Number.ratio?, hratio] using h
  have hnat : n.natAbs * den ≤ num.natAbs := by
    rw [← Int.natAbs_of_nonneg hn] at hvalue
    exact_mod_cast hvalue.trans Int.le_natAbs
  calc n.natAbs ≤ n.natAbs * den := Nat.le_mul_of_pos_right _ hden
    _ ≤ num.natAbs := hnat
    _ ≤ largest := hnum

end Binary64

namespace Number

/-- An integer that is not past the largest double has a double nearest to it. -/
theorem isSome_toBinary64? {n : Int} (h : n.natAbs ≤ Binary64.largest) :
    (toBinary64? (.int n)).isSome = true := by
  obtain ⟨magnitude, hmagnitude, hnearest⟩ := Binary64.exists_nearest_one (n < 0) h
  have hshape : ∀ sign, (Binary64.ofInt n).shape ≠ .infinite sign := by
    rw [Binary64.ofInt, hnearest]
    exact Binary64.shape_ofMagnitude _ hmagnitude
  cases hx : (Binary64.ofInt n).shape with
  | infinite sign => exact absurd hx (hshape sign)
  | nan => simp [toBinary64?, hx]
  | finite => simp [toBinary64?, hx]

/-- A number that is finite, and not past the largest double. -/
def InRange : Number → Prop
  | int n => n.natAbs ≤ Binary64.largest
  | float x => x.ratio?.isSome = true

/-- A natural number that a number in range is not below is in range. -/
theorem natAbs_le_of_inRange {n : Int} (hn : 0 ≤ n) {cap : Number} (hcap : cap.InRange)
    (h : below cap (int n) = false) : n.natAbs ≤ Binary64.largest := by
  cases cap with
  | int m =>
    have hle : n.natAbs ≤ m.natAbs := by
      simp only [below, ratio?, decide_eq_false_iff_not, Int.not_lt] at h
      omega
    exact hle.trans hcap
  | float x => exact Binary64.natAbs_le_of_not_below hn hcap h

/-- The smaller of a natural number and a cap in range is a double. -/
theorem isSome_least_of_inRange {n : Int} (hn : 0 ≤ n) {cap : Number} (hcap : cap.InRange) :
    (least (int n) cap).toBinary64?.isSome = true := by
  unfold least
  split
  · cases cap with
    | int m => exact isSome_toBinary64? hcap
    | float x => rfl
  · rename_i hbelow
    exact isSome_toBinary64? (natAbs_le_of_inRange hn hcap (Bool.eq_false_iff.mpr hbelow))

/-- The smaller of an integer in range and a double is a double, be that infinite or no number. -/
theorem isSome_least_float {n : Int} (hn : n.natAbs ≤ Binary64.largest) (x : Binary64) :
    (least (int n) (float x)).toBinary64?.isSome = true := by
  unfold least
  split
  · rfl
  · exact isSome_toBinary64? hn

end Number

/-- The square of a natural number up to 2 ^ 511 is not past the largest double. -/
theorem Binary64.mul_self_le_largest {k : Nat} (h : k ≤ pow2 511) : k * k ≤ largest := by
  calc k * k ≤ pow2 511 * pow2 511 := Nat.mul_le_mul h h
    _ = pow2 (51 + 971) := (pow2_add 511 511).symm
    _ = pow2 51 * pow2 971 := pow2_add 51 971
    _ ≤ largest := Nat.mul_le_mul_right _ (by decide)

end UiSurface
