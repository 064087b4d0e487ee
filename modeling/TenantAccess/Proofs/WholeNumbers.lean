import TenantAccess.Token.Verification
import Mathlib.Data.Rat.Floor

/-! Whole numbers of fifty-three binary digits are held as they are. What is reckoned
on the seconds of a clock is therefore reckoned exactly. -/

namespace TenantAccess.Proofs
open Number

theorem nearestEven_whole (n : Nat) : nearestEven n 1 = n := by
  simp [nearestEven, Nat.mod_one]

theorem binaryExponent_whole {n : Nat} (positive : n ≠ 0) : binaryExponent n 1 = n.log2 := by
  have reached : reachesPower n 1 (n.log2 : Int) = true := by
    simp [reachesPower, Nat.log2_self_le positive]
  have guess : ((n.log2 : Int) - (Nat.log2 1 : Int)) = n.log2 := by
    simp [show Nat.log2 1 = 0 from by decide]
  unfold binaryExponent
  simp only [guess, reached, if_true]

/-- A whole number of fifty-three binary digits is its own nearest binary64. -/
theorem roundRatio_whole {n : Nat} (positive : n ≠ 0) (small : n < 2 ^ 53) :
    roundRatio n 1 = some (n : Rat) := by
  have digits : n.log2 < 53 := (Nat.log2_lt positive).mpr small
  have unit : max (binaryExponent n 1 - 52) (-1074) = (n.log2 : Int) - 52 := by
    rw [binaryExponent_whole positive]
    omega
  -- The largest power is kept out of sight, or the kernel would write it out.
  have bounded : (n : Rat) < (Nat.pow 2 1024 : Rat) := by
    generalize large : 1024 = power
    exact Nat.cast_lt.mpr (small.trans (Nat.pow_lt_pow_right Nat.one_lt_two (by omega)))
  have coarse (power : Nat) (same : (n.log2 : Int) - 52 = Int.ofNat power) : power = 0 := by
    have : (Int.ofNat power) = (power : Int) := rfl
    omega
  unfold roundRatio
  simp only [unit]
  split
  next power same =>
    obtain rfl := coarse power same
    have whole : nearestEven n (1 * Nat.pow 2 0) * Nat.pow 2 0 = n := by
      rw [show Nat.pow 2 0 = 1 from rfl, nearestEven_whole, Nat.mul_one]
    rw [whole, if_pos bounded]
  next power same =>
    have parts : (Nat.pow 2 (power + 1) : Rat) ≠ 0 :=
      Nat.cast_ne_zero.mpr (Nat.pow_pos (by decide)).ne'
    have whole : mkRat (nearestEven (n * Nat.pow 2 (power + 1)) 1) (Nat.pow 2 (power + 1)) = n := by
      rw [nearestEven_whole, Rat.mkRat_eq_div, Int.cast_natCast, Nat.cast_mul, mul_div_assoc,
        div_self parts, mul_one]
    rw [whole, if_pos bounded]

theorem ofInt_held {n : Int} (small : n.natAbs < 2 ^ 53) : Number.ofInt n = .finite n := by
  unfold Number.ofInt Number.round
  by_cases zero : n = 0
  · simp [zero]
  · have positive : n.natAbs ≠ 0 := by omega
    simp only [Rat.num_intCast, zero, if_false, Rat.den_intCast, roundRatio_whole positive small,
      Nat.cast_natAbs]
    by_cases negative : n < 0
    · simp [negative, abs_of_neg]
    · simp [negative, abs_of_nonneg (Int.not_lt.mp negative)]

theorem truncate_whole (n : Int) : Number.truncate (n : Rat) = n := by simp [Number.truncate]

/-- Dropping a fraction never leads away from zero. -/
theorem truncate_bounded {value : Rat} {bound : Nat} (low : -(bound : Rat) ≤ value)
    (high : value ≤ bound) : (Number.truncate value).natAbs ≤ bound := by
  have size : |value| ≤ bound := abs_le.mpr ⟨low, high⟩
  have positive : (0 : Rat) < value.den := Nat.cast_pos.mpr value.den_pos
  rw [Rat.abs_def, Rat.divInt_eq_div, Int.cast_natCast, Int.cast_natCast, div_le_iff₀ positive,
    ← Nat.cast_mul, Nat.cast_le] at size
  rw [Number.truncate, Int.natAbs_tdiv, Int.natAbs_natCast]
  exact Nat.div_le_of_le_mul (by rwa [Nat.mul_comm])

theorem isWritable_iff (moment : Rat) :
    Calendar.isWritable moment = true ↔
      -(8640000000000000 : Nat) ≤ moment ∧ moment ≤ (8640000000000000 : Nat) := by
  unfold Calendar.isWritable Calendar.limit
  rw [Bool.and_eq_true]
  constructor
  · rintro ⟨low, high⟩
    exact ⟨by simpa using of_decide_eq_true low, by simpa using of_decide_eq_true high⟩
  · rintro ⟨low, high⟩
    exact ⟨decide_eq_true (by simpa using low), decide_eq_true (by simpa using high)⟩

theorem seconds?_few {now : Number} {second : Int} (told : TokenOutcome.seconds? now = some second) :
    (second + TokenOutcome.leeway).natAbs < 2 ^ 53 ∧
      (second - TokenOutcome.leeway).natAbs < 2 ^ 53 := by
  unfold TokenOutcome.seconds? at told
  split at told
  next moment =>
    split at told
    next writable =>
      obtain ⟨low, high⟩ := (isWritable_iff moment).mp writable
      have few := truncate_bounded low high
      have same := Option.some.inj told
      rw [Int.fdiv_eq_ediv_of_nonneg _ (by decide)] at same
      simp only [TokenOutcome.leeway]
      omega
    next => cases told
  next => cases told

/-- A clock of whole milliseconds tells the whole seconds that have passed. -/
theorem seconds?_floor {moment : Int} (near : moment.natAbs ≤ 8640000000000000) :
    TokenOutcome.seconds? (.finite moment) = some ⌊(moment : Rat) / 1000⌋ := by
  have bounds : -(8640000000000000 : Int) ≤ moment ∧ moment ≤ 8640000000000000 := by omega
  have writable : Calendar.isWritable moment = true := by
    rw [isWritable_iff]
    exact_mod_cast bounds
  have floored : ⌊(moment : Rat) / 1000⌋ = moment / 1000 := by
    exact_mod_cast Rat.floor_intCast_div_natCast moment 1000
  have seconds : moment.fdiv 1000 = moment / 1000 := Int.fdiv_eq_ediv_of_nonneg _ (by decide)
  simp only [TokenOutcome.seconds?, writable, if_true, truncate_whole, floored, seconds]

end TenantAccess.Proofs
