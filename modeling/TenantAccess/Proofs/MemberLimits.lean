import Mathlib.Data.Rat.Floor
import TenantAccess.Service.Organizations

/-! The limit of a list of members. Whatever a caller asks for, the list has a length between
one and five hundred. -/

namespace TenantAccess.Proofs

def towardZero (value : Rat) : Int := if 0 ≤ value then ⌊value⌋ else ⌈value⌉

inductive Limit : Option Json → Nat → Prop where
  | untold {given : Option Json} (untold : ∀ text, given ≠ some (.text text)) : Limit given 200
  | unnumbered {text : String} (unnumbered : ∀ value, Number.ofLenient text ≠ .finite value) :
      Limit (some (.text text)) 200
  | clamped {text : String} {value : Rat} {n : Nat} (numbered : Number.ofLenient text = .finite value)
      (clamped : (n : Int) = max 1 (min 500 (towardZero value))) : Limit (some (.text text)) n

theorem truncate_towardZero (value : Rat) : Number.truncate value = towardZero value := by
  unfold Number.truncate towardZero
  split
  next given =>
    rw [Int.tdiv_eq_ediv_of_nonneg (Rat.num_nonneg.mpr given), Rat.floor_def']
  next below =>
    have negative : 0 ≤ -value.num := by
      have := Rat.num_neg.mpr (not_le.mp below)
      omega
    rw [← Int.neg_neg (⌈value⌉), ← Int.floor_neg, Rat.floor_def', Rat.num_neg_eq_neg_num, Rat.den_neg_eq_den,
      ← Int.tdiv_eq_ediv_of_nonneg negative, Int.neg_tdiv, Int.neg_neg]

/-- A limit is always a number within its bounds. -/
theorem limitOf_limit (given : Option Json) :
    ∃ n : Nat, Organizations.limitOf given = n ∧ Limit given n ∧ 1 ≤ n ∧ n ≤ 500 := by
  unfold Organizations.limitOf
  split
  next text =>
    split
    next value numbered =>
      have bounds : 1 ≤ max 1 (min Organizations.greatestLimit (Number.truncate value)) ∧
          max 1 (min Organizations.greatestLimit (Number.truncate value)) ≤ 500 := by
        rw [Organizations.greatestLimit]
        omega
      obtain ⟨n, same⟩ := Int.eq_ofNat_of_zero_le (Int.le_trans (by decide) bounds.1)
      rw [same] at bounds ⊢
      refine ⟨n, rfl, .clamped numbered ?_, by omega, by omega⟩
      rw [← same, truncate_towardZero]
      rfl
    next undefined => exact ⟨200, rfl, .unnumbered (by simp [undefined]), by decide, by decide⟩
    next infinite => exact ⟨200, rfl, .unnumbered (by simp [infinite]), by decide, by decide⟩
  next untold => exact ⟨200, rfl, .untold untold, by decide, by decide⟩

theorem Limit.unique {given : Option Json} {n m : Nat} (one : Limit given n) (other : Limit given m) : n = m := by
  cases one with
  | untold untold =>
    cases other with
    | untold => rfl
    | unnumbered => rfl
    | clamped => exact absurd rfl (untold _)
  | unnumbered unnumbered =>
    cases other with
    | untold => rfl
    | unnumbered => rfl
    | clamped numbered => exact absurd numbered (unnumbered _)
  | clamped numbered clamped =>
    cases other with
    | untold untold => exact absurd rfl (untold _)
    | unnumbered unnumbered => exact absurd numbered (unnumbered _)
    | clamped again same =>
      cases numbered.symm.trans again
      exact Int.ofNat_inj.mp (clamped.trans same.symm)

end TenantAccess.Proofs
