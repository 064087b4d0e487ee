import Mathlib.Data.List.Forall2
import TenantAccess.Proofs.CanonicalIdentifiers
import TenantAccess.Text.Lowercase

/-! Small letters of texts that hold an identifier. What the case of a letter means there is a matter of ASCII alone: no
character beyond it becomes a sign of an identifier as a small letter. -/

namespace TenantAccess.Proofs

def identifierSigns : List Char := '-' :: smallDigits

theorem sign_low {c : Char} (sign : c ∈ identifierSigns) : 0 < c.toNat ∧ c.toNat ≤ 0x66 := by
  have signs : ∀ c ∈ identifierSigns, 0 < c.toNat ∧ c.toNat ≤ 0x66 := List.all_iff_forall_prop.mp (by decide)
  exact signs c sign

theorem sign_lowered {c : Char} (sign : c ∈ identifierSigns) : c.toLower = c := by
  have signs : ∀ c ∈ identifierSigns, c.toLower = c := List.all_iff_forall_prop.mp (by decide)
  exact signs c sign

theorem Canonical.signs {identifier : String} (canonical : Canonical identifier) :
    ∀ c ∈ identifier.toList, c ∈ identifierSigns := by
  obtain ⟨first, second, third, fourth, fifth, whole, -, -, -, -, -, digits⟩ := canonical
  intro c member
  rw [whole] at member
  simp only [List.mem_append, List.mem_cons] at member digits
  unfold identifierSigns
  grind

theorem Canonical.lowered {identifier : String} (canonical : Canonical identifier) :
    identifier.toList.map Char.toLower = identifier.toList :=
  (List.map_congr_left fun c member => sign_lowered (canonical.signs c member)).trans (List.map_id _)

theorem Canonical.fits {identifier : String} (canonical : Canonical identifier) :
    Uuid.fits Uuid.places identifier.toList = true := by
  obtain ⟨first, second, third, fourth, fifth, whole, one, two, three, four, five, digits⟩ := canonical
  have within : ∀ c ∈ smallDigits, c ∈ hexDigits := List.all_iff_forall_prop.mp (by decide)
  have loose := fun c inside => within c (digits c inside)
  exact (fits_grouped _).mpr ⟨first, second, third, fourth, fifth, whole, one, two, three, four, five, loose⟩

/-- No row of the table but the one of the ASCII letters leads to a sign of an identifier. -/
theorem shifts_high : ∀ row ∈ Text.CaseTable.lowerShifts, row.2.1 < 0x80 ∨ (0x66 : Int) < row.1 + row.2.2.2 := by
  decide +kernel

theorem lowerShift?_high {n : Nat} {shift : Int} (large : ¬ n < 0x80) (found : Text.lowerShift? n = some shift) :
    (0x66 : Int) < n + shift := by
  obtain ⟨⟨first, last, step, distance⟩, met, rfl⟩ := Option.map_eq_some_iff.mp found
  have within := List.find?_some met
  have high := shifts_high _ (List.mem_of_find?_eq_some met)
  simp only [Bool.and_eq_true, decide_eq_true_eq] at within high
  dsimp only
  omega

/-- A number that is no character's is read as the first of all characters. -/
theorem ofNat_code (n : Nat) : (Char.ofNat n).toNat = n ∨ (Char.ofNat n).toNat = 0 := by
  by_cases valid : n.isValidChar
  · rw [Char.ofNat, dif_pos valid]
    exact .inl rfl
  · rw [Char.ofNat, dif_neg valid]
    exact .inr rfl

/-- Nothing beyond ASCII becomes a sign of an identifier as a small letter. -/
theorem lowerCharacter_foreign {c : Char} (large : ¬ c.toNat < 0x80) : Text.lowerCharacter c ∉ identifierSigns := by
  intro sign
  have low := sign_low sign
  unfold Text.lowerCharacter at low
  rw [if_neg large] at low
  split at low
  next shift found =>
    have high := lowerShift?_high large found
    rcases ofNat_code (c.toNat + shift).toNat with coded | uncoded <;> omega
  next => omega

theorem lowercaseFrom_ascii (before : List Char) {text : List Char} (small : ∀ c ∈ text, c.toNat < 0x80) :
    Text.lowercaseFrom before text = text.map Char.toLower := by
  induction text generalizing before with
  | nil => rfl
  | cons c rest ih =>
    have own : c.toNat < 0x80 := small c List.mem_cons_self
    have undotted : c ≠ '\u0130' := by rintro rfl; exact absurd own (by decide)
    have other : c ≠ '\u03A3' := by rintro rfl; exact absurd own (by decide)
    simp only [Text.lowercaseFrom, if_neg undotted, if_neg other, Text.lowerCharacter, if_pos own, List.map_cons,
      ih _ fun d member => small d (List.mem_cons_of_mem _ member), List.cons_append, List.nil_append]

/-- A text whose small letters are signs of an identifier is all ASCII. -/
theorem lowercaseFrom_signs (before : List Char) {text : List Char}
    (signs : ∀ c ∈ Text.lowercaseFrom before text, c ∈ identifierSigns) : ∀ c ∈ text, c.toNat < 0x80 := by
  induction text generalizing before with
  | nil => exact nofun
  | cons c rest ih =>
    unfold Text.lowercaseFrom at signs
    simp only [List.mem_append, or_imp, forall_and] at signs
    obtain ⟨first, later⟩ := signs
    have small : c.toNat < 0x80 := by
      by_cases dotted : c = '\u0130'
      · rw [if_pos dotted] at first
        exact absurd (first 'i' List.mem_cons_self) (by decide)
      by_cases sigma : c = '\u03A3'
      · rw [if_neg dotted, if_pos sigma] at first
        split at first
        · exact absurd (first '\u03C2' List.mem_cons_self) (by decide)
        · exact absurd (first '\u03C3' List.mem_cons_self) (by decide)
      rw [if_neg dotted, if_neg sigma] at first
      exact Decidable.byContradiction fun large => lowerCharacter_foreign large (first _ List.mem_cons_self)
    intro d member
    rcases List.mem_cons.mp member with rfl | inside
    · exact small
    · exact ih _ later d inside

theorem toLower_ascii {text : List Char} (small : ∀ c ∈ text.map Char.toLower, c.toNat < 0x80) :
    ∀ c ∈ text, c.toNat < 0x80 := by
  intro c member
  refine Decidable.byContradiction fun large => ?_
  have lowered := small c.toLower (List.mem_map_of_mem member)
  rw [toLower_large large] at lowered
  exact large lowered

/-- A text of which the small letters are an identifier is all ASCII. -/
theorem Canonical.ascii {identifier : String} (canonical : Canonical identifier) {text : List Char}
    (same : text.map Char.toLower = identifier.toList) : ∀ c ∈ text, c.toNat < 0x80 := by
  refine toLower_ascii fun c member => ?_
  have low := sign_low (canonical.signs c (same ▸ member))
  omega

theorem Canonical.grouped {identifier : String} (canonical : Canonical identifier) {text : List Char}
    (same : text.map Char.toLower = identifier.toList) : Grouped hexDigits text := by
  have fitting := canonical.fits
  rw [← same, fits_lowered] at fitting
  exact (fits_grouped text).mp fitting

theorem lowercase_canonical {identifier : String} (canonical : Canonical identifier) (text : String) :
    Text.lowercase text = identifier ↔ text.toList.map Char.toLower = identifier.toList := by
  have signs := canonical.signs
  unfold Text.lowercase
  constructor
  · rintro rfl
    rw [String.toList_ofList] at signs ⊢
    exact (lowercaseFrom_ascii [] (lowercaseFrom_signs [] signs)).symm
  · intro same
    rw [lowercaseFrom_ascii [] (canonical.ascii same), same, String.ofList_toList]

def letterCases : List (Char × Char) :=
  "abcdefghijklmnopqrstuvwxyz".toList.zip "ABCDEFGHIJKLMNOPQRSTUVWXYZ".toList

/-- Two characters that are one, or that are one letter of ASCII in its two cases. -/
def SameLetter (c d : Char) : Prop := c = d ∨ (c, d) ∈ letterCases ∨ (d, c) ∈ letterCases

theorem letterCases_toLower {small capital : Char} (letter : (small, capital) ∈ letterCases) :
    capital.toLower = small ∧ small.toLower = small := by
  have letters : ∀ pair ∈ letterCases, pair.2.toLower = pair.1 ∧ pair.1.toLower = pair.1 :=
    List.all_iff_forall_prop.mp (by decide)
  exact letters _ letter

theorem letterCases_toUpper {small capital : Char} (letter : (small, capital) ∈ letterCases) :
    small.toUpper = capital := by
  have letters : ∀ pair ∈ letterCases, pair.1.toUpper = pair.2 := List.all_iff_forall_prop.mp (by decide)
  exact letters _ letter

theorem toLower_cases (c : Char) : c.toLower = c ∨ (c.toLower, c) ∈ letterCases := by
  by_cases small : c.toNat < 128
  · exact ascii (fun c => c.toLower = c ∨ (c.toLower, c) ∈ letterCases) (by decide) small
  · exact .inl (toLower_large small)

theorem toLower_eq_iff (c d : Char) : c.toLower = d.toLower ↔ SameLetter c d := by
  constructor
  · intro same
    rcases toLower_cases c with kept | capital <;> rcases toLower_cases d with still | other
    · exact .inl (by rw [← kept, same, still])
    · rw [← same, kept] at other
      exact .inr (.inl other)
    · rw [same, still] at capital
      exact .inr (.inr capital)
    · -- Two capitals of one small letter.
      have own := letterCases_toUpper capital
      rw [same, letterCases_toUpper other] at own
      exact .inl own.symm
  · intro alike
    rcases alike with rfl | letter | letter
    · rfl
    all_goals
      obtain ⟨lowered, kept⟩ := letterCases_toLower letter
      rw [lowered, kept]

theorem map_toLower_eq_iff (text other : List Char) :
    text.map Char.toLower = other.map Char.toLower ↔ List.Forall₂ SameLetter text other := by
  rw [← List.forall₂_eq_eq_eq, List.forall₂_map_left_iff, List.forall₂_map_right_iff]
  simp only [toLower_eq_iff]

end TenantAccess.Proofs
