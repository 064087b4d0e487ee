import Mathlib.Data.Bool.AllAny
import Mathlib.Data.List.TakeWhile
import TenantAccess.Uuid

/-! The texts that hold an identifier, and the one form in which an identifier is kept. The blanks around
it and the case of its letters are no part of it. -/

namespace TenantAccess.Proofs

def smallDigits : List Char := "0123456789abcdef".toList

def hexDigits : List Char := "0123456789abcdefABCDEF".toList

/-- Digits in groups of eight, four, four, four and twelve, and a hyphen between any two groups. -/
def Grouped (digits text : List Char) : Prop :=
  ∃ first second third fourth fifth : List Char,
    text = first ++ '-' :: (second ++ '-' :: (third ++ '-' :: (fourth ++ '-' :: fifth))) ∧
      first.length = 8 ∧ second.length = 4 ∧ third.length = 4 ∧ fourth.length = 4 ∧ fifth.length = 12 ∧
      ∀ c ∈ first ++ second ++ third ++ fourth ++ fifth, c ∈ digits

/-- The one form in which an identifier is kept. -/
def Canonical (identifier : String) : Prop := Grouped smallDigits identifier.toList

def Blank (text : List Char) : Prop := ∀ c ∈ text, Text.isBlank c = true

structure Bare (text : List Char) : Prop where
  first : ∀ c ∈ text.head?, Text.isBlank c = false
  last : ∀ c ∈ text.getLast?, Text.isBlank c = false

/-- A text that holds an identifier and nothing else, in any letter case and between blanks. -/
def Holds (text identifier : String) : Prop :=
  ∃ before core after : List Char, text.toList = before ++ core ++ after ∧ Blank before ∧ Blank after ∧
    Grouped hexDigits core ∧ identifier = String.ofList (core.map Char.toLower)

/-- Two texts that differ in the case of ASCII letters and in the blanks around them only. -/
def Respelled (text other : String) : Prop :=
  ∃ before core after first second third : List Char,
    text.toList = before ++ core ++ after ∧ other.toList = first ++ second ++ third ∧
      Blank before ∧ Blank after ∧ Blank first ∧ Blank third ∧ core.map Char.toLower = second.map Char.toLower

theorem ascii (property : Char → Prop) (table : ∀ n < 128, property (Char.ofNat n)) {c : Char}
    (small : c.toNat < 128) : property c := by
  simpa using table c.toNat small

private theorem small_below {c bound : Char} (below : c ≤ bound) (ascii : bound.toNat < 128) : c.toNat < 128 :=
  Nat.lt_of_le_of_lt (UInt32.le_iff_toNat_le.mp below) ascii

theorem toLower_large {c : Char} (large : ¬ c.toNat < 128) : c.toLower = c := by
  have above : ¬ (c.val ≥ 'A'.val ∧ c.val ≤ 'Z'.val) := fun between =>
    large (small_below between.2 (by decide))
  exact dif_neg above

theorem isBlank_toLower (c : Char) : Text.isBlank c.toLower = Text.isBlank c := by
  by_cases small : c.toNat < 128
  · exact ascii (fun c => Text.isBlank c.toLower = Text.isBlank c) (by decide) small
  · rw [toLower_large small]

theorem isHexDigit_toLower (c : Char) : Uuid.isHexDigit c.toLower = Uuid.isHexDigit c := by
  by_cases small : c.toNat < 128
  · exact ascii (fun c => Uuid.isHexDigit c.toLower = Uuid.isHexDigit c) (by decide) small
  · rw [toLower_large small]

theorem isHyphen_toLower (c : Char) : (c.toLower == '-') = (c == '-') := by
  by_cases small : c.toNat < 128
  · exact ascii (fun c => (c.toLower == '-') = (c == '-')) (by decide) small
  · rw [toLower_large small]

theorem isHexDigit_small {c : Char} (digit : Uuid.isHexDigit c = true) : c.toNat < 128 := by
  simp only [Uuid.isHexDigit, Bool.or_eq_true, Bool.and_eq_true, decide_eq_true_eq] at digit
  rcases digit with (⟨-, below⟩ | ⟨-, below⟩) | ⟨-, below⟩ <;> exact small_below below (by decide)

theorem isHexDigit_iff (c : Char) : Uuid.isHexDigit c = true ↔ c ∈ hexDigits := by
  constructor
  · intro digit
    exact ascii (fun c => Uuid.isHexDigit c = true → c ∈ hexDigits) (by decide)
      (isHexDigit_small digit) digit
  · have digits : ∀ c ∈ hexDigits, Uuid.isHexDigit c = true := List.all_iff_forall_prop.mp (by decide)
    exact digits c

theorem digit_unblank {c : Char} (digit : c ∈ hexDigits) : Text.isBlank c = false := by
  have digits : ∀ c ∈ hexDigits, Text.isBlank c = false := List.all_iff_forall_prop.mp (by decide)
  exact digits c digit

theorem digit_lowered {c : Char} (digit : c ∈ hexDigits) : c.toLower ∈ smallDigits := by
  have digits : ∀ c ∈ hexDigits, c.toLower ∈ smallDigits := List.all_iff_forall_prop.mp (by decide)
  exact digits c digit

section
variable {before core after text : List Char}

theorem trimmed_padded (first : Blank before) (last : Blank after) (core : List Char) :
    Text.trimmed (before ++ core ++ after) = Text.trimmed core := by
  have turned : ∀ c ∈ after.reverse, Text.isBlank c = true := fun c inside => last c (List.mem_reverse.mp inside)
  unfold Text.trimmed
  rw [List.append_assoc, List.dropWhile_append_of_pos first, List.dropWhile_append]
  split
  next empty =>
    rw [List.isEmpty_iff.mp empty, List.dropWhile_eq_nil_iff.mpr last]
  next filled =>
    rw [List.reverse_append, List.dropWhile_append_of_pos turned]

theorem trimmed_splits (text : List Char) :
    ∃ before after, text = before ++ Text.trimmed text ++ after ∧ Blank before ∧ Blank after := by
  let rest := text.dropWhile Text.isBlank
  refine ⟨text.takeWhile Text.isBlank, (rest.reverse.takeWhile Text.isBlank).reverse, ?_, ?_, ?_⟩
  · have whole : Text.trimmed text ++ (rest.reverse.takeWhile Text.isBlank).reverse = rest := by
      rw [Text.trimmed, ← List.reverse_append, List.takeWhile_append_dropWhile, List.reverse_reverse]
    rw [List.append_assoc, whole, List.takeWhile_append_dropWhile]
  · exact fun c inside => List.mem_takeWhile_imp inside
  · exact fun c inside => List.mem_takeWhile_imp (List.mem_reverse.mp inside)

theorem Bare.trimmed (bare : Bare text) : Text.trimmed text = text := by
  have kept {text : List Char} (first : ∀ c ∈ text.head?, Text.isBlank c = false) :
      text.dropWhile Text.isBlank = text := by
    cases text with
    | nil => rfl
    | cons c rest => simp [first c rfl]
  have turned : ∀ c ∈ text.reverse.head?, Text.isBlank c = false := by
    rw [List.head?_reverse]
    exact bare.last
  rw [Text.trimmed, kept bare.first, kept turned, List.reverse_reverse]

theorem trimmed_bare (text : List Char) : Bare (Text.trimmed text) := by
  have opens (text : List Char) : ∀ c ∈ (text.dropWhile Text.isBlank).head?, Text.isBlank c = false := by
    intro c starts
    have stops := List.head?_dropWhile_not Text.isBlank text
    rw [Option.mem_def.mp starts] at stops
    exact stops
  constructor
  · intro c starts
    -- What is taken off at the end leaves the first character in its place.
    have prior : Text.trimmed text <+: text.dropWhile Text.isBlank := by
      rw [← List.reverse_suffix, Text.trimmed, List.reverse_reverse]
      exact List.dropWhile_suffix _
    obtain ⟨rest, begun⟩ := List.head?_eq_some_iff.mp starts
    obtain ⟨after, whole⟩ := prior
    exact opens text c (by rw [← whole, begun]; rfl)
  · intro c ends
    rw [Text.trimmed, List.getLast?_reverse] at ends
    exact opens _ c ends

theorem trimmed_solid (solid : ∀ c ∈ text, Text.isBlank c = false) : Text.trimmed text = text :=
  Bare.trimmed ⟨fun c first => solid c (List.mem_of_mem_head? first), fun c last => solid c (List.mem_of_getLast? last)⟩

theorem trimmed_lowered (text : List Char) :
    Text.trimmed (text.map Char.toLower) = (Text.trimmed text).map Char.toLower := by
  have alike : Text.isBlank ∘ Char.toLower = Text.isBlank := funext isBlank_toLower
  simp only [Text.trimmed, List.dropWhile_map, ← List.map_reverse, alike]

end

theorem fits_digits (count : Nat) (rest : List Bool) (text : List Char) :
    Uuid.fits (List.replicate count true ++ rest) text = true ↔
      ∃ group remaining, text = group ++ remaining ∧ group.length = count ∧ (∀ c ∈ group, c ∈ hexDigits) ∧
        Uuid.fits rest remaining = true := by
  induction count generalizing text with
  | zero =>
    constructor
    · exact fun fitting => ⟨[], text, rfl, rfl, nofun, fitting⟩
    · rintro ⟨group, remaining, rfl, empty, -, fitting⟩
      rwa [List.length_eq_zero_iff.mp empty]
  | succ count ih =>
    -- The first sign of the group is taken off, and the rest is a group that is one sign shorter.
    cases text with
    | nil => simp [List.replicate_succ, Uuid.fits]
    | cons c text =>
      simp only [List.replicate_succ, List.cons_append, Uuid.fits, Bool.and_eq_true, isHexDigit_iff, ih]
      constructor
      · rintro ⟨digit, group, remaining, rfl, rfl, digits, fitting⟩
        exact ⟨c :: group, remaining, rfl, rfl, by simpa [digit] using digits, fitting⟩
      · rintro ⟨group, remaining, whole, size, digits, fitting⟩
        cases group with
        | nil => cases size
        | cons d group =>
          obtain ⟨rfl, rfl⟩ := List.cons.inj whole
          exact ⟨digits c (List.mem_cons_self ..), group, remaining, rfl, Nat.succ.inj size,
            fun d inside => digits d (List.mem_cons_of_mem _ inside), fitting⟩

theorem fits_hyphen (rest : List Bool) (text : List Char) : Uuid.fits (false :: rest) text = true ↔
    ∃ remaining, text = '-' :: remaining ∧ Uuid.fits rest remaining = true := by
  cases text with
  | nil => simp [Uuid.fits]
  | cons c text =>
    simp only [Uuid.fits, Bool.and_eq_true, beq_iff_eq, List.cons.injEq]
    constructor
    · rintro ⟨rfl, fitting⟩
      exact ⟨text, ⟨rfl, rfl⟩, fitting⟩
    · rintro ⟨remaining, ⟨rfl, rfl⟩, fitting⟩
      exact ⟨rfl, fitting⟩

theorem fits_end (text : List Char) : Uuid.fits [] text = true ↔ text = [] := by
  cases text <;> simp [Uuid.fits]

theorem fits_grouped (text : List Char) : Uuid.fits Uuid.places text = true ↔ Grouped hexDigits text := by
  have ended : Uuid.places = List.replicate 8 true ++ false :: (List.replicate 4 true ++ false ::
      (List.replicate 4 true ++ false :: (List.replicate 4 true ++ false :: (List.replicate 12 true ++ [])))) := rfl
  rw [ended]
  constructor
  · intro fitting
    obtain ⟨first, _, rfl, one, firsts, fitting⟩ := (fits_digits ..).mp fitting
    obtain ⟨_, rfl, fitting⟩ := (fits_hyphen ..).mp fitting
    obtain ⟨second, _, rfl, two, seconds, fitting⟩ := (fits_digits ..).mp fitting
    obtain ⟨_, rfl, fitting⟩ := (fits_hyphen ..).mp fitting
    obtain ⟨third, _, rfl, three, thirds, fitting⟩ := (fits_digits ..).mp fitting
    obtain ⟨_, rfl, fitting⟩ := (fits_hyphen ..).mp fitting
    obtain ⟨fourth, _, rfl, four, fourths, fitting⟩ := (fits_digits ..).mp fitting
    obtain ⟨_, rfl, fitting⟩ := (fits_hyphen ..).mp fitting
    obtain ⟨fifth, _, rfl, five, fifths, fitting⟩ := (fits_digits ..).mp fitting
    obtain rfl := (fits_end _).mp fitting
    refine ⟨first, second, third, fourth, fifth, by rw [List.append_nil], one, two, three, four, five, ?_⟩
    simp only [List.mem_append, or_imp, forall_and]
    exact ⟨⟨⟨⟨firsts, seconds⟩, thirds⟩, fourths⟩, fifths⟩
  · rintro ⟨first, second, third, fourth, fifth, rfl, one, two, three, four, five, digits⟩
    simp only [List.mem_append, or_imp, forall_and] at digits
    obtain ⟨⟨⟨⟨firsts, seconds⟩, thirds⟩, fourths⟩, fifths⟩ := digits
    refine (fits_digits ..).mpr ⟨first, _, rfl, one, firsts, (fits_hyphen ..).mpr ⟨_, rfl, ?_⟩⟩
    refine (fits_digits ..).mpr ⟨second, _, rfl, two, seconds, (fits_hyphen ..).mpr ⟨_, rfl, ?_⟩⟩
    refine (fits_digits ..).mpr ⟨third, _, rfl, three, thirds, (fits_hyphen ..).mpr ⟨_, rfl, ?_⟩⟩
    refine (fits_digits ..).mpr ⟨fourth, _, rfl, four, fourths, (fits_hyphen ..).mpr ⟨_, rfl, ?_⟩⟩
    exact (fits_digits ..).mpr ⟨fifth, [], by rw [List.append_nil], five, fifths, rfl⟩

theorem fits_lowered (places : List Bool) (text : List Char) :
    Uuid.fits places (text.map Char.toLower) = Uuid.fits places text := by
  fun_induction Uuid.fits places text with
  | case1 => rfl
  | case2 places c text ih => simp only [List.map_cons, Uuid.fits, isHexDigit_toLower, ih]
  | case3 places c text ih => simp only [List.map_cons, Uuid.fits, isHyphen_toLower, ih]
  | case4 places text =>
    cases places with
    | nil => cases text <;> simp_all [Uuid.fits]
    | cons isDigit places => cases text <;> cases isDigit <;> simp_all [Uuid.fits]

theorem Grouped.solid {text : List Char} (grouped : Grouped hexDigits text) :
    ∀ c ∈ text, Text.isBlank c = false := by
  obtain ⟨first, second, third, fourth, fifth, rfl, -, -, -, -, -, digits⟩ := grouped
  have hyphen : Text.isBlank '-' = false := by decide
  intro c inside
  by_cases same : c = '-'
  · rw [same, hyphen]
  · exact digit_unblank (digits c (by simpa [same, or_assoc] using inside))

theorem Grouped.lowered {text : List Char} (grouped : Grouped hexDigits text) :
    Grouped smallDigits (text.map Char.toLower) := by
  obtain ⟨first, second, third, fourth, fifth, rfl, one, two, three, four, five, digits⟩ := grouped
  refine ⟨first.map Char.toLower, second.map Char.toLower, third.map Char.toLower, fourth.map Char.toLower,
    fifth.map Char.toLower, by simp, by simpa, by simpa, by simpa, by simpa, by simpa, ?_⟩
  simp only [← List.map_append, List.forall_mem_map]
  exact fun c inside => digit_lowered (digits c inside)

theorem Grouped.canonical {text : List Char} (grouped : Grouped hexDigits text) :
    Canonical (String.ofList (text.map Char.toLower)) := by
  rw [Canonical, String.toList_ofList]
  exact grouped.lowered

/-- The texts that are read are those that hold an identifier, and what is read is its one form. -/
theorem parse?_holds (text identifier : String) :
    Uuid.parse? text = some identifier ↔ Holds text identifier := by
  unfold Uuid.parse? Uuid.canonical?
  constructor
  · intro read
    obtain ⟨lowered, found, rfl⟩ := Option.map_eq_some_iff.mp read
    obtain ⟨fitting, same⟩ := Option.ite_none_right_eq_some.mp found
    obtain rfl := Option.some.inj same
    obtain ⟨before, after, whole, first, last⟩ := trimmed_splits text.toList
    exact ⟨before, _, after, whole, first, last, (fits_grouped _).mp fitting, rfl⟩
  · rintro ⟨before, core, after, whole, first, last, grouped, rfl⟩
    rw [whole, trimmed_padded first last, trimmed_solid grouped.solid, if_pos ((fits_grouped core).mpr grouped)]
    rfl

theorem ofJson?_holds (value : Json) (identifier : String) :
    Uuid.ofJson? value = some identifier ↔ ∃ text, value = .text text ∧ Holds text identifier := by
  cases value with
  | text text => simp [Uuid.ofJson?, parse?_holds]
  | _ => simp [Uuid.ofJson?]

theorem Holds.canonical {text identifier : String} (held : Holds text identifier) : Canonical identifier := by
  obtain ⟨-, core, -, -, -, -, grouped, rfl⟩ := held
  exact grouped.canonical

theorem Holds.unique {text identifier other : String} (held : Holds text identifier) (again : Holds text other) :
    identifier = other :=
  Option.some.inj (((parse?_holds ..).mpr held).symm.trans ((parse?_holds ..).mpr again))

/-- The blanks around a text and the case of its letters have no say in what is read from it. -/
theorem Respelled.parsed {text other : String} (respelled : Respelled text other) :
    Uuid.parse? text = Uuid.parse? other := by
  obtain ⟨before, core, after, first, second, third, whole, again, front, back, start, ending, alike⟩ := respelled
  have lowered : (Text.trimmed core).map Char.toLower = (Text.trimmed second).map Char.toLower := by
    rw [← trimmed_lowered, alike, trimmed_lowered]
  unfold Uuid.parse? Uuid.canonical?
  rw [whole, again, trimmed_padded front back, trimmed_padded start ending, ← fits_lowered, lowered, fits_lowered]

end TenantAccess.Proofs
