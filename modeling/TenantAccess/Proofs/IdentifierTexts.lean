import TenantAccess.Proofs.SmallLetters

/-! What identifier a value holds, for every value. Only a text holds one, the blanks at its ends are no part of it, and
two texts hold the same one when they differ in the case of ASCII letters alone. -/

namespace TenantAccess.Proofs

/-- The codes of the blanks: the tabulations and line ends, the separators of Unicode, and the byte order mark. -/
def blankCodes : List Nat :=
  [0x9, 0xA, 0xB, 0xC, 0xD, 0x20, 0xA0, 0x1680, 0x2000, 0x2001, 0x2002, 0x2003, 0x2004, 0x2005, 0x2006, 0x2007, 0x2008,
    0x2009, 0x200A, 0x2028, 0x2029, 0x202F, 0x205F, 0x3000, 0xFEFF]

theorem isBlank_iff (c : Char) : Text.isBlank c = true ↔ c.toNat ∈ blankCodes := by
  simp only [Text.isBlank, blankCodes, Bool.or_eq_true, Bool.and_eq_true, decide_eq_true_eq, beq_iff_eq,
    List.mem_cons, List.not_mem_nil, or_false]
  omega

/-- What is left of a text when all blanks at both of its ends are taken off. -/
structure Trims (text core : List Char) : Prop where
  padded : ∃ before after, text = before ++ core ++ after ∧ Blank before ∧ Blank after
  bare : Bare core

theorem trims_iff (text core : List Char) : Trims text core ↔ Text.trimmed text = core := by
  constructor
  · intro trims
    obtain ⟨before, after, whole, front, back⟩ := trims.padded
    rw [whole, trimmed_padded front back, trims.bare.trimmed]
  · rintro rfl
    exact ⟨trimmed_splits text, trimmed_bare text⟩

theorem Trims.unique {text core other : List Char} (trims : Trims text core) (again : Trims text other) :
    core = other :=
  ((trims_iff ..).mp trims).symm.trans ((trims_iff ..).mp again)

section
variable {core : List Char} (grouped : Grouped hexDigits core)
include grouped

theorem Grouped.bare : Bare core :=
  ⟨fun c starts => grouped.solid c (List.mem_of_mem_head? starts),
    fun c ends => grouped.solid c (List.mem_of_getLast? ends)⟩

/-- The capitals of an identifier have no small letters but those of ASCII. -/
theorem Grouped.lowercase : Text.lowercase (String.ofList core) = String.ofList (core.map Char.toLower) := by
  apply (lowercase_canonical grouped.canonical _).mpr
  simp only [String.toList_ofList]

theorem Grouped.plain : ∀ c ∈ core, c.toNat < 0x80 ∧ Text.isBlank c = false := by
  intro c inside
  have low := grouped.canonical.ascii String.toList_ofList.symm c inside
  exact ⟨low, grouped.solid c inside⟩

end

theorem holds_iff {text : String} {core : List Char} (trims : Trims text.toList core) (identifier : String) :
    Holds text identifier ↔ Grouped hexDigits core ∧ identifier = Text.lowercase (String.ofList core) := by
  constructor
  · rintro ⟨before, inner, after, whole, front, back, grouped, rfl⟩
    have again : Trims text.toList inner := ⟨⟨before, after, whole, front, back⟩, grouped.bare⟩
    obtain rfl := trims.unique again
    exact ⟨grouped, grouped.lowercase.symm⟩
  · rintro ⟨grouped, rfl⟩
    obtain ⟨before, after, whole, front, back⟩ := trims.padded
    exact ⟨before, core, after, whole, front, back, grouped, grouped.lowercase⟩

theorem Canonical.holds {identifier : String} (canonical : Canonical identifier) : Holds identifier identifier := by
  have grouped := canonical.grouped canonical.lowered
  refine ⟨[], identifier.toList, [], (List.append_nil _).symm, nofun, nofun, grouped, ?_⟩
  rw [canonical.lowered, String.ofList_toList]

/-- A reader that finds, in any value, the identifier it holds. -/
structure ReadsIdentifiers (read : Option Json → Option String) : Prop where
  reads : ∀ value identifier, read value = some identifier ↔
    ∃ text core, value = some (.text text) ∧ Trims text.toList core ∧ Grouped hexDigits core ∧
      identifier = Text.lowercase (String.ofList core)
  fixed : ∀ value identifier, read value = some identifier →
    Canonical identifier ∧ read (some (.text identifier)) = some identifier
  alike : ∀ text core other second identifier another, Trims text.toList core → Trims other.toList second →
    read (some (.text text)) = some identifier → read (some (.text other)) = some another →
      (identifier = another ↔ List.Forall₂ SameLetter core second)
  plain : ∀ text core, Trims text.toList core → (∃ c ∈ core, 0x80 ≤ c.toNat ∨ Text.isBlank c = true) →
    read (some (.text text)) = none
  unmistaken : ∀ text core, Trims text.toList core → Canonical (Text.lowercase (String.ofList core)) →
    read (some (.text text)) = some (Text.lowercase (String.ofList core))

theorem read_holds (value : Option Json) (identifier : String) : value.bind Uuid.ofJson? = some identifier ↔
    ∃ text, value = some (.text text) ∧ Holds text identifier := by
  cases value with
  | none => simp
  | some value => simp only [Option.bind_some, ofJson?_holds, Option.some.injEq]

theorem read_text {text identifier : String} {core : List Char} (trims : Trims text.toList core) :
    (some (Json.text text)).bind Uuid.ofJson? = some identifier ↔
      Grouped hexDigits core ∧ identifier = Text.lowercase (String.ofList core) :=
  (parse?_holds text identifier).trans (holds_iff trims identifier)

/-- An identifier is read from a value exactly if the value is a text that is one between blanks. It is kept in its
one form, which is read as it stands, and two texts are read alike exactly if they differ in the case of ASCII letters
and in the blanks at their ends alone. Nothing beyond ASCII and no blank inside is let through, and none of it has
small letters that could be mistaken for an identifier. -/
theorem identifiers_read_exactly :
    (∀ c, Text.isBlank c = true ↔ c.toNat ∈ blankCodes) ∧ (∀ text, ∃! core, Trims text core) ∧
      ReadsIdentifiers fun value => value.bind Uuid.ofJson? := by
  have trimmed (text : List Char) : Trims text (Text.trimmed text) := (trims_iff ..).mpr rfl
  refine ⟨isBlank_iff, fun text => ⟨_, trimmed text, fun core trims => trims.unique (trimmed text)⟩, ?_⟩
  constructor
  · intro value identifier
    rw [read_holds]
    constructor
    · rintro ⟨text, rfl, held⟩
      have reading := (holds_iff (trimmed text.toList) identifier).mp held
      exact ⟨text, _, rfl, trimmed text.toList, reading⟩
    · rintro ⟨text, core, rfl, trims, reading⟩
      exact ⟨text, rfl, (holds_iff trims identifier).mpr reading⟩
  · intro value identifier found
    obtain ⟨text, rfl, held⟩ := (read_holds ..).mp found
    exact ⟨held.canonical, (read_holds ..).mpr ⟨_, rfl, held.canonical.holds⟩⟩
  · intro text core other second identifier another trims again found more
    obtain ⟨grouped, rfl⟩ := (read_text trims).mp found
    obtain ⟨also, rfl⟩ := (read_text again).mp more
    rw [grouped.lowercase, also.lowercase, String.ofList_inj, map_toLower_eq_iff]
  · intro text core trims foreign
    obtain ⟨c, inside, outside⟩ := foreign
    rw [Option.eq_none_iff_forall_ne_some]
    intro identifier found
    obtain ⟨small, solid⟩ := ((read_text trims).mp found).1.plain c inside
    rcases outside with large | blank
    · omega
    · rw [solid] at blank
      cases blank
  · intro text core trims canonical
    have same := (lowercase_canonical canonical (String.ofList core)).mp rfl
    rw [String.toList_ofList] at same
    exact (read_text trims).mpr ⟨canonical.grouped same, rfl⟩

example : Uuid.parse? "\uFEFF3F2504E0-4F89-41D3-9A0C-0305E82C3301\n" = some "3f2504e0-4f89-41d3-9a0c-0305e82c3301" := by
  decide +kernel

end TenantAccess.Proofs
