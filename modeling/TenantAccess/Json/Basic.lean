import TenantAccess.Number.Shortest

/-! Values of the interchange format: what providers publish, what tokens carry, what rows and
answers are made of. A record lists each name once. -/

namespace TenantAccess

inductive Json where
  | null
  | boolean (value : Bool)
  | number (value : Number)
  | text (value : String)
  | list (items : List Json)
  | record (fields : List (String × Json))
  deriving Inhabited, Repr

namespace Json

mutual

/-- Whether two values are the same, down to the order of their fields. -/
def same : Json → Json → Bool
  | .null, .null => true
  | .boolean value, .boolean other => value == other
  | .number value, .number other => value == other
  | .text value, .text other => value == other
  | .list items, .list others => sameItems items others
  | .record fields, .record others => sameFields fields others
  | _, _ => false

def sameItems : List Json → List Json → Bool
  | [], [] => true
  | item :: items, other :: others => same item other && sameItems items others
  | _, _ => false

def sameFields : List (String × Json) → List (String × Json) → Bool
  | [], [] => true
  | (name, value) :: fields, (other, given) :: others =>
    name == other && same value given && sameFields fields others
  | _, _ => false

end

instance : BEq Json := ⟨same⟩

mutual

theorem eq_of_same : (value other : Json) → same value other = true → value = other
  | .null, other => by cases other <;> simp [same]
  | .boolean _, other => by cases other <;> simp [same]
  | .number _, other => by cases other <;> simp [same]
  | .text _, other => by cases other <;> simp [same]
  | .list items, other => by
    cases other with
    | list others => exact fun alike => congrArg list (eq_of_sameItems items others alike)
    | _ => simp [same]
  | .record fields, other => by
    cases other with
    | record others => exact fun alike => congrArg record (eq_of_sameFields fields others alike)
    | _ => simp [same]

theorem eq_of_sameItems : (items others : List Json) → sameItems items others = true → items = others
  | [], [] => fun _ => rfl
  | [], _ :: _ | _ :: _, [] => by simp [sameItems]
  | item :: items, other :: others => fun alike => by
    simp only [sameItems, Bool.and_eq_true] at alike
    rw [eq_of_same item other alike.1, eq_of_sameItems items others alike.2]

theorem eq_of_sameFields : (fields others : List (String × Json)) → sameFields fields others = true →
    fields = others
  | [], [] => fun _ => rfl
  | [], _ :: _ | _ :: _, [] => by simp [sameFields]
  | (name, value) :: fields, (other, given) :: others => fun alike => by
    simp only [sameFields, Bool.and_eq_true, beq_iff_eq] at alike
    rw [alike.1.1, eq_of_same value given alike.1.2, eq_of_sameFields fields others alike.2]

end

mutual

theorem same_self : (value : Json) → same value value = true
  | .null => rfl
  | .boolean _ | .number _ | .text _ => by simp [same]
  | .list items => sameItems_self items
  | .record fields => sameFields_self fields

theorem sameItems_self : (items : List Json) → sameItems items items = true
  | [] => rfl
  | item :: items => by simp [sameItems, same_self item, sameItems_self items]

theorem sameFields_self : (fields : List (String × Json)) → sameFields fields fields = true
  | [] => rfl
  | (name, value) :: fields => by simp [sameFields, same_self value, sameFields_self fields]

end

instance : LawfulBEq Json where
  eq_of_beq {value other} := eq_of_same value other
  rfl {value} := same_self value

instance : DecidableEq Json := instDecidableEqOfLawfulBEq

end Json

/-- The fields of a record. -/
abbrev Fields := List (String × Json)

namespace Fields

def get? (fields : Fields) (name : String) : Option Json :=
  (fields.find? (·.1 == name)).map (·.2)

/-- A name that is given again keeps its place and takes the new value. -/
def put (fields : Fields) (name : String) (value : Json) : Fields :=
  if fields.any (·.1 == name) then
    fields.map fun field => if field.1 == name then (name, value) else field
  else fields ++ [(name, value)]

def ofList (pairs : List (String × Json)) : Fields :=
  pairs.foldl (fun fields pair => fields.put pair.1 pair.2) []

end Fields

namespace Json

def ofNat (n : Nat) : Json := .number (.ofInt n)

def text? : Json → Option String
  | .text value => some value
  | _ => none

def record? : Json → Option Fields
  | .record fields => some fields
  | _ => none

/-- Null, false, zero, the undefined number and the empty text do not count as given. -/
def isTruthy : Json → Bool
  | .null => false
  | .boolean value => value
  | .number (.finite value) => value.num != 0
  | .number .undefined => false
  | .number (.infinite _) => true
  | .text value => !value.isEmpty
  | .list _ | .record _ => true

/-- A record with a field of this name cannot stand in for a text. -/
def hidingField : String := "toString"

mutual

/-- The text shown where a value stands in for a text. The members of a list are joined by commas,
a null among them empty; a record shows only that it is one, or cannot be shown at all. -/
def display? : Json → Option String
  | .null => some "null"
  | .boolean value => some (if value then "true" else "false")
  | .number value => some value.toText
  | .text value => some value
  | .list items => (displayMembers? items).map fun shown => ",".intercalate shown
  | .record fields => if fields.any (·.1 == hidingField) then none else some "[object Object]"

def displayMembers? : List Json → Option (List String)
  | [] => some []
  | .null :: rest => (displayMembers? rest).map ("" :: ·)
  | item :: rest => match display? item, displayMembers? rest with
    | some shown, some others => some (shown :: others)
    | _, _ => none

end

end Json
end TenantAccess
