import TenantAccess.Text.CaseTable

/-! Small letters of a whole text. One capital becomes two characters, and the capital sigma takes
its final form where a letter comes before it and none after it. -/

namespace TenantAccess.Text

def inRanges (ranges : List (Nat × Nat)) (c : Char) : Bool :=
  ranges.any fun range => range.1 ≤ c.toNat && c.toNat ≤ range.2

def lowerShift? (n : Nat) : Option Int :=
  (CaseTable.lowerShifts.find? fun (first, last, step, _) =>
    first ≤ n && n ≤ last && (n - first) % step == 0).map fun (_, _, _, shift) => shift

def lowerCharacter (c : Char) : Char :=
  if c.toNat < 0x80 then c.toLower
  else match lowerShift? c.toNat with
    | some shift => Char.ofNat (c.toNat + shift).toNat
    | none => c

/-- Whether the nearest character that is not looked through is a letter with case. -/
def meetsCased : List Char → Bool
  | [] => false
  | c :: rest => if inRanges CaseTable.transparent c then meetsCased rest else inRanges CaseTable.cased c

/-- The characters before the current one come latest first. -/
def lowercaseFrom (before : List Char) : List Char → List Char
  | [] => []
  | c :: rest =>
    let small :=
      if c = '\u0130' then ['i', '\u0307']
      else if c = '\u03A3' then
        if meetsCased before && !meetsCased rest then ['\u03C2'] else ['\u03C3']
      else [lowerCharacter c]
    small ++ lowercaseFrom (c :: before) rest

def lowercase (text : String) : String :=
  String.ofList (lowercaseFrom [] text.toList)

end TenantAccess.Text
