/-! Looking for one text inside another. -/

namespace TenantAccess.Text

def occursIn (part : List Char) : List Char → Bool
  | [] => part.isEmpty
  | c :: rest => part.isPrefixOf (c :: rest) || occursIn part rest

def contains (text part : String) : Bool := occursIn part.toList text.toList

/-- What follows the first place where the part occurs, after what stands before it. -/
def cutAt? (part : List Char) : List Char → Option (List Char × List Char)
  | [] => if part.isEmpty then some ([], []) else none
  | c :: rest => match part.isPrefixOf? (c :: rest) with
    | some after => some ([], after)
    | none => (cutAt? part rest).map fun (before, after) => (c :: before, after)

end TenantAccess.Text
