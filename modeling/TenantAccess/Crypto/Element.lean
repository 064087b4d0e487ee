import TenantAccess.Crypto.Octets

/-! Tagged elements, the binary notation of keys. An element announces its kind and its length, or
runs to an end mark; a string may be divided into parts, which are elements again. -/

namespace TenantAccess.Crypto

inductive TagSpace where
  | universal
  | application
  | contextual
  | personal
  deriving DecidableEq, Repr

/-- What stands in front of the content of an element. -/
structure ElementHead where
  space : TagSpace
  isConstructed : Bool
  tag : Nat
  /-- How many octets follow; none for an element that runs to an end mark. -/
  length : Option Nat
  deriving DecidableEq, Repr

namespace ElementHead

def spaceOf (first : UInt8) : TagSpace :=
  if first < 0x40 then .universal
  else if first < 0x80 then .application
  else if first < 0xC0 then .contextual
  else .personal

def largestTag : Nat := 0x7FFFFFFF

/-- A tag in seven binary digits an octet; the last octet is below the others. -/
def readLongTag? : Nat → List UInt8 → Option (Nat × List UInt8)
  | _, [] => none
  | high, octet :: rest =>
    let tag := high * 128 + octet.toNat % 128
    if largestTag < tag then none
    else if octet < 0x80 then some (tag, rest)
    else readLongTag? tag rest

def readTag? (first : UInt8) (rest : List UInt8) : Option (Nat × List UInt8) :=
  if first.toNat % 32 = 31 then readLongTag? 0 rest else some (first.toNat % 32, rest)

/-- A length in one octet, or in as many as the first one tells; leading zeros do not count, and
more than eight octets are too many. Behind a length in several octets something must follow. -/
def readLength? : List UInt8 → Option (Option Nat × List UInt8)
  | [] => none
  | first :: rest =>
    if first < 0x80 then some (some first.toNat, rest)
    else if first = 0x80 then some (none, rest)
    else
      let count := first.toNat - 0x80
      let length := natOfOctets (rest.take count)
      if rest.length ≤ count || Nat.pow 2 63 ≤ length then none
      else some (some length, rest.drop count)

/-- The head of an element and what follows it. Only an element that holds others may run to an end
mark. -/
def announced? : List UInt8 → Option (ElementHead × List UInt8)
  | [] => none
  | first :: rest => do
    let (tag, rest) ← readTag? first rest
    let (length, rest) ← readLength? rest
    let isConstructed := first.toNat / 32 % 2 = 1
    if length.isNone && !isConstructed then none
    else some (⟨spaceOf first, isConstructed, tag, length⟩, rest)

/-- The head of an element whose content is there as far as it is announced. -/
def read? (octets : List UInt8) : Option (ElementHead × List UInt8) :=
  match announced? octets with
  | some (head, rest) => if head.length.any (rest.length < ·) then none else some (head, rest)
  | none => none

/-- How many octets are looked at for the head of an element that stands in no other, or in open ones
only. -/
def window : Nat := 8

/-- The head that shows in the window, and everything behind it. -/
def shown? (octets : List UInt8) : Option (ElementHead × List UInt8) :=
  (announced? (octets.take window)).map fun (head, rest) =>
    (head, octets.drop ((octets.take window).length - rest.length))

end ElementHead

/-- Reads one value from the front of the octets and leaves the others. -/
abbrev ElementReader (α : Type) := StateT (List UInt8) Option α

namespace Element

def boolean : Nat := 1
def integerTag : Nat := 2
def bitString : Nat := 3
def octetString : Nat := 4
def null : Nat := 5
def objectName : Nat := 6
def enumerated : Nat := 10
def sequenceTag : Nat := 16
def setTag : Nat := 17
def wideText : Nat := 28
def pairText : Nat := 30

/-- Nothing is left, or an end mark is next. -/
def isAtEnd : List UInt8 → Bool
  | [] => true
  | 0 :: 0 :: _ => true
  | _ => false

/-- An element that holds others. They must fill it, and one that runs to an end mark must have it
behind them. -/
def holding (space : TagSpace) (tag : Nat) (inner : ElementReader α) : ElementReader α := fun octets => do
  let (head, rest) ← ElementHead.read? octets
  if head.space = space ∧ head.tag = tag ∧ head.isConstructed then
    match head.length with
    | some length => match ← inner (rest.take length) with
      | (value, []) => some (value, rest.drop length)
      | _ => none
    | none => match ← inner rest with
      | (value, 0 :: 0 :: left) => some (value, left)
      | _ => none
  else none

def sequence (inner : ElementReader α) : ElementReader α := holding .universal sequenceTag inner

/-- What may be left out at the end of a sequence. -/
def ending (inner : ElementReader α) : ElementReader (Option α) := fun octets =>
  if isAtEnd octets then some (none, octets)
  else (inner octets).map fun (value, rest) => (some value, rest)

/-- What is there only under its own number. -/
def numbered (number : Nat) (inner : ElementReader α) : ElementReader (Option α) := fun octets =>
  match ElementHead.read? octets with
  | some (head, _) =>
    if head.space = .contextual ∧ head.tag = number then
      (holding .contextual number inner octets).map fun (value, rest) => (some value, rest)
    else some (none, octets)
  | none => if octets.isEmpty then some (none, octets) else none

/-- How deep the parts of a divided string may lie in each other. -/
def deepestPart : Nat := 5

/-- The parts of a divided string put together, and what follows them. The fuel is the number of
octets, for each part takes two at least. -/
def joined : Nat → Nat → Bool → List UInt8 → Option (List UInt8 × List UInt8)
  | _, _, isOpen, [] => if isOpen then none else some ([], [])
  | _, _, isOpen, 0 :: 0 :: rest => if isOpen then some ([], rest) else none
  | 0, _, _, _ => none
  | fuel + 1, depth, isOpen, octets => do
    let (head, body) ← ElementHead.read? octets
    let (first, rest) ←
      if !head.isConstructed then
        some (body.take (head.length.getD 0), body.drop (head.length.getD 0))
      else match depth, head.length with
        | 0, _ => none
        | depth + 1, none => joined fuel depth true body
        | depth + 1, some length =>
          (joined fuel depth false (body.take length)).map fun (part, _) => (part, body.drop length)
    let (more, rest) ← joined fuel depth isOpen rest
    some (first ++ more, rest)

/-- The content of an element whose head has been read, whole or divided. -/
def content (head : ElementHead) : ElementReader (List UInt8) := fun octets =>
  match head.isConstructed, head.length with
  | false, length => some (octets.take (length.getD 0), octets.drop (length.getD 0))
  | true, none => joined octets.length deepestPart true octets
  | true, some length =>
    (joined length deepestPart false (octets.take length)).map fun (text, _) => (text, octets.drop length)

def string (tag : Nat) : ElementReader (List UInt8) := do
  let head ← ElementHead.read?
  if head.space = .universal ∧ head.tag = tag then content head else failure

/-- An element whose content is never divided. -/
def whole (tag : Nat) : ElementReader (List UInt8) := do
  let head ← ElementHead.read?
  if head.space = .universal ∧ head.tag = tag ∧ !head.isConstructed then content head else failure

/-- Whole numbers take as few octets as they can. -/
def isInteger : List UInt8 → Bool
  | [] => false
  | [_] => true
  | first :: second :: _ => !((first = 0 && second < 0x80) || (first = 0xFF && 0x80 ≤ second))

/-- A whole number with its sign in the first binary digit. -/
def intOfOctets (octets : List UInt8) : Int :=
  if 0x80 ≤ octets.headD 0 then (natOfOctets octets : Int) - (Nat.pow 256 octets.length : Nat)
  else natOfOctets octets

def integer : ElementReader Int := do
  let octets ← whole integerTag
  if isInteger octets then pure (intOfOctets octets) else failure

/-- A whole number of thirty-two binary digits; one without any octets is zero. -/
def shortInteger : ElementReader Int := do
  let octets ← whole integerTag
  let value := intOfOctets octets
  if octets.isEmpty || (isInteger octets && -0x80000000 ≤ value && value < 0x80000000) then pure value
  else failure

/-- A number without a sign, in any number of octets. -/
def natural : ElementReader Nat := do
  let octets ← whole integerTag
  pure (natOfOctets octets)

/-- The numbers of a name end below one half of an octet's range and do not start with a zero. -/
def isName (octets : List UInt8) : Bool :=
  octets.getLast?.any (· < 0x80) &&
    (octets.zip (0 :: octets)).all fun (octet, before) => octet ≠ 0x80 || 0x80 ≤ before

def name : ElementReader (List UInt8) := do
  let octets ← whole objectName
  if isName octets then pure octets else failure

/-- The first octet tells how many binary digits of the last one do not count; they are cleared. -/
def isBits : List UInt8 → Bool
  | unused :: _ => unused ≤ 7
  | [] => false

def clearLow (unused : Nat) : List UInt8 → List UInt8
  | [] => []
  | [last] => [UInt8.ofNat (last.toNat / Nat.pow 2 unused * Nat.pow 2 unused)]
  | first :: rest => first :: clearLow unused rest

def bits : ElementReader (List UInt8) := do
  match ← string bitString with
  | unused :: octets => if unused ≤ 7 then pure (clearLow unused.toNat octets) else failure
  | [] => failure

/-- What stands behind the end mark of the outermost of some open elements; lengths inside are
skipped. The fuel is the number of octets. -/
def pastEnd : Nat → Nat → List UInt8 → Option (List UInt8)
  | 0, _, _ => none
  | fuel + 1, opened, 0 :: 0 :: rest => if opened ≤ 1 then some rest else pastEnd fuel (opened - 1) rest
  | fuel + 1, opened, octets => do
    let (head, rest) ← ElementHead.read? octets
    match head.length with
    | some length => pastEnd fuel opened (rest.drop length)
    | none => pastEnd fuel (opened + 1) rest

/-- Whether the heads on the way through some open elements all show in their windows. The fuel is the
number of octets. -/
def isShown : Nat → Nat → List UInt8 → Bool
  | 0, _, _ => false
  | fuel + 1, opened, octets => match ElementHead.shown? octets with
    | none => false
    | some (head, rest) => match head.length with
      | none => isShown fuel (opened + 1) rest
      | some length =>
        let left := if head.tag = 0 ∧ length = 0 then opened - 1 else opened
        left = 0 || isShown fuel left (rest.drop length)

end Element

/-- A value of a kind that is not known beforehand. A group is kept as it is written; of all other
kinds than these only the form is looked at. -/
inductive ElementValue where
  | null
  | name (octets : List UInt8)
  | group (octets : List UInt8)
  | other
  deriving DecidableEq, Repr

namespace ElementValue

def undivided : List Nat :=
  [Element.null, Element.boolean, Element.objectName, Element.integerTag, Element.enumerated]

/-- The value that a content of a known kind stands for, none when it cannot be one. -/
def ofContent? (tag : Nat) (content : List UInt8) : Option ElementValue :=
  if tag = Element.null then if content.isEmpty then some .null else none
  else if tag = Element.objectName then if Element.isName content then some (.name content) else none
  else
    let fits :=
      if tag = Element.boolean then content.length = 1
      else if tag = Element.integerTag ∨ tag = Element.enumerated then Element.isInteger content
      else if tag = Element.bitString then Element.isBits content
      else if tag = Element.pairText then content.length % 2 = 0
      else if tag = Element.wideText then content.length % 4 = 0
      else true
    if fits then some .other else none

/-- Reads a value of any kind. -/
def read : ElementReader ElementValue := fun octets => do
  let (head, body) ← ElementHead.read? octets
  let isGroup := head.tag = Element.sequenceTag ∨ head.tag = Element.setTag
  if head.space ≠ .universal ∨ isGroup then
    let rest ← match head.length with
      | some length => some (body.drop length)
      | none => Element.pastEnd octets.length 1 body
    if head.space ≠ .universal then some (.other, rest)
    else if !head.isConstructed then none
    else if head.tag = Element.sequenceTag then some (.group (octets.take (octets.length - rest.length)), rest)
    else some (.other, rest)
  else if head.isConstructed && undivided.contains head.tag then none
  else
    let (content, rest) ← Element.content head body
    let value ← ofContent? head.tag content
    some (value, rest)

end ElementValue
end TenantAccess.Crypto
