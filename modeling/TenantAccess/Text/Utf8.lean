/-! Texts as octets. Reading never fails: each run of octets that can begin no character, or that
breaks off, becomes one replacement character. -/

namespace TenantAccess.Utf8

def encode (text : String) : List UInt8 := text.toUTF8.toList

/-- What the current character still needs: how many octets, between which bounds the next of them
lies, and the bits gathered so far. -/
structure Pending where
  owed : Nat
  low : Nat
  high : Nat
  bits : Nat

/-- What a first octet asks for, none when no character begins with it. The bounds shut out forms
that are longer than needed, halves of characters, and numbers past the last character. -/
def begin? (octet : Nat) : Option Pending :=
  if octet < 0x80 then some ⟨0, 0, 0, octet⟩
  else if 0xC2 ≤ octet && octet ≤ 0xDF then some ⟨1, 0x80, 0xBF, octet - 0xC0⟩
  else if octet = 0xE0 then some ⟨2, 0xA0, 0xBF, 0⟩
  else if octet = 0xED then some ⟨2, 0x80, 0x9F, octet - 0xE0⟩
  else if 0xE1 ≤ octet && octet ≤ 0xEF then some ⟨2, 0x80, 0xBF, octet - 0xE0⟩
  else if octet = 0xF0 then some ⟨3, 0x90, 0xBF, 0⟩
  else if 0xF1 ≤ octet && octet ≤ 0xF3 then some ⟨3, 0x80, 0xBF, octet - 0xF0⟩
  else if octet = 0xF4 then some ⟨3, 0x80, 0x8F, octet - 0xF0⟩
  else none

def replacement : Char := '\uFFFD'

/-- An octet between characters. -/
def start (octet : Nat) : List Char × Option Pending :=
  match begin? octet with
  | none => ([replacement], none)
  | some pending =>
    if pending.owed = 0 then ([Char.ofNat pending.bits], none) else ([], some pending)

/-- An octet that does not continue the current character ends it and is looked at again. -/
def step (pending : Option Pending) (octet : Nat) : List Char × Option Pending :=
  match pending with
  | none => start octet
  | some pending =>
    if pending.low ≤ octet && octet ≤ pending.high then
      let bits := pending.bits * 64 + (octet - 0x80)
      if pending.owed = 1 then ([Char.ofNat bits], none)
      else ([], some ⟨pending.owed - 1, 0x80, 0xBF, bits⟩)
    else
      let (read, next) := start octet
      (replacement :: read, next)

def decodeFrom (pending : Option Pending) (read : List Char) : List UInt8 → List Char
  | [] => (if pending.isSome then replacement :: read else read).reverse
  | octet :: rest =>
    let (characters, next) := step pending octet.toNat
    decodeFrom next (characters.reverse ++ read) rest

def decode (octets : List UInt8) : String :=
  String.ofList (decodeFrom none [] octets)

/-- A byte order mark at the start is no part of the text. -/
def decodeUnmarked (octets : List UInt8) : String :=
  match octets with
  | 0xEF :: 0xBB :: 0xBF :: rest => decode rest
  | _ => decode octets

end TenantAccess.Utf8
