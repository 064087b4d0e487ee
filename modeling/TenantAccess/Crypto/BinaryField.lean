import TenantAccess.Crypto.Octets

/-! Fields of two to some power: polynomials with coefficients zero and one, taken modulo one of them.
A polynomial is written as the number whose binary digits are its coefficients. -/

namespace TenantAccess.Crypto.BinaryField

def ofExponents (exponents : List Nat) : Nat :=
  exponents.foldl (fun sum exponent => Nat.xor sum (Nat.pow 2 exponent)) 0

/-- The degree of the modulus, which is also the number of digits of an element. -/
def degree (modulus : Nat) : Nat := modulus.log2

/-- The product with the polynomial of degree one that has no constant term. -/
def shift (modulus n : Nat) : Nat :=
  if Nat.testBit (2 * n) (degree modulus) then Nat.xor (2 * n) modulus else 2 * n

/-- The product of two polynomials, the first of them reduced. -/
def times (modulus a b : Nat) : Nat :=
  if b = 0 then 0
  else
    let half := shift modulus (times modulus a (b / 2))
    if b % 2 = 1 then Nat.xor half a else half
termination_by b

def reduce (modulus n : Nat) : Nat := times modulus 1 n

def square (modulus n : Nat) : Nat := times modulus n n

/-- The squares of an element, each the square of the one before, as many as there are digits. -/
def squares (modulus n : Nat) : List Nat :=
  ((List.range (degree modulus - 1)).foldl (fun (last, found) _ =>
    (square modulus last, square modulus last :: found)) (n, [n])).2

/-- The power one below that of the whole multiplicative group, so zero stays zero. -/
def inverse (modulus n : Nat) : Nat :=
  ((squares modulus n).dropLast).foldl (times modulus) 1

/-- Zero or one. What has the trace zero is the sum of some element and its square. -/
def trace (modulus n : Nat) : Nat := (squares modulus n).foldl Nat.xor 0

end TenantAccess.Crypto.BinaryField
