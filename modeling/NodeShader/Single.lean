/-! Single-precision numbers as bit patterns. A finite magnitude is `significand * 2 ^ shift`
smallest steps, the smallest step being `2 ^ (-149)`. Two numbers are the same number when they
compare equal as reals; a pattern that is not a number is the same number as nothing, not even
itself. -/
namespace NodeShader

structure Single where
  bits : UInt32
deriving DecidableEq

namespace Single

def zero : Single := ⟨0⟩
def half : Single := ⟨0x3F000000⟩
def one : Single := ⟨0x3F800000⟩

instance : Inhabited Single := ⟨zero⟩

def exponent (x : Single) : Nat := x.bits.toNat / Nat.pow 2 23 % Nat.pow 2 8

def fraction (x : Single) : Nat := x.bits.toNat % Nat.pow 2 23

def negative (x : Single) : Bool := Nat.pow 2 31 ≤ x.bits.toNat

def isNaN (x : Single) : Bool := x.exponent = 255 && x.fraction ≠ 0

def isInfinite (x : Single) : Bool := x.exponent = 255 && x.fraction = 0

def isZero (x : Single) : Bool := x.exponent = 0 && x.fraction = 0

def significand (x : Single) : Nat :=
  if x.exponent = 0 then x.fraction else Nat.pow 2 23 + x.fraction

def shift (x : Single) : Nat := x.exponent - 1

def sameNumber (x y : Single) : Bool :=
  !x.isNaN && !y.isNaN && (x = y || x.isZero && y.isZero)

end Single
end NodeShader
