import Stencil.Decimal.Binary
import Stencil.Value.Basic

/-! # Hashes of values

Numbers are hashed by their residue modulo a prime, so that equal numbers of different kinds have
equal hashes, and tuples by mixing the hashes of their members. A hash is a word of 64 bits. -/
namespace Stencil.Hash

def word : Nat := 0x10000000000000000

/-- A Mersenne prime. Two to the power of 61 has the residue one. -/
def prime : Nat := 0x1fffffffffffffff

/-- A signed hash as a word; minus one stands for no hash and is passed over. -/
def ofSigned (negative : Bool) (n : Nat) : Nat :=
  if negative then
    if n = 0 then 0 else if n = 1 then word - 2 else word - n
  else n

def ofInt (i : Int) : Nat := ofSigned (decide (i < 0)) (i.natAbs % prime)

/-- The hash of a number, which a number that is not equal to itself has not. -/
def ofFloat? (x : Float) : Option Nat :=
  let negative := Decimal.isNegative x
  if x.isNaN then none
  else if x.isInf then some (ofSigned negative 314159)
  else
    let s := Decimal.Scaled.ofFloat x
    some (ofSigned negative (s.m * Decimal.twoTo (s.q % 61).toNat % prime))

def ofComplex? (re im : Float) : Option Nat := do
  let n := ((← ofFloat? re) + 1000003 * (← ofFloat? im)) % word
  return if n = word - 1 then word - 2 else n

def rotate (n : Nat) : Nat := n * 0x80000000 % word + n / 0x200000000

/-- One more hash mixed into that of a tuple. -/
def mix (acc hash : Nat) : Nat :=
  rotate ((acc + hash * 14029467366897019727) % word) * 11400714785074694791 % word

def ofTuple (hashes : List Nat) : Nat :=
  let n := (hashes.foldl mix 2870177450012600261 +
    Nat.xor hashes.length (Nat.xor 2870177450012600261 3527539)) % word
  if n = word - 1 then 1546275796 else n

mutual

/-- The hash that the content of a value decides. -/
def ofValue? : Value → Option Nat
  | ⟨_, .bool b⟩ => some (if b then 1 else 0)
  | ⟨_, .int i⟩ => some (ofInt i)
  | ⟨_, .float x⟩ => ofFloat? x
  | ⟨_, .complex re im⟩ => ofComplex? re im
  | ⟨_, .tuple vs⟩ => (ofValues? vs).map ofTuple
  | _ => none

def ofValues? : List Value → Option (List Nat)
  | [] => some []
  | v :: vs => do return (← ofValue? v) :: (← ofValues? vs)

end

end Stencil.Hash
