import Stencil.Value.Basic

/-! # Objects and their places

An object that an operation makes is fresh until the evaluation gives it its place. Objects of
different places differ, and constants and some small contents have one object only. -/
namespace Stencil

/-- Is there one object only of this content? -/
def Content.isCommon : Content → Bool
  | .none | .bool _ | .ellipsis | .function _ | .memberHelper | .scope _ => true
  | .int i => decide (-5 ≤ i) && decide (i ≤ 256)
  | .text [] | .bytes [] | .bytes [_] | .tuple [] => true
  | .text [c] => decide (c.toNat < 256)
  | _ => false

namespace Value

/-- The object that a fresh content becomes at a place. -/
def placed (place part : List Nat) (c : Content) : Identity :=
  if c.isCommon then .common else .made place part

mutual

/-- The value with a place for each fresh object in it. -/
def settle (place part : List Nat) : Value → Value
  | ⟨.fresh, c⟩ => ⟨placed place part c, settleContent place part c⟩
  | v => v

def settleContent (place part : List Nat) : Content → Content
  | .list vs => .list (settleAll place part 0 vs)
  | .tuple vs => .tuple (settleAll place part 0 vs)
  | .set l vs => .set l (settleAll place part 0 vs)
  | .dict es => .dict (settleEntries place part 0 es)
  | .view p es => .view p (settleEntries place part 0 es)
  | .frozen es => .frozen (settleEntries place part 0 es)
  | .slice l h s =>
    .slice (settle place (0 :: part) l) (settle place (1 :: part) h) (settle place (2 :: part) s)
  | .method v n => .method (settle place (0 :: part) v) n
  | c => c

def settleAll (place part : List Nat) (i : Nat) : List Value → List Value
  | [] => []
  | v :: vs => settle place (i :: part) v :: settleAll place part (i + 1) vs

def settleEntries (place part : List Nat) (i : Nat) :
    List (Value × Value) → List (Value × Value)
  | [] => []
  | (k, v) :: es =>
    (settle place (i :: part) k, settle place ((i + 1) :: part) v) ::
      settleEntries place part (i + 2) es

end

/-- A result with a place for each fresh object in it. -/
def settled (place : List Nat) (r : Outcome Value) : Outcome Value :=
  match r with
  | .ok v => .ok (v.settle place [])
  | .error f => .error f

end Value

/-- Is this a number that is not equal to itself? -/
def Content.isUnequal : Content → Bool
  | .float x => x.isNaN
  | .complex re im => re.isNaN || im.isNaN
  | _ => false

namespace Value

mutual

/-- The value as a constant: the only object of its content, like its parts, unless it is a number
that is not equal to itself or has one in it. -/
def constant : Value → Value
  | ⟨i, .tuple vs⟩ => ⟨if areRepeated vs then .common else i, .tuple (constants vs)⟩
  | ⟨i, c⟩ => ⟨if c.isUnequal then i else .common, c⟩

def constants : List Value → List Value
  | [] => []
  | v :: vs => constant v :: constants vs

/-- Do all constants of these contents have one object each? -/
def areRepeated : List Value → Bool
  | [] => true
  | v :: vs => isRepeated v && areRepeated vs

def isRepeated : Value → Bool
  | ⟨_, .tuple vs⟩ => areRepeated vs
  | ⟨_, c⟩ => !c.isUnequal

end

/-- Floats are the same constant if their bits are. -/
def sameFloat (x y : Float) : Bool := x.toBits == y.toBits

mutual

/-- Are two values one object? -/
def isSame : Value → Value → Bool
  | ⟨.common, c⟩, ⟨.common, d⟩ => sameConstant c d
  | ⟨i, _⟩, ⟨j, _⟩ => i != .fresh && i == j

/-- Are two contents of common objects the same? -/
def sameConstant : Content → Content → Bool
  | .none, .none => true
  | .bool a, .bool b => a == b
  | .int a, .int b => a == b
  | .float a, .float b => sameFloat a b
  | .complex a b, .complex c d => sameFloat a c && sameFloat b d
  | .text a, .text b => a == b
  | .bytes a, .bytes b => a == b
  | .ellipsis, .ellipsis => true
  | .tuple a, .tuple b => sameConstants a b
  | .function a, .function b => a == b
  | .scope _, .scope _ => true
  | .memberHelper, .memberHelper => true
  | _, _ => false

def sameConstants : List Value → List Value → Bool
  | [], [] => true
  | v :: vs, w :: ws => isSame v w && sameConstants vs ws
  | _, _ => false

end

/-- The value itself if a result has its whole text again, and the result otherwise. -/
def keeping (v w : Value) : Value :=
  match v.content, w.id, w.content with
  | .text s, .fresh, .text t => if s = t then v else w
  | .bytes s, .fresh, .bytes t => if s = t then v else w
  | _, _, _ => w

end Value
end Stencil
