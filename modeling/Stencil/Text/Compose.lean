import Stencil.Text.Compose.Spans

/-! # Compatibility composition

One normal form for the many spellings of an identifier: every character is replaced by its
compatibility decomposition, combining marks are put into order, and what composes is composed. -/
namespace Stencil.Text

/-- The six-digit groups of a packed entry, the last first. -/
def unpack (fuel n : Nat) : List Nat :=
  match fuel with
  | 0 => []
  | fuel + 1 => if n = 0 then [] else n % 0x1000000 :: unpack fuel (n / 0x1000000)

/-- The parts of a Hangul syllable. -/
def jamoOf (n : Nat) : List Nat :=
  let i := n - 0xac00
  let head := [0x1100 + i / 588, 0x1161 + i % 588 / 28]
  if i % 28 = 0 then head else head ++ [0x11a7 + i % 28]

def isSyllable (n : Nat) : Bool := 0xac00 ≤ n && n ≤ 0xd7a3

/-- The expansion that a packed table lists for `n`. -/
def formIn? (t : List Nat) (n : Nat) : Option (List Nat) :=
  t.findSome? fun e =>
    match (unpack 32 e).reverse with
    | k :: form => if k = n then some form else none
    | [] => none

/-- The expansion listed for `n`, whichever table its block is in. -/
def listedForm? (n : Nat) : Option (List Nat) :=
  if n < 0x2000 then formIn? Compose.lowExpansions n
  else if n < 0xfb00 then formIn? Compose.middleExpansions n
  else if n < 0x2f800 then formIn? Compose.highExpansions n
  else formIn? Compose.ideographExpansions n

def decompose (c : Char) : List Nat :=
  let n := c.toNat
  if isAscii c then [n]
  else if isSyllable n then jamoOf n
  else match imageIn? Compose.formRuns n with
    | some m => [m]
    | none => (listedForm? n).getD [n]

def combiningClass (n : Nat) : Nat :=
  (Compose.classSpans.findSome? fun s =>
    if s.1 ≤ n ∧ n ≤ s.2.1 then some s.2.2 else none).getD 0

/-- Puts a mark behind the last one whose class is not greater. The list is reversed. -/
def placeMark (n cls : Nat) : List (Nat × Nat) → List (Nat × Nat)
  | [] => [(n, cls)]
  | (m, k) :: r => if k ≤ cls then (n, cls) :: (m, k) :: r else (m, k) :: placeMark n cls r

/-- Orders each run of marks by class, keeping the order of marks of one class. -/
def orderMarks (ns : List Nat) : List (Nat × Nat) :=
  (ns.foldl (fun acc n =>
    let cls := combiningClass n
    if cls = 0 then (n, 0) :: acc else placeMark n cls acc) []).reverse

/-- The composite of two code points. -/
def composite? (a b : Nat) : Option Nat :=
  if 0x1100 ≤ a ∧ a ≤ 0x1112 ∧ 0x1161 ≤ b ∧ b ≤ 0x1175 then
    some (0xac00 + ((a - 0x1100) * 21 + (b - 0x1161)) * 28)
  else if isSyllable a ∧ (a - 0xac00) % 28 = 0 ∧ 0x11a8 ≤ b ∧ b ≤ 0x11c2 then
    some (a + (b - 0x11a7))
  else
    (Compose.pairs.find? fun p => p / 0x1000000 = a * 0x1000000 + b).map (· % 0x1000000)

/-- Where composition stands: the starter, the marks since it that stayed (last first), and the
class of the last of them. -/
structure Composing where
  starter : Option Nat
  marks : List Nat
  last : Nat

def Composing.flush (s : Composing) : List Nat := s.starter.toList ++ s.marks.reverse

def composeFrom (s : Composing) : List (Nat × Nat) → List Nat
  | [] => s.flush
  | (n, cls) :: r =>
    let joined := do
      let a ← s.starter
      if s.marks.isEmpty || (s.last < cls) then composite? a n else none
    match joined with
    | some m => composeFrom { s with starter := some m } r
    | none =>
      if cls = 0 then s.flush ++ composeFrom ⟨some n, [], 0⟩ r
      else composeFrom ⟨s.starter, n :: s.marks, cls⟩ r

/-- The compatibility composition of an identifier. -/
def compose (s : Text) : Text :=
  if s.all isAscii then s
  else (composeFrom ⟨none, [], 0⟩ (orderMarks (s.flatMap decompose))).map Char.ofNat

theorem compose_of_ascii {s : Text} (h : s.all isAscii = true) : compose s = s := by
  simp [compose, h]

end Stencil.Text
