import Stencil.Value.Method.Text

/-! # Methods of bytes

Bytes are taken as characters: those of ASCII as they are, and the others, like the separators
among the controls, as characters that have no property at all. -/
namespace Stencil.Value.Method

/-- The first of the characters that stand for bytes. -/
def standIn : Nat := 0xe000

/-- The character that stands for a byte. -/
def characterOf (b : UInt8) : Char :=
  Char.ofNat (if b < 28 || (32 ≤ b && b < 128) then b.toNat else standIn + b.toNat)

def byteOf (c : Char) : UInt8 := UInt8.ofNat c.toNat

theorem byteOf_characterOf (b : UInt8) : byteOf (characterOf b) = b := by
  have h : ∀ n < 256, byteOf (characterOf (UInt8.ofNat n)) = UInt8.ofNat n := by decide +kernel
  simpa using h b.toNat b.toNat_lt

mutual

/-- A value with characters for bytes; a text becomes something that no method of bytes takes. -/
def toCharacters : Value → Value
  | ⟨i, .bytes bs⟩ => ⟨i, .text (bs.map characterOf)⟩
  | ⟨_, .text _⟩ => ellipsis
  | ⟨i, .tuple vs⟩ => ⟨i, .tuple (allToCharacters vs)⟩
  | v => v

def allToCharacters : List Value → List Value
  | [] => []
  | v :: vs => toCharacters v :: allToCharacters vs

end

/-- The value with the bytes that its characters stand for. -/
def ofCharacters (v : Value) : Value :=
  match v.content with
  | .text s => ⟨v.id, .bytes (s.map byteOf)⟩
  | .list vs => ⟨v.id, .list (vs.map piece)⟩
  | .tuple vs => ⟨v.id, .tuple (vs.map piece)⟩
  | _ => v
where
  piece (v : Value) : Value :=
    match v.content with
    | .text s => ⟨v.id, .bytes (s.map byteOf)⟩
    | _ => v

/-- A method of texts as a method of bytes. -/
def onCharacters (f : On Text) : On (List UInt8) := fun v bs a => do
  let a := ⟨a.positional.map toCharacters, a.named.map fun e => (e.1, toCharacters e.2)⟩
  ofCharacters <$> f (toCharacters v) (bs.map characterOf) a

/-- A search for bytes, or for one byte by its number. -/
def searchBytes (f : On Text) : On (List UInt8) := fun v bs a =>
  match a.positional with
  | p :: ps =>
    match p.integer? with
    | some i => do
      if 0 ≤ i ∧ i < 256 then onCharacters f v bs ⟨bytes [UInt8.ofNat i.toNat] :: ps, a.named⟩
      else
        let _ ← onCharacters f v bs ⟨bytes [] :: ps, a.named⟩
        throw .badValue
    | Option.none => onCharacters f v bs a
  | [] => onCharacters f v bs a

def asBytes (v : Value) : Outcome (List UInt8) :=
  match v.content with
  | .bytes bs => .ok bs
  | _ => .error .wrongType

/-- Bytes with the bytes between them; a single value is given back. -/
def joinBytes : On (List UInt8) := fun _ bs a => do
  let vs ← (← a.single).members
  let parts ← vs.mapM asBytes
  match vs with
  | [v] => return v
  | _ => return bytes (bs.intercalate parts)

/-- The bytes exchanged by a table of all bytes, or none, without those that go. -/
def exchangeBytes : On (List UInt8) := keeping fun bs a => do
  match ← a.bind ⟨["table".toList, "delete".toList], 1, 1⟩ with
  | [some table, gone] =>
    let images ← match table.content with
      | .none => pure Option.none
      | _ => some <$> asBytes table
    if images.any fun t => t.length != 256 then throw .badValue
    else
      let gone ← (gone.map asBytes).getD (.ok [])
      let image (b : UInt8) : UInt8 := ((images.bind fun t => t[b.toNat]?)).getD b
      return bytes ((bs.filter fun b => !gone.contains b).map image)
  | _ => throw .wrongType

/-- The table that exchanges bytes for others; the last of two equal bytes decides. -/
def makeByteTable (a : Arguments) : Outcome Value := do
  match ← a.bind (.positional 2 2) with
  | [some x, some y] =>
    let x ← asBytes x
    let y ← asBytes y
    if x.length = y.length then
      let pairs := (x.zip y).reverse
      return bytes ((List.range 256).map fun n =>
        ((pairs.find? fun p => p.1.toNat == n).map Prod.snd).getD (UInt8.ofNat n))
    else throw .badValue
  | _ => throw .wrongType

def hexText (bs : List UInt8) : Text := bs.flatMap fun b => Text.hex 2 b.toNat

/-- Groups of `n` from the head; the last one may be shorter. -/
def groups {α : Type} (n : Nat) (xs : List α) : List (List α) :=
  if _h : n = 0 ∨ xs.length ≤ n then [xs] else xs.take n :: groups n (xs.drop n)
termination_by xs.length
decreasing_by
  simp only [List.length_drop]
  omega

/-- A mark between groups of digits: one character of ASCII. -/
def groupMark (v : Value) : Outcome Char := do
  if (← v.length) = 1 then
    match v.content with
    | .text [c] => if Text.isAscii c then return c else throw .badValue
    | .bytes [b] => if b < 128 then return Char.ofNat b.toNat else throw .badValue
    | _ => throw .wrongType
  else throw .badValue

/-- The digits of bytes, with a mark between groups, which are counted from the end unless their
size is negative. -/
def hexGroups (bs : List UInt8) (mark : Char) (size : Int) : Text :=
  let n := size.natAbs
  if 0 < size then
    ((groups n bs.reverse).map fun g => hexText g.reverse).reverse |> Text.join [mark]
  else if size < 0 then Text.join [mark] ((groups n bs).map hexText)
  else hexText bs

def hex (bs : List UInt8) (a : Arguments) : Outcome Value := do
  match ← a.bind ⟨["sep".toList, "bytes_per_sep".toList], 0, 0⟩ with
  | [mark, size] =>
    let size ← smallOr 1 size
    match mark with
    | Option.none => return text (hexText bs)
    | some v => return text (hexGroups bs (← groupMark v) size)
  | _ => throw .wrongType

/-- Is this white space between hexadecimal digits? -/
def isHexBlank (c : Char) : Bool := c == ' ' || (9 ≤ c.toNat && c.toNat ≤ 13)

/-- The bytes that pairs of digits write, with white space between them. -/
def bytesOfHex? : Text → Option (List UInt8)
  | [] => some []
  | [c] => if isHexBlank c then some [] else Option.none
  | c :: d :: s =>
    if isHexBlank c then bytesOfHex? (d :: s)
    else do
      let m ← Quotation.hexValue? c
      let n ← Quotation.hexValue? d
      return UInt8.ofNat (16 * m + n) :: (← bytesOfHex? s)

def fromHex (a : Arguments) : Outcome Value := do
  match bytesOfHex? (← asText (← a.single)) with
  | some bs => return bytes bs
  | Option.none => throw .badValue

def endsByteLine (c : Char) : Bool := c == '\n' || c == '\r'

def bytesMethods : Family (List UInt8) :=
  (sharedMethods.map fun e => (e.1, onCharacters e.2)) ++
  (searchMethods.map fun e => (e.1, searchBytes e.2)) ++
  [("splitlines".toList, onCharacters (lines endsByteLine)),
   ("expandtabs".toList, onCharacters (ofContent expandTabs)),
   ("join".toList, joinBytes),
   ("decode".toList, ofContent decode),
   ("hex".toList, ofContent hex),
   ("fromhex".toList, fun _ _ => fromHex),
   ("translate".toList, exchangeBytes),
   ("maketrans".toList, fun _ _ => makeByteTable),
   ("isascii".toList, ask fun bs => bs.all (· < 128))]

end Stencil.Value.Method
