import Stencil.Decimal.Places
import Stencil.Value.Collection
import Stencil.Value.Integer
import Stencil.Value.Subscript
import Stencil.Value.Written

/-! # Formats with fields

A field is a percent sign, perhaps a key in parentheses, marks, a width and a precision, and the
letter of a conversion. A format is a text, or bytes taken as characters. -/
namespace Stencil.Format

/-- What a format is written in. -/
inductive Medium | text | bytes
  deriving DecidableEq

/-- A width or a precision: left out, written, or taken from the values. -/
inductive Measure
  | absent
  | fixed (n : Nat)
  | taken
  deriving DecidableEq

structure Field where
  key : Option Text
  marks : Text
  width : Measure
  precision : Measure
  /-- The letter; none if the format ends before it. -/
  conversion : Option Char

inductive Item
  | char (c : Char)
  | field (f : Field)
  /-- A key without a closing parenthesis. -/
  | openKey

/-- The key up to its closing parenthesis, `depth` further ones open, and the rest. -/
def key? (depth : Nat) : Text → Option (Text × Text)
  | [] => none
  | c :: s =>
    if c = ')' then
      match depth with
      | 0 => some ([], s)
      | d + 1 => (key? d s).map fun p => (c :: p.1, p.2)
    else (key? (if c = '(' then depth + 1 else depth) s).map fun p => (c :: p.1, p.2)

def isMark (c : Char) : Bool := "-+ #0".toList.contains c

def naturalOf (ds : Text) : Nat := ds.foldl (fun n c => 10 * n + (c.toNat - 48)) 0

/-- A width at the head of a text, and the rest. -/
def measure (s : Text) : Measure × Text :=
  match s with
  | '*' :: r => (.taken, r)
  | s =>
    let ds := s.takeWhile Char.isDigit
    (if ds.isEmpty then .absent else .fixed (naturalOf ds), s.dropWhile Char.isDigit)

/-- A point and a precision at the head of a text; a bare point stands for zero. -/
def precision (s : Text) : Measure × Text :=
  match s with
  | '.' :: r =>
    match measure r with
    | (.absent, r) => (.fixed 0, r)
    | p => p
  | s => (.absent, s)

/-- A letter that says nothing about the conversion. -/
def isSizeLetter (c : Char) : Bool := c == 'h' || c == 'l' || c == 'L'

/-- The field behind its key, and the rest. -/
def fieldBody (key : Option Text) (s : Text) : Field × Text :=
  let marks := s.takeWhile isMark
  let (width, r) := measure (s.dropWhile isMark)
  let (precision, r) := precision r
  let r := match r with
    | c :: r => if isSizeLetter c then r else c :: r
    | [] => []
  (⟨key, marks, width, precision, r.head?⟩, r.drop 1)

/-- The items of a format; reading stops where a key is not closed or if a field takes nothing. -/
def items (s : Text) : List Item :=
  match s with
  | [] => []
  | c :: r =>
    if c = '%' then
      match r with
      | '(' :: r' =>
        match key? 0 r' with
        | some (k, r'') =>
          let f := fieldBody (some k) r''
          if _h : f.2.length ≤ r'.length + 1 then .field f.1 :: items f.2 else []
        | none => [.openKey]
      | r =>
        let f := fieldBody none r
        if _h : f.2.length ≤ r.length then .field f.1 :: items f.2 else []
    else .char c :: items r
termination_by s.length
decreasing_by
  · exact Nat.lt_succ_of_le _h
  · exact Nat.lt_succ_of_le _h
  · simp

/-- The values that fields take: the rest of a tuple, a single value not yet taken, or entries by
key. `mapping` says that values may be left over. -/
structure Supply where
  values : List Value
  mapping : Option Value

/-- Does a value have items that keys may ask for? -/
def isMapping (m : Medium) (v : Value) : Bool :=
  match v.content with
  | .dict _ | .list _ | .frozen _ => true
  | .bytes _ => m == .text
  | _ => false

def Supply.ofValue (m : Medium) (v : Value) : Supply :=
  match v.content with
  | .tuple vs => ⟨vs, none⟩
  | _ => ⟨[v], if isMapping m v then some v else none⟩

def Supply.take (s : Supply) : Outcome (Value × Supply) :=
  match s.values with
  | v :: vs => .ok (v, { s with values := vs })
  | [] => .error .wrongType

/-- A width or precision below a bound. One that is taken from the values is an integer. -/
def Supply.measure (s : Supply) (bound : Int) (m : Measure) : Outcome (Option Int × Supply) :=
  match m with
  | .absent => .ok (none, s)
  | .fixed n => if n < bound then .ok (some n, s) else .error .badValue
  | .taken => do
    let (v, s) ← s.take
    match v.integer? with
    | some i => if -bound ≤ i ∧ i < bound then return (some i, s) else throw .overflow
    | none => throw .wrongType

def spaces (n : Nat) (c : Char) : Text := List.replicate n c

/-- The body of a field brought to its width: the sign, what announces a base, and zeros between
these and the digits if they are asked for. -/
def pad (marks : Text) (left : Bool) (width : Nat) (zeros : Bool) (sign base body : Text) : Text :=
  let gap := width - (sign.length + base.length + body.length)
  if left then sign ++ base ++ body ++ spaces gap ' '
  else if zeros && marks.contains '0' then sign ++ base ++ spaces gap '0' ++ body
  else spaces gap ' ' ++ sign ++ base ++ body

/-- The sign in front of a number. -/
def signFor (marks : Text) (negative : Bool) : Text :=
  if negative then ['-']
  else if marks.contains '+' then ['+']
  else if marks.contains ' ' then [' ']
  else []

/-- Escapes all characters beyond ASCII. -/
def asciiOnly (s : Text) : Text :=
  s.flatMap fun c => if c.toNat < 128 then [c] else Text.Quoted.numericEscape c.toNat

/-- The integer that a number is converted to; only integers have digits in another base. -/
def integerFor (conversion : Char) (v : Value) : Outcome Int :=
  match v.content with
  | .float x =>
    if conversion = 'o' ∨ conversion = 'x' ∨ conversion = 'X' then .error .wrongType
    else Value.integerOfFloat x
  | _ =>
    match v.integer? with
    | some i => .ok i
    | none => .error .wrongType

/-- The float that a number is converted to. -/
def floatFor (m : Medium) (v : Value) : Outcome Float :=
  match v.number? with
  | some (.int i) =>
    match m with
    | .text => Number.floatOfInt i
    | .bytes => (Number.floatOfInt i).mapError fun _ => .wrongType
  | some (.float x) => .ok x
  | _ => .error .wrongType

/-- Digits of an integer in the base of a conversion, and what announces the base. -/
def integerDigits (conversion : Char) (n : Nat) : Text × Text :=
  if conversion = 'o' then (['0', 'o'], Text.digits 8 n)
  else if conversion = 'x' then (['0', 'x'], Text.digits 16 n)
  else if conversion = 'X' then (['0', 'X'], (Text.digits 16 n).map Char.toUpper)
  else ([], Text.digits 10 n)

def numberNotation? (conversion : Char) : Option Decimal.Style :=
  match conversion.toLower with
  | 'f' => some .fixed
  | 'e' => some .scientific
  | 'g' => some .general
  | _ => none

/-- The one character of a text or of bytes, or that of a number. -/
def character (m : Medium) (v : Value) : Outcome Text :=
  let bound : Int := if m = .text then 0x110000 else 256
  match m, v.content with
  | .text, .text [c] => .ok [c]
  | .bytes, .bytes [b] => .ok [Char.ofNat b.toNat]
  | _, _ =>
    match v.integer? with
    | some i => if 0 ≤ i ∧ i < bound then .ok [Char.ofNat i.toNat] else .error .overflow
    | none => .error .wrongType

/-- What stands for a value where no kind of number is asked for. -/
def plainText (m : Medium) (v : Value) : Outcome Text :=
  match m, v.content with
  | .text, _ => .ok v.shown
  | .bytes, .bytes bs => .ok (bs.map fun b => Char.ofNat b.toNat)
  | .bytes, _ => .error .wrongType

/-- Is this the letter for a value as it is? -/
def isPlain (m : Medium) (conversion : Char) : Bool :=
  conversion == 's' || (m == .bytes && conversion == 'b')

/-- Is this a letter for the written form in ASCII? -/
def isAsciiForm (m : Medium) (conversion : Char) : Bool :=
  conversion == 'a' || (m == .bytes && conversion == 'r')

/-- A value written as its field asks. -/
def convert (m : Medium) (f : Field) (conversion : Char) (width precision : Option Int)
    (v : Value) : Outcome Text :=
  let w := width.getD 0
  let left := f.marks.contains '-' || decide (w < 0)
  let w := w.natAbs
  let cut (s : Text) : Text :=
    match precision with
    | some p => s.take p.toNat
    | none => s
  let plain (s : Text) : Text := pad f.marks left w false [] [] (cut s)
  if isPlain m conversion then plain <$> plainText m v
  else if isAsciiForm m conversion then .ok (plain (asciiOnly v.written))
  else if conversion = 'r' then .ok (plain v.written)
  else if conversion = 'c' then do return pad f.marks left w false [] [] (← character m v)
  else if "diuoxX".toList.contains conversion then do
    let i ← integerFor conversion v
    let (base, ds) := integerDigits conversion i.natAbs
    let zeros := (precision.getD 0).toNat - ds.length
    let base := if f.marks.contains '#' then base else []
    return pad f.marks left w true (signFor f.marks (i < 0)) base (spaces zeros '0' ++ ds)
  else match numberNotation? conversion with
    | some n => do
      let x ← floatFor m v
      let count := (precision.getD 6).toNat
      let s := Decimal.placedText Value.floatLayout n (f.marks.contains '#') count x
      let negative := s.head? = some '-'
      let body := if negative then s.drop 1 else s
      let body := if conversion.isUpper then body.map Char.toUpper else body
      return pad f.marks left w true (signFor f.marks negative) [] body
    | none => .error .badValue

/-- The supply of a field: with a key, its entry alone. -/
def supplyFor (m : Medium) (s : Supply) (key : Option Text) : Outcome Supply :=
  match key with
  | none => .ok s
  | some k =>
    match s.mapping with
    | none => .error .wrongType
    | some v =>
      let k := match m with
        | .text => Value.text k
        | .bytes => Value.bytes (k.map fun c => UInt8.ofNat c.toNat)
      do return ⟨[← v.item k], some v⟩

/-- Is the field a mere percent sign? In bytes it has nothing else in it. -/
def isPercent (m : Medium) (f : Field) : Bool :=
  f.conversion == some '%' &&
    (m == .text ||
      (f.key.isNone && f.marks.isEmpty && f.width == .absent && f.precision == .absent))

/-- Widths are below the first bound, and precisions below the second. -/
def widthBound : Int := Value.maxSize

def precisionBound : Int := 0x80000000

/-- The text of a field, and the values left. -/
def fill (m : Medium) (f : Field) (s : Supply) : Outcome (Text × Supply) := do
  let s ← supplyFor m s f.key
  let (width, s) ← s.measure widthBound f.width
  let (precision, s) ← s.measure precisionBound f.precision
  if isPercent m f then return (['%'], s)
  else match f.conversion with
    | none => throw .badValue
    | some c => do
      let (v, s) ← s.take
      return (← convert m f c width precision v, s)

/-- The text of a format; no value may be left unless they have keys. -/
def run (m : Medium) (s : Supply) : List Item → Outcome Text
  | [] => if s.values.isEmpty || s.mapping.isSome then .ok [] else .error .wrongType
  | .char c :: is => do return c :: (← run m s is)
  | .openKey :: _ => .error (if s.mapping.isSome then .badValue else .wrongType)
  | .field f :: is => do
    let (t, s) ← fill m f s
    return t ++ (← run m s is)

/-- A text with its fields filled from a value. -/
def apply (format : Text) (v : Value) : Outcome Text :=
  run .text (.ofValue .text v) (items format)

/-- Bytes with their fields filled from a value. -/
def applyBytes (format : List UInt8) (v : Value) : Outcome (List UInt8) := do
  let s ← run .bytes (.ofValue .bytes v) (items (format.map fun b => Char.ofNat b.toNat))
  return s.map fun c => UInt8.ofNat c.toNat

end Stencil.Format
