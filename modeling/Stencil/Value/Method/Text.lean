import Stencil.Text.Case
import Stencil.Text.Identifier
import Stencil.Text.Printable
import Stencil.Text.Search
import Stencil.Value.Collection
import Stencil.Value.Method.Encoding
import Stencil.Value.Method.Exchange

/-! # Methods of texts -/
namespace Stencil.Value.Method

/-- The first position and the stretch of a text between two positions; none if they are the wrong
way round. -/
def window (s : Text) (low high : Option Value) : Outcome (Option (Nat × Text)) := do
  let low ← sliceEnd (low.getD .none)
  let high ← sliceEnd (high.getD .none)
  let first := match low with
    | Option.none => 0
    | some i => max 0 (if i < 0 then i + s.length else i)
  let stop := (high.map (clamp s.length 0 s.length)).getD s.length
  if first ≤ stop then
    return some (first.toNat, (s.drop first.toNat).take (stop - first).toNat)
  else return Option.none

/-- A text to look for, and where. -/
def searched (s : Text) (a : Arguments) : Outcome (Text × Option (Nat × Text)) := do
  match ← a.bind (.positional 1 3) with
  | [some p, low, high] =>
    let w ← window s low high
    return (← asText p, w)
  | _ => throw .wrongType

/-- The position that a search finds. -/
def foundAt (find : Text → Text → Option Nat) (s : Text) (a : Arguments) :
    Outcome (Option Nat) := do
  let (p, w) ← searched s a
  return w.bind fun w => (find p w.2).map (· + w.1)

/-- A position, or minus one. -/
def find (search : Text → Text → Option Nat) (s : Text) (a : Arguments) : Outcome Value := do
  return int ((← foundAt search s a).elim (-1) fun k => (k : Int))

/-- A position that must be found. -/
def index (search : Text → Text → Option Nat) (s : Text) (a : Arguments) : Outcome Value := do
  match ← foundAt search s a with
  | some k => return int k
  | Option.none => throw .badValue

def count (s : Text) (a : Arguments) : Outcome Value := do
  let (p, w) ← searched s a
  return int ((w.map fun w => Text.count p w.2).getD 0)

/-- Does one of some values, looked at in turn, pass? -/
def anyText (test : Text → Bool) : List Value → Outcome Bool
  | [] => .ok false
  | v :: vs => do
    if test (← asText v) then return true else anyText test vs

/-- Does a text begin or end, by the test given, with a text or with one of a tuple of texts? -/
def affixed (test : Text → Text → Bool) (s : Text) (a : Arguments) : Outcome Value := do
  match ← a.bind (.positional 1 3) with
  | [some p, low, high] =>
    let w ← window s low high
    let passes (p : Text) : Bool := w.any fun w => test p w.2
    match p.content with
    | .tuple ps => bool <$> anyText passes ps
    | _ => return bool (passes (← asText p))
  | _ => throw .wrongType

def startsWith (p s : Text) : Bool := (Text.after? p s).isSome

/-- The characters to trim: blanks, or those of a text. -/
def trimSet (a : Arguments) : Outcome (Char → Bool) := do
  match ← a.bind (.positional 0 1) with
  | [v] =>
    match ← optionalText v with
    | Option.none => return Text.isBlank
    | some cs => return fun c => cs.contains c
  | _ => throw .wrongType

/-- A method that trims the characters of a set. -/
def trim (f : (Char → Bool) → Text → Text) : On Text :=
  keeping fun s a => do return text (f (← trimSet a) s)

def trimBoth (p : Char → Bool) (s : Text) : Text := Text.trimEndOf p (Text.trimStartOf p s)

def splitParameters : Arguments.Parameters := ⟨["sep".toList, "maxsplit".toList], 0, 0⟩

/-- The texts that a text is divided into; the text itself, if it is whole. -/
def parts (v : Value) (ss : List Text) : Value := list (ss.map fun s => v.keeping (text s))

/-- A text divided from its head. -/
def split : On Text := fun v s a => do
  match ← a.bind splitParameters with
  | [sep, max] =>
    let max ← limit max
    match ← optionalText sep with
    | Option.none =>
      let ss := Text.words max s
      return if max = some 0 then list (ss.map text) else parts v ss
    | some [] => throw .badValue
    | some p => return parts v (Text.splitOn p max s)
  | _ => throw .wrongType

/-- A text divided from its end. -/
def splitLast : On Text := fun v s a => do
  let turned (ss : List Text) : List Text := (ss.map List.reverse).reverse
  match ← a.bind splitParameters with
  | [sep, max] =>
    let max ← limit max
    match ← optionalText sep with
    | Option.none =>
      let ss := turned (Text.words max s.reverse)
      return if max = some 0 then list (ss.map text) else parts v ss
    | some [] => throw .badValue
    | some p => return parts v (turned (Text.splitOn p.reverse max s.reverse))
  | _ => throw .wrongType

def lines (ends : Char → Bool) : On Text := fun v s a => do
  return parts v (Text.lines ends (← flag (← a.optional "keepends".toList)) s)

/-- The text with one text in place of another; itself if there is nothing to do. -/
def replace : On Text := fun v s a => do
  match ← a.bind (.positional 2 3) with
  | [some p, some q, max] =>
    let old ← asText p
    let new ← asText q
    let max ← limit max
    return if max = some 0 ∨ p.isSame q ∨ !Text.occurs old s then v
      else text (Text.replace old new max s)
  | _ => throw .wrongType

/-- Texts with the text between them; a single one is given back. -/
def joinMembers : On Text := fun _ s a => do
  let vs ← (← a.single).members
  let ss ← vs.mapM asText
  match vs with
  | [v] => return v
  | _ => return text (Text.join s ss)

/-- The text before a mark, the mark and the text behind it; `whole` if it does not occur. -/
def partition (cut : Text → Text → Option (Text × Text)) (whole : Value → List Value) : On Text :=
  fun v s a => do
    let mark ← a.single
    let p ← asText mark
    if p.isEmpty then throw .badValue
    else match cut p s with
      | some b => return tuple [text b.1, mark, text b.2]
      | Option.none => return tuple (whole v)

/-- Width and filling character. -/
def filling (a : Arguments) : Outcome (Int × Char) := do
  match ← a.bind (.positional 1 2) with
  | [some w, c] =>
    let w ← size (← asInteger w)
    match ← c.mapM asText with
    | Option.none => return (w, ' ')
    | some [c] => return (w, c)
    | some _ => throw .wrongType
  | _ => throw .wrongType

/-- The gap to a width, divided by `share` into what goes in front and behind. -/
def fill (share : Nat → Nat → Nat) (s : Text) (a : Arguments) : Outcome Value := do
  let (w, c) ← filling a
  if maxLength < w then throw .overflow
  let gap := (w - s.length).toNat
  let before := share gap w.toNat
  return text (List.replicate before c ++ s ++ List.replicate (gap - before) c)

/-- The smaller half in front, unless gap and width are both odd. -/
def halfBefore (gap width : Nat) : Nat := gap / 2 + (if gap % 2 = 1 ∧ width % 2 = 1 then 1 else 0)

/-- Zeros between the sign and the digits. -/
def zeroFill (s : Text) (a : Arguments) : Outcome Value := do
  let w ← size (← asInteger (← a.single))
  if maxLength < w then throw .overflow
  let zeros := List.replicate (w - s.length).toNat '0'
  match s with
  | c :: r => return text (if c = '+' ∨ c = '-' then c :: (zeros ++ r) else zeros ++ s)
  | [] => return text zeros

def expandTabs (s : Text) (a : Arguments) : Outcome Value := do
  let width ← smallOr 8 (← a.optional "tabsize".toList)
  return text (Text.expandTabs width 0 s)

def removeBefore (s : Text) (a : Arguments) : Outcome Value := do
  let p ← asText (← a.single)
  return text ((Text.after? p s).getD s)

def removeBehind (s : Text) (a : Arguments) : Outcome Value := do
  let p ← asText (← a.single)
  return text (((Text.after? p.reverse s.reverse).map List.reverse).getD s)

/-- A method that changes a text and takes nothing. -/
def change (f : Text → Text) : On Text := bare fun s => .ok (text (f s))

/-- A method that asks something of a content and takes nothing. -/
def ask {α : Type} (f : α → Bool) : On α := bare fun x => .ok (bool (f x))

/-- Do all characters pass, and is there one? -/
def allOf (p : Char → Bool) (s : Text) : Bool := !s.isEmpty && s.all p

/-- The methods that do the same to bytes, with characters that stand for them. -/
def sharedMethods : Family Text :=
  [("upper".toList, change Text.upper),
   ("lower".toList, change Text.lower),
   ("title".toList, change Text.title),
   ("capitalize".toList, change Text.capitalize),
   ("swapcase".toList, change Text.swapCase),
   ("strip".toList, trim trimBoth),
   ("lstrip".toList, trim Text.trimStartOf),
   ("rstrip".toList, trim Text.trimEndOf),
   ("split".toList, split),
   ("rsplit".toList, splitLast),
   ("replace".toList, replace),
   ("startswith".toList, ofContent (affixed startsWith)),
   ("endswith".toList, ofContent (affixed Text.endsWith)),
   ("removeprefix".toList, keeping removeBefore),
   ("removesuffix".toList, keeping removeBehind),
   ("partition".toList, partition Text.breakAt? fun v => [v, text [], text []]),
   ("rpartition".toList, partition Text.breakAtLast? fun v => [text [], text [], v]),
   ("center".toList, keeping (fill halfBefore)),
   ("ljust".toList, keeping (fill fun _ _ => 0)),
   ("rjust".toList, keeping (fill fun gap _ => gap)),
   ("zfill".toList, keeping zeroFill),
   ("isalpha".toList, ask (allOf Text.isLetter)),
   ("isalnum".toList, ask (allOf Text.isLetterOrNumeral)),
   ("isdigit".toList, ask (allOf Text.isDigitLike)),
   ("isspace".toList, ask (allOf Text.isBlank)),
   ("isupper".toList, ask Text.isUpper),
   ("islower".toList, ask Text.isLower),
   ("istitle".toList, ask Text.isTitle)]

/-- The methods that look for a text. -/
def searchMethods : Family Text :=
  [("count".toList, ofContent count),
   ("find".toList, ofContent (find Text.indexOf?)),
   ("rfind".toList, ofContent (find Text.lastIndexOf?)),
   ("index".toList, ofContent (index Text.indexOf?)),
   ("rindex".toList, ofContent (index Text.lastIndexOf?))]

def textMethods : Family Text :=
  sharedMethods ++ searchMethods ++
  [("casefold".toList, change Text.caseFold),
   ("splitlines".toList, lines Text.endsLine),
   ("expandtabs".toList, keeping expandTabs),
   ("join".toList, joinMembers),
   ("encode".toList, ofContent encode),
   ("translate".toList, ofContent exchange),
   ("maketrans".toList, fun _ _ => makeTable),
   ("isdecimal".toList, ask (allOf Text.isDecimal)),
   ("isnumeric".toList, ask (allOf Text.isNumeral)),
   ("isidentifier".toList, ask Text.isIdentifier),
   ("isprintable".toList, ask fun s => s.all Text.isPrintable),
   ("isascii".toList, ask fun s => s.all Text.isAscii),
   ("format".toList, refused),
   ("format_map".toList, refused)]

end Stencil.Value.Method
