import Stencil.Text.Word
import Stencil.Text.Case.Spans

/-! # Letter case -/
namespace Stencil.Text

/-- The listed expansion of a code point. -/
def expansionIn? (t : List (Nat × List Nat)) (n : Nat) : Option Text :=
  (t.find? (·.1 == n)).map fun e => e.2.map Char.ofNat

def upperOf (c : Char) : Text :=
  if isAscii c then [c.toUpper]
  else match expansionIn? Case.upperExpansions c.toNat with
    | some s => s
    | none => [Char.ofNat ((imageIn? Case.upperRuns c.toNat).getD c.toNat)]

/-- The small form of a character, whatever stands around it. -/
def lowerOf (c : Char) : Text :=
  if isAscii c then [c.toLower]
  else if c == 'İ' then ['i', Char.ofNat 0x307]
  else [Char.ofNat ((imageIn? Case.lowerRuns c.toNat).getD c.toNat)]

/-- The form of a character at the head of a word. -/
def titleOf (c : Char) : Text :=
  if isAscii c then [c.toUpper]
  else (expansionIn? Case.titleExceptions c.toNat).getD (upperOf c)

/-- The form of a character for comparing without case. -/
def foldOf (c : Char) : Text :=
  if isAscii c then [c.toLower]
  else (expansionIn? Case.foldExceptions c.toNat).getD (lowerOf c)

def isCapital (c : Char) : Bool :=
  if isAscii c then c.isUpper else Case.capitalSpans.has c.toNat

def isSmall (c : Char) : Bool :=
  if isAscii c then c.isLower else Case.smallSpans.has c.toNat

/-- A character that is the head form of a digraph, such as Dž. -/
def isTitleForm (c : Char) : Bool :=
  !isAscii c && !isCapital c && !isSmall c && titleOf c == [c] &&
    (upperOf c != [c] || lowerOf c != [c])

/-- Does the search over a neighbouring stretch of text meet a cased character first? -/
def meetsCased (s : Text) : Bool :=
  match s.dropWhile fun c => Case.passedSpans.has c.toNat with
  | [] => false
  | c :: _ => Case.casedSpans.has c.toNat

def upper (s : Text) : Text := s.flatMap upperOf

/-- Small forms; a capital sigma that ends a word gets its final form. `before` is the text
already read, last character first. -/
def lowerAfter (before : Text) : Text → Text
  | [] => []
  | c :: s =>
    (if c == 'Σ' then
      [if meetsCased before && !meetsCased s then 'ς' else 'σ']
    else lowerOf c) ++ lowerAfter (c :: before) s

def lower (s : Text) : Text := lowerAfter [] s

def caseFold (s : Text) : Text := s.flatMap foldOf

/-- The first character in its head form and the others small. -/
def capitalize : Text → Text
  | [] => []
  | c :: s => titleOf c ++ lowerAfter [c] s

def isCasedLetter (c : Char) : Bool := isCapital c || isSmall c || isTitleForm c

/-- Each run of cased letters with its first in head form and the others small. -/
def titleAfter (before : Text) (inWord : Bool) : Text → Text
  | [] => []
  | c :: s =>
    (if inWord then
      (if c == 'Σ' then
        [if meetsCased before && !meetsCased s then 'ς' else 'σ']
      else lowerOf c)
    else titleOf c) ++ titleAfter (c :: before) (isCasedLetter c) s

def title (s : Text) : Text := titleAfter [] false s

def swapCase (s : Text) : Text :=
  let rec go (before : Text) : Text → Text
    | [] => []
    | c :: s =>
      (if isCapital c then
        (if c == 'Σ' then
          [if meetsCased before && !meetsCased s then 'ς' else 'σ']
        else lowerOf c)
      else if isSmall c then upperOf c
      else [c]) ++ go (c :: before) s
  go [] s

/-- All cased letters are capitals, and there is one. -/
def isUpper (s : Text) : Bool :=
  s.any isCapital && s.all fun c => !isSmall c && !isTitleForm c

/-- All cased letters are small, and there is one. -/
def isLower (s : Text) : Bool :=
  s.any isSmall && s.all fun c => !isCapital c && !isTitleForm c

/-- Capitals and head forms stand only where no cased letter precedes, small letters only where
one does, and there is a cased letter. -/
def isTitle (s : Text) : Bool :=
  let rec go (inWord seen : Bool) : Text → Bool
    | [] => seen
    | c :: s =>
      if isCapital c || isTitleForm c then !inWord && go true true s
      else if isSmall c then inWord && go true true s
      else go false seen s
  go false false s

end Stencil.Text
