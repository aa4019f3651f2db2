import Stencil.Expr.Quotation
import Stencil.Settings.Scalar
import Stencil.Value.Collection
import Stencil.Text.Blank

/-! # Settings files

A file holds one value: entries on lines of their own, a list on lines of its own, or a single
value. A value is a scalar, or a list or mapping in brackets on one line. -/
namespace Stencil.Settings

def isSpace (c : Char) : Bool := c == ' ' || c == '\t'

def dropSpaces (s : Text) : Text := s.dropWhile isSpace

def trimSpaces (s : Text) : Text := ((dropSpaces s).reverse.dropWhile isSpace).reverse

/-- The body of a single-quoted text and the rest; a quote in it is written twice. -/
def singleQuoted? : Text → Option (Text × Text)
  | [] => none
  | '\'' :: '\'' :: s => (singleQuoted? s).map fun p => ('\'' :: p.1, p.2)
  | c :: s => if c = '\'' then some ([], s) else (singleQuoted? s).map fun p => (c :: p.1, p.2)

/-- The characters that a letter behind a backslash stands for. -/
def escape? (c : Char) : Option Char :=
  match c with
  | '0' => some (Char.ofNat 0)
  | 'a' => some (Char.ofNat 7)
  | 'b' => some (Char.ofNat 8)
  | 't' | '\t' => some '\t'
  | 'n' => some '\n'
  | 'v' => some (Char.ofNat 11)
  | 'f' => some (Char.ofNat 12)
  | 'r' => some '\r'
  | 'e' => some (Char.ofNat 27)
  | ' ' => some ' '
  | '"' => some '"'
  | '/' => some '/'
  | '\\' => some '\\'
  | 'N' => some (Char.ofNat 0x85)
  | '_' => some (Char.ofNat 0xa0)
  | 'L' => some (Char.ofNat 0x2028)
  | 'P' => some (Char.ofNat 0x2029)
  | _ => none

/-- The text of a double-quoted body. -/
def unescape? (fuel : Nat) (s : Text) : Option Text :=
  match fuel, s with
  | _, [] => some []
  | 0, _ => none
  | fuel + 1, '\\' :: e :: s =>
    match escape? e with
    | some c => (unescape? fuel s).map (c :: ·)
    | none => do
      let (n, r) ← Quotation.hexDigits? (← Quotation.hexWidth? e) 0 s
      return Char.ofNat n :: (← unescape? fuel r)
  | fuel + 1, c :: s => (unescape? fuel s).map (c :: ·)

def doubleQuoted? (s : Text) : Option (Text × Text) := do
  let (body, rest) ← Quotation.scanLine? '"' s
  return (← unescape? body.length body, rest)

/-- The quoted text at the head, and the rest. -/
def quoted? (s : Text) : Option (Text × Text) :=
  match s with
  | '\'' :: r => singleQuoted? r
  | '"' :: r => doubleQuoted? r
  | _ => none

def isQuote (c : Char) : Bool := c == '\'' || c == '"'

/-- Does a colon with this behind it end a key? -/
def endsKey (inBrackets : Bool) (rest : Text) : Bool :=
  match rest with
  | [] => true
  | c :: _ => isSpace c || (inBrackets && ",[]\x7b\x7d".toList.contains c)

/-- The scalar without quotes at the head, and the rest: up to a colon that ends a key, a comment,
or, in brackets, a mark of these. `before` is the last character read. -/
def plain (inBrackets : Bool) (before : Char) : Text → Text × Text
  | [] => ([], [])
  | c :: s =>
    if c = ':' ∧ endsKey inBrackets s then ([], c :: s)
    else if c = '#' ∧ isSpace before then ([], c :: s)
    else if inBrackets ∧ ",[]\x7b\x7d".toList.contains c then ([], c :: s)
    else (c :: (plain inBrackets c s).1, (plain inBrackets c s).2)

/-- May a scalar without quotes begin with this character? -/
def mayBegin (c : Char) : Bool := !"%@&*!|>,]\x7d".toList.contains c && c.toNat != 96

mutual

/-- The value at the head of a text in brackets, and the rest. -/
def flow? : (fuel : Nat) → Text → Option (Value × Text)
  | 0, _ => none
  | n + 1, s =>
    match dropSpaces s with
    | [] => none
    | c :: r =>
      if c = '[' then flowList? n [] r
      else if c = '\x7b' then flowEntries? n [] r
      else if isQuote c then (quoted? (c :: r)).map fun p => (.text p.1, p.2)
      else if mayBegin c then
        let p := plain true ' ' (c :: r)
        some (scalar (trimSpaces p.1), p.2)
      else none

/-- The members of a list up to its closing bracket. -/
def flowList? : (fuel : Nat) → List Value → Text → Option (Value × Text)
  | 0, _, _ => none
  | n + 1, vs, s =>
    match dropSpaces s with
    | ']' :: r => some (.list vs, r)
    | s => do
      let (v, r) ← flow? n s
      match dropSpaces r with
      | ',' :: r => flowList? n (vs ++ [v]) r
      | ']' :: r => return (.list (vs ++ [v]), r)
      | _ => none

/-- The entries of a mapping up to its closing brace. -/
def flowEntries? : (fuel : Nat) → List (Value × Value) → Text → Option (Value × Text)
  | 0, _, _ => none
  | n + 1, es, s =>
    match dropSpaces s with
    | '\x7d' :: r => some (.dict es, r)
    | s => do
      let (k, r) ← flow? n s
      let (v, r) ← flowValue? n (dropSpaces r)
      if !k.isHashable then none
      else match dropSpaces r with
        | ',' :: r => flowEntries? n (Value.put es k v) r
        | '\x7d' :: r => return (.dict (Value.put es k v), r)
        | _ => none

/-- The value behind a key; none if there is no colon or nothing behind it. -/
def flowValue? : (fuel : Nat) → Text → Option (Value × Text)
  | 0, _ => none
  | n + 1, ':' :: r =>
    match dropSpaces r with
    | ',' :: r => some (.none, ',' :: r)
    | '\x7d' :: r => some (.none, '\x7d' :: r)
    | r => flow? n r
  | _ + 1, r => some (.none, r)

end

/-- Is nothing left but blanks and a comment? -/
def isEnd (s : Text) : Bool :=
  match dropSpaces s with
  | [] => true
  | '#' :: _ => true
  | _ => false

/-- The mark of a block of lines; a block without lines is the empty text. -/
def isBlockMark (s : Text) : Bool :=
  ["|".toList, ">".toList, "|-".toList, ">-".toList, "|+".toList, ">+".toList].contains
    (trimSpaces s)

/-- The value that a line, or the rest of it behind a key, holds. -/
def lineValue? (s : Text) : Option Value :=
  match dropSpaces s with
  | [] => some .none
  | c :: r =>
    if c = '#' then some .none
    else if isBlockMark (c :: r) then some (.text [])
    else if c = '[' ∨ c = '\x7b' then do
      let (v, rest) ← flow? (2 * r.length + 4) (c :: r)
      if isEnd rest then return v else none
    else if isQuote c then do
      let (t, rest) ← quoted? (c :: r)
      if isEnd rest then return .text t else none
    else if mayBegin c then
      let p := plain false ' ' (c :: r)
      if isEnd p.2 then some (scalar (trimSpaces p.1)) else none
    else none

/-- The key of a line and what follows its colon. -/
def key? (s : Text) : Option (Value × Text) :=
  match s with
  | [] => none
  | c :: r =>
    if isQuote c then
      match quoted? (c :: r) with
      | some (t, rest) =>
        match dropSpaces rest with
        | ':' :: rest => if endsKey false rest then some (.text t, rest) else none
        | _ => none
      | none => none
    else if mayBegin c ∧ c ≠ '[' ∧ c ≠ '\x7b' then
      match plain false ' ' (c :: r) with
      | (k, ':' :: rest) => some (scalar (trimSpaces k), rest)
      | _ => none
    else none

/-- The lines of a text without their ends. -/
def lines : Text → List Text
  | [] => [[]]
  | '\r' :: '\n' :: s => [] :: lines s
  | c :: s => if c = '\n' ∨ c = '\r' then [] :: lines s else (lines s).modifyHead (c :: ·)

/-- What follows the mark that opens a document. -/
def opened? (l : Text) : Option Text :=
  match Text.after? "---".toList l with
  | some [] => some []
  | some (c :: r) => if isSpace c then some r else none
  | none => none

/-- Is this line the mark that closes a document? -/
def isClosing (l : Text) : Bool :=
  match Text.after? "...".toList l with
  | some r => isEnd r
  | none => false

/-- The lines that hold something, from behind the opening mark, if there is one, up to the closing
mark; none if a second document follows. -/
def document? (ls : List Text) : Option (List Text) :=
  let ls := ls.filter fun l => !isEnd l
  let held :=
    match ls with
    | [] => []
    | l :: ls =>
      match opened? l with
      | some r => if isEnd r then ls else r :: ls
      | none => l :: ls
  let p := held.span fun l => !isClosing l
  if p.1.any (fun l => (opened? l).isSome) || !p.2.all isClosing then none else some p.1

/-- What follows the mark of a list on a line. -/
def listItem? (l : Text) : Option Text :=
  match l with
  | ['-'] => some []
  | '-' :: c :: r => if isSpace c then some r else none
  | _ => none

/-- An entry on a line of its own. -/
def entryLine? (l : Text) : Option (Value × Value) := do
  let (k, rest) ← key? l
  return (k, ← lineValue? rest)

/-- Lines joined by single spaces. -/
def folded (ls : List Text) : Text := Text.join [' '] (ls.map trimSpaces)

/-- The value of a document, if it is of the kinds read here. -/
def value? (ls : List Text) : Option Value :=
  match ls with
  | [] => some .none
  | l :: _ =>
    if (listItem? l).isSome then do
      let vs ← ls.mapM fun l => (listItem? l).bind lineValue?
      return .list vs
    else if (key? (dropSpaces l)).isSome then do
      let es ← ls.mapM entryLine?
      return .dict (Value.putAll [] es)
    else lineValue? (folded ls)

/-- The value of a file; the mark of byte order in front of it is passed over. -/
def read? (s : Text) : Option Value :=
  (document? (lines (s.dropWhile fun c => c.toNat == 0xfeff))).bind value?

end Stencil.Settings
