import Stencil.Text.Basic

/-! # String literals

Reading the body of a literal up to its closing quotes, and the text or the bytes that a body
stands for. -/
namespace Stencil.Quotation

/-- The body up to the closing quote `q` and what follows it. A backslash takes the next character
along; a line end or the end of the text closes nothing. -/
def scanLine? (q : Char) : Text → Option (Text × Text)
  | [] => none
  | c :: s =>
    if c = q then some ([], s)
    else if c = '\n' then none
    else if c = '\\' then
      match s with
      | [] => none
      | d :: s => (scanLine? q s).map fun p => (c :: d :: p.1, p.2)
    else (scanLine? q s).map fun p => (c :: p.1, p.2)

/-- The same for a body that three quotes close; it may run over lines. -/
def scanBlock? (q : Char) : Text → Option (Text × Text)
  | [] => none
  | c :: s =>
    match c == q, s with
    | true, a :: b :: s' =>
      if a = q ∧ b = q then some ([], s')
      else (scanBlock? q (a :: b :: s')).map fun p => (c :: p.1, p.2)
    | _, s =>
      if c = '\\' then
        match s with
        | [] => none
        | d :: s => (scanBlock? q s).map fun p => (c :: d :: p.1, p.2)
      else (scanBlock? q s).map fun p => (c :: p.1, p.2)

/-- The letters that may stand before the opening quote, as small letters. -/
def tags : List Text :=
  ["".toList, "r".toList, "b".toList, "u".toList, "f".toList, "br".toList, "rb".toList,
   "fr".toList, "rf".toList]

def isTag (s : Text) : Bool := tags.contains (s.map Char.toLower)

def hasLetter (l : Char) (tag : Text) : Bool := tag.any fun c => c.toLower == l

def isRaw (tag : Text) : Bool := hasLetter 'r' tag

def isBytes (tag : Text) : Bool := hasLetter 'b' tag

def isTemplate (tag : Text) : Bool := hasLetter 'f' tag

def hexValue? (c : Char) : Option Nat :=
  if c.isDigit then some (c.toNat - 48)
  else if 'a' ≤ c ∧ c ≤ 'f' then some (c.toNat - 87)
  else if 'A' ≤ c ∧ c ≤ 'F' then some (c.toNat - 55)
  else none

/-- The number of exactly `width` hexadecimal digits, and the rest. -/
def hexDigits? : (width : Nat) → (acc : Nat) → Text → Option (Nat × Text)
  | 0, acc, s => some (acc, s)
  | _ + 1, _, [] => none
  | w + 1, acc, c :: s => do hexDigits? w (16 * acc + (← hexValue? c)) s

/-- The number of at most `width` octal digits, and the rest. -/
def octalDigits : (width : Nat) → (acc : Nat) → Text → Nat × Text
  | 0, acc, s => (acc, s)
  | _ + 1, acc, [] => (acc, [])
  | w + 1, acc, c :: s =>
    if '0' ≤ c ∧ c ≤ '7' then octalDigits w (8 * acc + (c.toNat - 48)) s else (acc, c :: s)

/-- The characters that a letter behind a backslash stands for. -/
def simpleEscape? (c : Char) : Option Char :=
  match c with
  | '\\' => some '\\'
  | '\'' => some '\''
  | '"' => some '"'
  | 'a' => some (Char.ofNat 7)
  | 'b' => some (Char.ofNat 8)
  | 'f' => some (Char.ofNat 12)
  | 'n' => some '\n'
  | 'r' => some '\r'
  | 't' => some '\t'
  | 'v' => some (Char.ofNat 11)
  | _ => none

/-- How many hexadecimal digits a letter behind a backslash asks for. -/
def hexWidth? (c : Char) : Option Nat :=
  match c with
  | 'x' => some 2
  | 'u' => some 4
  | 'U' => some 8
  | _ => none

/-- The numeric part of an escape that begins with the octal digit `c`. -/
def octalFrom (c : Char) (s : Text) : Nat × Text := octalDigits 2 (c.toNat - 48) s

theorem hexDigits?_length {w acc n : Nat} {s r : Text} (h : hexDigits? w acc s = some (n, r)) :
    r.length ≤ s.length := by
  induction w generalizing acc s with
  | zero => simp [hexDigits?] at h; simp [h]
  | succ w ih =>
    cases s with
    | nil => simp [hexDigits?] at h
    | cons c s =>
      simp only [hexDigits?] at h
      cases hv : hexValue? c with
      | none => simp [hv] at h
      | some v =>
        simp only [hv] at h
        have := ih h
        simp; omega

theorem octalDigits_length (w acc : Nat) (s : Text) :
    (octalDigits w acc s).2.length ≤ s.length := by
  induction w generalizing acc s with
  | zero => simp [octalDigits]
  | succ w ih =>
    cases s with
    | nil => simp [octalDigits]
    | cons c s =>
      simp only [octalDigits]
      split
      · have := ih (8 * acc + (c.toNat - 48)) s
        simp; omega
      · simp

/-- The text that a body stands for; nothing if an escape is malformed. An unknown escape stands for
itself, backslash included. -/
def text? (s : Text) : Option Text :=
  match s with
  | [] => some []
  | c :: s =>
    if c = '\\' then
      match s with
      | [] => some ['\\']
      | e :: s =>
        if e = '\n' then text? s
        else match simpleEscape? e with
          | some x => (text? s).map (x :: ·)
          | none =>
            match hexWidth? e with
            | some w =>
              match _h : hexDigits? w 0 s with
              | some (n, r) =>
                if n < 0x110000 then (text? r).map (Char.ofNat n :: ·) else none
              | none => none
            | none =>
              if '0' ≤ e ∧ e ≤ '7' then
                (text? (octalFrom e s).2).map (Char.ofNat (octalFrom e s).1 :: ·)
              else if e = 'N' then none
              else (text? s).map ('\\' :: e :: ·)
    else (text? s).map (c :: ·)
termination_by s.length
decreasing_by
  · simp only [List.length_cons]; omega
  · simp only [List.length_cons]; omega
  · have := hexDigits?_length _h
    simp only [List.length_cons]; omega
  · have := octalDigits_length 2 (e.toNat - 48) s
    simp only [octalFrom, List.length_cons]; omega
  · simp only [List.length_cons]; omega
  · simp only [List.length_cons]; omega

/-- The bytes that a body stands for; nothing if an escape is malformed or a character is not
ASCII. -/
def bytes? (s : Text) : Option (List UInt8) :=
  match s with
  | [] => some []
  | c :: s =>
    if 128 ≤ c.toNat then none
    else if c = '\\' then
      match s with
      | [] => some [92]
      | e :: s =>
        if 128 ≤ e.toNat then none
        else if e = '\n' then bytes? s
        else match simpleEscape? e with
          | some x => (bytes? s).map (UInt8.ofNat x.toNat :: ·)
          | none =>
            if e = 'x' then
              match _h : hexDigits? 2 0 s with
              | some (n, r) => (bytes? r).map (UInt8.ofNat n :: ·)
              | none => none
            else if '0' ≤ e ∧ e ≤ '7' then
              (bytes? (octalFrom e s).2).map (UInt8.ofNat (octalFrom e s).1 :: ·)
            else (bytes? s).map fun r => 92 :: UInt8.ofNat e.toNat :: r
    else (bytes? s).map (UInt8.ofNat c.toNat :: ·)
termination_by s.length
decreasing_by
  · simp only [List.length_cons]; omega
  · simp only [List.length_cons]; omega
  · have := hexDigits?_length _h
    simp only [List.length_cons]; omega
  · have := octalDigits_length 2 (e.toNat - 48) s
    simp only [octalFrom, List.length_cons]; omega
  · simp only [List.length_cons]; omega
  · simp only [List.length_cons]; omega

/-- The text of a literal with this tag and body. -/
def textOf? (tag body : Text) : Option Text :=
  if isRaw tag then some body else text? body

/-- The bytes of a literal with this tag and body. -/
def bytesOf? (tag body : Text) : Option (List UInt8) :=
  if isRaw tag then
    if body.all fun c => c.toNat < 128 then some (body.map fun c => UInt8.ofNat c.toNat) else none
  else bytes? body

end Stencil.Quotation
