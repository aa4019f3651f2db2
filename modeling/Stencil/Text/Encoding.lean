import Stencil.Text.Encoding.Pages
import Stencil.Text.Quoted
import Stencil.Expr.Quotation

/-! # Encodings of texts

An encoding writes characters as bytes and reads them back. What it cannot write or read is left to
a handler. -/
namespace Stencil.Text

/-- Which byte of a unit comes first. -/
inductive ByteOrder | little | big
  deriving DecidableEq

/-- An encoding; one without an order of bytes writes a mark of it first. -/
inductive Encoding
  | ascii
  | latin
  | page (p : CodePage)
  | utf8 (marked : Bool)
  | utf16 (order : Option ByteOrder)
  | utf32 (order : Option ByteOrder)
  | escapes (all : Bool)

namespace Encoding

/-! ## Names -/

/-- Small letters and digits; anything else between them becomes one low line. `gap` says that there
was something else. -/
def normalName (gap started : Bool) : Text → Text
  | [] => []
  | c :: s =>
    if c.isAlphanum || c == '.' then
      let r := c.toLower :: normalName false true s
      if gap && started then '_' :: r else r
    else normalName true started s

def named : List (List String × Encoding) :=
  [(["ascii", "646", "ansi_x3.4_1968", "ansi_x3_4_1968", "ansi_x3.4_1986", "cp367", "csascii",
     "ibm367", "iso646_us", "iso_646.irv_1991", "iso_ir_6", "us", "us_ascii"], .ascii),
   (["latin_1", "8859", "cp819", "csisolatin1", "ibm819", "iso8859", "iso8859_1", "iso_8859_1",
     "iso_8859_1_1987", "iso_ir_100", "l1", "latin", "latin1"], .latin),
   (["utf_8", "u8", "utf", "utf8", "utf8_ucs2", "utf8_ucs4", "cp65001"], .utf8 false),
   (["utf_8_sig"], .utf8 true),
   (["utf_16", "u16", "utf16"], .utf16 none),
   (["utf_16_le", "unicodelittleunmarked", "utf_16le"], .utf16 (some .little)),
   (["utf_16_be", "unicodebigunmarked", "utf_16be"], .utf16 (some .big)),
   (["utf_32", "u32", "utf32"], .utf32 none),
   (["utf_32_le", "utf_32le"], .utf32 (some .little)),
   (["utf_32_be", "utf_32be"], .utf32 (some .big)),
   (["unicode_escape"], .escapes true),
   (["raw_unicode_escape"], .escapes false)]

/-- The encoding of a name. -/
def ofName? (name : Text) : Option Encoding :=
  let n := String.ofList (normalName false false name)
  match named.find? fun e => e.1.contains n with
  | some e => some e.2
  | none => (CodePage.all.find? fun p => p.names.contains n).map page

/-! ## Units -/

/-- The `count` bytes of a number in an order. -/
def unitBytes (order : ByteOrder) (count n : Nat) : List UInt8 :=
  let little := (List.range count).map fun i => UInt8.ofNat (n / Nat.pow 256 i)
  match order with
  | .little => little
  | .big => little.reverse

/-- The number that bytes write in an order. -/
def unitValue (order : ByteOrder) (bs : List UInt8) : Nat :=
  let big := match order with
    | .little => bs.reverse
    | .big => bs
  big.foldl (fun n b => 256 * n + b.toNat) 0

/-- The mark of the order of bytes. -/
def orderMark : Nat := 0xfeff

/-- One or two units of sixteen bits. -/
def units16 (n : Nat) : List Nat :=
  if n < 0x10000 then [n]
  else [0xd800 + (n - 0x10000) / 0x400, 0xdc00 + (n - 0x10000) % 0x400]

def utf8Bytes (c : Char) : List UInt8 := (String.ofList [c]).toUTF8.data.toList

/-! ## Writing -/

/-- The place of a character on a page, the last one if there are more. -/
def pageByte? (p : CodePage) (c : Char) : Option UInt8 :=
  let cs := p.characters.toList
  let first := 256 - cs.length
  if c.toNat < first then some (UInt8.ofNat c.toNat)
  else if c.toNat = 0xfffe then none
  else (cs.reverse.findIdx? (· == c)).map fun i => UInt8.ofNat (255 - i)

/-- A character as an escape, unless it is printed as it is. -/
def escapeBytes (all : Bool) (c : Char) : List UInt8 :=
  let written : Text :=
    if all then
      if c = '\\' then ['\\', '\\']
      else if c = '\t' then ['\\', 't']
      else if c = '\n' then ['\\', 'n']
      else if c = '\r' then ['\\', 'r']
      else if 32 ≤ c.toNat ∧ c.toNat < 127 then [c]
      else Quoted.numericEscape c.toNat
    else if c.toNat < 256 then [c]
    else Quoted.numericEscape c.toNat
  written.map fun d => UInt8.ofNat d.toNat

/-- The bytes of a character, if the encoding has it. -/
def charBytes? (e : Encoding) (c : Char) : Option (List UInt8) :=
  match e with
  | ascii => if c.toNat < 128 then some [UInt8.ofNat c.toNat] else none
  | latin => if c.toNat < 256 then some [UInt8.ofNat c.toNat] else none
  | page p => (pageByte? p c).map fun b => [b]
  | utf8 _ => some (utf8Bytes c)
  | utf16 order => some ((units16 c.toNat).flatMap (unitBytes (order.getD .little) 2))
  | utf32 order => some (unitBytes (order.getD .little) 4 c.toNat)
  | escapes all => some (escapeBytes all c)

/-- What stands in front of the first character. -/
def markBytes (e : Encoding) : List UInt8 :=
  match e with
  | utf8 true => utf8Bytes (Char.ofNat orderMark)
  | utf16 none => unitBytes .little 2 orderMark
  | utf32 none => unitBytes .little 4 orderMark
  | _ => []

/-- What happens to what cannot be written or read. -/
inductive Handler | refuse | drop | replace | escape | reference
  deriving DecidableEq

def handlerOf? (name : Text) : Option Handler :=
  match String.ofList name with
  | "strict" | "surrogateescape" | "surrogatepass" => some .refuse
  | "ignore" => some .drop
  | "replace" => some .replace
  | "backslashreplace" => some .escape
  | "xmlcharrefreplace" => some .reference
  | _ => none

/-- Why a text cannot be written, or bytes cannot be read. -/
inductive Fault | refused | unknownHandler | unfitHandler
  deriving DecidableEq

/-- The text that a handler writes in place of a character. -/
def substitute? (h : Handler) (c : Char) : Option Text :=
  match h with
  | .refuse => none
  | .drop => some []
  | .replace => some ['?']
  | .escape => some (Quoted.numericEscape c.toNat)
  | .reference => some ('&' :: '#' :: digits 10 c.toNat ++ [';'])

/-- The bytes of a text; a handler is looked for when it is needed. -/
def encodeAll (e : Encoding) (handler : Text) : Text → Except Fault (List UInt8)
  | [] => .ok []
  | c :: s =>
    match e.charBytes? c with
    | some bs => (encodeAll e handler s).map (bs ++ ·)
    | none =>
      match handlerOf? handler with
      | none => .error .unknownHandler
      | some h =>
        match (substitute? h c).bind fun t => t.mapM e.charBytes? with
        | some bs => (encodeAll e handler s).map (bs.flatten ++ ·)
        | none => .error .refused

def encode (e : Encoding) (handler s : Text) : Except Fault (List UInt8) :=
  (encodeAll e handler s).map (e.markBytes ++ ·)

/-! ## Reading -/

/-- The first character of some bytes and how many of them it takes, or how many bytes there are no
sign of a character. -/
inductive Reading
  | char (c : Char) (count : Nat)
  | nothing (count : Nat)
  | bad (count : Nat)

/-- How many bytes follow the first one of a character, what its bits add, and what the second byte
lies between. -/
def utf8Lead? (b : Nat) : Option (Nat × Nat × Nat × Nat) :=
  if 0xc2 ≤ b ∧ b ≤ 0xdf then some (1, b - 0xc0, 0x80, 0xbf)
  else if b = 0xe0 then some (2, 0, 0xa0, 0xbf)
  else if b = 0xed then some (2, 0xd, 0x80, 0x9f)
  else if 0xe1 ≤ b ∧ b ≤ 0xef then some (2, b - 0xe0, 0x80, 0xbf)
  else if b = 0xf0 then some (3, 0, 0x90, 0xbf)
  else if b = 0xf4 then some (3, 4, 0x80, 0x8f)
  else if 0xf1 ≤ b ∧ b ≤ 0xf3 then some (3, b - 0xf0, 0x80, 0xbf)
  else none

/-- The bytes behind the first one: `count` more are missing, the next lies between the bounds. -/
def utf8Tail (value taken low high : Nat) : (count : Nat) → List UInt8 → Reading
  | 0, _ => .char (Char.ofNat value) taken
  | _ + 1, [] => .bad taken
  | count + 1, b :: bs =>
    if low ≤ b.toNat ∧ b.toNat ≤ high then
      utf8Tail (64 * value + (b.toNat - 0x80)) (taken + 1) 0x80 0xbf count bs
    else .bad taken

def readUtf8 (b : UInt8) (bs : List UInt8) : Reading :=
  if b < 0x80 then .char (Char.ofNat b.toNat) 1
  else match utf8Lead? b.toNat with
    | some (count, value, low, high) => utf8Tail value 1 low high count bs
    | none => .bad 1

def readUtf16 (order : ByteOrder) (bs : List UInt8) : Reading :=
  if bs.length < 2 then .bad bs.length
  else
    let n := unitValue order (bs.take 2)
    if n < 0xd800 ∨ 0xe000 ≤ n then .char (Char.ofNat n) 2
    else if 0xdc00 ≤ n then .bad 2
    else if bs.length < 4 then .bad bs.length
    else
      let m := unitValue order ((bs.drop 2).take 2)
      if 0xdc00 ≤ m ∧ m < 0xe000 then
        .char (Char.ofNat (0x10000 + (n - 0xd800) * 0x400 + (m - 0xdc00))) 4
      else .bad 2

def readUtf32 (order : ByteOrder) (bs : List UInt8) : Reading :=
  if bs.length < 4 then .bad bs.length
  else
    let n := unitValue order (bs.take 4)
    if n < 0xd800 ∨ (0xe000 ≤ n ∧ n < 0x110000) then .char (Char.ofNat n) 4 else .bad 4

def readPage (p : CodePage) (b : UInt8) : Reading :=
  let cs := p.characters.toList
  let first := 256 - cs.length
  if b.toNat < first then .char (Char.ofNat b.toNat) 1
  else match cs[b.toNat - first]? with
    | some c => if c.toNat = 0xfffe then .bad 1 else .char c 1
    | none => .bad 1

/-- How many bytes a faulty numeric escape covers. -/
def digitRun (width : Nat) (s : Text) : Nat :=
  2 + ((s.take width).takeWhile fun c => (Quotation.hexValue? c).isSome).length

/-- An escape of a number with `width` digits. -/
def readNumeric (width : Nat) (s : Text) : Reading :=
  match Quotation.hexDigits? width 0 s with
  | some (n, _) =>
    if n < 0xd800 ∨ (0xe000 ≤ n ∧ n < 0x110000) then .char (Char.ofNat n) (width + 2)
    else .bad (width + 2)
  | none => .bad (digitRun width s)

/-- What stands behind a backslash. -/
def readEscape (all : Bool) (s : Text) : Reading :=
  match s with
  | [] => if all then .bad 1 else .char '\\' 1
  | c :: r =>
    if !all && c != 'u' && c != 'U' then .char '\\' 1
    else match Quotation.hexWidth? c with
      | some w => readNumeric w r
      | none =>
        match Quotation.simpleEscape? c with
        | some d => .char d 2
        | none =>
          if c = '\n' then .nothing 2
          else if '0' ≤ c ∧ c ≤ '7' then
            let p := Quotation.octalFrom c r
            .char (Char.ofNat p.1) (2 + (r.length - p.2.length))
          else .char '\\' 1

/-- The first character of bytes that are not empty. -/
def read (e : Encoding) (b : UInt8) (bs : List UInt8) : Reading :=
  match e with
  | ascii => if b < 0x80 then .char (Char.ofNat b.toNat) 1 else .bad 1
  | latin => .char (Char.ofNat b.toNat) 1
  | page p => readPage p b
  | utf8 _ => readUtf8 b bs
  | utf16 order => readUtf16 (order.getD .little) (b :: bs)
  | utf32 order => readUtf32 (order.getD .little) (b :: bs)
  | escapes all =>
    if b.toNat = 0x5c then readEscape all (bs.map fun b => Char.ofNat b.toNat)
    else .char (Char.ofNat b.toNat) 1

/-- The text that a handler puts in place of bytes. -/
def stead (handler : Text) (bs : List UInt8) : Except Fault Text :=
  match handlerOf? handler with
  | none => .error .unknownHandler
  | some .refuse => .error .refused
  | some .reference => .error .unfitHandler
  | some .drop => .ok []
  | some .replace => .ok [Char.ofNat 0xfffd]
  | some .escape => .ok (bs.flatMap fun b => '\\' :: 'x' :: hex 2 b.toNat)

/-- The text of bytes; a handler is looked for when it is needed. -/
def decodeAll (e : Encoding) (handler : Text) (bs : List UInt8) : Except Fault Text :=
  match bs with
  | [] => .ok []
  | b :: r =>
    match e.read b r with
    | .char c n => (decodeAll e handler (r.drop (n - 1))).map (c :: ·)
    | .nothing n => decodeAll e handler (r.drop (n - 1))
    | .bad n => do
      let t ← stead handler (b :: r.take (n - 1))
      return t ++ (← decodeAll e handler (r.drop (n - 1)))
termination_by bs.length
decreasing_by all_goals simp only [List.length_drop, List.length_cons]; omega

/-- The encoding and the bytes behind a mark of the order of bytes. -/
def unmark (e : Encoding) (bs : List UInt8) : Encoding × List UInt8 :=
  match e with
  | utf8 true =>
    if (utf8Bytes (Char.ofNat orderMark)).isPrefixOf bs then (e, bs.drop 3) else (e, bs)
  | utf16 none =>
    if (unitBytes .little 2 orderMark).isPrefixOf bs then (utf16 (some .little), bs.drop 2)
    else if (unitBytes .big 2 orderMark).isPrefixOf bs then (utf16 (some .big), bs.drop 2)
    else (e, bs)
  | utf32 none =>
    if (unitBytes .little 4 orderMark).isPrefixOf bs then (utf32 (some .little), bs.drop 4)
    else if (unitBytes .big 4 orderMark).isPrefixOf bs then (utf32 (some .big), bs.drop 4)
    else (e, bs)
  | _ => (e, bs)

def decode (e : Encoding) (handler : Text) (bs : List UInt8) : Except Fault Text :=
  let p := e.unmark bs
  decodeAll p.1 handler p.2

end Encoding
end Stencil.Text
