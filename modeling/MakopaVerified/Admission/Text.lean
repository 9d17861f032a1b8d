import Mathlib

/-!
# Text as bytes

The functions on `&[u8]` and `&str` of the standard library that the admission checker uses, on lists of
bytes. Every text the checker looks at is searched for ASCII only, so a `&str` is the list of its UTF-8
bytes.
-/

namespace MakopaVerified.Admission

/-- The bytes of an ASCII literal. -/
def ascii (text : String) : List UInt8 := text.toList.map fun c => UInt8.ofNat c.toNat

/-! ## Classes of bytes -/

/-- `[u8]::is_ascii`. -/
def isAscii (bytes : List UInt8) : Bool := bytes.all (· < 0x80)

/-- `u8::is_ascii_whitespace`. -/
def isAsciiWhitespace (byte : UInt8) : Bool :=
  byte = 0x20 || byte = 0x09 || byte = 0x0a || byte = 0x0c || byte = 0x0d

/-- `u8::is_ascii_graphic`. -/
def isAsciiGraphic (byte : UInt8) : Bool := 0x21 ≤ byte && byte ≤ 0x7e

/-- `u8::is_ascii_digit`. -/
def isAsciiDigit (byte : UInt8) : Bool := 0x30 ≤ byte && byte ≤ 0x39

/-- `u8::is_ascii_alphabetic`. -/
def isAsciiAlphabetic (byte : UInt8) : Bool :=
  (0x41 ≤ byte && byte ≤ 0x5a) || (0x61 ≤ byte && byte ≤ 0x7a)

/-- `u8::to_ascii_lowercase`. -/
def toAsciiLowercase (byte : UInt8) : UInt8 :=
  if 0x41 ≤ byte && byte ≤ 0x5a then byte + 0x20 else byte

/-- A byte that continues a character of several bytes. -/
def isContinuation (byte : UInt8) : Bool := 0x80 ≤ byte && byte ≤ 0xbf

/-- The first two bytes of a character of three: no overlong form and no surrogate. -/
def startsThree (a b : UInt8) : Bool :=
  (a = 0xe0 && 0xa0 ≤ b && b ≤ 0xbf) || (a = 0xed && 0x80 ≤ b && b ≤ 0x9f) ||
    (0xe1 ≤ a && a ≤ 0xef && a ≠ 0xed && isContinuation b)

/-- The first two bytes of a character of four: no overlong form and nothing above `U+10FFFF`. -/
def startsFour (a b : UInt8) : Bool :=
  (a = 0xf0 && 0x90 ≤ b && b ≤ 0xbf) || (0xf1 ≤ a && a ≤ 0xf3 && isContinuation b) ||
    (a = 0xf4 && 0x80 ≤ b && b ≤ 0x8f)

/-- `str::from_utf8(bytes).is_ok()`. -/
def isUtf8 : List UInt8 → Bool
  | [] => true
  | [a] => a < 0x80
  | a :: b :: rest =>
    if a < 0x80 then isUtf8 (b :: rest)
    else if 0xc2 ≤ a && a ≤ 0xdf then isContinuation b && isUtf8 rest
    else
      match rest with
      | [] => false
      | c :: rest =>
        if startsThree a b then isContinuation c && isUtf8 rest
        else
          match rest with
          | [] => false
          | d :: rest => startsFour a b && isContinuation c && isContinuation d && isUtf8 rest

/-! ## Parts of a text -/

/-- `text.split('\n')`. -/
def splitLines (text : List UInt8) : List (List UInt8) := text.splitOn 0x0a

/-- `text.split_once(separator)`. -/
def splitOnce (separator : UInt8) : List UInt8 → Option (List UInt8 × List UInt8)
  | [] => none
  | byte :: rest =>
    if byte = separator then some ([], rest)
    else (splitOnce separator rest).map fun parts => (byte :: parts.1, parts.2)

/-- `text.splitn(count, separator)`. -/
def splitN (separator : UInt8) : Nat → List UInt8 → List (List UInt8)
  | 0, _ => []
  | 1, text => [text]
  | count + 2, text =>
    match splitOnce separator text with
    | none => [text]
    | some (first, rest) => first :: splitN separator (count + 1) rest

/-- `text.split_ascii_whitespace()`. -/
def splitAsciiWhitespace (text : List UInt8) : List (List UInt8) :=
  (text.splitOnP isAsciiWhitespace).filter (· ≠ [])

/-- `text.trim_matches(chars)`. -/
def trimMatches (chars : List UInt8) (text : List UInt8) : List UInt8 :=
  ((text.dropWhile (chars.contains ·)).reverse.dropWhile (chars.contains ·)).reverse

/-- `text.starts_with(start)`. -/
def startsWith (text start : List UInt8) : Bool := start.isPrefixOf text

/-- `text.strip_prefix(start)`. -/
def dropStart (text start : List UInt8) : Option (List UInt8) :=
  if startsWith text start then some (text.drop start.length) else none

/-- `text.contains(part)`, and `text.windows(part.len()).any(|window| window == part)`. -/
def hasPart (text part : List UInt8) : Bool := text.tails.any (startsWith · part)

/-- `a < b` on byte strings. -/
def bytesLt : List UInt8 → List UInt8 → Bool
  | _, [] => false
  | [], _ :: _ => true
  | a :: as, b :: bs => a < b || (a = b && bytesLt as bs)

/-- `parts.join("/")`. -/
def joinPath : List (List UInt8) → List UInt8
  | [] => []
  | [part] => part
  | part :: parts => part ++ 0x2f :: joinPath parts

end MakopaVerified.Admission
