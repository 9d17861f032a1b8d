import MakopaVerified.Admission.Records
import MakopaVerified.Foundation.Words

/-!
# The source manifest

`SourceManifestV1`: a text of five header lines and one line for each source file. The iterator over
the lines is the list of the lines that are left.
-/

namespace MakopaVerified.Admission

open Foundation

/-- `0o100644`. -/
def regularMode : UInt32 := 33188

/-- `0o100755`. -/
def executableMode : UInt32 := 33261

structure SourceEntry where
  mode : UInt32
  length : UInt64
  sha256 : List UInt8
  path : List UInt8
  deriving DecidableEq, Repr

structure SourceManifest where
  treePath : List UInt8
  gitTreeSha1 : List UInt8
  entries : List SourceEntry
  deriving DecidableEq, Repr

/-- The bytes that a path may have. -/
def isPathByte (byte : UInt8) : Bool :=
  isAsciiAlphabetic byte || isAsciiDigit byte || byte = 0x2e || byte = 0x5f || byte = 0x2d || byte = 0x2f

/-- `validate_path`. -/
def validatePath (path : List UInt8) : Except AdmissionError Unit :=
  rejectIf (path = []
    ∨ path.length > 128
    ∨ startsWith path (ascii "/")
    ∨ path.getLast? = some 0x2f
    ∨ hasPart path (ascii "//")
    ∨ path.contains 0x5c
    ∨ ((path.splitOn 0x2f).any fun part => part = [] || part = ascii "." || part = ascii "..")
    ∨ path.any fun byte => !isPathByte byte) .manifest

/-- `text.parse::<u64>()` on digits. -/
def parseDigits (value : Nat) : List UInt8 → Except AdmissionError UInt64
  | [] => pure (UInt64.ofNat value)
  | digit :: digits => do
    let value := value * 10 + (digit.toNat - 0x30)
    rejectIf (¬ value < 2 ^ 64) .manifest
    parseDigits value digits

/-- `parse_canonical_decimal`. -/
def parseCanonicalDecimal (text : List UInt8) : Except AdmissionError UInt64 := do
  rejectIf (text = [] ∨ text.all isAsciiDigit = false ∨
    (text.length > 1 ∧ startsWith text (ascii "0"))) .manifest
  parseDigits 0 text

/-- `hex_nibble`. -/
def hexNibble (byte : UInt8) : Except AdmissionError UInt8 :=
  if isAsciiDigit byte then .ok (byte - 0x30)
  else if 0x61 ≤ byte ∧ byte ≤ 0x66 then .ok (byte - 0x61 + 10)
  else .error .manifest

/-- The loop of `decode_hex_array`. -/
def decodeHexPairs : List UInt8 → Except AdmissionError (List UInt8)
  | high :: low :: rest => do
    let high ← hexNibble high
    let low ← hexNibble low
    let bytes ← decodeHexPairs rest
    pure ((high <<< 4 ||| low) :: bytes)
  | _ => pure []

/-- `decode_hex_array::<count>`. -/
def decodeHexArray (count : Nat) (text : List UInt8) : Except AdmissionError (List UInt8) := do
  rejectIf (text.length ≠ count * 2 ∨
    (text.all fun byte => isAsciiDigit byte || (0x61 ≤ byte && byte ≤ 0x66)) = false) .manifest
  decodeHexPairs text

/-- `HEX`. -/
def hexDigit (nibble : UInt8) : UInt8 := if nibble < 10 then nibble + 0x30 else nibble - 10 + 0x61

/-- `encode_hex`. -/
def encodeHex (bytes : List UInt8) : List UInt8 :=
  bytes.flatMap fun (byte : UInt8) => [hexDigit (byte >>> 4), hexDigit (byte &&& 0xf)]

/-- `exact_line`. -/
def exactLine (actual : Option (List UInt8)) (expected : List UInt8) : Except AdmissionError Unit :=
  rejectIf (actual ≠ some expected) .manifest

/-- `value_line`. -/
def valueLine (actual : Option (List UInt8)) (start : List UInt8) : Except AdmissionError (List UInt8) :=
  okOr ((actual.bind (dropStart · start)).filter (· ≠ [])) .manifest

/-- The match on the mode of an entry line. -/
def parseMode (text : List UInt8) : Except AdmissionError UInt32 :=
  if text = ascii "100644" then .ok regularMode
  else if text = ascii "100755" then .ok executableMode
  else .error .manifest

/-- A path may not follow `prior`: it is not larger, or it lies in a directory of that name. -/
def pathRefused (prior path : List UInt8) : Bool :=
  !bytesLt prior path || (dropStart path prior).any (startsWith · (ascii "/"))

/-- The loop over the entry lines, with the entries so far and the sum of their lengths. -/
def parseEntries (entries : List SourceEntry) (aggregate : UInt64) :
    List (List UInt8) → Except AdmissionError (List SourceEntry)
  | [] => pure entries
  | line :: lines => do
    let fields := splitN 0x20 4 line
    let modeText ← okOr fields[0]? .manifest
    let lengthText ← okOr fields[1]? .manifest
    let digestText ← okOr fields[2]? .manifest
    let path ← okOr fields[3]? .manifest
    rejectIf (fields[4]?.isSome) .manifest
    let mode ← parseMode modeText
    let length ← parseCanonicalDecimal lengthText
    rejectIf (length.toNat > maxSourceFileBytes) .manifest
    let aggregate ← okOr (checkedAdd aggregate length) .manifest
    rejectIf (aggregate.toNat > maxSourceBytes) .manifest
    validatePath path
    rejectIf (entries.getLast?.any fun prior => pathRefused prior.path path) .manifest
    let sha256 ← decodeHexArray 32 digestText
    parseEntries (entries ++ [{ mode, length, sha256, path }]) aggregate lines

/-- `SourceManifestV1::parse`. -/
def SourceManifest.parse (bytes : List UInt8) : Except AdmissionError SourceManifest := do
  rejectIf (bytes = []
    ∨ bytes.length > maxSourceManifestBytes
    ∨ isAscii bytes = false
    ∨ bytes.getLast? ≠ some 0x0a
    ∨ bytes.contains 0x0d
    ∨ bytes.contains 0
    ∨ [0x0a, 0x0a].isSuffixOf bytes) .manifest
  rejectIf (isUtf8 bytes = false) .utf8
  let lines := splitLines bytes.dropLast
  exactLine lines[0]? (ascii "schema=makopa-source-manifest-v1")
  exactLine lines[1]? (ascii "repository=git+https://github.com/xsparc/MakopaOS")
  let treePath ← valueLine lines[2]? (ascii "tree-path=")
  validatePath treePath
  let treeHex ← valueLine lines[3]? (ascii "git-tree-sha1=")
  let gitTreeSha1 ← decodeHexArray 20 treeHex
  let countText ← valueLine lines[4]? (ascii "file-count=")
  let fileCount ← parseCanonicalDecimal countText
  rejectIf (fileCount = 0 ∨ fileCount.toNat > maxSourceFiles) .manifest
  let entries ← parseEntries [] 0 (lines.drop 5)
  rejectIf (entries.length ≠ fileCount.toNat) .manifest
  pure { treePath, gitTreeSha1, entries }

end MakopaVerified.Admission
