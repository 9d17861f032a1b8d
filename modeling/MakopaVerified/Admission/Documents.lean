import MakopaVerified.Admission.Records

/-!
# The supporting documents

The rules for the texts that a bundle carries as evidence: the target triple, the builder identity, the
documents of `name=value` lines and the command transcript.
-/

namespace MakopaVerified.Admission

open Foundation

/-- `contains_sensitive_evidence`. -/
def containsSensitiveEvidence (bytes : List UInt8) : Bool :=
  let lower := bytes.map toAsciiLowercase
  [ascii "credential", ascii "password", ascii "passwd", ascii "private-key", ascii "private_key",
    ascii "secret=", ascii "signature=", ascii "token="].any (hasPart lower ·)

/-- `validate_target_triple`. -/
def validateTargetTriple (bytes : List UInt8) : Except AdmissionError Unit :=
  rejectIf (bytes = []
    ∨ bytes.length > 96
    ∨ isAscii bytes = false
    ∨ bytes.any fun byte => isAsciiWhitespace byte || !isAsciiGraphic byte) .document

/-- `validate_builder_identity`. -/
def validateBuilderIdentity (bytes : List UInt8) : Except AdmissionError Unit :=
  rejectIf (bytes = []
    ∨ bytes.length > 128
    ∨ isAscii bytes = false
    ∨ (bytes.any fun byte => !isAsciiGraphic byte)
    ∨ containsSensitiveEvidence bytes) .document

/-- `line_text`: the text of a document of lines. -/
def lineText (bytes : List UInt8) : Except AdmissionError (List UInt8) := do
  rejectIf (bytes = []
    ∨ bytes.getLast? ≠ some 0x0a
    ∨ [0x0a, 0x0a].isSuffixOf bytes
    ∨ bytes.contains 0
    ∨ bytes.contains 0x0d) .document
  rejectIf (isUtf8 bytes = false) .utf8
  pure bytes

/-- `line_count`. -/
def lineCount (bytes : List UInt8) : Except AdmissionError Nat := do
  let text ← lineText bytes
  pure ((splitLines text).filter (· ≠ [])).length

/-- The conditions under which a line of `name=value` is refused. -/
def nameValueRefused (line name value : List UInt8) : Bool :=
  name = [] || value = [] || name.contains 0x3d || value.contains 0x3d
    || (line.any fun byte => isAsciiWhitespace byte || !isAsciiGraphic byte)
    || hasPart value (ascii ":\\")
    || startsWith value (ascii "/")
    || startsWith value (ascii "\\\\")
    || containsSensitiveEvidence line

/-- The loop of `validate_name_value_document_counted`: `prior` is the last line and `count` the number
of lines so far. -/
def nameValueLines (prior : Option (List UInt8)) (count : Nat) :
    List (List UInt8) → Except AdmissionError Nat
  | [] => pure count
  | line :: lines =>
    if line = [] then nameValueLines prior count lines
    else do
      let (name, value) ← okOr (splitOnce 0x3d line) .document
      rejectIf (nameValueRefused line name value) .document
      rejectIf (prior.any fun previous => !bytesLt previous line) .document
      rejectIf (¬ count + 1 < 2 ^ 32) .document
      nameValueLines (some line) (count + 1) lines

/-- `validate_name_value_document_counted`. -/
def validateNameValueDocumentCounted (bytes : List UInt8) (expectedCount : UInt32) :
    Except AdmissionError Unit := do
  let text ← lineText bytes
  let count ← nameValueLines none 0 (splitLines text)
  rejectIf (count ≠ expectedCount.toNat) .document

/-- `validate_name_value_document`. -/
def validateNameValueDocument (bytes : List UInt8) : Except AdmissionError Unit := do
  let count ← lineCount bytes
  validateNameValueDocumentCounted bytes (UInt32.ofNat count)

/-- A drive letter with a slash, anywhere in the text. -/
def hasDrivePath : List UInt8 → Bool
  | a :: b :: c :: rest =>
    (isAsciiAlphabetic a && b = 0x3a && (c = 0x2f || c = 0x5c)) || hasDrivePath (b :: c :: rest)
  | _ => false

/-- The characters that a token is trimmed of. -/
def tokenQuotes : List UInt8 := ascii "'\"()[]\x7b\x7d,"

/-- `contains_machine_local_path`. -/
def containsMachineLocalPath (line : List UInt8) : Bool :=
  if hasPart line (ascii "\\\\") || hasPart line (ascii "file://") then true
  else if hasDrivePath line then true
  else
    (splitAsciiWhitespace line).any fun token =>
      let candidate := trimMatches tokenQuotes token
      startsWith candidate (ascii "/")
        || (splitOnce 0x3d candidate).any fun parts => startsWith parts.2 (ascii "/")

/-- The loop of `validate_line_document`. -/
def transcriptLines (count : Nat) : List (List UInt8) → Except AdmissionError Nat
  | [] => pure count
  | line :: lines => do
    rejectIf (containsMachineLocalPath line || containsSensitiveEvidence line) .document
    transcriptLines (count + 1) lines

/-- `validate_line_document`. -/
def validateLineDocument (bytes : List UInt8) (expectedCount : UInt32) :
    Except AdmissionError Unit := do
  let text ← lineText bytes
  let count ← transcriptLines 0 ((splitLines text).filter (· ≠ []))
  rejectIf (count ≠ expectedCount.toNat) .document

end MakopaVerified.Admission
