import MakopaVerified.Admission.Documents
import MakopaVerified.Foundation.Lines

/-!
# What the supporting documents should be

The line grammar of the configuration, tool-version and transcript documents, and the machine-local
paths that none of them may name, as statements about texts and apart from the functions that screen
them.
-/

namespace MakopaVerified.Admission

open Foundation

/-! ## The grammar -/

/-- A line `name=value`: visible ASCII characters, with one `=` among them that neither begins nor ends
the line. -/
def NameValueLine (line : List UInt8) : Prop :=
  ∃ name value, line = name ++ 0x3d :: value ∧ name ≠ [] ∧ value ≠ [] ∧
    (∀ byte ∈ name, isAsciiGraphic byte = true ∧ byte ≠ 0x3d) ∧
    ∀ byte ∈ value, isAsciiGraphic byte = true ∧ byte ≠ 0x3d

/-- One or more lines `name=value`, sorted and different. -/
def IsConfiguration (bytes : List UInt8) : Prop :=
  ∃ lines, lines ≠ [] ∧ bytes = joinLines 0x0a lines ∧ (∀ line ∈ lines, NameValueLine line) ∧
    lines.Pairwise fun first second => bytesLt first second = true

/-- The same, with as many lines as are declared. -/
def IsToolVersions (count : Nat) (bytes : List UInt8) : Prop :=
  ∃ lines, lines ≠ [] ∧ bytes = joinLines 0x0a lines ∧ (∀ line ∈ lines, NameValueLine line) ∧
    (lines.Pairwise fun first second => bytesLt first second = true) ∧ lines.length = count

/-- As many lines as are declared, none of them empty. -/
def IsTranscript (count : Nat) (bytes : List UInt8) : Prop :=
  ∃ lines, bytes = joinLines 0x0a lines ∧ lines.length = count ∧
    ∀ line ∈ lines, line ≠ [] ∧ 0x0a ∉ line

/-- No line of the text is empty. -/
def NoEmptyLine (bytes : List UInt8) : Prop :=
  ¬ [0x0a] <+: bytes ∧ ¬ [0x0a, 0x0a] <:+: bytes

instance (bytes : List UInt8) : Decidable (NoEmptyLine bytes) :=
  inferInstanceAs (Decidable (¬ [0x0a] <+: bytes ∧ ¬ [0x0a, 0x0a] <:+: bytes))

/-! ## Machine-local paths -/

/-- A drive letter, a colon and this slash. -/
def HasDrive (slash : UInt8) (text : List UInt8) : Prop :=
  ∃ letter, isAsciiAlphabetic letter = true ∧ [letter, 0x3a, slash] <:+: text

/-- The line names a path of the machine: a token of it is absolute, after the quotes around it are
taken off, or a value is, or it has a drive letter, two backslashes or the scheme of a file. -/
def NamesLocalPath (line : List UInt8) : Prop :=
  (∃ token ∈ splitAsciiWhitespace line, [0x2f] <+: trimMatches tokenQuotes token) ∨
    [0x3d, 0x2f] <:+: line ∨ HasDrive 0x2f line ∨ HasDrive 0x5c line ∨
    ascii "\\\\" <:+: line ∨ ascii "file://" <:+: line

/-- No line of the document names a path, and none is one that the screen of the transcript rejects. -/
def FreeOfPaths (bytes : List UInt8) : Prop :=
  ∀ line ∈ splitLines bytes, ¬ NamesLocalPath line ∧ containsMachineLocalPath line = false

/-- An absolute path behind the second `=` of a token, or a later one. -/
def NestedPath (token : List UInt8) : Prop :=
  ∃ option name path, token = option ++ 0x3d :: (name ++ 0x3d :: 0x2f :: path)

/-- A path that the screen of the configuration does not see: in the name, with a drive letter and a
slash, with two backslashes inside the value, or with the scheme of a file. -/
def UnscreenedPath (line : List UInt8) : Prop :=
  ∃ name value, line = name ++ 0x3d :: value ∧
    ([0x2f] <+: name.dropWhile (tokenQuotes.contains ·) ∨ HasDrive 0x5c name ∨
      HasDrive 0x2f name ∨ HasDrive 0x2f value ∨
      ascii "\\\\" <:+: name ∨ ascii "\\\\" <:+: value ∨
      ascii "file://" <:+: name ∨ ascii "file://" <:+: value)

end MakopaVerified.Admission
