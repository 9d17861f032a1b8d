import MakopaVerified.Admission.Manifest
import MakopaVerified.Foundation.Decimal
import MakopaVerified.Foundation.Lines

/-!
# The text of a source manifest

The one spelling of a manifest, and the values that have one: the grammar of the source manifest in the
decision on the console contract, apart from the parser.
-/

namespace MakopaVerified.Admission

open Foundation

/-! ## The spelling -/

def printMode (mode : UInt32) : List UInt8 :=
  if mode = regularMode then ascii "100644" else ascii "100755"

def SourceEntry.print (entry : SourceEntry) : List UInt8 :=
  printMode entry.mode ++ 0x20 :: (decimalText entry.length.toNat ++
    0x20 :: (encodeHex entry.sha256 ++ 0x20 :: entry.path))

def SourceManifest.lines (manifest : SourceManifest) : List (List UInt8) :=
  ascii "schema=makopa-source-manifest-v1" ::
  ascii "repository=git+https://github.com/xsparc/MakopaOS" ::
  (ascii "tree-path=" ++ manifest.treePath) ::
  (ascii "git-tree-sha1=" ++ encodeHex manifest.gitTreeSha1) ::
  (ascii "file-count=" ++ decimalText manifest.entries.length) ::
  manifest.entries.map SourceEntry.print

def SourceManifest.print (manifest : SourceManifest) : List UInt8 := joinLines 0x0a manifest.lines

/-! ## The values -/

/-- The rules for a path. Without an empty component it has no leading, trailing or repeated slash. -/
structure ValidPath (path : List UInt8) : Prop where
  length_pos : 1 ≤ path.length
  length_le : path.length ≤ 128
  bytes : ∀ byte ∈ path, isPathByte byte = true
  parts : ∀ part ∈ path.splitOn 0x2f, part ≠ [] ∧ part ≠ ascii "." ∧ part ≠ ascii ".."

/-- The path is that of the directory, followed by a slash and more. -/
def InDirectory (directory path : List UInt8) : Prop := directory ++ [0x2f] <+: path

instance (directory path : List UInt8) : Decidable (InDirectory directory path) :=
  inferInstanceAs (Decidable (_ <+: _))

/-- The paths of the entries grow. -/
def Increasing (entries : List SourceEntry) : Prop :=
  entries.Pairwise fun first second => bytesLt first.path second.path = true

/-- No path of an entry is that of another, or of a directory of it. -/
def DirectoryFree (entries : List SourceEntry) : Prop :=
  entries.Pairwise fun first second => first.path ≠ second.path ∧
    ¬ InDirectory first.path second.path ∧ ¬ InDirectory second.path first.path

structure SourceEntry.Valid (entry : SourceEntry) : Prop where
  mode : entry.mode = regularMode ∨ entry.mode = executableMode
  length : entry.length.toNat ≤ maxSourceFileBytes
  sha256 : entry.sha256.length = 32
  path : ValidPath entry.path

def aggregateLength (entries : List SourceEntry) : Nat :=
  (entries.map fun entry => entry.length.toNat).sum

structure SourceManifest.Valid (manifest : SourceManifest) : Prop where
  treePath : ValidPath manifest.treePath
  gitTreeSha1 : manifest.gitTreeSha1.length = 20
  count_pos : 1 ≤ manifest.entries.length
  count_le : manifest.entries.length ≤ maxSourceFiles
  entries : ∀ entry ∈ manifest.entries, entry.Valid
  aggregate : aggregateLength manifest.entries ≤ maxSourceBytes
  size : manifest.print.length ≤ maxSourceManifestBytes

/-- An entry may stand right behind another one. -/
def SourceEntry.Follows (prior entry : SourceEntry) : Prop :=
  bytesLt prior.path entry.path = true ∧ ¬ InDirectory prior.path entry.path

end MakopaVerified.Admission
