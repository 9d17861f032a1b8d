import MakopaVerified.Admission.Manifest
import MakopaVerified.Foundation.Keys

/-!
# The staged source tree

The directory that the manifest is compared with, as a finite tree that does not change while it is
read and of which every directory and file can be opened. A directory is the listing of its children
in the order of their names, which is the order that `collect_source_files` sorts them into.
`BTreeMap<String, SourceEntryV1>` is the list of its entries.
-/

namespace MakopaVerified.Admission

open Foundation

/-- The name of a child of a directory. -/
structure FileName where
  bytes : List UInt8
  nonempty : bytes ≠ []
  noSlash : 0x2f ∉ bytes
  deriving DecidableEq

mutual

/-- What a name stands for. -/
inductive Node where
  | file (permissions : UInt32) (contents : List UInt8)
  | directory (children : Listing)
  | symlink
  | special

inductive Listing where
  | nil
  | cons (name : FileName) (node : Node) (rest : Listing)

end

/-- `file_mode`, on Unix. -/
def fileMode (permissions : UInt32) : UInt32 :=
  if permissions &&& 0o111 = 0 then regularMode else executableMode

/-- The relative path of a file: every component must be UTF-8. -/
def relativePath (path : List FileName) : Except AdmissionError (List UInt8) := do
  rejectIf (path.any fun name => !isUtf8 name.bytes) .sourceInventory
  pure (joinPath (path.map FileName.bytes))

/-- `read_bounded`, on a regular file. -/
def readBounded (contents : List UInt8) (maximum : Nat) : Except AdmissionError (List UInt8) := do
  rejectIf ((contents.take (maximum + 1)).length > maximum) .size
  pure (contents.take (maximum + 1))

/-- What `collect_source_files` does with a regular file. -/
def collectFile (sha256 : List UInt8 → List UInt8) (path : List FileName) (permissions : UInt32)
    (contents : List UInt8) (result : List SourceEntry) : Except AdmissionError (List SourceEntry) := do
  rejectIf (contents.length > maxSourceFileBytes) .sourceInventory
  let relative ← relativePath path
  validatePath relative
  let bytes ← readBounded contents maxSourceFileBytes
  let entry : SourceEntry :=
    { mode := fileMode permissions
      length := UInt64.ofNat bytes.length
      sha256 := sha256 bytes
      path := relative }
  rejectIf ((result.any fun other => other.path = relative) ∨ result.length + 1 > maxSourceFiles)
    .sourceInventory
  pure (result ++ [entry])

mutual

/-- The body of the loop of `collect_source_files`. -/
def collectNode (sha256 : List UInt8 → List UInt8) (path : List FileName) :
    Node → List SourceEntry → Except AdmissionError (List SourceEntry)
  | .symlink, _ => .error .sourceInventory
  | .directory children, result => collectSourceFiles sha256 path children result
  | .special, _ => .error .sourceInventory
  | .file permissions contents, result => collectFile sha256 path permissions contents result

/-- `collect_source_files`. -/
def collectSourceFiles (sha256 : List UInt8 → List UInt8) (path : List FileName) :
    Listing → List SourceEntry → Except AdmissionError (List SourceEntry)
  | .nil, result => pure result
  | .cons name node rest, result => do
    let result ← collectNode sha256 (path ++ [name]) node result
    collectSourceFiles sha256 path rest result

end

/-- The loop over the entries in `verify_staged_root`. -/
def matchEntries (actual : List SourceEntry) : List SourceEntry → Except AdmissionError Unit
  | [] => pure ()
  | entry :: entries => do
    let value ← okOr (actual.find? fun other => other.path = entry.path) .sourceInventory
    rejectIf (value.mode ≠ entry.mode ∨ value.length ≠ entry.length ∨ value.sha256 ≠ entry.sha256)
      .sourceInventory
    matchEntries actual entries

/-- `verify_staged_root`, with nothing at the path if there is no `root`. -/
def SourceManifest.verifyStagedRoot (manifest : SourceManifest) (sha256 : List UInt8 → List UInt8)
    (root : Option Node) : Except AdmissionError Unit :=
  match root with
  | none => .error .io
  | some (.directory children) => do
    let actual ← collectSourceFiles sha256 [] children []
    rejectIf (actual.length ≠ manifest.entries.length) .sourceInventory
    matchEntries actual manifest.entries
  | some _ => .error .sourceInventory

/-! ## What is in a tree -/

mutual

/-- The files below a node: their paths, whether they are executable, and their contents. -/
def Node.files (path : List FileName) : Node → List (List FileName × Bool × List UInt8)
  | .file permissions contents => [(path, permissions &&& 0o111 ≠ 0, contents)]
  | .directory children => children.files path
  | .symlink => []
  | .special => []

def Listing.files (path : List FileName) : Listing → List (List FileName × Bool × List UInt8)
  | .nil => []
  | .cons name node rest => node.files (path ++ [name]) ++ rest.files path

end

mutual

/-- Nothing but files and directories, at any depth. -/
def Node.Plain : Node → Prop
  | .file _ _ => True
  | .directory children => children.Plain
  | .symlink => False
  | .special => False

def Listing.Plain : Listing → Prop
  | .nil => True
  | .cons _ node rest => node.Plain ∧ rest.Plain

end

def Listing.names : Listing → List FileName
  | .nil => []
  | .cons name _ rest => name :: rest.names

mutual

/-- No directory has two children of one name. -/
def Node.Distinct : Node → Prop
  | .directory children => children.Distinct
  | .file _ _ => True
  | .symlink => True
  | .special => True

def Listing.Distinct : Listing → Prop
  | .nil => True
  | .cons name node rest => name ∉ rest.names ∧ node.Distinct ∧ rest.Distinct

end

/-- The map from the relative path of a file to its mode, length and digest. -/
def Node.inventory (sha256 : List UInt8 → List UInt8) (root : Node) (path : List UInt8) :
    Option (UInt32 × Nat × List UInt8) :=
  valueOf (root.files []) (fun file => joinPath (file.1.map FileName.bytes))
    (fun file => (if file.2.1 then executableMode else regularMode, file.2.2.length, sha256 file.2.2))
    path

/-- The same map, as the manifest has it. -/
def SourceManifest.inventory (manifest : SourceManifest) (path : List UInt8) :
    Option (UInt32 × Nat × List UInt8) :=
  valueOf manifest.entries SourceEntry.path
    (fun entry => (entry.mode, entry.length.toNat, entry.sha256)) path

end MakopaVerified.Admission
