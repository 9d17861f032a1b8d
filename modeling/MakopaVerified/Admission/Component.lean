import MakopaVerified.Admission.Records

/-!
# The surface of a component

`inspect_component` walks over the payloads that the WebAssembly parser finds in a component. Parser and
validator are third-party code; what they answer for a byte string is given.
-/

namespace MakopaVerified.Admission

open Foundation

def maxComponentDepth : Nat := 8
def maxComponentSections : Nat := 256
def maxComponentTypes : Nat := 4096
def maxComponentImports : Nat := 256
def maxComponentExports : Nat := 256
def maxCustomSections : Nat := 32
def maxCustomSectionBytes : Nat := 65536
def maxComponentNameBytes : Nat := 256

def expectedImport : List UInt8 := ascii "makopa:component/console@1.0.0"
def expectedExport : List UInt8 := ascii "makopa:component/task@1.0.0"

inductive Encoding where
  | module
  | component
  deriving DecidableEq, Repr

/-- An item of an import or export section: whether it is an instance, whether its name carries one of
the three annotations, and the name. -/
structure ExternItem where
  isInstance : Bool
  hasImplements : Bool
  hasVersionSuffix : Bool
  hasExternalId : Bool
  name : List UInt8
  deriving DecidableEq, Repr

/-- `Payload`. The items of a section are missing where their reader fails. Of the sections that the
loop does not tell apart, those of core types and of tables carry the number of their entries, and a
section of component types carries how many of its entries define a resource. -/
inductive Payload where
  | version (encoding : Encoding)
  | finish
  | componentImportSection (items : List (Option ExternItem))
  | componentExportSection (items : List (Option ExternItem))
  | typeSection (count : Nat)
  | componentTypeSection (count resources : Nat)
  | coreTypeSection (count : Nat)
  | tableSection (count : Nat)
  | customSection (dataBytes : Nat)
  | codeSectionEntry
  | other
  deriving DecidableEq, Repr

/-- The local variables of `inspect_component`. -/
structure SurfaceScan where
  imports : List (List UInt8) := []
  exports : List (List UInt8) := []
  sectionCount : Nat := 0
  typeCount : Nat := 0
  customSectionCount : Nat := 0
  customSectionBytes : Nat := 0
  depth : Nat := 0
  maximumDepth : Nat := 0
  sawTopVersion : Bool := false
  sawTopEnd : Bool := false
  deriving DecidableEq, Repr

/-- `checked_count`. -/
def checkedCount (current additional maximum : Nat) : Except AdmissionError Nat := do
  rejectIf (¬ current + additional < 2 ^ 64) .component
  rejectIf (current + additional > maximum) .component
  pure (current + additional)

/-- `push_name`. -/
def pushName (target : List (List UInt8)) (name : List UInt8) (maximum : Nat) :
    Except AdmissionError (List (List UInt8)) := do
  rejectIf (name = [] ∨ name.length > maxComponentNameBytes ∨ target.length ≥ maximum)
    .componentSurface
  pure (target ++ [name])

/-- The loop over the items of an import or export section. -/
def pushNames (maximum : Nat) (target : List (List UInt8)) :
    List (Option ExternItem) → Except AdmissionError (List (List UInt8))
  | [] => pure target
  | item :: items => do
    let item ← okOr item .component
    rejectIf (item.isInstance = false) .componentSurface
    rejectIf (item.hasImplements ∨ item.hasVersionSuffix ∨ item.hasExternalId) .componentSurface
    let target ← pushName target item.name maximum
    pushNames maximum target items

/-- The arms of the match on a payload. -/
def scanPayload (s : SurfaceScan) : Payload → Except AdmissionError SurfaceScan
  | .version encoding =>
    if s.sawTopVersion = false then do
      rejectIf (encoding ≠ .component) .component
      pure { s with sawTopVersion := true }
    else do
      rejectIf (¬ s.depth + 1 < 2 ^ 64) .component
      let depth := s.depth + 1
      let maximumDepth := max s.maximumDepth depth
      rejectIf (maximumDepth > maxComponentDepth) .component
      pure { s with depth, maximumDepth }
  | .finish =>
    if s.depth = 0 then pure { s with sawTopEnd := true }
    else pure { s with depth := s.depth - 1 }
  | .componentImportSection items =>
    if s.depth = 0 then do
      let imports ← pushNames maxComponentImports s.imports items
      pure { s with sectionCount := s.sectionCount + 1, imports }
    else pure { s with sectionCount := s.sectionCount + 1 }
  | .componentExportSection items =>
    if s.depth = 0 then do
      let exports ← pushNames maxComponentExports s.exports items
      pure { s with sectionCount := s.sectionCount + 1, exports }
    else pure { s with sectionCount := s.sectionCount + 1 }
  | .typeSection count => do
    let typeCount ← checkedCount s.typeCount count maxComponentTypes
    pure { s with sectionCount := s.sectionCount + 1, typeCount }
  | .componentTypeSection count _ => do
    let typeCount ← checkedCount s.typeCount count maxComponentTypes
    pure { s with sectionCount := s.sectionCount + 1, typeCount }
  | .customSection dataBytes => do
    let customSectionCount ← checkedCount s.customSectionCount 1 maxCustomSections
    let customSectionBytes ← checkedCount s.customSectionBytes dataBytes maxCustomSectionBytes
    pure { s with sectionCount := s.sectionCount + 1, customSectionCount, customSectionBytes }
  | .codeSectionEntry => pure s
  | .coreTypeSection _ | .tableSection _ | .other => do
    let sectionCount ← checkedCount s.sectionCount 1 maxComponentSections
    pure { s with sectionCount }

/-- The loop over the payloads. A payload is missing where the parser fails. -/
def scanPayloads (s : SurfaceScan) : List (Option Payload) → Except AdmissionError SurfaceScan
  | [] => pure s
  | payload :: payloads => do
    let payload ← okOr payload .component
    let s ← scanPayload s payload
    rejectIf (s.sectionCount > maxComponentSections) .component
    scanPayloads s payloads

structure ComponentSurface where
  imports : List (List UInt8)
  exports : List (List UInt8)
  sectionCount : Nat
  typeCount : Nat
  customSectionCount : Nat
  customSectionBytes : Nat
  maximumDepth : Nat
  deriving DecidableEq, Repr

/-- The checks of `inspect_component` after the loop. -/
def SurfaceScan.surface (s : SurfaceScan) : Except AdmissionError ComponentSurface := do
  rejectIf (s.sawTopVersion = false
    ∨ s.sawTopEnd = false
    ∨ s.imports ≠ [expectedImport]
    ∨ s.exports ≠ [expectedExport]
    ∨ s.imports.length > maxComponentImports
    ∨ s.exports.length > maxComponentExports) .componentSurface
  pure
    { imports := s.imports
      exports := s.exports
      sectionCount := s.sectionCount
      typeCount := s.typeCount
      customSectionCount := s.customSectionCount
      customSectionBytes := s.customSectionBytes
      maximumDepth := s.maximumDepth }

/-- `inspect_component`, with the answer of the validator and the payloads of the parser. -/
def inspectComponent (isValid : List UInt8 → Bool) (payloads : List UInt8 → List (Option Payload))
    (bytes : List UInt8) : Except AdmissionError ComponentSurface := do
  rejectIf (bytes = [] ∨ bytes.length > maxComponentBytes) .size
  rejectIf (isValid bytes = false) .component
  let s ← scanPayloads {} (payloads bytes)
  s.surface

end MakopaVerified.Admission
