import MakopaVerified.Admission.Bundle

/-!
# What a component contains

The artifact that the payloads of a parser stand for: the sections of a module or component, and the
modules and components in it. The ceilings of the checker are statements about the artifact.
-/

namespace MakopaVerified.Admission

/-! ## Totals -/

namespace Payload

/-- The payload stands in a module or component and is not the beginning or the end of one. -/
def isLeaf : Payload → Bool
  | .version _ | .finish => false
  | _ => true

def sections : Payload → Nat
  | .version _ | .finish | .codeSectionEntry => 0
  | _ => 1

def coreTypes : Payload → Nat
  | .coreTypeSection count => count
  | _ => 0

/-- The entries of the types of core modules, of the core types and of the component types. -/
def types : Payload → Nat
  | .typeSection count | .componentTypeSection count _ | .coreTypeSection count => count
  | _ => 0

def customSections : Payload → Nat
  | .customSection _ => 1
  | _ => 0

def customBytes : Payload → Nat
  | .customSection dataBytes => dataBytes
  | _ => 0

def tables : Payload → Nat
  | .tableSection count => count
  | _ => 0

def resources : Payload → Nat
  | .componentTypeSection _ resources => resources
  | _ => 0

def imports : Payload → List (Option ExternItem)
  | .componentImportSection items => items
  | _ => []

def exports : Payload → List (Option ExternItem)
  | .componentExportSection items => items
  | _ => []

end Payload

/-- The sum over all payloads, at whatever depth they stand. -/
def total (measure : Payload → Nat) (payloads : List Payload) : Nat := (payloads.map measure).sum

/-! ## Artifacts -/

/-- What stands in a module or component: sections, and modules and components with what stands in
them. -/
inductive Pieces where
  | nil
  | leaf (payload : Payload) (isLeaf : payload.isLeaf = true) (rest : Pieces)
  | nested (encoding : Encoding) (inner rest : Pieces)

namespace Pieces

/-- The payloads, each module and component between its header and its end. -/
def payloads : Pieces → List Payload
  | nil => []
  | leaf payload _ rest => payload :: rest.payloads
  | nested encoding inner rest => .version encoding :: (inner.payloads ++ .finish :: rest.payloads)

/-- How deep modules and components are nested. -/
def depth : Pieces → Nat
  | nil => 0
  | leaf _ _ rest => rest.depth
  | nested _ inner rest => max (inner.depth + 1) rest.depth

/-- The items of the import sections that do not stand in a nested component. -/
def imports : Pieces → List (Option ExternItem)
  | nil => []
  | leaf payload _ rest => payload.imports ++ rest.imports
  | nested _ _ rest => rest.imports

/-- The items of the export sections that do not stand in a nested component. -/
def exports : Pieces → List (Option ExternItem)
  | nil => []
  | leaf payload _ rest => payload.exports ++ rest.exports
  | nested _ _ rest => rest.exports

end Pieces

/-- A module or component as a file. -/
structure Artifact where
  encoding : Encoding
  pieces : Pieces

def Artifact.payloads (artifact : Artifact) : List Payload :=
  .version artifact.encoding :: (artifact.pieces.payloads ++ [.finish])

/-- An instance under a name without annotations. -/
def plainInstance (name : List UInt8) : Option ExternItem := some ⟨true, false, false, false, name⟩

/-- The ceilings of the checker: the artifact is read to its end and is a component, it keeps every
bound, it has the two instances of the contract, and what the checker reports is what is there. -/
structure Ceilings (read : List (Option Payload)) (artifact : Artifact) (surface : ComponentSurface) :
    Prop where
  closed : read = artifact.payloads.map some
  component : artifact.encoding = .component
  depth_le : artifact.pieces.depth ≤ maxComponentDepth
  sections_le : total Payload.sections artifact.payloads ≤ maxComponentSections
  types_le : total Payload.types artifact.payloads ≤ maxComponentTypes
  customSections_le : total Payload.customSections artifact.payloads ≤ maxCustomSections
  customBytes_le : total Payload.customBytes artifact.payloads ≤ maxCustomSectionBytes
  imports_eq : artifact.pieces.imports = [plainInstance expectedImport]
  exports_eq : artifact.pieces.exports = [plainInstance expectedExport]
  reported : surface =
    { imports := [expectedImport]
      exports := [expectedExport]
      sectionCount := total Payload.sections artifact.payloads
      typeCount := total Payload.types artifact.payloads
      customSectionCount := total Payload.customSections artifact.payloads
      customSectionBytes := total Payload.customBytes artifact.payloads
      maximumDepth := artifact.pieces.depth }

/-! ## Tables and resources -/

/-- A ceiling of zero for tables, or for resources, admits none. -/
structure ZeroCeilings (admission : ComponentAdmission) (payloads : List (Option Payload)) : Prop where
  tables : admission.maximumTables = 0 → total Payload.tables (payloads.filterMap id) = 0
  resources : admission.maximumComponentResources = 0 →
    total Payload.resources (payloads.filterMap id) = 0

/-- The payload without its numbers of tables and resources. -/
def Payload.withoutObjects : Payload → Payload
  | .tableSection _ => .tableSection 0
  | .componentTypeSection count _ => .componentTypeSection count 0
  | payload => payload

/-- The payloads of the two parsers differ in tables and resources only. -/
def SameButObjects (parse parse' : List UInt8 → List (Option Payload)) : Prop :=
  ∀ bytes, (parse bytes).map (·.map Payload.withoutObjects) =
    (parse' bytes).map (·.map Payload.withoutObjects)

end MakopaVerified.Admission
