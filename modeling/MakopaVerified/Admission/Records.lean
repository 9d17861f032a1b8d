import MakopaVerified.Admission.Text
import MakopaVerified.Foundation.Bytes
import MakopaVerified.Foundation.Checks

/-!
# The fixed records

The three records of `tools/component-admission/admission`, at their offsets, with the rules that each
of them is checked against. An array `[u8; N]` is a list of bytes here; `array_at` makes it `N` long.
-/

namespace MakopaVerified.Admission

open Foundation

def admissionBytes : Nat := 288
def executionProfileBytes : Nat := 224
def buildEvidenceBytes : Nat := 256
def signatureBytes : Nat := 64
def publicKeyBytes : Nat := 32
def keyIdBytes : Nat := 16

def maxComponentBytes : Nat := 1048576
def maxWitBytes : Nat := 65536
def maxSourceManifestBytes : Nat := 65536
def maxSourceFileBytes : Nat := 262144
def maxSourceBytes : Nat := 1048576
def maxSourceFiles : Nat := 256

inductive AdmissionError where
  | io
  | inputType
  | size
  | schema
  | reserved
  | field
  | length
  | digest
  | keyId
  | weakKey
  | signature
  | utf8
  | document
  | manifest
  | sourceInventory
  | component
  | componentSurface
  | wit
  deriving DecidableEq, Repr

/-- `require_size`. -/
def requireSize (bytes : List UInt8) (expected : Nat) : Except AdmissionError Unit :=
  rejectIf (bytes.length ≠ expected) .size

/-- `array_at::<width>`. The offsets are constants, so their sum does not overflow. -/
def arrayAt (width : Nat) (bytes : List UInt8) (offset : Nat) : Except AdmissionError (List UInt8) :=
  okOr (getRange bytes offset (offset + width)) .size

/-- `u32_at`. -/
def u32At (bytes : List UInt8) (offset : Nat) : Except AdmissionError UInt32 :=
  (arrayAt 4 bytes offset).map fun part => UInt32.ofNat (fromLe part)

/-- `u64_at`. -/
def u64At (bytes : List UInt8) (offset : Nat) : Except AdmissionError UInt64 :=
  (arrayAt 8 bytes offset).map fun part => UInt64.ofNat (fromLe part)

/-- `is_zero`. -/
def isZero (bytes : List UInt8) : Bool := bytes.all (· = 0)

/-- `(low..=high).contains(&value)`. -/
def inRange (low high : Nat) (value : UInt32) : Bool := low ≤ value.toNat && value.toNat ≤ high

/-! ## `ComponentAdmissionV1` -/

structure ComponentAdmission where
  componentId : UInt64
  contractMajor : UInt32
  contractMinor : UInt32
  contractPatch : UInt32
  componentProfile : UInt32
  portableArtifactLength : UInt64
  targetExecutableLength : UInt64
  portableArtifactSha256 : List UInt8
  targetExecutableSha256 : List UInt8
  witPackageSha256 : List UInt8
  executionProfileSha256 : List UInt8
  buildEvidenceSha256 : List UInt8
  maximumLinearMemoryBytes : UInt64
  maximumExecutionStackBytes : UInt64
  maximumDeterministicFuel : UInt64
  maximumComponentInstances : UInt32
  maximumLinearMemories : UInt32
  maximumTables : UInt32
  maximumComponentResources : UInt32
  maximumAcceptedConsoleCalls : UInt32
  maximumConsoleBytesPerCall : UInt32
  signingKeyId : List UInt8
  deriving DecidableEq, Repr

namespace ComponentAdmission

/-- `executable_pair_valid`. -/
def executablePairValid (a : ComponentAdmission) : Bool :=
  if a.targetExecutableLength = 0 then isZero a.targetExecutableSha256
  else !isZero a.targetExecutableSha256

/-- `ComponentAdmissionV1::validate`. -/
def validate (a : ComponentAdmission) : Except AdmissionError Unit :=
  rejectIf (a.componentId = 0
    ∨ a.contractMajor ≠ 1
    ∨ a.contractMinor ≠ 0
    ∨ a.contractPatch ≠ 0
    ∨ a.componentProfile ≠ 0
    ∨ a.portableArtifactLength = 0
    ∨ a.portableArtifactLength.toNat > maxComponentBytes
    ∨ a.executablePairValid = false
    ∨ isZero a.portableArtifactSha256
    ∨ isZero a.witPackageSha256
    ∨ isZero a.executionProfileSha256
    ∨ isZero a.buildEvidenceSha256
    ∨ a.maximumLinearMemoryBytes = 0
    ∨ a.maximumExecutionStackBytes = 0
    ∨ a.maximumDeterministicFuel = 0
    ∨ a.maximumComponentInstances = 0
    ∨ a.maximumLinearMemories = 0
    ∨ a.maximumAcceptedConsoleCalls ≠ 1
    ∨ a.maximumConsoleBytesPerCall ≠ 64
    ∨ isZero a.signingKeyId) .field

/-- `ComponentAdmissionV1::parse`. -/
def parse (bytes : List UInt8) : Except AdmissionError ComponentAdmission := do
  requireSize bytes admissionBytes
  let schema ← u32At bytes 0
  rejectIf (schema ≠ 1) .schema
  let size ← u32At bytes 4
  rejectIf (size ≠ UInt32.ofNat admissionBytes) .schema
  rejectIf (isZero ((bytes.drop 280).take 8) = false) .reserved
  let value : ComponentAdmission :=
    { componentId := ← u64At bytes 8
      contractMajor := ← u32At bytes 16
      contractMinor := ← u32At bytes 20
      contractPatch := ← u32At bytes 24
      componentProfile := ← u32At bytes 28
      portableArtifactLength := ← u64At bytes 32
      targetExecutableLength := ← u64At bytes 40
      portableArtifactSha256 := ← arrayAt 32 bytes 48
      targetExecutableSha256 := ← arrayAt 32 bytes 80
      witPackageSha256 := ← arrayAt 32 bytes 112
      executionProfileSha256 := ← arrayAt 32 bytes 144
      buildEvidenceSha256 := ← arrayAt 32 bytes 176
      maximumLinearMemoryBytes := ← u64At bytes 208
      maximumExecutionStackBytes := ← u64At bytes 216
      maximumDeterministicFuel := ← u64At bytes 224
      maximumComponentInstances := ← u32At bytes 232
      maximumLinearMemories := ← u32At bytes 236
      maximumTables := ← u32At bytes 240
      maximumComponentResources := ← u32At bytes 244
      maximumAcceptedConsoleCalls := ← u32At bytes 248
      maximumConsoleBytesPerCall := ← u32At bytes 252
      signingKeyId := ← arrayAt 16 bytes 264 }
  let algorithm ← u32At bytes 256
  rejectIf (algorithm ≠ 1) .field
  let signatureSize ← u32At bytes 260
  rejectIf (signatureSize ≠ UInt32.ofNat signatureBytes) .field
  value.validate
  pure value

end ComponentAdmission

/-! ## `ExecutionProfileV1` -/

structure ExecutionProfile where
  targetArchitecture : UInt32
  targetEnvironment : UInt32
  runtimeFamily : UInt32
  runtimeVersion : UInt32 × UInt32 × UInt32
  compilerFamily : UInt32
  compilerVersion : UInt32 × UInt32 × UInt32
  componentProfile : UInt32
  codePublicationMode : UInt32
  trapMode : UInt32
  memoryMode : UInt32
  coreWasmFeatures : UInt64
  componentModelFeatures : UInt64
  cpuFeatures : UInt64
  targetTripleLength : UInt32
  runtimeConfigurationLength : UInt32
  compilerConfigurationLength : UInt32
  targetTripleSha256 : List UInt8
  runtimeConfigurationSha256 : List UInt8
  compilerConfigurationSha256 : List UInt8
  deriving DecidableEq, Repr

namespace ExecutionProfile

/-- `ExecutionProfileV1::validate`. -/
def validate (e : ExecutionProfile) : Except AdmissionError Unit :=
  rejectIf (e.targetArchitecture ≠ 1
    ∨ e.targetEnvironment ≠ 2
    ∨ e.runtimeFamily ≠ 1
    ∨ e.runtimeVersion ≠ (48, 0, 1)
    ∨ e.compilerFamily ≠ 1
    ∨ e.compilerVersion ≠ (48, 0, 1)
    ∨ e.componentProfile ≠ 0
    ∨ e.codePublicationMode ≠ 0
    ∨ e.trapMode ≠ 0
    ∨ e.memoryMode ≠ 0
    ∨ e.coreWasmFeatures ≠ 1
    ∨ e.componentModelFeatures ≠ 1
    ∨ e.cpuFeatures ≠ 0
    ∨ inRange 1 96 e.targetTripleLength = false
    ∨ inRange 1 4096 e.runtimeConfigurationLength = false
    ∨ inRange 1 4096 e.compilerConfigurationLength = false
    ∨ isZero e.targetTripleSha256
    ∨ isZero e.runtimeConfigurationSha256
    ∨ isZero e.compilerConfigurationSha256) .field

/-- `ExecutionProfileV1::parse`. -/
def parse (bytes : List UInt8) : Except AdmissionError ExecutionProfile := do
  requireSize bytes executionProfileBytes
  let schema ← u32At bytes 0
  rejectIf (schema ≠ 1) .schema
  let size ← u32At bytes 4
  rejectIf (size ≠ UInt32.ofNat executionProfileBytes) .schema
  let reserved ← u32At bytes 100
  rejectIf (reserved ≠ 0 ∨ isZero ((bytes.drop 200).take 24) = false) .reserved
  let value : ExecutionProfile :=
    { targetArchitecture := ← u32At bytes 8
      targetEnvironment := ← u32At bytes 12
      runtimeFamily := ← u32At bytes 16
      runtimeVersion := (← u32At bytes 20, ← u32At bytes 24, ← u32At bytes 28)
      compilerFamily := ← u32At bytes 32
      compilerVersion := (← u32At bytes 36, ← u32At bytes 40, ← u32At bytes 44)
      componentProfile := ← u32At bytes 48
      codePublicationMode := ← u32At bytes 52
      trapMode := ← u32At bytes 56
      memoryMode := ← u32At bytes 60
      coreWasmFeatures := ← u64At bytes 64
      componentModelFeatures := ← u64At bytes 72
      cpuFeatures := ← u64At bytes 80
      targetTripleLength := ← u32At bytes 88
      runtimeConfigurationLength := ← u32At bytes 92
      compilerConfigurationLength := ← u32At bytes 96
      targetTripleSha256 := ← arrayAt 32 bytes 104
      runtimeConfigurationSha256 := ← arrayAt 32 bytes 136
      compilerConfigurationSha256 := ← arrayAt 32 bytes 168 }
  value.validate
  pure value

end ExecutionProfile

/-! ## `BuildEvidenceV1` -/

structure BuildEvidence where
  buildType : UInt32
  sourceRevisionKind : UInt32
  sourceRevisionLength : UInt32
  builderIdentityLength : UInt32
  commandTranscriptLength : UInt32
  dependencyLockLength : UInt32
  toolVersionLength : UInt32
  commandCount : UInt32
  toolCount : UInt32
  sourceRevisionSha256 : List UInt8
  builderIdentitySha256 : List UInt8
  commandTranscriptSha256 : List UInt8
  dependencyLockSha256 : List UInt8
  toolVersionSha256 : List UInt8
  deriving DecidableEq, Repr

namespace BuildEvidence

/-- `BuildEvidenceV1::validate`. -/
def validate (b : BuildEvidence) : Except AdmissionError Unit :=
  rejectIf (b.buildType ≠ 1
    ∨ b.sourceRevisionKind ≠ 1
    ∨ inRange 1 maxSourceManifestBytes b.sourceRevisionLength = false
    ∨ inRange 1 128 b.builderIdentityLength = false
    ∨ inRange 1 4096 b.commandTranscriptLength = false
    ∨ inRange 1 524288 b.dependencyLockLength = false
    ∨ inRange 1 4096 b.toolVersionLength = false
    ∨ b.commandCount = 0
    ∨ b.toolCount = 0
    ∨ isZero b.sourceRevisionSha256
    ∨ isZero b.builderIdentitySha256
    ∨ isZero b.commandTranscriptSha256
    ∨ isZero b.dependencyLockSha256
    ∨ isZero b.toolVersionSha256) .field

/-- `BuildEvidenceV1::parse`. -/
def parse (bytes : List UInt8) : Except AdmissionError BuildEvidence := do
  requireSize bytes buildEvidenceBytes
  let schema ← u32At bytes 0
  rejectIf (schema ≠ 1) .schema
  let size ← u32At bytes 4
  rejectIf (size ≠ UInt32.ofNat buildEvidenceBytes) .schema
  let reserved ← u32At bytes 44
  rejectIf (reserved ≠ 0 ∨ isZero ((bytes.drop 208).take 48) = false) .reserved
  let value : BuildEvidence :=
    { buildType := ← u32At bytes 8
      sourceRevisionKind := ← u32At bytes 12
      sourceRevisionLength := ← u32At bytes 16
      builderIdentityLength := ← u32At bytes 20
      commandTranscriptLength := ← u32At bytes 24
      dependencyLockLength := ← u32At bytes 28
      toolVersionLength := ← u32At bytes 32
      commandCount := ← u32At bytes 36
      toolCount := ← u32At bytes 40
      sourceRevisionSha256 := ← arrayAt 32 bytes 48
      builderIdentitySha256 := ← arrayAt 32 bytes 80
      commandTranscriptSha256 := ← arrayAt 32 bytes 112
      dependencyLockSha256 := ← arrayAt 32 bytes 144
      toolVersionSha256 := ← arrayAt 32 bytes 176 }
  value.validate
  pure value

end BuildEvidence

end MakopaVerified.Admission
