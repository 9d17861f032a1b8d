import MakopaVerified.Admission.Records
import MakopaVerified.Foundation.Layout

/-!
# The layout of the fixed records

The bytes of each of the three records, field by field with its offset, as the tables of the decision
on the console contract have them. `Sized` says that the arrays of a value have the length of their type.
-/

namespace MakopaVerified.Admission

open Foundation

/-- A `u32` at an offset. -/
def u32Field (offset : Nat) (value : UInt32) : Field := ⟨offset, toLe 4 value.toNat⟩

/-- A `u64` at an offset. -/
def u64Field (offset : Nat) (value : UInt64) : Field := ⟨offset, toLe 8 value.toNat⟩

/-- Bytes that are reserved and zero. -/
def zeroField (offset width : Nat) : Field := ⟨offset, List.replicate width 0⟩

namespace ComponentAdmission

structure Sized (a : ComponentAdmission) : Prop where
  portableArtifactSha256 : a.portableArtifactSha256.length = 32
  targetExecutableSha256 : a.targetExecutableSha256.length = 32
  witPackageSha256 : a.witPackageSha256.length = 32
  executionProfileSha256 : a.executionProfileSha256.length = 32
  buildEvidenceSha256 : a.buildEvidenceSha256.length = 32
  signingKeyId : a.signingKeyId.length = keyIdBytes

def layout (a : ComponentAdmission) : List Field :=
  [u32Field 0 1,
    u32Field 4 (UInt32.ofNat admissionBytes),
    u64Field 8 a.componentId,
    u32Field 16 a.contractMajor,
    u32Field 20 a.contractMinor,
    u32Field 24 a.contractPatch,
    u32Field 28 a.componentProfile,
    u64Field 32 a.portableArtifactLength,
    u64Field 40 a.targetExecutableLength,
    ⟨48, a.portableArtifactSha256⟩,
    ⟨80, a.targetExecutableSha256⟩,
    ⟨112, a.witPackageSha256⟩,
    ⟨144, a.executionProfileSha256⟩,
    ⟨176, a.buildEvidenceSha256⟩,
    u64Field 208 a.maximumLinearMemoryBytes,
    u64Field 216 a.maximumExecutionStackBytes,
    u64Field 224 a.maximumDeterministicFuel,
    u32Field 232 a.maximumComponentInstances,
    u32Field 236 a.maximumLinearMemories,
    u32Field 240 a.maximumTables,
    u32Field 244 a.maximumComponentResources,
    u32Field 248 a.maximumAcceptedConsoleCalls,
    u32Field 252 a.maximumConsoleBytesPerCall,
    u32Field 256 1,
    u32Field 260 (UInt32.ofNat signatureBytes),
    ⟨264, a.signingKeyId⟩,
    zeroField 280 8]

def serialise (a : ComponentAdmission) : List UInt8 := joinFields a.layout

end ComponentAdmission

namespace ExecutionProfile

structure Sized (e : ExecutionProfile) : Prop where
  targetTripleSha256 : e.targetTripleSha256.length = 32
  runtimeConfigurationSha256 : e.runtimeConfigurationSha256.length = 32
  compilerConfigurationSha256 : e.compilerConfigurationSha256.length = 32

def layout (e : ExecutionProfile) : List Field :=
  [u32Field 0 1,
    u32Field 4 (UInt32.ofNat executionProfileBytes),
    u32Field 8 e.targetArchitecture,
    u32Field 12 e.targetEnvironment,
    u32Field 16 e.runtimeFamily,
    u32Field 20 e.runtimeVersion.1,
    u32Field 24 e.runtimeVersion.2.1,
    u32Field 28 e.runtimeVersion.2.2,
    u32Field 32 e.compilerFamily,
    u32Field 36 e.compilerVersion.1,
    u32Field 40 e.compilerVersion.2.1,
    u32Field 44 e.compilerVersion.2.2,
    u32Field 48 e.componentProfile,
    u32Field 52 e.codePublicationMode,
    u32Field 56 e.trapMode,
    u32Field 60 e.memoryMode,
    u64Field 64 e.coreWasmFeatures,
    u64Field 72 e.componentModelFeatures,
    u64Field 80 e.cpuFeatures,
    u32Field 88 e.targetTripleLength,
    u32Field 92 e.runtimeConfigurationLength,
    u32Field 96 e.compilerConfigurationLength,
    u32Field 100 0,
    ⟨104, e.targetTripleSha256⟩,
    ⟨136, e.runtimeConfigurationSha256⟩,
    ⟨168, e.compilerConfigurationSha256⟩,
    zeroField 200 24]

def serialise (e : ExecutionProfile) : List UInt8 := joinFields e.layout

end ExecutionProfile

namespace BuildEvidence

structure Sized (b : BuildEvidence) : Prop where
  sourceRevisionSha256 : b.sourceRevisionSha256.length = 32
  builderIdentitySha256 : b.builderIdentitySha256.length = 32
  commandTranscriptSha256 : b.commandTranscriptSha256.length = 32
  dependencyLockSha256 : b.dependencyLockSha256.length = 32
  toolVersionSha256 : b.toolVersionSha256.length = 32

def layout (b : BuildEvidence) : List Field :=
  [u32Field 0 1,
    u32Field 4 (UInt32.ofNat buildEvidenceBytes),
    u32Field 8 b.buildType,
    u32Field 12 b.sourceRevisionKind,
    u32Field 16 b.sourceRevisionLength,
    u32Field 20 b.builderIdentityLength,
    u32Field 24 b.commandTranscriptLength,
    u32Field 28 b.dependencyLockLength,
    u32Field 32 b.toolVersionLength,
    u32Field 36 b.commandCount,
    u32Field 40 b.toolCount,
    u32Field 44 0,
    ⟨48, b.sourceRevisionSha256⟩,
    ⟨80, b.builderIdentitySha256⟩,
    ⟨112, b.commandTranscriptSha256⟩,
    ⟨144, b.dependencyLockSha256⟩,
    ⟨176, b.toolVersionSha256⟩,
    zeroField 208 48]

def serialise (b : BuildEvidence) : List UInt8 := joinFields b.layout

end BuildEvidence

/-- A parser of records reads every byte of what it accepts, each as part of one field of the layout:
it accepts only serialisations, and every serialisation of a value that passes `validate`. -/
structure NoSlack {α : Type} (parse : List UInt8 → Except AdmissionError α)
    (validate : α → Except AdmissionError Unit) (Sized : α → Prop) (layout : α → List Field)
    (size : Nat) : Prop where
  written : ∀ bytes value, parse bytes = .ok value → bytes = joinFields (layout value)
  read : ∀ value, Sized value → validate value = .ok () →
    parse (joinFields (layout value)) = .ok value
  injective : ∀ bytes bytes' value, parse bytes = .ok value → parse bytes' = .ok value → bytes = bytes'
  gapless : ∀ value, Sized value →
    Gapless 0 (layout value) ∧ (joinFields (layout value)).length = size

end MakopaVerified.Admission
