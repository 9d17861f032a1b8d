import MakopaVerified.Admission.Bundle

/-!
# What a bundle is bound to

The relation between the members of a bundle and the values that its three records bind for them, apart
from the order in which `verify_bundle` checks it.
-/

namespace MakopaVerified.Admission

variable (P : Primitives)

/-- A member has the length and the digest that are bound for it. -/
structure Bound (bytes : List UInt8) (length : Nat) (digest : List UInt8) : Prop where
  length_eq : bytes.length = length
  digest_eq : P.sha256 bytes = digest

/-- The detached signature is one of the admission record, by the key that the record names. -/
structure Signed (inputs : BundleInputs) (admission : ComponentAdmission) : Prop where
  signature_size : inputs.detachedSignature.length = signatureBytes
  key_size : inputs.publicKey.length = publicKeyBytes
  key_named : signingKeyId P inputs.publicKey = admission.signingKeyId
  key_decodes : P.keyDecodes inputs.publicKey = true
  key_strong : P.keyIsWeak inputs.publicKey = false
  signature_decodes : P.signatureDecodes inputs.detachedSignature = true
  verified : P.verifyStrict inputs.publicKey (signatureDomain ++ inputs.admissionRecord)
    inputs.detachedSignature = true

/-- There is a target executable just when the record has a length for it, and then it is bound. -/
def ExecutableBound (admission : ComponentAdmission) : Option (List UInt8) → Prop
  | none => admission.targetExecutableLength = 0
  | some bytes => admission.targetExecutableLength ≠ 0 ∧
    Bound P bytes admission.targetExecutableLength.toNat admission.targetExecutableSha256

/-- The members that the admission record binds. -/
structure AdmissionBound (inputs : BundleInputs) (admission : ComponentAdmission) : Prop where
  parsed : ComponentAdmission.parse inputs.admissionRecord = .ok admission
  signed : Signed P inputs admission
  component : Bound P inputs.portableComponent admission.portableArtifactLength.toNat
    admission.portableArtifactSha256
  executable : ExecutableBound P admission inputs.targetExecutable
  wit : P.sha256 inputs.wit = admission.witPackageSha256
  executionProfile : P.sha256 inputs.executionProfileRecord = admission.executionProfileSha256
  buildEvidence : P.sha256 inputs.buildEvidenceRecord = admission.buildEvidenceSha256

/-- The members that the execution profile binds. -/
structure ExecutionBound (inputs : BundleInputs) (execution : ExecutionProfile) : Prop where
  parsed : ExecutionProfile.parse inputs.executionProfileRecord = .ok execution
  triple : Bound P inputs.targetTriple execution.targetTripleLength.toNat
    execution.targetTripleSha256
  runtime : Bound P inputs.runtimeConfiguration execution.runtimeConfigurationLength.toNat
    execution.runtimeConfigurationSha256
  compiler : Bound P inputs.compilerConfiguration execution.compilerConfigurationLength.toNat
    execution.compilerConfigurationSha256

/-- The members that the build evidence binds. -/
structure BuildBound (inputs : BundleInputs) (build : BuildEvidence) : Prop where
  parsed : BuildEvidence.parse inputs.buildEvidenceRecord = .ok build
  manifest : Bound P inputs.sourceManifest build.sourceRevisionLength.toNat
    build.sourceRevisionSha256
  builder : Bound P inputs.builderIdentity build.builderIdentityLength.toNat
    build.builderIdentitySha256
  transcript : Bound P inputs.commandTranscript build.commandTranscriptLength.toNat
    build.commandTranscriptSha256
  lock : Bound P inputs.dependencyLock build.dependencyLockLength.toNat build.dependencyLockSha256
  tools : Bound P inputs.toolVersions build.toolVersionLength.toNat build.toolVersionSha256

/-- The signature verifies and every member has the length and the digest bound for it. -/
def Authenticated (inputs : BundleInputs) : Prop :=
  (∃ admission, AdmissionBound P inputs admission) ∧
  (∃ execution, ExecutionBound P inputs execution) ∧
  ∃ build, BuildBound P inputs build

/-- The errors that come from interpreting content. The others are about the format of a record, the
key, the signature, a length or a digest. -/
def AdmissionError.FromContent : AdmissionError → Prop
  | .io | .inputType | .utf8 | .document | .manifest | .sourceInventory | .component
  | .componentSurface | .wit => True
  | .size | .schema | .reserved | .field | .length | .digest | .keyId | .weakKey | .signature => False

instance : DecidablePred AdmissionError.FromContent := fun e => by
  cases e <;> first | exact .isTrue trivial | exact .isFalse id

/-- The files of the staged tree: the graph of the map from a path to the executable bit and the
contents. -/
def BundleInputs.files (inputs : BundleInputs) : List (List FileName × Bool × List UInt8) :=
  match inputs.stagedSourceRoot with
  | some root => root.files []
  | none => []

/-- The byte strings of a bundle that the records, or the manifest, carry a digest of. -/
def BundleInputs.hashed (inputs : BundleInputs) : List (List UInt8) :=
  [inputs.portableComponent, inputs.wit, inputs.executionProfileRecord, inputs.targetTriple,
    inputs.runtimeConfiguration, inputs.compilerConfiguration, inputs.buildEvidenceRecord,
    inputs.sourceManifest, inputs.builderIdentity, inputs.commandTranscript, inputs.dependencyLock,
    inputs.toolVersions] ++ inputs.targetExecutable.toList ++
    inputs.files.map fun file => file.2.2

/-- No two byte strings of the two bundles have the same digest. -/
def NoCollision (a b : BundleInputs) : Prop :=
  Set.InjOn P.sha256 {bytes | bytes ∈ a.hashed ∨ bytes ∈ b.hashed}

/-- The members of two bundles and the files of their staged trees are the same. -/
structure SameBundle (a b : BundleInputs) : Prop where
  component : a.portableComponent = b.portableComponent
  executable : a.targetExecutable = b.targetExecutable
  wit : a.wit = b.wit
  executionProfile : a.executionProfileRecord = b.executionProfileRecord
  triple : a.targetTriple = b.targetTriple
  runtime : a.runtimeConfiguration = b.runtimeConfiguration
  compiler : a.compilerConfiguration = b.compilerConfiguration
  buildEvidence : a.buildEvidenceRecord = b.buildEvidenceRecord
  manifest : a.sourceManifest = b.sourceManifest
  builder : a.builderIdentity = b.builderIdentity
  transcript : a.commandTranscript = b.commandTranscript
  lock : a.dependencyLock = b.dependencyLock
  tools : a.toolVersions = b.toolVersions
  files : ∀ path executable contents,
    (path, executable, contents) ∈ a.files ↔ (path, executable, contents) ∈ b.files

end MakopaVerified.Admission
