import MakopaVerified.Admission.Component
import MakopaVerified.Admission.Documents
import MakopaVerified.Admission.Staged

/-!
# The bundle

`verify_bundle`: the checks of a bundle in their order. The hash function, the signature scheme
and the parsers of WebAssembly and of WIT are third-party code and given as `Primitives`; nothing is
assumed of them but the length of a digest.
-/

namespace MakopaVerified.Admission

open Foundation

/-- `b"MAKOPA-COMPONENT-ADMISSION-V1\0"`. -/
def signatureDomain : List UInt8 := ascii "MAKOPA-COMPONENT-ADMISSION-V1" ++ [0]

/-- `b"MAKOPA-ED25519-KEY-ID-V1\0"`. -/
def keyIdDomain : List UInt8 := ascii "MAKOPA-ED25519-KEY-ID-V1" ++ [0]

/-- The contract that a component is written against. -/
def expectedWit : List UInt8 :=
  ["package makopa:component@1.0.0;\n",
    "\n",
    "interface console \x7b\n",
    "  enum write-error \x7b\n",
    "    limit-exceeded,\n",
    "    unavailable,\n",
    "  \x7d\n",
    "\n",
    "  write-line: func(value: string) -> result<_, write-error>;\n",
    "\x7d\n",
    "\n",
    "interface task \x7b\n",
    "  enum run-error \x7b\n",
    "    denied,\n",
    "    exhausted,\n",
    "    host-failure,\n",
    "  \x7d\n",
    "\n",
    "  run: func() -> result<_, run-error>;\n",
    "\x7d\n",
    "\n",
    "world console-workload \x7b\n",
    "  import console;\n",
    "  export task;\n",
    "\x7d\n"].flatMap ascii

/-- The third-party functions. -/
structure Primitives where
  /-- `Sha256::digest` -/
  sha256 : List UInt8 → List UInt8
  length_sha256 : ∀ bytes, (sha256 bytes).length = 32
  /-- `VerifyingKey::from_bytes(key).is_ok()` -/
  keyDecodes : List UInt8 → Bool
  /-- `VerifyingKey::is_weak` -/
  keyIsWeak : List UInt8 → Bool
  /-- `Signature::from_slice(signature).is_ok()` -/
  signatureDecodes : List UInt8 → Bool
  /-- `VerifyingKey::verify_strict(message, signature).is_ok()`, with the key first -/
  verifyStrict : List UInt8 → List UInt8 → List UInt8 → Bool
  /-- `Validator::validate_all(bytes).is_ok()` -/
  isValidComponent : List UInt8 → Bool
  /-- `Parser::parse_all` -/
  payloads : List UInt8 → List (Option Payload)
  /-- The WIT parser and resolver accept the source. -/
  witResolves : List UInt8 → Bool

structure BundleInputs where
  admissionRecord : List UInt8
  detachedSignature : List UInt8
  publicKey : List UInt8
  portableComponent : List UInt8
  targetExecutable : Option (List UInt8)
  wit : List UInt8
  executionProfileRecord : List UInt8
  targetTriple : List UInt8
  runtimeConfiguration : List UInt8
  compilerConfiguration : List UInt8
  buildEvidenceRecord : List UInt8
  sourceManifest : List UInt8
  builderIdentity : List UInt8
  commandTranscript : List UInt8
  dependencyLock : List UInt8
  toolVersions : List UInt8
  stagedSourceRoot : Option Node

structure AdmissionReport where
  componentId : UInt64
  portableSha256 : List UInt8
  sourceFileCount : Nat
  sourceByteCount : UInt64
  sectionCount : Nat
  maximumDepth : Nat
  deriving DecidableEq, Repr

variable (P : Primitives)

/-- `verify_digest`. -/
def verifyDigest (bytes expected : List UInt8) : Except AdmissionError Unit :=
  rejectIf (P.sha256 bytes ≠ expected) .digest

/-- `verify_bound_bytes`. The length never is above `usize::MAX`. -/
def verifyBoundBytes (bytes : List UInt8) (length : UInt64) (digest : List UInt8) :
    Except AdmissionError Unit := do
  rejectIf (bytes.length ≠ length.toNat) .length
  verifyDigest P bytes digest

/-- `verify_length_digest`. -/
def verifyLengthDigest (bytes : List UInt8) (length : UInt32) (digest : List UInt8) :
    Except AdmissionError Unit := do
  rejectIf (bytes.length ≠ length.toNat) .length
  verifyDigest P bytes digest

/-- `signing_key_id`. -/
def signingKeyId (publicKey : List UInt8) : List UInt8 :=
  (P.sha256 (keyIdDomain ++ publicKey)).take keyIdBytes

/-- `signature_message`. -/
def signatureMessage (admissionRecord : List UInt8) : Except AdmissionError (List UInt8) := do
  requireSize admissionRecord admissionBytes
  pure (signatureDomain ++ admissionRecord)

/-- `verify_signature`. -/
def verifySignature (admissionRecord detachedSignature publicKey expectedKeyId : List UInt8) :
    Except AdmissionError Unit := do
  requireSize detachedSignature signatureBytes
  requireSize publicKey publicKeyBytes
  rejectIf (signingKeyId P publicKey ≠ expectedKeyId) .keyId
  rejectIf (P.keyDecodes publicKey = false) .signature
  rejectIf (P.keyIsWeak publicKey) .weakKey
  rejectIf (P.signatureDecodes detachedSignature = false) .signature
  let message ← signatureMessage admissionRecord
  rejectIf (P.verifyStrict publicKey message detachedSignature = false) .signature

/-- `validate_wit_contract`. -/
def validateWitContract (bytes : List UInt8) : Except AdmissionError Unit := do
  rejectIf (bytes = [] ∨ bytes.length > maxWitBytes ∨ bytes ≠ expectedWit) .wit
  rejectIf (isUtf8 bytes = false) .utf8
  rejectIf (P.witResolves bytes = false) .wit

/-- The match on the target executable. -/
def verifyExecutable (admission : ComponentAdmission) (executable : Option (List UInt8)) :
    Except AdmissionError Unit :=
  match executable with
  | none => rejectIf (admission.targetExecutableLength ≠ 0) .length
  | some bytes =>
    if admission.targetExecutableLength ≠ 0 then
      verifyBoundBytes P bytes admission.targetExecutableLength admission.targetExecutableSha256
    else .error .length

/-- `manifest.entries.iter().try_fold(..)`. -/
def sumLengths (sum : UInt64) : List SourceEntry → Except AdmissionError UInt64
  | [] => pure sum
  | entry :: entries => do
    let sum ← okOr (checkedAdd sum entry.length) .length
    sumLengths sum entries

/-- The part of `verify_bundle` from the admission record to the digests that it binds. -/
def verifyAdmission (inputs : BundleInputs) : Except AdmissionError ComponentAdmission := do
  let admission ← ComponentAdmission.parse inputs.admissionRecord
  verifySignature P inputs.admissionRecord inputs.detachedSignature inputs.publicKey
    admission.signingKeyId
  verifyBoundBytes P inputs.portableComponent admission.portableArtifactLength
    admission.portableArtifactSha256
  verifyExecutable P admission inputs.targetExecutable
  verifyDigest P inputs.wit admission.witPackageSha256
  verifyDigest P inputs.executionProfileRecord admission.executionProfileSha256
  verifyDigest P inputs.buildEvidenceRecord admission.buildEvidenceSha256
  pure admission

/-- The part on the execution profile. -/
def verifyExecution (inputs : BundleInputs) (admission : ComponentAdmission) :
    Except AdmissionError ExecutionProfile := do
  let execution ← ExecutionProfile.parse inputs.executionProfileRecord
  rejectIf (execution.componentProfile ≠ admission.componentProfile) .field
  verifyLengthDigest P inputs.targetTriple execution.targetTripleLength execution.targetTripleSha256
  verifyLengthDigest P inputs.runtimeConfiguration execution.runtimeConfigurationLength
    execution.runtimeConfigurationSha256
  verifyLengthDigest P inputs.compilerConfiguration execution.compilerConfigurationLength
    execution.compilerConfigurationSha256
  pure execution

/-- The documents of the execution profile. -/
def validateExecutionDocuments (inputs : BundleInputs) : Except AdmissionError Unit := do
  validateTargetTriple inputs.targetTriple
  validateNameValueDocument inputs.runtimeConfiguration
  validateNameValueDocument inputs.compilerConfiguration

/-- The part on the build evidence. -/
def verifyBuild (inputs : BundleInputs) : Except AdmissionError BuildEvidence := do
  let build ← BuildEvidence.parse inputs.buildEvidenceRecord
  verifyLengthDigest P inputs.sourceManifest build.sourceRevisionLength build.sourceRevisionSha256
  verifyLengthDigest P inputs.builderIdentity build.builderIdentityLength build.builderIdentitySha256
  verifyLengthDigest P inputs.commandTranscript build.commandTranscriptLength
    build.commandTranscriptSha256
  verifyLengthDigest P inputs.dependencyLock build.dependencyLockLength build.dependencyLockSha256
  verifyLengthDigest P inputs.toolVersions build.toolVersionLength build.toolVersionSha256
  pure build

/-- The rest of `verify_bundle`. -/
def interpretBundle (inputs : BundleInputs) (admission : ComponentAdmission) (build : BuildEvidence) :
    Except AdmissionError AdmissionReport := do
  validateBuilderIdentity inputs.builderIdentity
  validateLineDocument inputs.commandTranscript build.commandCount
  validateNameValueDocumentCounted inputs.toolVersions build.toolCount
  let manifest ← SourceManifest.parse inputs.sourceManifest
  manifest.verifyStagedRoot P.sha256 inputs.stagedSourceRoot
  validateWitContract P inputs.wit
  let surface ← inspectComponent P.isValidComponent P.payloads inputs.portableComponent
  let sourceByteCount ← sumLengths 0 manifest.entries
  pure
    { componentId := admission.componentId
      portableSha256 := admission.portableArtifactSha256
      sourceFileCount := manifest.entries.length
      sourceByteCount
      sectionCount := surface.sectionCount
      maximumDepth := surface.maximumDepth }

/-- `verify_bundle`. -/
def verifyBundle (inputs : BundleInputs) : Except AdmissionError AdmissionReport := do
  let admission ← verifyAdmission P inputs
  let _ ← verifyExecution P inputs admission
  validateExecutionDocuments inputs
  let build ← verifyBuild P inputs
  interpretBundle P inputs admission build

end MakopaVerified.Admission
