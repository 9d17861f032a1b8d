import MakopaVerified.Admission.Proofs.BindingProofs
import MakopaVerified.Admission.Proofs.LayoutProofs

/-!
# Order of the checks, and bundles for inspection

Which errors say that the members of a bundle are authentic, and what an accepted bundle says about a
target executable.
-/

namespace MakopaVerified.Admission

open Foundation

variable {P : Primitives} {inputs : BundleInputs} {admission : ComponentAdmission}
  {execution : ExecutionProfile}

/-! ## A small bundle -/

/-- A digest that is simple to compute and never zero: the first bytes. -/
def smallDigest (bytes : List UInt8) : List UInt8 :=
  (bytes ++ List.replicate 31 0).take 31 ++ [1]

def smallPrimitives : Primitives where
  sha256 := smallDigest
  length_sha256 bytes := by simp [smallDigest]
  keyDecodes _ := true
  keyIsWeak _ := false
  signatureDecodes _ := true
  verifyStrict _ _ _ := true
  isValidComponent _ := true
  payloads _ :=
    [some (.version .component), some (.componentTypeSection 1 0),
      some (.componentImportSection [some ⟨true, false, false, false, expectedImport⟩]),
      some (.componentExportSection [some ⟨true, false, false, false, expectedExport⟩]),
      some .finish]
  witResolves _ := true

/-- A record of the build evidence with these five members. -/
def buildRecord (manifest builder transcript lock tools : List UInt8) : List UInt8 :=
  [toLe 4 1, toLe 4 256, toLe 4 1, toLe 4 1, toLe 4 manifest.length, toLe 4 builder.length,
    toLe 4 transcript.length, toLe 4 lock.length, toLe 4 tools.length, toLe 4 1, toLe 4 1, toLe 4 0,
    smallDigest manifest, smallDigest builder, smallDigest transcript, smallDigest lock,
    smallDigest tools, toLe 48 0].flatten

/-- A record of the execution profile with these three members. -/
def executionRecord (triple runtime compiler : List UInt8) : List UInt8 :=
  [toLe 4 1, toLe 4 224, toLe 4 1, toLe 4 2, toLe 4 1, toLe 4 48, toLe 4 0, toLe 4 1, toLe 4 1,
    toLe 4 48, toLe 4 0, toLe 4 1, toLe 16 0, toLe 8 1, toLe 8 1, toLe 8 0, toLe 4 triple.length,
    toLe 4 runtime.length, toLe 4 compiler.length, toLe 4 0, smallDigest triple,
    smallDigest runtime, smallDigest compiler, toLe 24 0].flatten

/-- An admission record with these members. -/
def admissionRecord (component : List UInt8) (executable : Option (List UInt8))
    (wit execution build key : List UInt8) : List UInt8 :=
  [toLe 4 1, toLe 4 288, toLe 8 7, toLe 4 1, toLe 12 0, toLe 8 component.length,
    toLe 8 (executable.getD []).length, smallDigest component,
    (executable.map smallDigest).getD (toLe 32 0), smallDigest wit, smallDigest execution,
    smallDigest build, toLe 8 65536, toLe 8 16384, toLe 8 1000, toLe 4 1, toLe 4 1, toLe 8 0,
    toLe 4 1, toLe 4 64, toLe 4 1, toLe 4 64, signingKeyId smallPrimitives key, toLe 8 0].flatten

def sourceName : FileName := ⟨ascii "source.rs", by decide, by decide⟩

/-- A manifest of one file. -/
def smallManifest (contents : List UInt8) : List UInt8 :=
  [ascii "schema=makopa-source-manifest-v1\n",
    ascii "repository=git+https://github.com/xsparc/MakopaOS\n",
    ascii "tree-path=fixtures/console-component\n",
    ascii "git-tree-sha1=", List.replicate 40 0x30,
    ascii "\nfile-count=1\n",
    ascii "100644 6 ", encodeHex (smallDigest contents), ascii " source.rs\n"].flatten

/-- A bundle in which every member is bound, with this executable, target triple and builder. -/
def smallBundle (executable : Option (List UInt8)) (triple builder : List UInt8) : BundleInputs :=
  let contents := ascii "source"
  let runtime := ascii "fuel=1000\n"
  let compiler := ascii "level=2\n"
  let manifest := smallManifest contents
  let transcript := ascii "cargo build\n"
  let lock := ascii "lock"
  let tools := ascii "rustc=1\n"
  let component := ascii "component"
  let key := List.replicate 32 9
  let execution := executionRecord triple runtime compiler
  let build := buildRecord manifest builder transcript lock tools
  { admissionRecord := admissionRecord component executable expectedWit execution build key
    detachedSignature := List.replicate 64 8
    publicKey := key
    portableComponent := component
    targetExecutable := executable
    wit := expectedWit
    executionProfileRecord := execution
    targetTriple := triple
    runtimeConfiguration := runtime
    compilerConfiguration := compiler
    buildEvidenceRecord := build
    sourceManifest := manifest
    builderIdentity := builder
    commandTranscript := transcript
    dependencyLock := lock
    toolVersions := tools
    stagedSourceRoot := some (.directory (.cons sourceName (.file 0o644 contents) .nil)) }

/-- What the checker says about a small bundle that it accepts. -/
def smallReport : AdmissionReport :=
  { componentId := 7
    portableSha256 := smallDigest (ascii "component")
    sourceFileCount := 1
    sourceByteCount := 6
    sectionCount := 3
    maximumDepth := 0 }

theorem small_bundle_accepted :
    verifyBundle smallPrimitives (smallBundle none (ascii "x86_64-unknown-none") (ascii "ci")) =
      .ok smallReport := by
  decide +kernel

/-! ## Authentication before interpretation -/

/-- The documents of the execution profile are interpreted before the members of the build evidence are
compared. So an error that comes from content shows that all members are authentic just when those
documents are in order, or the members of the build evidence are bound all the same. -/
theorem content_error_authentic_iff {e : AdmissionError} (failed : verifyBundle P inputs = .error e)
    (content : e.FromContent) :
    Authenticated P inputs ↔
      validateExecutionDocuments inputs = .ok () ∨ ∃ build, BuildBound P inputs build := by
  unfold verifyBundle at failed
  cases admitted : verifyAdmission P inputs with
  | error e' =>
    rw [admitted] at failed
    cases failed
    exact absurd content (verifyAdmission_fails _ admitted)
  | ok admission =>
    rw [bind_of_ok admitted] at failed
    cases executed : verifyExecution P inputs admission with
    | error e' =>
      rw [executed] at failed
      cases failed
      exact absurd content (verifyExecution_fails _ executed)
    | ok execution =>
      rw [bind_of_ok executed] at failed
      have first : ∃ admission, AdmissionBound P inputs admission :=
        ⟨admission, verifyAdmission_eq_ok.mp admitted⟩
      have second : ∃ execution, ExecutionBound P inputs execution :=
        ⟨execution, (verifyExecution_eq_ok.mp executed).1⟩
      constructor
      · rintro ⟨-, -, build⟩
        exact .inr build
      · rintro (documents | build)
        · -- With the documents in order the error comes from behind the build evidence.
          rw [bind_of_ok documents] at failed
          cases built : verifyBuild P inputs with
          | error e' =>
            rw [built] at failed
            cases failed
            exact absurd content (verifyBuild_fails _ built)
          | ok build => exact ⟨first, second, build, verifyBuild_eq_ok.mp built⟩
        · exact ⟨first, second, build⟩

/-- A builder identity with a blank is refused, in a bundle all of whose members are bound. -/
theorem blank_in_builder_authentic :
    Authenticated smallPrimitives (smallBundle none (ascii "x86_64-unknown-none") (ascii "a b")) :=
  (content_error_authentic_iff (e := .document) (by decide +kernel) (by decide)).mpr
    (.inl (by decide +kernel))

/-- A blank in the target triple is reported, although the source manifest is not the one bound. -/
theorem blank_in_triple_reported :
    let inputs := { smallBundle none (ascii "a b") (ascii "ci") with sourceManifest := [] }
    verifyBundle smallPrimitives inputs = .error .document ∧
      AdmissionError.document.FromContent ∧ ¬ Authenticated smallPrimitives inputs := by
  refine ⟨by decide +kernel, by decide, ?_⟩
  rintro ⟨-, -, build, bound⟩
  have failed : verifyBuild smallPrimitives
      { smallBundle none (ascii "a b") (ascii "ci") with sourceManifest := [] } = .error .length := by
    decide +kernel
  rw [verifyBuild_eq_ok.mpr bound] at failed
  cases failed

/-! ## Bundles for inspection -/

/-- A record without an executable has a digest of zeros for it. -/
theorem ComponentAdmission.executable_digest_zero {bytes : List UInt8}
    (parsed : ComponentAdmission.parse bytes = .ok admission)
    (absent : admission.targetExecutableLength = 0) :
    admission.targetExecutableSha256 = List.replicate 32 0 := by
  obtain ⟨sized, valid, -⟩ := ComponentAdmission.parse_returns _ parsed
  have pair : admission.executablePairValid = true := by
    have := rejectIf_eq_ok.mp valid
    push Not at this
    simpa using this.2.2.2.2.2.2.2.1
  rw [executablePairValid, if_pos absent] at pair
  rw [eq_replicate_of_isZero pair, sized.targetExecutableSha256]

/-- Only a profile for inspection is accepted. -/
theorem ExecutionProfile.modes_zero {bytes : List UInt8}
    (parsed : ExecutionProfile.parse bytes = .ok execution) :
    execution.codePublicationMode = 0 ∧ execution.trapMode = 0 ∧ execution.memoryMode = 0 := by
  have valid := rejectIf_eq_ok.mp (ExecutionProfile.parse_returns _ parsed).2.1
  push Not at valid
  exact ⟨valid.2.2.2.2.2.2.2.1, valid.2.2.2.2.2.2.2.2.1, valid.2.2.2.2.2.2.2.2.2.1⟩

/-- The execution profile of an accepted bundle has the modes zero. Length and digest of the target
executable are zero, and none is supplied, just when none is supplied: nothing refuses one. -/
theorem inspection_without_executable_iff {report : AdmissionReport}
    (accepted : verifyBundle P inputs = .ok report) :
    ∃ admission execution, ComponentAdmission.parse inputs.admissionRecord = .ok admission ∧
      ExecutionProfile.parse inputs.executionProfileRecord = .ok execution ∧
      (execution.codePublicationMode = 0 ∧ execution.trapMode = 0 ∧ execution.memoryMode = 0) ∧
      ((admission.targetExecutableLength = 0 ∧
          admission.targetExecutableSha256 = List.replicate 32 0 ∧ inputs.targetExecutable = none) ↔
        inputs.targetExecutable = none) := by
  obtain ⟨admission, execution, build, bound, executionBound, -⟩ := verifyBundle_eq_ok.mp accepted
  refine ⟨admission, execution, bound.parsed, executionBound.parsed,
    ExecutionProfile.modes_zero executionBound.parsed, fun h => h.2.2, fun absent => ?_⟩
  have zero : admission.targetExecutableLength = 0 := by
    have executable := bound.executable
    rw [absent] at executable
    exact executable
  exact ⟨zero, ComponentAdmission.executable_digest_zero bound.parsed zero, absent⟩

/-- The small bundle without an executable. -/
theorem small_bundle_inspected :
    ∃ admission, ComponentAdmission.parse
        (smallBundle none (ascii "x86_64-unknown-none") (ascii "ci")).admissionRecord = .ok admission ∧
      admission.targetExecutableLength = 0 ∧
      admission.targetExecutableSha256 = List.replicate 32 0 := by
  obtain ⟨admission, execution, parsed, -, -, absent⟩ :=
    inspection_without_executable_iff small_bundle_accepted
  obtain ⟨length, digest, -⟩ := absent.mpr rfl
  exact ⟨admission, parsed, length, digest⟩

/-- The same bundle with an executable, in the profile for inspection, is accepted as well. -/
theorem executable_accepted_for_inspection :
    let inputs := smallBundle (some (ascii "code")) (ascii "x86_64-unknown-none") (ascii "ci")
    verifyBundle smallPrimitives inputs = .ok smallReport ∧
      ∃ admission execution, ComponentAdmission.parse inputs.admissionRecord = .ok admission ∧
        ExecutionProfile.parse inputs.executionProfileRecord = .ok execution ∧
        (execution.codePublicationMode = 0 ∧ execution.trapMode = 0 ∧ execution.memoryMode = 0) ∧
        admission.targetExecutableLength ≠ 0 ∧ inputs.targetExecutable = some (ascii "code") := by
  intro inputs
  have accepted : verifyBundle smallPrimitives inputs = .ok smallReport := by decide +kernel
  obtain ⟨admission, execution, build, bound, executionBound, -⟩ := verifyBundle_eq_ok.mp accepted
  have executable : ExecutableBound smallPrimitives admission (some (ascii "code")) :=
    bound.executable
  exact ⟨accepted, admission, execution, bound.parsed, executionBound.parsed,
    ExecutionProfile.modes_zero executionBound.parsed, executable.1, rfl⟩

end MakopaVerified.Admission
