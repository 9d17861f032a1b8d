import MakopaVerified.Admission.Proofs.InspectionProofs
import MakopaVerified.Admission.Proofs.StagedProofs

/-!
# The admission record fixes the bundle

Two accepted bundles with one admission record are the same, but for the signature and the key: the
record binds the two other records, these bind their documents, and the manifest among them binds the
files of the staged tree.
-/

namespace MakopaVerified.Admission

open Foundation

variable {P : Primitives} {a b : BundleInputs}

namespace NoCollision

variable (clean : NoCollision P a b)

include clean

/-- Byte strings of the two bundles that are bound to one digest are the same. -/
theorem eq_of_digest {x y digest : List UInt8} (hx : x ∈ a.hashed) (hy : y ∈ b.hashed)
    (hxd : P.sha256 x = digest) (hyd : P.sha256 y = digest) : x = y :=
  clean (.inl hx) (.inr hy) (hxd.trans hyd.symm)

/-- A member that is bound to one digest in the two bundles. -/
theorem member_eq (member : BundleInputs → List UInt8)
    (listed : ∀ inputs : BundleInputs, member inputs ∈ inputs.hashed) {digest : List UInt8}
    (ha : P.sha256 (member a) = digest) (hb : P.sha256 (member b) = digest) : member a = member b :=
  clean.eq_of_digest (listed a) (listed b) ha hb

/-- A target executable is there in both bundles or in neither, and then it is the same. -/
theorem executable_eq {admission : ComponentAdmission}
    (ha : ExecutableBound P admission a.targetExecutable)
    (hb : ExecutableBound P admission b.targetExecutable) :
    a.targetExecutable = b.targetExecutable := by
  cases hxa : a.targetExecutable with
  | none =>
    rw [hxa] at ha
    cases hxb : b.targetExecutable with
    | none => rfl
    | some y =>
      rw [hxb] at hb
      exact absurd ha hb.1
  | some x =>
    rw [hxa] at ha
    cases hxb : b.targetExecutable with
    | none =>
      rw [hxb] at hb
      exact absurd hb ha.1
    | some y =>
      rw [hxb] at hb
      have hx : x ∈ a.hashed := by simp [BundleInputs.hashed, hxa]
      have hy : y ∈ b.hashed := by simp [BundleInputs.hashed, hxb]
      rw [clean.eq_of_digest hx hy ha.2.digest_eq hb.2.digest_eq]

/-- Trees with the same entries have the same files. -/
theorem mem_files {file : List FileName × Bool × List UInt8} (mem : file ∈ a.files)
    (same : ∀ entry, entry ∈ a.files.map (entryOf P.sha256) → entry ∈ b.files.map (entryOf P.sha256)) :
    file ∈ b.files := by
  obtain ⟨file', mem', entry⟩ := List.mem_map.mp (same _ (List.mem_map_of_mem mem))
  have hx : file.2.2 ∈ a.hashed :=
    List.mem_append_right _ (List.mem_map_of_mem (f := fun file => file.2.2) mem)
  have hy : file'.2.2 ∈ b.hashed :=
    List.mem_append_right _ (List.mem_map_of_mem (f := fun file => file.2.2) mem')
  have eq : file = file' :=
    entryOf_injective entry.symm fun digest => clean (.inl hx) (.inr hy) digest
  exact eq ▸ mem'

omit clean in
theorem symm (clean : NoCollision P a b) : NoCollision P b a :=
  clean.mono fun _ => Or.symm

end NoCollision

/-- The manifest of an accepted bundle, and that the staged tree has its files and no others. -/
theorem interpretBundle_files {admission : ComponentAdmission} {build : BuildEvidence}
    {report : AdmissionReport} (h : interpretBundle P a admission build = .ok report) :
    ∃ manifest, SourceManifest.parse a.sourceManifest = .ok manifest ∧
      ∀ entry, entry ∈ manifest.entries ↔ entry ∈ a.files.map (entryOf P.sha256) := by
  unfold interpretBundle at h
  obtain ⟨-, h⟩ := unit_bind_eq_ok.mp h
  obtain ⟨-, h⟩ := unit_bind_eq_ok.mp h
  obtain ⟨-, h⟩ := unit_bind_eq_ok.mp h
  obtain ⟨manifest, parsed, h⟩ := bind_eq_ok.mp h
  obtain ⟨staged, -⟩ := unit_bind_eq_ok.mp h
  exact ⟨manifest, parsed, SourceManifest.verifyStagedRoot_files parsed staged⟩

/-- Two accepted bundles with the same admission record have the same members and the same files in the
staged tree, if no two byte strings of them collide. -/
theorem record_fixes_bundle {report report' : AdmissionReport}
    (accepted : verifyBundle P a = .ok report) (accepted' : verifyBundle P b = .ok report')
    (same : a.admissionRecord = b.admissionRecord) (clean : NoCollision P a b) : SameBundle a b := by
  obtain ⟨admission, execution, build, bound, executionBound, -, -, buildBound, interpreted⟩ :=
    verifyBundle_eq_ok.mp accepted
  obtain ⟨admission', execution', build', bound', executionBound', -, -, buildBound', interpreted'⟩ :=
    verifyBundle_eq_ok.mp accepted'
  -- One record, so one set of values that it binds.
  obtain rfl : admission = admission' := by
    have parsed := bound.parsed
    rw [same, bound'.parsed] at parsed
    exact (Except.ok.inj parsed).symm
  have profile : a.executionProfileRecord = b.executionProfileRecord :=
    clean.member_eq (·.executionProfileRecord) (fun _ => by simp [BundleInputs.hashed])
      bound.executionProfile bound'.executionProfile
  have evidence : a.buildEvidenceRecord = b.buildEvidenceRecord :=
    clean.member_eq (·.buildEvidenceRecord) (fun _ => by simp [BundleInputs.hashed])
      bound.buildEvidence bound'.buildEvidence
  obtain rfl : execution = execution' := by
    have parsed := executionBound.parsed
    rw [profile, executionBound'.parsed] at parsed
    exact (Except.ok.inj parsed).symm
  obtain rfl : build = build' := by
    have parsed := buildBound.parsed
    rw [evidence, buildBound'.parsed] at parsed
    exact (Except.ok.inj parsed).symm
  have listed : a.sourceManifest = b.sourceManifest :=
    clean.member_eq (·.sourceManifest) (fun _ => by simp [BundleInputs.hashed])
      buildBound.manifest.digest_eq buildBound'.manifest.digest_eq
  -- One manifest, so one set of entries for the files of the two trees.
  obtain ⟨manifest, parsed, files⟩ := interpretBundle_files interpreted
  obtain ⟨manifest', parsed', files'⟩ := interpretBundle_files interpreted'
  obtain rfl : manifest = manifest' := by
    rw [listed, parsed'] at parsed
    exact (Except.ok.inj parsed).symm
  have entries (entry : SourceEntry) : entry ∈ a.files.map (entryOf P.sha256) ↔
      entry ∈ b.files.map (entryOf P.sha256) := (files entry).symm.trans (files' entry)
  exact
    { component := clean.member_eq (·.portableComponent) (fun _ => by simp [BundleInputs.hashed])
        bound.component.digest_eq bound'.component.digest_eq
      executable := clean.executable_eq bound.executable bound'.executable
      wit := clean.member_eq (·.wit) (fun _ => by simp [BundleInputs.hashed])
        bound.wit bound'.wit
      executionProfile := profile
      triple := clean.member_eq (·.targetTriple) (fun _ => by simp [BundleInputs.hashed])
        executionBound.triple.digest_eq executionBound'.triple.digest_eq
      runtime := clean.member_eq (·.runtimeConfiguration) (fun _ => by simp [BundleInputs.hashed])
        executionBound.runtime.digest_eq executionBound'.runtime.digest_eq
      compiler := clean.member_eq (·.compilerConfiguration) (fun _ => by simp [BundleInputs.hashed])
        executionBound.compiler.digest_eq executionBound'.compiler.digest_eq
      buildEvidence := evidence
      manifest := listed
      builder := clean.member_eq (·.builderIdentity) (fun _ => by simp [BundleInputs.hashed])
        buildBound.builder.digest_eq buildBound'.builder.digest_eq
      transcript := clean.member_eq (·.commandTranscript) (fun _ => by simp [BundleInputs.hashed])
        buildBound.transcript.digest_eq buildBound'.transcript.digest_eq
      lock := clean.member_eq (·.dependencyLock) (fun _ => by simp [BundleInputs.hashed])
        buildBound.lock.digest_eq buildBound'.lock.digest_eq
      tools := clean.member_eq (·.toolVersions) (fun _ => by simp [BundleInputs.hashed])
        buildBound.tools.digest_eq buildBound'.tools.digest_eq
      files := fun path executable contents =>
        ⟨fun mem => clean.mem_files mem fun entry => (entries entry).mp,
          fun mem => clean.symm.mem_files mem fun entry => (entries entry).mpr⟩ }

/-- The small bundle, and the same with another signature and an empty directory in its tree. -/
theorem resigned_bundle_same :
    let inputs := smallBundle none (ascii "x86_64-unknown-none") (ascii "ci")
    let resigned := { inputs with
      detachedSignature := List.replicate 64 5
      stagedSourceRoot := some (.directory (.cons ⟨ascii "empty", by decide, by decide⟩
        (.directory .nil) (.cons sourceName (.file 0o644 (ascii "source")) .nil))) }
    SameBundle inputs resigned := by
  intro inputs resigned
  have accepted' : verifyBundle smallPrimitives resigned = .ok smallReport := by decide +kernel
  refine record_fixes_bundle small_bundle_accepted accepted' rfl ?_
  have apart : ∀ x ∈ inputs.hashed ++ resigned.hashed, ∀ y ∈ inputs.hashed ++ resigned.hashed,
      smallDigest x = smallDigest y → x = y := by decide +kernel
  intro x hx y hy
  exact apart x (List.mem_append.mpr hx) y (List.mem_append.mpr hy)

end MakopaVerified.Admission
