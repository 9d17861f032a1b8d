import MakopaVerified.Admission.Binding
import MakopaVerified.Admission.Proofs.ManifestProofs

/-!
# The manifest and the staged tree

`collect_source_files` lists every file of the tree, in the form in which the manifest has it. The paths
of a manifest are strictly increasing, so as many files as entries, with an entry for each of them, are
the files of the manifest and no others.
-/

namespace MakopaVerified.Admission

open Foundation List

variable {sha256 : List UInt8 → List UInt8}

/-! ## Paths and their texts -/

theorem joinPath_eq (parts : List (List UInt8)) : joinPath parts = [0x2f].intercalate parts := by
  induction parts with
  | nil => rfl
  | cons part parts ih =>
    cases parts with
    | nil => simp [joinPath]
    | cons next parts =>
      rw [joinPath, ih, intercalate_cons_cons, append_assoc]
      rfl
      exact cons_ne_nil _ _

/-- A path is found again in its text. -/
theorem splitOn_joinPath {path : List FileName} (h : path ≠ []) :
    (joinPath (path.map FileName.bytes)).splitOn 0x2f = path.map FileName.bytes := by
  rw [joinPath_eq]
  refine splitOn_intercalate _ (fun part mem => ?_) (by simpa using h)
  obtain ⟨name, -, rfl⟩ := mem_map.mp mem
  exact name.noSlash

theorem joinPath_ne_nil {path : List FileName} (h : path ≠ []) :
    joinPath (path.map FileName.bytes) ≠ [] := by
  intro empty
  have split := splitOn_joinPath h
  rw [empty, splitOn_nil] at split
  cases path with
  | nil => exact h rfl
  | cons name path =>
    rw [map_cons, List.cons.injEq] at split
    exact name.nonempty split.1.symm

theorem FileName.bytes_injective : Function.Injective FileName.bytes := by
  rintro ⟨a, _, _⟩ ⟨b, _, _⟩ h
  cases h
  rfl

theorem joinPath_injective {path path' : List FileName}
    (h : joinPath (path.map FileName.bytes) = joinPath (path'.map FileName.bytes)) :
    path = path' := by
  by_cases hpath : path = []
  · subst hpath
    by_contra hne
    exact joinPath_ne_nil (Ne.symm hne) h.symm
  · have hpath' : path' ≠ [] := by
      rintro rfl
      exact joinPath_ne_nil hpath h
    refine map_injective_iff.mpr FileName.bytes_injective ?_
    rw [← splitOn_joinPath hpath, h, splitOn_joinPath hpath']

/-! ## The entries of the tree -/

/-- The entry for a file. -/
def entryOf (sha256 : List UInt8 → List UInt8) (file : List FileName × Bool × List UInt8) :
    SourceEntry :=
  { mode := if file.2.1 then executableMode else regularMode
    length := UInt64.ofNat file.2.2.length
    sha256 := sha256 file.2.2
    path := joinPath (file.1.map FileName.bytes) }

theorem fileMode_eq (permissions : UInt32) :
    fileMode permissions =
      if decide (permissions &&& 0o111 ≠ 0) then executableMode else regularMode := by
  unfold fileMode
  by_cases h : permissions &&& 0o111 = 0
  · rw [if_pos h, if_neg (by simpa using h)]
  · rw [if_neg h, if_pos (by simpa using h)]

/-- The limits of `collect_source_files` on one file. -/
structure Fits (file : List FileName × Bool × List UInt8) : Prop where
  utf8 : ∀ name ∈ file.1, isUtf8 name.bytes = true
  path : ValidPath (joinPath (file.1.map FileName.bytes))
  length : file.2.2.length ≤ maxSourceFileBytes

def paths (entries : List SourceEntry) : List (List UInt8) := entries.map SourceEntry.path

theorem Increasing.nodup_paths {entries : List SourceEntry} (increasing : Increasing entries) :
    (paths entries).Nodup := by
  refine pairwise_map.mpr (increasing.imp fun {first second} below same => ?_)
  rw [same, bytesLt_irrefl] at below
  cases below

theorem readBounded_of_le {contents : List UInt8} {maximum : Nat}
    (h : contents.length ≤ maximum) : readBounded contents maximum = .ok contents := by
  have whole : contents.take (maximum + 1) = contents := take_of_length_le (by omega)
  unfold readBounded
  rw [whole, bind_of_ok (a := ()) (rejectIf_eq_ok.mpr (by omega))]
  rfl

theorem relativePath_eq_ok {path : List FileName} {relative : List UInt8} :
    relativePath path = .ok relative ↔
      (∀ name ∈ path, isUtf8 name.bytes = true) ∧ relative = joinPath (path.map FileName.bytes) := by
  unfold relativePath
  rw [rejectIf_bind_eq_ok]
  simp only [any_eq_true, Bool.not_eq_true', not_exists, not_and, Bool.not_eq_false]
  refine and_congr_right fun _ => ?_
  show Except.ok _ = .ok relative ↔ _
  rw [Except.ok.injEq, eq_comm]

/-- The entries of the files are added to those so far: each file fits, no path comes twice and there
is room for all. -/
structure Collects (sha256 : List UInt8 → List UInt8) (result : List SourceEntry)
    (files : List (List FileName × Bool × List UInt8)) (result' : List SourceEntry) : Prop where
  fits : ∀ file ∈ files, Fits file
  added : result' = result ++ files.map (entryOf sha256)
  nodup : (paths result').Nodup
  room : result'.length ≤ maxSourceFiles

namespace Collects

variable {result result' : List SourceEntry} {files files' : List (List FileName × Bool × List UInt8)}

theorem nil_iff (nodup : (paths result).Nodup) (room : result.length ≤ maxSourceFiles) :
    Collects sha256 result [] result' ↔ result' = result := by
  constructor
  · intro h
    rw [h.added, map_nil, append_nil]
  · rintro rfl
    exact ⟨nofun, by rw [map_nil, append_nil], nodup, room⟩

theorem append_iff : Collects sha256 result (files ++ files') result' ↔
    ∃ middle, Collects sha256 result files middle ∧ Collects sha256 middle files' result' := by
  constructor
  · intro h
    have added := h.added
    rw [map_append, ← append_assoc] at added
    have nodup := h.nodup
    have room := h.room
    rw [added, paths, map_append] at nodup
    rw [added, length_append] at room
    exact ⟨_, ⟨fun file mem => h.fits file (mem_append_left _ mem), rfl, nodup.of_append_left,
        by omega⟩,
      ⟨fun file mem => h.fits file (mem_append_right _ mem), added, h.nodup, h.room⟩⟩
  · rintro ⟨middle, first, second⟩
    refine ⟨fun file mem => ?_, ?_, second.nodup, second.room⟩
    · exact (mem_append.mp mem).elim (first.fits file) (second.fits file)
    · rw [second.added, first.added, map_append, append_assoc]

end Collects

theorem nodup_paths_concat {result : List SourceEntry} {entry : SourceEntry}
    (nodup : (paths result).Nodup) :
    (paths (result ++ [entry])).Nodup ↔ ¬ result.any fun other => other.path = entry.path := by
  rw [paths, map_append, map_singleton, nodup_append_comm, singleton_append,
    nodup_cons, mem_map, any_eq_true]
  constructor
  · rintro ⟨fresh, -⟩ ⟨other, mem, same⟩
    exact fresh ⟨other, mem, of_decide_eq_true same⟩
  · intro fresh
    exact ⟨fun ⟨other, mem, same⟩ => fresh ⟨other, mem, decide_eq_true same⟩, nodup⟩

/-- A regular file is added. -/
theorem collectFile_eq_ok {path : List FileName} {permissions : UInt32} {contents : List UInt8}
    {result result' : List SourceEntry} (nodup : (paths result).Nodup) :
    collectFile sha256 path permissions contents result = .ok result' ↔
      Collects sha256 result [(path, permissions &&& 0o111 ≠ 0, contents)] result' := by
  have entry : entryOf sha256 (path, permissions &&& 0o111 ≠ 0, contents) =
      { mode := fileMode permissions
        length := UInt64.ofNat contents.length
        sha256 := sha256 contents
        path := joinPath (path.map FileName.bytes) } := by
    rw [entryOf, ← fileMode_eq]
  unfold collectFile
  simp only [bind_eq_ok, rejectIf_eq_ok, relativePath_eq_ok, not_or]
  constructor
  · rintro ⟨_, small, relative, ⟨utf8, rfl⟩, _, valid, bytes, read, _, ⟨fresh, room⟩, ⟨⟩⟩
    rw [readBounded_of_le (Nat.le_of_not_gt small)] at read
    cases read
    rw [← entry]
    refine ⟨forall_mem_singleton.mpr
      ⟨utf8, validatePath_eq_ok.mp valid, Nat.le_of_not_gt small⟩, rfl, ?_, ?_⟩
    · exact (nodup_paths_concat nodup).mpr fresh
    · rw [length_append, length_singleton]
      omega
  · rintro ⟨fits, rfl, fresh, room⟩
    obtain ⟨utf8, valid, small⟩ := forall_mem_singleton.mp fits
    rw [map_singleton] at fresh room ⊢
    rw [length_append, length_singleton] at room
    exact ⟨(), Nat.not_lt.mpr small, _, ⟨utf8, rfl⟩, (), validatePath_eq_ok.mpr valid,
      contents, readBounded_of_le small, (),
      ⟨(nodup_paths_concat nodup).mp fresh, Nat.not_lt.mpr room⟩, by rw [entry]; rfl⟩

mutual

/-- A node adds the entries of its files. -/
theorem collectNode_eq_ok {path : List FileName} {result result' : List SourceEntry} (node : Node)
    (nodup : (paths result).Nodup) (room : result.length ≤ maxSourceFiles) :
    collectNode sha256 path node result = .ok result' ↔
      node.Plain ∧ Collects sha256 result (node.files path) result' := by
  match node with
  | .symlink => exact ⟨nofun, fun h => h.1.elim⟩
  | .special => exact ⟨nofun, fun h => h.1.elim⟩
  | .directory children =>
    unfold collectNode Node.files Node.Plain
    exact collectSourceFiles_eq_ok children nodup room
  | .file permissions contents =>
    unfold collectNode Node.files Node.Plain
    rw [collectFile_eq_ok nodup, true_and]

/-- A directory adds the entries of its files. -/
theorem collectSourceFiles_eq_ok {path : List FileName} {result result' : List SourceEntry}
    (children : Listing) (nodup : (paths result).Nodup) (room : result.length ≤ maxSourceFiles) :
    collectSourceFiles sha256 path children result = .ok result' ↔
      children.Plain ∧ Collects sha256 result (children.files path) result' := by
  match children with
  | .nil =>
    unfold collectSourceFiles Listing.files Listing.Plain
    rw [Collects.nil_iff nodup room, true_and]
    show Except.ok result = .ok result' ↔ _
    rw [Except.ok.injEq, eq_comm]
  | .cons name node rest =>
    unfold collectSourceFiles Listing.files Listing.Plain
    rw [Collects.append_iff, bind_eq_ok]
    constructor
    · rintro ⟨middle, first, second⟩
      obtain ⟨plain, first⟩ := (collectNode_eq_ok node nodup room).mp first
      obtain ⟨plain', second⟩ := (collectSourceFiles_eq_ok rest first.nodup first.room).mp second
      exact ⟨⟨plain, plain'⟩, middle, first, second⟩
    · rintro ⟨⟨plain, plain'⟩, middle, first, second⟩
      exact ⟨middle, (collectNode_eq_ok node nodup room).mpr ⟨plain, first⟩,
        (collectSourceFiles_eq_ok rest first.nodup first.room).mpr ⟨plain', second⟩⟩

end

theorem matchEntries_eq_ok {actual entries : List SourceEntry} (nodup : (paths actual).Nodup) :
    matchEntries actual entries = .ok () ↔ entries ⊆ actual := by
  induction entries with
  | nil => exact ⟨fun _ => nil_subset _, fun _ => rfl⟩
  | cons entry entries ih =>
    unfold matchEntries
    simp only [okOr_bind_eq_ok, rejectIf_bind_eq_ok, find?_eq_some_iff_of_nodup nodup, ih, cons_subset]
    constructor
    · rintro ⟨value, ⟨mem, path⟩, agrees, rest⟩
      push Not at agrees
      obtain ⟨mode, length, digest⟩ := agrees
      have same : value = entry := by
        cases value
        cases entry
        simp_all
      exact ⟨same ▸ mem, rest⟩
    · rintro ⟨mem, rest⟩
      exact ⟨entry, ⟨mem, rfl⟩, by simp, rest⟩

/-- The walk over the whole tree. -/
theorem collectSourceFiles_root {children : Listing} {actual : List SourceEntry} :
    collectSourceFiles sha256 [] children [] = .ok actual ↔
      children.Plain ∧ Collects sha256 [] (children.files []) actual := by
  have nodup : (paths []).Nodup := nodup_nil
  exact collectSourceFiles_eq_ok children nodup (Nat.zero_le _)

namespace SourceManifest

variable {manifest : SourceManifest}

/-- The tree is a directory of files that fit, and their entries are those of the manifest. -/
theorem verifyStagedRoot_eq_ok (nodup : (paths manifest.entries).Nodup)
    (few : manifest.entries.length ≤ maxSourceFiles) {root : Option Node} :
    manifest.verifyStagedRoot sha256 root = .ok () ↔
      ∃ children, root = some (.directory children) ∧ children.Plain ∧
        (∀ file ∈ children.files [], Fits file) ∧
        manifest.entries.Perm ((children.files []).map (entryOf sha256)) := by
  constructor
  · intro h
    match root, h with
    | some (.directory children), h =>
      unfold verifyStagedRoot at h
      simp only [bind_eq_ok, rejectIf_eq_ok, not_not] at h
      obtain ⟨actual, collected, _, count, matched⟩ := h
      obtain ⟨plain, collects⟩ := collectSourceFiles_root.mp collected
      have listed := collects.added
      rw [nil_append] at listed
      refine ⟨children, rfl, plain, collects.fits, listed ▸ ?_⟩
      have subset := (matchEntries_eq_ok collects.nodup).mp matched
      exact (nodup.of_map.subperm subset).perm_of_length_le count.le
  · rintro ⟨children, rfl, plain, fits, perm⟩
    unfold verifyStagedRoot
    simp only [bind_eq_ok, rejectIf_eq_ok, not_not]
    have nodup' : (paths ((children.files []).map (entryOf sha256))).Nodup :=
      (perm.map _).nodup_iff.mp nodup
    have collected := collectSourceFiles_root.mpr ⟨plain, fits, rfl, nodup', perm.length_eq ▸ few⟩
    exact ⟨_, collected, (), perm.length_eq.symm, (matchEntries_eq_ok nodup').mpr perm.subset⟩

/-- The same for a manifest that was parsed. -/
theorem verifyStagedRoot_of_parse {bytes : List UInt8} {root : Option Node}
    (parsed : SourceManifest.parse bytes = .ok manifest) :
    manifest.verifyStagedRoot sha256 root = .ok () ↔
      ∃ children, root = some (.directory children) ∧ children.Plain ∧
        (∀ file ∈ children.files [], Fits file) ∧
        manifest.entries.Perm ((children.files []).map (entryOf sha256)) := by
  obtain ⟨valid, chain, -⟩ := print_of_parse parsed
  exact verifyStagedRoot_eq_ok (Increasing.of_chain chain).nodup_paths valid.count_le

/-- A tree that passes has the files of the manifest and no others. -/
theorem verifyStagedRoot_files {bytes : List UInt8} {inputs : BundleInputs}
    (parsed : SourceManifest.parse bytes = .ok manifest)
    (h : manifest.verifyStagedRoot sha256 inputs.stagedSourceRoot = .ok ()) (entry : SourceEntry) :
    entry ∈ manifest.entries ↔ entry ∈ inputs.files.map (entryOf sha256) := by
  obtain ⟨children, root, -, -, perm⟩ := (verifyStagedRoot_of_parse parsed).mp h
  unfold BundleInputs.files
  rw [root]
  exact perm.mem_iff

end SourceManifest

/-! ## Trees and maps -/

mutual

theorem Node.path_of_mem_files {path : List FileName} {file : List FileName × Bool × List UInt8}
    (node : Node) (mem : file ∈ node.files path) : path <+: file.1 := by
  match node, mem with
  | .file permissions contents, mem =>
    unfold Node.files at mem
    rw [mem_singleton.mp mem]
  | .directory children, mem =>
    unfold Node.files at mem
    obtain ⟨name, -, below⟩ := Listing.path_of_mem_files children mem
    exact (prefix_append _ _).trans below
  | .symlink, mem =>
    unfold Node.files at mem
    cases mem
  | .special, mem =>
    unfold Node.files at mem
    cases mem

theorem Listing.path_of_mem_files {path : List FileName} {file : List FileName × Bool × List UInt8}
    (children : Listing) (mem : file ∈ children.files path) :
    ∃ name ∈ children.names, path ++ [name] <+: file.1 := by
  match children, mem with
  | .nil, mem =>
    unfold Listing.files at mem
    cases mem
  | .cons name node rest, mem =>
    unfold Listing.files at mem
    obtain mem | mem := mem_append.mp mem
    · exact ⟨name, mem_cons_self, Node.path_of_mem_files node mem⟩
    · obtain ⟨other, listed, below⟩ := Listing.path_of_mem_files rest mem
      exact ⟨other, mem_cons_of_mem _ listed, below⟩

end

/-- Paths through two children are different. -/
theorem name_eq_of_below {path whole : List FileName} {name other : FileName}
    (first : path ++ [name] <+: whole) (second : path ++ [other] <+: whole) : name = other := by
  have same : path ++ [name] = path ++ [other] :=
    (prefix_of_prefix_length_le first second (by simp)).eq_of_length (by simp)
  exact (List.cons.inj (append_cancel_left same)).1

mutual

/-- A tree without two children of one name has no two files of one path. -/
theorem Node.Distinct.nodup_files {path : List FileName} {node : Node} (distinct : node.Distinct) :
    ((node.files path).map Prod.fst).Nodup := by
  match node, distinct with
  | .file permissions contents, _ =>
    unfold Node.files
    exact nodup_singleton _
  | .directory children, distinct =>
    unfold Node.files
    unfold Node.Distinct at distinct
    exact Listing.Distinct.nodup_files distinct
  | .symlink, _ =>
    unfold Node.files
    exact nodup_nil
  | .special, _ =>
    unfold Node.files
    exact nodup_nil

theorem Listing.Distinct.nodup_files {path : List FileName} {children : Listing}
    (distinct : children.Distinct) : ((children.files path).map Prod.fst).Nodup := by
  match children, distinct with
  | .nil, _ =>
    unfold Listing.files
    exact nodup_nil
  | .cons name node rest, distinct =>
    unfold Listing.files
    unfold Listing.Distinct at distinct
    obtain ⟨fresh, first, second⟩ := distinct
    rw [map_append, nodup_append]
    refine ⟨Node.Distinct.nodup_files first, Listing.Distinct.nodup_files second, ?_⟩
    rintro whole mem _ mem' rfl
    obtain ⟨file, inNode, rfl⟩ := mem_map.mp mem
    obtain ⟨file', inRest, same⟩ := mem_map.mp mem'
    obtain ⟨name', listed, below⟩ := Listing.path_of_mem_files rest inRest
    have through := Node.path_of_mem_files node inNode
    rw [same] at below
    exact fresh (name_eq_of_below through below ▸ listed)

end

/-- In such a tree the texts of the paths are different too. -/
theorem Node.Distinct.nodup_texts {node : Node} (distinct : node.Distinct) :
    ((node.files []).map fun file => joinPath (file.1.map FileName.bytes)).Nodup := by
  have nodup : ((node.files []).map Prod.fst).Nodup := distinct.nodup_files
  have texts := nodup.map fun _ _ => joinPath_injective
  rwa [map_map] at texts

theorem mem_joinPath {parts : List (List UInt8)} {part : List UInt8} {byte : UInt8} (mem : byte ∈ part)
    (listed : part ∈ parts) : byte ∈ joinPath parts := by
  induction parts with
  | nil => cases listed
  | cons first parts ih =>
    cases parts with
    | nil =>
      obtain rfl := mem_singleton.mp listed
      exact mem
    | cons next parts =>
      rw [joinPath]
      · obtain rfl | listed := mem_cons.mp listed
        · exact mem_append_left _ mem
        · exact mem_append_right _ (mem_cons_of_mem _ (ih listed))
      · exact cons_ne_nil _ _

/-- The parts of a valid path are ASCII, and so UTF-8. -/
theorem ValidPath.isUtf8 {path : List FileName} (valid : ValidPath (joinPath (path.map FileName.bytes)))
    {name : FileName} (listed : name ∈ path) : isUtf8 name.bytes = true := by
  refine isUtf8_of_isAscii (all_eq_true.mpr fun byte mem => decide_eq_true ?_)
  have printable := valid.printable byte (mem_joinPath mem (mem_map_of_mem listed))
  exact UInt8.lt_of_le_of_lt printable.2 (by decide)

/-- A file with the path, mode, length and digest of an entry has that entry. -/
theorem entryOf_eq {file : List FileName × Bool × List UInt8} {entry : SourceEntry}
    (path : joinPath (file.1.map FileName.bytes) = entry.path)
    (value : (if file.2.1 then executableMode else regularMode, file.2.2.length, sha256 file.2.2) =
      (entry.mode, entry.length.toNat, entry.sha256)) : entryOf sha256 file = entry := by
  rw [Prod.mk.injEq, Prod.mk.injEq] at value
  obtain ⟨mode, length, digest⟩ := value
  rw [entryOf, mode, length, digest, path, UInt64.ofNat_toNat]

/-- The manifest and the tree are the same map just when the files of the tree fit and their entries
are those of the manifest. -/
theorem inventory_eq_iff {manifest : SourceManifest} {root : Node} (distinct : root.Distinct)
    (nodup : (paths manifest.entries).Nodup) (valid : ∀ entry ∈ manifest.entries, entry.Valid) :
    root.inventory sha256 = manifest.inventory ↔
      (∀ file ∈ root.files [], Fits file) ∧
        manifest.entries.Perm ((root.files []).map (entryOf sha256)) := by
  rw [show root.inventory sha256 = manifest.inventory ↔ _ from
    valueOf_eq_iff distinct.nodup_texts nodup]
  constructor
  · rintro ⟨toEntry, toFile⟩
    refine ⟨fun file mem => ?_, ?_⟩
    · obtain ⟨entry, listed, path, value⟩ := toEntry file mem
      rw [Prod.mk.injEq, Prod.mk.injEq] at value
      have validPath := (valid entry listed).path
      rw [path] at validPath
      exact ⟨fun name => validPath.isUtf8, validPath, value.2.1 ▸ (valid entry listed).length⟩
    · have nodup' : ((root.files []).map (entryOf sha256)).Nodup := by
        refine List.Nodup.of_map SourceEntry.path ?_
        rw [map_map]
        exact distinct.nodup_texts
      refine (perm_ext_iff_of_nodup nodup.of_map nodup').mpr fun entry => ?_
      rw [mem_map]
      constructor
      · intro listed
        obtain ⟨file, mem, path, value⟩ := toFile entry listed
        exact ⟨file, mem, entryOf_eq path value⟩
      · rintro ⟨file, mem, rfl⟩
        obtain ⟨entry, listed, path, value⟩ := toEntry file mem
        rwa [entryOf_eq path.symm value.symm]
  · rintro ⟨fits, perm⟩
    have length (file) (mem : file ∈ root.files []) :
        (entryOf sha256 file).length.toNat = file.2.2.length :=
      UInt64.toNat_ofNat_of_lt' ((fits file mem).length.trans_lt (by decide))
    refine ⟨fun file mem => ?_, fun entry mem => ?_⟩
    · refine ⟨entryOf sha256 file, perm.mem_iff.mpr (mem_map_of_mem mem), rfl, ?_⟩
      rw [length file mem]
      rfl
    · obtain ⟨file, listed, rfl⟩ := mem_map.mp (perm.mem_iff.mp mem)
      refine ⟨file, listed, rfl, ?_⟩
      rw [length file listed]
      rfl

/-- The check of the staged tree succeeds just when there is a directory with nothing but files and
directories in it, and its files are, as a map, the entries of the manifest. -/
theorem staged_inventory_exact {bytes : List UInt8} {manifest : SourceManifest} {root : Option Node}
    (parsed : SourceManifest.parse bytes = .ok manifest) (distinct : ∀ node ∈ root, node.Distinct) :
    manifest.verifyStagedRoot sha256 root = .ok () ↔
      ∃ children, root = some (.directory children) ∧ (Node.directory children).Plain ∧
        (Node.directory children).inventory sha256 = manifest.inventory := by
  rw [SourceManifest.verifyStagedRoot_of_parse parsed]
  obtain ⟨valid, chain, -⟩ := SourceManifest.print_of_parse parsed
  have nodup := (Increasing.of_chain chain).nodup_paths
  refine exists_congr fun children => and_congr_right fun hroot => ?_
  rw [inventory_eq_iff (distinct _ hroot) nodup valid.entries]
  unfold Node.Plain Node.files
  exact Iff.rfl

/-- A tree with the two files of a manifest, and an empty directory. -/
theorem two_files_staged :
    let name (text : String) (h : ascii text ≠ [] ∧ 0x2f ∉ ascii text) : FileName :=
      ⟨ascii text, h.1, h.2⟩
    let file := Node.file 0o644 (List.replicate 12 7)
    let root := Node.directory (.cons (name "a" (by decide)) (.directory (.cons (name "b" (by decide))
      file .nil)) (.cons (name "c" (by decide)) file (.cons (name "d" (by decide))
        (.directory .nil) .nil)))
    ∃ children, some root = some (.directory children) ∧ (Node.directory children).Plain ∧
      (Node.directory children).inventory (fun _ => List.replicate 32 0x3c) =
        (manifestOf ["a/b", "c"]).inventory := by
  intro name file root
  have parsed : SourceManifest.parse (manifestOf ["a/b", "c"]).print =
      .ok (manifestOf ["a/b", "c"]) := by decide +kernel
  refine (staged_inventory_exact parsed ?_).mp (by decide +kernel)
  rintro node ⟨⟩
  simp [root, file, name, Node.Distinct, Listing.Distinct, Listing.names]
  decide

/-- Two files with one entry are the same, if their contents do not collide. -/
theorem entryOf_injective {file file' : List FileName × Bool × List UInt8}
    (h : entryOf sha256 file = entryOf sha256 file')
    (clean : sha256 file.2.2 = sha256 file'.2.2 → file.2.2 = file'.2.2) : file = file' := by
  obtain ⟨path, executable, contents⟩ := file
  obtain ⟨path', executable', contents'⟩ := file'
  rw [entryOf, entryOf, SourceEntry.mk.injEq] at h
  obtain ⟨mode, -, digest, text⟩ := h
  obtain rfl := joinPath_injective text
  obtain rfl : contents = contents' := clean digest
  replace mode : (if executable then executableMode else regularMode) =
      if executable' then executableMode else regularMode := mode
  have bit : executable = executable' := by
    revert mode
    cases executable <;> cases executable' <;> decide
  rw [bit]

end MakopaVerified.Admission
