import MakopaVerified.Admission.Proofs.TextProofs

/-!
# One spelling for each source manifest

`SourceManifestV1::parse` accepts a text just when it is the printing of a manifest that keeps the rules,
and returns that manifest. Each small parser is the inverse of a printer; the loop over the entry lines
is one step for each line, and the rules on neighbouring paths are a chain along the entries.
-/

namespace MakopaVerified.Admission

open Foundation SourceManifest List

variable {path : List UInt8} {entries : List SourceEntry}

/-! ## An entry line -/

theorem parseMode_eq_ok {text : List UInt8} {mode : UInt32} :
    parseMode text = .ok mode ↔
      (mode = regularMode ∨ mode = executableMode) ∧ text = printMode mode := by
  unfold parseMode printMode
  constructor
  · intro h
    split at h
    · cases h
      exact ⟨.inl rfl, by rwa [if_pos rfl]⟩
    · split at h
      · cases h
        exact ⟨.inr rfl, by rwa [if_neg (by decide)]⟩
      · cases h
  · rintro ⟨rfl | rfl, rfl⟩
    · rfl
    · rfl

/-- A path may follow when it is larger and not in a directory of that name. -/
theorem pathRefused_eq_false {prior : List UInt8} :
    pathRefused prior path = false ↔ bytesLt prior path = true ∧ ¬ InDirectory prior path := by
  unfold pathRefused InDirectory
  rw [Bool.or_eq_false_iff, Bool.not_eq_false']
  refine and_congr_right fun _ => ?_
  rw [← Bool.not_eq_true, not_iff_not, Option.any_eq_true]
  constructor
  · rintro ⟨rest, dropped, slash⟩
    obtain ⟨more, rfl⟩ := startsWith_iff.mp slash
    refine ⟨more, ?_⟩
    rw [dropStart_eq_some.mp dropped, append_assoc]
    rfl
  · rintro ⟨more, rfl⟩
    refine ⟨0x2f :: more, dropStart_eq_some.mpr ?_, startsWith_iff.mpr ⟨more, rfl⟩⟩
    rw [append_assoc]
    rfl

/-- The fields of a line that is split into four. -/
theorem fields_eq {fields : List (List UInt8)} (few : fields.length ≤ 4) {a b c d : List UInt8} :
    (fields[0]? = some a ∧ fields[1]? = some b ∧ fields[2]? = some c ∧ fields[3]? = some d) ↔
      fields = [a, b, c, d] := by
  constructor
  · rintro ⟨h0, h1, h2, h3⟩
    match fields, few, h0, h1, h2, h3 with
    | [_, _, _, _], _, rfl, rfl, rfl, rfl => rfl
  · rintro rfl
    exact ⟨rfl, rfl, rfl, rfl⟩

/-- No blank is in the first three fields. -/
theorem blank_notMem_print (entry : SourceEntry) :
    0x20 ∉ printMode entry.mode ∧ 0x20 ∉ decimalText entry.length.toNat ∧
      0x20 ∉ encodeHex entry.sha256 := by
  refine ⟨?_, ?_, ?_⟩
  · unfold printMode
    split <;> decide
  · intro mem
    exact absurd (isDigit_of_mem_decimalText _ mem).1 (by decide)
  · intro mem
    obtain ⟨nibble, small, blank⟩ := hexDigit_of_mem_encodeHex mem
    have admitted := hexDigit_admitted nibble small
    rw [← blank] at admitted
    exact absurd admitted (by decide)

/-- Adding a length in bounds. -/
theorem checkedAdd_length {aggregate length sum : UInt64} :
    checkedAdd aggregate length = some sum ∧ sum.toNat ≤ maxSourceBytes ↔
      sum = aggregate + length ∧ aggregate.toNat + length.toNat ≤ maxSourceBytes := by
  unfold maxSourceBytes
  rw [checkedAdd_eq_some]
  constructor
  · rintro ⟨added, bounded⟩
    refine ⟨UInt64.toNat_inj.mp ?_, by omega⟩
    rw [added, toNat_add_of_lt (by omega)]
  · rintro ⟨rfl, bounded⟩
    rw [toNat_add_of_lt (by omega)]
    exact ⟨rfl, bounded⟩

section

variable {entries result : List SourceEntry} {aggregate : UInt64} {line : List UInt8}
  {lines : List (List UInt8)}

/-- One line: it is the printing of an entry that keeps the rules and may stand here. -/
theorem parseEntries_cons :
    parseEntries entries aggregate (line :: lines) = .ok result ↔
      ∃ entry : SourceEntry, line = entry.print ∧ entry.Valid ∧
        aggregate.toNat + entry.length.toNat ≤ maxSourceBytes ∧
        (∀ prior ∈ entries.getLast?, SourceEntry.Follows prior entry) ∧
        parseEntries (entries ++ [entry]) (aggregate + entry.length) lines = .ok result := by
  rw [parseEntries]
  simp only [bind_eq_ok, okOr_eq_ok, rejectIf_eq_ok, parseMode_eq_ok, parseCanonicalDecimal_eq_ok,
    decodeHexArray_eq_ok]
  have few : (splitN 0x20 4 line).length ≤ 4 := length_splitN_le 4
  constructor
  · rintro ⟨modeText, f0, lengthText, f1, digestText, f2, path, f3, _, -, mode, ⟨permitted, rfl⟩,
      length, rfl, _, bounded, sum, added, _, total, _, valid, _, ordered, sha256, ⟨digest, rfl⟩, rest⟩
    obtain ⟨shape, -⟩ := splitN_four.mp ((fields_eq few).mp ⟨f0, f1, f2, f3⟩)
    obtain ⟨rfl, aggregated⟩ := checkedAdd_length.mp ⟨added, Nat.le_of_not_gt total⟩
    refine ⟨⟨mode, length, sha256, path⟩, shape,
      ⟨permitted, Nat.le_of_not_gt bounded, digest, validatePath_eq_ok.mp valid⟩, aggregated, ?_, rest⟩
    intro prior last
    refine pathRefused_eq_false.mp (Bool.eq_false_of_not_eq_true fun refused => ordered ?_)
    exact (Option.any_eq_true _ _).mpr ⟨prior, last, refused⟩
  · rintro ⟨entry, shape, valid, aggregated, follows, rest⟩
    obtain ⟨clean0, clean1, clean2⟩ := blank_notMem_print entry
    obtain ⟨f0, f1, f2, f3⟩ :=
      (fields_eq few).mpr (splitN_four.mpr ⟨shape, clean0, clean1, clean2⟩)
    obtain ⟨added, total⟩ := checkedAdd_length.mpr ⟨rfl, aggregated⟩
    have no4 : ¬ (splitN 0x20 4 line)[4]?.isSome := by
      rw [List.getElem?_eq_none few]
      exact Bool.false_ne_true
    refine ⟨_, f0, _, f1, _, f2, _, f3, (), no4, _, ⟨valid.mode, rfl⟩, _, rfl, (),
      Nat.not_lt.mpr valid.length, _, added, (), Nat.not_lt.mpr total, (),
      validatePath_eq_ok.mpr valid.path, (), ?_, _, ⟨valid.sha256, rfl⟩, rest⟩
    intro refused
    obtain ⟨prior, last, refused⟩ := (Option.any_eq_true _ _).mp refused
    rw [pathRefused_eq_false.mpr (follows prior last)] at refused
    cases refused

/-- All lines: they are the printings of entries that follow each other and those before them. -/
theorem parseEntries_eq_ok (within : aggregate.toNat ≤ maxSourceBytes) :
    parseEntries entries aggregate lines = .ok result ↔
      ∃ new : List SourceEntry, result = entries ++ new ∧ lines = new.map SourceEntry.print ∧
        (∀ entry ∈ new, entry.Valid) ∧ aggregate.toNat + aggregateLength new ≤ maxSourceBytes ∧
        (entries.getLast?.toList ++ new).IsChain SourceEntry.Follows := by
  induction lines generalizing entries aggregate with
  | nil =>
    constructor
    · rintro ⟨⟩
      refine ⟨[], (append_nil _).symm, rfl, nofun, within, ?_⟩
      rw [append_nil]
      cases result.getLast? with
      | none => exact .nil
      | some last => exact .singleton last
    · rintro ⟨new, rfl, printed, -⟩
      obtain rfl := map_eq_nil_iff.mp printed.symm
      rw [append_nil]
      rfl
  | cons line lines ih =>
    rw [parseEntries_cons]
    constructor
    · rintro ⟨entry, rfl, valid, aggregated, follows, rest⟩
      have sum : (aggregate + entry.length).toNat = aggregate.toNat + entry.length.toNat :=
        toNat_add_of_lt (by unfold maxSourceBytes at aggregated; omega)
      obtain ⟨new, rfl, rfl, valids, total, chain⟩ := (ih (by rwa [sum])).mp rest
      rw [sum] at total
      rw [List.getLast?_concat] at chain
      refine ⟨entry :: new, by rw [append_assoc]; rfl, rfl, ?_, ?_, ?_⟩
      · exact forall_mem_cons.mpr ⟨valid, valids⟩
      · rw [aggregateLength, map_cons, sum_cons]
        unfold aggregateLength at total
        omega
      · cases last : entries.getLast? with
        | none => exact chain
        | some prior => exact .cons_cons (follows prior last) chain
    · rintro ⟨new, rfl, printed, valids, total, chain⟩
      cases new with
      | nil => cases printed
      | cons entry new =>
        obtain ⟨rfl, rfl⟩ := List.cons.inj printed
        obtain ⟨valid, valids⟩ := forall_mem_cons.mp valids
        rw [aggregateLength, map_cons, sum_cons] at total
        have aggregated : aggregate.toNat + entry.length.toNat ≤ maxSourceBytes := by omega
        have sum : (aggregate + entry.length).toNat = aggregate.toNat + entry.length.toNat :=
          toNat_add_of_lt (by unfold maxSourceBytes at aggregated; omega)
        refine ⟨entry, rfl, valid, aggregated, ?_, (ih (by rwa [sum])).mpr ⟨new, ?_, rfl, valids, ?_, ?_⟩⟩
        · intro prior last
          rw [last] at chain
          exact (isChain_cons_cons.mp chain).1
        · rw [append_assoc]
          rfl
        · rw [sum, aggregateLength]
          omega
        · rw [List.getLast?_concat]
          exact chain.right_of_append

end

/-! ## The order of the entries -/

theorem Increasing.of_chain (chain : entries.IsChain SourceEntry.Follows) : Increasing entries := by
  let below (first second : SourceEntry) : Prop := bytesLt first.path second.path = true
  have : Trans below below below := ⟨bytesLt_trans⟩
  exact isChain_iff_pairwise.mp (chain.imp fun _ _ follows => follows.1)

theorem chain_of_directoryFree (increasing : Increasing entries) (free : DirectoryFree entries) :
    entries.IsChain SourceEntry.Follows :=
  (increasing.and free).isChain.imp fun _ _ both => ⟨both.1, both.2.2.1⟩

/-! ## The header -/

theorem exactLine_eq_ok {actual : Option (List UInt8)} {expected : List UInt8} :
    exactLine actual expected = .ok () ↔ actual = some expected := by
  unfold exactLine
  rw [rejectIf_eq_ok, not_not]

theorem valueLine_eq_ok {actual : Option (List UInt8)} {start value : List UInt8} :
    valueLine actual start = .ok value ↔ actual = some (start ++ value) ∧ value ≠ [] := by
  unfold valueLine
  rw [okOr_eq_ok, Option.filter_eq_some_iff, Option.bind_eq_some_iff, decide_eq_true_iff]
  refine and_congr_left fun _ => ?_
  constructor
  · rintro ⟨line, rfl, dropped⟩
    rw [dropStart_eq_some.mp dropped]
  · rintro rfl
    exact ⟨_, rfl, dropStart_eq_some.mpr rfl⟩

theorem drop_of_getElem? {α : Type} {items : List α} {i : Nat} {item : α} (h : items[i]? = some item) :
    items.drop i = item :: items.drop (i + 1) := by
  obtain ⟨inside, rfl⟩ := List.getElem?_eq_some_iff.mp h
  exact drop_eq_getElem_cons inside

/-! ## The bytes of a printed manifest -/

/-- A blank or a visible character. -/
def IsPrintable (byte : UInt8) : Prop := 0x20 ≤ byte ∧ byte ≤ 0x7e

instance : DecidablePred IsPrintable := fun _ => inferInstanceAs (Decidable (_ ∧ _))

theorem printable_of_all {text : List UInt8} (h : text.all (IsPrintable ·) = true) :
    ∀ byte ∈ text, IsPrintable byte :=
  fun byte mem => of_decide_eq_true (all_eq_true.mp h byte mem)

theorem printable_of_isPathByte (byte : UInt8) : isPathByte byte = true → IsPrintable byte := by
  revert byte
  refine forall_byte ?_
  decide +kernel

theorem printable_hexDigit (nibble : UInt8) : nibble < 16 → IsPrintable (hexDigit nibble) := by
  revert nibble
  refine forall_byte ?_
  decide +kernel

theorem printable_of_isDigit {byte : UInt8} (h : IsDigit byte) : IsPrintable byte := by
  unfold IsPrintable
  rw [UInt8.le_iff_toNat_le, UInt8.le_iff_toNat_le]
  obtain ⟨low, high⟩ := h
  exact ⟨low.trans' (by decide), high.trans (by decide)⟩

theorem printable_decimalText (n : Nat) : ∀ byte ∈ decimalText n, IsPrintable byte :=
  fun _ mem => printable_of_isDigit (isDigit_of_mem_decimalText _ mem)

theorem printable_encodeHex (bytes : List UInt8) : ∀ byte ∈ encodeHex bytes, IsPrintable byte := by
  intro byte mem
  obtain ⟨nibble, small, rfl⟩ := hexDigit_of_mem_encodeHex mem
  exact printable_hexDigit nibble small

theorem ValidPath.printable (valid : ValidPath path) :
    ∀ byte ∈ path, IsPrintable byte :=
  fun byte mem => printable_of_isPathByte byte (valid.bytes byte mem)

theorem SourceEntry.Valid.printable {entry : SourceEntry} (valid : entry.Valid) :
    ∀ byte ∈ entry.print, IsPrintable byte := by
  have mode : ∀ byte ∈ printMode entry.mode, IsPrintable byte := by
    unfold printMode
    split <;> exact printable_of_all rfl
  simp only [SourceEntry.print, forall_mem_append, forall_mem_cons]
  exact ⟨mode, by decide, printable_decimalText _, by decide, printable_encodeHex _, by decide,
    valid.path.printable⟩

namespace SourceManifest

variable {manifest : SourceManifest}

theorem Valid.printable (valid : manifest.Valid) :
    ∀ line ∈ manifest.lines, ∀ byte ∈ line, IsPrintable byte := by
  simp only [lines, forall_mem_cons, forall_mem_append, forall_mem_map]
  exact ⟨printable_of_all rfl, printable_of_all rfl,
    ⟨printable_of_all rfl, valid.treePath.printable⟩, ⟨printable_of_all rfl, printable_encodeHex _⟩,
    ⟨printable_of_all rfl, printable_decimalText _⟩,
    fun entry mem => (valid.entries entry mem).printable⟩

theorem lines_ne_nil : manifest.lines ≠ [] := cons_ne_nil _ _

/-- The bytes of the text: those of the lines, and the ends of lines. -/
theorem Valid.print_bytes (valid : manifest.Valid) :
    ∀ byte ∈ manifest.print, byte = 0x0a ∨ IsPrintable byte := by
  intro byte mem
  obtain ⟨line, listed, mem⟩ := mem_flatMap.mp mem
  obtain mem | mem := mem_append.mp mem
  · exact .inr (valid.printable line listed byte mem)
  · exact .inl (mem_singleton.mp mem)

theorem Valid.feed_notMem (valid : manifest.Valid) : ∀ line ∈ manifest.lines, 0x0a ∉ line :=
  fun line mem feed => absurd (valid.printable line mem _ feed) (by decide)

theorem Valid.splitLines_print (valid : manifest.Valid) :
    splitLines manifest.print.dropLast = manifest.lines :=
  splitOn_dropLast_joinLines valid.feed_notMem lines_ne_nil

theorem lines_nonempty : ∀ line ∈ manifest.lines, line ≠ [] := by
  simp only [lines, forall_mem_cons, forall_mem_map]
  refine ⟨by decide, by decide, append_ne_nil_of_left_ne_nil (by decide) _,
    append_ne_nil_of_left_ne_nil (by decide) _, append_ne_nil_of_left_ne_nil (by decide) _,
    fun entry _ => ?_⟩
  exact append_ne_nil_of_right_ne_nil _ (cons_ne_nil _ _)

end SourceManifest

theorem isUtf8_of_isAscii {bytes : List UInt8} (h : isAscii bytes = true) : isUtf8 bytes = true := by
  induction bytes with
  | nil => rfl
  | cons a bytes ih =>
    rw [isAscii, all_cons, Bool.and_eq_true] at h
    cases bytes with
    | nil => exact h.1
    | cons b bytes =>
      unfold isUtf8
      rw [if_pos (of_decide_eq_true h.1)]
      exact ih h.2

/-! ## The whole text -/

namespace SourceManifest

variable {manifest : SourceManifest} {bytes : List UInt8}

/-- What is accepted is the printing of what is returned. -/
theorem print_of_parse (h : SourceManifest.parse bytes = .ok manifest) :
    manifest.Valid ∧ manifest.entries.IsChain SourceEntry.Follows ∧ bytes = manifest.print := by
  unfold SourceManifest.parse at h
  obtain ⟨form, h⟩ := rejectIf_bind_eq_ok.mp h
  obtain ⟨-, h⟩ := rejectIf_bind_eq_ok.mp h
  obtain ⟨schema, h⟩ := unit_bind_eq_ok.mp h
  obtain ⟨repository, h⟩ := unit_bind_eq_ok.mp h
  obtain ⟨treePath, tree, h⟩ := bind_eq_ok.mp h
  obtain ⟨validTree, h⟩ := unit_bind_eq_ok.mp h
  obtain ⟨treeHex, sha1, h⟩ := bind_eq_ok.mp h
  obtain ⟨gitTreeSha1, decoded, h⟩ := bind_eq_ok.mp h
  obtain ⟨countText, counted, h⟩ := bind_eq_ok.mp h
  obtain ⟨fileCount, number, h⟩ := bind_eq_ok.mp h
  obtain ⟨limits, h⟩ := rejectIf_bind_eq_ok.mp h
  obtain ⟨entries, parsed, h⟩ := bind_eq_ok.mp h
  obtain ⟨count, h⟩ := rejectIf_bind_eq_ok.mp h
  cases h
  simp only [not_or, not_not] at form limits count
  obtain ⟨-, size, -, last, -⟩ := form
  obtain ⟨tree, -⟩ := valueLine_eq_ok.mp tree
  obtain ⟨sha1, -⟩ := valueLine_eq_ok.mp sha1
  obtain ⟨counted, -⟩ := valueLine_eq_ok.mp counted
  obtain ⟨sha1Length, rfl⟩ := decodeHexArray_eq_ok.mp decoded
  obtain rfl := parseCanonicalDecimal_eq_ok.mp number
  have start : (0 : UInt64).toNat ≤ maxSourceBytes := Nat.zero_le _
  obtain ⟨_, rfl, printed, valid, total, chain⟩ := (parseEntries_eq_ok start).mp parsed
  -- The five lines of the header, and those of the entries.
  have shape : splitLines bytes.dropLast = lines ⟨treePath, gitTreeSha1, entries⟩ := by
    rw [← drop_zero (l := splitLines bytes.dropLast), drop_of_getElem? (exactLine_eq_ok.mp schema),
      drop_of_getElem? (exactLine_eq_ok.mp repository), drop_of_getElem? tree, drop_of_getElem? sha1,
      drop_of_getElem? counted, printed, ← count]
    rfl
  have text : bytes = print ⟨treePath, gitTreeSha1, entries⟩ := by
    rw [print, ← shape]
    exact (joinLines_splitOn_dropLast last).symm
  have positive : 1 ≤ entries.length := by
    rw [count, Nat.one_le_iff_ne_zero]
    exact fun zero => limits.1 (UInt64.toNat_inj.mp zero)
  rw [UInt64.toNat_zero, Nat.zero_add] at total
  exact ⟨⟨validatePath_eq_ok.mp validTree, sha1Length, positive, count ▸ Nat.le_of_not_gt limits.2,
    valid, total, text ▸ Nat.le_of_not_gt size⟩, chain, text⟩

theorem Valid.isAscii_print (valid : manifest.Valid) : isAscii manifest.print = true := by
  refine all_eq_true.mpr fun byte mem => decide_eq_true ?_
  obtain rfl | printable := valid.print_bytes byte mem
  · decide
  · exact UInt8.lt_of_le_of_lt printable.2 (by decide)

/-- A printed manifest passes the checks on the text as a whole. -/
theorem Valid.text_print (valid : manifest.Valid) :
    ¬ (manifest.print = [] ∨ manifest.print.length > maxSourceManifestBytes ∨
      isAscii manifest.print = false ∨ manifest.print.getLast? ≠ some 0x0a ∨
      manifest.print.contains 0x0d ∨ manifest.print.contains 0 ∨
      [0x0a, 0x0a].isSuffixOf manifest.print) := by
  have absent (byte : UInt8) (feed : byte ≠ 0x0a) (hidden : ¬ IsPrintable byte) :
      ¬ manifest.print.contains byte := fun mem =>
    (valid.print_bytes byte (contains_iff_mem.mp mem)).elim feed hidden
  rw [valid.isAscii_print, isSuffixOf_iff_suffix]
  rintro (empty | large | other | last | mem | mem | feeds)
  · exact joinLines_ne_nil lines_ne_nil empty
  · exact absurd valid.size (Nat.not_le.mpr large)
  · cases other
  · exact last (getLast?_joinLines lines_ne_nil)
  · exact absent 0x0d (by decide) (by decide) mem
  · exact absent 0 (by decide) (by decide) mem
  · exact lines_nonempty _ ((nil_mem_iff valid.feed_notMem).mpr (.inr feeds.isInfix)) rfl

/-- The printing of a manifest that keeps the rules is accepted. -/
theorem parse_print (valid : manifest.Valid)
    (chain : manifest.entries.IsChain SourceEntry.Follows) :
    SourceManifest.parse manifest.print = .ok manifest := by
  have count : (UInt64.ofNat manifest.entries.length).toNat = manifest.entries.length :=
    UInt64.toNat_ofNat_of_lt' (valid.count_le.trans_lt (by decide))
  have limits : ¬ (UInt64.ofNat manifest.entries.length = 0 ∨
      (UInt64.ofNat manifest.entries.length).toNat > maxSourceFiles) := by
    rw [← UInt64.toNat_inj, count, UInt64.toNat_zero]
    have := valid.count_pos
    have := valid.count_le
    omega
  have parsed : parseEntries [] 0 (manifest.lines.drop 5) = .ok manifest.entries :=
    (parseEntries_eq_ok (Nat.zero_le _)).mpr ⟨manifest.entries, rfl, rfl, valid.entries,
      (Nat.zero_add _).trans_le valid.aggregate, chain⟩
  have hexNonempty : encodeHex manifest.gitTreeSha1 ≠ [] := by
    rw [← length_pos_iff, length_encodeHex, valid.gitTreeSha1]
    decide
  unfold SourceManifest.parse
  simp only [bind_eq_ok, valid.splitLines_print]
  exact ⟨(), rejectIf_eq_ok.mpr valid.text_print,
    (), rejectIf_eq_ok.mpr (by rw [isUtf8_of_isAscii valid.isAscii_print]; decide),
    (), exactLine_eq_ok.mpr rfl, (), exactLine_eq_ok.mpr rfl,
    _, valueLine_eq_ok.mpr ⟨rfl, length_pos_iff.mp valid.treePath.length_pos⟩,
    (), validatePath_eq_ok.mpr valid.treePath, _, valueLine_eq_ok.mpr ⟨rfl, hexNonempty⟩,
    _, decodeHexArray_eq_ok.mpr ⟨valid.gitTreeSha1, rfl⟩,
    _, valueLine_eq_ok.mpr ⟨rfl, decimalText_ne_nil _⟩,
    _, parseCanonicalDecimal_eq_ok.mpr (by rw [count]), (), rejectIf_eq_ok.mpr limits,
    _, parsed, (), rejectIf_eq_ok.mpr (not_not.mpr count.symm), rfl⟩

end SourceManifest

/-- A text is accepted only as the printing of the manifest that is returned, and the printing of every
manifest that keeps the rules is accepted and gives it back. -/
theorem one_spelling_per_manifest :
    (∀ bytes manifest, SourceManifest.parse bytes = .ok manifest → bytes = manifest.print) ∧
    (∀ bytes bytes' manifest, SourceManifest.parse bytes = .ok manifest →
      SourceManifest.parse bytes' = .ok manifest → bytes = bytes') ∧
    ∀ manifest : SourceManifest, manifest.Valid → Increasing manifest.entries →
      DirectoryFree manifest.entries → SourceManifest.parse manifest.print = .ok manifest := by
  refine ⟨fun bytes manifest parsed => (print_of_parse parsed).2.2,
    fun bytes bytes' manifest parsed parsed' => ?_, fun manifest valid increasing free => ?_⟩
  · rw [(print_of_parse parsed).2.2, (print_of_parse parsed').2.2]
  · exact parse_print valid (chain_of_directoryFree increasing free)

/-- A manifest of files with these paths, of twelve bytes each. -/
def manifestOf (paths : List String) : SourceManifest :=
  { treePath := ascii "tree"
    gitTreeSha1 := List.replicate 20 0xab
    entries := paths.map fun path => ⟨regularMode, 12, List.replicate 32 0x3c, ascii path⟩ }

theorem two_files_read_back :
    SourceManifest.parse (manifestOf ["a/b", "c"]).print = .ok (manifestOf ["a/b", "c"]) := by
  refine one_spelling_per_manifest.2.2 _ ⟨?_, by decide, by decide, by decide, ?_, by decide, ?_⟩ ?_ ?_
  · exact validatePath_eq_ok.mp (by decide +kernel)
  · have valid (path : List UInt8) (h : validatePath path = .ok ()) :
        SourceEntry.Valid ⟨regularMode, 12, List.replicate 32 0x3c, path⟩ :=
      ⟨.inl rfl, show (12 : UInt64).toNat ≤ maxSourceFileBytes by decide, rfl, validatePath_eq_ok.mp h⟩
    exact forall_mem_cons.mpr ⟨valid _ (by decide +kernel),
      forall_mem_singleton.mpr (valid _ (by decide +kernel))⟩
  · decide +kernel
  · unfold Increasing
    decide +kernel
  · unfold DirectoryFree
    decide +kernel

/-! ## Directories -/

/-- What stands between a path and a path that continues it continues it with a byte that is no
larger. -/
theorem eq_append_of_between {middle more : List UInt8} {byte : UInt8}
    (above : bytesLt path middle = true) (below : bytesLt middle (path ++ byte :: more) = true) :
    ∃ next rest, middle = path ++ next :: rest ∧ (next < byte ∨ next = byte) := by
  induction path generalizing middle with
  | nil =>
    cases middle with
    | nil => cases above
    | cons next rest =>
      refine ⟨next, rest, rfl, ?_⟩
      exact (bytesLt_cons.mp below).imp_right And.left
  | cons head path ih =>
    cases middle with
    | nil => cases above
    | cons head' middle =>
      rw [bytesLt_cons] at above
      rw [cons_append, bytesLt_cons] at below
      obtain smaller | ⟨rfl, above⟩ := above
      · obtain larger | ⟨rfl, -⟩ := below
        · exact absurd (UInt8.lt_trans smaller larger) (UInt8.lt_irrefl _)
        · exact absurd smaller (UInt8.lt_irrefl _)
      · obtain larger | ⟨-, below⟩ := below
        · exact absurd larger (UInt8.lt_irrefl _)
        · obtain ⟨next, rest, rfl, small⟩ := ih above below
          exact ⟨next, rest, rfl, small⟩

/-- The bytes of a path that come before the slash. -/
theorem eq_of_isPathByte_of_lt (byte : UInt8) :
    isPathByte byte = true → byte < 0x2f → byte = 0x2d ∨ byte = 0x2e := by
  revert byte
  refine forall_byte ?_
  decide +kernel

theorem bytesLt_of_inDirectory {directory : List UInt8} (inside : InDirectory directory path) :
    bytesLt directory path = true := by
  obtain ⟨more, rfl⟩ := inside
  induction directory with
  | nil => rfl
  | cons byte directory ih =>
    rw [cons_append, cons_append, bytesLt_cons]
    exact .inr ⟨rfl, ih⟩

/-- A path, one that continues it with a hyphen or a dot, and one in the directory of that name. In the
order of bytes the second one separates the others. -/
def SplitDirectory (entries : List SourceEntry) : Prop :=
  ∃ directory ∈ entries, ∃ between ∈ entries, ∃ inside ∈ entries,
    (directory.path ++ [0x2d] <+: between.path ∨ directory.path ++ [0x2e] <+: between.path) ∧
      InDirectory directory.path inside.path

/-- A path in the directory of another one is separated from it. -/
theorem splitDirectory_of_inDirectory {directory inside : SourceEntry}
    (valid : ∀ entry ∈ entries, entry.Valid)
    (chain : (directory :: entries).IsChain SourceEntry.Follows) (mem : inside ∈ entries)
    (within : InDirectory directory.path inside.path) : SplitDirectory (directory :: entries) := by
  cases entries with
  | nil => cases mem
  | cons between entries =>
    obtain ⟨⟨above, apart⟩, -⟩ := isChain_cons_cons.mp chain
    have increasing := Increasing.of_chain chain
    -- The neighbour is not the one in the directory, so it comes before it.
    obtain rfl | mem := mem_cons.mp mem
    · exact absurd within apart
    have below : bytesLt between.path inside.path = true :=
      rel_of_pairwise_cons (pairwise_cons.mp increasing).2 mem
    obtain ⟨more, shape⟩ := within
    rw [append_assoc] at shape
    obtain ⟨next, rest, continued, small⟩ := eq_append_of_between above (shape ▸ below)
    have pathByte : isPathByte next = true :=
      (valid between mem_cons_self).path.bytes next (by simp [continued])
    refine ⟨directory, mem_cons_self, between, by simp, inside, by simp [mem], ?_, ⟨more, ?_⟩⟩
    · obtain small | rfl := small
      · obtain rfl | rfl := eq_of_isPathByte_of_lt next pathByte small
        · exact .inl ⟨rest, by rw [continued, append_assoc]; rfl⟩
        · exact .inr ⟨rest, by rw [continued, append_assoc]; rfl⟩
      · exact absurd ⟨rest, by rw [continued, append_assoc]; rfl⟩ apart
    · rw [append_assoc, shape]

theorem directoryFree_of_not_split (valid : ∀ entry ∈ entries, entry.Valid)
    (chain : entries.IsChain SourceEntry.Follows) (unsplit : ¬ SplitDirectory entries) :
    DirectoryFree entries := by
  induction entries with
  | nil => exact .nil
  | cons first entries ih =>
    have increasing := Increasing.of_chain chain
    refine pairwise_cons.mpr ⟨fun second mem => ?_, ih ?_ chain.tail ?_⟩
    · have below := rel_of_pairwise_cons increasing mem
      refine ⟨fun same => ?_, fun inside => ?_, fun inside => ?_⟩
      · rw [same, bytesLt_irrefl] at below
        cases below
      · exact unsplit (splitDirectory_of_inDirectory (fun entry mem => valid entry (by simp [mem]))
          chain mem inside)
      · have loop := bytesLt_trans below (bytesLt_of_inDirectory inside)
        rw [bytesLt_irrefl] at loop
        cases loop
    · exact fun entry mem => valid entry (mem_cons_of_mem _ mem)
    · rintro ⟨directory, hdirectory, between, hbetween, inside, hinside, h⟩
      exact unsplit ⟨directory, by simp [hdirectory], between, by simp [hbetween], inside,
        by simp [hinside], h⟩

theorem DirectoryFree.not_inDirectory (free : DirectoryFree entries)
    {directory inside : SourceEntry} (hdirectory : directory ∈ entries)
    (hinside : inside ∈ entries) :
    ¬ InDirectory directory.path inside.path := by
  intro within
  have apart : directory ≠ inside := by
    rintro rfl
    have := bytesLt_of_inDirectory within
    rw [bytesLt_irrefl] at this
    cases this
  have symmetric : Std.Symm fun first second : SourceEntry => first.path ≠ second.path ∧
      ¬ InDirectory first.path second.path ∧ ¬ InDirectory second.path first.path :=
    ⟨fun first second h => ⟨h.1.symm, h.2.2, h.2.1⟩⟩
  exact (free.forall hdirectory hinside apart).2.1 within

/-- In an accepted manifest no path is another one or a directory of it just when no path is separated
from those in the directory of its name: the parser only compares neighbours. -/
theorem manifest_directoryFree_iff {bytes : List UInt8} {manifest : SourceManifest}
    (parsed : SourceManifest.parse bytes = .ok manifest) :
    DirectoryFree manifest.entries ↔ ¬ SplitDirectory manifest.entries := by
  obtain ⟨valid, chain, -⟩ := print_of_parse parsed
  constructor
  · rintro free ⟨directory, hdirectory, between, -, inside, hinside, -, within⟩
    exact free.not_inDirectory hdirectory hinside within
  · exact directoryFree_of_not_split valid.entries chain

theorem two_files_directoryFree :
    DirectoryFree (manifestOf ["a-b", "a/c"]).entries := by
  have parsed : SourceManifest.parse (manifestOf ["a-b", "a/c"]).print =
      .ok (manifestOf ["a-b", "a/c"]) := by decide +kernel
  exact (manifest_directoryFree_iff parsed).mpr (by unfold SplitDirectory; decide +kernel)

/-- The file `a` and a file in the directory `a` are both accepted, with `a-b` between them. -/
theorem hyphen_hides_directory :
    SourceManifest.parse (manifestOf ["a", "a-b", "a/c"]).print =
        .ok (manifestOf ["a", "a-b", "a/c"]) ∧
      ¬ DirectoryFree (manifestOf ["a", "a-b", "a/c"]).entries := by
  refine ⟨by decide +kernel, ?_⟩
  unfold DirectoryFree
  decide +kernel

end MakopaVerified.Admission
