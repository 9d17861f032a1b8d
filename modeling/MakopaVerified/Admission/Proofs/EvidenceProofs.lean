import MakopaVerified.Admission.Evidence
import MakopaVerified.Admission.Proofs.TextProofs

/-!
# The line grammar of the supporting documents

A document that passes is made of lines, of which the loops skip the empty ones and check the others.
So it keeps its grammar just when it has no empty line: the checks at the end of the text only see two
ends of line in its last two bytes.
-/

namespace MakopaVerified.Admission

open Foundation List

variable {bytes : List UInt8} {lines : List (List UInt8)} {count total : Nat} {declared : UInt32}

/-! ## Texts of lines -/

theorem lineText_eq_ok {text : List UInt8} (h : lineText bytes = .ok text) :
    text = bytes ∧ bytes.getLast? = some 0x0a := by
  unfold lineText at h
  obtain ⟨form, h⟩ := rejectIf_bind_eq_ok.mp h
  obtain ⟨-, h⟩ := rejectIf_bind_eq_ok.mp h
  cases h
  simp only [not_or, not_not] at form
  exact ⟨rfl, form.2.1⟩

/-- The lines of a text that ends with the end of a line. -/
def textLines (bytes : List UInt8) : List (List UInt8) := bytes.dropLast.splitOn 0x0a

/-- The lines that the loops look at. -/
def keptLines (bytes : List UInt8) : List (List UInt8) := (splitLines bytes).filter (· ≠ [])

theorem feed_notMem_textLines (bytes : List UInt8) : ∀ line ∈ textLines bytes, 0x0a ∉ line := by
  intro line mem feed
  have separated : (0x0a == (0x0a : UInt8)) = false := eq_false_of_mem_splitOnP mem 0x0a feed
  cases separated

theorem joinLines_textLines (last : bytes.getLast? = some 0x0a) :
    joinLines 0x0a (textLines bytes) = bytes := joinLines_splitOn_dropLast last

theorem splitLines_eq (last : bytes.getLast? = some 0x0a) :
    splitLines bytes = textLines bytes ++ [[]] := by
  have split := splitOn_joinLines (feed_notMem_textLines bytes)
  rwa [joinLines_textLines last] at split

theorem noEmptyLine_iff (last : bytes.getLast? = some 0x0a) :
    NoEmptyLine bytes ↔ [] ∉ textLines bytes := by
  rw [nil_mem_iff (feed_notMem_textLines bytes), joinLines_textLines last, not_or]
  exact Iff.rfl

/-- Without an empty line, every line is looked at. -/
theorem keptLines_eq (last : bytes.getLast? = some 0x0a) (full : NoEmptyLine bytes) :
    keptLines bytes = textLines bytes := by
  have none : [] ∉ textLines bytes := (noEmptyLine_iff last).mp full
  unfold keptLines
  rw [splitLines_eq last, filter_append, filter_eq_self.mpr]
  · exact append_nil _
  · intro line mem
    exact decide_eq_true fun empty => none (empty ▸ mem)

/-- A text that is made of lines, none of them empty, has no empty line. -/
theorem noEmptyLine_joinLines (nonempty : lines ≠ []) (clean : ∀ line ∈ lines, 0x0a ∉ line)
    (full : ∀ line ∈ lines, line ≠ []) : NoEmptyLine (joinLines 0x0a lines) := by
  have same : textLines (joinLines 0x0a lines) = lines := splitOn_dropLast_joinLines clean nonempty
  rw [noEmptyLine_iff (getLast?_joinLines nonempty), same]
  exact fun mem => full [] mem rfl

/-! ## Lines `name=value` -/

/-- A line that the loop of `validate_name_value_document_counted` lets pass. -/
def AcceptedLine (line : List UInt8) : Prop :=
  ∃ name value, splitOnce 0x3d line = some (name, value) ∧ nameValueRefused line name value = false

theorem AcceptedLine.nameValueLine {line : List UInt8} (accepted : AcceptedLine line) :
    NameValueLine line := by
  obtain ⟨name, value, split, passed⟩ := accepted
  obtain ⟨rfl, -⟩ := splitOnce_eq_some.mp split
  simp only [nameValueRefused, Bool.or_eq_false_iff, decide_eq_false_iff_not, contains_eq_mem,
    any_eq_false, Bool.not_eq_true, Bool.not_eq_false'] at passed
  obtain ⟨⟨⟨⟨⟨⟨⟨⟨someName, someValue⟩, oneName⟩, oneValue⟩, visible⟩, -⟩, -⟩, -⟩, -⟩ := passed
  refine ⟨name, value, rfl, someName, someValue, fun byte mem => ?_, fun byte mem => ?_⟩
  · exact ⟨(visible byte (mem_append_left _ mem)).2, fun same => oneName (same ▸ mem)⟩
  · exact ⟨(visible byte (mem_append_right _ (mem_cons_of_mem _ mem))).2,
      fun same => oneValue (same ▸ mem)⟩

theorem NameValueLine.feed_notMem {line : List UInt8} (h : NameValueLine line) : 0x0a ∉ line := by
  obtain ⟨name, value, rfl, -, -, nameVisible, valueVisible⟩ := h
  rw [mem_append, mem_cons]
  rintro (mem | same | mem)
  · exact absurd (nameVisible _ mem).1 (by decide)
  · exact absurd same (by decide)
  · exact absurd (valueVisible _ mem).1 (by decide)

theorem NameValueLine.ne_nil {line : List UInt8} (h : NameValueLine line) : line ≠ [] := by
  obtain ⟨name, value, rfl, -⟩ := h
  exact append_ne_nil_of_right_ne_nil _ (cons_ne_nil _ _)

/-- The loop lets the lines pass that it looks at, finds each behind the one before it, and counts
them. -/
theorem nameValueLines_eq_ok {prior : Option (List UInt8)}
    (h : nameValueLines prior count lines = .ok total) :
    (∀ line ∈ lines.filter (· ≠ []), AcceptedLine line) ∧
      (prior.toList ++ lines.filter (· ≠ [])).IsChain (fun first second => bytesLt first second = true) ∧
      total = count + (lines.filter (· ≠ [])).length := by
  induction lines generalizing prior count with
  | nil =>
    cases h
    refine ⟨nofun, ?_, rfl⟩
    cases prior with
    | none => exact isChain_nil
    | some previous => exact isChain_singleton previous
  | cons line lines ih =>
    rw [nameValueLines] at h
    by_cases empty : line = []
    · rw [if_pos empty] at h
      rw [filter_cons_of_neg (by simpa using empty)]
      exact ih h
    · rw [if_neg empty] at h
      obtain ⟨⟨name, value⟩, split, h⟩ := okOr_bind_eq_ok.mp h
      obtain ⟨passed, h⟩ := rejectIf_bind_eq_ok.mp h
      obtain ⟨sorted, h⟩ := rejectIf_bind_eq_ok.mp h
      obtain ⟨-, h⟩ := rejectIf_bind_eq_ok.mp h
      obtain ⟨accepted, chain, counted⟩ := ih h
      rw [filter_cons_of_pos (by simpa using empty)]
      refine ⟨forall_mem_cons.mpr ⟨⟨name, value, split, ?_⟩, accepted⟩, ?_, ?_⟩
      · exact Bool.eq_false_of_not_eq_true passed
      · cases prior with
        | none => exact chain
        | some previous =>
          refine isChain_cons_cons.mpr ⟨?_, chain⟩
          simpa using sorted
      · rw [counted, length_cons]
        omega

/-- What `validate_name_value_document_counted` found. -/
theorem validateNameValueDocumentCounted_eq_ok
    (h : validateNameValueDocumentCounted bytes declared = .ok ()) :
    bytes.getLast? = some 0x0a ∧ (∀ line ∈ keptLines bytes, AcceptedLine line) ∧
      ((keptLines bytes).Pairwise fun first second => bytesLt first second = true) ∧
      (keptLines bytes).length = declared.toNat := by
  unfold validateNameValueDocumentCounted at h
  obtain ⟨text, read, checked⟩ := bind_eq_ok.mp h
  obtain ⟨rfl, last⟩ := lineText_eq_ok read
  obtain ⟨total, loop, compared⟩ := bind_eq_ok.mp checked
  obtain ⟨accepted, chain, counted⟩ := nameValueLines_eq_ok loop
  have same : total = declared.toNat := not_not.mp (rejectIf_eq_ok.mp compared)
  refine ⟨last, accepted, ?_, ?_⟩
  · have : IsTrans (List UInt8) (fun first second => bytesLt first second = true) :=
      ⟨fun _ _ _ => bytesLt_trans⟩
    exact isChain_iff_pairwise.mp chain
  · rw [← same, counted, Nat.zero_add]
    rfl

/-- `validate_name_value_document` declares the lines that it counted. -/
theorem validateNameValueDocument_eq_ok (h : validateNameValueDocument bytes = .ok ()) :
    ∃ declared, validateNameValueDocumentCounted bytes declared = .ok () := by
  obtain ⟨count, -, h⟩ := bind_eq_ok.mp h
  exact ⟨_, h⟩

/-! ## The transcript -/

/-- The loop over the transcript lets its lines pass and counts them. -/
theorem transcriptLines_eq_ok (h : transcriptLines count lines = .ok total) :
    (∀ line ∈ lines, containsMachineLocalPath line = false) ∧ total = count + lines.length := by
  induction lines generalizing count with
  | nil =>
    cases h
    exact ⟨nofun, rfl⟩
  | cons line lines ih =>
    obtain ⟨passed, h⟩ := rejectIf_bind_eq_ok.mp h
    obtain ⟨rest, counted⟩ := ih h
    rw [Bool.or_eq_true, not_or, Bool.not_eq_true] at passed
    refine ⟨forall_mem_cons.mpr ⟨passed.1, rest⟩, ?_⟩
    rw [counted, length_cons]
    omega

/-- What `validate_line_document` found. -/
theorem validateLineDocument_eq_ok (h : validateLineDocument bytes declared = .ok ()) :
    bytes.getLast? = some 0x0a ∧ (∀ line ∈ keptLines bytes, containsMachineLocalPath line = false) ∧
      (keptLines bytes).length = declared.toNat := by
  unfold validateLineDocument at h
  obtain ⟨text, read, checked⟩ := bind_eq_ok.mp h
  obtain ⟨rfl, last⟩ := lineText_eq_ok read
  obtain ⟨total, loop, compared⟩ := bind_eq_ok.mp checked
  obtain ⟨screened, counted⟩ := transcriptLines_eq_ok loop
  have same : total = declared.toNat := not_not.mp (rejectIf_eq_ok.mp compared)
  refine ⟨last, screened, ?_⟩
  rw [← same, counted, Nat.zero_add]
  rfl

/-! ## The grammar -/

theorem IsToolVersions.isConfiguration (h : IsToolVersions count bytes) : IsConfiguration bytes := by
  obtain ⟨lines, nonempty, shape, good, sorted, -⟩ := h
  exact ⟨lines, nonempty, shape, good, sorted⟩

theorem IsConfiguration.noEmptyLine (h : IsConfiguration bytes) : NoEmptyLine bytes := by
  obtain ⟨lines, nonempty, rfl, good, -⟩ := h
  exact noEmptyLine_joinLines nonempty (fun line mem => (good line mem).feed_notMem)
    fun line mem => (good line mem).ne_nil

theorem IsTranscript.noEmptyLine (last : bytes.getLast? = some 0x0a) (h : IsTranscript count bytes) :
    NoEmptyLine bytes := by
  obtain ⟨lines, rfl, -, good⟩ := h
  refine noEmptyLine_joinLines ?_ (fun line mem => (good line mem).2) fun line mem => (good line mem).1
  rintro rfl
  cases last

theorem isToolVersions_of_accepted (h : validateNameValueDocumentCounted bytes declared = .ok ())
    (full : NoEmptyLine bytes) : IsToolVersions declared.toNat bytes := by
  obtain ⟨last, accepted, sorted, counted⟩ := validateNameValueDocumentCounted_eq_ok h
  rw [keptLines_eq last full] at accepted sorted counted
  exact ⟨textLines bytes, splitOn_ne_nil _ _, (joinLines_textLines last).symm,
    fun line mem => (accepted line mem).nameValueLine, sorted, counted⟩

theorem isTranscript_of_accepted (h : validateLineDocument bytes declared = .ok ())
    (full : NoEmptyLine bytes) : IsTranscript declared.toNat bytes := by
  obtain ⟨last, -, counted⟩ := validateLineDocument_eq_ok h
  rw [keptLines_eq last full] at counted
  refine ⟨textLines bytes, (joinLines_textLines last).symm, counted, fun line mem => ⟨?_, ?_⟩⟩
  · exact fun empty => (noEmptyLine_iff last).mp full (empty ▸ mem)
  · exact feed_notMem_textLines bytes line mem

/-- A document that passes keeps its grammar just when it has no empty line. -/
theorem accepted_grammar_iff (bytes : List UInt8) (declared : UInt32) :
    (validateNameValueDocument bytes = .ok () → (IsConfiguration bytes ↔ NoEmptyLine bytes)) ∧
      (validateNameValueDocumentCounted bytes declared = .ok () →
        (IsToolVersions declared.toNat bytes ↔ NoEmptyLine bytes)) ∧
      (validateLineDocument bytes declared = .ok () →
        (IsTranscript declared.toNat bytes ↔ NoEmptyLine bytes)) := by
  refine ⟨fun h => ⟨IsConfiguration.noEmptyLine, fun full => ?_⟩,
    fun h => ⟨fun good => good.isConfiguration.noEmptyLine, isToolVersions_of_accepted h⟩,
    fun h => ⟨IsTranscript.noEmptyLine (validateLineDocument_eq_ok h).1,
      isTranscript_of_accepted h⟩⟩
  obtain ⟨declared, h⟩ := validateNameValueDocument_eq_ok h
  exact (isToolVersions_of_accepted h full).isConfiguration

/-- The grammar of three documents that pass. -/
theorem two_lines_grammar :
    IsConfiguration (ascii "a=1\nb=2\n") ∧ IsToolVersions 2 (ascii "a=1\nb=2\n") ∧
      IsTranscript 1 (ascii "cargo build\n") :=
  ⟨((accepted_grammar_iff _ 0).1 (by decide +kernel)).mpr (by decide +kernel),
    ((accepted_grammar_iff _ 2).2.1 (by decide +kernel)).mpr (by decide +kernel),
    ((accepted_grammar_iff _ 1).2.2 (by decide +kernel)).mpr (by decide +kernel)⟩

/-- An empty line passes in each document, at the beginning or between two lines. -/
theorem empty_line_passes :
    (validateNameValueDocument (ascii "a=1\n\nb=2\n") = .ok () ∧
        ¬ IsConfiguration (ascii "a=1\n\nb=2\n")) ∧
      (validateNameValueDocument (ascii "\n") = .ok () ∧ ¬ IsConfiguration (ascii "\n")) ∧
      (validateNameValueDocumentCounted (ascii "a=1\n\nb=2\n") 2 = .ok () ∧
        ¬ IsToolVersions 2 (ascii "a=1\n\nb=2\n")) ∧
      validateLineDocument (ascii "\ncargo build\n") 1 = .ok () ∧
        ¬ IsTranscript 1 (ascii "\ncargo build\n") := by
  have double : ¬ NoEmptyLine (ascii "a=1\n\nb=2\n") := by decide +kernel
  have single : ¬ NoEmptyLine (ascii "\n") := by decide +kernel
  have leading : ¬ NoEmptyLine (ascii "\ncargo build\n") := by decide +kernel
  refine ⟨⟨by decide +kernel, fun good => double good.noEmptyLine⟩,
    ⟨by decide +kernel, fun good => single good.noEmptyLine⟩,
    ⟨by decide +kernel, fun good => double good.isConfiguration.noEmptyLine⟩, by decide +kernel,
    fun good => leading (good.noEmptyLine rfl)⟩

end MakopaVerified.Admission
