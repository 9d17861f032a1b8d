import MakopaVerified.Admission.Proofs.EvidenceProofs

/-!
# Machine-local paths in the supporting documents

What the two screens for paths see. The screen of the transcript looks behind the first `=` of a token
only; that of the configuration looks at the value, and there for fewer shapes than the other does.
-/

namespace MakopaVerified.Admission

open Foundation List

variable {line name value token : List UInt8} {bytes : List UInt8} {declared : UInt32}
  {text : List UInt8}

/-! ## Trimmed tokens -/

theorem dropWhile_append_cons {p : UInt8 → Bool} {before behind : List UInt8} {byte : UInt8}
    (stays : p byte = false) :
    (before ++ byte :: behind).dropWhile p = before.dropWhile p ++ byte :: behind := by
  rw [dropWhile_append]
  split
  · rename_i empty
    rw [isEmpty_iff.mp empty, dropWhile_cons_of_neg (by simpa using stays), nil_append]
  · rfl

/-- Taking characters off both ends leaves what stands around another character. -/
theorem trimMatches_append_cons {chars before behind : List UInt8} {byte : UInt8}
    (stays : chars.contains byte = false) :
    trimMatches chars (before ++ byte :: behind) =
      before.dropWhile (chars.contains ·) ++
        byte :: (behind.reverse.dropWhile (chars.contains ·)).reverse := by
  unfold trimMatches
  rw [dropWhile_append_cons stays, reverse_append, reverse_cons, append_assoc,
    singleton_append, dropWhile_append_cons stays, reverse_append, reverse_cons,
    reverse_reverse, append_assoc, singleton_append]

theorem trimMatches_part (chars text : List UInt8) : trimMatches chars text <:+: text := by
  have right : trimMatches chars text <+: text.dropWhile (chars.contains ·) := by
    rw [← reverse_suffix, trimMatches, reverse_reverse]
    exact dropWhile_suffix _
  exact right.isInfix.trans (dropWhile_suffix _).isInfix

/-- A token with an `=` is absolute just when its name is. -/
theorem slash_prefix_trimMatches :
    [0x2f] <+: trimMatches tokenQuotes (name ++ 0x3d :: value) ↔
      [0x2f] <+: name.dropWhile (tokenQuotes.contains ·) := by
  rw [trimMatches_append_cons (by decide), singleton_prefix_iff, singleton_prefix_iff]
  cases name.dropWhile (tokenQuotes.contains ·) with
  | nil => exact ⟨nofun, nofun⟩
  | cons head rest => exact Iff.rfl

/-! ## Drive letters -/

theorem HasDrive.mono {slash : UInt8} {part : List UInt8} (h : HasDrive slash part)
    (inside : part <:+: text) : HasDrive slash text := by
  obtain ⟨letter, alphabetic, found⟩ := h
  exact ⟨letter, alphabetic, found.trans inside⟩

theorem hasDrive_cons {slash a : UInt8} :
    HasDrive slash (a :: text) ↔
      isAsciiAlphabetic a = true ∧ [0x3a, slash] <+: text ∨ HasDrive slash text := by
  constructor
  · rintro ⟨letter, alphabetic, found⟩
    obtain begins | found := infix_cons_iff.mp found
    · obtain ⟨rfl, behind⟩ := cons_prefix_cons.mp begins
      exact .inl ⟨alphabetic, behind⟩
    · exact .inr ⟨letter, alphabetic, found⟩
  · rintro (⟨alphabetic, begins⟩ | ⟨letter, alphabetic, found⟩)
    · exact ⟨a, alphabetic, (cons_prefix_cons.mpr ⟨rfl, begins⟩).isInfix⟩
    · exact ⟨letter, alphabetic, infix_cons_iff.mpr (.inr found)⟩

theorem not_hasDrive_of_length {slash : UInt8} (short : text.length < 3) :
    ¬ HasDrive slash text := by
  rintro ⟨letter, -, found⟩
  have := found.length_le
  rw [length_cons, length_cons, length_singleton] at this
  omega

theorem hasDrivePath_iff :
    hasDrivePath text = true ↔ HasDrive 0x2f text ∨ HasDrive 0x5c text := by
  fun_induction hasDrivePath text with
  | case1 a b c rest ih =>
    have begins (slash : UInt8) : [0x3a, slash] <+: b :: c :: rest ↔ b = 0x3a ∧ c = slash := by
      simp [cons_prefix_cons, eq_comm]
    have drive (slash : UInt8) : HasDrive slash (a :: b :: c :: rest) ↔
        isAsciiAlphabetic a = true ∧ b = 0x3a ∧ c = slash ∨ HasDrive slash (b :: c :: rest) := by
      rw [hasDrive_cons, begins]
    rw [Bool.or_eq_true, ih, drive, drive]
    simp only [Bool.and_eq_true, Bool.or_eq_true, decide_eq_true_iff]
    tauto
  | case2 text short =>
    have few : text.length < 3 := by
      match text, short with
      | [], _ => exact Nat.succ_pos _
      | [_], _ => exact Nat.lt_add_left 1 (Nat.lt_succ_self 1)
      | [_, _], _ => exact Nat.lt_succ_self 2
      | a :: b :: c :: rest, short => exact absurd rfl (short a b c rest)
    constructor
    · nofun
    · rintro (h | h)
      · exact absurd h (not_hasDrive_of_length few)
      · exact absurd h (not_hasDrive_of_length few)

/-- A drive letter lies on one side of an `=`. -/
theorem HasDrive.of_append_cons {slash : UInt8} (other : slash ≠ 0x3d)
    (h : HasDrive slash (name ++ 0x3d :: value)) : HasDrive slash name ∨ HasDrive slash value := by
  obtain ⟨letter, alphabetic, found⟩ := h
  have clean : 0x3d ∉ [letter, 0x3a, slash] := by
    intro mem
    obtain rfl | mem := mem_cons.mp mem
    · exact absurd alphabetic (by decide)
    · obtain same | mem := mem_cons.mp mem
      · exact absurd same (by decide)
      · exact other (mem_singleton.mp mem).symm
  obtain found | found := infix_append_cons clean found
  · exact .inl ⟨letter, alphabetic, found⟩
  · exact .inr ⟨letter, alphabetic, found⟩

/-! ## The screen of the transcript -/

/-- What `contains_machine_local_path` looks for. -/
theorem containsMachineLocalPath_iff :
    containsMachineLocalPath line = true ↔
      ascii "\\\\" <:+: line ∨ ascii "file://" <:+: line ∨ HasDrive 0x2f line ∨ HasDrive 0x5c line ∨
      ∃ token ∈ splitAsciiWhitespace line, [0x2f] <+: trimMatches tokenQuotes token ∨
        ∃ first path, trimMatches tokenQuotes token = first ++ 0x3d :: 0x2f :: path ∧
          0x3d ∉ first := by
  have behind (candidate : List UInt8) :
      ((splitOnce 0x3d candidate).any fun parts => startsWith parts.2 [0x2f]) = true ↔
        ∃ first path, candidate = first ++ 0x3d :: 0x2f :: path ∧ 0x3d ∉ first := by
    rw [Option.any_eq_true]
    constructor
    · rintro ⟨⟨first, second⟩, split, begins⟩
      obtain ⟨rfl, clean⟩ := splitOnce_eq_some.mp split
      obtain ⟨path, rfl⟩ := startsWith_iff.mp begins
      exact ⟨first, path, rfl, clean⟩
    · rintro ⟨first, path, rfl, clean⟩
      exact ⟨(first, 0x2f :: path), splitOnce_eq_some.mpr ⟨rfl, clean⟩,
        startsWith_iff.mpr ⟨path, rfl⟩⟩
  have slash : ascii "/" = [0x2f] := rfl
  unfold containsMachineLocalPath
  simp only [Bool.if_true_left, Bool.or_eq_true, decide_eq_true_iff, any_eq_true, hasPart_iff,
    startsWith_iff, hasDrivePath_iff, behind, slash, or_assoc]

/-- The screen only sees paths. -/
theorem namesLocalPath_of_contains (h : containsMachineLocalPath line = true) :
    NamesLocalPath line := by
  obtain h | h | h | h | ⟨token, mem, h | ⟨first, path, shape, -⟩⟩ := containsMachineLocalPath_iff.mp h
  · exact .inr (.inr (.inr (.inr (.inl h))))
  · exact .inr (.inr (.inr (.inr (.inr h))))
  · exact .inr (.inr (.inl h))
  · exact .inr (.inr (.inr (.inl h)))
  · exact .inl ⟨token, mem, h⟩
  · refine .inr (.inl ?_)
    have inToken : [0x3d, 0x2f] <:+: trimMatches tokenQuotes token :=
      ⟨first, path, by rw [shape, append_assoc]; rfl⟩
    exact inToken.trans ((trimMatches_part _ _).trans
      (infix_of_mem_splitOnP (mem_filter.mp mem).1))

/-- The screen does not look behind the second `=` of a token, and sees every other path. -/
theorem namesLocalPath_iff_of_screened (screened : containsMachineLocalPath line = false) :
    NamesLocalPath line ↔ ∃ token ∈ splitAsciiWhitespace line, NestedPath token := by
  have unseen : ¬ containsMachineLocalPath line = true := by
    rw [screened]
    exact Bool.false_ne_true
  rw [containsMachineLocalPath_iff] at unseen
  constructor
  · rintro (⟨token, mem, h⟩ | h | h | h | h | h)
    · exact absurd (.inr (.inr (.inr (.inr ⟨token, mem, .inl h⟩)))) unseen
    · -- Neither byte is white space, so both are in one token.
      obtain ⟨token, mem, before, path, rfl⟩ :=
        exists_mem_splitOnP_of_part (p := isAsciiWhitespace) (by decide +kernel) h
      have some : before ++ [0x3d, 0x2f] ++ path ≠ [] := by simp
      have mem : before ++ [0x3d, 0x2f] ++ path ∈ splitAsciiWhitespace line :=
        mem_filter.mpr ⟨mem, decide_eq_true some⟩
      refine ⟨_, mem, ?_⟩
      -- The screen sees the path unless another `=` comes first.
      by_cases clean : 0x3d ∈ before
      · obtain ⟨option, name, rfl⟩ := append_of_mem clean
        exact ⟨option, name, path, by simp⟩
      · refine absurd (.inr (.inr (.inr (.inr ⟨_, mem, .inr ?_⟩)))) unseen
        refine ⟨before.dropWhile (tokenQuotes.contains ·),
          (path.reverse.dropWhile (tokenQuotes.contains ·)).reverse, ?_, ?_⟩
        · have kept : ((0x2f :: path).reverse.dropWhile (tokenQuotes.contains ·)).reverse =
              0x2f :: (path.reverse.dropWhile (tokenQuotes.contains ·)).reverse := by
            rw [reverse_cons, dropWhile_append_cons (by decide), reverse_append]
            rfl
          rw [append_assoc, cons_append, trimMatches_append_cons (by decide),
            singleton_append, kept]
        · exact fun mem => clean ((dropWhile_suffix _).subset mem)
    · exact absurd (.inr (.inr (.inl h))) unseen
    · exact absurd (.inr (.inr (.inr (.inl h)))) unseen
    · exact absurd (.inl h) unseen
    · exact absurd (.inr (.inl h)) unseen
  · rintro ⟨token, mem, option, name, path, rfl⟩
    have inToken : [0x3d, 0x2f] <:+: option ++ 0x3d :: (name ++ 0x3d :: 0x2f :: path) :=
      ⟨option ++ 0x3d :: name, path, by simp⟩
    exact .inr (.inl (inToken.trans (infix_of_mem_splitOnP (mem_filter.mp mem).1)))

/-! ## The screen of the configuration -/

/-- What the screen of the configuration says of the two sides of a line. -/
theorem AcceptedLine.sides (accepted : AcceptedLine line) :
    ∃ name value, line = name ++ 0x3d :: value ∧ 0x3d ∉ name ∧ 0x3d ∉ value ∧
      (∀ byte ∈ line, isAsciiWhitespace byte = false) ∧
      ¬ ascii ":\\" <:+: value ∧ ¬ [0x2f] <+: value := by
  obtain ⟨name, value, split, passed⟩ := accepted
  obtain ⟨rfl, clean⟩ := splitOnce_eq_some.mp split
  simp only [nameValueRefused, Bool.or_eq_false_iff, any_eq_false, Bool.or_eq_true, not_or,
    Bool.not_eq_true, contains_eq_mem, decide_eq_false_iff_not] at passed
  obtain ⟨⟨⟨⟨⟨⟨-, once⟩, visible⟩, drive⟩, absolute⟩, -⟩, -⟩ := passed
  refine ⟨name, value, rfl, clean, once, fun byte mem => (visible byte mem).1, ?_, ?_⟩
  · rw [← hasPart_iff, drive]
    exact Bool.false_ne_true
  · have : startsWith value [0x2f] = false := absolute
    rw [← startsWith_iff, this]
    exact Bool.false_ne_true

/-- A line without white space is its only token. -/
theorem splitAsciiWhitespace_eq (nonempty : line ≠ [])
    (solid : ∀ byte ∈ line, isAsciiWhitespace byte = false) : splitAsciiWhitespace line = [line] := by
  unfold splitAsciiWhitespace
  rw [splitOnP_eq_singleton solid, filter_cons_of_pos (by simpa using nonempty)]
  rfl

theorem UnscreenedPath.namesLocalPath (solid : ∀ byte ∈ line, isAsciiWhitespace byte = false)
    (h : UnscreenedPath line) : NamesLocalPath line := by
  obtain ⟨name, value, rfl, h⟩ := h
  have left : name <:+: name ++ 0x3d :: value := (prefix_append _ _).isInfix
  have right : value <:+: name ++ 0x3d :: value :=
    ((suffix_cons _ _).trans (suffix_append _ _)).isInfix
  obtain h | h | h | h | h | h | h | h := h
  · refine .inl ⟨name ++ 0x3d :: value, ?_, slash_prefix_trimMatches.mpr h⟩
    rw [splitAsciiWhitespace_eq (by simp) solid]
    exact mem_singleton_self _
  · exact .inr (.inr (.inr (.inl (h.mono left))))
  · exact .inr (.inr (.inl (h.mono left)))
  · exact .inr (.inr (.inl (h.mono right)))
  · exact .inr (.inr (.inr (.inr (.inl (h.trans left)))))
  · exact .inr (.inr (.inr (.inr (.inl (h.trans right)))))
  · exact .inr (.inr (.inr (.inr (.inr (h.trans left)))))
  · exact .inr (.inr (.inr (.inr (.inr (h.trans right)))))

/-- What follows the only `=` of a line is the value. -/
theorem below_of_cons_part {first next : UInt8} (notLeft : first ∉ name) (notRight : first ∉ value)
    (h : [first, next] <:+: name ++ first :: value) : [next] <+: value := by
  induction name with
  | nil =>
    obtain begins | found := infix_cons_iff.mp h
    · exact (cons_prefix_cons.mp begins).2
    · exact absurd (found.subset mem_cons_self) notRight
  | cons byte name ih =>
    obtain begins | found := infix_cons_iff.mp h
    · exact absurd ((cons_prefix_cons.mp begins).1 ▸ mem_cons_self) notLeft
    · exact ih (not_mem_of_not_mem_cons notLeft) found

/-- An accepted line names a path just where the screen of the configuration does not look. -/
theorem AcceptedLine.namesLocalPath_iff (accepted : AcceptedLine line) :
    NamesLocalPath line ↔ UnscreenedPath line := by
  obtain ⟨name, value, rfl, clean, once, solid, noDrive, relative⟩ := accepted.sides
  constructor
  · rintro (⟨token, mem, h⟩ | h | h | h | h | h)
    · rw [splitAsciiWhitespace_eq (by simp) solid, mem_singleton] at mem
      subst mem
      exact ⟨name, value, rfl, .inl (slash_prefix_trimMatches.mp h)⟩
    · exact absurd (below_of_cons_part clean once h) relative
    · obtain h | h := h.of_append_cons (by decide)
      · exact ⟨name, value, rfl, .inr (.inr (.inl h))⟩
      · exact ⟨name, value, rfl, .inr (.inr (.inr (.inl h)))⟩
    · obtain h | h := h.of_append_cons (by decide)
      · exact ⟨name, value, rfl, .inr (.inl h)⟩
      · obtain ⟨letter, -, found⟩ := h
        exact absurd ((suffix_cons letter _).isInfix.trans found) noDrive
    · obtain h | h := infix_append_cons (by decide) h
      · exact ⟨name, value, rfl, .inr (.inr (.inr (.inr (.inl h))))⟩
      · exact ⟨name, value, rfl, .inr (.inr (.inr (.inr (.inr (.inl h)))))⟩
    · obtain h | h := infix_append_cons (by decide) h
      · exact ⟨name, value, rfl, .inr (.inr (.inr (.inr (.inr (.inr (.inl h))))))⟩
      · exact ⟨name, value, rfl, .inr (.inr (.inr (.inr (.inr (.inr (.inr h))))))⟩
  · exact UnscreenedPath.namesLocalPath solid

/-! ## Whole documents -/

/-- The lines that are not looked at are empty. -/
theorem forall_splitLines_iff {p : List UInt8 → Prop} (empty : p []) :
    (∀ line ∈ splitLines bytes, p line) ↔ ∀ line ∈ keptLines bytes, p line := by
  constructor
  · intro h line mem
    exact h line (mem_filter.mp mem).1
  · intro h line mem
    by_cases nothing : line = []
    · rwa [nothing]
    · exact h line (mem_filter.mpr ⟨mem, decide_eq_true nothing⟩)

theorem not_namesLocalPath_nil : ¬ NamesLocalPath [] := by
  rintro (⟨token, mem, -⟩ | h | ⟨letter, -, h⟩ | ⟨letter, -, h⟩ | h | h)
  · cases mem
  all_goals exact absurd (infix_nil.mp h) (cons_ne_nil _ _)

theorem not_unscreenedPath_nil : ¬ UnscreenedPath [] := by
  rintro ⟨name, value, h, -⟩
  exact absurd h.symm (append_ne_nil_of_right_ne_nil _ (cons_ne_nil _ _))

theorem freeOfPaths_iff_of_accepted (h : validateNameValueDocumentCounted bytes declared = .ok ()) :
    FreeOfPaths bytes ↔ ∀ line ∈ splitLines bytes, ¬ UnscreenedPath line := by
  obtain ⟨-, accepted, -⟩ := validateNameValueDocumentCounted_eq_ok h
  unfold FreeOfPaths
  rw [forall_splitLines_iff ⟨not_namesLocalPath_nil, rfl⟩, forall_splitLines_iff not_unscreenedPath_nil]
  refine forall₂_congr fun line mem => ?_
  rw [(accepted line mem).namesLocalPath_iff, and_iff_left_iff_imp]
  intro free
  rw [← (accepted line mem).namesLocalPath_iff] at free
  exact Bool.eq_false_of_not_eq_true fun seen => free (namesLocalPath_of_contains seen)

theorem freeOfPaths_iff_of_transcript (h : validateLineDocument bytes declared = .ok ()) :
    FreeOfPaths bytes ↔
      ∀ line ∈ splitLines bytes, ∀ token ∈ splitAsciiWhitespace line, ¬ NestedPath token := by
  obtain ⟨-, screened, -⟩ := validateLineDocument_eq_ok h
  unfold FreeOfPaths
  rw [forall_splitLines_iff ⟨not_namesLocalPath_nil, rfl⟩, forall_splitLines_iff nofun]
  refine forall₂_congr fun line mem => ?_
  rw [namesLocalPath_iff_of_screened (screened line mem), and_iff_left (screened line mem)]
  simp only [not_exists, not_and]

/-- A document that passes names no path of the machine just when no path is where its screen does not
look. -/
theorem accepted_freeOfPaths_iff (bytes : List UInt8) (declared : UInt32) :
    (validateNameValueDocument bytes = .ok () →
        (FreeOfPaths bytes ↔ ∀ line ∈ splitLines bytes, ¬ UnscreenedPath line)) ∧
      (validateNameValueDocumentCounted bytes declared = .ok () →
        (FreeOfPaths bytes ↔ ∀ line ∈ splitLines bytes, ¬ UnscreenedPath line)) ∧
      (validateLineDocument bytes declared = .ok () →
        (FreeOfPaths bytes ↔
          ∀ line ∈ splitLines bytes, ∀ token ∈ splitAsciiWhitespace line, ¬ NestedPath token)) := by
  refine ⟨fun h => ?_, freeOfPaths_iff_of_accepted, freeOfPaths_iff_of_transcript⟩
  obtain ⟨declared, h⟩ := validateNameValueDocument_eq_ok h
  exact freeOfPaths_iff_of_accepted h

/-- A path that the screen does not see still has a slash. -/
theorem UnscreenedPath.slash_mem (h : UnscreenedPath line) : 0x2f ∈ line ∨ 0x5c ∈ line := by
  obtain ⟨name, value, rfl, h⟩ := h
  simp only [mem_append, mem_cons]
  obtain h | ⟨letter, -, h⟩ | ⟨letter, -, h⟩ | ⟨letter, -, h⟩ | h | h | h | h := h
  · exact .inl (.inl ((dropWhile_suffix _).subset (h.subset mem_cons_self)))
  · exact .inr (.inl (h.subset (by simp)))
  · exact .inl (.inl (h.subset (by simp)))
  · exact .inl (.inr (.inr (h.subset (by simp))))
  · exact .inr (.inl (h.subset (by decide)))
  · exact .inr (.inr (.inr (h.subset (by decide))))
  · exact .inl (.inl (h.subset (by decide)))
  · exact .inl (.inr (.inr (h.subset (by decide))))

/-- Three documents without a path. -/
theorem relative_freeOfPaths :
    FreeOfPaths (ascii "profile=release\n") ∧ FreeOfPaths (ascii "rustc=1.90\n") ∧
      FreeOfPaths (ascii "cargo build --out=target\n") := by
  have plain (text : List UInt8) (h : ∀ line ∈ splitLines text, 0x2f ∉ line ∧ 0x5c ∉ line) :
      ∀ line ∈ splitLines text, ¬ UnscreenedPath line := fun line mem path =>
    path.slash_mem.elim (h line mem).1 (h line mem).2
  refine ⟨((accepted_freeOfPaths_iff _ 0).1 (by decide +kernel)).mpr (plain _ (by decide +kernel)),
    ((accepted_freeOfPaths_iff _ 1).2.1 (by decide +kernel)).mpr (plain _ (by decide +kernel)),
    ((accepted_freeOfPaths_iff _ 1).2.2 (by decide +kernel)).mpr ?_⟩
  rintro line mem token part ⟨option, name, path, rfl⟩
  have none : ∀ line ∈ splitLines (ascii "cargo build --out=target\n"),
      ∀ token ∈ splitAsciiWhitespace line, 0x2f ∉ token := by decide +kernel
  exact none line mem _ part (by simp)

/-- A drive letter with a slash passes as a value, and a path behind the second `=` in a command. -/
theorem local_paths_pass :
    (validateNameValueDocument (ascii "a=C:/x\n") = .ok () ∧ ¬ FreeOfPaths (ascii "a=C:/x\n") ∧
        containsMachineLocalPath (ascii "a=C:/x") = true) ∧
      (validateNameValueDocumentCounted (ascii "/a=file://x\n") 1 = .ok () ∧
        ¬ FreeOfPaths (ascii "/a=file://x\n")) ∧
      validateLineDocument (ascii "cargo --a=b=/etc\n") 1 = .ok () ∧
        ¬ FreeOfPaths (ascii "cargo --a=b=/etc\n") := by
  refine ⟨⟨by decide +kernel, fun free => ?_, by decide +kernel⟩,
    ⟨by decide +kernel, fun free => ?_⟩, by decide +kernel, fun free => ?_⟩
  · exact absurd (free (ascii "a=C:/x") (by decide +kernel)).2 (by decide +kernel)
  · exact absurd (free (ascii "/a=file://x") (by decide +kernel)).2 (by decide +kernel)
  · exact (free (ascii "cargo --a=b=/etc") (by decide +kernel)).1 (.inr (.inl (by decide +kernel)))

end MakopaVerified.Admission
