import Mathlib

/-!
# Lines

A text that ends each of its lines with a separator, and the lines that splitting it gives back.
-/

namespace MakopaVerified.Foundation

open List

variable {α : Type} {separator : α} {lines : List (List α)} {text : List α}

/-- The lines, each with the separator behind it. -/
def joinLines (separator : α) (lines : List (List α)) : List α :=
  lines.flatMap fun line => line ++ [separator]

@[simp] theorem joinLines_nil : joinLines separator [] = [] := rfl

@[simp] theorem joinLines_cons (line : List α) (lines : List (List α)) :
    joinLines separator (line :: lines) = line ++ separator :: joinLines separator lines := by
  rw [joinLines, flatMap_cons, append_assoc, joinLines, singleton_append]

theorem joinLines_append (first second : List (List α)) :
    joinLines separator (first ++ second) =
      joinLines separator first ++ joinLines separator second := flatMap_append

theorem joinLines_eq_intercalate (h : lines ≠ []) :
    joinLines separator lines = [separator].intercalate lines ++ [separator] := by
  induction lines with
  | nil => exact absurd rfl h
  | cons line lines ih =>
    cases lines with
    | nil => simp
    | cons next lines =>
      rw [joinLines_cons, ih (cons_ne_nil _ _), intercalate_cons_cons, append_assoc,
        append_assoc, singleton_append]

theorem dropLast_joinLines (h : lines ≠ []) :
    (joinLines separator lines).dropLast = [separator].intercalate lines := by
  rw [joinLines_eq_intercalate h, dropLast_concat]

theorem joinLines_ne_nil (h : lines ≠ []) : joinLines separator lines ≠ [] := by
  rw [joinLines_eq_intercalate h]
  exact concat_ne_nil _ _

theorem getLast?_joinLines (h : lines ≠ []) : (joinLines separator lines).getLast? = some separator := by
  rw [joinLines_eq_intercalate h, List.getLast?_concat]

variable [BEq α] [LawfulBEq α]

/-- Splitting gives the lines back, and an empty rest. -/
theorem splitOn_joinLines (clean : ∀ line ∈ lines, separator ∉ line) :
    (joinLines separator lines).splitOn separator = lines ++ [[]] := by
  induction lines with
  | nil => rfl
  | cons line lines ih =>
    rw [forall_mem_cons] at clean
    rw [joinLines_cons, splitOn_append_cons_self_of_not_mem clean.1, ih clean.2, cons_append]

theorem splitOn_dropLast_joinLines (clean : ∀ line ∈ lines, separator ∉ line) (h : lines ≠ []) :
    (joinLines separator lines).dropLast.splitOn separator = lines := by
  rw [dropLast_joinLines h, splitOn_intercalate _ clean h]

/-- A text that ends with the separator is made of the lines before it. -/
theorem joinLines_splitOn_dropLast (h : text.getLast? = some separator) :
    joinLines separator (text.dropLast.splitOn separator) = text := by
  rw [joinLines_eq_intercalate (splitOn_ne_nil _ _), intercalate_splitOn]
  exact dropLast_append_getLast? _ h

/-- A separator that follows the beginning or another one ends an empty line. -/
theorem nil_mem_of_splitOn (clean : ∀ line ∈ lines, separator ∉ line) (before : List (List α))
    (behind : List α)
    (h : (joinLines separator lines).splitOn separator = before ++ [] :: behind.splitOn separator) :
    [] ∈ lines := by
  have shape : lines ++ [[]] = before ++ [] :: behind.splitOn separator :=
    (splitOn_joinLines clean).symm.trans h
  have dropped := congrArg List.dropLast shape
  rw [dropLast_concat, dropLast_append_of_ne_nil (cons_ne_nil _ _),
    dropLast_cons_of_ne_nil (splitOn_ne_nil _ _)] at dropped
  rw [dropped]
  exact mem_append_right _ mem_cons_self

/-- There is an empty line just when the text begins with a separator or has two in a row. -/
theorem nil_mem_iff (clean : ∀ line ∈ lines, separator ∉ line) :
    [] ∈ lines ↔ [separator] <+: joinLines separator lines ∨
      [separator, separator] <:+: joinLines separator lines := by
  constructor
  · intro mem
    obtain ⟨front, rest, rfl⟩ := append_of_mem mem
    rw [joinLines_append, joinLines_cons, nil_append]
    by_cases empty : front = []
    · subst empty
      exact .inl ⟨_, rfl⟩
    · rw [joinLines_eq_intercalate empty, append_assoc]
      exact .inr ⟨_, joinLines separator rest, by rw [append_assoc]; rfl⟩
  · rintro (⟨behind, shape⟩ | ⟨before, behind, shape⟩)
    · refine nil_mem_of_splitOn clean [] behind ?_
      rw [← shape, ← nil_append ([separator] ++ behind), singleton_append,
        splitOn_append_cons_self, splitOn_nil, singleton_append, nil_append]
    · refine nil_mem_of_splitOn clean (before.splitOn separator) behind ?_
      rw [← shape, append_assoc, cons_append, splitOn_append_cons_self,
        singleton_append, ← nil_append (separator :: behind),
        splitOn_append_cons_self, splitOn_nil, singleton_append]

/-! ## Parts without the separator -/

omit [BEq α] [LawfulBEq α] in
/-- A part without the separator lies on one side of it. -/
theorem infix_append_cons {part before behind : List α} (clean : separator ∉ part)
    (h : part <:+: before ++ separator :: behind) : part <:+: before ∨ part <:+: behind := by
  obtain ⟨left, right, shape⟩ := h
  rw [append_assoc, append_eq_append_iff] at shape
  obtain ⟨rest, rfl, shape⟩ | ⟨rest, -, shape⟩ := shape
  · -- The part begins before the separator, so it ends there as well.
    rw [append_eq_append_iff] at shape
    obtain ⟨more, rfl, -⟩ | ⟨more, rfl, shape⟩ := shape
    · exact .inl ⟨left, more, append_assoc _ _ _⟩
    · cases more with
      | nil => exact .inl ⟨left, [], by rw [append_nil, append_nil]⟩
      | cons head more =>
        obtain rfl := (List.cons.inj shape).1
        exact absurd (mem_append_right _ mem_cons_self) clean
  · cases rest with
    | nil =>
      cases part with
      | nil => exact .inr nil_infix
      | cons head part => exact absurd ((List.cons.inj shape).1 ▸ mem_cons_self) clean
    | cons head rest =>
      exact .inr ⟨rest, right, by rw [append_assoc, (List.cons.inj shape).2, append_eq]⟩

section

variable {p : α → Bool}

omit [BEq α] [LawfulBEq α]

/-- Induction along the separators of a text, from the last piece back to the first. -/
theorem splitOnP_induction {motive : List α → Prop}
    (single : ∀ text, (∀ item ∈ text, p item = false) → motive text)
    (cut : ∀ first separator rest, (∀ item ∈ first, p item = false) → p separator = true →
      motive rest → motive (first ++ separator :: rest)) (text : List α) : motive text := by
  induction hlength : text.length using Nat.strong_induction_on generalizing text with
  | h length ih =>
    cases found : text.find? p with
    | none =>
      exact single text fun item mem => Bool.eq_false_of_not_eq_true (List.find?_eq_none.mp found item mem)
    | some separator =>
      obtain ⟨isSeparator, first, rest, rfl, clean⟩ := List.find?_eq_some_iff_append.mp found
      refine cut first separator rest (fun item mem => by simpa using clean item mem) isSeparator
        (ih rest.length ?_ rest rfl)
      rw [← hlength, length_append, length_cons]
      omega

/-- No separator is in a piece. -/
theorem eq_false_of_mem_splitOnP {piece : List α} (mem : piece ∈ text.splitOnP p) :
    ∀ item ∈ piece, p item = false := by
  induction text using splitOnP_induction (p := p) with
  | single text clean =>
    rw [splitOnP_eq_singleton clean, mem_singleton] at mem
    rwa [mem]
  | cut first separator rest clean isSeparator ih =>
    rw [splitOnP_append_cons_of_forall_mem clean separator isSeparator] at mem
    obtain rfl | mem := mem_cons.mp mem
    · exact clean
    · exact ih mem

/-- A part without separators lies in one of the pieces. -/
theorem exists_mem_splitOnP_of_part {part : List α} (clean : ∀ item ∈ part, p item = false)
    (h : part <:+: text) : ∃ piece ∈ text.splitOnP p, part <:+: piece := by
  induction text using splitOnP_induction (p := p) with
  | single text none =>
    rw [splitOnP_eq_singleton none]
    exact ⟨text, mem_singleton_self _, h⟩
  | cut first separator rest firstClean isSeparator ih =>
    rw [splitOnP_append_cons_of_forall_mem firstClean separator isSeparator]
    have apart : separator ∉ part := fun mem => by
      rw [clean separator mem] at isSeparator
      cases isSeparator
    obtain h | h := infix_append_cons apart h
    · exact ⟨first, mem_cons_self, h⟩
    · obtain ⟨piece, mem, h⟩ := ih h
      exact ⟨piece, mem_cons_of_mem _ mem, h⟩

/-- A piece is a part of the text. -/
theorem infix_of_mem_splitOnP {piece : List α} (mem : piece ∈ text.splitOnP p) : piece <:+: text := by
  induction text using splitOnP_induction (p := p) with
  | single text none =>
    rw [splitOnP_eq_singleton none, mem_singleton] at mem
    rw [mem]
  | cut first separator rest clean isSeparator ih =>
    rw [splitOnP_append_cons_of_forall_mem clean separator isSeparator] at mem
    obtain rfl | mem := mem_cons.mp mem
    · exact (prefix_append _ _).isInfix
    · exact (ih mem).trans ((suffix_cons _ _).trans (suffix_append _ _)).isInfix

end

end MakopaVerified.Foundation
