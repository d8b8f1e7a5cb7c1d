import HeapReplay.Text.Line
import Mathlib.Data.List.Forall2

namespace HeapReplay.Text

/-- Bytes that are made of lines: no line has a line feed in it, and each line ends in one. The
    last line may end with the bytes instead, when it has a byte. -/
inductive Lined : List (List UInt8) → List UInt8 → Prop
  | nil : Lined [] []
  | last {line : List UInt8} (hsome : line ≠ []) (hline : 10 ∉ line) : Lined [line] line
  | cons {line rest : List UInt8} {lines : List (List UInt8)} (hline : 10 ∉ line)
      (hrest : Lined lines rest) : Lined (line :: lines) (line ++ 10 :: rest)

/-- Bytes with a carriage return put in front of some of their line feeds. -/
inductive Returned : List UInt8 → List UInt8 → Prop
  | nil : Returned [] []
  | keep (byte : UInt8) {bytes returned : List UInt8} (h : Returned bytes returned) :
      Returned (byte :: bytes) (byte :: returned)
  | feed {bytes returned : List UInt8} (h : Returned bytes returned) :
      Returned (10 :: bytes) (13 :: 10 :: returned)

/-- Ends each line in a line feed. -/
def unlines (lines : List (List UInt8)) : List UInt8 := lines.flatMap (· ++ [10])

section Lines

variable {byte : UInt8} {line rest bytes : List UInt8} {pieces : List (List UInt8)}

theorem feed_not_mem_cons : 10 ∉ byte :: line ↔ byte ≠ 10 ∧ 10 ∉ line := by
  rw [List.mem_cons, not_or, ne_comm]

theorem lines_feed (hline : 10 ∉ line) : lines (line ++ 10 :: rest) = line :: lines rest := by
  induction line with
  | nil => rfl
  | cons byte line ih =>
    obtain ⟨hbyte, hline⟩ := feed_not_mem_cons.1 hline
    have hstep : lines (byte :: line ++ 10 :: rest) =
        prependByte byte (lines (line ++ 10 :: rest)) := rfl
    rw [hstep, ih hline, prependByte, if_neg hbyte]

theorem lines_last (hsome : line ≠ []) (hline : 10 ∉ line) : lines line = [line] := by
  induction line with
  | nil => exact absurd rfl hsome
  | cons byte line ih =>
    obtain ⟨hbyte, hline⟩ := feed_not_mem_cons.1 hline
    have hstep : lines (byte :: line) = prependByte byte (lines line) := rfl
    cases line with
    | nil => simp [lines, prependByte, hbyte]
    | cons next line =>
      rw [hstep, ih (List.cons_ne_nil next line) hline, prependByte, if_neg hbyte]

theorem Lined.lines_eq (h : Lined pieces bytes) : lines bytes = pieces := by
  induction h with
  | nil => rfl
  | last hsome hline => exact lines_last hsome hline
  | cons hline _ ih => rw [lines_feed hline, ih]

/-- A byte in front of a line belongs to it, unless it is a line feed. -/
theorem Lined.prependByte (h : Lined pieces bytes) (byte : UInt8) :
    Lined (prependByte byte pieces) (byte :: bytes) := by
  unfold Text.prependByte
  by_cases hbyte : byte = 10
  · rw [if_pos hbyte, hbyte]
    exact .cons List.not_mem_nil h
  · rw [if_neg hbyte]
    cases h with
    | nil => exact .last (List.cons_ne_nil byte []) (feed_not_mem_cons.2 ⟨hbyte, List.not_mem_nil⟩)
    | last hsome hline =>
      exact .last (List.cons_ne_nil byte bytes) (feed_not_mem_cons.2 ⟨hbyte, hline⟩)
    | cons hline hrest => exact .cons (feed_not_mem_cons.2 ⟨hbyte, hline⟩) hrest

theorem lined_lines (bytes : List UInt8) : Lined (lines bytes) bytes := by
  induction bytes with
  | nil => exact .nil
  | cons byte bytes ih => exact ih.prependByte byte

/-- Bytes are made of lines in one way. -/
theorem lines_eq_iff : lines bytes = pieces ↔ Lined pieces bytes :=
  ⟨fun hlines => hlines ▸ lined_lines bytes, Lined.lines_eq⟩

theorem Lined.unbroken (h : Lined pieces bytes) : ∀ line ∈ pieces, 10 ∉ line := by
  induction h with
  | nil => exact List.forall_mem_nil _
  | last _ hline => exact List.forall_mem_singleton.2 hline
  | cons hline _ ih => exact List.forall_mem_cons.2 ⟨hline, ih⟩

end Lines

section Whole

variable {bytes : List UInt8} {pieces : List (List UInt8)}

theorem unlines_cons (line : List UInt8) (pieces : List (List UInt8)) :
    unlines (line :: pieces) = line ++ 10 :: unlines pieces := by
  rw [unlines, List.flatMap_cons, List.append_assoc, List.singleton_append, ← unlines]

theorem lined_unlines (hunbroken : ∀ line ∈ pieces, 10 ∉ line) : Lined pieces (unlines pieces) := by
  induction pieces with
  | nil => exact .nil
  | cons line pieces ih =>
    obtain ⟨hline, hunbroken⟩ := List.forall_mem_cons.1 hunbroken
    rw [unlines_cons]
    exact .cons hline (ih hunbroken)

/-- Whole lines in front of other bytes are lines of their own. -/
theorem lines_unlines_append (hunbroken : ∀ line ∈ pieces, 10 ∉ line) (more : List UInt8) :
    lines (unlines pieces ++ more) = pieces ++ lines more := by
  induction pieces with
  | nil => rfl
  | cons line pieces ih =>
    obtain ⟨hline, hunbroken⟩ := List.forall_mem_cons.1 hunbroken
    rw [unlines_cons, List.append_assoc, List.cons_append, lines_feed hline, ih hunbroken,
      List.cons_append]

theorem count_unlines (hunbroken : ∀ line ∈ pieces, 10 ∉ line) :
    (unlines pieces).count 10 = pieces.length := by
  induction pieces with
  | nil => rfl
  | cons line pieces ih =>
    obtain ⟨hline, hunbroken⟩ := List.forall_mem_cons.1 hunbroken
    rw [unlines_cons, List.count_append, List.count_cons_self, List.count_eq_zero_of_not_mem hline,
      ih hunbroken, Nat.zero_add, List.length_cons]

/-- Bytes that end in a line feed, or are none, are whole lines. -/
theorem Lined.unlines_eq (h : Lined pieces bytes) (hends : ∀ byte ∈ bytes.getLast?, byte = 10) :
    unlines pieces = bytes := by
  induction h with
  | nil => rfl
  | @last line hsome hline =>
    have hlast := List.getLast?_eq_some_getLast hsome
    have hfeed := hends _ hlast
    exact absurd (hfeed ▸ List.getLast_mem hsome) hline
  | @cons line rest _ _ _ ih =>
    rw [unlines_cons, ih]
    intro byte hbyte
    refine hends byte ?_
    rw [List.getLast?_append, List.getLast?_cons, Option.mem_def.1 hbyte]
    rfl

theorem lines_append (hends : ∀ byte ∈ bytes.getLast?, byte = 10) (more : List UInt8) :
    lines (bytes ++ more) = lines bytes ++ lines more := by
  have hlined := lined_lines bytes
  have happend := lines_unlines_append hlined.unbroken more
  rwa [hlined.unlines_eq hends] at happend

theorem length_lines (hends : ∀ byte ∈ bytes.getLast?, byte = 10) :
    (lines bytes).length = bytes.count 10 := by
  have hlined := lined_lines bytes
  rw [← count_unlines hlined.unbroken, hlined.unlines_eq hends]

end Whole

section Returns

variable {bytes returned : List UInt8}

theorem forall₂_prependByte {pieces longer : List (List UInt8)} (byte : UInt8)
    (h : List.Forall₂ (fun line longer => longer = line ∨ longer = line ++ [13]) pieces longer) :
    List.Forall₂ (fun line longer => longer = line ∨ longer = line ++ [13])
      (prependByte byte pieces) (prependByte byte longer) := by
  unfold prependByte
  split
  · exact .cons (.inl rfl) h
  · cases h with
    | nil => exact .cons (.inl rfl) .nil
    | cons hline hlines =>
      refine .cons ?_ hlines
      rcases hline with rfl | rfl
      · exact .inl rfl
      · exact .inr rfl

/-- Carriage returns in front of line feeds stand at the end of lines. -/
theorem Returned.lines (h : Returned bytes returned) :
    List.Forall₂ (fun line longer => longer = line ∨ longer = line ++ [13])
      (lines bytes) (lines returned) := by
  induction h with
  | nil => exact .nil
  | keep byte _ ih => exact forall₂_prependByte byte ih
  | feed _ ih => exact .cons (.inr rfl) ih

end Returns

end HeapReplay.Text
