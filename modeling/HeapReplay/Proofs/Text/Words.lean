import HeapReplay.Text.Blank
import Mathlib.Data.List.Basic
import Mathlib.Tactic.SplitIfs

namespace HeapReplay.Text

/-- A word has a character, and none that is blank. -/
structure Solid (word : List Char) : Prop where
  ne_nil : word ≠ []
  unbroken : ∀ c ∈ word, ¬ isBlank c

/-- A text that is made of words: each of them runs until a blank or the end of the text, and
    there are only blanks around them. -/
inductive Spelled : List (List Char) → List Char → Prop
  | nil {gap : List Char} (hgap : ∀ c ∈ gap, isBlank c) : Spelled [] gap
  | cons {gap word rest : List Char} {words : List (List Char)} (hgap : ∀ c ∈ gap, isBlank c)
      (hword : Solid word) (hends : ∀ c ∈ rest.head?, isBlank c) (hrest : Spelled words rest) :
      Spelled (word :: words) (gap ++ (word ++ rest))

theorem startsWord_eq_false {text : List Char} :
    startsWord text = false ↔ ∀ c ∈ text.head?, isBlank c := by
  cases text <;> simp [startsWord]

section Words

variable {c : Char} {gap word rest text : List Char} {spelling : List (List Char)}

theorem words_blank_append (hgap : ∀ c ∈ gap, isBlank c) : words (gap ++ rest) = words rest := by
  induction gap with
  | nil => rfl
  | cons c gap ih =>
    obtain ⟨hc, hgap⟩ := List.forall_mem_cons.1 hgap
    rw [List.cons_append, words, if_pos hc, ih hgap]

/-- A run of characters up to a blank or the end is a word. -/
theorem words_solid_append (hword : Solid word) (hends : ∀ c ∈ rest.head?, isBlank c) :
    words (word ++ rest) = word :: words rest := by
  obtain ⟨hne, hunbroken⟩ := hword
  induction word with
  | nil => exact absurd rfl hne
  | cons c word ih =>
    obtain ⟨hc, hunbroken⟩ := List.forall_mem_cons.1 hunbroken
    -- The last character of the word opens it, every other one extends what follows it.
    cases word with
    | nil => simp [words, hc, startsWord_eq_false.2 hends]
    | cons d word =>
      have hstarts : startsWord (d :: word ++ rest) = true := by
        simpa [startsWord] using (List.forall_mem_cons.1 hunbroken).1
      rw [List.cons_append, words, if_neg hc, if_pos hstarts, ih (List.cons_ne_nil d word) hunbroken,
        extendFirst]

theorem Spelled.words_eq (h : Spelled spelling text) : words text = spelling := by
  induction h with
  | @nil gap hgap => rw [← List.append_nil gap, words_blank_append hgap, words]
  | cons hgap hword hends _ ih => rw [words_blank_append hgap, words_solid_append hword hends, ih]

/-- A text that starts with a word. -/
theorem Spelled.word_append (hword : Solid word) (hends : ∀ c ∈ rest.head?, isBlank c)
    (hrest : Spelled spelling rest) : Spelled (word :: spelling) (word ++ rest) :=
  .cons (List.forall_mem_nil (isBlank · = true)) hword hends hrest

theorem Spelled.blank_cons (hc : isBlank c) (h : Spelled spelling text) :
    Spelled spelling (c :: text) := by
  cases h with
  | nil hgap => exact .nil (List.forall_mem_cons.2 ⟨hc, hgap⟩)
  | cons hgap hword hends hrest =>
    exact .cons (List.forall_mem_cons.2 ⟨hc, hgap⟩) hword hends hrest

/-- A character in front of a word belongs to it. -/
theorem Spelled.solid_cons (hc : ¬ isBlank c) (hstarts : startsWord text)
    (h : Spelled spelling text) : Spelled (extendFirst c spelling) (c :: text) := by
  cases h with
  | nil hgap =>
    cases text with
    | nil => cases hstarts
    | cons d text => simp [startsWord, hgap d List.mem_cons_self] at hstarts
  | @cons gap word rest spelling hgap hword hends hrest =>
    cases gap with
    | nil =>
      have hlonger : Solid (c :: word) :=
        ⟨List.cons_ne_nil c word, List.forall_mem_cons.2 ⟨hc, hword.unbroken⟩⟩
      exact .word_append hlonger hends hrest
    | cons d gap => simp [startsWord, hgap d List.mem_cons_self] at hstarts

theorem spelled_words (text : List Char) : Spelled (words text) text := by
  induction text with
  | nil => exact .nil (List.forall_mem_nil (isBlank · = true))
  | cons c text ih =>
    rw [words]
    split_ifs with hc hstarts
    · exact ih.blank_cons hc
    · exact ih.solid_cons hc hstarts
    · have hword : Solid [c] := ⟨List.cons_ne_nil c [], by simpa using hc⟩
      exact .word_append hword (startsWord_eq_false.1 (Bool.eq_false_iff.2 hstarts)) ih

/-- The words of a text are the longest runs of characters that are not blank. -/
theorem words_eq_iff : words text = spelling ↔ Spelled spelling text :=
  ⟨fun hwords => hwords ▸ spelled_words text, Spelled.words_eq⟩

/-- Blanks behind a text leave its words alone. -/
theorem Spelled.append_blank (h : Spelled spelling text) (hgap : ∀ c ∈ gap, isBlank c) :
    Spelled spelling (text ++ gap) := by
  induction h with
  | nil hbefore => exact .nil (List.forall_mem_append.2 ⟨hbefore, hgap⟩)
  | @cons before word rest _ hbefore hword hends _ ih =>
    rw [List.append_assoc, List.append_assoc]
    refine .cons hbefore hword ?_ ih
    intro c hc
    cases rest with
    | nil => exact hgap c (List.mem_of_head? hc)
    | cons d rest => exact hends c hc

/-- Words with single spaces between them. -/
theorem spelled_intercalate (hsolid : ∀ word ∈ spelling, Solid word) :
    Spelled spelling ([' '].intercalate spelling) := by
  induction spelling with
  | nil => exact .nil (List.forall_mem_nil _)
  | cons word spelling ih =>
    obtain ⟨hword, hsolid⟩ := List.forall_mem_cons.1 hsolid
    have hspelled := ih hsolid
    cases spelling with
    | nil =>
      have hends : ∀ c ∈ ([] : List Char).head?, isBlank c := nofun
      simpa using Spelled.word_append hword hends hspelled
    | cons next spelling =>
      have hends : ∀ c ∈ (' ' :: [' '].intercalate (next :: spelling)).head?, isBlank c := by
        rintro c ⟨⟩
        decide
      rw [List.intercalate_cons_cons, List.append_assoc]
      exact .word_append hword hends (hspelled.blank_cons (by decide))

theorem mem_intercalate (h : c ∈ [' '].intercalate spelling) :
    c = ' ' ∨ ∃ word ∈ spelling, c ∈ word := by
  induction spelling with
  | nil => cases h
  | cons word spelling ih =>
    cases spelling with
    | nil => exact .inr ⟨word, List.mem_cons_self, by simpa using h⟩
    | cons next spelling =>
      rw [List.intercalate_cons_cons, List.append_assoc, List.mem_append, List.singleton_append,
        List.mem_cons] at h
      rcases h with hword | hspace | hlater
      · exact .inr ⟨word, List.mem_cons_self, hword⟩
      · exact .inl hspace
      · refine (ih hlater).imp_right ?_
        rintro ⟨found, hmem, hc⟩
        exact ⟨found, List.mem_cons_of_mem _ hmem, hc⟩

end Words

end HeapReplay.Text
