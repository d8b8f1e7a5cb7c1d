import HeapReplay.Trace.Reader

namespace HeapReplay.Trace

/-- A line of text that holds a record or is skipped. -/
def Readable (line : List UInt8) : Prop :=
  ∃ text record, Text.decode? line = some text ∧ Record.parse text = .ok record

/-- The lines before a line are readable. -/
def ReadUpTo (lines before : List (List UInt8)) (line : List UInt8) : Prop :=
  (∃ after, lines = before ++ line :: after) ∧ ∀ earlier ∈ before, Readable earlier

/-- What can be wrong with a line. -/
inductive LineFault (number : Nat) (line : List UInt8) : ReadError → Prop
  | encoding (htext : Text.decode? line = none) :
      LineFault number line (.unreadable "stream did not contain valid UTF-8")
  | malformed {text : String} {error : FieldError} (htext : Text.decode? line = some text)
      (hparse : Record.parse text = .error error) :
      LineFault number line (.malformed number error.message)

section Lines

variable {number : Nat} {line : List UInt8} {lines : List (List UInt8)} {records : Array Record}
  {error : ReadError}

theorem readLine_eq_error : readLine number line = .error error ↔ LineFault number line error := by
  constructor
  · intro hread
    cases htext : Text.decode? line with
    | none =>
      simp only [readLine, htext, Except.error.injEq] at hread
      exact hread ▸ .encoding htext
    | some text =>
      cases hparse : Record.parse text with
      | ok record => simp [readLine, Record.parseNumbered, htext, hparse] at hread
      | error reason =>
        simp only [readLine, Record.parseNumbered, htext, hparse, Except.error.injEq] at hread
        exact hread ▸ .malformed htext hparse
  · rintro (htext | ⟨htext, hparse⟩)
    · simp only [readLine, htext]
    · simp only [readLine, Record.parseNumbered, htext, hparse]

theorem readable_iff : Readable line ↔ ∃ record, readLine number line = .ok record := by
  constructor
  · rintro ⟨text, record, htext, hparse⟩
    exact ⟨record, by simp only [readLine, Record.parseNumbered, htext, hparse]⟩
  · rintro ⟨record, hread⟩
    cases htext : Text.decode? line with
    | none => simp [readLine, htext] at hread
    | some text =>
      cases hparse : Record.parse text with
      | ok found => exact ⟨text, found, htext, hparse⟩
      | error reason => simp [readLine, Record.parseNumbered, htext, hparse] at hread

theorem readUpTo_cons {head : List UInt8} {before : List (List UInt8)} :
    ReadUpTo (head :: lines) before line ↔
      before = [] ∧ line = head ∨
        ∃ rest, before = head :: rest ∧ Readable head ∧ ReadUpTo lines rest line := by
  constructor
  · rintro ⟨⟨after, hlines⟩, hbefore⟩
    cases before with
    | nil =>
      cases hlines
      exact .inl ⟨rfl, rfl⟩
    | cons first rest =>
      cases hlines
      obtain ⟨hfirst, hrest⟩ := List.forall_mem_cons.1 hbefore
      exact .inr ⟨rest, rfl, hfirst, ⟨after, rfl⟩, hrest⟩
  · rintro (⟨rfl, rfl⟩ | ⟨rest, rfl, hhead, ⟨after, rfl⟩, hrest⟩)
    · exact ⟨⟨lines, rfl⟩, fun _ hmem => nomatch hmem⟩
    · exact ⟨⟨after, rfl⟩, List.forall_mem_cons.2 ⟨hhead, hrest⟩⟩

/-- Reading breaks off at the first line that has a fault. -/
theorem readLines_eq_error : readLines number records lines = .error error ↔
    ∃ before line, ReadUpTo lines before line ∧ LineFault (number + before.length) line error := by
  induction lines generalizing number records with
  | nil => simp [readLines, ReadUpTo]
  | cons head lines ih =>
    simp only [readUpTo_cons]
    cases hhead : readLine number head with
    | error reason =>
      have hunread : ¬ Readable head := fun hread => by
        obtain ⟨record, hok⟩ := readable_iff.1 hread
        cases hhead.symm.trans hok
      have hstep : readLines number records (head :: lines) = .error error ↔
          LineFault number head error := by
        simp only [← readLine_eq_error, readLines, hhead, Except.error.injEq]
      rw [hstep]
      constructor
      · intro hfault
        exact ⟨[], head, .inl ⟨rfl, rfl⟩, hfault⟩
      · rintro ⟨before, line, ⟨rfl, rfl⟩ | ⟨rest, rfl, hread, -⟩, hfault⟩
        · exact hfault
        · exact absurd hread hunread
    | ok record =>
      have hread : Readable head := readable_iff.2 ⟨record, hhead⟩
      have hstep : readLines number records (head :: lines) =
          readLines (number + 1) (record.elim records records.push) lines := by
        cases record <;> simp only [readLines, hhead] <;> rfl
      rw [hstep, ih]
      constructor
      · rintro ⟨before, line, hupTo, hfault⟩
        refine ⟨head :: before, line, .inr ⟨before, rfl, hread, hupTo⟩, ?_⟩
        rwa [List.length_cons, Nat.add_comm before.length, ← Nat.add_assoc]
      · rintro ⟨before, line, ⟨rfl, rfl⟩ | ⟨rest, rfl, -, hupTo⟩, hfault⟩
        · cases hhead.symm.trans (readLine_eq_error.2 hfault)
        · refine ⟨rest, line, hupTo, ?_⟩
          rwa [List.length_cons, Nat.add_comm rest.length, ← Nat.add_assoc] at hfault

end Lines

/-- A trace cannot be read when one of its lines cannot, and the first such line says why.
    Lines are numbered from one. -/
theorem read_eq_error {bytes : List UInt8} {error : ReadError} : read bytes = .error error ↔
    ∃ before line, ReadUpTo (Text.lines bytes) before line ∧
      LineFault (before.length + 1) line error := by
  have hread : read bytes = .error error ↔ readLines 1 #[] (Text.lines bytes) = .error error := by
    unfold read
    cases readLines 1 #[] (Text.lines bytes) <;> simp [Functor.map, Except.map]
  rw [hread, readLines_eq_error]
  simp only [Nat.add_comm 1]

end HeapReplay.Trace
