import HeapReplay.Proofs.Text.Encoding
import HeapReplay.Proofs.Text.Lines
import HeapReplay.Proofs.Trace.Grammar
import HeapReplay.Proofs.Trace.Reading

namespace HeapReplay.Trace

/-- The error of a line with further lines in front of it. -/
def ReadError.behind (count : Nat) : ReadError → ReadError
  | .malformed line reason => .malformed (count + line) reason
  | .unreadable reason => .unreadable reason

/-- A line of text that describes a record. -/
def Describes (line : List UInt8) (record : Record) : Prop :=
  ∃ text words, Text.decode? line = some text ∧ Text.Spelled words text.toList ∧
    record.Described words

/-- A line of text that describes no complete call. -/
def Skipped (line : List UInt8) : Prop :=
  ∃ text words, Text.decode? line = some text ∧ Text.Spelled words text.toList ∧
    ¬ ∃ numbers, Complete words numbers

/-- Lines that list records, each on a line of its own, with skipped lines between them. -/
inductive Listed : List Record → List (List UInt8) → Prop
  | nil : Listed [] []
  | record {record : Record} {records : List Record} {line : List UInt8}
      {lines : List (List UInt8)} (hline : Describes line record) (hrest : Listed records lines) :
      Listed (record :: records) (line :: lines)
  | skipped {records : List Record} {line : List UInt8} {lines : List (List UInt8)}
      (hline : Skipped line) (hrest : Listed records lines) : Listed records (line :: lines)

section Lines

variable {number count : Nat} {line : List UInt8} {lines : List (List UInt8)}
  {records : List Record} {record : Record}

theorem readLines_append (number : Nat) (records : Array Record)
    (lines more : List (List UInt8)) :
    readLines number records (lines ++ more) =
      readLines number records lines >>= fun read =>
        readLines (number + lines.length) read more := by
  induction lines generalizing number records with
  | nil => rfl
  | cons line lines ih =>
    simp only [List.cons_append, readLines]
    rw [List.length_cons, Nat.add_comm lines.length, ← Nat.add_assoc]
    cases readLine number line with
    | error error => rfl
    | ok found =>
      cases found with
      | none => exact ih (number + 1) records
      | some record => exact ih (number + 1) (records.push record)

theorem readLine_behind (count number : Nat) (line : List UInt8) :
    readLine (count + number) line = (readLine number line).mapError (.behind count) := by
  unfold readLine Record.parseNumbered
  cases Text.decode? line with
  | none => rfl
  | some text =>
    dsimp only
    cases Record.parse text <;> rfl

/-- The lines before others show in the records read so far and in the number of a line with a
    fault. -/
theorem readLines_behind (count number : Nat) (before records : Array Record)
    (lines : List (List UInt8)) :
    readLines (count + number) (before ++ records) lines =
      (before ++ ·) <$> (readLines number records lines).mapError (.behind count) := by
  induction lines generalizing number records with
  | nil => rfl
  | cons line lines ih =>
    simp only [readLines, readLine_behind]
    cases readLine number line with
    | error error => rfl
    | ok found =>
      cases found with
      | none => exact ih (number + 1) records
      | some record =>
        rw [mapError_ok, ← ih (number + 1) (records.push record), Array.append_push]
        rfl

/-- Whole lines are read first, and then the bytes behind them. -/
theorem read_append {a : List UInt8} (hends : ∀ byte ∈ a.getLast?, byte = 10) (b : List UInt8) :
    read (a ++ b) = read a >>= fun records =>
      (records ++ ·) <$> (read b).mapError (.behind (a.count 10)) := by
  rw [read, Text.lines_append hends, readLines_append, Text.length_lines hends, read, read]
  cases readLines 1 #[] (Text.lines a) with
  | error error => rfl
  | ok records =>
    have hbehind := readLines_behind (a.count 10) 1 records #[] (Text.lines b)
    rw [Array.append_empty, Nat.add_comm] at hbehind
    simp only [bind, Except.bind, Functor.map, Except.map, hbehind]
    cases readLines 1 #[] (Text.lines b) with
    | error error => rfl
    | ok more => simp

/-- A carriage return at the end of a line changes nothing. -/
theorem readLine_concat_return (number : Nat) (line : List UInt8) :
    readLine number (line ++ [13]) = readLine number line := by
  rw [readLine, Text.decode?_concat_return, readLine]
  cases Text.decode? line with
  | none => rfl
  | some text =>
    have hblank : ∀ c ∈ ['\r'], Text.isBlank c := List.forall_mem_singleton.2 (by decide)
    have hwords : Text.words (text.push '\r').toList = Text.words text.toList := by
      rw [String.toList_push]
      exact ((Text.spelled_words text.toList).append_blank hblank).words_eq
    simp only [Option.map_some, Record.parseNumbered, Record.parse, hwords]

theorem readLines_returned {lines longer : List (List UInt8)}
    (h : List.Forall₂ (fun line longer => longer = line ∨ longer = line ++ [13]) lines longer)
    (number : Nat) (records : Array Record) :
    readLines number records longer = readLines number records lines := by
  induction h generalizing number records with
  | nil => rfl
  | @cons line longer _ _ hline _ ih =>
    have hsame : readLine number longer = readLine number line := by
      rcases hline with rfl | rfl
      · rfl
      · exact readLine_concat_return number line
    simp only [readLines, hsame, ih]

theorem read_returned {bytes returned : List UInt8} (h : Text.Returned bytes returned) :
    read returned = read bytes := by
  rw [read, readLines_returned h.lines, read]

end Lines

section Listed

variable {number : Nat} {line : List UInt8} {lines : List (List UInt8)} {record : Record}

theorem readLine_eq_ok {found : Option Record} : readLine number line = .ok found ↔
    ∃ text, Text.decode? line = some text ∧
      Record.ofWords (Text.words text.toList) = .ok found := by
  unfold readLine
  cases Text.decode? line with
  | none => simp
  | some text => simp [parseNumbered_eq_ok]

theorem readLine_eq_some : readLine number line = .ok (some record) ↔ Describes line record := by
  simp only [readLine_eq_ok, ofWords_eq_some, Describes, ← Text.words_eq_iff, exists_and_left,
    exists_eq_left']

theorem readLine_eq_none : readLine number line = .ok none ↔ Skipped line := by
  simp only [readLine_eq_ok, ofWords_eq_none, Skipped, ← Text.words_eq_iff, exists_and_left,
    exists_eq_left']

/-- Lines are read when they list records, and these are the records read. -/
theorem readLines_eq_ok {before all : Array Record} : readLines number before lines = .ok all ↔
    ∃ records, Listed records lines ∧ all = before ++ records.toArray := by
  induction lines generalizing number before with
  | nil =>
    constructor
    · rintro ⟨⟩
      exact ⟨[], .nil, by simp⟩
    · rintro ⟨_, ⟨⟩, rfl⟩
      simp [readLines]
  | cons line lines ih =>
    constructor
    · intro hread
      cases hline : readLine number line with
      | error error => simp [readLines, hline] at hread
      | ok found =>
        cases found with
        | none =>
          simp only [readLines, hline] at hread
          obtain ⟨records, hlisted, rfl⟩ := ih.1 hread
          exact ⟨records, .skipped (readLine_eq_none.1 hline) hlisted, rfl⟩
        | some record =>
          simp only [readLines, hline] at hread
          obtain ⟨records, hlisted, rfl⟩ := ih.1 hread
          exact ⟨record :: records, .record (readLine_eq_some.1 hline) hlisted, by simp⟩
    · rintro ⟨records, hlisted, rfl⟩
      cases hlisted with
      | @record record records _ _ hline hrest =>
        simp only [readLines, readLine_eq_some.2 hline]
        exact ih.2 ⟨records, hrest, by simp⟩
      | skipped hline hrest =>
        simp only [readLines, readLine_eq_none.2 hline]
        exact ih.2 ⟨records, hrest, rfl⟩

theorem read_eq_ok {bytes : List UInt8} {records : List Record} :
    read bytes = .ok records ↔ Listed records (Text.lines bytes) := by
  simp only [read, map_eq_ok, readLines_eq_ok, Array.empty_append]
  constructor
  · rintro ⟨_, ⟨found, hlisted, rfl⟩, rfl⟩
    exact hlisted
  · intro hlisted
    exact ⟨_, ⟨records, hlisted, rfl⟩, rfl⟩

end Listed

section Written

theorem solid_of_numeral {word : List Char} {value : Nat} (h : Text.Numeral word value) :
    Text.Solid word := by
  have hdigit {c : Char} (hc : c.isDigit) : ¬ Text.isBlank c := by
    have hrange : 48 ≤ c.toNat ∧ c.toNat ≤ 57 := by
      simpa [Char.isDigit, UInt32.le_iff_toNat_le] using hc
    simp [Text.isBlank, Text.blankRanges]
    omega
  obtain ⟨digits, rfl | rfl, hsome, hdigits, -⟩ := h
  · exact ⟨hsome, fun c hc => hdigit (hdigits c hc)⟩
  · refine ⟨List.cons_ne_nil '+' digits, List.forall_mem_cons.2 ⟨by decide, ?_⟩⟩
    intro c hc
    exact hdigit (hdigits c hc)

theorem solid_of_mem_write (style : Field → Text.NumeralStyle) (record : Record) :
    ∀ word ∈ record.write style, Text.Solid word := by
  have hnumeral (field : Field) (value : Nat) : Text.Solid ((style field).write value) :=
    solid_of_numeral (Text.numeral_write _ _)
  have hmalloc : Text.Solid "malloc".toList :=
    ⟨by decide, by simp [Text.isBlank, Text.blankRanges]⟩
  have hfree : Text.Solid "free".toList :=
    ⟨by decide, by simp [Text.isBlank, Text.blankRanges]⟩
  obtain ⟨pid, timestamp, _ | _⟩ := record <;>
    simp only [Record.write, List.forall_mem_cons, hnumeral, hmalloc, hfree, true_and] <;>
    exact List.forall_mem_nil _

/-- Writes a record as a line, with single spaces between its words. -/
def Record.line (style : Field → Text.NumeralStyle) (record : Record) : List UInt8 :=
  Text.encode (.ofList ([' '].intercalate (record.write style)))

theorem describes_line (style : Field → Text.NumeralStyle) (record : Record) :
    Describes (record.line style) record := by
  refine ⟨_, record.write style, Text.decode?_eq_some.2 rfl, ?_, ?_⟩
  · rw [String.toList_ofList]
    exact Text.spelled_intercalate (solid_of_mem_write style record)
  · have hdescribed := described_write style record []
    rwa [List.append_nil] at hdescribed

theorem feed_not_mem_line (style : Field → Text.NumeralStyle) (record : Record) :
    10 ∉ record.line style := by
  refine Text.feed_not_mem_encode ?_
  rw [String.toList_ofList]
  intro hfeed
  rcases Text.mem_intercalate hfeed with hspace | ⟨word, hmem, hword⟩
  · cases hspace
  · exact (solid_of_mem_write style record word hmem).unbroken _ hword (by decide)

/-- Writes records, one on a line. -/
def write (style : Field → Text.NumeralStyle) (records : List Record) : List UInt8 :=
  Text.unlines (records.map (Record.line style))

theorem listed_lines (style : Field → Text.NumeralStyle) (records : List Record) :
    Listed records (records.map (Record.line style)) := by
  induction records with
  | nil => exact .nil
  | cons record records ih => exact .record (describes_line style record) ih

theorem read_unlines {lines : List (List UInt8)} {records : List Record}
    (hunbroken : ∀ line ∈ lines, 10 ∉ line) (hlisted : Listed records lines) :
    read (Text.unlines lines) = .ok records := by
  rwa [read_eq_ok, (Text.lined_unlines hunbroken).lines_eq]

theorem read_write (style : Field → Text.NumeralStyle) (records : List Record) :
    read (write style records) = .ok records :=
  read_unlines (List.forall_mem_map.2 fun record _ => feed_not_mem_line style record)
    (listed_lines style records)

end Written

/-- Reading goes piece by piece where a piece ends in a line feed. An error in the first piece is
    that of the whole; behind a first piece that can be read, the records of the second one follow,
    or its error with all lines counted. Carriage returns in front of line feeds change nothing. So
    the first line with a fault says what is wrong, under its number among all lines; lines without
    a fault give the records that they list; and written records are read back. -/
theorem read_pieces (a b : List UInt8) (hends : ∀ byte ∈ a.getLast?, byte = 10) :
    (∀ error, read a = .error error → read (a ++ b) = .error error) ∧
      (∀ records, read a = .ok records →
        (∀ more, read b = .ok more → read (a ++ b) = .ok (records ++ more)) ∧
        ∀ error, read b = .error error →
          read (a ++ b) = .error (error.behind (a.count 10))) ∧
      (∀ lines, Text.Lined lines a → lines.length = a.count 10) ∧
      (∀ bytes returned, Text.Returned bytes returned → read returned = read bytes) ∧
      (∀ bytes, ∃ lines, (∀ pieces, Text.Lined pieces bytes ↔ pieces = lines) ∧
        (∀ error, read bytes = .error error ↔
          ∃ before line, ReadUpTo lines before line ∧
            LineFault (before.length + 1) line error) ∧
        ∀ records, read bytes = .ok records ↔ Listed records lines) ∧
      (∀ lines records, (∀ line ∈ lines, 10 ∉ line) → Listed records lines →
        read (Text.unlines lines) = .ok records) ∧
      ∀ style records, read (write style records) = .ok records := by
  refine ⟨?_, ?_, ?_, fun _ _ => read_returned, ?_, fun _ _ => read_unlines, read_write⟩
  · intro error herror
    rw [read_append hends, herror]
    rfl
  · intro records hrecords
    rw [read_append hends, hrecords]
    constructor
    · intro more hmore
      rw [hmore]
      rfl
    · intro error herror
      rw [herror]
      rfl
  · intro lines hlined
    rw [← hlined.lines_eq, Text.length_lines hends]
  · intro bytes
    refine ⟨Text.lines bytes, ?_, fun _ => read_eq_error, fun _ => read_eq_ok⟩
    intro pieces
    rw [← Text.lines_eq_iff, eq_comm]

/-- The first piece has a record, an empty line and a line that is no call; the second one ends
    in the middle of a line. -/
theorem read_pieces_counted :
    let a := Text.encode "1 10 malloc 16 4096\n\ngarbage\n"
    let b := Text.encode "1 20 free 4096\r\n2 x free 1"
    (∀ byte ∈ a.getLast?, byte = 10) ∧ read a = .ok [⟨1, 10, .malloc 16 4096⟩] ∧
      read b = .error (.malformed 2 "invalid timestamp 'x'") ∧
      read (a ++ b) = .error (.malformed 5 "invalid timestamp 'x'") := by
  intro a b
  have hlast : a.getLast? = some 10 := by decide
  have hends : ∀ byte ∈ a.getLast?, byte = 10 := by
    rw [hlast]
    exact fun _ hbyte => (Option.mem_some.1 hbyte).symm
  have hrecords : read a = .ok [⟨1, 10, .malloc 16 4096⟩] := by decide
  have herror : read b = .error (.malformed 2 "invalid timestamp 'x'") := by decide
  obtain ⟨-, hbehind, -⟩ := read_pieces a b hends
  exact ⟨hends, hrecords, herror, (hbehind _ hrecords).2 _ herror⟩

end HeapReplay.Trace
