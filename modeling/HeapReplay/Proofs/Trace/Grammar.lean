import HeapReplay.Trace.Record
import HeapReplay.Proofs.Except
import HeapReplay.Proofs.Text.Numerals
import HeapReplay.Proofs.Text.Words

namespace HeapReplay.Trace

/-- The numbers of a field are below its limit. -/
def Field.limit : Field → Nat
  | .pid => UInt32.size
  | _ => UInt64.size

/-- A word can be read as the number of a field. -/
def Field.Fits (field : Field) (word : List Char) : Prop :=
  ∃ value, Text.Numeral word value ∧ value < field.limit

/-- The words of a complete call, with those among them that have to be numbers. The numbers are
    in the order in which they are read. -/
inductive Complete : List (List Char) → List (Field × List Char) → Prop
  | malloc (pid timestamp size address : List Char) (extra : List (List Char)) :
      Complete (pid :: timestamp :: "malloc".toList :: size :: address :: extra)
        [(.size, size), (.address, address), (.pid, pid), (.timestamp, timestamp)]
  | free (pid timestamp address : List Char) (extra : List (List Char)) :
      Complete (pid :: timestamp :: "free".toList :: address :: extra)
        [(.address, address), (.pid, pid), (.timestamp, timestamp)]

/-- The first word that cannot be read as the number of its field. -/
inductive FirstUnfit : List (Field × List Char) → Field → List Char → Prop
  | here {field : Field} {word : List Char} {numbers : List (Field × List Char)}
      (hunfit : ¬ field.Fits word) : FirstUnfit ((field, word) :: numbers) field word
  | later {field unfit : Field} {word wrong : List Char} {numbers : List (Field × List Char)}
      (hfits : field.Fits word) (hlater : FirstUnfit numbers unfit wrong) :
      FirstUnfit ((field, word) :: numbers) unfit wrong

/-- The words that describe a record. -/
inductive Record.Described : Record → List (List Char) → Prop
  | malloc {pid : UInt32} {timestamp size address : UInt64} {p t s a : List Char}
      (extra : List (List Char)) (hpid : Text.Numeral p pid.toNat)
      (htimestamp : Text.Numeral t timestamp.toNat) (hsize : Text.Numeral s size.toNat)
      (haddress : Text.Numeral a address.toNat) :
      Described ⟨pid, timestamp, .malloc size address⟩
        (p :: t :: "malloc".toList :: s :: a :: extra)
  | free {pid : UInt32} {timestamp address : UInt64} {p t a : List Char}
      (extra : List (List Char)) (hpid : Text.Numeral p pid.toNat)
      (htimestamp : Text.Numeral t timestamp.toNat)
      (haddress : Text.Numeral a address.toNat) :
      Described ⟨pid, timestamp, .free address⟩ (p :: t :: "free".toList :: a :: extra)

/-- Writes a record in words, each number in a style of its own. -/
def Record.write (style : Field → Text.NumeralStyle) (record : Record) : List (List Char) :=
  (style .pid).write record.pid.toNat :: (style .timestamp).write record.timestamp.toNat ::
    match record.call with
    | .malloc size address =>
      ["malloc".toList, (style .size).write size.toNat, (style .address).write address.toNat]
    | .free address => ["free".toList, (style .address).write address.toNat]

section Numbers

variable {field unfit : Field} {word wrong : List Char} {error : FieldError}
  {numbers : List (Field × List Char)}

theorem not_fits_iff : ¬ field.Fits word ↔ Text.readBelow? field.limit word = none := by
  rw [← not_iff_not, not_not, ← ne_eq, Option.ne_none_iff_exists']
  exact exists_congr fun _ => Text.readBelow?_eq_some.symm

theorem Field.read_eq_ok {value : UInt64} :
    field.read word = .ok value ↔ Text.Numeral word value.toNat := by
  have hread : field.read word = .ok value ↔
      Text.readBelow? UInt64.size word = some value.toNat := by
    unfold Field.read Text.readWord?
    cases hvalue : Text.readBelow? UInt64.size word with
    | none => simp
    | some read =>
      have hlt := (Text.readBelow?_eq_some.1 hvalue).2
      rw [Option.map_some, Except.ok.injEq, Option.some.injEq, ← UInt64.toNat_inj,
        UInt64.toNat_ofNat_of_lt' hlt]
  rw [hread, Text.readBelow?_eq_some, and_iff_left value.toNat_lt]

theorem Field.read_eq_error (hwide : field.limit = UInt64.size) :
    field.read word = .error error ↔ ¬ field.Fits word ∧ error = ⟨field, word⟩ := by
  rw [not_fits_iff, hwide, Field.read, Text.readWord?]
  cases Text.readBelow? UInt64.size word <;> simp [eq_comm]

theorem readPid_eq_ok {pid : UInt32} :
    readPid word = .ok pid ↔ Text.Numeral word pid.toNat := by
  have hread : readPid word = .ok pid ↔ Text.readBelow? UInt32.size word = some pid.toNat := by
    unfold readPid
    cases hvalue : Text.readBelow? UInt32.size word with
    | none => simp
    | some read =>
      have hlt := (Text.readBelow?_eq_some.1 hvalue).2
      rw [Except.ok.injEq, Option.some.injEq, ← UInt32.toNat_inj, UInt32.toNat_ofNat_of_lt' hlt]
  rw [hread, Text.readBelow?_eq_some, and_iff_left pid.toNat_lt]

theorem readPid_eq_error :
    readPid word = .error error ↔ ¬ Field.pid.Fits word ∧ error = ⟨.pid, word⟩ := by
  rw [not_fits_iff, Field.limit, readPid]
  cases Text.readBelow? UInt32.size word <;> simp [eq_comm]

theorem firstUnfit_cons : FirstUnfit ((field, word) :: numbers) unfit wrong ↔
    (¬ field.Fits word ∧ unfit = field ∧ wrong = word) ∨
      (field.Fits word ∧ FirstUnfit numbers unfit wrong) := by
  constructor
  · rintro (hunfit | ⟨hfits, hlater⟩)
    · exact .inl ⟨hunfit, rfl, rfl⟩
    · exact .inr ⟨hfits, hlater⟩
  · rintro (⟨hunfit, rfl, rfl⟩ | ⟨hfits, hlater⟩)
    · exact .here hunfit
    · exact .later hfits hlater

theorem not_firstUnfit_nil : ¬ FirstUnfit [] unfit wrong := nofun

/-- Reading numbers one by one fails with the first that cannot be read. -/
theorem bind_eq_error_iff_firstUnfit {α β : Type} {first : Except FieldError α}
    {next : α → Except FieldError β}
    (hfirst : ∀ error, first = .error error ↔ ¬ field.Fits word ∧ error = ⟨field, word⟩)
    (hnext : ∀ value error,
      next value = .error error ↔ FirstUnfit numbers error.field error.word) :
    first >>= next = .error error ↔
      FirstUnfit ((field, word) :: numbers) error.field error.word := by
  rw [bind_eq_error, firstUnfit_cons, hfirst, FieldError.mk.injEq]
  refine or_congr_right ?_
  constructor
  · rintro ⟨value, hvalue, hrest⟩
    refine ⟨?_, (hnext value error).1 hrest⟩
    by_contra hunfit
    cases hvalue.symm.trans ((hfirst _).2 ⟨hunfit, rfl⟩)
  · rintro ⟨hfits, hlater⟩
    cases hread : first with
    | ok value => exact ⟨value, rfl, (hnext value error).2 hlater⟩
    | error reason => exact absurd hfits ((hfirst reason).1 hread).1

theorem toRecord_eq_error {call : Call} {pid timestamp : List Char} :
    call.toRecord pid timestamp = .error error ↔
      FirstUnfit [(.pid, pid), (.timestamp, timestamp)] error.field error.word := by
  refine bind_eq_error_iff_firstUnfit (fun _ => readPid_eq_error) fun _ _ => ?_
  refine bind_eq_error_iff_firstUnfit (fun _ => Field.read_eq_error rfl) fun _ _ => ?_
  simp [not_firstUnfit_nil, pure, Except.pure]

theorem toRecord_eq_ok {call : Call} {pid timestamp : List Char} {record : Record} :
    some <$> call.toRecord pid timestamp = .ok (some record) ↔
      Text.Numeral pid record.pid.toNat ∧ Text.Numeral timestamp record.timestamp.toNat ∧
        record.call = call := by
  simp only [map_eq_ok, Option.some.injEq, exists_eq_right, Call.toRecord, bind_eq_ok,
    readPid_eq_ok, Field.read_eq_ok, pure, Except.pure, Except.ok.injEq]
  constructor
  · rintro ⟨pid, hpid, timestamp, htimestamp, rfl⟩
    exact ⟨hpid, htimestamp, rfl⟩
  · rintro ⟨hpid, htimestamp, rfl⟩
    exact ⟨_, hpid, _, htimestamp, rfl⟩

end Numbers

section Words

variable {words : List (List Char)} {error : FieldError} {record : Record}

theorem exists_complete_iff : (∃ numbers, Complete words numbers) ↔
    words[2]? = some "malloc".toList ∧ 5 ≤ words.length ∨
      words[2]? = some "free".toList ∧ 4 ≤ words.length := by
  constructor
  · rintro ⟨_, _ | _⟩
    · exact .inl ⟨rfl, by simp⟩
    · exact .inr ⟨rfl, by simp⟩
  · rintro (⟨hcall, hlength⟩ | ⟨hcall, hlength⟩)
    · obtain _ | ⟨pid, _ | ⟨timestamp, _ | ⟨call, _ | ⟨size, _ | ⟨address, extra⟩⟩⟩⟩⟩ := words
      all_goals simp at hlength
      obtain rfl : call = "malloc".toList := Option.some_inj.1 hcall
      exact ⟨_, .malloc pid timestamp size address extra⟩
    · obtain _ | ⟨pid, _ | ⟨timestamp, _ | ⟨call, _ | ⟨address, extra⟩⟩⟩⟩ := words
      all_goals simp at hlength
      obtain rfl : call = "free".toList := Option.some_inj.1 hcall
      exact ⟨_, .free pid timestamp address extra⟩

theorem ofWords_of_incomplete (hwords : ¬ ∃ numbers, Complete words numbers) :
    Record.ofWords words = .ok none := by
  unfold Record.ofWords
  split
  · next pid timestamp size address extra =>
    exact absurd ⟨_, .malloc pid timestamp size address extra⟩ hwords
  · next pid timestamp address extra =>
    exact absurd ⟨_, .free pid timestamp address extra⟩ hwords
  · rfl

theorem ofWords_eq_error_of_complete {numbers : List (Field × List Char)}
    (hwords : Complete words numbers) : Record.ofWords words = .error error ↔
      FirstUnfit numbers error.field error.word := by
  cases hwords with
  | malloc pid timestamp size address extra =>
    refine bind_eq_error_iff_firstUnfit (fun _ => Field.read_eq_error rfl) fun _ _ => ?_
    refine bind_eq_error_iff_firstUnfit (fun _ => Field.read_eq_error rfl) fun _ _ => ?_
    rw [map_eq_error, toRecord_eq_error]
  | free pid timestamp address extra =>
    refine bind_eq_error_iff_firstUnfit (fun _ => Field.read_eq_error rfl) fun _ _ => ?_
    rw [map_eq_error, toRecord_eq_error]

theorem ofWords_eq_error : Record.ofWords words = .error error ↔
    ∃ numbers, Complete words numbers ∧ FirstUnfit numbers error.field error.word := by
  constructor
  · intro herror
    by_cases hwords : ∃ numbers, Complete words numbers
    · obtain ⟨numbers, hcomplete⟩ := hwords
      exact ⟨numbers, hcomplete, (ofWords_eq_error_of_complete hcomplete).1 herror⟩
    · cases (ofWords_of_incomplete hwords).symm.trans herror
  · rintro ⟨numbers, hcomplete, hunfit⟩
    exact (ofWords_eq_error_of_complete hcomplete).2 hunfit

/-- A complete call is never skipped. -/
theorem ofWords_eq_none :
    Record.ofWords words = .ok none ↔ ¬ ∃ numbers, Complete words numbers := by
  refine ⟨?_, ofWords_of_incomplete⟩
  rintro hnone ⟨numbers, hcomplete⟩
  cases hcomplete with
  | malloc pid timestamp size address extra =>
    obtain ⟨size, -, hrest⟩ := bind_eq_ok.1 hnone
    obtain ⟨address, -, hrecord⟩ := bind_eq_ok.1 hrest
    obtain ⟨record, -, hsome⟩ := map_eq_ok.1 hrecord
    cases hsome
  | free pid timestamp address extra =>
    obtain ⟨address, -, hrecord⟩ := bind_eq_ok.1 hnone
    obtain ⟨record, -, hsome⟩ := map_eq_ok.1 hrecord
    cases hsome

theorem ofWords_eq_some : Record.ofWords words = .ok (some record) ↔ record.Described words := by
  constructor
  · intro hok
    by_cases hwords : ∃ numbers, Complete words numbers
    · obtain ⟨numbers, hcomplete⟩ := hwords
      cases hcomplete with
      | malloc pid timestamp size address extra =>
        obtain ⟨sizeValue, hsize, hrest⟩ := bind_eq_ok.1 hok
        obtain ⟨addressValue, haddress, hrecord⟩ := bind_eq_ok.1 hrest
        obtain ⟨hpid, htimestamp, hcall⟩ := toRecord_eq_ok.1 hrecord
        obtain ⟨pidValue, timestampValue, call⟩ := record
        obtain rfl := hcall
        exact .malloc extra hpid htimestamp (Field.read_eq_ok.1 hsize) (Field.read_eq_ok.1 haddress)
      | free pid timestamp address extra =>
        obtain ⟨addressValue, haddress, hrecord⟩ := bind_eq_ok.1 hok
        obtain ⟨hpid, htimestamp, hcall⟩ := toRecord_eq_ok.1 hrecord
        obtain ⟨pidValue, timestampValue, call⟩ := record
        obtain rfl := hcall
        exact .free extra hpid htimestamp (Field.read_eq_ok.1 haddress)
    · cases (ofWords_of_incomplete hwords).symm.trans hok
  · intro hdescribed
    cases hdescribed with
    | malloc extra hpid htimestamp hsize haddress =>
      refine bind_eq_ok.2 ⟨_, Field.read_eq_ok.2 hsize, ?_⟩
      refine bind_eq_ok.2 ⟨_, Field.read_eq_ok.2 haddress, ?_⟩
      exact toRecord_eq_ok.2 ⟨hpid, htimestamp, rfl⟩
    | free extra hpid htimestamp haddress =>
      refine bind_eq_ok.2 ⟨_, Field.read_eq_ok.2 haddress, ?_⟩
      exact toRecord_eq_ok.2 ⟨hpid, htimestamp, rfl⟩

theorem described_write (style : Field → Text.NumeralStyle) (record : Record)
    (extra : List (List Char)) : record.Described (record.write style ++ extra) := by
  obtain ⟨pid, timestamp, _ | _⟩ := record
  · exact .malloc extra (Text.numeral_write _ _) (Text.numeral_write _ _)
      (Text.numeral_write _ _) (Text.numeral_write _ _)
  · exact .free extra (Text.numeral_write _ _) (Text.numeral_write _ _)
      (Text.numeral_write _ _)

end Words

theorem parseNumbered_eq_ok {number : Nat} {line : String} {found : Option Record} :
    Record.parseNumbered number line = .ok found ↔
      Record.ofWords (Text.words line.toList) = .ok found := by
  unfold Record.parseNumbered Record.parse
  split <;> next hread => simp [hread]

theorem parseNumbered_eq_error {number : Nat} {line : String} {error : ReadError} :
    Record.parseNumbered number line = .error error ↔
      ∃ reason : FieldError, Record.ofWords (Text.words line.toList) = .error reason ∧
        error = .malformed number reason.message := by
  unfold Record.parseNumbered Record.parse
  split <;> next hread => simp [hread, eq_comm]

/-- What is read from a line. The line is skipped unless its third word is `malloc` or `free` with
    enough words behind it. The numbers of a call are read in a fixed order, its arguments first,
    and the first word that is no number of its field is named. A record is read from every way of
    writing its numbers, whatever blanks and further words there are. -/
theorem parse_grammar (number : Nat) (line : String) :
    ∃ words, (∀ spelling, Text.Spelled spelling line.toList ↔ spelling = words) ∧
      (Record.parseNumbered number line = .ok none ↔ words.length < 3 ∨
        ¬ (words[2]? = some "malloc".toList ∧ 5 ≤ words.length) ∧
          ¬ (words[2]? = some "free".toList ∧ 4 ≤ words.length)) ∧
      (∀ error, Record.parseNumbered number line = .error error ↔
        ∃ numbers field word, Complete words numbers ∧ FirstUnfit numbers field word ∧
          error = .malformed number
            ("invalid " ++ field.name ++ " '" ++ String.ofList word ++ "'")) ∧
      (∀ record, Record.parseNumbered number line = .ok (some record) ↔
        record.Described words) ∧
      ∀ (record : Record) style extra,
        Text.Spelled (record.write style ++ extra) line.toList →
        Record.parseNumbered number line = .ok (some record) := by
  refine ⟨Text.words line.toList, fun _ => Text.words_eq_iff.symm.trans eq_comm, ?_, ?_, ?_, ?_⟩
  · rw [parseNumbered_eq_ok, ofWords_eq_none, exists_complete_iff]
    have hshort : ∀ {call : List Char}, (Text.words line.toList)[2]? = some call →
        3 ≤ (Text.words line.toList).length := fun hcall => (List.getElem?_eq_some_iff.1 hcall).1
    -- A line that names a call has three words, so that a short one is among those without.
    rw [not_or]
    refine ⟨.inr, ?_⟩
    rintro (hlt | hneither)
    · exact ⟨fun h => absurd (hshort h.1) (by omega), fun h => absurd (hshort h.1) (by omega)⟩
    · exact hneither
  · intro error
    simp only [parseNumbered_eq_error, ofWords_eq_error]
    constructor
    · rintro ⟨⟨field, word⟩, ⟨numbers, hcomplete, hunfit⟩, rfl⟩
      exact ⟨numbers, field, word, hcomplete, hunfit, rfl⟩
    · rintro ⟨numbers, field, word, hcomplete, hunfit, rfl⟩
      exact ⟨⟨field, word⟩, ⟨numbers, hcomplete, hunfit⟩, rfl⟩
  · intro record
    rw [parseNumbered_eq_ok, ofWords_eq_some]
  · intro record style extra hspelled
    rw [parseNumbered_eq_ok, ofWords_eq_some, hspelled.words_eq]
    exact described_write style record extra

theorem parse_grammar_extra_words :
    Record.parseNumbered 3 " +07\t05\u2003free  010 at once" = .ok (some ⟨7, 5, .free 10⟩) ∧
      Record.parseNumbered 17 "-1 2 malloc big 32" =
        .error (.malformed 17 "invalid size 'big'") := by
  constructor
  · obtain ⟨_, -, -, -, -, hread⟩ := parse_grammar 3 " +07\t05\u2003free  010 at once"
    exact hread ⟨7, 5, .free 10⟩ (fun field => ⟨field == .pid, 1⟩) ["at".toList, "once".toList]
      (Text.words_eq_iff.1 (by decide))
  · obtain ⟨words, hwords, -, herror, -⟩ := parse_grammar 17 "-1 2 malloc big 32"
    obtain rfl := (hwords _).1 (Text.spelled_words _)
    have hcomplete := Complete.malloc "-1".toList "2".toList "big".toList "32".toList []
    have hunfit : ¬ Field.size.Fits "big".toList := not_fits_iff.2 (by decide)
    exact (herror _).2 ⟨_, .size, "big".toList, hcomplete, .here hunfit, rfl⟩

end HeapReplay.Trace
