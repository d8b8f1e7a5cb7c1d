import HeapReplay.Trace.Samples
import Mathlib.Data.List.Basic
import Mathlib.Data.List.Induction

namespace HeapReplay.Trace

/-- Whether a record is about a place: a free there, or an allocation there that has not
    failed. -/
def Record.concerns (place : Place) (record : Record) : Bool :=
  match record.call with
  | .malloc _ address => address != 0 && ⟨record.pid, address⟩ == place
  | .free address => ⟨record.pid, address⟩ == place

/-- When a record allocates a block, if it does. -/
def Record.birth? (record : Record) : Option UInt64 :=
  match record.call with
  | .malloc _ _ => some record.timestamp
  | .free _ => none

/-- When the block at a place was allocated, if the last record about the place is an
    allocation. -/
def birth? (records : List Record) (place : Place) : Option UInt64 :=
  (records.filter (·.concerns place)).getLast?.bind Record.birth?

/-- The lifetime that a record ends, given when the blocks were allocated. -/
def Record.lifetime? (floor : UInt64) (born : Place → Option UInt64) (record : Record) :
    Option UInt64 :=
  match record.call with
  | .malloc _ _ => none
  | .free address =>
    ((born ⟨record.pid, address⟩).map (Word.subSaturated record.timestamp)).filter (floor < ·)

/-- The lifetime that the record at a position ends. -/
def lifetimeAt? (floor : UInt64) (records : List Record) (position : Nat) : Option UInt64 :=
  records[position]?.bind (·.lifetime? floor (birth? (records.take position)))

/-- What a trace can tell of a block: where it was, and the positions and the times of its
    allocation and its free. -/
structure Life where
  place : Place
  birth : Nat
  death : Nat
  born : UInt64
  died : UInt64
  deriving DecidableEq, Repr

/-- A trace tells of a life when the last record about the place before the free is the
    allocation. -/
structure Life.LivedIn (life : Life) (records : List Record) : Prop where
  birth_lt_death : life.birth < life.death
  succeeded : life.place.address ≠ 0
  allocated : ∃ size,
    records[life.birth]? = some ⟨life.place.pid, life.born, .malloc size life.place.address⟩
  freed : records[life.death]? = some ⟨life.place.pid, life.died, .free life.place.address⟩
  quiet : ∀ position record, life.birth < position → position < life.death →
    records[position]? = some record → ¬ record.concerns life.place

/-- The lifetime that the record at a position ends, if it is a record of a process. -/
def lifetimeOf? (pid : UInt32) (floor : UInt64) (records : List Record) (position : Nat) :
    Option UInt64 :=
  if records[position]?.any (·.pid == pid) then lifetimeAt? floor records position else none

theorem birth?_concat (records : List Record) (record : Record) (place : Place) :
    birth? (records ++ [record]) place =
      if record.concerns place then record.birth? else birth? records place := by
  unfold birth?
  rw [List.filter_append]
  by_cases hconcerns : record.concerns place
  · rw [List.filter_cons_of_pos hconcerns, List.filter_nil, List.getLast?_concat, if_pos hconcerns]
    rfl
  · rw [List.filter_cons_of_neg hconcerns, List.filter_nil, List.append_nil, if_neg hconcerns]

section Follow

variable {floor : UInt64}

/-- Following a record changes what is known of the place that it is about, and of no other. -/
theorem born_follow (lives : Lives) (record : Record) (place : Place) :
    (lives.follow floor record).born[place]? =
      if record.concerns place then record.birth? else lives.born[place]? := by
  obtain ⟨pid, timestamp, ⟨size, address⟩ | ⟨address⟩⟩ := record
  · by_cases hfailed : address = 0
    · simp [Lives.follow, Record.concerns, hfailed]
    · simp [Lives.follow, Record.concerns, Record.birth?, hfailed, Std.HashMap.getElem?_insert]
  · cases hborn : lives.born[(⟨pid, address⟩ : Place)]? with
    | none =>
      simp only [Lives.follow, hborn, Record.concerns, Record.birth?, beq_iff_eq]
      split
      · next hplace => rw [← hplace, hborn]
      · rfl
    | some birth =>
      simp [Lives.follow, hborn, Record.concerns, Record.birth?, Std.HashMap.getElem?_erase]

theorem lifetimes_follow (lives : Lives) (record : Record) :
    (lives.follow floor record).lifetimes.toList =
      lives.lifetimes.toList ++ (record.lifetime? floor (lives.born[·]?)).toList := by
  obtain ⟨pid, timestamp, ⟨size, address⟩ | ⟨address⟩⟩ := record
  · by_cases hfailed : address = 0 <;> simp [Lives.follow, Record.lifetime?, hfailed]
  · cases hborn : lives.born[(⟨pid, address⟩ : Place)]? with
    | none => simp [Lives.follow, Record.lifetime?, hborn]
    | some birth =>
      by_cases hlong : floor < Word.subSaturated timestamp birth <;>
        simp [Lives.follow, Record.lifetime?, hborn, hlong, Option.filter]

/-- What is known of a place is the last record about it. -/
theorem born_foldl (floor : UInt64) (records : List Record) (place : Place) :
    (records.foldl (Lives.follow floor) {}).born[place]? = birth? records place := by
  induction records using List.reverseRecOn with
  | nil => exact Std.HashMap.getElem?_empty
  | append_singleton records record ih =>
    rw [List.foldl_append, List.foldl_cons, List.foldl_nil, born_follow, birth?_concat, ih]

/-- A further record adds the lifetime that it ends. -/
theorem lifetimesOver_concat (floor : UInt64) (records : List Record) (record : Record) :
    lifetimesOver floor (records ++ [record]) =
      lifetimesOver floor records ++ (record.lifetime? floor (birth? records)).toList := by
  have hborn := funext (born_foldl floor records)
  rw [lifetimesOver, List.foldl_append, List.foldl_cons, List.foldl_nil, lifetimes_follow, hborn,
    lifetimesOver]

end Follow

section Positions

variable {floor : UInt64} {records : List Record}

theorem getElem?_concat_eq_some {α : Type} {list : List α} {last entry : α} {position : Nat} :
    (list ++ [last])[position]? = some entry ↔
      list[position]? = some entry ∨ position = list.length ∧ last = entry := by
  rcases Nat.lt_trichotomy position list.length with hlt | rfl | hgt
  · rw [List.getElem?_append_left hlt]
    simp only [Nat.ne_of_lt hlt, false_and, or_false]
  · rw [List.getElem?_concat_length, List.getElem?_eq_none (Nat.le_refl _)]
    simp only [Option.some.injEq, reduceCtorEq, true_and, false_or]
  · have hend : (list ++ [last]).length ≤ position := by
      rw [List.length_append, List.length_singleton]
      exact hgt
    rw [List.getElem?_eq_none hend, List.getElem?_eq_none (Nat.le_of_lt hgt)]
    simp only [Nat.ne_of_gt hgt, reduceCtorEq, false_and, or_false]

/-- What is ended at a position does not depend on later records. -/
theorem lifetimeAt?_append {position : Nat} (hposition : position < records.length)
    (later : List Record) :
    lifetimeAt? floor (records ++ later) position = lifetimeAt? floor records position := by
  rw [lifetimeAt?, List.getElem?_append_left hposition,
    List.take_append_of_le_length (Nat.le_of_lt hposition), lifetimeAt?]

theorem lifetimeAt?_length (record : Record) :
    lifetimeAt? floor (records ++ [record]) records.length =
      record.lifetime? floor (birth? records) := by
  rw [lifetimeAt?, List.getElem?_concat_length, List.take_left, Option.bind_some]

theorem filterMap_range_succ {α : Type} {f g : Nat → Option α} {count : Nat}
    (hsame : ∀ position < count, g position = f position) :
    (List.range (count + 1)).filterMap g =
      (List.range count).filterMap f ++ (g count).toList := by
  have hearlier : (List.range count).filterMap g = (List.range count).filterMap f := by
    refine List.filterMap_congr ?_
    intro position hposition
    exact hsame position (List.mem_range.1 hposition)
  rw [List.range_succ, List.filterMap_append, hearlier]
  cases hlast : g count <;> simp [hlast]

/-- The lifetimes are ended by the records in the order of their positions. -/
theorem lifetimesOver_eq_filterMap (floor : UInt64) (records : List Record) :
    lifetimesOver floor records =
      (List.range records.length).filterMap (lifetimeAt? floor records) := by
  induction records using List.reverseRecOn with
  | nil => rfl
  | append_singleton records record ih =>
    have hearlier : ∀ position < records.length,
        lifetimeAt? floor (records ++ [record]) position = lifetimeAt? floor records position :=
      fun _ hposition => lifetimeAt?_append hposition [record]
    rw [lifetimesOver_concat, ih, List.length_append, List.length_singleton,
      filterMap_range_succ hearlier, lifetimeAt?_length]

end Positions

section Lives

variable {floor : UInt64} {records : List Record} {place : Place}

theorem Record.concerns_freed (timestamp : UInt64) :
    (⟨place.pid, timestamp, .free place.address⟩ : Record).concerns place := by
  simp [concerns]

theorem Record.concerns_allocated (haddress : place.address ≠ 0) (timestamp size : UInt64) :
    (⟨place.pid, timestamp, .malloc size place.address⟩ : Record).concerns place := by
  simpa [concerns] using haddress

theorem Record.birth?_eq_some_of_concerns {record : Record} {born : UInt64}
    (hconcerns : record.concerns place) (hborn : record.birth? = some born) :
    place.address ≠ 0 ∧ ∃ size, record = ⟨place.pid, born, .malloc size place.address⟩ := by
  obtain ⟨pid, timestamp, ⟨size, address⟩ | ⟨address⟩⟩ := record
  · cases hborn
    simp only [concerns, Bool.and_eq_true, bne_iff_ne, beq_iff_eq] at hconcerns
    obtain ⟨haddress, rfl⟩ := hconcerns
    exact ⟨haddress, size, rfl⟩
  · cases hborn

/-- What is known of a place is known from the last record about it. -/
theorem birth?_eq_some {born : UInt64} : birth? records place = some born ↔
    ∃ (position : Nat) (record : Record), records[position]? = some record ∧
      record.concerns place ∧ record.birth? = some born ∧
      ∀ (later : Nat) (other : Record), position < later → records[later]? = some other →
        ¬ other.concerns place := by
  -- At the end of the trace, a record about the place hides all that came before it.
  induction records using List.reverseRecOn with
  | nil => simp [birth?]
  | append_singleton records last ih =>
    simp only [birth?_concat, getElem?_concat_eq_some]
    by_cases hlast : last.concerns place
    · rw [if_pos hlast]
      constructor
      · intro hborn
        refine ⟨records.length, last, .inr ⟨rfl, rfl⟩, hlast, hborn, ?_⟩
        rintro later other hlater (hother | ⟨rfl, -⟩)
        · exact absurd (List.getElem?_eq_some_iff.1 hother).1 (by omega)
        · exact absurd hlater (Nat.lt_irrefl _)
      · rintro ⟨position, record, hrecord | ⟨-, rfl⟩, -, hborn, hquiet⟩
        · have hposition := (List.getElem?_eq_some_iff.1 hrecord).1
          exact absurd hlast (hquiet _ last hposition (.inr ⟨rfl, rfl⟩))
        · exact hborn
    · rw [if_neg hlast, ih]
      constructor
      · rintro ⟨position, record, hrecord, hconcerns, hborn, hquiet⟩
        refine ⟨position, record, .inl hrecord, hconcerns, hborn, ?_⟩
        rintro later other hlater (hother | ⟨-, rfl⟩)
        · exact hquiet later other hlater hother
        · exact hlast
      · rintro ⟨position, record, hrecord | ⟨-, rfl⟩, hconcerns, hborn, hquiet⟩
        · exact ⟨position, record, hrecord, hconcerns, hborn, fun later other hlater hother =>
            hquiet later other hlater (.inl hother)⟩
        · exact absurd hconcerns hlast

/-- A lifetime is ended at a position when a life ends there that is longer than the floor. -/
theorem lifetimeAt?_eq_some {death : Nat} {lifetime : UInt64} :
    lifetimeAt? floor records death = some lifetime ↔
      ∃ life : Life, life.LivedIn records ∧ life.death = death ∧
        lifetime.toNat = life.died.toNat - life.born.toNat ∧ floor < lifetime := by
  constructor
  · intro hlifetime
    obtain ⟨⟨pid, died, _ | address⟩, hfreed, hended⟩ := Option.bind_eq_some_iff.1 hlifetime
    · cases hended
    · simp only [Record.lifetime?, Option.filter_eq_some_iff, Option.map_eq_some_iff,
        decide_eq_true_eq] at hended
      obtain ⟨⟨born, hborn, rfl⟩, hlong⟩ := hended
      obtain ⟨birth, record, hrecord, hconcerns, hborn, hquiet⟩ := birth?_eq_some.1 hborn
      obtain ⟨haddress, size, rfl⟩ := Record.birth?_eq_some_of_concerns hconcerns hborn
      simp only [List.getElem?_take, Option.ite_none_right_eq_some] at hrecord hquiet
      obtain ⟨hlt, hallocated⟩ := hrecord
      have hlived : Life.LivedIn ⟨⟨pid, address⟩, birth, death, born, died⟩ records :=
        { birth_lt_death := hlt
          succeeded := haddress
          allocated := ⟨size, hallocated⟩
          freed := hfreed
          quiet := fun position record hafter hbefore hrecord =>
            hquiet position record hafter ⟨hbefore, hrecord⟩ }
      exact ⟨_, hlived, rfl, Word.toNat_subSaturated died born, hlong⟩
  · rintro ⟨⟨place, birth, death, born, died⟩, hlived, rfl, hvalue, hlong⟩
    obtain ⟨size, hallocated⟩ := hlived.allocated
    have hborn : birth? (records.take death) place = some born := by
      refine birth?_eq_some.2 ⟨birth, _, ?_,
        Record.concerns_allocated hlived.succeeded born size, rfl, ?_⟩
      · rw [List.getElem?_take_of_lt hlived.birth_lt_death, hallocated]
      · simp only [List.getElem?_take, Option.ite_none_right_eq_some]
        rintro later other hafter ⟨hbefore, hother⟩
        exact hlived.quiet later other hafter hbefore hother
    obtain rfl : lifetime = Word.subSaturated died born :=
      UInt64.toNat_inj.1 (hvalue.trans (Word.toNat_subSaturated died born).symm)
    rw [lifetimeAt?, hlived.freed, Option.bind_some, Record.lifetime?]
    simp only [hborn, Option.map_some, Option.filter_some, decide_eq_true hlong, if_true]

variable {life other : Life}

/-- A life begins with the last allocation at its place before its end. -/
theorem Life.LivedIn.le_birth (h : life.LivedIn records) {again : Nat} {timestamp size : UInt64}
    (hlt : again < life.death)
    (hagain : records[again]? =
      some ⟨life.place.pid, timestamp, .malloc size life.place.address⟩) :
    again ≤ life.birth := by
  by_contra hlater
  exact h.quiet again _ (Nat.lt_of_not_le hlater) hlt hagain
    (Record.concerns_allocated h.succeeded timestamp size)

/-- A life ends with the first free at its place after its beginning. -/
theorem Life.LivedIn.death_le (h : life.LivedIn records) {again : Nat} {timestamp : UInt64}
    (hlt : life.birth < again)
    (hagain : records[again]? = some ⟨life.place.pid, timestamp, .free life.place.address⟩) :
    life.death ≤ again := by
  by_contra hearlier
  exact h.quiet again _ hlt (Nat.lt_of_not_le hearlier) hagain (Record.concerns_freed timestamp)

/-- An allocation begins one life at most. -/
theorem Life.LivedIn.death_unique (h : life.LivedIn records) (h' : other.LivedIn records)
    (hbirth : life.birth = other.birth) : life.death = other.death := by
  obtain ⟨place, birth, death, born, died⟩ := life
  obtain ⟨place', birth', death', born', died'⟩ := other
  obtain ⟨size, hallocated⟩ := h.allocated
  obtain ⟨size', hallocated'⟩ := h'.allocated
  obtain rfl : birth = birth' := hbirth
  obtain rfl : place = place' := by
    have hsame := hallocated.symm.trans hallocated'
    simp only [Option.some.injEq, Record.mk.injEq, Call.malloc.injEq] at hsame
    exact congr (congrArg Place.mk hsame.1) hsame.2.2.2
  exact Nat.le_antisymm (h.death_le h'.birth_lt_death h'.freed)
    (h'.death_le h.birth_lt_death h.freed)

/-- A free ends one life at most. -/
theorem Life.LivedIn.birth_unique (h : life.LivedIn records) (h' : other.LivedIn records)
    (hdeath : life.death = other.death) : life.birth = other.birth := by
  obtain ⟨place, birth, death, born, died⟩ := life
  obtain ⟨place', birth', death', born', died'⟩ := other
  obtain ⟨size, hallocated⟩ := h.allocated
  obtain ⟨size', hallocated'⟩ := h'.allocated
  obtain rfl : death = death' := hdeath
  obtain rfl : place = place' := by
    have hsame := h.freed.symm.trans h'.freed
    simp only [Option.some.injEq, Record.mk.injEq, Call.free.injEq] at hsame
    exact congr (congrArg Place.mk hsame.1) hsame.2.2
  exact Nat.le_antisymm (h'.le_birth h.birth_lt_death hallocated)
    (h.le_birth h'.birth_lt_death hallocated')

end Lives

section Processes

variable {floor : UInt64} {records : List Record}

theorem Record.pid_of_concerns {place : Place} {record : Record}
    (hconcerns : record.concerns place) : record.pid = place.pid := by
  obtain ⟨pid, timestamp, _ | _⟩ := record <;> simp [concerns] at hconcerns
  · rw [← hconcerns.2]
  · rw [← hconcerns]

/-- What is known of a place comes from the records of its process. -/
theorem birth?_filter_pid (records : List Record) (place : Place) :
    birth? (records.filter (·.pid == place.pid)) place = birth? records place := by
  unfold birth?
  rw [List.filter_filter]
  refine congrArg (·.getLast?.bind Record.birth?) (List.filter_congr ?_)
  intro record _
  by_cases hconcerns : record.concerns place
  · simp [hconcerns, Record.pid_of_concerns hconcerns]
  · simp [hconcerns]

theorem lifetime?_filter_pid (records : List Record) (record : Record) :
    record.lifetime? floor (birth? (records.filter (·.pid == record.pid))) =
      record.lifetime? floor (birth? records) := by
  obtain ⟨pid, timestamp, _ | address⟩ := record
  · rfl
  · simp only [Record.lifetime?]
    rw [birth?_filter_pid records ⟨pid, address⟩]

/-- A process ends the lifetimes that it would end alone. -/
theorem lifetimesOver_filter_pid (pid : UInt32) (floor : UInt64) (records : List Record) :
    lifetimesOver floor (records.filter (·.pid == pid)) =
      (List.range records.length).filterMap (lifetimeOf? pid floor records) := by
  induction records using List.reverseRecOn with
  | nil => rfl
  | append_singleton records record ih =>
    have hearlier : ∀ position < records.length,
        lifetimeOf? pid floor (records ++ [record]) position =
          lifetimeOf? pid floor records position := by
      intro position hposition
      rw [lifetimeOf?, List.getElem?_append_left hposition, lifetimeAt?_append hposition,
        lifetimeOf?]
    rw [List.length_append, List.length_singleton, filterMap_range_succ hearlier, ← ih,
      List.filter_append, lifetimeOf?, lifetimeAt?_length, List.getElem?_concat_length]
    -- A record of another process adds nothing, neither here nor to its trace.
    by_cases hpid : record.pid = pid
    · subst hpid
      rw [List.filter_cons_of_pos (by simp), List.filter_nil, lifetimesOver_concat,
        lifetime?_filter_pid]
      simp
    · simp [hpid]

end Processes

/-- The lifetimes of a trace are those of its lives that are longer than the floor, in the order
    of their frees. An allocation begins one life at most, an allocation at the place of a living
    block begins its life anew, and the lifetimes that a process ends are those of its own
    trace. -/
theorem lifetimes_of_latest_allocations (settings : ExtractionSettings) (records : List Record) :
    (Samples.ofRecords settings records).lifetimes =
        (List.range records.length).filterMap (lifetimeAt? settings.lifetimeFloor records) ∧
      (∀ death lifetime, lifetimeAt? settings.lifetimeFloor records death = some lifetime ↔
        ∃ life : Life, life.LivedIn records ∧ life.death = death ∧
          lifetime.toNat = life.died.toNat - life.born.toNat ∧
          settings.lifetimeFloor < lifetime) ∧
      (∀ life other : Life, life.LivedIn records → other.LivedIn records →
        (life.birth = other.birth ↔ life.death = other.death)) ∧
      (∀ (life : Life) (again : Nat) (timestamp size : UInt64), life.LivedIn records →
        again < life.death →
        records[again]? = some ⟨life.place.pid, timestamp, .malloc size life.place.address⟩ →
        again ≤ life.birth) ∧
      ∀ pid, (Samples.ofRecords settings (records.filter (·.pid == pid))).lifetimes =
        (List.range records.length).filterMap
          (lifetimeOf? pid settings.lifetimeFloor records) := by
  refine ⟨lifetimesOver_eq_filterMap _ records, fun _ _ => lifetimeAt?_eq_some, ?_, ?_,
    fun pid => lifetimesOver_filter_pid pid _ records⟩
  · intro life other h h'
    exact ⟨h.death_unique h', h.birth_unique h'⟩
  · intro life again timestamp size h hlt hagain
    exact h.le_birth hlt hagain

/-- Two processes with blocks at one address. The first process allocates its block anew and
    frees it twice; later on it frees a failed allocation, and a block before its allocation. -/
def crossedRecords : List Record :=
  [⟨1, 10, .malloc 16 5⟩, ⟨2, 20, .malloc 16 5⟩, ⟨1, 30, .malloc 32 5⟩, ⟨2, 50, .free 5⟩,
    ⟨1, 70, .free 5⟩, ⟨1, 90, .free 5⟩, ⟨1, 91, .malloc 8 0⟩, ⟨1, 95, .free 0⟩,
    ⟨1, 99, .malloc 8 6⟩, ⟨1, 98, .free 6⟩]

theorem lifetimes_of_latest_allocations_crossed :
    (Samples.ofRecords { lifetimeFloor := 30 } crossedRecords).lifetimes = [40] ∧
      ∃ life : Life, life.LivedIn crossedRecords ∧ life.death = 4 ∧ 2 ≤ life.birth := by
  obtain ⟨hlifetimes, hends, -, hanew, -⟩ :=
    lifetimes_of_latest_allocations { lifetimeFloor := 30 } crossedRecords
  refine ⟨hlifetimes.trans (by decide), ?_⟩
  obtain ⟨life, hlived, hdeath, -⟩ := (hends 4 40).1 (by decide)
  have hplace : life.place = ⟨1, 5⟩ := by
    have hfreed := hlived.freed
    rw [hdeath] at hfreed
    obtain ⟨⟨pid, address⟩, birth, death, born, died⟩ := life
    cases hfreed
    rfl
  refine ⟨life, hlived, hdeath, hanew life 2 30 32 hlived (by omega) ?_⟩
  rw [hplace]
  rfl

end HeapReplay.Trace
