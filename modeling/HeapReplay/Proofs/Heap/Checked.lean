import HeapReplay.Proofs.Heap.Sound

namespace HeapReplay.Heap.Checked

/-- What stops a checked operation. -/
inductive Trap where
  | overflow
  | underflow
  | outOfBounds
  deriving DecidableEq, Repr

def add (a b : UInt64) : Except Trap UInt64 :=
  if a ≤ a + b then .ok (a + b) else .error .overflow

def sub (a b : UInt64) : Except Trap UInt64 :=
  if b ≤ a then .ok (a - b) else .error .underflow

section Entries

variable {α : Type}

def get (entries : List α) (index : Nat) : Except Trap α :=
  match entries[index]? with
  | some entry => .ok entry
  | none => .error .outOfBounds

def set (entries : List α) (index : Nat) (entry : α) : Except Trap (List α) :=
  if index < entries.length then .ok (entries.set index entry) else .error .outOfBounds

def remove (entries : List α) (index : Nat) : Except Trap (List α) :=
  if index < entries.length then .ok (entries.eraseIdx index) else .error .outOfBounds

def insert (entries : List α) (index : Nat) (entry : α) : Except Trap (List α) :=
  if index ≤ entries.length then .ok (entries.insertIdx index entry) else .error .outOfBounds

/-- The number of entries in front of the first one that `below` is false of, when it
    is true of all these and of no other one. The range that is left is halved in each
    step. -/
def partitionPoint (below : α → Bool) (entries : List α) (low high : Nat) : Nat :=
  if low < high then
    let middle := low + (high - low) / 2
    if entries[middle]?.any below then partitionPoint below entries (middle + 1) high
    else partitionPoint below entries low middle
  else low
termination_by high - low

variable (lower upper : List α) (entry other : α)

@[simp] theorem get_length : get (lower ++ entry :: upper) lower.length = .ok entry := by
  simp [get]

@[simp] theorem set_length :
    set (lower ++ entry :: upper) lower.length other = .ok (lower ++ other :: upper) := by
  simp [set]

@[simp] theorem remove_length :
    remove (lower ++ entry :: upper) lower.length = .ok (lower ++ upper) := by
  simp [remove, List.eraseIdx_append_of_length_le]

@[simp] theorem insert_length :
    insert (lower ++ upper) lower.length other = .ok (lower ++ other :: upper) := by
  have hentries : (lower ++ upper).insertIdx lower.length other = lower ++ other :: upper := by
    induction lower with
    | nil => rfl
    | cons entry lower ih => simp [ih]
  simp [insert, hentries]

variable {lower upper} {below : α → Bool}

theorem any_getElem?_append (hlower : ∀ entry ∈ lower, below entry)
    (hupper : ∀ entry ∈ upper, below entry = false) (index : Nat) :
    (lower ++ upper)[index]?.any below ↔ index < lower.length := by
  constructor
  · intro hbelow
    by_contra hover
    rw [List.getElem?_append_right (Nat.le_of_not_lt hover), Option.any_eq_true] at hbelow
    obtain ⟨entry, hentry, hbelow⟩ := hbelow
    rw [hupper entry (List.mem_of_getElem? hentry)] at hbelow
    cases hbelow
  · intro hlt
    rw [List.getElem?_append_left hlt, List.getElem?_eq_getElem hlt]
    exact hlower _ (List.getElem_mem hlt)

theorem partitionPoint_append (hlower : ∀ entry ∈ lower, below entry)
    (hupper : ∀ entry ∈ upper, below entry = false) {low high : Nat} (hlow : low ≤ lower.length)
    (hhigh : lower.length ≤ high) :
    partitionPoint below (lower ++ upper) low high = lower.length := by
  induction low, high using partitionPoint.induct below (lower ++ upper) with
  | case1 low high hlt middle hbelow ih =>
    have hmiddle := (any_getElem?_append hlower hupper middle).1 hbelow
    rw [partitionPoint, if_pos hlt, if_pos hbelow]
    exact ih hmiddle hhigh
  | case2 low high hlt middle habove ih =>
    have hmiddle := mt (any_getElem?_append hlower hupper middle).2 habove
    rw [partitionPoint, if_pos hlt, if_neg habove]
    exact ih hlow (Nat.le_of_not_lt hmiddle)
  | case3 low high hge =>
    rw [partitionPoint, if_neg hge]
    omega

end Entries

open FreeList

/-- The first span in which a block fits, by its index, with the block's start. -/
def firstFit? (alignment : PosWord) (length : UInt64) (spans : FreeList) : Option (Nat × UInt64) :=
  spans.zipIdx.findSome? fun (span, index) => (span.fit? alignment length).map (index, ·)

/-- Takes a block out of the span at an index. -/
def carve (spans : FreeList) (index : Nat) (start length : UInt64) : Except Trap FreeList := do
  let span ← get spans index
  let stop ← add start length
  if span.start < start then
    let spans ← set spans index ⟨span.start, start⟩
    if stop < span.stop then insert spans (index + 1) ⟨stop, span.stop⟩ else return spans
  else if stop < span.stop then set spans index ⟨stop, span.stop⟩
  else remove spans index

/-- Whether the span before an index ends where a block starts. -/
def meetsBefore (spans : FreeList) (index : Nat) (block : Span) : Except Trap Bool :=
  if index = 0 then .ok false
  else do
    let previous ← get spans (index - 1)
    return previous.stop = block.start

/-- Puts a block in front of the span at an index, or joins it to that span, to the one
    before or to both. There is no result when it reaches into that span. -/
def giveAt (spans : FreeList) (index : Nat) (block : Span) : Except Trap (Option FreeList) := do
  if spans[index]?.any (·.start < block.stop) then return none
  let before ← meetsBefore spans index block
  let behind := spans[index]?.any (·.start = block.stop)
  match before, behind with
  | true, true =>
    let next ← get spans index
    let previous ← get spans (index - 1)
    let spans ← set spans (index - 1) { previous with stop := next.stop }
    return some (← remove spans index)
  | true, false =>
    let previous ← get spans (index - 1)
    return some (← set spans (index - 1) { previous with stop := block.stop })
  | false, true =>
    let next ← get spans index
    return some (← set spans index { next with start := block.start })
  | false, false => return some (← insert spans index block)

/-- Gives back a block behind the spans that end at or before its start. -/
def give (spans : FreeList) (block : Span) : Except Trap (Option FreeList) :=
  giveAt spans (partitionPoint (·.stop ≤ block.start) spans 0 spans.length) block

theorem firstFit?_none {alignment : PosWord} {length : UInt64} {spans : FreeList}
    (htake : take? alignment length spans = none) : firstFit? alignment length spans = none := by
  rw [firstFit?, List.findSome?_eq_none_iff]
  intro entry hmem
  have hfit := take?_eq_none_iff.1 htake entry.1 (List.fst_mem_of_mem_zipIdx hmem)
  simp [hfit]

theorem firstFit?_append {alignment : PosWord} {length start : UInt64} {lower upper : FreeList}
    {span : Span} (hlower : ∀ below ∈ lower, below.fit? alignment length = none)
    (hfit : span.fit? alignment length = some start) :
    firstFit? alignment length (lower ++ span :: upper) = some (lower.length, start) := by
  have hnone : firstFit? alignment length lower = none :=
    firstFit?_none (take?_eq_none_iff.2 hlower)
  rw [firstFit?] at hnone ⊢
  simp [List.zipIdx_append, hnone, hfit]

theorem carve_append {lower upper : FreeList} {span : Span} {start length : UInt64}
    (hsum : start ≤ start + length) :
    carve (lower ++ span :: upper) lower.length start length =
      .ok (lower ++ (span.without ⟨start, start + length⟩ ++ upper)) := by
  have hinsert (front back : Span) : insert (lower ++ front :: upper) (lower.length + 1) back =
      .ok (lower ++ front :: back :: upper) := by
    have hbehind := insert_length (lower ++ [front]) upper back
    rwa [List.length_append, List.append_assoc, List.append_assoc] at hbehind
  by_cases hhead : span.start < start <;> by_cases htail : start + length < span.stop <;>
    simp [carve, add, Span.without, Span.pieces, bind, Except.bind, pure, Except.pure, *]

theorem giveAt_zero (upper : FreeList) (block : Span) :
    giveAt upper 0 block = .ok (attach? block upper) := by
  cases upper with
  | nil => rfl
  | cons next upper =>
    by_cases hover : next.start < block.stop
    · simp [giveAt, attach?, hover, pure, Except.pure]
    · by_cases htouch : next.start = block.stop
      · simp [giveAt, attach?, meetsBefore, bind, Except.bind, pure, Except.pure, htouch, get, set]
      · simp [giveAt, attach?, meetsBefore, bind, Except.bind, pure, Except.pure, hover, htouch,
          insert]

theorem giveAt_succ (lower upper : FreeList) (previous block : Span) :
    giveAt (lower ++ previous :: upper) (lower.length + 1) block =
      .ok ((if previous.stop = block.start then attach? ⟨previous.start, block.stop⟩ upper
        else (attach? block upper).map (previous :: ·)).map (lower ++ ·)) := by
  have hlength : (lower ++ [previous]).length = lower.length + 1 := by simp
  have hsplit (spans : FreeList) : lower ++ previous :: spans = (lower ++ [previous]) ++ spans := by
    simp
  have hmeets : meetsBefore (lower ++ previous :: upper) (lower.length + 1) block =
      .ok (previous.stop = block.start) := by
    simp [meetsBefore, bind, Except.bind, pure, Except.pure]
  have hinsert : insert (lower ++ previous :: upper) (lower.length + 1) block =
      .ok (lower ++ previous :: block :: upper) := by
    rw [hsplit, ← hlength, insert_length, ← hsplit]
  cases upper with
  | nil =>
    by_cases hjoin : previous.stop = block.start <;>
      simp [giveAt, attach?, hmeets, hinsert, hjoin, bind, Except.bind, pure, Except.pure]
  | cons next upper =>
    have hget : get (lower ++ previous :: next :: upper) (lower.length + 1) = .ok next := by
      rw [hsplit, ← hlength, get_length]
    have hset :
        set (lower ++ previous :: next :: upper) (lower.length + 1) ⟨block.start, next.stop⟩ =
          .ok (lower ++ previous :: ⟨block.start, next.stop⟩ :: upper) := by
      rw [hsplit, ← hlength, set_length, ← hsplit]
    have hremove :
        remove (lower ++ ⟨previous.start, next.stop⟩ :: next :: upper) (lower.length + 1) =
          .ok (lower ++ ⟨previous.start, next.stop⟩ :: upper) := by
      have hat := remove_length (lower ++ [⟨previous.start, next.stop⟩]) upper next
      simpa using hat
    by_cases hover : next.start < block.stop
    · simp [giveAt, attach?, hover, pure, Except.pure]
    · by_cases htouch : next.start = block.stop <;> by_cases hjoin : previous.stop = block.start <;>
        simp [giveAt, attach?, hmeets, hinsert, hget, hset, hremove, hover, htouch, hjoin, bind,
          Except.bind, pure, Except.pure]

/-- A block's start divides a canonical list into the spans that end at or before it
    and those that end behind it. -/
theorem exists_split {spans : FreeList} (hcanonical : Canonical spans) (start : UInt64) :
    ∃ lower upper, spans = lower ++ upper ∧ (∀ span ∈ lower, span.stop ≤ start) ∧
      ∀ span ∈ upper, start < span.stop := by
  induction spans with
  | nil => exact ⟨[], [], rfl, by simp, by simp⟩
  | cons span spans ih =>
    obtain ⟨hspan, habove, hspans⟩ := canonical_cons_iff.1 hcanonical
    by_cases hle : span.stop ≤ start
    · obtain ⟨lower, upper, rfl, hlower, hupper⟩ := ih hspans
      exact ⟨span :: lower, upper, rfl, List.forall_mem_cons.2 ⟨hle, hlower⟩, hupper⟩
    · refine ⟨[], span :: spans, rfl, by simp, List.forall_mem_cons.2 ⟨UInt64.not_le.1 hle, ?_⟩⟩
      intro upper hupper
      exact UInt64.lt_trans (UInt64.not_le.1 hle)
        (UInt64.lt_trans (habove upper hupper) (hspans.nonempty upper hupper))

theorem give?_append {lower spans : FreeList} {block : Span}
    (hlower : ∀ span ∈ lower, span.stop < block.start) :
    give? block (lower ++ spans) = (give? block spans).map (lower ++ ·) := by
  induction lower with
  | nil => simp
  | cons span lower ih =>
    obtain ⟨hspan, hlower⟩ := List.forall_mem_cons.1 hlower
    simp [give?, hspan, ih hlower, Function.comp_def]

theorem give?_eq_attach? {upper : FreeList} {block : Span}
    (hupper : ∀ span ∈ upper, block.start < span.stop) :
    give? block upper = attach? block upper := by
  cases upper with
  | nil => rfl
  | cons span upper =>
    have hspan := hupper span List.mem_cons_self
    have hbehind : ¬ span.stop < block.start := UInt64.not_lt.2 (UInt64.le_of_lt hspan)
    have hapart : ¬ span.stop = block.start := fun heq => UInt64.lt_irrefl _ (heq ▸ hspan)
    rw [give?, if_neg hbehind, if_neg hapart]

/-- On a canonical list the search by halving finds the place of a block, and no index
    is out of bounds. -/
theorem give_eq {spans : FreeList} (hcanonical : Canonical spans) (block : Span) :
    give spans block = .ok (give? block spans) := by
  obtain ⟨lower, upper, rfl, hlower, hupper⟩ := exists_split hcanonical block.start
  have hindex : partitionPoint (·.stop ≤ block.start) (lower ++ upper) 0 (lower ++ upper).length =
      lower.length := by
    refine partitionPoint_append ?_ ?_ (Nat.zero_le _) (by simp)
    · simpa using hlower
    · simpa using hupper
  rw [give, hindex]
  cases lower.eq_nil_or_concat with
  | inl hempty =>
    subst hempty
    rw [List.nil_append, List.length_nil, giveAt_zero, give?_eq_attach? hupper]
  | inr hlast =>
    obtain ⟨front, previous, rfl⟩ := hlast
    rw [List.concat_eq_append, List.append_assoc, List.singleton_append] at hcanonical ⊢
    have hprevious : previous.stop ≤ block.start := hlower previous (by simp)
    obtain ⟨_, hrest, hapart⟩ := canonical_append_iff.1 hcanonical
    have hbefore (span : Span) (hmem : span ∈ front) : span.stop < block.start := by
      have hlt := hapart span hmem previous List.mem_cons_self
      have hspan := (canonical_cons_iff.1 hrest).1
      exact UInt64.lt_of_lt_of_le (UInt64.lt_trans hlt hspan) hprevious
    rw [List.length_append, List.length_singleton, giveAt_succ, give?_append hbefore, give?,
      give?_eq_attach? hupper]
    by_cases hjoin : previous.stop = block.start
    · rw [if_pos hjoin, if_neg (hjoin ▸ UInt64.lt_irrefl _), if_pos hjoin]
    · rw [if_neg hjoin, if_pos (UInt64.lt_of_le_of_ne hprevious hjoin)]

/-- A block is taken by the index of its span as it is by recursion on the list. -/
theorem carve_eq {alignment : PosWord} {length start : UInt64} {spans rest : FreeList}
    (hlength : 0 < length.toNat) (htake : take? alignment length spans = some (start, rest)) :
    ∃ index, firstFit? alignment length spans = some (index, start) ∧
      carve spans index start length = .ok rest := by
  obtain ⟨lower, span, upper, rfl, hlower, hfit, rfl⟩ := take?_eq_some htake
  obtain ⟨_, _, hle⟩ := Span.fit?_eq_some_iff.1 hfit
  have hword := span.stop.toNat_lt
  have hsum : start ≤ start + length := by
    rw [UInt64.le_iff_toNat_le, UInt64.toNat_add, Nat.mod_eq_of_lt (by omega)]
    omega
  exact ⟨lower.length, firstFit?_append hlower hfit, carve_append hsum⟩

def allocate (heap : FirstFit) (size : UInt64) : Except Trap (Option UInt64 × FirstFit) := do
  match heap.blockLength? size with
  | none => return (none, { heap with failedAllocations := heap.failedAllocations + 1 })
  | some length =>
    match firstFit? heap.alignment length heap.free with
    | none => return (none, { heap with failedAllocations := heap.failedAllocations + 1 })
    | some (index, address) =>
      let free ← carve heap.free index address length
      let bytesInUse ← add heap.bytesInUse length
      return (some address,
        { heap with
          free
          bytesInUse
          peakBytesInUse := max heap.peakBytesInUse bytesInUse
          liveAllocations := heap.liveAllocations + 1
          successfulAllocations := heap.successfulAllocations + 1 })

def release (heap : FirstFit) (size address : UInt64) : Except Trap (Option FirstFit) := do
  match heap.blockLength? size, heap.block? size address with
  | some length, some block =>
    match ← give heap.free block with
    | none => return none
    | some free =>
      let bytesInUse ← sub heap.bytesInUse length
      return some { heap with free, bytesInUse, liveAllocations := heap.liveAllocations - 1 }
  | _, _ => return none

def statistics (heap : FirstFit) : Except Trap Statistics := do
  let freeBytes ← sub heap.capacity heap.bytesInUse
  let lengths ← heap.free.mapM fun span => sub span.stop span.start
  let largestFreeBlock := lengths.foldl max 0
  return {
    capacity := heap.capacity
    bytesInUse := heap.bytesInUse
    peakBytesInUse := heap.peakBytesInUse
    liveAllocations := heap.liveAllocations
    successfulAllocations := heap.successfulAllocations
    failedAllocations := heap.failedAllocations
    freeBlocks := heap.free.length
    largestFreeBlock
    fragmentation := fragmentationRatio freeBytes largestFreeBlock }

/-- The answer to a call and the state behind it, when no step of the call stops. -/
def serve (heap : FirstFit) :
    Call UInt64 → Except Trap (Except AllocatorError (Option UInt64) × FirstFit)
  | .allocate _ size => do
    let (address, heap) ← allocate heap size
    return (.ok address, heap)
  | .free id size address => do
    match ← release heap size address with
    | some heap => return (.ok none, heap)
    | none => return (.error (.invalidFree id address size), heap)
  | .report => do
    let snapshot ← statistics heap
    return (.ok none, { heap with reports := heap.reports.push snapshot })

theorem add_eq {a b : UInt64} (hsum : (a + b).toNat = a.toNat + b.toNat) :
    add a b = .ok (a + b) := by
  refine if_pos (UInt64.le_iff_toNat_le.2 ?_)
  omega

theorem allocate_eq {heap : FirstFit} (hsound : heap.Sound) (size : UInt64) :
    allocate heap size = .ok (heap.allocate size) := by
  rw [allocate, FirstFit.allocate]
  cases hlength : heap.blockLength? size with
  | none => simp [FirstFit.find?, hlength, pure, Except.pure]
  | some length =>
    cases htake : take? heap.alignment length heap.free with
    | none =>
      simp [FirstFit.find?, hlength, htake, firstFit?_none htake, pure, Except.pure]
    | some taken =>
      obtain ⟨address, free⟩ := taken
      have hbytes := (FirstFit.blockLength?_eq_some_iff.1 hlength).2
      have hfind : heap.find? size = some (address, length, free) := by
        simp [FirstFit.find?, hlength, htake]
      obtain ⟨index, hfit, hcarve⟩ := carve_eq (hbytes ▸ blockBytes_pos _ _) htake
      have hused : add heap.bytesInUse length = .ok (heap.bytesInUse + length) :=
        add_eq (hbytes ▸ (hsound.taken hfind).2)
      simp [hfind, hfit, hcarve, hused, bind, Except.bind, pure, Except.pure]

theorem release_eq {heap : FirstFit} (hsound : heap.Sound) (size address : UInt64) :
    release heap size address = .ok (heap.release? size address) := by
  rw [release, FirstFit.release?]
  cases hblock : heap.block? size address with
  | none => cases heap.blockLength? size <;> rfl
  | some block =>
    obtain ⟨hroom, _⟩ := FirstFit.block?_eq_some_iff.1 hblock
    obtain ⟨hlt, _, hbytes⟩ := FirstFit.addresses_of_block? hblock
    have hlength : heap.blockLength? size = some block.length :=
      FirstFit.blockLength?_eq_some_iff.2 ⟨hroom, hbytes⟩
    cases hgive : heap.free.give? block with
    | none =>
      simp [hlength, hgive, give_eq hsound.canonical, bind, Except.bind, pure, Except.pure]
    | some free =>
      have hfreed := give?_freed hsound.canonical hlt hgive
      have hused : sub heap.bytesInUse block.length = .ok (heap.bytesInUse - block.length) :=
        if_pos (hsound.given hblock hfreed).2.2.1
      simp [hlength, hgive, hused, give_eq hsound.canonical, bind, Except.bind, pure, Except.pure]

theorem lengths_eq {spans : FreeList} (hcanonical : Canonical spans) :
    spans.mapM (fun span => sub span.stop span.start) = .ok (spans.map Span.length) := by
  induction spans with
  | nil => rfl
  | cons span spans ih =>
    obtain ⟨hspan, _, hspans⟩ := canonical_cons_iff.1 hcanonical
    have hlength : sub span.stop span.start = .ok span.length := if_pos (UInt64.le_of_lt hspan)
    simp [List.mapM_cons, hlength, ih hspans, bind, Except.bind, pure, Except.pure]

theorem statistics_eq {heap : FirstFit} (hsound : heap.Sound) :
    statistics heap = .ok heap.statistics := by
  have hfree : sub heap.capacity heap.bytesInUse = .ok (heap.capacity - heap.bytesInUse) :=
    if_pos (UInt64.le_iff_toNat_le.2 (hsound.used_le_peak.trans hsound.peak_le_capacity))
  simp [statistics, FirstFit.statistics, largest, hfree, lengths_eq hsound.canonical, bind,
    Except.bind, pure, Except.pure]

/-- On a sound heap no call overflows, underflows or leaves the list, and the checked
    call has the effect of the call. -/
theorem serve_eq {heap : FirstFit} (hsound : heap.Sound) (call : Call UInt64) :
    serve heap call = .ok (FirstFit.allocator.serve heap call) := by
  cases call with
  | allocate id size =>
    simp [serve, Allocator.serve, FirstFit.allocator, allocate_eq hsound, bind, Except.bind, pure,
      Except.pure]
  | free id size address =>
    simp only [serve, Allocator.serve, FirstFit.allocator, release_eq hsound, bind, Except.bind,
      pure, Except.pure]
    cases heap.release? size address <;> rfl
  | report =>
    simp [serve, Allocator.serve, FirstFit.allocator, statistics_eq hsound, bind, Except.bind, pure,
      Except.pure, Except.map]

end HeapReplay.Heap.Checked
