import Ch32v307.Kernel.HeapSession

namespace Ch32v307.Kernel

open Data Tiling Heap

/-! What holds after any run of calls. -/

namespace Session

def start (heap : Heap) : Session := ⟨heap, fun _ => none⟩

def next (session : Session) (call : Call) : Option Session :=
  (session.invoke call).map Prod.snd

/-- Every call of the run is one that the program may make. -/
def Allows (session : Session) (calls : List Call) : Prop :=
  Run.Admitted next Allowed session calls

def run (session : Session) (calls : List Call) : Option Session :=
  calls.foldlM next session

section Step

variable {region : Nat × Nat} {session : Session} {blocks : List Block}

theorem Backed.next (backed : session.Backed region blocks) (call : Call)
    (allowed : session.Allowed call) :
    ∃ following, session.next call = some following ∧
      ∃ later, following.Backed region later := by
  obtain ⟨heap, live⟩ := session
  cases call with
  | malloc size =>
      obtain ⟨rmem, following, later, invoked, safe, -⟩ :=
        backed.invoke_malloc allowed
      exact ⟨following, by rw [Session.next, invoked]; rfl, later, safe⟩
  | calloc count size =>
      obtain ⟨rmem, following, later, invoked, safe, -⟩ :=
        backed.invoke_calloc allowed
      exact ⟨following, by rw [Session.next, invoked]; rfl, later, safe⟩
  | realloc rmem newsize =>
      obtain ⟨result, following, later, invoked, safe⟩ :=
        backed.invoke_realloc allowed
      exact ⟨following, by rw [Session.next, invoked]; rfl, later, safe⟩
  | free rmem =>
      obtain ⟨later, released, -⟩ := backed.release allowed
      exact ⟨_, rfl, later, released⟩
  | write rmem index value =>
      obtain ⟨result, following, later, invoked, safe, -⟩ :=
        backed.invoke_write allowed
      exact ⟨following, by rw [Session.next, invoked]; rfl, later, safe⟩

theorem Backed.next_lowest (backed : session.Backed region blocks)
    (lowest : session.heap.Lowest blocks) (call : Call)
    (allowed : session.Allowed call)
    (uncut : ∀ rmem newsize, call ≠ .realloc rmem newsize) :
    ∃ following, session.next call = some following ∧
      ∃ later, following.Backed region later ∧ following.heap.Lowest later := by
  obtain ⟨heap, live⟩ := session
  cases call with
  | malloc size =>
      obtain ⟨rmem, following, later, invoked, safe, low⟩ :=
        backed.invoke_malloc allowed
      exact ⟨following, by rw [Session.next, invoked]; rfl, later, safe,
        low lowest⟩
  | calloc count size =>
      obtain ⟨rmem, following, later, invoked, safe, low⟩ :=
        backed.invoke_calloc allowed
      exact ⟨following, by rw [Session.next, invoked]; rfl, later, safe,
        low lowest⟩
  | realloc rmem newsize => exact absurd rfl (uncut rmem newsize)
  | free rmem =>
      obtain ⟨later, released, low⟩ := backed.release allowed
      exact ⟨_, rfl, later, released, low lowest⟩
  | write rmem index value =>
      obtain ⟨result, following, later, invoked, safe, low⟩ :=
        backed.invoke_write allowed
      exact ⟨following, by rw [Session.next, invoked]; rfl, later, safe,
        low lowest⟩

theorem backed_start {heap : Heap} {beginAddr endAddr : UInt32}
    {contents : Memory}
    (init : rtSystemHeapInit beginAddr endAddr contents = some heap)
    (room : minSize ≤ heap.memSizeAligned) :
    (start heap).Backed (heap.heapPtr, heap.memSizeAligned)
      [⟨0, heap.heapEnd, false⟩] := by
  refine ⟨rfl, (init_sound init room).1, ?_, ?_⟩
  · intro rmem contents owns
    cases owns
  · intro block member
    obtain ⟨member, used⟩ := member
    rw [List.mem_singleton.mp member] at used
    cases used

end Step

section Runs

variable {heap : Heap} {beginAddr endAddr : UInt32} {contents : Memory}
  {calls : List Call}

theorem run_backed
    (init : rtSystemHeapInit beginAddr endAddr contents = some heap)
    (room : minSize ≤ heap.memSizeAligned)
    (allows : (start heap).Allows calls) :
    ∃ last, (start heap).run calls = some last ∧
      ∃ blocks, last.Backed (heap.heapPtr, heap.memSizeAligned) blocks :=
  Run.foldlM_invariant
    (fun _ call backed allowed => backed.elim fun _ backed =>
      backed.next call allowed)
    ⟨_, backed_start init room⟩ allows

/-- A heap of 256 bytes, and a program that uses it. -/
def smallHeap : Heap :=
  (rtSystemHeapInit 0x20000000 0x20000100 fun _ => 0).get rfl

def smallCalls : List Call :=
  [.malloc 16, .calloc 2 8, .write 0x2000000c 3 7, .free 0x2000000c, .malloc 5]

theorem smallHeap_init :
    rtSystemHeapInit 0x20000000 0x20000100 (fun _ => 0) = some smallHeap :=
  (Option.some_get rfl).symm

theorem smallCalls_allowed : (start smallHeap).Allows smallCalls := by
  unfold Allows
  decide +kernel

/-- No call hangs, and the program has the memory it asked for to itself:
aligned, inside the heap, apart from every other piece, with the bytes it put
there. -/
theorem run_isolates
    (init : rtSystemHeapInit beginAddr endAddr contents = some heap)
    (room : minSize ≤ heap.memSizeAligned)
    (allows : (start heap).Allows calls) :
    ∃ last, (start heap).run calls = some last ∧
      (∀ rmem bytes, last.live rmem = some bytes →
        rmem % 4 = 0 ∧ heap.heapPtr + sizeofStructMem ≤ rmem ∧
        rmem + bytes.length ≤ heap.heapPtr + heap.heapEnd ∧
        last.heap.bytes rmem bytes.length = bytes) ∧
      ∀ left right leftBytes rightBytes, last.live left = some leftBytes →
        last.live right = some rightBytes → left ≠ right →
        left + leftBytes.length ≤ right ∨ right + rightBytes.length ≤ left := by
  obtain ⟨last, reached, blocks, backed⟩ := run_backed init room allows
  have header : sizeofStructMem = 12 := rfl
  obtain ⟨begins, size⟩ := Prod.mk.inj backed.region
  refine ⟨last, reached, ?_, ?_⟩
  · intro rmem bytes owns
    obtain ⟨block, member, rfl, space, read⟩ := backed.owned rmem bytes owns
    have word := (backed.sound.aligned block member.1).1
    have pointer := backed.sound.pointer
    have inside := (backed.sound.holds.tiles.bounds member.1).2.2
    rw [heapEnd, size] at inside
    unfold dataOf heapEnd
    refine ⟨by omega, by omega, by omega, read⟩
  · intro left right leftBytes rightBytes leftOwns rightOwns apart
    obtain ⟨block, member, rfl, space, -⟩ := backed.owned left _ leftOwns
    obtain ⟨other, among, rfl, more, -⟩ := backed.owned right _ rightOwns
    unfold dataOf
    rcases backed.sound.holds.tiles.apart member.1 among.1 with same | below | above
    · rw [same] at apart
      exact absurd rfl apart
    · omega
    · omega

theorem run_isolates_small :
    ∃ last, (start smallHeap).run smallCalls = some last ∧
      (∀ rmem bytes, last.live rmem = some bytes →
        rmem % 4 = 0 ∧ smallHeap.heapPtr + sizeofStructMem ≤ rmem ∧
        rmem + bytes.length ≤ smallHeap.heapPtr + smallHeap.heapEnd ∧
        last.heap.bytes rmem bytes.length = bytes) ∧
      ∀ left right leftBytes rightBytes, last.live left = some leftBytes →
        last.live right = some rightBytes → left ≠ right →
        left + leftBytes.length ≤ right ∨ right + rightBytes.length ≤ left :=
  run_isolates smallHeap_init (by decide) smallCalls_allowed

/-- The heap keeps its books: `used_mem` counts the blocks in use and their
headers, a block is in use when the program owns it, and no two free blocks are
neighbours. -/
theorem run_accounts
    (init : rtSystemHeapInit beginAddr endAddr contents = some heap)
    (room : minSize ≤ heap.memSizeAligned)
    (allows : (start heap).Allows calls) :
    ∃ last blocks, (start heap).run calls = some last ∧
      last.heap.Holds blocks ∧ Merged blocks ∧
      last.heap.usedMem = usedBytes blocks ∧
      last.heap.usedMem ≤ last.heap.maxMem ∧
      ∀ rmem, (last.live rmem).isSome ↔
        ∃ block ∈ inUse blocks, rmem = last.heap.dataOf block := by
  obtain ⟨last, reached, blocks, backed⟩ := run_backed init room allows
  refine ⟨last, blocks, reached, backed.sound.holds, backed.sound.merged,
    backed.sound.counted, backed.sound.peak, fun rmem => ⟨?_, ?_⟩⟩
  · intro owned
    obtain ⟨bytes, owns⟩ := Option.isSome_iff_exists.mp owned
    obtain ⟨block, member, same, -⟩ := backed.owned rmem bytes owns
    exact ⟨block, member, same⟩
  · rintro ⟨block, member, rfl⟩
    exact backed.known block member

theorem run_accounts_small :
    ∃ last blocks, (start smallHeap).run smallCalls = some last ∧
      last.heap.Holds blocks ∧ Merged blocks ∧
      last.heap.usedMem = usedBytes blocks ∧
      last.heap.usedMem ≤ last.heap.maxMem ∧
      ∀ rmem, (last.live rmem).isSome ↔
        ∃ block ∈ inUse blocks, rmem = last.heap.dataOf block :=
  run_accounts smallHeap_init (by decide) smallCalls_allowed

/-- Nothing leaks: when the program has given everything back, the heap is one
block again, and `rt_malloc` gives it out. -/
theorem run_returns
    (init : rtSystemHeapInit beginAddr endAddr contents = some heap)
    (room : minSize ≤ heap.memSizeAligned)
    (allows : (start heap).Allows calls) :
    ∃ last, (start heap).run calls = some last ∧
      ((∀ rmem, last.live rmem = none) →
        last.heap.usedMem = 0 ∧ last.heap.lfree = 0 ∧
        last.heap.Holds [⟨0, heap.heapEnd, false⟩] ∧
        ∀ size, size ≠ 0 → request size < heap.memSizeAligned →
          ∃ other, rtMalloc last.heap size =
            some (heap.heapPtr + sizeofStructMem, other)) := by
  obtain ⟨last, reached, blocks, backed⟩ := run_backed init room allows
  obtain ⟨begins, size⟩ := Prod.mk.inj backed.region
  have sameEnd : last.heap.heapEnd = heap.heapEnd := by
    rw [heapEnd, heapEnd, size]
  refine ⟨last, reached, fun empty => ?_⟩
  have free : ∀ block ∈ blocks, block.label = false := by
    intro block member
    cases used : block.label with
    | false => rfl
    | true =>
        have owned := backed.known block ⟨member, used⟩
        rw [empty] at owned
        cases owned
  have low := backed.sound.idle free
  have sound := backed.sound
  obtain rfl := sound.merged.alone free sound.holds.tiles
  refine ⟨sound.counted, low, sameEnd ▸ sound.holds, ?_⟩
  intro request positive fits
  have small := rtAlign_le_request request
  have header : sizeofStructMem = 12 := rfl
  have length : last.heap.heapEnd = heap.memSizeAligned + 12 := sameEnd
  have found : last.heap.candidate [⟨0, last.heap.heapEnd, false⟩] request =
      some ⟨0, last.heap.heapEnd, false⟩ := by
    rw [candidate, if_neg (not_or.mpr ⟨positive, by omega⟩)]
    refine List.find?_cons_of_pos ?_
    rw [decide_eq_true_eq]
    exact ⟨by rw [low], rfl, by dsimp only; omega, by dsimp only; omega⟩
  obtain ⟨other, -, -, taken, -⟩ := sound.malloc_some found
  rw [begins] at taken
  exact ⟨other, taken⟩

theorem run_returns_small :
    ∃ last, (start smallHeap).run [.malloc 16, .free 0x2000000c] = some last ∧
      ((∀ rmem, last.live rmem = none) →
        last.heap.usedMem = 0 ∧ last.heap.lfree = 0 ∧
        last.heap.Holds [⟨0, smallHeap.heapEnd, false⟩] ∧
        ∀ size, size ≠ 0 → request size < smallHeap.memSizeAligned →
          ∃ other, rtMalloc last.heap size =
            some (smallHeap.heapPtr + sizeofStructMem, other)) := by
  have allows : (start smallHeap).Allows [.malloc 16, .free 0x2000000c] := by
    unfold Allows
    decide +kernel
  exact run_returns smallHeap_init (by decide) allows

/-- Without `rt_realloc`, whose cut does not lower `lfree`, `rt_malloc` gives the
first block of the heap that fits, and refuses only when there is none. -/
theorem run_fits
    (init : rtSystemHeapInit beginAddr endAddr contents = some heap)
    (room : minSize ≤ heap.memSizeAligned)
    (allows : (start heap).Allows calls)
    (cuts : ∀ call ∈ calls, ∀ rmem newsize, call ≠ .realloc rmem newsize) :
    ∃ last blocks, (start heap).run calls = some last ∧
      last.heap.Holds blocks ∧
      ∀ size, size ≠ 0 → request size ≤ heap.memSizeAligned →
        match blocks.find? fun block => last.heap.Fits (request size) block with
        | none => rtMalloc last.heap size = some (0, last.heap)
        | some block => ∃ other, rtMalloc last.heap size =
            some (last.heap.dataOf block, other) := by
  have keeps : ∀ (session : Session) (call : Call),
      (∃ blocks, session.Backed (heap.heapPtr, heap.memSizeAligned) blocks ∧
        session.heap.Lowest blocks) →
      (session.Allowed call ∧ ∀ rmem newsize, call ≠ .realloc rmem newsize) →
      ∃ following, session.next call = some following ∧
        ∃ blocks, following.Backed (heap.heapPtr, heap.memSizeAligned) blocks ∧
          following.heap.Lowest blocks :=
    fun _ call ⟨_, backed, low⟩ ⟨allowed, uncut⟩ =>
      backed.next_lowest low call allowed uncut
  obtain ⟨last, reached, blocks, backed, lowest⟩ :=
    Run.foldlM_invariant keeps
      ⟨_, backed_start init room, (init_sound init room).2⟩
      (Run.Admitted.and_forall allows cuts)
  obtain ⟨begins, length⟩ := Prod.mk.inj backed.region
  refine ⟨last, blocks, reached, backed.sound.holds, fun size positive fits => ?_⟩
  have small := rtAlign_le_request size
  have everywhere : last.heap.candidate blocks size =
      blocks.find? fun block => last.heap.Fits (request size) block := by
    rw [candidate, if_neg (not_or.mpr ⟨positive, by omega⟩)]
    refine List.find?_congr fun block member => ?_
    rw [decide_eq_decide]
    refine and_iff_right_of_imp fun fit => ?_
    exact lowest block member fit.1
  cases found : blocks.find? fun block => last.heap.Fits (request size) block with
  | none => exact backed.sound.malloc_none (everywhere.trans found)
  | some block =>
      obtain ⟨other, -, -, taken, -⟩ :=
        backed.sound.malloc_some (everywhere.trans found)
      exact ⟨other, taken⟩

theorem run_fits_small :
    ∃ last blocks, (start smallHeap).run smallCalls = some last ∧
      last.heap.Holds blocks ∧
      ∀ size, size ≠ 0 → request size ≤ smallHeap.memSizeAligned →
        match blocks.find? fun block => last.heap.Fits (request size) block with
        | none => rtMalloc last.heap size = some (0, last.heap)
        | some block => ∃ other, rtMalloc last.heap size =
            some (last.heap.dataOf block, other) := by
  have uncut : ∀ call ∈ smallCalls, ∀ rmem newsize,
      call ≠ .realloc rmem newsize := by
    intro call member rmem newsize same
    subst same
    simp [smallCalls] at member
  exact run_fits smallHeap_init (by decide) smallCalls_allowed uncut

end Runs

end Session

end Ch32v307.Kernel
