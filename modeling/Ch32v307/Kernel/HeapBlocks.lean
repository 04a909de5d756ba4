import Mathlib.Data.List.Chain
import Ch32v307.Data.Tiling
import Ch32v307.Kernel.Heap

namespace Ch32v307.Kernel

open Data Tiling

/-! The heap as a row of blocks from `heap_ptr` to `heap_end`. -/

/-- A block from its header to the next one, and whether it is in use. -/
abbrev Block := Span Bool

/-- The shortest block: a header and one aligned word. -/
def leastBlock : Nat := sizeofStructMem + rtAlignSize.toNat

namespace Heap

structure Header (heap : Heap) (block : Block) (prev : Nat) : Prop where
  magic : heap.magic block.start = heapMagic
  used : heap.used block.start = block.label.toNat
  next : heap.next block.start = block.stop
  prev : heap.prev block.start = prev

/-- The headers of the blocks say where the block before begins. -/
def Linked (heap : Heap) : Nat → List Block → Prop
  | _, [] => True
  | prev, block :: rest => heap.Header block prev ∧ heap.Linked block.start rest

def lastStart : Nat → List Block → Nat
  | prev, [] => prev
  | _, block :: rest => lastStart block.start rest

/-- The first block is its own predecessor; the end is a header in use. -/
structure Holds (heap : Heap) (blocks : List Block) : Prop where
  tiles : Tiles leastBlock 0 blocks heap.heapEnd
  linked : heap.Linked 0 blocks
  endUsed : heap.used heap.heapEnd ≠ 0
  endNext : heap.next heap.heapEnd = heap.heapEnd

section Linked

variable {heap other : Heap} {first second : List Block} {prev lo hi : Nat}

theorem linked_append :
    heap.Linked prev (first ++ second) ↔
      heap.Linked prev first ∧ heap.Linked (lastStart prev first) second := by
  induction first generalizing prev with
  | nil => simp [Linked, lastStart]
  | cons block rest ih => simp only [List.cons_append, Linked, lastStart, ih,
      and_assoc]

theorem Header.of_same {block : Block} (header : heap.Header block prev)
    (same : ∀ offset, block.start ≤ offset → offset < block.start + 12 →
      other.mem offset = heap.mem offset) : other.Header block prev := by
  constructor
  · exact (same _ (by omega) (by omega)).trans header.magic
  · exact (same _ (by omega) (by omega)).trans header.used
  · exact (same _ (by omega) (by omega)).trans header.next
  · exact (same _ (by omega) (by omega)).trans header.prev

theorem Linked.of_same (linked : heap.Linked prev first)
    (tiles : Tiles leastBlock lo first hi)
    (same : ∀ offset, lo ≤ offset → offset < hi →
      other.mem offset = heap.mem offset) : other.Linked prev first := by
  induction first generalizing prev lo with
  | nil => trivial
  | cons block rest ih =>
      obtain ⟨header, others⟩ := linked
      obtain ⟨rfl, long, after⟩ := tiles
      have room : block.start + 16 ≤ block.stop := long
      have rest_le := after.le
      refine ⟨header.of_same fun offset low high => same offset low (by omega),
        ih others after fun offset low high => same offset (by omega) high⟩

/-- The header that follows a changed block names it, and keeps the rest. -/
theorem Linked.relink {back : Nat} (linked : heap.Linked prev second)
    (tiles : Tiles leastBlock lo second hi)
    (same : ∀ offset, lo ≤ offset → offset < hi → offset ≠ lo + 8 →
      other.mem offset = heap.mem offset)
    (named : lo ≠ hi → other.prev lo = back) : other.Linked back second := by
  cases second with
  | nil => trivial
  | cons block rest =>
      obtain ⟨header, others⟩ := linked
      obtain ⟨rfl, long, after⟩ := tiles
      have room : block.start + 16 ≤ block.stop := long
      have rest_le := after.le
      refine ⟨⟨?_, ?_, ?_, named (by omega)⟩, others.of_same after
        fun offset low high => same offset (by omega) high (by omega)⟩
      · exact (same _ (by omega) (by omega) (by omega)).trans header.magic
      · exact (same _ (by omega) (by omega) (by omega)).trans header.used
      · exact (same _ (by omega) (by omega) (by omega)).trans header.next

end Linked

section Replace

variable {heap other : Heap} {first second : List Block} {lo hi : Nat}

theorem tiles_end (tiles : Tiles leastBlock hi second heap.heapEnd) :
    hi = heap.heapEnd ∨ hi + 16 ≤ heap.heapEnd := by
  cases second with
  | nil => exact Or.inl tiles
  | cons block rest =>
      obtain ⟨rfl, long, after⟩ := tiles
      have room : block.start + 16 ≤ block.stop := long
      have := after.le
      omega

/-- What an operation does between two boundaries leaves the other blocks as
they are, but for the link back from the second boundary. -/
theorem Holds.replace (old new : List Block)
    (holds : heap.Holds (first ++ (old ++ second)))
    (before : Tiles leastBlock 0 first lo) (oldTiles : Tiles leastBlock lo old hi)
    (newTiles : Tiles leastBlock lo new hi)
    (size : other.memSizeAligned = heap.memSizeAligned)
    (linked : other.Linked (lastStart 0 first) new)
    (same : ∀ offset, offset < lo ∨ hi ≤ offset ∧ offset ≠ hi + 8 →
      other.mem offset = heap.mem offset)
    (named : hi ≠ heap.heapEnd →
      other.prev hi = lastStart (lastStart 0 first) new) :
    other.Holds (first ++ (new ++ second)) := by
  obtain ⟨tiles, links, endUsed, endNext⟩ := holds
  have sameEnd : other.heapEnd = heap.heapEnd := by
    rw [heapEnd, heapEnd, size]
  obtain ⟨mid, before', around⟩ := tiles_append.mp tiles
  obtain ⟨last, oldTiles', after⟩ := tiles_append.mp around
  obtain rfl : lo = mid := tiles_unique before before'
  obtain rfl : hi = last := tiles_unique oldTiles oldTiles'
  obtain ⟨firstLinked, rest⟩ := linked_append.mp links
  obtain ⟨-, secondLinked⟩ := linked_append.mp rest
  have ends := tiles_end after
  constructor
  · rw [sameEnd]
    exact tiles_append.mpr ⟨lo, before, tiles_append.mpr ⟨hi, newTiles, after⟩⟩
  · refine linked_append.mpr ⟨?_, linked_append.mpr ⟨linked, ?_⟩⟩
    · exact firstLinked.of_same before fun offset _ high =>
        same offset (Or.inl high)
    · exact secondLinked.relink after
        (fun offset low _ other => same offset (Or.inr ⟨low, other⟩)) named
  · have kept := same (heap.heapEnd + 2) (Or.inr ⟨by omega, by omega⟩)
    rw [sameEnd, used, kept]
    exact endUsed
  · have kept := same (heap.heapEnd + 4) (Or.inr ⟨by omega, by omega⟩)
    rw [sameEnd, next, kept]
    exact endNext

end Replace

section Operations

variable {heap other : Heap} {first second : List Block} {block nblock : Block}

/-- Around one block. -/
structure Around (heap : Heap) (first : List Block) (block : Block)
    (second : List Block) : Prop where
  before : Tiles leastBlock 0 first block.start
  room : block.start + 16 ≤ block.stop
  after : Tiles leastBlock block.stop second heap.heapEnd
  header : heap.Header block (lastStart 0 first)
  linked : heap.Linked block.start second

theorem Holds.around (holds : heap.Holds (first ++ block :: second)) :
    heap.Around first block second := by
  obtain ⟨before, long, after⟩ := tiles_around.mp holds.tiles
  obtain ⟨-, header, linked⟩ := linked_append.mp holds.linked
  exact ⟨before, long, after, header, linked⟩

@[simp] theorem heapEnd_store (offset value : Nat) :
    (heap.store offset value).heapEnd = heap.heapEnd := rfl

theorem combine_eq (heap : Heap) {mem nmem : Nat} (apart : nmem ≠ mem) :
    combine heap mem nmem =
      { heap with
        lfree := if heap.lfree = nmem then mem else heap.lfree
        mem := Function.update
          (Function.update heap.mem (mem + 4) (heap.next nmem))
          (heap.next nmem + 8) mem } := by
  have next : ∀ value, (heap.setNext mem value).next nmem = heap.next nmem :=
    fun value => Function.update_of_ne (by omega) _ _
  have stored : ∀ value, (heap.setNext mem value).setPrev
      ((heap.setNext mem value).next nmem) mem =
        (heap.setNext mem value).setPrev (heap.next nmem) mem :=
    fun value => by rw [next]
  unfold combine
  split_ifs
  · exact congrArg (fun heap : Heap => { heap with lfree := mem }) (stored _)
  · exact stored _

theorem combine_same (around : heap.Around first block (nblock :: second))
    (offset : Nat) (notNext : offset ≠ block.start + 4)
    (notPrev : offset ≠ nblock.stop + 8) :
    (combine heap block.start nblock.start).mem offset = heap.mem offset := by
  obtain ⟨-, room, ⟨start, -, -⟩, -, header, -⟩ := around
  rw [combine_eq heap (by omega), header.next]
  exact (Function.update_of_ne notPrev _ _).trans
    (Function.update_of_ne notNext _ _)

theorem combine_holds (holds : heap.Holds (first ++ block :: nblock :: second)) :
    (combine heap block.start nblock.start).Holds
      (first ++ ⟨block.start, nblock.stop, block.label⟩ :: second) := by
  have around := holds.around
  have same := combine_same around
  obtain ⟨before, room, ⟨start, long, after⟩, header, nheader, -⟩ := around
  have nroom : nblock.start + 16 ≤ nblock.stop := long
  have combined := combine_eq heap
    (by omega : nblock.start ≠ block.start)
  rw [nheader.next] at combined
  have whole : Tiles leastBlock block.start [block, nblock] nblock.stop :=
    ⟨rfl, room, start, long, rfl⟩
  refine Holds.replace [block, nblock] [⟨block.start, nblock.stop, block.label⟩]
    holds before whole ?_ (by rw [combined]) ?_ ?_ ?_
  · exact ⟨rfl, by show block.start + 16 ≤ nblock.stop; omega, rfl⟩
  · refine ⟨⟨?_, ?_, ?_, ?_⟩, trivial⟩
    · exact (same _ (by simp) (by simp; omega)).trans header.magic
    · exact (same _ (by simp) (by simp; omega)).trans header.used
    · have notPrev : block.start + 4 ≠ nblock.stop + 8 := by omega
      rw [combined]
      exact (Function.update_of_ne notPrev _ _).trans (Function.update_self ..)
    · exact (same _ (by simp) (by simp; omega)).trans header.prev
  · rintro offset (low | ⟨high, other⟩)
    · exact same offset (by omega) (by omega)
    · exact same offset (by omega) other
  · intro _
    rw [combined]
    exact Function.update_self ..

end Operations

/-- `lfree` is at a free block, or at the end. -/
def LowFree (heap : Heap) (blocks : List Block) : Prop :=
  heap.lfree = heap.heapEnd ∨
    ∃ block ∈ blocks, block.label = false ∧ block.start = heap.lfree

/-- No free block is below `lfree`. -/
def Lowest (heap : Heap) (blocks : List Block) : Prop :=
  ∀ block ∈ blocks, block.label = false → heap.lfree ≤ block.start

/-- No two free blocks are neighbours. -/
def Merged (blocks : List Block) : Prop :=
  blocks.IsChain fun left right => left.label = true ∨ right.label = true

/-- The free blocks are laid out anew; blocks in use, their data and the
counters stay. -/
structure Repacked (heap : Heap) (blocks : List Block) (other : Heap)
    (later : List Block) : Prop where
  holds : other.Holds later
  inUse : later.filter Span.label = blocks.filter Span.label
  seams : ∀ block ∈ later, (∃ left ∈ blocks, left.start = block.start) ∧
    ∃ right ∈ blocks, right.stop = block.stop
  lowFree : heap.LowFree blocks → other.LowFree later
  lowest : heap.Lowest blocks → other.Lowest later
  lfree : other.lfree ≤ heap.lfree
  data : ∀ block ∈ blocks, block.label = true → ∀ offset,
    block.start + 12 ≤ offset → offset < block.stop →
      other.mem offset = heap.mem offset
  heapPtr : other.heapPtr = heap.heapPtr
  memSizeAligned : other.memSizeAligned = heap.memSizeAligned
  usedMem : other.usedMem = heap.usedMem
  maxMem : other.maxMem = heap.maxMem

section Repacked

variable {heap other last : Heap} {blocks later final first second : List Block}
  {block nblock : Block}

theorem Holds.repacked (holds : heap.Holds blocks) :
    Repacked heap blocks heap blocks :=
  ⟨holds, rfl, fun block member => ⟨⟨block, member, rfl⟩, block, member, rfl⟩, id,
    id, Nat.le_refl _, fun _ _ _ _ _ _ => rfl, rfl, rfl, rfl, rfl⟩

theorem Repacked.trans (packed : Repacked heap blocks other later)
    (again : Repacked other later last final) :
    Repacked heap blocks last final where
  holds := again.holds
  inUse := again.inUse.trans packed.inUse
  seams block member := by
    obtain ⟨⟨left, inLeft, start⟩, right, inRight, stop⟩ :=
      again.seams block member
    obtain ⟨⟨first, inFirst, begins⟩, -⟩ := packed.seams left inLeft
    obtain ⟨-, last, inLast, ends⟩ := packed.seams right inRight
    exact ⟨⟨first, inFirst, begins.trans start⟩, last, inLast, ends.trans stop⟩
  lowFree low := again.lowFree (packed.lowFree low)
  lowest low := again.lowest (packed.lowest low)
  lfree := Nat.le_trans again.lfree packed.lfree
  data block member inUse offset low high := by
    have still : block ∈ later.filter Span.label := by
      rw [packed.inUse]
      exact List.mem_filter.mpr ⟨member, inUse⟩
    exact (again.data block (List.mem_filter.mp still).1 inUse offset low
      high).trans (packed.data block member inUse offset low high)
  heapPtr := again.heapPtr.trans packed.heapPtr
  memSizeAligned := again.memSizeAligned.trans packed.memSizeAligned
  usedMem := again.usedMem.trans packed.usedMem
  maxMem := again.maxMem.trans packed.maxMem

theorem combine_repacked
    (holds : heap.Holds (first ++ block :: nblock :: second))
    (free : block.label = false) (nfree : nblock.label = false) :
    Repacked heap (first ++ block :: nblock :: second)
      (combine heap block.start nblock.start)
      (first ++ ⟨block.start, nblock.stop, false⟩ :: second) := by
  have around := holds.around
  have merged := combine_holds holds
  rw [free] at merged
  obtain ⟨before, room, ⟨start, nroom, after⟩, -, -⟩ := around
  have combined := combine_eq heap
    (by omega : nblock.start ≠ block.start)
  have same := combine_same holds.around
  rw [combined] at merged same ⊢
  refine ⟨merged, ?_, ?_, ?_, ?_, ?_, ?_, rfl, rfl, rfl, rfl⟩
  · simp [free, nfree]
  · intro other member
    simp only [List.mem_append, List.mem_cons] at member
    rcases member with earlier | rfl | later
    · exact ⟨⟨other, by simp [earlier], rfl⟩, other, by simp [earlier], rfl⟩
    · exact ⟨⟨block, by simp, rfl⟩, nblock, by simp, rfl⟩
    · exact ⟨⟨other, by simp [later], rfl⟩, other, by simp [later], rfl⟩
  · intro low
    unfold LowFree
    dsimp only
    split_ifs with here
    · exact Or.inr ⟨_, List.mem_append_right _ (List.mem_cons_self ..), rfl, rfl⟩
    · rcases low with atEnd | ⟨other, member, idle, at'⟩
      · exact Or.inl atEnd
      · simp only [List.mem_append, List.mem_cons] at member
        rcases member with earlier | rfl | rfl | later
        · exact Or.inr ⟨other, List.mem_append_left _ earlier, idle, at'⟩
        · exact Or.inr ⟨_, List.mem_append_right _ (List.mem_cons_self ..), rfl,
            at'⟩
        · exact absurd at'.symm here
        · exact Or.inr ⟨other, List.mem_append_right _
            (List.mem_cons_of_mem _ later), idle, at'⟩
  · intro low other member idle
    have here := low block (by simp) free
    show (if _ then _ else _) ≤ _
    rw [if_neg (by omega)]
    simp only [List.mem_append, List.mem_cons] at member
    rcases member with earlier | rfl | later
    · exact low other (by simp [earlier]) idle
    · exact here
    · exact low other (by simp [later]) idle
  · dsimp only
    split_ifs
    · omega
    · exact Nat.le_refl _
  · intro other member inUse offset low high
    simp only [List.mem_append, List.mem_cons] at member
    rcases member with earlier | rfl | rfl | later
    · have := (before.bounds earlier).2.2
      exact same offset (by omega) (by omega)
    · rw [free] at inUse
      cases inUse
    · rw [nfree] at inUse
      cases inUse
    · have := (after.bounds later).1
      exact same offset (by omega) (by omega)

theorem lastStart_append (prev : Nat) (blocks : List Block) (block : Block) :
    lastStart prev (blocks ++ [block]) = block.start := by
  induction blocks generalizing prev with
  | nil => rfl
  | cons _ _ ih => exact ih _

/-- Forward: a free block takes in a free block behind it. -/
theorem plugForward (holds : heap.Holds (first ++ block :: second))
    (free : block.label = false) (merged : Merged second) :
    ∃ stop rest,
      Repacked heap (first ++ block :: second)
        (if block.start ≠ heap.next block.start ∧
            heap.used (heap.next block.start) = 0 ∧
            heap.next block.start ≠ heap.heapEnd then
          combine heap block.start (heap.next block.start)
        else heap)
        (first ++ ⟨block.start, stop, false⟩ :: rest) ∧
      Merged rest ∧ ∀ right ∈ rest.head?, right.label = true := by
  obtain ⟨-, room, after, header, linked⟩ := holds.around
  have whole : block = ⟨block.start, block.stop, false⟩ := by rw [← free]
  rw [header.next]
  cases second with
  | nil =>
      rw [if_neg fun more => more.2.2 after]
      exact ⟨block.stop, [], whole ▸ holds.repacked, merged, by simp⟩
  | cons nblock rest =>
      obtain ⟨start, long, behind⟩ := after
      have nroom : nblock.start + 16 ≤ nblock.stop := long
      have ends := behind.le
      obtain ⟨nheader, -⟩ := linked
      rw [← start]
      cases nfree : nblock.label with
      | false =>
          have idle : heap.used nblock.start = 0 := by
            rw [nheader.used, nfree]
            rfl
          rw [if_pos ⟨by omega, idle, by omega⟩]
          refine ⟨nblock.stop, rest, combine_repacked holds free nfree,
            List.IsChain.tail merged, ?_⟩
          intro right next
          rcases (List.isChain_cons.mp merged).1 right next with taken | taken
          · rw [nfree] at taken
            cases taken
          · exact taken
      | true =>
          have busy : heap.used nblock.start ≠ 0 := by
            rw [nheader.used, nfree]
            decide
          rw [if_neg fun more => busy more.2.1]
          exact ⟨block.stop, nblock :: rest, whole ▸ holds.repacked, merged,
            by simpa using nfree⟩

/-- Backward: a free block goes into a free block before it. -/
theorem plugBackward {stop : Nat} {start : Nat}
    (holds : heap.Holds (first ++ ⟨start, stop, false⟩ :: second))
    (before : Merged first) (after : Merged second)
    (next : ∀ right ∈ second.head?, right.label = true) :
    ∃ later,
      Repacked heap (first ++ ⟨start, stop, false⟩ :: second)
        (if heap.prev start ≠ start ∧ heap.used (heap.prev start) = 0 then
          combine heap (heap.prev start) start
        else heap) later ∧
      Merged later := by
  obtain ⟨tiles, room, -, header, -⟩ := holds.around
  have alone : ∀ start, Merged (⟨start, stop, false⟩ :: second) := fun _ =>
    List.isChain_cons.mpr ⟨fun right member => Or.inr (next right member), after⟩
  rw [header.prev]
  rcases List.eq_nil_or_concat first with rfl | ⟨front, pblock, rfl⟩
  · have origin : (0 : Nat) = start := tiles
    rw [if_neg fun more => more.1 origin]
    exact ⟨_, holds.repacked, alone start⟩
  · rw [List.concat_eq_append] at holds tiles before ⊢
    rw [lastStart_append]
    rw [List.append_assoc] at holds
    obtain ⟨-, proom, ⟨same, -⟩, pheader, -⟩ := holds.around
    have order : pblock.start ≠ start := by
      have : pblock.stop = start := same.symm
      omega
    cases pfree : pblock.label with
    | false =>
        have idle : heap.used pblock.start = 0 := by
          rw [pheader.used, pfree]
          rfl
        rw [if_pos ⟨order, idle⟩, List.append_assoc]
        obtain ⟨frontMerged, -, seam⟩ := List.isChain_append.mp before
        refine ⟨_, combine_repacked holds pfree rfl,
          frontMerged.append (alone pblock.start) ?_⟩
        intro left last right _
        rcases seam left last pblock rfl with taken | taken
        · exact Or.inl taken
        · rw [pfree] at taken
          cases taken
    | true =>
        have busy : heap.used pblock.start ≠ 0 := by
          rw [pheader.used, pfree]
          decide
        rw [if_neg fun more => busy more.2]
        refine ⟨_, ?_, List.IsChain.append before (alone start) ?_⟩
        · rw [List.append_assoc]
          exact holds.repacked
        · intro left last right _
          rw [List.getLast?_append] at last
          cases last
          exact Or.inl pfree

/-- The free block is put together with its free neighbours. -/
theorem plugHoles_repacked (holds : heap.Holds (first ++ block :: second))
    (free : block.label = false) (before : Merged first)
    (after : Merged second) :
    ∃ later, Repacked heap (first ++ block :: second)
        (plugHoles heap block.start) later ∧ Merged later := by
  obtain ⟨stop, rest, forward, restMerged, next⟩ :=
    plugForward holds free after
  obtain ⟨later, backward, merged⟩ :=
    plugBackward forward.holds before restMerged next
  exact ⟨later, forward.trans backward, merged⟩

end Repacked

/-! Taking a block. -/

/-- What `rt_malloc` and `rt_realloc` write when they cut a block at `ptr2`. -/
def cut (heap : Heap) (ptr ptr2 : Nat) : Heap :=
  linkMem2 (((createMem2 heap ptr ptr2).setNext ptr ptr2).setUsed ptr 1) ptr2

section Cut

variable {heap other : Heap} {blocks first second : List Block} {block : Block}
  {ptr2 : Nat}

theorem store_same {offset position value : Nat} (apart : offset ≠ position) :
    (heap.store position value).mem offset = heap.mem offset :=
  Function.update_of_ne apart _ _

theorem store_here (position value : Nat) :
    (heap.store position value).mem position = value :=
  Function.update_self ..

theorem linkMem2_eq (heap : Heap) (ptr2 : Nat) :
    linkMem2 heap ptr2 =
      { heap with
        mem := if heap.next ptr2 ≠ heap.heapEnd then
            Function.update heap.mem (heap.next ptr2 + 8) ptr2
          else heap.mem } := by
  unfold linkMem2
  split_ifs with inner outer outer
  · rfl
  · exact absurd inner outer
  · exact absurd outer inner
  · rfl

/-- The header of mem2, and the block that is cut. -/
structure IsCut (heap : Heap) (block : Block) (ptr2 : Nat) (other : Heap) :
    Prop where
  header : other.Header ⟨ptr2, block.stop, false⟩ block.start
  whole : ∀ prev, heap.Header block prev →
    other.Header ⟨block.start, ptr2, true⟩ prev
  named : block.stop ≠ heap.heapEnd → other.prev block.stop = ptr2
  same : ∀ offset, offset < ptr2 ∨ ptr2 + 12 ≤ offset →
    offset ≠ block.start + 2 → offset ≠ block.start + 4 →
      offset ≠ block.stop + 8 → other.mem offset = heap.mem offset

theorem cut_mem (next : heap.next block.start = block.stop)
    (left : block.start + 16 ≤ ptr2) (offset : Nat) :
    (cut heap block.start ptr2).mem offset =
      if offset = block.stop + 8 ∧ block.stop ≠ heap.heapEnd then ptr2
      else if offset = block.start + 2 then 1
      else if offset = block.start + 4 then ptr2
      else if offset = ptr2 + 8 then block.start
      else if offset = ptr2 + 4 then block.stop
      else if offset = ptr2 + 2 then 0
      else if offset = ptr2 then heapMagic
      else heap.mem offset := by
  have carried : (((createMem2 heap block.start ptr2).setNext block.start
      ptr2).setUsed block.start 1).next ptr2 = block.stop := by
    simp only [Heap.next] at next ⊢
    simp only [createMem2, setMagic, setUsed, setNext, setPrev, store,
      Heap.next, Function.update_apply]
    simp (disch := omega) only [if_neg, if_true, next]
  rw [cut, linkMem2_eq, carried]
  simp only [Heap.next] at next
  simp only [createMem2, setMagic, setUsed, setNext, setPrev, store, Heap.next,
    Heap.heapEnd]
  rw [Function.update_of_ne (by omega : block.start + 4 ≠ ptr2 + 2),
    Function.update_of_ne (by omega : block.start + 4 ≠ ptr2), next]
  split_ifs with inner <;> simp_all [Function.update_apply]

theorem cut_isCut (next : heap.next block.start = block.stop)
    (left : block.start + 16 ≤ ptr2) (right : ptr2 + 16 ≤ block.stop) :
    IsCut heap block ptr2 (cut heap block.start ptr2) := by
  have written := cut_mem next left
  refine ⟨⟨?_, ?_, ?_, ?_⟩, fun prev header => ⟨?_, ?_, ?_, ?_⟩, ?_, ?_⟩
  · simp (disch := omega) only [magic, written, if_neg, if_true]
  · simp (disch := omega) only [used, written, if_neg, if_true, Bool.toNat_false]
  · simp (disch := omega) only [Heap.next, written, if_neg, if_true]
  · simp (disch := omega) only [prev, written, if_neg, if_true]
  · have kept := header.magic
    simp (disch := omega) only [magic, written, if_neg] at kept ⊢
    exact kept
  · simp (disch := omega) only [used, written, if_neg, if_true, Bool.toNat_true]
  · simp (disch := omega) only [Heap.next, written, if_neg, if_true]
  · have kept := header.prev
    simp (disch := omega) only [Heap.prev, written, if_neg] at kept ⊢
    exact kept
  · intro behind
    rw [prev, written, if_pos ⟨rfl, behind⟩]
  · intro offset outside notUsed notNext notPrev
    simp (disch := omega) only [written, if_neg]

theorem IsCut.holds (cutAt : IsCut heap block ptr2 other)
    (holds : heap.Holds (first ++ block :: second))
    (left : block.start + 16 ≤ ptr2) (right : ptr2 + 16 ≤ block.stop)
    (size : other.memSizeAligned = heap.memSizeAligned) :
    other.Holds
      (first ++ ⟨block.start, ptr2, true⟩ :: ⟨ptr2, block.stop, false⟩ ::
        second) := by
  obtain ⟨before, room, -, header, -⟩ := holds.around
  refine Holds.replace [block]
    [⟨block.start, ptr2, true⟩, ⟨ptr2, block.stop, false⟩] holds before
    ⟨rfl, room, rfl⟩ ⟨rfl, left, rfl, right, rfl⟩ size
    ⟨cutAt.whole _ header, cutAt.header, trivial⟩ ?_ cutAt.named
  rintro offset (low | ⟨high, other⟩)
  · exact cutAt.same offset (by omega) (by omega) (by omega) (by omega)
  · exact cutAt.same offset (by omega) (by omega) (by omega) other

theorem Around.back (around : heap.Around first block second)
    (behind : block.stop ≠ heap.heapEnd) :
    heap.prev block.stop = block.start := by
  obtain ⟨-, -, after, -, linked⟩ := around
  cases second with
  | nil => exact absurd after behind
  | cons nblock rest => exact after.1 ▸ linked.1.prev

/-- A block taken whole, or given back. -/
theorem Holds.setUsed (holds : heap.Holds (first ++ block :: second))
    (inUse : Bool) :
    (heap.setUsed block.start inUse.toNat).Holds
      (first ++ ⟨block.start, block.stop, inUse⟩ :: second) := by
  have around := holds.around
  have back := around.back
  obtain ⟨before, room, -, header, -⟩ := around
  have same : ∀ offset, offset ≠ block.start + 2 →
      (heap.setUsed block.start inUse.toNat).mem offset = heap.mem offset :=
    fun offset apart => store_same apart
  refine Holds.replace [block] [⟨block.start, block.stop, inUse⟩] holds before
    ⟨rfl, room, rfl⟩ ⟨rfl, room, rfl⟩ rfl ⟨⟨?_, ?_, ?_, ?_⟩, trivial⟩ ?_ ?_
  · exact (same _ (by simp)).trans header.magic
  · exact store_here ..
  · exact (same _ (by simp)).trans header.next
  · exact (same _ (by simp)).trans header.prev
  · rintro offset (low | ⟨high, other⟩)
    · exact same offset (by omega)
    · exact same offset (by omega)
  · intro behind
    exact (same _ (by omega)).trans (back behind)

theorem setMagic_self (magic : heap.magic block.start = heapMagic) :
    heap.setMagic block.start heapMagic = heap := by
  rw [setMagic, store, ← magic, Heap.magic, Function.update_eq_self]

/-- The blocks from a boundary on. -/
theorem Holds.onward {lo : Nat} (holds : heap.Holds blocks)
    (boundary : lo = heap.heapEnd ∨ ∃ block ∈ blocks, block.start = lo) :
    ∃ first second, blocks = first ++ second ∧ Tiles leastBlock 0 first lo ∧
      Tiles leastBlock lo second heap.heapEnd ∧
      heap.Linked (lastStart 0 first) second := by
  rcases boundary with rfl | ⟨block, member, rfl⟩
  · exact ⟨blocks, [], (List.append_nil _).symm, holds.tiles, rfl, trivial⟩
  · obtain ⟨first, second, rfl⟩ := List.append_of_mem member
    obtain ⟨before, room, after, header, linked⟩ := holds.around
    exact ⟨first, block :: second, rfl, before, ⟨rfl, room, after⟩, header,
      linked⟩

theorem Holds.congr (holds : heap.Holds blocks)
    (size : other.memSizeAligned = heap.memSizeAligned)
    (same : other.mem = heap.mem) : other.Holds blocks := by
  have sameEnd : other.heapEnd = heap.heapEnd := by rw [heapEnd, heapEnd, size]
  obtain ⟨tiles, linked, endUsed, endNext⟩ := holds
  refine ⟨sameEnd ▸ tiles, linked.of_same tiles fun offset _ _ => by rw [same],
    ?_, ?_⟩
  · rw [sameEnd, used, same]
    exact endUsed
  · rw [sameEnd, next, same]
    exact endNext

theorem Holds.length_lt (holds : heap.Holds blocks) :
    blocks.length < heap.fuel := by
  have count : 0 + blocks.length * 16 ≤ heap.memSizeAligned + 12 :=
    holds.tiles.count
  unfold fuel
  omega

end Cut

end Heap

end Ch32v307.Kernel
