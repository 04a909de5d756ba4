import Mathlib.Data.List.Find
import Mathlib.Data.Set.Insert
import Ch32v307.Kernel.HeapBlocks

namespace Ch32v307.Kernel

open Data Tiling

namespace Heap

/-! What the calls do to the blocks. -/

def inUse (blocks : List Block) : Set Block :=
  {block | block ∈ blocks ∧ block.label = true}

def usedBytes : List Block → Nat
  | [] => 0
  | block :: rest => (if block.label then block.length else 0) + usedBytes rest

/-- The heap but for free blocks that are neighbours. -/
structure Settled (heap : Heap) (blocks : List Block) : Prop where
  holds : heap.Holds blocks
  lowFree : heap.LowFree blocks
  counted : heap.usedMem = usedBytes blocks
  peak : heap.usedMem ≤ heap.maxMem
  aligned : ∀ block ∈ blocks, block.start % 4 = 0 ∧ block.stop % 4 = 0
  pointer : heap.heapPtr % 4 = 0
  room : minSize ≤ heap.memSizeAligned
  within : heap.heapPtr + heap.heapEnd + sizeofStructMem ≤ 2 ^ 32

/-- The heap between two calls. `lfree` may be above a free block, but not when
nothing is in use. -/
structure Sound (heap : Heap) (blocks : List Block) : Prop
    extends Settled heap blocks where
  merged : Merged blocks
  idle : (∀ block ∈ blocks, block.label = false) → heap.lfree = 0

/-- The region, and the data in blocks that are in use before and after. -/
structure Frame (heap : Heap) (blocks : List Block) (other : Heap)
    (later : List Block) : Prop where
  heapPtr : other.heapPtr = heap.heapPtr
  memSizeAligned : other.memSizeAligned = heap.memSizeAligned
  data : ∀ block ∈ inUse blocks, ∀ kept ∈ inUse later,
    block.start = kept.start → ∀ offset, block.start + 12 ≤ offset →
      offset < min block.stop kept.stop → other.mem offset = heap.mem offset

section Blocks

variable {heap other : Heap} {blocks later first second : List Block}
  {block : Block}

theorem mem_inUse : block ∈ inUse blocks ↔
    block ∈ blocks ∧ block.label = true := Iff.rfl

theorem inUse_filter (same : later.filter Span.label = blocks.filter Span.label) :
    inUse later = inUse blocks := by
  ext block
  have := congrArg (block ∈ ·) same
  simpa [mem_inUse, List.mem_filter] using this

theorem Around.outside (around : heap.Around first block second)
    (span : Block) (member : span ∈ first ∨ span ∈ second) :
    span.stop ≤ block.start ∧ span.start < block.start ∨
      block.stop ≤ span.start := by
  obtain ⟨before, room, after, -, -⟩ := around
  rcases member with earlier | later
  · have := before.bounds earlier
    have least : leastBlock = 16 := rfl
    exact Or.inl ⟨this.2.2, by omega⟩
  · exact Or.inr (after.bounds later).1

theorem mem_around {span : Block} : span ∈ first ++ block :: second ↔
    span = block ∨ span ∈ first ∨ span ∈ second := by
  simp only [List.mem_append, List.mem_cons]
  tauto

theorem usedBytes_around :
    usedBytes (first ++ block :: second) =
      usedBytes first + (if block.label then block.length else 0) +
        usedBytes second := by
  induction first with
  | nil => simp [usedBytes]
  | cons head rest ih =>
      rw [List.cons_append, usedBytes, usedBytes, ih]
      omega

theorem usedBytes_filter (blocks : List Block) :
    usedBytes (blocks.filter Span.label) = usedBytes blocks := by
  induction blocks with
  | nil => rfl
  | cons block rest ih =>
      cases taken : block.label with
      | false =>
          rw [List.filter_cons_of_neg (by simpa using taken), ih, usedBytes,
            taken, if_neg Bool.false_ne_true, Nat.zero_add]
      | true =>
          rw [List.filter_cons_of_pos (by simpa using taken), usedBytes, ih,
            usedBytes]

/-- A heap of free blocks is one block. -/
theorem Merged.alone (merged : Merged blocks)
    (free : ∀ block ∈ blocks, block.label = false)
    (tiles : Tiles leastBlock 0 blocks heap.heapEnd) :
    blocks = [⟨0, heap.heapEnd, false⟩] := by
  cases blocks with
  | nil =>
      have nothing : 0 = heap.memSizeAligned + 12 := tiles
      omega
  | cons block rest =>
      obtain ⟨start, -, after⟩ := tiles
      have idle := free block (List.mem_cons_self ..)
      cases rest with
      | nil =>
          obtain ⟨from', to', label⟩ := block
          obtain rfl : from' = 0 := start
          obtain rfl : to' = heap.heapEnd := after
          obtain rfl : label = false := idle
          rfl
      | cons next rest =>
          rcases (List.isChain_cons_cons.mp merged).1 with taken | taken
          · rw [idle] at taken
            cases taken
          · rw [free next (by simp)] at taken
            cases taken

theorem Merged.around (merged : Merged (first ++ block :: second)) :
    Merged first ∧ Merged second :=
  ⟨merged.left_of_append, merged.right_of_append.tail⟩

theorem Repacked.settled (packed : Repacked heap blocks other later)
    (settled : heap.Settled blocks) : other.Settled later where
  holds := packed.holds
  lowFree := packed.lowFree settled.lowFree
  counted := by
    rw [packed.usedMem, settled.counted, ← usedBytes_filter, ← packed.inUse,
      usedBytes_filter]
  peak := by
    rw [packed.usedMem, packed.maxMem]
    exact settled.peak
  aligned block member := by
    obtain ⟨⟨left, inLeft, start⟩, right, inRight, stop⟩ :=
      packed.seams block member
    exact ⟨start ▸ (settled.aligned left inLeft).1,
      stop ▸ (settled.aligned right inRight).2⟩
  pointer := packed.heapPtr ▸ settled.pointer
  room := packed.memSizeAligned ▸ settled.room
  within := by
    rw [packed.heapPtr, heapEnd, packed.memSizeAligned]
    exact settled.within

theorem Settled.sound (settled : heap.Settled blocks) (merged : Merged blocks)
    (reached : (∀ block ∈ blocks, block.label = false) →
      heap.lfree ≠ heap.heapEnd) : heap.Sound blocks where
  toSettled := settled
  merged := merged
  idle free := by
    rcases settled.lowFree with atEnd | ⟨block, member, -, start⟩
    · exact absurd atEnd (reached free)
    · rw [merged.alone free settled.holds.tiles, List.mem_singleton] at member
      rw [← start, member]

end Blocks

section Free

variable {heap : Heap} {first second : List Block} {block : Block}

/-- The heap when the block is marked free, before the holes are plugged. -/
def released (heap : Heap) (block : Block) : Heap :=
  { heap.setUsed block.start 0 with
    lfree := if block.start < heap.lfree then block.start else heap.lfree
    usedMem := heap.usedMem - block.length }

theorem rtFree_eq (holds : heap.Holds (first ++ block :: second)) :
    rtFree heap (heap.heapPtr + block.start + sizeofStructMem) =
      plugHoles (heap.released block) block.start := by
  obtain ⟨-, room, after, -, -⟩ := holds.around
  obtain ⟨-, -, -, header, -⟩ := (holds.setUsed false).around
  have ends := after.le
  have length : sizeofStructMem = 12 := rfl
  have position : heap.heapPtr + block.start + sizeofStructMem - heap.heapPtr -
      sizeofStructMem = block.start := by omega
  have next : (heap.setUsed block.start 0).next block.start = block.stop :=
    header.next
  have magic : (heap.setUsed block.start 0).setMagic block.start heapMagic =
      heap.setUsed block.start 0 := setMagic_self header.magic
  rw [rtFree, if_neg (by omega), if_neg (by omega), position]
  have low : (heap.setUsed block.start 0).lfree = heap.lfree := rfl
  dsimp only
  rw [magic, released, Span.length, ← next, low]
  split_ifs <;> rfl

theorem released_holds (holds : heap.Holds (first ++ block :: second)) :
    (heap.released block).Holds
      (first ++ ⟨block.start, block.stop, false⟩ :: second) :=
  (holds.setUsed false).congr rfl rfl

/-- A block given back becomes free, and no other block changes. -/
theorem Sound.free (sound : heap.Sound (first ++ block :: second))
    (taken : block.label = true) :
    ∃ later,
      (rtFree heap (heap.heapPtr + block.start + sizeofStructMem)).Sound later ∧
      (heap.Lowest (first ++ block :: second) →
        (rtFree heap (heap.heapPtr + block.start + sizeofStructMem)).Lowest
          later) ∧
      Frame heap (first ++ block :: second)
        (rtFree heap (heap.heapPtr + block.start + sizeofStructMem)) later ∧
      inUse later = inUse (first ++ block :: second) \ {block} := by
  have room := sound.holds.around.room
  have ends := sound.holds.around.after.le
  have length : sizeofStructMem = 12 := rfl
  rw [rtFree_eq sound.holds]
  obtain ⟨before, after⟩ := sound.merged.around
  obtain ⟨later, packed, merged⟩ :=
    plugHoles_repacked (released_holds sound.holds) rfl before after
  have outside := sound.holds.around.outside
  have settled : (heap.released block).Settled
      (first ++ ⟨block.start, block.stop, false⟩ :: second) := by
    refine ⟨released_holds sound.holds, ?_, ?_, ?_, ?_, sound.pointer, sound.room,
      sound.within⟩
    · by_cases below : block.start < heap.lfree
      · exact Or.inr ⟨_, mem_around.mpr (Or.inl rfl), rfl, (if_pos below).symm⟩
      · rcases sound.lowFree with atEnd | ⟨span, member, free, start⟩
        · omega
        · rcases mem_around.mp member with rfl | member
          · rw [taken] at free
            cases free
          · exact Or.inr ⟨span, mem_around.mpr (Or.inr member), free,
              start.trans (if_neg below).symm⟩
    · have counted := sound.counted
      rw [usedBytes_around, taken, if_pos rfl] at counted
      rw [usedBytes_around, if_neg Bool.false_ne_true]
      show heap.usedMem - block.length = _
      omega
    · exact Nat.le_trans (Nat.sub_le ..) sound.peak
    · intro span member
      rcases mem_around.mp member with rfl | member
      · exact sound.aligned block (mem_around.mpr (Or.inl rfl))
      · exact sound.aligned span (mem_around.mpr (Or.inr member))
  have members : inUse later = inUse (first ++ block :: second) \ {block} := by
    rw [inUse_filter packed.inUse]
    ext span
    simp only [mem_inUse, mem_around, Set.mem_sdiff, Set.mem_singleton_iff]
    constructor
    · rintro ⟨rfl | member, inUse⟩
      · cases inUse
      · refine ⟨⟨Or.inr member, inUse⟩, ?_⟩
        rintro rfl
        have := outside span member
        omega
    · rintro ⟨⟨rfl | member, inUse⟩, other⟩
      · exact absurd rfl other
      · exact ⟨Or.inr member, inUse⟩
  refine ⟨later, (packed.settled settled).sound merged ?_, ?_, ?_, members⟩
  · intro _
    have lowered := packed.lfree
    have below : (heap.released block).lfree ≤ block.start := by
      show (if _ then _ else _) ≤ _
      split_ifs <;> omega
    rw [heapEnd, packed.memSizeAligned]
    exact Nat.ne_of_lt (by show _ < heap.heapEnd; omega)
  · intro lowest
    refine packed.lowest fun span member free => ?_
    show (if _ then _ else _) ≤ _
    rcases mem_around.mp member with rfl | member
    · split_ifs <;> dsimp only <;> omega
    · have := lowest span (mem_around.mpr (Or.inr member)) free
      split_ifs <;> omega
  · refine ⟨packed.heapPtr, packed.memSizeAligned, ?_⟩
    intro span member kept still same offset low high
    rw [members] at still
    obtain rfl := sound.holds.tiles.eq_of_start (by decide) member.1 still.1.1 same
    obtain ⟨⟨member, inUse⟩, other⟩ := still
    have elsewhere := (mem_around.mp member).resolve_left other
    have := outside span elsewhere
    refine (packed.data span (mem_around.mpr (Or.inr elsewhere)) inUse offset low
      (by omega)).trans (store_same ?_)
    omega

end Free

section Take

variable {heap other : Heap} {blocks first second : List Block} {block : Block}
  {size prev : Nat}

/-- `rt_malloc` does not take a block that the request fills to the end of the
heap. -/
def Fits (heap : Heap) (size : Nat) (block : Block) : Prop :=
  block.label = false ∧ block.start + sizeofStructMem + size ≤ block.stop ∧
    block.start + sizeofStructMem + size < heap.heapEnd

instance : DecidablePred (heap.Fits size) := fun _ =>
  inferInstanceAs (Decidable (_ ∧ _))

/-- The first block that fits, from a block on. -/
theorem mallocSearch_eq {lo fuel : Nat}
    (tiles : Tiles leastBlock lo blocks heap.heapEnd)
    (linked : heap.Linked prev blocks) (enough : blocks.length < fuel)
    (within : heap.heapEnd < 2 ^ 32) (fits : size ≤ heap.memSizeAligned) :
    mallocSearch heap size fuel lo =
      some ((blocks.find? fun block => heap.Fits size block).map Span.start) := by
  have length : heap.heapEnd = heap.memSizeAligned + 12 := rfl
  have header : sizeofStructMem = 12 := rfl
  have bound : (heap.memSizeAligned + 2 ^ 32 - size) % 2 ^ 32 =
      heap.memSizeAligned - size := by
    rw [show heap.memSizeAligned + 2 ^ 32 - size =
      heap.memSizeAligned - size + 2 ^ 32 by omega, Nat.add_mod_right]
    exact Nat.mod_eq_of_lt (by omega)
  induction blocks generalizing lo prev fuel with
  | nil =>
      obtain rfl : lo = heap.heapEnd := tiles
      obtain ⟨fuel, rfl⟩ := Nat.exists_eq_add_of_lt enough
      rw [mallocSearch, if_neg (by omega)]
      rfl
  | cons block rest ih =>
      obtain ⟨fuel, rfl⟩ := Nat.exists_eq_add_one_of_ne_zero (by omega : fuel ≠ 0)
      by_cases near : lo < heap.memSizeAligned - size
      · obtain ⟨rfl, room, after⟩ := tiles
        obtain ⟨here, others⟩ := linked
        have room : block.start + 16 ≤ block.stop := room
        rw [mallocSearch, bound, if_pos near, here.used, here.next]
        by_cases fit : heap.Fits size block
        · have found := fit
          obtain ⟨free, space, -⟩ := fit
          rw [List.find?_cons_of_pos (by simpa using found),
            if_pos ⟨by rw [free]; rfl, by omega⟩]
          rfl
        · rw [List.find?_cons_of_neg (by simpa using fit), if_neg]
          · exact ih after others (Nat.lt_of_succ_lt_succ enough)
          · rintro ⟨free, space⟩
            refine fit ⟨?_, by omega, by omega⟩
            simpa using free
      · have none : (block :: rest).find? (fun block => heap.Fits size block) =
            none := by
          rw [List.find?_eq_none]
          intro span member
          have := (tiles.bounds member).1
          rw [decide_eq_true_eq]
          rintro ⟨-, -, short⟩
          omega
        rw [mallocSearch, bound, if_neg near, none]
        rfl

/-- The first free block, from a block on. -/
theorem advanceLfree_eq {fuel : Nat}
    (tiles : Tiles leastBlock heap.lfree blocks heap.heapEnd)
    (linked : heap.Linked prev blocks) (enough : blocks.length < fuel) :
    advanceLfree fuel heap =
      some { heap with
        lfree := ((blocks.find? fun block => !block.label).map
          Span.start).getD heap.heapEnd } := by
  induction blocks generalizing heap prev fuel with
  | nil =>
      obtain ⟨fuel, rfl⟩ := Nat.exists_eq_add_of_lt enough
      have atEnd : heap.lfree = heap.heapEnd := tiles
      rw [advanceLfree, if_neg fun more => more.2 atEnd]
      show some heap = some { heap with lfree := heap.heapEnd }
      rw [← atEnd]
  | cons block rest ih =>
      obtain ⟨fuel, rfl⟩ := Nat.exists_eq_add_one_of_ne_zero (by omega : fuel ≠ 0)
      obtain ⟨here, room, after⟩ := tiles
      obtain ⟨header, others⟩ := linked
      have ends := after.le
      have room : block.start + 16 ≤ block.stop := room
      cases taken : block.label with
      | false =>
          have idle : heap.used heap.lfree = 0 := by
            rw [← here, header.used, taken]
            rfl
          rw [advanceLfree, if_neg fun more => more.1 idle,
            List.find?_cons_of_pos (by simpa using taken)]
          show some heap = some { heap with lfree := block.start }
          rw [here]
      | true =>
          have busy : heap.used heap.lfree ≠ 0 := by
            rw [← here, header.used, taken]
            decide
          rw [advanceLfree, if_pos ⟨busy, by omega⟩,
            List.find?_cons_of_neg (by simpa using taken), ← here, header.next]
          exact ih after (others.of_same after fun _ _ _ => rfl)
            (Nat.lt_of_succ_lt_succ enough)

/-- The block as it is taken, and what is behind it. -/
structure Placed (heap : Heap) (first : List Block) (block : Block)
    (second : List Block) (other : Heap) (stop : Nat) (rest : List Block) :
    Prop where
  holds : other.Holds (first ++ ⟨block.start, stop, true⟩ :: rest)
  rest : stop = block.stop ∧ rest = second ∨
    stop + 16 ≤ block.stop ∧ rest = ⟨stop, block.stop, false⟩ :: second
  same : ∀ offset, offset < block.start ∨ block.stop ≤ offset →
    offset ≠ block.stop + 8 → other.mem offset = heap.mem offset
  lfree : other.lfree = heap.lfree
  heapPtr : other.heapPtr = heap.heapPtr
  memSizeAligned : other.memSizeAligned = heap.memSizeAligned
  usedMem : other.usedMem = heap.usedMem
  maxMem : other.maxMem = heap.maxMem

theorem cut_placed (ptr2 : Nat) (holds : heap.Holds (first ++ block :: second))
    (left : block.start + 16 ≤ ptr2) (right : ptr2 + 16 ≤ block.stop) :
    Placed heap first block second (cut heap block.start ptr2) ptr2
      (⟨ptr2, block.stop, false⟩ :: second) := by
  have cutAt := cut_isCut holds.around.header.next left right
  have same : ∀ offset, offset < block.start ∨ block.stop ≤ offset →
      offset ≠ block.stop + 8 →
      (cut heap block.start ptr2).mem offset = heap.mem offset :=
    fun offset outside other =>
      cutAt.same offset (by omega) (by omega) (by omega) other
  have after := fun size => cutAt.holds holds left right size
  rw [cut, linkMem2_eq] at same after ⊢
  exact ⟨after rfl, Or.inr ⟨right, rfl⟩, same, rfl, rfl, rfl, rfl, rfl⟩

theorem setUsed_placed (holds : heap.Holds (first ++ block :: second)) :
    Placed heap first block second (heap.setUsed block.start 1) block.stop
      second := by
  have room := holds.around.room
  refine ⟨holds.setUsed true, Or.inl ⟨rfl, rfl⟩, ?_, rfl, rfl, rfl, rfl, rfl⟩
  intro offset outside _
  exact store_same (by omega)

theorem setMagic_countUsed {count : Nat}
    (magic : heap.magic block.start = heapMagic) :
    (countUsed heap count).setMagic block.start heapMagic =
      countUsed heap count :=
  setMagic_self magic

/-- `rt_malloc` takes the block, and counts what it takes. -/
theorem mallocTake_eq (holds : heap.Holds (first ++ block :: second))
    (least : 4 ≤ size) (fits : block.start + sizeofStructMem + size ≤ block.stop) :
    ∃ other stop rest, Placed heap first block second other stop rest ∧
      block.start + sizeofStructMem + size ≤ stop ∧
      (stop = block.stop ∨ stop = block.start + sizeofStructMem + size) ∧
      mallocTake heap size block.start =
        countUsed other (stop - block.start) := by
  have next := holds.around.header.next
  have header : sizeofStructMem = 12 := rfl
  have smallest : minSizeAligned = 12 := rfl
  unfold mallocTake
  rw [next]
  by_cases split : block.stop - (block.start + sizeofStructMem) ≥
      size + sizeofStructMem + minSizeAligned
  · have placed := cut_placed (block.start + sizeofStructMem + size) holds
      (by omega) (by omega)
    refine ⟨_, _, _, placed, by omega, Or.inr rfl, ?_⟩
    rw [if_pos split]
    have length : size + sizeofStructMem =
        block.start + sizeofStructMem + size - block.start := by omega
    have magic := placed.holds.around.header.magic
    dsimp only at magic
    rw [length]
    exact setMagic_countUsed magic
  · have placed := setUsed_placed holds
    refine ⟨_, _, _, placed, fits, Or.inl rfl, ?_⟩
    rw [if_neg split]
    have after : (heap.setUsed block.start 1).next block.start = block.stop :=
      placed.holds.around.header.next
    have magic := placed.holds.around.header.magic
    dsimp only at magic ⊢
    rw [after]
    exact setMagic_countUsed magic

theorem Placed.mem_later {stop : Nat} {rest : List Block}
    (placed : Placed heap first block second other stop rest) {span : Block} :
    span ∈ first ++ ⟨block.start, stop, true⟩ :: rest ↔
      span = ⟨block.start, stop, true⟩ ∨ (span ∈ first ∨ span ∈ second) ∨
        span = ⟨stop, block.stop, false⟩ ∧ stop ≠ block.stop := by
  rw [mem_around]
  rcases placed.rest with ⟨rfl, rfl⟩ | ⟨short, rfl⟩
  · simp
  · have apart : stop ≠ block.stop := by omega
    simp only [List.mem_cons, apart, ne_eq, not_false_eq_true, and_true]
    tauto

/-- `rt_malloc` leaves `lfree` at a free block, the lowest one if it was that
before. -/
theorem Placed.advance {stop : Nat} {rest : List Block} (count : Nat)
    (placed : Placed heap first block second other stop rest)
    (low : heap.LowFree (first ++ block :: second))
    (after : heap.lfree ≤ block.start) (order : block.start ≤ stop) :
    ∃ lfree,
      (if block.start = (countUsed other count).lfree then
        advanceLfree (countUsed other count).fuel (countUsed other count)
      else some (countUsed other count)) =
        some { countUsed other count with lfree := lfree } ∧
      Heap.LowFree { countUsed other count with lfree := lfree }
        (first ++ ⟨block.start, stop, true⟩ :: rest) ∧
      (heap.Lowest (first ++ block :: second) →
        Heap.Lowest { countUsed other count with lfree := lfree }
          (first ++ ⟨block.start, stop, true⟩ :: rest)) := by
  have holds : (countUsed other count).Holds
      (first ++ ⟨block.start, stop, true⟩ :: rest) := placed.holds.congr rfl rfl
  have sameEnd : other.heapEnd = heap.heapEnd := by
    rw [heapEnd, heapEnd, placed.memSizeAligned]
  have same : (countUsed other count).lfree = heap.lfree := placed.lfree
  rw [same]
  by_cases here : block.start = heap.lfree
  · have boundary : ∃ span ∈ first ++ ⟨block.start, stop, true⟩ :: rest,
        span.start = heap.lfree := ⟨_, mem_around.mpr (Or.inl rfl), here⟩
    obtain ⟨lower, upper, split, below, tiles, linked⟩ :=
      holds.onward (Or.inr boundary)
    have enough := holds.length_lt
    rw [split, List.length_append] at enough
    refine ⟨_, (if_pos here).trans (advanceLfree_eq (by rw [same]; exact tiles)
      linked (by omega)), ?_, ?_⟩
    · cases found : upper.find? fun span => !span.label with
      | none => exact Or.inl rfl
      | some span =>
          refine Or.inr ⟨span, ?_, ?_, rfl⟩
          · rw [split]
            exact List.mem_append_right _ (List.mem_of_find?_eq_some found)
          · simpa using List.find?_some found
    · intro lowest span member free
      have onward : heap.lfree ≤ span.start := by
        rcases placed.mem_later.mp member with rfl | elsewhere | ⟨rfl, -⟩
        · cases free
        · exact lowest span (mem_around.mpr (Or.inr elsewhere)) free
        · exact Nat.le_trans after order
      have least : leastBlock = 16 := rfl
      rw [split] at member
      rcases List.mem_append.mp member with lower | upper
      · have := below.bounds lower
        omega
      · cases found : List.find? (fun span : Block => !span.label) _ with
        | none =>
            have := List.find?_eq_none.mp found span upper
            rw [free] at this
            exact absurd rfl this
        | some least => exact tiles.find?_le found upper (by rw [free]; rfl)
  · refine ⟨heap.lfree, (if_neg here).trans ?_, ?_, ?_⟩
    · rw [← same]
    · rcases low with atEnd | ⟨span, member, free, start⟩
      · exact Or.inl (atEnd.trans sameEnd.symm)
      · refine Or.inr ⟨span, placed.mem_later.mpr ?_, free, start⟩
        rcases mem_around.mp member with rfl | elsewhere
        · exact absurd start here
        · exact Or.inr (Or.inl elsewhere)
    · intro lowest span member free
      show heap.lfree ≤ span.start
      rcases placed.mem_later.mp member with rfl | elsewhere | ⟨rfl, -⟩
      · cases free
      · exact lowest span (mem_around.mpr (Or.inr elsewhere)) free
      · exact Nat.le_trans after order

theorem Merged.place (merged : Merged (first ++ block :: second))
    (free : block.label = false) (start stop last : Nat) :
    Merged (first ++ ⟨start, stop, true⟩ :: second) ∧
      Merged (first ++ ⟨start, stop, true⟩ :: ⟨stop, last, false⟩ :: second) := by
  obtain ⟨before, behind, seam⟩ := List.isChain_append.mp merged
  obtain ⟨next, after⟩ := List.isChain_cons.mp behind
  constructor
  · refine List.isChain_append.mpr ⟨before, List.isChain_cons.mpr
      ⟨fun _ _ => Or.inl rfl, after⟩, ?_⟩
    intro _ _ right member
    cases member
    exact Or.inr rfl
  · refine List.isChain_append.mpr ⟨before, List.isChain_cons.mpr
      ⟨fun _ _ => Or.inl rfl, List.isChain_cons.mpr ⟨?_, after⟩⟩, ?_⟩
    · intro right member
      rcases next right member with taken | taken
      · rw [free] at taken
        cases taken
      · exact Or.inr taken
    · intro _ _ right member
      cases member
      exact Or.inr rfl

theorem Placed.inUse {stop : Nat} {rest : List Block}
    (placed : Placed heap first block second other stop rest)
    (free : block.label = false) :
    inUse (first ++ ⟨block.start, stop, true⟩ :: rest) =
      insert ⟨block.start, stop, true⟩ (inUse (first ++ block :: second)) := by
  ext span
  rw [Set.mem_insert_iff, mem_inUse, mem_inUse, placed.mem_later, mem_around]
  constructor
  · rintro ⟨rfl | elsewhere | ⟨rfl, -⟩, taken⟩
    · exact Or.inl rfl
    · exact Or.inr ⟨Or.inr elsewhere, taken⟩
    · cases taken
  · rintro (rfl | ⟨rfl | elsewhere, taken⟩)
    · exact ⟨Or.inl rfl, rfl⟩
    · rw [free] at taken
      cases taken
    · exact ⟨Or.inr (Or.inl elsewhere), taken⟩

theorem Placed.usedBytes {stop : Nat} {rest : List Block}
    (placed : Placed heap first block second other stop rest)
    (free : block.label = false) :
    usedBytes (first ++ ⟨block.start, stop, true⟩ :: rest) =
      usedBytes (first ++ block :: second) + (stop - block.start) := by
  have idle : ∀ start stop, Heap.usedBytes (⟨start, stop, false⟩ :: second) =
      Heap.usedBytes second := fun _ _ => Nat.zero_add _
  rw [usedBytes_around, usedBytes_around, free, if_neg Bool.false_ne_true,
    if_pos rfl, Span.length]
  dsimp only
  rcases placed.rest with ⟨-, rfl⟩ | ⟨-, rfl⟩
  · omega
  · rw [idle]
    omega

/-- The heap after a block was taken and counted. -/
theorem Placed.sound {stop lfree : Nat} {rest : List Block}
    (placed : Placed heap first block second other stop rest)
    (sound : heap.Sound (first ++ block :: second))
    (free : block.label = false) (aligned : stop % 4 = 0)
    (low : Heap.LowFree
      { countUsed other (stop - block.start) with lfree := lfree }
      (first ++ ⟨block.start, stop, true⟩ :: rest)) :
    Heap.Sound { countUsed other (stop - block.start) with lfree := lfree }
      (first ++ ⟨block.start, stop, true⟩ :: rest) := by
  refine Settled.sound ⟨placed.holds.congr rfl rfl, low, ?_, ?_, ?_, ?_, ?_, ?_⟩
    ?_ ?_
  · show other.usedMem + _ = _
    rw [placed.usedBytes free, placed.usedMem, sound.counted]
  · exact Nat.le_max_right ..
  · intro span member
    have here := sound.aligned block (mem_around.mpr (Or.inl rfl))
    rcases placed.mem_later.mp member with rfl | elsewhere | ⟨rfl, -⟩
    · exact ⟨here.1, aligned⟩
    · exact sound.aligned span (mem_around.mpr (Or.inr elsewhere))
    · exact ⟨aligned, here.2⟩
  · show other.heapPtr % 4 = 0
    rw [placed.heapPtr]
    exact sound.pointer
  · show minSize ≤ other.memSizeAligned
    rw [placed.memSizeAligned]
    exact sound.room
  · show other.heapPtr + (other.memSizeAligned + _) + _ ≤ _
    rw [placed.heapPtr, placed.memSizeAligned]
    exact sound.within
  · obtain ⟨whole, split⟩ :=
      sound.merged.place free block.start stop block.stop
    rcases placed.rest with ⟨-, rfl⟩ | ⟨-, rfl⟩
    · exact whole
    · exact split
  · intro idle
    cases idle _ (mem_around.mpr (Or.inl rfl))

theorem Placed.frame {stop : Nat} {rest : List Block}
    (placed : Placed heap first block second other stop rest)
    (holds : heap.Holds (first ++ block :: second))
    (free : block.label = false) :
    Frame heap (first ++ block :: second) other
      (first ++ ⟨block.start, stop, true⟩ :: rest) := by
  refine ⟨placed.heapPtr, placed.memSizeAligned, ?_⟩
  have room := holds.around.room
  have outside := holds.around.outside
  intro span member kept still same offset low high
  rcases placed.mem_later.mp still.1 with rfl | elsewhere | ⟨rfl, -⟩
  · have := holds.tiles.eq_of_start (by decide) member.1
      (mem_around.mpr (Or.inl rfl)) same
    rw [this, mem_inUse, free] at member
    cases member.2
  · have := outside kept elsewhere
    exact placed.same offset (by omega) (by omega)
  · cases still.2

end Take

section Malloc

variable {heap : Heap} {blocks : List Block} {block : Block} {size : UInt32}

/-- The request in whole words, three of them at least. -/
def request (size : UInt32) : Nat :=
  if (rtAlign size).toNat < minSizeAligned then minSizeAligned
  else (rtAlign size).toNat

/-- The block `rt_malloc` takes. -/
def candidate (heap : Heap) (blocks : List Block) (size : UInt32) :
    Option Block :=
  if size = 0 ∨ (rtAlign size).toNat > heap.memSizeAligned then none
  else
    blocks.find? fun block =>
      heap.lfree ≤ block.start ∧ heap.Fits (request size) block

/-- Words are aligned by clearing their low two bits. -/
theorem rtAlignDown_toNat (size : UInt32) :
    (rtAlignDown size).toNat = size.toNat / 4 * 4 := by
  have mask : (~~~(rtAlignSize - 1)).toNat = (2 ^ 30 - 1) * 2 ^ 2 := rfl
  have within : size.toNat = size.toNat % 2 ^ 32 :=
    (Nat.mod_eq_of_lt size.toNat_lt).symm
  rw [rtAlignDown, UInt32.toNat_and, mask, within]
  refine Nat.eq_of_testBit_eq fun bit => ?_
  rw [show (4 : Nat) = 2 ^ 2 from rfl, Nat.testBit_and, Nat.testBit_mul_two_pow,
    Nat.testBit_mul_two_pow, Nat.testBit_two_pow_sub_one,
    Nat.testBit_div_two_pow, Nat.testBit_mod_two_pow]
  by_cases low : 2 ≤ bit
  · rw [show bit - 2 + 2 = bit by omega, Nat.testBit_mod_two_pow,
      show decide (bit - 2 < 30) = decide (bit < 32) by
        rw [decide_eq_decide]
        omega]
    cases decide (bit < 32) <;> simp [low]
  · simp [low]

theorem rtAlign_toNat (size : UInt32) :
    (rtAlign size).toNat = (size.toNat + 3) % 2 ^ 32 / 4 * 4 := by
  have sum : (size + rtAlignSize - 1).toNat = (size.toNat + 3) % 2 ^ 32 := by
    rw [UInt32.toNat_sub, UInt32.toNat_add]
    show (2 ^ 32 - 1 + (size.toNat + 4) % 2 ^ 32) % 2 ^ 32 = _
    omega
  rw [← sum]
  exact rtAlignDown_toNat _

theorem request_mod (size : UInt32) : request size % 4 = 0 := by
  unfold request
  split_ifs
  · rfl
  · rw [rtAlign_toNat]
    omega

theorem least_request (size : UInt32) : minSizeAligned ≤ request size := by
  unfold request
  split_ifs
  · exact Nat.le_refl _
  · omega

theorem rtAlign_le_request (size : UInt32) :
    (rtAlign size).toNat ≤ request size := by
  unfold request
  split_ifs <;> omega

/-- The search begins at `lfree`. -/
theorem find?_onward {kind : Block → Prop} [DecidablePred kind] {lo hi : Nat}
    {first second : List Block} (below : Tiles leastBlock 0 first lo)
    (onward : Tiles leastBlock lo second hi) :
    (first ++ second).find? (fun block => lo ≤ block.start ∧ kind block) =
      second.find? fun block => kind block := by
  have least : leastBlock = 16 := rfl
  have lower : first.find? (fun block => lo ≤ block.start ∧ kind block) =
      none := by
    rw [List.find?_eq_none]
    intro block member
    have := below.bounds member
    rw [decide_eq_true_eq]
    omega
  rw [List.find?_append, lower, Option.none_or]
  refine List.find?_congr fun block member => ?_
  have := (onward.bounds member).1
  simp [this]

theorem Sound.search (sound : heap.Sound blocks)
    (small : ¬(rtAlign size).toNat > heap.memSizeAligned) :
    mallocSearch heap (request size) heap.fuel heap.lfree =
      some ((blocks.find? fun block => heap.lfree ≤ block.start ∧
        heap.Fits (request size) block).map Span.start) := by
  have boundary : heap.lfree = heap.heapEnd ∨
      ∃ block ∈ blocks, block.start = heap.lfree := by
    rcases sound.lowFree with atEnd | ⟨block, member, -, start⟩
    · exact Or.inl atEnd
    · exact Or.inr ⟨block, member, start⟩
  obtain ⟨lower, upper, split, below, onward, linked⟩ :=
    sound.holds.onward boundary
  have enough := sound.holds.length_lt
  have within := sound.within
  have header : sizeofStructMem = 12 := rfl
  have fits : request size ≤ heap.memSizeAligned := by
    unfold request
    split_ifs
    · exact sound.room
    · omega
  rw [split, List.length_append] at enough
  rw [mallocSearch_eq onward linked (by omega) (by omega) fits, split,
    find?_onward below onward]

theorem Sound.rtMalloc_eq (sound : heap.Sound blocks) (positive : size ≠ 0)
    (small : ¬(rtAlign size).toNat > heap.memSizeAligned) :
    rtMalloc heap size = mallocFound heap (request size)
      ((blocks.find? fun block => heap.lfree ≤ block.start ∧
        heap.Fits (request size) block).map Span.start) := by
  have search := sound.search small
  unfold rtMalloc
  rw [if_neg positive]
  show (if _ then _ else (mallocSearch heap (request size) heap.fuel
    heap.lfree).bind (mallocFound heap (request size))) = _
  rw [if_neg small, search, Option.bind_some]

theorem Sound.malloc_none (sound : heap.Sound blocks)
    (none : heap.candidate blocks size = none) :
    rtMalloc heap size = some (0, heap) := by
  unfold candidate at none
  by_cases zero : size = 0
  · rw [rtMalloc, if_pos zero]
  · by_cases large : (rtAlign size).toNat > heap.memSizeAligned
    · rw [rtMalloc, if_neg zero]
      exact if_pos large
    · rw [if_neg (fun either => either.elim zero large)] at none
      rw [sound.rtMalloc_eq zero large, none]
      rfl

theorem candidate_some (found : heap.candidate blocks size = some block) :
    size ≠ 0 ∧ ¬(rtAlign size).toNat > heap.memSizeAligned ∧
      (blocks.find? fun block => heap.lfree ≤ block.start ∧
        heap.Fits (request size) block) = some block := by
  unfold candidate at found
  split_ifs at found with refused
  exact ⟨fun zero => refused (Or.inl zero), fun large => refused (Or.inr large),
    found⟩

theorem candidate_free (found : heap.candidate blocks size = some block) :
    block ∈ blocks ∧ block.label = false := by
  obtain ⟨-, -, first⟩ := candidate_some found
  have fit := List.find?_some first
  rw [decide_eq_true_eq] at fit
  exact ⟨List.mem_of_find?_eq_some first, fit.2.1⟩

/-- `rt_malloc` gives the first block that fits, from `lfree` on. -/
theorem Sound.malloc_some (sound : heap.Sound blocks)
    (found : heap.candidate blocks size = some block) :
    ∃ other later stop,
      rtMalloc heap size =
        some (heap.heapPtr + block.start + sizeofStructMem, other) ∧
      other.Sound later ∧ (heap.Lowest blocks → other.Lowest later) ∧
      Frame heap blocks other later ∧
      inUse later = insert ⟨block.start, stop, true⟩ (inUse blocks) ∧
      block.start + sizeofStructMem + request size ≤ stop := by
  obtain ⟨positive, small, first⟩ := candidate_some found
  have fit := List.find?_some first
  rw [decide_eq_true_eq] at fit
  obtain ⟨onward, free, room, -⟩ := fit
  obtain ⟨lower, upper, rfl⟩ :=
    List.append_of_mem (List.mem_of_find?_eq_some first)
  have least := least_request size
  have smallest : minSizeAligned = 12 := rfl
  obtain ⟨other, stop, rest, placed, long, ends, taken⟩ :=
    mallocTake_eq sound.holds (by omega) room
  obtain ⟨lfree, advanced, low, lowest⟩ :=
    placed.advance (stop - block.start) sound.lowFree onward (by omega)
  have aligned : stop % 4 = 0 := by
    obtain ⟨begins, finishes⟩ := sound.aligned block (mem_around.mpr (Or.inl rfl))
    have words := request_mod size
    have header : sizeofStructMem = 12 := rfl
    omega
  have frame := placed.frame sound.holds free
  refine ⟨_, _, stop, ?_, placed.sound sound free aligned low, lowest,
    ⟨frame.heapPtr, frame.memSizeAligned, frame.data⟩, placed.inUse free, long⟩
  rw [sound.rtMalloc_eq positive small, first]
  show mallocFound heap (request size) (some block.start) = _
  dsimp only [mallocFound]
  rw [taken, advanced, Option.map_some]
  dsimp only [countUsed]
  rw [placed.heapPtr]

end Malloc

end Heap

end Ch32v307.Kernel
