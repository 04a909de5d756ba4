import Ch32v307.Kernel.HeapCalls

namespace Ch32v307.Kernel

open Data Tiling

namespace Heap

/-! The heap as it begins, data written to it, and blocks that are cut. -/

section Init

variable {heap : Heap} {beginAddr endAddr : UInt32} {contents : Memory}

/-- What `rt_system_heap_init` writes. -/
theorem init_mem
    (init : rtSystemHeapInit beginAddr endAddr contents = some heap)
    (offset : Nat) :
    heap.mem offset =
      if offset = heap.heapEnd + 8 then heap.heapEnd
      else if offset = heap.heapEnd + 4 then heap.heapEnd
      else if offset = heap.heapEnd + 2 then 1
      else if offset = heap.heapEnd then heapMagic
      else if offset = 2 then 0
      else if offset = 8 then 0
      else if offset = 4 then heap.heapEnd
      else if offset = 0 then heapMagic
      else contents offset := by
  unfold rtSystemHeapInit at init
  dsimp only at init
  split_ifs at init with fits
  obtain rfl := Option.some.inj init
  simp only [setMagic, setUsed, setNext, setPrev, store, Heap.next, heapEnd,
    Function.update_apply]
  rfl

/-- The heap begins as one free block. -/
theorem init_sound
    (init : rtSystemHeapInit beginAddr endAddr contents = some heap)
    (room : minSize ≤ heap.memSizeAligned) :
    heap.Sound [⟨0, heap.heapEnd, false⟩] ∧
      heap.Lowest [⟨0, heap.heapEnd, false⟩] := by
  have written := init_mem init
  have header : sizeofStructMem = 12 := rfl
  have below := (rtAlignDown endAddr).toNat_lt
  have begins : (rtAlign beginAddr).toNat % 4 = 0 := by
    rw [rtAlign_toNat]
    omega
  have ends : (rtAlignDown endAddr).toNat % 4 = 0 := by
    rw [rtAlignDown_toNat]
    omega
  have length : heap.heapEnd = heap.memSizeAligned + 12 := rfl
  have least : 12 ≤ heap.memSizeAligned := room
  unfold rtSystemHeapInit at init
  dsimp only at init
  split_ifs at init with fits
  have start := congrArg Heap.heapPtr (Option.some.inj init)
  have size := congrArg Heap.memSizeAligned (Option.some.inj init)
  have low : 0 = heap.lfree := congrArg Heap.lfree (Option.some.inj init)
  have counted : 0 = heap.usedMem := congrArg Heap.usedMem (Option.some.inj init)
  change (rtAlign beginAddr).toNat = heap.heapPtr at start
  change _ - _ - _ = heap.memSizeAligned at size
  refine ⟨Settled.sound ⟨⟨⟨rfl, ?_, rfl⟩, ⟨⟨?_, ?_, ?_, ?_⟩, trivial⟩, ?_, ?_⟩, ?_,
    ?_, ?_, ?_, ?_, room, ?_⟩ ?_ ?_, ?_⟩
  · show 0 + 16 ≤ heap.heapEnd
    omega
  · simp (disch := omega) only [magic, written, if_neg, if_true]
  · simp (disch := omega) only [used, written, if_neg, if_true, Bool.toNat_false]
  · simp (disch := omega) only [Heap.next, written, if_neg, if_true]
  · simp (disch := omega) only [prev, written, if_neg, if_true]
  · simp (disch := omega) only [used, written, if_neg, if_true]
    decide
  · simp (disch := omega) only [Heap.next, written, if_neg, if_true]
  · exact Or.inr ⟨_, List.mem_singleton_self _, rfl, low⟩
  · exact counted.symm
  · omega
  · intro block member
    obtain rfl := List.mem_singleton.mp member
    refine ⟨rfl, ?_⟩
    show heap.heapEnd % 4 = 0
    omega
  · omega
  · omega
  · exact List.isChain_singleton _
  · intro _
    omega
  · intro block member _
    omega

end Init

section Write

variable {heap : Heap} {blocks : List Block} {block : Block} {mem : Memory}

/-- Data written into a block in use. -/
theorem Sound.write (sound : heap.Sound blocks) (member : block ∈ inUse blocks)
    (same : ∀ offset, offset < block.start + 12 ∨ block.stop ≤ offset →
      mem offset = heap.mem offset) :
    Heap.Sound { heap with mem := mem } blocks := by
  obtain ⟨first, second, rfl⟩ := List.append_of_mem member.1
  have around := sound.holds.around
  have back := around.back
  obtain ⟨before, room, -, header, -⟩ := around
  have holds : Heap.Holds { heap with mem := mem } (first ++ block :: second) := by
    refine Holds.replace [block] [block] sound.holds before ⟨rfl, room, rfl⟩
      ⟨rfl, room, rfl⟩ rfl ⟨header.of_same fun offset _ high =>
        same offset (Or.inl high), trivial⟩ ?_ ?_
    · rintro offset (low | ⟨high, -⟩)
      · exact same offset (Or.inl (by omega))
      · exact same offset (Or.inr high)
    · intro behind
      exact (same _ (Or.inr (by omega))).trans (back behind)
  exact ⟨⟨holds, sound.lowFree, sound.counted, sound.peak, sound.aligned,
    sound.pointer, sound.room, sound.within⟩, sound.merged, sound.idle⟩

end Write

section Cut

variable {heap : Heap} {first second : List Block} {block : Block}
  {newsize : Nat}

/-- A header in use is marked again. -/
theorem setUsed_again {ptr ptr2 : Nat} (used : heap.used ptr = 1)
    (apart : ptr + 12 ≤ ptr2) :
    ((createMem2 heap ptr ptr2).setNext ptr ptr2).setUsed ptr 1 =
      (createMem2 heap ptr ptr2).setNext ptr ptr2 := by
  have kept : ((createMem2 heap ptr ptr2).setNext ptr ptr2).mem (ptr + 2) =
      1 := by
    simp only [createMem2, setMagic, setUsed, setNext, setPrev]
    rw [store_same (by omega), store_same (by omega), store_same (by omega),
      store_same (by omega), store_same (by omega)]
    exact used
  rw [setUsed, store, ← kept, Function.update_eq_self]

theorem cut_usedMem (heap : Heap) (ptr ptr2 usedMem : Nat) :
    cut { heap with usedMem := usedMem } ptr ptr2 =
      { cut heap ptr ptr2 with usedMem := usedMem } := by
  rw [cut, cut, linkMem2_eq, linkMem2_eq]
  rfl

theorem reallocCut_eq (holds : heap.Holds (first ++ block :: second))
    (taken : block.label = true) :
    reallocCut heap block.start newsize =
      plugHoles
        { cut heap block.start (block.start + sizeofStructMem + newsize) with
          usedMem := heap.usedMem -
            (block.stop - (block.start + sizeofStructMem + newsize)) }
        (block.start + sizeofStructMem + newsize) := by
  have header := holds.around.header
  have length : sizeofStructMem = 12 := rfl
  have inUse : ∀ usedMem,
      Heap.used { heap with usedMem := usedMem } block.start = 1 := by
    intro usedMem
    refine header.used.trans ?_
    rw [taken]
    rfl
  have left : block.stop - block.start - sizeofStructMem - newsize =
      block.stop - (block.start + sizeofStructMem + newsize) := by omega
  rw [← cut_usedMem, reallocCut, header.next, cut, left,
    setUsed_again (inUse _) (by omega)]

/-- The heap with the block cut, before the holes are plugged. -/
theorem Sound.cut_settled {other : Heap} {stop : Nat}
    (sound : heap.Sound (first ++ block :: second))
    (taken : block.label = true) (left : block.start + 16 ≤ stop)
    (right : stop + 16 ≤ block.stop) (words : stop % 4 = 0)
    (placed : Placed heap first block second other stop
      (⟨stop, block.stop, false⟩ :: second)) :
    Heap.Settled { other with usedMem := heap.usedMem - (block.stop - stop) }
      (first ++ ⟨block.start, stop, true⟩ :: ⟨stop, block.stop, false⟩ ::
        second) := by
  have idle : usedBytes (⟨stop, block.stop, false⟩ :: second) =
      usedBytes second := Nat.zero_add _
  refine ⟨placed.holds.congr rfl rfl, ?_, ?_, ?_, ?_, ?_, ?_, ?_⟩
  · rcases sound.lowFree with atEnd | ⟨span, member, free, start⟩
    · refine Or.inl (placed.lfree.trans (atEnd.trans ?_))
      rw [heapEnd, ← placed.memSizeAligned]
      rfl
    · rcases mem_around.mp member with rfl | elsewhere
      · rw [taken] at free
        cases free
      · exact Or.inr ⟨span, placed.mem_later.mpr (Or.inr (Or.inl elsewhere)),
          free, start.trans placed.lfree.symm⟩
  · have counted := sound.counted
    rw [usedBytes_around, taken, if_pos rfl, Span.length] at counted
    rw [usedBytes_around, if_pos rfl, idle, Span.length]
    dsimp only
    omega
  · have peak := sound.peak
    rw [← placed.maxMem] at peak
    exact Nat.le_trans (Nat.sub_le ..) peak
  · intro span member
    have here := sound.aligned block (mem_around.mpr (Or.inl rfl))
    rcases placed.mem_later.mp member with rfl | elsewhere | ⟨rfl, -⟩
    · exact ⟨here.1, words⟩
    · exact sound.aligned span (mem_around.mpr (Or.inr elsewhere))
    · exact ⟨words, here.2⟩
  · exact placed.heapPtr ▸ sound.pointer
  · exact placed.memSizeAligned ▸ sound.room
  · show other.heapPtr + (other.memSizeAligned + _) + _ ≤ _
    rw [placed.heapPtr, placed.memSizeAligned]
    exact sound.within

/-- A block that is cut keeps its data up to the cut. -/
theorem Sound.cut (sound : heap.Sound (first ++ block :: second))
    (taken : block.label = true) (least : 4 ≤ newsize)
    (words : newsize % 4 = 0)
    (short : block.start + sizeofStructMem + newsize + 16 ≤ block.stop) :
    ∃ later,
      (reallocCut heap block.start newsize).Sound later ∧
      Frame heap (first ++ block :: second)
        (reallocCut heap block.start newsize) later ∧
      inUse later =
        insert ⟨block.start, block.start + sizeofStructMem + newsize, true⟩
          (inUse (first ++ block :: second) \ {block}) := by
  have header : sizeofStructMem = 12 := rfl
  have begins := (sound.aligned block (mem_around.mpr (Or.inl rfl))).1
  have outside := sound.holds.around.outside
  rw [reallocCut_eq sound.holds taken]
  generalize cutAt : block.start + sizeofStructMem + newsize = ptr2
  have placed := cut_placed ptr2 sound.holds (by omega) (by omega)
  have isCut := cut_isCut sound.holds.around.header.next
    (by omega : block.start + 16 ≤ ptr2) (by omega)
  have settled := sound.cut_settled taken (by omega) (by omega) (by omega) placed
  obtain ⟨before, after⟩ := sound.merged.around
  have front : Merged (first ++ [⟨block.start, ptr2, true⟩]) := by
    refine List.IsChain.append before (List.isChain_singleton _) ?_
    intro _ _ right member
    cases member
    exact Or.inr rfl
  have split : first ++ ⟨block.start, ptr2, true⟩ :: ⟨ptr2, block.stop, false⟩ ::
      second = (first ++ [⟨block.start, ptr2, true⟩]) ++
        ⟨ptr2, block.stop, false⟩ :: second := by simp
  obtain ⟨later, packed, merged⟩ :=
    plugHoles_repacked (split ▸ settled.holds) rfl front after
  rw [← split] at packed
  have members : inUse later = insert ⟨block.start, ptr2, true⟩
      (inUse (first ++ block :: second) \ {block}) := by
    rw [inUse_filter packed.inUse]
    ext span
    rw [Set.mem_insert_iff, Set.mem_sdiff, Set.mem_singleton_iff, mem_inUse,
      mem_inUse, placed.mem_later, mem_around]
    constructor
    · rintro ⟨rfl | elsewhere | ⟨rfl, -⟩, used⟩
      · exact Or.inl rfl
      · refine Or.inr ⟨⟨Or.inr elsewhere, used⟩, ?_⟩
        rintro rfl
        have := outside span elsewhere
        omega
      · cases used
    · rintro (rfl | ⟨⟨rfl | elsewhere, used⟩, other⟩)
      · exact ⟨Or.inl rfl, rfl⟩
      · exact absurd rfl other
      · exact ⟨Or.inr (Or.inl elsewhere), used⟩
  refine ⟨later, (packed.settled settled).sound merged ?_, ⟨?_, ?_, ?_⟩, members⟩
  · intro idle
    have still : (⟨block.start, ptr2, true⟩ : Block) ∈ inUse later :=
      members ▸ Set.mem_insert ..
    cases idle _ still.1
  · exact packed.heapPtr.trans placed.heapPtr
  · exact packed.memSizeAligned.trans placed.memSizeAligned
  · intro span member kept still same offset low high
    have moved : kept ∈ first ++ ⟨block.start, ptr2, true⟩ ::
        ⟨ptr2, block.stop, false⟩ :: second ∧ kept.label = true := by
      rwa [inUse_filter packed.inUse] at still
    refine (packed.data kept moved.1 moved.2 offset (by omega) (by omega)).trans ?_
    rcases placed.mem_later.mp moved.1 with rfl | elsewhere | ⟨rfl, -⟩
    · dsimp only at same high
      exact isCut.same offset (by omega) (by omega) (by omega) (by omega)
    · have := outside kept elsewhere
      exact placed.same offset (by omega) (by omega)
    · cases moved.2

end Cut

end Heap

end Ch32v307.Kernel
