import Ch32v307.Data.Run
import Ch32v307.Kernel.HeapRealloc

namespace Ch32v307.Kernel

open Data Tiling

/-! Programs that call the heap, and what they were promised. -/

inductive Call
  | malloc (size : UInt32)
  | calloc (count size : UInt32)
  | realloc (rmem : Nat) (newsize : UInt32)
  | free (rmem : Nat)
  | write (rmem index value : Nat)

/-- The bytes a program may use at an address. -/
abbrev Ledger := Nat → Option (List Nat)

structure Session where
  heap : Heap
  live : Ledger

namespace Heap

/-- What a program reads at an address. -/
def bytes (heap : Heap) (rmem count : Nat) : List Nat :=
  (List.range count).map fun index => heap.mem (rmem - heap.heapPtr + index)

end Heap

open Heap

/-- The address the call returns, and what the program then owns: new bytes as
they are found, zeros from `rt_calloc`, and from `rt_realloc` the old bytes
first. -/
def Session.invoke (session : Session) : Call → Option (Nat × Session)
  | .malloc size =>
      (rtMalloc session.heap size).map fun (rmem, heap) =>
        (rmem, ⟨heap,
          if rmem = 0 then session.live
          else Function.update session.live rmem
            (some (heap.bytes rmem size.toNat))⟩)
  | .calloc count size =>
      (rtCalloc session.heap count size).map fun (rmem, heap) =>
        (rmem, ⟨heap,
          if rmem = 0 then session.live
          else Function.update session.live rmem
            (some (List.replicate (count.toNat * size.toNat) 0))⟩)
  | .realloc rmem newsize =>
      (rtRealloc session.heap rmem newsize).map fun (nmem, heap) =>
        let old := (session.live rmem).getD []
        let size := newsize.toNat
        (nmem, ⟨heap,
          if size = 0 then Function.update session.live rmem none
          else if nmem = 0 then session.live
          else Function.update (Function.update session.live rmem none) nmem
            (some (old.take size ++ (heap.bytes nmem size).drop old.length))⟩)
  | .free rmem =>
      some (0, ⟨rtFree session.heap rmem,
        Function.update session.live rmem none⟩)
  | .write rmem index value =>
      some (0, ⟨session.heap.store (rmem - session.heap.heapPtr + index) value,
        Function.update session.live rmem
          ((session.live rmem).map fun contents => contents.set index value)⟩)

/-- What a program may call: pointers it owns or `RT_NULL`, bytes it owns, and
sizes that `RT_ALIGN` does not wrap. -/
def Session.Allowed (session : Session) : Call → Prop
  | .malloc size => size.toNat + 3 < 2 ^ 32
  | .calloc count size => count.toNat * size.toNat + 3 < 2 ^ 32
  | .realloc rmem newsize =>
      (rmem = 0 ∨ (session.live rmem).isSome) ∧ newsize.toNat + 3 < 2 ^ 32
  | .free rmem => rmem = 0 ∨ (session.live rmem).isSome
  | .write rmem index _ =>
      ∃ contents, session.live rmem = some contents ∧ index < contents.length

instance (session : Session) : ∀ call, Decidable (session.Allowed call)
  | .malloc _ => inferInstanceAs (Decidable (_ < _))
  | .calloc _ _ => inferInstanceAs (Decidable (_ < _))
  | .realloc _ _ => inferInstanceAs (Decidable ((_ ∨ _) ∧ _))
  | .free _ => inferInstanceAs (Decidable (_ ∨ _))
  | .write rmem index _ =>
      match owns : session.live rmem with
      | none => isFalse fun ⟨_, found, _⟩ => nomatch owns.symm.trans found
      | some contents =>
          decidable_of_iff (index < contents.length)
            ⟨fun inside => ⟨contents, owns, inside⟩, fun ⟨_, found, inside⟩ =>
              Option.some.inj (owns.symm.trans found) ▸ inside⟩

/-- Where the data of a block begins. -/
def Heap.dataOf (heap : Heap) (block : Block) : Nat :=
  heap.heapPtr + block.start + sizeofStructMem

/-- The program owns the data of the blocks in use, and they hold what it was
promised. -/
structure Session.Backed (region : Nat × Nat) (session : Session)
    (blocks : List Block) : Prop where
  region : (session.heap.heapPtr, session.heap.memSizeAligned) = region
  sound : session.heap.Sound blocks
  owned : ∀ rmem contents, session.live rmem = some contents →
    ∃ block ∈ inUse blocks, rmem = session.heap.dataOf block ∧
      block.start + sizeofStructMem + contents.length ≤ block.stop ∧
      session.heap.bytes rmem contents.length = contents
  known : ∀ block ∈ inUse blocks, (session.live (session.heap.dataOf block)).isSome

section Bytes

variable {heap other : Heap} {blocks later : List Block} {block kept : Block}
  {rmem count : Nat}

@[simp] theorem bytes_length : (heap.bytes rmem count).length = count := by
  simp [bytes]

theorem bytes_congr (region : other.heapPtr = heap.heapPtr)
    (same : ∀ index < count, other.mem (rmem - heap.heapPtr + index) =
      heap.mem (rmem - heap.heapPtr + index)) :
    other.bytes rmem count = heap.bytes rmem count := by
  rw [bytes, bytes, region]
  exact List.map_congr_left fun index member => same index (List.mem_range.mp member)

theorem store_bytes {index value : Nat} :
    (heap.store (rmem - heap.heapPtr + index) value).bytes rmem count =
      (heap.bytes rmem count).set index value := by
  refine List.ext_getElem (by simp) fun position inside _ => ?_
  rw [bytes_length] at inside
  rw [List.getElem_set]
  simp only [bytes, List.getElem_map, List.getElem_range]
  by_cases here : index = position
  · subst here
    rw [if_pos rfl]
    exact store_here ..
  · rw [if_neg here]
    refine store_same fun same => here ?_
    exact (Nat.add_left_cancel same).symm

theorem dataOf_offset : heap.dataOf block - heap.heapPtr = block.start + 12 := by
  have : sizeofStructMem = 12 := rfl
  unfold dataOf
  omega

theorem dataOf_ne_zero : heap.dataOf block ≠ 0 := by
  have : sizeofStructMem = 12 := rfl
  unfold dataOf
  omega

theorem start_eq_of_dataOf (same : heap.dataOf block = heap.dataOf kept) :
    block.start = kept.start := by
  unfold dataOf at same
  omega

/-- What is kept of a block is read as before. -/
theorem Heap.Frame.bytes (frame : Frame heap blocks other later)
    (before : block ∈ inUse blocks) (after : kept ∈ inUse later)
    (start : block.start = kept.start)
    (room : block.start + sizeofStructMem + count ≤ min block.stop kept.stop) :
    other.bytes (heap.dataOf block) count =
      heap.bytes (heap.dataOf block) count := by
  have : sizeofStructMem = 12 := rfl
  refine bytes_congr frame.heapPtr fun index inside => ?_
  rw [dataOf_offset]
  exact frame.data block before kept after start _ (by omega) (by omega)

end Bytes

section Backed

variable {region : Nat × Nat} {heap : Heap} {live : Ledger} {blocks : List Block} {block : Block}

theorem Session.Backed.block_eq (backed : Session.Backed region ⟨heap, live⟩ blocks)
    {kept : Block} (left : block ∈ blocks) (right : kept ∈ blocks)
    (same : heap.dataOf block = heap.dataOf kept) : block = kept :=
  backed.sound.holds.tiles.eq_of_start (by decide) left right
    (start_eq_of_dataOf same)

/-- A call changes what is owned at one address, and the blocks of the others
stay. -/
theorem Session.Backed.step (backed : Session.Backed region ⟨heap, live⟩ blocks)
    {other : Heap} {later : List Block} {rmem : Nat}
    {now : Option (List Nat)} (sound : other.Sound later)
    (start : other.heapPtr = heap.heapPtr)
    (size : other.memSizeAligned = heap.memSizeAligned)
    (stay : ∀ block, heap.dataOf block ≠ rmem →
      (block ∈ inUse later ↔ block ∈ inUse blocks))
    (keeps : ∀ block ∈ inUse blocks, heap.dataOf block ≠ rmem → ∀ count,
      block.start + sizeofStructMem + count ≤ block.stop →
        other.bytes (heap.dataOf block) count =
          heap.bytes (heap.dataOf block) count)
    (here : ∀ contents, now = some contents →
      ∃ block ∈ inUse later, rmem = heap.dataOf block ∧
        block.start + sizeofStructMem + contents.length ≤ block.stop ∧
        other.bytes rmem contents.length = contents)
    (gone : now = none → ∀ block ∈ inUse later, heap.dataOf block ≠ rmem) :
    Session.Backed region ⟨other, Function.update live rmem now⟩ later := by
  have dataOf : ∀ block, other.dataOf block = heap.dataOf block := fun block => by
    rw [Heap.dataOf, Heap.dataOf, start]
  have place : (other.heapPtr, other.memSizeAligned) = region := by
    rw [start, size]
    exact backed.region
  refine ⟨place, sound, ?_, ?_⟩
  · intro address contents owns
    dsimp only at owns
    by_cases same : address = rmem
    · subst same
      rw [Function.update_self] at owns
      obtain ⟨block, member, address, room, read⟩ := here contents owns
      exact ⟨block, member, address.trans (dataOf block).symm, room, read⟩
    · rw [Function.update_of_ne same] at owns
      obtain ⟨block, member, rfl, room, read⟩ := backed.owned address contents owns
      exact ⟨block, (stay block same).mpr member, (dataOf block).symm, room,
        (keeps block member same _ room).trans read⟩
  · intro block member
    show (Function.update live rmem now (other.dataOf block)).isSome
    rw [dataOf]
    by_cases same : heap.dataOf block = rmem
    · rw [same, Function.update_self]
      cases now with
      | none => exact absurd same (gone rfl block member)
      | some contents => rfl
    · rw [Function.update_of_ne same]
      exact backed.known block ((stay block same).mp member)

theorem Session.Backed.malloc (backed : Session.Backed region ⟨heap, live⟩ blocks)
    (size : UInt32) {count : Nat} (enough : count ≤ request size) :
    rtMalloc heap size = some (0, heap) ∨
      ∃ other later rmem, rtMalloc heap size = some (rmem, other) ∧ rmem ≠ 0 ∧
        live rmem = none ∧ (heap.Lowest blocks → other.Lowest later) ∧
        Session.Backed region ⟨other, Function.update live rmem
          (some (other.bytes rmem count))⟩ later := by
  cases found : heap.candidate blocks size with
  | none => exact Or.inl (backed.sound.malloc_none found)
  | some block =>
      obtain ⟨member, free⟩ := candidate_free found
      obtain ⟨other, later, stop, taken, sound, lowest, frame, inUse, room⟩ :=
        backed.sound.malloc_some found
      have fresh : ∀ kept ∈ Heap.inUse blocks,
          heap.dataOf kept ≠ heap.dataOf block := by
        intro kept used same
        have := backed.block_eq used.1 member same
        rw [this, mem_inUse, free] at used
        cases used.2
      have stay : ∀ kept, heap.dataOf kept ≠ heap.dataOf block →
          (kept ∈ Heap.inUse later ↔ kept ∈ Heap.inUse blocks) := by
        intro kept other
        rw [inUse, Set.mem_insert_iff]
        refine or_iff_right ?_
        rintro rfl
        exact other rfl
      refine Or.inr ⟨other, later, _, taken, dataOf_ne_zero, ?_, lowest,
        backed.step sound frame.heapPtr frame.memSizeAligned stay
          (fun kept used other count room => frame.bytes used
            ((stay kept other).mpr used) rfl (by omega)) ?_ ?_⟩
      · cases owns : live (heap.dataOf block) with
        | none => exact owns
        | some contents =>
            obtain ⟨kept, used, same, -⟩ := backed.owned _ contents owns
            exact absurd same.symm (fresh kept used)
      · intro contents now
        obtain rfl := Option.some.inj now
        refine ⟨⟨block.start, stop, true⟩, inUse ▸ Set.mem_insert .., rfl, ?_, ?_⟩
        · rw [bytes_length]
          exact Nat.le_trans (Nat.add_le_add_left enough _) room
        · rw [bytes_length]
      · intro now
        cases now

theorem Session.Backed.free (backed : Session.Backed region ⟨heap, live⟩ blocks)
    {rmem : Nat} {contents : List Nat} (owns : live rmem = some contents) :
    ∃ later, Session.Backed region
      ⟨rtFree heap rmem, Function.update live rmem none⟩ later ∧
      (heap.Lowest blocks → (rtFree heap rmem).Lowest later) := by
  obtain ⟨block, member, rfl, -⟩ := backed.owned rmem contents owns
  obtain ⟨first, second, rfl⟩ := List.append_of_mem member.1
  obtain ⟨later, sound, lowest, frame, inUse⟩ := backed.sound.free member.2
  have stay : ∀ kept, heap.dataOf kept ≠ heap.dataOf block →
      (kept ∈ Heap.inUse later ↔ kept ∈ Heap.inUse (first ++ block :: second)) := by
    intro kept other
    rw [inUse, Set.mem_sdiff, Set.mem_singleton_iff]
    refine and_iff_left ?_
    rintro rfl
    exact other rfl
  refine ⟨later, backed.step sound frame.heapPtr frame.memSizeAligned stay
    (fun kept used other count room => frame.bytes used
      ((stay kept other).mpr used) rfl (by omega)) ?_ ?_, lowest⟩
  · intro contents now
    cases now
  · intro _ kept still same
    rw [inUse] at still
    exact still.2 (backed.block_eq still.1.1 member.1 same)

/-- Data written at an address the program owns, or read there again. -/
theorem Session.Backed.fill (backed : Session.Backed region ⟨heap, live⟩ blocks)
    (member : block ∈ inUse blocks) {mem : Memory}
    (same : ∀ offset, offset < block.start + 12 ∨ block.stop ≤ offset →
      mem offset = heap.mem offset)
    {contents : List Nat}
    (room : block.start + sizeofStructMem + contents.length ≤ block.stop)
    (read : Heap.bytes { heap with mem := mem } (heap.dataOf block)
      contents.length = contents) :
    Session.Backed region ⟨{ heap with mem := mem },
      Function.update live (heap.dataOf block) (some contents)⟩ blocks := by
  have header : sizeofStructMem = 12 := rfl
  have sound := backed.sound.write member same
  refine backed.step sound rfl rfl (fun kept _ => Iff.rfl) ?_ ?_ ?_
  · intro kept used other count room
    refine bytes_congr rfl fun index inside => ?_
    rw [dataOf_offset]
    refine same _ ?_
    rcases backed.sound.holds.tiles.apart used.1 member.1 with equal | below | above
    · rw [equal] at other
      exact absurd rfl other
    · omega
    · omega
  · intro found now
    obtain rfl := Option.some.inj now
    exact ⟨block, member, rfl, room, read⟩
  · intro now
    cases now

/-- A block cut by `rt_realloc`. -/
theorem Session.Backed.cut (backed : Session.Backed region ⟨heap, live⟩ blocks)
    (member : block ∈ inUse blocks) {newsize count : Nat} (least : 4 ≤ newsize)
    (words : newsize % 4 = 0)
    (short : block.start + sizeofStructMem + newsize + 16 ≤ block.stop)
    (fewer : count ≤ newsize) :
    (∃ later, Session.Backed region ⟨reallocCut heap block.start newsize,
      Function.update live (heap.dataOf block)
        (some (heap.bytes (heap.dataOf block) count))⟩ later) ∧
      (reallocCut heap block.start newsize).bytes (heap.dataOf block) count =
        heap.bytes (heap.dataOf block) count := by
  obtain ⟨first, second, rfl⟩ := List.append_of_mem member.1
  obtain ⟨later, sound, frame, inUse⟩ :=
    backed.sound.cut member.2 least words short
  have stay : ∀ kept, heap.dataOf kept ≠ heap.dataOf block →
      (kept ∈ Heap.inUse later ↔ kept ∈ Heap.inUse (first ++ block :: second)) := by
    intro kept other
    rw [inUse, Set.mem_insert_iff, Set.mem_sdiff, Set.mem_singleton_iff]
    constructor
    · rintro (rfl | ⟨used, -⟩)
      · exact absurd rfl other
      · exact used
    · intro used
      refine Or.inr ⟨used, ?_⟩
      rintro rfl
      exact other rfl
  have still : (⟨block.start, block.start + sizeofStructMem + newsize, true⟩ :
      Block) ∈ Heap.inUse later := inUse ▸ Set.mem_insert ..
  have kept : (reallocCut heap block.start newsize).bytes (heap.dataOf block)
      count = heap.bytes (heap.dataOf block) count :=
    frame.bytes member still rfl (by dsimp only; omega)
  refine ⟨⟨later, backed.step sound frame.heapPtr frame.memSizeAligned stay
    (fun kept used other count room => frame.bytes used
      ((stay kept other).mpr used) rfl (by omega)) ?_ ?_⟩, kept⟩
  · intro contents now
    obtain rfl := Option.some.inj now
    refine ⟨_, still, rfl, ?_, ?_⟩
    · rw [bytes_length]
      exact Nat.add_le_add_left fewer _
    · rw [bytes_length]
      exact kept
  · intro now
    cases now

theorem Session.Backed.live_zero (backed : Session.Backed region ⟨heap, live⟩ blocks) :
    live 0 = none := by
  cases owns : live 0 with
  | none => rfl
  | some contents =>
      obtain ⟨block, -, same, -⟩ := backed.owned 0 contents owns
      exact absurd same.symm dataOf_ne_zero

/-- The old bytes first, then those that are found. -/
theorem resume {old found : List Nat} {count : Nat}
    (begins : found.take old.length = old.take count) :
    old.take count ++ found.drop old.length = found := by
  rw [← begins, List.take_append_drop]

theorem bytes_resume {other : Heap} {rmem count : Nat} {old : List Nat}
    (read : other.bytes rmem old.length = old) :
    (other.bytes rmem count).take old.length = old.take count := by
  conv_rhs => rw [← read]
  rw [bytes, bytes, ← List.map_take, ← List.map_take, List.take_range,
    List.take_range, Nat.min_comm]

end Backed

theorem request_rtAlign (newsize : UInt32) :
    (rtAlign newsize).toNat ≤ request (rtAlign newsize) := by
  refine Nat.le_trans ?_ (rtAlign_le_request _)
  rw [rtAlign_toNat (rtAlign newsize)]
  have words := rtAlign_toNat newsize
  omega

section Realloc

variable {region : Nat × Nat} {heap : Heap} {live : Ledger} {blocks : List Block} {block : Block}

/-- `rt_realloc` finds the header of a block the program owns. -/
theorem Session.Backed.rtRealloc_eq
    (backed : Session.Backed region ⟨heap, live⟩ blocks) (member : block ∈ inUse blocks)
    (newsize : UInt32) (small : ¬(rtAlign newsize).toNat > heap.memSizeAligned)
    (positive : rtAlign newsize ≠ 0) :
    rtRealloc heap (heap.dataOf block) newsize =
      if block.stop - block.start - sizeofStructMem = (rtAlign newsize).toNat then
        some (heap.dataOf block, heap)
      else if (rtAlign newsize).toNat + sizeofStructMem + minSize <
          block.stop - block.start - sizeofStructMem then
        some (heap.dataOf block,
          reallocCut heap block.start (rtAlign newsize).toNat)
      else
        (rtMalloc heap (rtAlign newsize)).map fun (nmem, other) =>
          if nmem ≠ 0 then
            (nmem, rtFree (copyBytes other nmem (heap.dataOf block)
              (min (block.stop - block.start - sizeofStructMem)
                (rtAlign newsize).toNat)) (heap.dataOf block))
          else (nmem, other) := by
  obtain ⟨first, second, rfl⟩ := List.append_of_mem member.1
  have around : heap.Around first block second := backed.sound.holds.around
  have ends := around.after.le
  have room := around.room
  have length : sizeofStructMem = 12 := rfl
  have ptr : heap.dataOf block - sizeofStructMem - heap.heapPtr =
      block.start := by
    unfold dataOf
    omega
  have inside : ¬(heap.dataOf block < heap.heapPtr ∨
      heap.dataOf block ≥ heap.heapPtr + heap.heapEnd) := by
    unfold dataOf
    omega
  unfold rtRealloc
  dsimp only
  rw [if_neg small, if_neg positive, if_neg dataOf_ne_zero, if_neg inside, ptr,
    around.header.next]

/-- The block is kept, whole or cut. -/
theorem Session.Backed.resized {other : Heap} {later : List Block}
    {rmem count : Nat} {old : List Nat}
    (backed : Session.Backed region ⟨other, Function.update live rmem
      (some (other.bytes rmem count))⟩ later)
    (begins : (other.bytes rmem count).take old.length = old.take count) :
    Session.Backed region ⟨other, Function.update (Function.update live rmem none) rmem
      (some (old.take count ++ (other.bytes rmem count).drop old.length))⟩
      later := by
  rw [Function.update_idem, resume begins]
  exact backed

/-- The block is moved. -/
theorem Session.Backed.moved (backed : Session.Backed region ⟨heap, live⟩ blocks)
    {old : List Nat} (owns : live (heap.dataOf block) = some old)
    (capacity : block.start + sizeofStructMem + old.length ≤ block.stop)
    {newsize : UInt32} (fits : newsize.toNat ≤ (rtAlign newsize).toNat) :
    rtMalloc heap (rtAlign newsize) = some (0, heap) ∨
      ∃ other nmem, rtMalloc heap (rtAlign newsize) = some (nmem, other) ∧
        nmem ≠ 0 ∧
        let last := rtFree (copyBytes other nmem (heap.dataOf block)
          (min (block.stop - block.start - sizeofStructMem)
            (rtAlign newsize).toNat)) (heap.dataOf block)
        ∃ later, Session.Backed region ⟨last, Function.update
          (Function.update live (heap.dataOf block) none) nmem
          (some (old.take newsize.toNat ++
            (last.bytes nmem newsize.toNat).drop old.length))⟩ later := by
  have header : sizeofStructMem = 12 := rfl
  refine (backed.malloc (rtAlign newsize) (request_rtAlign newsize)).imp id ?_
  rintro ⟨other, later, nmem, taken, found, fresh, -, allocated⟩
  refine ⟨other, nmem, taken, found, ?_⟩
  have apart : heap.dataOf block ≠ nmem := by
    rintro rfl
    rw [owns] at fresh
    cases fresh
  generalize copied : min (block.stop - block.start - sizeofStructMem)
    (rtAlign newsize).toNat = count
  have place := allocated.owned nmem _ (Function.update_self ..)
  dsimp only at place
  obtain ⟨nblock, nmember, rfl, nroom, -⟩ := place
  rw [bytes_length] at nroom
  obtain ⟨-, -, -, -, oldRead⟩ := allocated.owned (heap.dataOf block) old
    ((Function.update_of_ne apart ..).trans owns)
  have inside : other.bytes (heap.dataOf block) old.length = old := oldRead
  obtain ⟨copy, copies⟩ : ∃ copy, copy = copyBytes other (other.dataOf nblock)
      (heap.dataOf block) count := ⟨_, rfl⟩
  have filled : Session.Backed region ⟨copy, Function.update (Function.update live
      (other.dataOf nblock) (some (other.bytes (other.dataOf nblock)
        (rtAlign newsize).toNat))) (other.dataOf nblock)
      (some (copy.bytes (other.dataOf nblock) newsize.toNat))⟩ later := by
    rw [copies]
    refine allocated.fill nmember ?_ ?_ ?_
    · intro offset outside
      refine if_neg ?_
      rw [dataOf_offset]
      omega
    · rw [bytes_length]
      omega
    · rw [bytes_length]
      rfl
  have begins : (copy.bytes (other.dataOf nblock) newsize.toNat).take old.length =
      old.take newsize.toNat := by
    conv_rhs => rw [← inside]
    rw [bytes, bytes, ← List.map_take, ← List.map_take, List.take_range,
      List.take_range, Nat.min_comm, copies]
    refine List.map_congr_left fun index member => ?_
    have near := List.mem_range.mp member
    have within : other.dataOf nblock - other.heapPtr + index <
        other.dataOf nblock - other.heapPtr + count := by omega
    refine (if_pos ⟨Nat.le_add_right _ index, within⟩).trans ?_
    exact congrArg (fun offset => other.mem (_ + offset))
      (Nat.add_sub_cancel_left ..)
  rw [Function.update_idem] at filled
  have kept : Function.update live (other.dataOf nblock)
      (some (copy.bytes (other.dataOf nblock) newsize.toNat)) (heap.dataOf block) =
      some old := (Function.update_of_ne apart ..).trans owns
  obtain ⟨final, freed, -⟩ := filled.free kept
  rw [Function.update_comm apart.symm] at freed
  obtain ⟨-, -, -, -, read⟩ := freed.owned _ _ (Function.update_self ..)
  rw [bytes_length] at read
  refine ⟨final, ?_⟩
  rw [← copies]
  dsimp only at read
  rw [read, resume begins]
  exact freed

end Realloc

section Invoke

variable {region : Nat × Nat} {heap : Heap} {live : Ledger} {blocks : List Block}

theorem Session.Backed.invoke_malloc
    (backed : Session.Backed region ⟨heap, live⟩ blocks) {size : UInt32}
    (allowed : Session.Allowed ⟨heap, live⟩ (.malloc size)) :
    ∃ rmem next later, Session.invoke ⟨heap, live⟩ (.malloc size) =
      some (rmem, next) ∧ next.Backed region later ∧
      (heap.Lowest blocks → next.heap.Lowest later) := by
  have enough : size.toNat ≤ request size := by
    refine Nat.le_trans ?_ (rtAlign_le_request size)
    have : size.toNat + 3 < 2 ^ 32 := allowed
    rw [rtAlign_toNat]
    omega
  rcases backed.malloc size enough with refused |
    ⟨other, later, rmem, taken, found, -, lowest, allocated⟩
  · refine ⟨0, ⟨heap, live⟩, blocks, ?_, backed, id⟩
    simp only [Session.invoke, refused, Option.map_some, if_true]
  · refine ⟨rmem, _, later, ?_, allocated, lowest⟩
    simp only [Session.invoke, taken, Option.map_some, if_neg found]

theorem Session.Backed.invoke_calloc
    (backed : Session.Backed region ⟨heap, live⟩ blocks) {count size : UInt32}
    (allowed : Session.Allowed ⟨heap, live⟩ (.calloc count size)) :
    ∃ rmem next later, Session.invoke ⟨heap, live⟩ (.calloc count size) =
      some (rmem, next) ∧ next.Backed region later ∧
      (heap.Lowest blocks → next.heap.Lowest later) := by
  have small : count.toNat * size.toNat + 3 < 2 ^ 32 := allowed
  have product : (count * size).toNat = count.toNat * size.toNat := by
    rw [UInt32.toNat_mul]
    exact Nat.mod_eq_of_lt (by omega)
  have enough : (count * size).toNat ≤ request (count * size) := by
    refine Nat.le_trans ?_ (rtAlign_le_request _)
    rw [rtAlign_toNat]
    omega
  rcases backed.malloc (count * size) enough with refused |
    ⟨other, later, rmem, taken, found, -, lowest, allocated⟩
  · refine ⟨0, ⟨heap, live⟩, blocks, ?_, backed, id⟩
    simp only [Session.invoke, rtCalloc, refused, Option.map_some, ne_eq,
      not_true_eq_false, if_false, if_true]
  · have place := allocated.owned rmem _ (Function.update_self ..)
    dsimp only at place
    obtain ⟨block, member, rfl, room, -⟩ := place
    rw [bytes_length] at room
    have header : sizeofStructMem = 12 := rfl
    have filled : Session.Backed region
        ⟨fillBytes other (other.dataOf block) 0 (count * size).toNat,
          Function.update (Function.update live (other.dataOf block)
            (some (other.bytes (other.dataOf block) (count * size).toNat)))
            (other.dataOf block)
            (some (List.replicate (count.toNat * size.toNat) 0))⟩ later := by
      refine allocated.fill member ?_ ?_ ?_
      · intro offset outside
        refine if_neg ?_
        rw [dataOf_offset]
        omega
      · rw [List.length_replicate, ← product]
        exact room
      · rw [List.length_replicate, ← product, bytes]
        refine List.eq_replicate_iff.mpr ⟨by simp, fun value among => ?_⟩
        obtain ⟨index, inside, rfl⟩ := List.mem_map.mp among
        refine if_pos ⟨Nat.le_add_right _ index, ?_⟩
        exact Nat.add_lt_add_left (List.mem_range.mp inside) _
    rw [Function.update_idem] at filled
    refine ⟨other.dataOf block, _, later, ?_, filled, lowest⟩
    simp only [Session.invoke, rtCalloc, taken, Option.map_some, ne_eq, found,
      not_false_eq_true, if_true, if_false]

theorem Session.Backed.release (backed : Session.Backed region ⟨heap, live⟩ blocks)
    {rmem : Nat} (pointer : rmem = 0 ∨ (live rmem).isSome) :
    ∃ later, Session.Backed region
      ⟨rtFree heap rmem, Function.update live rmem none⟩ later ∧
      (heap.Lowest blocks → (rtFree heap rmem).Lowest later) := by
  rcases pointer with rfl | owned
  · refine ⟨blocks, ?_⟩
    rw [rtFree, if_pos rfl, ← backed.live_zero, Function.update_eq_self]
    exact ⟨backed, id⟩
  · obtain ⟨contents, owns⟩ := Option.isSome_iff_exists.mp owned
    exact backed.free owns

theorem Session.Backed.invoke_write
    (backed : Session.Backed region ⟨heap, live⟩ blocks) {rmem index value : Nat}
    (allowed : Session.Allowed ⟨heap, live⟩ (.write rmem index value)) :
    ∃ result next later, Session.invoke ⟨heap, live⟩ (.write rmem index value) =
      some (result, next) ∧ next.Backed region later ∧
      (heap.Lowest blocks → next.heap.Lowest later) := by
  obtain ⟨contents, owns, inside⟩ := allowed
  dsimp only at owns
  have place := backed.owned rmem contents owns
  dsimp only at place
  obtain ⟨block, member, rfl, room, read⟩ := place
  have header : sizeofStructMem = 12 := rfl
  have filled : Session.Backed region
      ⟨heap.store (heap.dataOf block - heap.heapPtr + index) value,
        Function.update live (heap.dataOf block)
          (some (contents.set index value))⟩ blocks := by
    refine backed.fill member ?_ ?_ ?_
    · intro offset outside
      refine Function.update_of_ne ?_ _ _
      rw [dataOf_offset]
      omega
    · rw [List.length_set]
      exact room
    · rw [List.length_set]
      exact store_bytes.trans (congrArg (List.set · index value) read)
  refine ⟨0, _, blocks, ?_, filled, id⟩
  simp only [Session.invoke, owns, Option.map_some]

/-- `rt_realloc` of a block the program owns, to a size the heap could hold. -/
theorem Session.Backed.invoke_resize
    (backed : Session.Backed region ⟨heap, live⟩ blocks) {rmem : Nat}
    {newsize : UInt32} (owned : (live rmem).isSome)
    (fits : newsize.toNat ≤ (rtAlign newsize).toNat)
    (small : ¬(rtAlign newsize).toNat > heap.memSizeAligned)
    (positive : newsize.toNat ≠ 0) :
    ∃ result next later, Session.invoke ⟨heap, live⟩ (.realloc rmem newsize) =
      some (result, next) ∧ next.Backed region later := by
  have header : sizeofStructMem = 12 := rfl
  have smallest : minSize = 12 := rfl
  have words := rtAlign_toNat newsize
  have nonzero : rtAlign newsize ≠ 0 := by
    intro zero
    rw [zero] at fits
    exact positive (Nat.le_zero.mp fits)
  obtain ⟨old, owns⟩ := Option.isSome_iff_exists.mp owned
  have place := backed.owned rmem old owns
  dsimp only at place
  obtain ⟨block, member, rfl, room, read⟩ := place
  have called := backed.rtRealloc_eq member newsize small nonzero
  by_cases same : block.stop - block.start - sizeofStructMem =
      (rtAlign newsize).toNat
  · rw [if_pos same] at called
    have kept : Session.Backed region ⟨heap, Function.update live (heap.dataOf block)
        (some (heap.bytes (heap.dataOf block) newsize.toNat))⟩ blocks := by
      refine backed.fill member (fun _ _ => rfl) ?_ ?_
      · rw [bytes_length]
        omega
      · rw [bytes_length]
    refine ⟨heap.dataOf block, _, blocks, ?_, kept.resized (bytes_resume read)⟩
    simp only [Session.invoke, called, owns, Option.map_some, Option.getD_some,
      if_neg positive, if_neg dataOf_ne_zero]
  rw [if_neg same] at called
  by_cases short : (rtAlign newsize).toNat + sizeofStructMem + minSize <
      block.stop - block.start - sizeofStructMem
  · rw [if_pos short] at called
    obtain ⟨⟨later, kept⟩, bytes⟩ := backed.cut member (by omega) (by omega)
      (by omega) fits
    rw [← bytes] at kept
    have begins : (heap.bytes (heap.dataOf block) newsize.toNat).take
        old.length = old.take newsize.toNat := bytes_resume read
    rw [← bytes] at begins
    refine ⟨heap.dataOf block, _, later, ?_, kept.resized begins⟩
    simp only [Session.invoke, called, owns, Option.map_some, Option.getD_some,
      if_neg positive, if_neg dataOf_ne_zero]
  · rw [if_neg short] at called
    rcases backed.moved owns room fits with refused |
      ⟨other, nmem, taken, found, later, moved⟩
    · refine ⟨0, ⟨heap, live⟩, blocks, ?_, backed⟩
      rw [refused] at called
      simp only [Session.invoke, called, Option.map_some, ne_eq,
        not_true_eq_false, if_false, if_true, if_neg positive]
    · rw [taken] at called
      refine ⟨nmem, _, later, ?_, moved⟩
      simp only [Session.invoke, called, owns, Option.map_some, Option.getD_some,
        ne_eq, found, not_false_eq_true, if_true, if_false, if_neg positive]

theorem Session.Backed.invoke_realloc
    (backed : Session.Backed region ⟨heap, live⟩ blocks) {rmem : Nat}
    {newsize : UInt32}
    (allowed : Session.Allowed ⟨heap, live⟩ (.realloc rmem newsize)) :
    ∃ result next later, Session.invoke ⟨heap, live⟩ (.realloc rmem newsize) =
      some (result, next) ∧ next.Backed region later := by
  obtain ⟨pointer, small⟩ := allowed
  have words := rtAlign_toNat newsize
  have fits : newsize.toNat ≤ (rtAlign newsize).toNat := by omega
  by_cases large : (rtAlign newsize).toNat > heap.memSizeAligned
  · have refused : rtRealloc heap rmem newsize = some (0, heap) := by
      rw [rtRealloc]
      exact if_pos large
    refine ⟨0, ⟨heap, live⟩, blocks, ?_, backed⟩
    have positive : newsize.toNat ≠ 0 := by omega
    simp only [Session.invoke, refused, Option.map_some, if_neg positive, if_true]
  by_cases positive : newsize.toNat = 0
  · have zero : rtAlign newsize = 0 := by
      rw [← UInt32.toNat_inj, words, positive]
      rfl
    have freed : rtRealloc heap rmem newsize = some (0, rtFree heap rmem) := by
      unfold rtRealloc
      dsimp only
      rw [if_neg large, if_pos zero]
    obtain ⟨later, released, -⟩ := backed.release pointer
    refine ⟨0, _, later, ?_, released⟩
    simp only [Session.invoke, freed, Option.map_some, positive, if_true]
  rcases pointer with rfl | owned
  · have nonzero : rtAlign newsize ≠ 0 := by
      intro zero
      rw [zero] at fits
      exact positive (Nat.le_zero.mp fits)
    have called : rtRealloc heap 0 newsize = rtMalloc heap (rtAlign newsize) := by
      unfold rtRealloc
      dsimp only
      rw [if_neg large, if_neg nonzero, if_pos rfl]
    have nothing : live 0 = none := backed.live_zero
    have same : Function.update live 0 none = live := by
      rw [← nothing, Function.update_eq_self]
    rcases backed.malloc (rtAlign newsize)
        (Nat.le_trans fits (request_rtAlign newsize)) with refused |
      ⟨other, later, nmem, taken, found, -, -, allocated⟩
    · refine ⟨0, ⟨heap, live⟩, blocks, ?_, backed⟩
      rw [refused] at called
      simp only [Session.invoke, called, Option.map_some, if_true,
        if_neg positive]
    · rw [taken] at called
      refine ⟨nmem, _, later, ?_, allocated⟩
      simp only [Session.invoke, called, Option.map_some, if_neg positive,
        if_neg found, nothing, same, Option.getD_none, List.take_nil,
        List.length_nil, List.drop_zero, List.nil_append]
  · exact backed.invoke_resize owned fits large positive

end Invoke

end Ch32v307.Kernel
