import Mathlib.Algebra.Group.Nat.Defs
import Mathlib.Logic.Function.Basic

namespace Ch32v307.Kernel

/-! The heap of `mem.c`. -/

def rtAlignSize : UInt32 := 4

/-- `RT_ALIGN(size, RT_ALIGN_SIZE)` and `RT_ALIGN_DOWN`. -/
def rtAlign (size : UInt32) : UInt32 :=
  (size + rtAlignSize - 1) &&& ~~~(rtAlignSize - 1)

def rtAlignDown (size : UInt32) : UInt32 := size &&& ~~~(rtAlignSize - 1)

def heapMagic : Nat := 0x1ea0

def minSize : Nat := 12

def minSizeAligned : Nat := (rtAlign 12).toNat

/-- `RT_ALIGN(sizeof(struct heap_mem), RT_ALIGN_SIZE)`: two halfwords and two
words. -/
def sizeofStructMem : Nat := (rtAlign 12).toNat

/-- What the memory from `heap_ptr` on holds, by the byte offset at which it
begins: the fields of the headers and the bytes of the data. -/
abbrev Memory := Nat → Nat

structure Heap where
  heapPtr : Nat
  memSizeAligned : Nat
  mem : Memory
  lfree : Nat
  usedMem : Nat
  maxMem : Nat

namespace Heap

/-- The header of a block is known by its offset from `heap_ptr`. -/
def magic (heap : Heap) (ptr : Nat) : Nat := heap.mem ptr

def used (heap : Heap) (ptr : Nat) : Nat := heap.mem (ptr + 2)

def next (heap : Heap) (ptr : Nat) : Nat := heap.mem (ptr + 4)

def prev (heap : Heap) (ptr : Nat) : Nat := heap.mem (ptr + 8)

def store (heap : Heap) (offset value : Nat) : Heap :=
  { heap with mem := Function.update heap.mem offset value }

def setMagic (heap : Heap) (ptr value : Nat) : Heap := heap.store ptr value

def setUsed (heap : Heap) (ptr value : Nat) : Heap :=
  heap.store (ptr + 2) value

def setNext (heap : Heap) (ptr value : Nat) : Heap :=
  heap.store (ptr + 4) value

def setPrev (heap : Heap) (ptr value : Nat) : Heap :=
  heap.store (ptr + 8) value

def heapEnd (heap : Heap) : Nat := heap.memSizeAligned + sizeofStructMem

/-- More rounds than the heap has blocks. -/
def fuel (heap : Heap) : Nat := heap.memSizeAligned + 2

end Heap

open Heap

/-- Combine a block and the one behind it. -/
def combine (heap : Heap) (mem nmem : Nat) : Heap :=
  let heap := if heap.lfree = nmem then { heap with lfree := mem } else heap
  let heap := heap.setNext mem (heap.next nmem)
  heap.setPrev (heap.next nmem) mem

def plugHoles (heap : Heap) (mem : Nat) : Heap :=
  -- plug hole forward
  let nmem := heap.next mem
  let heap :=
    if mem ≠ nmem ∧ heap.used nmem = 0 ∧ nmem ≠ heap.heapEnd then
      combine heap mem nmem
    else heap
  -- plug hole backward
  let pmem := heap.prev mem
  if pmem ≠ mem ∧ heap.used pmem = 0 then combine heap pmem mem else heap

/-- `none` when the region is too small; the counters start at 0. -/
def rtSystemHeapInit (beginAddr endAddr : UInt32) (contents : Memory) :
    Option Heap :=
  let beginAlign := rtAlign beginAddr
  let endAlign := rtAlignDown endAddr
  if endAlign.toNat > 2 * sizeofStructMem ∧
      endAlign.toNat - 2 * sizeofStructMem ≥ beginAlign.toNat then
    let memSizeAligned :=
      endAlign.toNat - beginAlign.toNat - 2 * sizeofStructMem
    let heap : Heap :=
      ⟨beginAlign.toNat, memSizeAligned, contents, 0, 0, 0⟩
    let heap := heap.setMagic 0 heapMagic
    let heap := heap.setNext 0 (memSizeAligned + sizeofStructMem)
    let heap := heap.setPrev 0 0
    let heap := heap.setUsed 0 0
    let heapEnd := heap.next 0
    let heap := heap.setMagic heapEnd heapMagic
    let heap := heap.setUsed heapEnd 1
    let heap := heap.setNext heapEnd (memSizeAligned + sizeofStructMem)
    some (heap.setPrev heapEnd (memSizeAligned + sizeofStructMem))
  else none

/-- The loop of `rt_malloc` over the blocks. The bound is a difference of two
`rt_size_t`. The inner `none` is the end of the loop, the outer one a loop that
does not end. -/
def mallocSearch (heap : Heap) (size : Nat) : Nat → Nat → Option (Option Nat)
  | 0, _ => none
  | fuel + 1, ptr =>
      if ptr < (heap.memSizeAligned + 2 ^ 32 - size) % 2 ^ 32 then
        if heap.used ptr = 0 ∧
            heap.next ptr - (ptr + sizeofStructMem) ≥ size then
          some (some ptr)
        else mallocSearch heap size fuel (heap.next ptr)
      else some none

/-- Create mem2 struct. -/
def createMem2 (heap : Heap) (ptr ptr2 : Nat) : Heap :=
  let heap := heap.setMagic ptr2 heapMagic
  let heap := heap.setUsed ptr2 0
  let heap := heap.setNext ptr2 (heap.next ptr)
  heap.setPrev ptr2 ptr

/-- The block behind mem2 begins with a link to it. -/
def linkMem2 (heap : Heap) (ptr2 : Nat) : Heap :=
  if heap.next ptr2 ≠ heap.memSizeAligned + sizeofStructMem then
    heap.setPrev (heap.next ptr2) ptr2
  else heap

def countUsed (heap : Heap) (size : Nat) : Heap :=
  { heap with
    usedMem := heap.usedMem + size
    maxMem := max heap.maxMem (heap.usedMem + size) }

/-- The block found is split, or taken whole. -/
def mallocTake (heap : Heap) (size ptr : Nat) : Heap :=
  let heap :=
    if heap.next ptr - (ptr + sizeofStructMem) ≥
        size + sizeofStructMem + minSizeAligned then
      let ptr2 := ptr + sizeofStructMem + size
      let heap := createMem2 heap ptr ptr2
      let heap := heap.setNext ptr ptr2
      let heap := heap.setUsed ptr 1
      let heap := linkMem2 heap ptr2
      countUsed heap (size + sizeofStructMem)
    else
      let heap := heap.setUsed ptr 1
      countUsed heap (heap.next ptr - ptr)
  heap.setMagic ptr heapMagic

/-- The lowest free pointer moves past the blocks in use. -/
def advanceLfree : Nat → Heap → Option Heap
  | 0, _ => none
  | fuel + 1, heap =>
      if heap.used heap.lfree ≠ 0 ∧ heap.lfree ≠ heap.heapEnd then
        advanceLfree fuel { heap with lfree := heap.next heap.lfree }
      else some heap

/-- The block the loop found, if any, is taken. -/
def mallocFound (heap : Heap) (size : Nat) : Option Nat → Option (Nat × Heap)
  | none => some (0, heap)
  | some ptr =>
      let heap := mallocTake heap size ptr
      let advanced :=
        if ptr = heap.lfree then advanceLfree heap.fuel heap else some heap
      advanced.map fun heap => (heap.heapPtr + ptr + sizeofStructMem, heap)

/-- The address returned, 0 for `RT_NULL`; `none` when a loop does not end. -/
def rtMalloc (heap : Heap) (size : UInt32) : Option (Nat × Heap) :=
  if size = 0 then some (0, heap)
  else
    let size := (rtAlign size).toNat
    if size > heap.memSizeAligned then some (0, heap)
    else
      let size := if size < minSizeAligned then minSizeAligned else size
      (mallocSearch heap size heap.fuel heap.lfree).bind (mallocFound heap size)

def rtFree (heap : Heap) (rmem : Nat) : Heap :=
  if rmem = 0 then heap
  else if rmem < heap.heapPtr ∨ rmem ≥ heap.heapPtr + heap.heapEnd then heap
  else
    let mem := rmem - heap.heapPtr - sizeofStructMem
    let heap := heap.setUsed mem 0
    let heap := heap.setMagic mem heapMagic
    let heap := if mem < heap.lfree then { heap with lfree := mem } else heap
    let heap := { heap with usedMem := heap.usedMem - (heap.next mem - mem) }
    plugHoles heap mem

/-- `rt_memcpy` between two blocks, by their addresses. -/
def copyBytes (heap : Heap) (dst src count : Nat) : Heap :=
  { heap with
    mem := fun offset =>
      if dst - heap.heapPtr ≤ offset ∧ offset < dst - heap.heapPtr + count then
        heap.mem (src - heap.heapPtr + (offset - (dst - heap.heapPtr)))
      else heap.mem offset }

def fillBytes (heap : Heap) (dst value count : Nat) : Heap :=
  { heap with
    mem := fun offset =>
      if dst - heap.heapPtr ≤ offset ∧ offset < dst - heap.heapPtr + count then
        value
      else heap.mem offset }

/-- The branch of `rt_realloc` that cuts the block. -/
def reallocCut (heap : Heap) (ptr newsize : Nat) : Heap :=
  let size := heap.next ptr - ptr - sizeofStructMem
  let heap := { heap with usedMem := heap.usedMem - (size - newsize) }
  let ptr2 := ptr + sizeofStructMem + newsize
  let heap := createMem2 heap ptr ptr2
  let heap := heap.setNext ptr ptr2
  let heap := linkMem2 heap ptr2
  plugHoles heap ptr2

def rtRealloc (heap : Heap) (rmem : Nat) (newsize : UInt32) :
    Option (Nat × Heap) :=
  let newsize := rtAlign newsize
  if newsize.toNat > heap.memSizeAligned then some (0, heap)
  else if newsize = 0 then some (0, rtFree heap rmem)
  else if rmem = 0 then rtMalloc heap newsize
  else if rmem < heap.heapPtr ∨ rmem ≥ heap.heapPtr + heap.heapEnd then
    some (rmem, heap)
  else
    let ptr := rmem - sizeofStructMem - heap.heapPtr
    let size := heap.next ptr - ptr - sizeofStructMem
    if size = newsize.toNat then some (rmem, heap)
    else if newsize.toNat + sizeofStructMem + minSize < size then
      some (rmem, reallocCut heap ptr newsize.toNat)
    else
      (rtMalloc heap newsize).map fun (nmem, heap) =>
        if nmem ≠ 0 then
          (nmem, rtFree (copyBytes heap nmem rmem (min size newsize.toNat)) rmem)
        else (nmem, heap)

def rtCalloc (heap : Heap) (count size : UInt32) : Option (Nat × Heap) :=
  (rtMalloc heap (count * size)).map fun (p, heap) =>
    if p ≠ 0 then (p, fillBytes heap p 0 (count * size).toNat) else (p, heap)

end Ch32v307.Kernel
