import CedarC.AllocationLedger
import Mathlib.Data.List.TakeDrop

/-!
# Allocation and release of the picture buffers of a frame buffer manager

`FbmCreateBuffer` asks the heap for the manager and its frame nodes and, where the
decoder owns the pictures, the picture allocator for each of them. `FbmDestroy`
gives the blocks back. An `int` of the source is a word of 32 bits where it is
computed with, and its division and shift are the signed ones. Physical addresses,
locks, IOMMU mappings and the description handed to the display touch no block
and are left out.
-/

namespace CedarC.FbmAllocation

open AllocationLedger

/-- `malloc` and `free` against `CdcMemPalloc` and `CdcMemPfree`. -/
inductive Allocator where
  | heap
  | picture
deriving DecidableEq

abbrev Pointer := Option (Address Allocator)

abbrev Word := BitVec 32

def PIXEL_FORMAT_YUV_PLANER_420 : Int := 1
def PIXEL_FORMAT_YUV_PLANER_422 : Int := 2
def PIXEL_FORMAT_YUV_PLANER_444 : Int := 3
def PIXEL_FORMAT_YV12 : Int := 4
def PIXEL_FORMAT_NV21 : Int := 5
def PIXEL_FORMAT_NV12 : Int := 6
def PIXEL_FORMAT_YUV_MB32_420 : Int := 7
def PIXEL_FORMAT_YUV_MB32_422 : Int := 8
def PIXEL_FORMAT_YUV_MB32_444 : Int := 9
def PIXEL_FORMAT_RGBA : Int := 10
def PIXEL_FORMAT_ARGB : Int := 11
def PIXEL_FORMAT_ABGR : Int := 12
def PIXEL_FORMAT_BGRA : Int := 13
def PIXEL_FORMAT_P010_UV : Int := 22
def PIXEL_FORMAT_P010_VU : Int := 23

def BUF_TYPE_ONLY_REFERENCE : Int := 1

/-- The groups of cases of the `switch` over pixel formats. -/
inductive PictureLayout where
  | p010
  | planer
  | mb32
  | rgba
  | incorrect
deriving DecidableEq

def pictureLayout (ePixelFormat : Int) : PictureLayout :=
  if ePixelFormat = PIXEL_FORMAT_P010_UV ∨ ePixelFormat = PIXEL_FORMAT_P010_VU then .p010
  else if ePixelFormat = PIXEL_FORMAT_YUV_PLANER_420 ∨ ePixelFormat = PIXEL_FORMAT_YUV_PLANER_422 ∨
      ePixelFormat = PIXEL_FORMAT_YUV_PLANER_444 ∨ ePixelFormat = PIXEL_FORMAT_YV12 ∨
      ePixelFormat = PIXEL_FORMAT_NV21 ∨ ePixelFormat = PIXEL_FORMAT_NV12 then .planer
  else if ePixelFormat = PIXEL_FORMAT_YUV_MB32_420 ∨ ePixelFormat = PIXEL_FORMAT_YUV_MB32_422 ∨
      ePixelFormat = PIXEL_FORMAT_YUV_MB32_444 then .mb32
  else if ePixelFormat = PIXEL_FORMAT_RGBA ∨ ePixelFormat = PIXEL_FORMAT_ARGB ∨
      ePixelFormat = PIXEL_FORMAT_ABGR ∨ ePixelFormat = PIXEL_FORMAT_BGRA then .rgba
  else .incorrect

structure VideoPicture where
  nID : Int
  ePixelFormat : Int
  nWidth : Word
  nHeight : Word
  nLineStride : Word
  b10BitPicFlag : Int
  bEnableAfbcFlag : Int
  pData0 : Pointer
  pData1 : Pointer
  pData2 : Pointer
  pData3 : Pointer
  pMetaData : Pointer
  nBufSize : Word
  nAfbcSize : Word
  nLower2BitBufSize : Word
  nLower2BitBufOffset : Word
  nLower2BitBufStride : Word
deriving DecidableEq

def alignedTo (value align : Word) : Word := (value + align - 1) &&& ~~~(align - 1)

def lower2BitBufStride (nWidth : Word) : Word := ((nWidth + 3).sshiftRight 2 + 31) &&& 0xffffffe0#32

/-- The mask makes the stride unsigned, and with it the whole product. -/
def lower2BitBufSize (nWidth nHeight : Word) : Word :=
  (lower2BitBufStride nWidth * nHeight * 3).udiv 2

def afbcBufSize (nWidth nHeight payload : Word) : Word :=
  (nWidth + 15).sshiftRight 4 * (nHeight + 4 + 15).sshiftRight 4 * (payload + 16) + 32 + 1024

/-- What `FbmAllocatePictureBuffer` leaves behind; `complete` stands for the result 0. -/
structure AllocatedPicture where
  memory : Memory Allocator
  picture : VideoPicture
  nAlignValue : Word
  complete : Bool
deriving DecidableEq

def alignPicture (picture : VideoPicture) (nAlignValue nWidth nHeight : Word) :
    VideoPicture × Word :=
  if nAlignValue = 0 then
    let nLineStride := (nWidth + 15) &&& ~~~15#32
    ({ picture with
        nLineStride := nLineStride
        nWidth := nLineStride
        nHeight := (nHeight + 15) &&& ~~~15#32 }, 16)
  else
    let nLineStride := alignedTo nWidth nAlignValue
    ({ picture with
        nLineStride := nLineStride
        nWidth := nLineStride
        nHeight := alignedTo nHeight nAlignValue }, nAlignValue)

section Layouts

variable (grants : Nat → Bool) (memory : Memory Allocator) (picture : VideoPicture)
  (nAlignValue nWidth nHeight : Word)

def allocateP010 : AllocatedPicture :=
  let (sized, align) := alignPicture picture nAlignValue nWidth nHeight
  let nMemSizeY := sized.nWidth * sized.nHeight * 2
  let nMemSizeC := nMemSizeY.sshiftRight 2
  match memory.allocate grants .picture with
  | (after, none) => ⟨after, sized, align, false⟩
  | (after, some pMem) =>
    let filled :=
      { sized with
        pData0 := some pMem
        pData1 := some (pMem.plus nMemSizeY.toInt)
        pData2 := none
        nBufSize := nMemSizeY + 2 * nMemSizeC }
    ⟨after, filled, align, true⟩

def planerChromaSize (ePixelFormat : Int) (nMemSizeY : Word) : Word :=
  if ePixelFormat = PIXEL_FORMAT_YUV_PLANER_420 ∨ ePixelFormat = PIXEL_FORMAT_YV12 ∨
      ePixelFormat = PIXEL_FORMAT_NV21 then nMemSizeY.sshiftRight 2
  else if ePixelFormat = PIXEL_FORMAT_YUV_PLANER_422 then nMemSizeY.sshiftRight 1
  else nMemSizeY

/-- The addresses and sizes of a planar picture that starts at `pMem`. -/
def fillPlaner (sized : VideoPicture) (pMem : Address Allocator) : VideoPicture :=
  let nMemSizeY := sized.nWidth * sized.nHeight
  let nMemSizeC := planerChromaSize sized.ePixelFormat nMemSizeY
  let nNormalYuvBufSize := nMemSizeY + nMemSizeC * 2
  let nLower2BitBufSize := lower2BitBufSize nWidth nHeight
  if sized.b10BitPicFlag ≠ 0 then
    let nAfbcBufSize := afbcBufSize nWidth nHeight 512
    if sized.bEnableAfbcFlag = 1 then
      { sized with
        pData0 := some pMem
        nLower2BitBufSize := nLower2BitBufSize
        nLower2BitBufOffset := nAfbcBufSize
        nLower2BitBufStride := lower2BitBufStride nWidth
        nAfbcSize := nAfbcBufSize
        pData3 := none
        nBufSize := nAfbcBufSize + nLower2BitBufSize }
    else
      { sized with
        pData0 := some pMem
        pData1 := some (pMem.plus nMemSizeY.toInt)
        nLower2BitBufSize := nLower2BitBufSize
        nLower2BitBufOffset := nNormalYuvBufSize
        nLower2BitBufStride := lower2BitBufStride nWidth
        pData3 := none
        nBufSize := nNormalYuvBufSize + nLower2BitBufSize }
  else if sized.bEnableAfbcFlag = 1 then
    let nAfbcBufSize := afbcBufSize nWidth nHeight 384
    { sized with
      pData0 := some pMem
      nAfbcSize := nAfbcBufSize
      pData3 := none
      nBufSize := nAfbcBufSize }
  else
    { sized with
      pData0 := some pMem
      pData1 := some (pMem.plus nMemSizeY.toInt)
      pData2 :=
        if sized.ePixelFormat ≠ PIXEL_FORMAT_NV21 then
          some ((pMem.plus nMemSizeY.toInt).plus nMemSizeC.toInt)
        else none
      pData3 := none
      nBufSize := nNormalYuvBufSize }

/-- The picture block is not given back when the metadata block is refused. -/
def allocatePlaner : AllocatedPicture :=
  let (sized, align) := alignPicture picture nAlignValue nWidth nHeight
  match memory.allocate grants .picture with
  | (after, none) => ⟨after, sized, align, false⟩
  | (after, some pMem) =>
    let filled := fillPlaner nWidth nHeight sized pMem
    match after.allocate grants .heap with
    | (last, none) => ⟨last, filled, align, false⟩
    | (last, some pMeta) => ⟨last, { filled with pMetaData := some pMeta }, align, true⟩

def allocateMb32 : AllocatedPicture :=
  let nLineStride := (nWidth + 31) &&& ~~~31#32
  let sized :=
    { picture with
      nLineStride := nLineStride
      nWidth := nLineStride
      nHeight := (nHeight + 31) &&& ~~~31#32 }
  match memory.allocate grants .picture with
  | (after, none) => ⟨after, sized, 32, false⟩
  | (after, some pMem) =>
    match after.allocate grants .picture with
    | (last, none) => ⟨last.free .picture pMem, { sized with pData0 := none }, 32, false⟩
    | (last, some pChroma) =>
      let filled :=
        { sized with
          pData0 := some pMem
          pData1 := some pChroma
          pData2 := none
          pData3 := none }
      ⟨last, filled, 32, true⟩

def allocateRgba : AllocatedPicture :=
  let sized := { picture with nLineStride := picture.nWidth * 4 }
  match memory.allocate grants .picture with
  | (after, none) => ⟨after, sized, nAlignValue, false⟩
  | (after, some pMem) =>
    let filled :=
      { sized with
        pData0 := some pMem
        pData1 := none
        pData2 := none
        pData3 := none }
    ⟨after, filled, nAlignValue, true⟩

def FbmAllocatePictureBuffer : AllocatedPicture :=
  let cleared :=
    { picture with
      pData0 := none
      pData1 := none
      pData2 := none
      pData3 := none }
  match pictureLayout picture.ePixelFormat with
  | .p010 => allocateP010 grants memory cleared nAlignValue nWidth nHeight
  | .planer => allocatePlaner grants memory cleared nAlignValue nWidth nHeight
  | .mb32 => allocateMb32 grants memory cleared nWidth nHeight
  | .rgba => allocateRgba grants memory cleared nAlignValue
  | .incorrect => ⟨memory, cleared, nAlignValue, false⟩

end Layouts

/-- `if(p != NULL) { CdcMemPfree(p); p = NULL; }`. -/
def freeData (memory : Memory Allocator) : Pointer → Memory Allocator
  | none => memory
  | some address => memory.free .picture address

def FbmFreePictureBuffer (memory : Memory Allocator) (bUseGpuBuf : Int)
    (picture : VideoPicture) : Memory Allocator × VideoPicture :=
  let memory := freeData memory picture.pData0
  let picture := { picture with pData0 := none }
  let (memory, picture) :=
    match picture.pMetaData, decide (bUseGpuBuf = 0) with
    | some pMetaData, true =>
      (memory.free .heap pMetaData, { picture with pMetaData := none })
    | _, _ => (memory, picture)
  if picture.ePixelFormat < PIXEL_FORMAT_YUV_MB32_420 then (memory, picture)
  else
    let memory := freeData memory picture.pData1
    let memory := freeData memory picture.pData2
    let memory := freeData memory picture.pData3
    (memory, { picture with pData1 := none, pData2 := none, pData3 := none })

/-- The members that the number and the sizes of the blocks depend on. -/
structure FbmCreateInfo where
  nFrameNum : Int
  nWidth : Word
  nHeight : Word
  ePixelFormat : Int
  bThumbnailMode : Int
  bGpuBufValid : Int
  nAlignStride : Word
  nBufferType : Int
  b10BitStreamFlag : Int
deriving DecidableEq

/-- `pFbmInfo->pFbmBufInfo`, of which one flag is read. -/
structure FbmBufInfo where
  bAfbcModeFlag : Int
deriving DecidableEq

structure Fbm where
  self : Address Allocator
  nMaxFrameNum : Int
  nEmptyBufferNum : Int
  bThumbnailMode : Int
  pFrameNodes : Address Allocator
  pFrames : List VideoPicture
  bUseGpuBuf : Int
  nAlignValue : Word
deriving DecidableEq

section Create

variable (grants : Nat → Bool) (info : FbmCreateInfo) (bufInfo : FbmBufInfo)

/-- The state of the loop over frame nodes; `pFrames` holds the finished ones. -/
structure FrameLoop where
  memory : Memory Allocator
  nAlignStride : Word
  pFrames : List VideoPicture
deriving DecidableEq

def newPicture (nID : Int) (nAlignStride : Word) : VideoPicture :=
  let nWidth := if nAlignStride ≠ 0 then alignedTo info.nWidth nAlignStride else info.nWidth
  { nID := nID
    ePixelFormat := info.ePixelFormat
    nWidth := nWidth
    nHeight := if nAlignStride ≠ 0 then alignedTo info.nHeight nAlignStride else info.nHeight
    nLineStride := nWidth
    b10BitPicFlag := info.b10BitStreamFlag
    bEnableAfbcFlag := bufInfo.bAfbcModeFlag
    pData0 := none
    pData1 := none
    pData2 := none
    pData3 := none
    pMetaData := none
    nBufSize := 0
    nAfbcSize := 0
    nLower2BitBufSize := 0
    nLower2BitBufOffset := 0
    nLower2BitBufStride := 0 }

def picturesAllocated : Prop := info.bGpuBufValid = 0 ∨ info.nBufferType = BUF_TYPE_ONLY_REFERENCE
deriving Decidable

def sharePicture (frames : List VideoPicture) (picture : VideoPicture) : VideoPicture :=
  match frames with
  | [] => picture
  | first :: _ =>
    { picture with
      pData0 := first.pData0
      pData1 := first.pData1
      pData2 := first.pData2
      pData3 := first.pData3 }

/-- Where the display owns the pictures only the offsets inside them are computed. -/
def describeGpuPicture (picture : VideoPicture) : VideoPicture :=
  if info.bGpuBufValid = 1 then
    if picture.b10BitPicFlag ≠ 0 then
      let nAfbcBufSize := afbcBufSize info.nWidth info.nHeight 512
      if picture.bEnableAfbcFlag = 1 then
        { picture with
          nLower2BitBufOffset := nAfbcBufSize
          nAfbcSize := nAfbcBufSize
          nLower2BitBufStride := lower2BitBufStride info.nWidth }
      else
        { picture with
          nLower2BitBufOffset := (picture.nWidth * picture.nHeight * 3).sdiv 2
          nLower2BitBufStride := lower2BitBufStride info.nWidth }
    else if picture.bEnableAfbcFlag = 1 then
      { picture with
        nAfbcSize := afbcBufSize info.nWidth info.nHeight 384
        nLower2BitBufOffset := 0
        nLower2BitBufStride := 0 }
    else { picture with nLower2BitBufOffset := 0, nLower2BitBufStride := 0 }
  else picture

/-- One turn of the loop; the flag is false where the source breaks out. -/
def createFrame (loop : FrameLoop) : FrameLoop × Bool :=
  let i := loop.pFrames.length
  let picture := newPicture info bufInfo i loop.nAlignStride
  if picturesAllocated info then
    if info.bThumbnailMode = 0 ∨ i = 0 then
      let result := FbmAllocatePictureBuffer grants loop.memory picture loop.nAlignStride
        info.nWidth info.nHeight
      if result.complete then
        (⟨result.memory, result.nAlignValue,
          loop.pFrames ++ [describeGpuPicture info result.picture]⟩, true)
      else (⟨result.memory, result.nAlignValue, loop.pFrames⟩, false)
    else
      (⟨loop.memory, loop.nAlignStride,
        loop.pFrames ++ [describeGpuPicture info (sharePicture loop.pFrames picture)]⟩, true)
  else
    (⟨loop.memory, loop.nAlignStride, loop.pFrames ++ [describeGpuPicture info picture]⟩, true)

def createFrames : Nat → FrameLoop → FrameLoop × Bool
  | 0, loop => (loop, true)
  | remaining + 1, loop =>
    match createFrame grants info bufInfo loop with
    | (after, true) => createFrames remaining after
    | (after, false) => (after, false)

def freePictures (bUseGpuBuf : Int) : Memory Allocator → List VideoPicture → Memory Allocator
  | memory, [] => memory
  | memory, picture :: rest =>
    freePictures bUseGpuBuf (FbmFreePictureBuffer memory bUseGpuBuf picture).1 rest

/-- The nodes for a negative number of frames are more than the heap can hold. -/
def allocateFrameNodes (memory : Memory Allocator) : Memory Allocator × Pointer :=
  if info.nFrameNum < 0 then ({ memory with requests := memory.requests + 1 }, none)
  else memory.allocate grants .heap

def FbmCreateBuffer : Memory Allocator × Option Fbm :=
  match Memory.unused.allocate grants .heap with
  | (memory, none) => (memory, none)
  | (memory, some p) =>
    match allocateFrameNodes grants info memory with
    | (memory, none) => (memory.free .heap p, none)
    | (memory, some pFrameNode) =>
      let start : FrameLoop := ⟨memory, info.nAlignStride, []⟩
      match createFrames grants info bufInfo info.nFrameNum.toNat start with
      | (loop, false) =>
        (((freePictures 0 loop.memory loop.pFrames).free .heap pFrameNode).free .heap p, none)
      | (loop, true) =>
        let bUseGpuBuf : Int :=
          if info.bGpuBufValid = 1 ∧ info.nBufferType ≠ BUF_TYPE_ONLY_REFERENCE then 1 else 0
        let fbm : Fbm :=
          { self := p
            nMaxFrameNum := info.nFrameNum
            nEmptyBufferNum := if bUseGpuBuf = 1 then 0 else info.nFrameNum
            bThumbnailMode := info.bThumbnailMode
            pFrameNodes := pFrameNode
            pFrames := loop.pFrames
            bUseGpuBuf := bUseGpuBuf
            nAlignValue := loop.nAlignStride }
        (loop.memory, some fbm)

end Create

/-- In thumbnail mode `pFrames[0]` is read whether or not there is a frame. -/
def FbmDestroy (memory : Memory Allocator) (fbm : Fbm) : Option (Memory Allocator) :=
  let pictures :=
    if fbm.bUseGpuBuf = 0 then
      if fbm.bThumbnailMode ≠ 0 then
        match fbm.pFrames with
        | [] => none
        | first :: _ => some (freePictures fbm.bUseGpuBuf memory [first])
      else some (freePictures fbm.bUseGpuBuf memory fbm.pFrames)
    else some memory
  pictures.map fun memory => (memory.free .heap fbm.pFrameNodes).free .heap fbm.self

def createThenDestroy (grants : Nat → Bool) (info : FbmCreateInfo) (bufInfo : FbmBufInfo) :
    Option (Memory Allocator) :=
  match FbmCreateBuffer grants info bufInfo with
  | (memory, none) => some memory
  | (memory, some fbm) => FbmDestroy memory fbm

end CedarC.FbmAllocation
