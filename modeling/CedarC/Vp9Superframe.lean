import CedarC.FixedWidth
import Mathlib.Data.Nat.Digits.Defs
import Mathlib.Data.List.Rotate

/-! # VP9 superframes

`Vp9HwDecoderDecode` gathers a chunk of the stream ring, in place or through a copy buffer when
it runs over the end of the ring, lets `Vp9ProcessDataLength` read the superframe index from its
last bytes, and then hands one frame after the other to the header parser and to the hardware.
The frames it should hand over are those of the superframe index (Annex B). -/

namespace CedarC.Vp9

abbrev Byte := Fin 256

/-- The two ways the code leaves what it may do: `abort ()`, and an access outside its object. -/
inductive Fault where
  | abort
  | outside
  deriving DecidableEq, Repr

/-! ## The frames of a chunk -/

/-- The frames of the given sizes, one after the other. -/
def layout (start : Nat) : List Nat → List (Nat × Nat)
  | [] => []
  | size :: sizes => (start, size) :: layout (start + size) sizes

/-- The last byte of a chunk may be the header of a superframe index. -/
def isMarker (marker : Byte) : Prop := marker.val / 32 = 6
deriving Decidable

def bytesPerSize (marker : Byte) : Nat := 1 + marker.val / 8 % 4

def framesInSuperframe (marker : Byte) : Nat := 1 + marker.val % 8

def indexSize (marker : Byte) : Nat := 2 + framesInSuperframe marker * bytesPerSize marker

/-- The `k`-th frame size, little endian, of an index with the given header. -/
def sizeEntry (chunk : List Byte) (marker : Byte) (k : Nat) : Nat :=
  let entry := chunk.length - indexSize marker + 1 + k * bytesPerSize marker
  Nat.ofDigits 256 (((chunk.drop entry).take (bytesPerSize marker)).map Fin.val)

def sizeEntries (chunk : List Byte) (marker : Byte) : List Nat :=
  (List.range (framesInSuperframe marker)).map (sizeEntry chunk marker)

/-- The index fits into the chunk, begins with its header once more, and leaves room for the
frames before it. -/
def ValidIndex (chunk : List Byte) (marker : Byte) : Prop :=
  isMarker marker ∧ indexSize marker ≤ chunk.length ∧
    chunk[chunk.length - indexSize marker]? = some marker ∧
    (sizeEntries chunk marker).sum + indexSize marker ≤ chunk.length
deriving Decidable

/-- The frames of a chunk: those of its index, or the chunk as one frame. -/
def annexBFrames (chunk : List Byte) : List (Nat × Nat) :=
  match chunk.getLast? with
  | none => []
  | some marker =>
    if ValidIndex chunk marker then layout 0 (sizeEntries chunk marker)
    else [(0, chunk.length)]

/-! ## The lengths of the frames -/

/-- `sbmInfo.real_data_len`, four entries that keep what an earlier chunk left in them. -/
abbrev RealDataLen := Vector Nat 4

def storeLen (lens : RealDataLen) (k len : Nat) : Except Fault RealDataLen :=
  if bound : k < 4 then .ok (lens.set k len bound) else .error .outside

def lenAt (lens : RealDataLen) (k : Nat) : Except Fault Nat :=
  if bound : k < 4 then .ok (lens[k]) else .error .outside

def byteAt (data : List Byte) (size i : Nat) : Except Fault Nat :=
  if i < size then
    match data[i]? with
    | some byte => .ok byte.val
    | none => .error .outside
  else .error .outside

def minusU32 (size rd_sz : Nat) : Nat := (size + 2 ^ 32 - rd_sz) % 2 ^ 32

/-- The `switch (nbytes)`; another width leaves `rd_sz`. -/
def entrySize (read : Nat → Except Fault Nat) (nbytes idx rd_sz : Nat) : Except Fault Nat :=
  match nbytes with
  | 1 => read idx
  | 2 => do
    let high ← read (idx + 1)
    let low ← read idx
    .ok (high <<< 8 ||| low)
  | 3 => do
    let top ← read (idx + 2)
    let high ← read (idx + 1)
    let low ← read idx
    .ok (top <<< 16 ||| high <<< 8 ||| low)
  | 4 => do
    -- a top byte from 128 on overflows the `int` it is shifted in; its bits are those of the `u32`
    let last ← read (idx + 3)
    let top ← read (idx + 2)
    let high ← read (idx + 1)
    let low ← read idx
    .ok (last <<< 24 ||| top <<< 16 ||| high <<< 8 ||| low)
  | _ => .ok rd_sz

/-- `while (nFrameNum--)` over the entries of the index, into the array from its end. -/
def readSizes (read : Nat → Except Fault Nat) (nbytes : Nat) :
    Nat → Nat → Nat → Nat → RealDataLen → Except Fault RealDataLen
  | 0, _, _, _, lens => .ok lens
  | nFrameNum + 1, idx, rd_sz, size, lens => do
    let rd_sz ← entrySize read nbytes idx rd_sz
    let lens ← storeLen lens nFrameNum (if rd_sz ≤ size then rd_sz else size)
    readSizes read nbytes nFrameNum (idx + nbytes) rd_sz (minusU32 size rd_sz) lens

/-- `Vp9ProcessDataLength`: the number of frames, and the lengths in reverse. -/
def vp9ProcessDataLength (data : List Byte) (size : Nat) (realDataLen : RealDataLen) :
    Except Fault (Nat × RealDataLen) := do
  let rd_sz := size
  let marker ← byteAt data size (size - 1)
  let realDataLen ← storeLen realDataLen 0 rd_sz
  if marker &&& 0xe0 = 0xc0 then
    let nbytes := 1 + ((marker >>> 3) &&& 0x3)
    let n_frames := 1 + (marker &&& 0x7)
    if n_frames ≠ 2 then .error .abort
    else
      let idx_sz := 2 + n_frames * nbytes
      if size ≥ idx_sz then
        let first ← byteAt data size (size - idx_sz)
        if first = marker then
          let lens ← readSizes (byteAt data size) nbytes n_frames (size + 1 - idx_sz) rd_sz size
            realDataLen
          .ok (n_frames, lens)
        else .ok (n_frames, realDataLen)
      else .ok (n_frames, realDataLen)
  else .ok (1, realDataLen)

/-! ## The chunk in the ring -/

/-- The stream buffer, `pSbmBuf` to `pSbmBufEnd`; its size is a `u32`. -/
structure Ring where
  bytes : List Byte
  length_lt : bytes.length < 2 ^ 32

/-- A chunk the stream buffer hands out: `nLength` bytes from `pData` on, around the end. -/
structure Chunk (ring : Ring) where
  pData : Nat
  nLength : Nat
  pData_lt : pData < ring.bytes.length
  length_pos : 1 ≤ nLength
  length_le : nLength ≤ ring.bytes.length

def Chunk.bytes {ring : Ring} (chunk : Chunk ring) : List Byte :=
  (ring.bytes.rotate chunk.pData).take chunk.nLength

/-- `tempsbminfo`: the copy buffer and its recorded size. -/
structure TempSbm where
  pSbmBuf : List Byte
  nSbmBufSize : Nat
  sized : pSbmBuf.length = nSbmBufSize

/-- `CdcMemPalloc`: a block of the size asked for, whatever it holds. -/
structure Palloc where
  block : Nat → List Byte
  length_block : ∀ size, (block size).length = size

def Palloc.temp (palloc : Palloc) (size : Nat) : TempSbm :=
  { pSbmBuf := palloc.block size, nSbmBufSize := size, sized := palloc.length_block size }

def cdcMemCopy (dst : List Byte) (place : Nat) (src : List Byte) (start len : Nat) :
    Except Fault (List Byte) :=
  if place + len ≤ dst.length ∧ start + len ≤ src.length then
    .ok (dst.take place ++ (src.drop start).take len ++ dst.drop (place + len))
  else .error .outside

/-- The two memories the decoder reads a chunk from; `temp` is `sbm_back`. -/
inductive Buffer where
  | ring
  | temp
  deriving DecidableEq, Repr

/-- `pDataPtr` after the preparation, and the memory it points into. -/
structure Prepared where
  buffer : Buffer
  memory : List Byte
  pDataPtr : Nat
  deriving DecidableEq

/-- Step one of `Vp9HwDecoderDecode`: a chunk that passes the end of the ring is copied. -/
def prepareData (ring : Ring) (chunk : Chunk ring) (tempsbminfo : TempSbm) (palloc : Palloc) :
    Except Fault Prepared :=
  let pSbmBufEnd := ring.bytes.length - 1
  if chunk.pData + chunk.nLength > pSbmBufEnd then do
    let tempsbminfo :=
      if tempsbminfo.nSbmBufSize < chunk.nLength then palloc.temp (chunk.nLength + 1024)
      else tempsbminfo
    let first_part_len := pSbmBufEnd - chunk.pData + 1
    let second_part_len := chunk.nLength - first_part_len
    let copied ← cdcMemCopy tempsbminfo.pSbmBuf 0 ring.bytes chunk.pData first_part_len
    let copied ← cdcMemCopy copied first_part_len ring.bytes 0 second_part_len
    .ok { buffer := .temp, memory := copied, pDataPtr := 0 }
  else .ok { buffer := .ring, memory := ring.bytes, pDataPtr := chunk.pData }

/-! ## The frame loop -/

/-- A stretch of one of the two memories. -/
structure Span where
  buffer : Buffer
  start : Nat
  len : Nat
  deriving DecidableEq, Repr

/-- What one turn hands to `Vp9ProcessHeaders` and to `Vp9AsicStrmPosUpdate`. -/
structure Handed where
  parser : Span
  hardware : Span
  deriving DecidableEq, Repr

/-- Steps two to six, once for each of `nFrameNums` frames. -/
def frameLoop (buffer : Buffer) (real_data_len : RealDataLen) :
    Nat → Nat → Except Fault (List Handed)
  | 0, _ => .ok []
  | nFrameNums + 1, pDataPtr => do
    let header_len ← lenAt real_data_len (nFrameNums + 1 - 1)
    -- step five lowers `nFrameNums` before it reads the length again
    let data_len ← lenAt real_data_len nFrameNums
    let rest ← frameLoop buffer real_data_len nFrameNums (pDataPtr + data_len)
    -- the bus address is that of the buffer, moved by `pDataPtr` minus the buffer's start
    .ok ({ parser := ⟨buffer, pDataPtr, header_len⟩,
           hardware := ⟨buffer, pDataPtr, data_len⟩ } :: rest)

/-- One chunk through `Vp9HwDecoderDecode`; the lengths are those an earlier chunk left. -/
def decodeChunk (ring : Ring) (chunk : Chunk ring) (tempsbminfo : TempSbm) (palloc : Palloc)
    (real_data_len : RealDataLen) : Except Fault (Prepared × List Handed) := do
  let prepared ← prepareData ring chunk tempsbminfo palloc
  let lengths ← vp9ProcessDataLength (prepared.memory.drop prepared.pDataPtr) chunk.nLength
    real_data_len
  let handed ← frameLoop prepared.buffer lengths.2 lengths.1 prepared.pDataPtr
  .ok (prepared, handed)

end CedarC.Vp9
