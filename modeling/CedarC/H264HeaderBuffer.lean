import CedarC.EmulationPrevention
import Mathlib.Algebra.Order.Ring.Int
import Mathlib.Data.List.Rotate

/-!
# The header buffer of the software parser

`H264DecodeProcessData` copies a NAL unit out of the ring, of a slice at most its first
`H264_HEADER_BUF_SIZE` bytes, and shifts the bytes behind each emulation prevention byte
down. The bit reader is started with the length before that.
-/

namespace CedarC.H264HeaderBuffer

open EmulationPrevention List

def H264_HEADER_BUF_SIZE : Nat := 1024

def isSlice (nalUnitType : Nat) : Bool :=
  nalUnitType = 1 || nalUnitType = 5 || nalUnitType = 14 || nalUnitType = 20

def headerLength (nalUnitType sliceLen : Nat) : Nat :=
  if isSlice nalUnitType then
    if H264_HEADER_BUF_SIZE ≤ sliceLen then H264_HEADER_BUF_SIZE else sliceLen
  else sliceLen

/-- The ring, and where the unit starts in it. -/
structure VbvInfo where
  pVbvBuf : List UInt8
  pReadPtr : Nat

/-- The buffer of `h264Dec` with the places of the bytes left out, and the length that the
bit reader is given. -/
structure HeaderBuffer where
  pDecHeaderBuf : List UInt8
  emulateIndex : List Nat
  size_in_bits : Nat

/-- `memcpy` from other memory. -/
def copyIn (buffer : List UInt8) (place : Nat) (bytes : List UInt8) : List UInt8 :=
  buffer.take place ++ bytes ++ buffer.drop (place + bytes.length)

/-- `memcpy` within the buffer. What it does when the two parts overlap is left open. -/
def memcpy (overlapped : List UInt8 → Nat → Nat → Nat → List UInt8) (buffer : List UInt8)
    (target source length : Nat) : List UInt8 :=
  if target + length ≤ source ∨ source + length ≤ target then
    copyIn buffer target ((buffer.drop source).take length)
  else overlapped buffer target source length

/-- The loop that looks for `0x000003` in the last three bytes. -/
def emulateScan : Nat → Nat → List UInt8 → List Nat
  | _, _, [] => []
  | nextCode, i, byte :: rest =>
    if (nextCode * 256 % 2 ^ 32 ||| byte.toNat) % 2 ^ 24 = 0x000003 then
      i :: emulateScan (nextCode * 256 % 2 ^ 32 ||| byte.toNat) (i + 1) rest
    else emulateScan (nextCode * 256 % 2 ^ 32 ||| byte.toNat) (i + 1) rest

/-- The loop over `emulateIndex` that shifts down what lies between two places. -/
def shiftDown (overlapped : List UInt8 → Nat → Nat → Nat → List UInt8) :
    List Nat → Nat → List UInt8 → List UInt8
  | place :: next :: rest, index, buffer =>
    shiftDown overlapped (next :: rest) (index + (next - place - 1))
      (memcpy overlapped buffer index (place + 1) (next - place - 1))
  | _, _, buffer => buffer

/-- The buffer grows when it is too small; the new memory has any content. -/
def grown (fresh : Nat → UInt8) (pDecHeaderBuf : List UInt8) (sliceLen : Nat) : List UInt8 :=
  if pDecHeaderBuf.length < sliceLen then (List.range (sliceLen + 1024)).map fresh
  else pDecHeaderBuf

/-- The bytes of the unit up to the end of the ring, and the others from its start. -/
def ringCopy (vbv : VbvInfo) (sliceLen : Nat) (buffer : List UInt8) : List UInt8 :=
  let remainLength :=
    if vbv.pVbvBuf.length - 1 < vbv.pReadPtr + sliceLen then
      vbv.pVbvBuf.length - 1 - vbv.pReadPtr + 1
    else sliceLen
  copyIn (copyIn buffer 0 ((vbv.pVbvBuf.drop vbv.pReadPtr).take remainLength)) remainLength
    (vbv.pVbvBuf.take (sliceLen - remainLength))

/-- `H264DecodeProcessData` where `bSoftDecHeader` is set. -/
def H264DecodeProcessData (overlapped : List UInt8 → Nat → Nat → Nat → List UInt8)
    (fresh : Nat → UInt8) (vbv : VbvInfo) (pDecHeaderBuf : List UInt8)
    (nalUnitType sliceLen : Nat) : HeaderBuffer :=
  let sliceLen := headerLength nalUnitType sliceLen
  let buffer := ringCopy vbv sliceLen (grown fresh pDecHeaderBuf sliceLen)
  match emulateScan 0xFFFFFFFF 0 (buffer.take sliceLen) with
  | [] => ⟨buffer, [], sliceLen * 8 % 2 ^ 32⟩
  | place :: rest =>
    ⟨shiftDown overlapped (place :: rest ++ [sliceLen]) place buffer,
      place :: rest ++ [sliceLen], sliceLen * 8 % 2 ^ 32⟩

def taken (vbv : VbvInfo) (nalUnitType sliceLen : Nat) : List UInt8 :=
  (vbv.pVbvBuf.rotate vbv.pReadPtr).take (headerLength nalUnitType sliceLen)

/-- The buffer starts with the payload of the bytes, the bit reader is given its length, and
neither the buffer nor the list of places runs past its end. -/
structure ProducesRbsp (bytes : List UInt8) (after : HeaderBuffer) : Prop where
  content : after.pDecHeaderBuf.take (rbsp bytes).length = rbsp bytes
  length : after.size_in_bits = 8 * (rbsp bytes).length
  buffer : bytes.length ≤ after.pDecHeaderBuf.length
  places : after.emulateIndex.length ≤ 1024

section Copy

theorem copy_in_take {buffer bytes : List UInt8} {place : Nat} (inside : place ≤ buffer.length) :
    (copyIn buffer place bytes).take (place + bytes.length) = buffer.take place ++ bytes := by
  unfold copyIn
  apply take_left'
  rw [length_append, length_take, Nat.min_eq_left inside]

theorem copy_in_length {buffer bytes : List UInt8} {place : Nat}
    (inside : place + bytes.length ≤ buffer.length) :
    (copyIn buffer place bytes).length = buffer.length := by
  unfold copyIn
  rw [length_append, length_append, length_take, length_drop]
  omega

theorem grown_size (fresh : Nat → UInt8) (pDecHeaderBuf : List UInt8) (sliceLen : Nat) :
    sliceLen ≤ (grown fresh pDecHeaderBuf sliceLen).length := by
  unfold grown
  split_ifs with small
  · rw [length_map, length_range]
    omega
  · exact Nat.not_lt.mp small

variable {vbv : VbvInfo} {sliceLen : Nat} {buffer : List UInt8}

/-- The two copies bring the bytes of the unit from any position of the ring. -/
theorem ring_copy_take (start : vbv.pReadPtr < vbv.pVbvBuf.length)
    (fits : sliceLen ≤ vbv.pVbvBuf.length) (room : sliceLen ≤ buffer.length) :
    (ringCopy vbv sliceLen buffer).take sliceLen = (vbv.pVbvBuf.rotate vbv.pReadPtr).take sliceLen ∧
      (ringCopy vbv sliceLen buffer).length = buffer.length := by
  have turned : vbv.pVbvBuf.rotate vbv.pReadPtr =
      vbv.pVbvBuf.drop vbv.pReadPtr ++ vbv.pVbvBuf.take vbv.pReadPtr :=
    rotate_eq_drop_append_take start.le
  unfold ringCopy
  dsimp only
  generalize split : (if vbv.pVbvBuf.length - 1 < vbv.pReadPtr + sliceLen then
    vbv.pVbvBuf.length - 1 - vbv.pReadPtr + 1 else sliceLen) = remainLength
  have parts : remainLength ≤ sliceLen ∧ vbv.pReadPtr + remainLength ≤ vbv.pVbvBuf.length ∧
      (remainLength = sliceLen ∨ remainLength = vbv.pVbvBuf.length - vbv.pReadPtr) := by
    split_ifs at split <;> omega
  have first : ((vbv.pVbvBuf.drop vbv.pReadPtr).take remainLength).length = remainLength := by
    rw [length_take, length_drop]
    omega
  have second : (vbv.pVbvBuf.take (sliceLen - remainLength)).length = sliceLen - remainLength := by
    rw [length_take]
    omega
  have whole : (copyIn buffer 0 ((vbv.pVbvBuf.drop vbv.pReadPtr).take remainLength)).length =
      buffer.length := by
    apply copy_in_length
    omega
  have inside : remainLength ≤
      (copyIn buffer 0 ((vbv.pVbvBuf.drop vbv.pReadPtr).take remainLength)).length := by
    omega
  constructor
  · have total : remainLength + (vbv.pVbvBuf.take (sliceLen - remainLength)).length =
        sliceLen := by omega
    have taken := @copy_in_take _ (vbv.pVbvBuf.take (sliceLen - remainLength)) _ inside
    rw [total] at taken
    have start := @copy_in_take buffer ((vbv.pVbvBuf.drop vbv.pReadPtr).take remainLength) 0
      (Nat.zero_le _)
    rw [first, Nat.zero_add, take_zero, nil_append] at start
    rw [taken, start, turned]
    rcases parts.2.2 with same | wrapped
    · rw [same, Nat.sub_self, take_zero, append_nil, take_append_of_le_length]
      rw [length_drop]
      omega
    · have ring : (vbv.pVbvBuf.drop vbv.pReadPtr).length = remainLength := by
        rw [length_drop, wrapped]
      have short : (vbv.pVbvBuf.drop vbv.pReadPtr).length ≤ sliceLen := by
        rw [ring]
        exact parts.1
      rw [take_append, ring, take_of_length_le (Nat.le_of_eq ring),
        take_of_length_le short, take_take]
      have back : min (sliceLen - remainLength) vbv.pReadPtr = sliceLen - remainLength := by omega
      rw [back]
  · rw [copy_in_length (by omega), whole]

end Copy

theorem emulate_scan_places (bytes : List UInt8) {nextCode : Nat} {before last : UInt8}
    (window : nextCode % 2 ^ 16 = before.toNat * 256 + last.toNat) (i : Nat) :
    emulateScan nextCode i bytes = preventing before last i bytes := by
  induction bytes generalizing nextCode before last i with
  | nil => rfl
  | cons byte rest later =>
    have small := byte.toNat_lt
    have smallLast := last.toNat_lt
    have smallBefore := before.toNat_lt
    have shifted : nextCode * 256 % 2 ^ 32 ||| byte.toNat =
        nextCode * 256 % 2 ^ 32 + byte.toNat := by
      have value : nextCode * 256 % 2 ^ 32 = 2 ^ 8 * (nextCode % 2 ^ 24) := by omega
      rw [value]
      exact (Nat.two_pow_add_eq_or_of_lt small _).symm
    have next : (nextCode * 256 % 2 ^ 32 + byte.toNat) % 2 ^ 16 =
        last.toNat * 256 + byte.toNat := by omega
    have found : (nextCode * 256 % 2 ^ 32 + byte.toNat) % 2 ^ 24 = 0x000003 ↔
        prevents before last byte := by
      unfold prevents
      rw [← UInt8.toNat_inj, ← UInt8.toNat_inj, ← UInt8.toNat_inj]
      have zero : (0 : UInt8).toNat = 0 := rfl
      have three : (3 : UInt8).toNat = 3 := rfl
      rw [zero, three]
      omega
    unfold emulateScan preventing
    rw [shifted, later next]
    by_cases pattern : prevents before last byte
    · rw [if_pos (found.mpr pattern), if_pos pattern]
    · rw [if_neg fun other => pattern (found.mp other), if_neg pattern]

variable {overlapped : List UInt8 → Nat → Nat → Nat → List UInt8} {fresh : Nat → UInt8}
  {vbv : VbvInfo} {pDecHeaderBuf : List UInt8} {nalUnitType sliceLen : Nat}

theorem header_length_le (nalUnitType sliceLen : Nat) :
    headerLength nalUnitType sliceLen ≤ sliceLen := by
  unfold headerLength
  split_ifs with _ long
  · exact long
  · exact Nat.le_refl _
  · exact Nat.le_refl _

theorem taken_length (fits : sliceLen ≤ vbv.pVbvBuf.length) :
    (taken vbv nalUnitType sliceLen).length = headerLength nalUnitType sliceLen := by
  have short := header_length_le nalUnitType sliceLen
  unfold taken
  rw [length_take, length_rotate]
  omega

def copied (fresh : Nat → UInt8) (vbv : VbvInfo) (pDecHeaderBuf : List UInt8)
    (nalUnitType sliceLen : Nat) : List UInt8 :=
  ringCopy vbv (headerLength nalUnitType sliceLen)
    (grown fresh pDecHeaderBuf (headerLength nalUnitType sliceLen))

theorem copied_taken (start : vbv.pReadPtr < vbv.pVbvBuf.length)
    (fits : sliceLen ≤ vbv.pVbvBuf.length) :
    (copied fresh vbv pDecHeaderBuf nalUnitType sliceLen).take
        (headerLength nalUnitType sliceLen) = taken vbv nalUnitType sliceLen ∧
      headerLength nalUnitType sliceLen ≤
        (copied fresh vbv pDecHeaderBuf nalUnitType sliceLen).length := by
  have room := grown_size fresh pDecHeaderBuf (headerLength nalUnitType sliceLen)
  have result := ring_copy_take start
    (Nat.le_trans (header_length_le nalUnitType sliceLen) fits) room
  unfold copied
  rw [result.2]
  exact ⟨result.1, room⟩

theorem process_data_places (start : vbv.pReadPtr < vbv.pVbvBuf.length)
    (fits : sliceLen ≤ vbv.pVbvBuf.length) :
    H264DecodeProcessData overlapped fresh vbv pDecHeaderBuf nalUnitType sliceLen =
      match preventing 255 255 0 (taken vbv nalUnitType sliceLen) with
      | [] => ⟨copied fresh vbv pDecHeaderBuf nalUnitType sliceLen, [],
          headerLength nalUnitType sliceLen * 8 % 2 ^ 32⟩
      | place :: rest =>
        ⟨shiftDown overlapped (place :: rest ++ [headerLength nalUnitType sliceLen]) place
          (copied fresh vbv pDecHeaderBuf nalUnitType sliceLen),
          place :: rest ++ [headerLength nalUnitType sliceLen],
          headerLength nalUnitType sliceLen * 8 % 2 ^ 32⟩ := by
  have bytes := (@copied_taken fresh vbv pDecHeaderBuf nalUnitType sliceLen start fits).1
  have scan := emulate_scan_places (taken vbv nalUnitType sliceLen)
    (show 0xFFFFFFFF % 2 ^ 16 = (255 : UInt8).toNat * 256 + (255 : UInt8).toNat from rfl) 0
  rw [← scan, ← bytes]
  rfl

/-- The buffer holds the payload with its length where no byte had to be left out. -/
theorem produces_rbsp_iff (start : vbv.pReadPtr < vbv.pVbvBuf.length)
    (fits : sliceLen ≤ vbv.pVbvBuf.length) :
    ProducesRbsp (taken vbv nalUnitType sliceLen)
        (H264DecodeProcessData overlapped fresh vbv pDecHeaderBuf nalUnitType sliceLen) ↔
      ¬ [0, 0, 3] <:+: taken vbv nalUnitType sliceLen ∧
        (taken vbv nalUnitType sliceLen).length < 2 ^ 29 := by
  have bytes := @copied_taken fresh vbv pDecHeaderBuf nalUnitType sliceLen start fits
  have size := @taken_length vbv nalUnitType sliceLen fits
  have shorter := rbsp_length (taken vbv nalUnitType sliceLen)
  rw [process_data_places start fits, ← no_pattern_iff]
  generalize copied fresh vbv pDecHeaderBuf nalUnitType sliceLen = buffer at bytes ⊢
  generalize taken vbv nalUnitType sliceLen = unit at bytes size shorter ⊢
  generalize headerLength nalUnitType sliceLen = length at bytes size ⊢
  cases found : preventing 255 255 0 unit with
  | nil =>
    have same : rbsp unit = unit := by rw [← kept_rbsp, kept_all found]
    dsimp only
    rw [and_iff_right rfl]
    constructor
    · intro produced
      have count := produced.length
      dsimp only at count
      rw [same, size] at count
      omega
    · intro short
      constructor
      · rw [same, size, bytes.1]
      · dsimp only
        rw [same, size]
        omega
      · rw [size]
        exact bytes.2
      · exact Nat.zero_le _
  | cons place rest =>
    dsimp only
    apply iff_of_false
    · intro produced
      have count := produced.length
      have list := produced.places
      dsimp only at count list
      rw [found, length_cons] at shorter
      rw [length_append, length_cons, length_singleton] at list
      omega
    · exact fun both => (nomatch both.1)

def zeroed : Nat → UInt8 := fun _ => 0

def moved : List UInt8 → Nat → Nat → Nat → List UInt8 := fun buffer target source length =>
  copyIn buffer target ((buffer.drop source).take length)

def roundRing : VbvInfo := ⟨[2, 0, 9, 104, 1], 3⟩

theorem round_ring_payload :
    ProducesRbsp [104, 1, 2, 0] (H264DecodeProcessData moved zeroed roundRing [] 8 4) := by
  have bytes : taken roundRing 8 4 = [104, 1, 2, 0] := by decide
  have result := (@produces_rbsp_iff moved zeroed roundRing [] 8 4 (by decide) (by decide)).mpr
  rw [bytes] at result
  exact result ⟨by decide, by decide⟩

/-- The bit reader is given five bytes of a unit that has four. -/
theorem emulated_unit_length : ¬ ProducesRbsp (taken ⟨[104, 0, 0, 3, 1], 0⟩ 8 5)
      (H264DecodeProcessData moved zeroed ⟨[104, 0, 0, 3, 1], 0⟩ [] 8 5) := by
  intro produced
  exact absurd produced.length (by decide)

end CedarC.H264HeaderBuffer
