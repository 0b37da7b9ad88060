import CedarC.Rasters

/-!
# The software rotations of a picture

`RotatePicture90Degree`, `RotatePicture180Degree` and `RotatePicture270Degree` copy the
samples of a picture one by one. The index computations of each are kept as the source
has them; the copies are listed with the plane that each belongs to.
-/

namespace CedarC.PictureRotation

open Rasters

/-- The formats that the rotations tell apart. -/
inductive PixelFormat
  | PIXEL_FORMAT_YV12
  | PIXEL_FORMAT_NV21
  | PIXEL_FORMAT_NV12
  | other
deriving DecidableEq

/-- Addresses count bytes of one memory. -/
structure VideoPicture where
  ePixelFormat : PixelFormat
  nWidth : Nat
  nHeight : Nat
  nLineStride : Nat
  nTopOffset : Int
  nLeftOffset : Int
  nBottomOffset : Int
  nRightOffset : Int
  pData0 : Nat
  pData1 : Nat
  pData2 : Nat
deriving DecidableEq

def PixelFormat.supported : PixelFormat → Bool
  | .PIXEL_FORMAT_YV12 | .PIXEL_FORMAT_NV21 | .PIXEL_FORMAT_NV12 => true
  | .other => false

def PixelFormat.planar (ePixelFormat : PixelFormat) : Bool := ePixelFormat = .PIXEL_FORMAT_YV12

def align16 (size : Nat) : Nat := (size + 15) / 16 * 16

namespace VideoPicture

variable (picture : VideoPicture)

def nMemSizeY : Nat := picture.nLineStride * align16 picture.nHeight

def nMemSizeC : Nat := picture.nMemSizeY / 4

/-- The pointers to the chroma samples as they follow from the size of the picture. -/
def setPlanes (ePixelFormat : PixelFormat) : VideoPicture :=
  if ePixelFormat.planar then
    { picture with
      pData1 := picture.pData0 + picture.nMemSizeY
      pData2 := picture.pData0 + picture.nMemSizeY + picture.nMemSizeC }
  else if ePixelFormat.supported then
    { picture with pData1 := picture.pData0 + picture.nMemSizeY }
  else picture

end VideoPicture

section Loops

inductive Degree
  | deg90
  | deg180
  | deg270
deriving DecidableEq

/-- The destination of the sample in row `j` and column `i` of a plane. -/
def Degree.index (nHeight nWidth nLineStride nRotateLineStride j i : Nat) : Degree → Nat
  | .deg90 => i * nRotateLineStride + nHeight - j - 1
  | .deg180 => (nHeight - 1 - j) * nLineStride + (nWidth - 1 - i)
  | .deg270 => (nWidth - 1 - i) * nRotateLineStride + j

def Degree.firstIndex (nHeight nWidth nLineStride nRotateLineStride j i : Nat) : Degree → Nat
  | .deg90 => 2 * i * nRotateLineStride + 2 * nHeight - (2 * j + 1) - 1
  | .deg180 => 2 * (nHeight - 1 - j) * nLineStride + 2 * (nWidth - 1 - i)
  | .deg270 => 2 * (nWidth - 1 - i) * nRotateLineStride + 2 * j

def Degree.secondIndex (nHeight nWidth nLineStride nRotateLineStride j i : Nat) : Degree → Nat
  | .deg90 => 2 * i * nRotateLineStride + 2 * nHeight - (2 * j) - 1
  | .deg180 => 2 * (nHeight - 1 - j) * nLineStride + 2 * (nWidth - 1 - i) + 1
  | .deg270 => 2 * (nWidth - 1 - i) * nRotateLineStride + 2 * j + 1

inductive Plane
  | Y
  | C1
  | C2
deriving DecidableEq

structure PlaneMove where
  plane : Plane
  move : Move
deriving DecidableEq

variable (degree : Degree) (pPictureIn pPictureOut : VideoPicture)

/-- The loops over the samples of `pData0`. -/
def lumaMoves : List PlaneMove :=
  (List.range pPictureIn.nHeight).flatMap fun j =>
    (List.range pPictureIn.nWidth).map fun i =>
      { plane := .Y
        move :=
          { dst := pPictureOut.pData0 + degree.index pPictureIn.nHeight pPictureIn.nWidth
              pPictureIn.nLineStride pPictureOut.nLineStride j i
            src := pPictureIn.pData0 + (j * pPictureIn.nLineStride + i) } }

/-- The loops over the samples of `pData1` and `pData2`. -/
def planarMoves : List PlaneMove :=
  let nHeight := pPictureIn.nHeight / 2
  let nWidth := pPictureIn.nWidth / 2
  let nLineStride := pPictureIn.nLineStride / 2
  let nRotateLineStride := pPictureOut.nLineStride / 2
  (List.range nHeight).flatMap fun j =>
    (List.range nWidth).flatMap fun i =>
      let index := degree.index nHeight nWidth nLineStride nRotateLineStride j i
      [{ plane := .C1
         move := ⟨pPictureOut.pData1 + index, pPictureIn.pData1 + (j * nLineStride + i)⟩ },
       { plane := .C2
         move := ⟨pPictureOut.pData2 + index, pPictureIn.pData2 + (j * nLineStride + i)⟩ }]

/-- The loops over the pairs of `pData1`. -/
def pairMoves : List PlaneMove :=
  let nHeight := pPictureIn.nHeight / 2
  let nWidth := pPictureIn.nWidth / 2
  let nLineStride := pPictureIn.nLineStride / 2
  let nRotateLineStride := pPictureOut.nLineStride / 2
  (List.range nHeight).flatMap fun j =>
    (List.range nWidth).flatMap fun i =>
      let first := degree.firstIndex nHeight nWidth nLineStride nRotateLineStride j i
      let second := degree.secondIndex nHeight nWidth nLineStride nRotateLineStride j i
      [{ plane := .C1
         move :=
           ⟨pPictureOut.pData1 + first, pPictureIn.pData1 + (2 * j * nLineStride + 2 * i)⟩ },
       { plane := .C1
         move :=
           ⟨pPictureOut.pData1 + second, pPictureIn.pData1 + (2 * j * nLineStride + 2 * i + 1)⟩ }]

def rotateMoves : List PlaneMove :=
  if pPictureOut.ePixelFormat.planar then
    lumaMoves degree pPictureIn pPictureOut ++ planarMoves degree pPictureIn pPictureOut
  else if pPictureOut.ePixelFormat.supported then
    lumaMoves degree pPictureIn pPictureOut ++ pairMoves degree pPictureIn pPictureOut
  else []

end Loops

section Rotations

variable {Byte : Type*}

/-- The memory and both pictures after a rotation; the result 0 is left out. -/
structure Rotated (Byte : Type*) where
  mem : Nat → Byte
  pPictureIn : VideoPicture
  pPictureOut : VideoPicture

def quarterSize (pPictureIn pPictureOut : VideoPicture) : VideoPicture :=
  { pPictureOut with
    nLineStride := align16 pPictureIn.nHeight
    nHeight := pPictureIn.nWidth
    nWidth := pPictureIn.nHeight }

def halfSize (pPictureIn pPictureOut : VideoPicture) : VideoPicture :=
  { pPictureOut with
    nLineStride := pPictureIn.nLineStride
    nHeight := pPictureIn.nHeight
    nWidth := pPictureIn.nWidth }

/-- The four offsets as each rotation stores them; `nBottomOffset` of the source picture is
not read. -/
def Degree.offsets (pPictureIn pPictureOut : VideoPicture) : Degree → VideoPicture
  | .deg90 =>
    { pPictureOut with
      nLeftOffset := pPictureIn.nHeight - pPictureIn.nTopOffset
      nBottomOffset := pPictureOut.nHeight - (pPictureIn.nWidth - pPictureIn.nRightOffset)
      nRightOffset := pPictureOut.nWidth - pPictureIn.nTopOffset
      nTopOffset := pPictureIn.nLeftOffset }
  | .deg180 =>
    { pPictureOut with
      nLeftOffset := pPictureIn.nWidth - pPictureIn.nRightOffset
      nBottomOffset := pPictureOut.nHeight - pPictureIn.nTopOffset
      nRightOffset := pPictureOut.nWidth - pPictureIn.nLeftOffset
      nTopOffset := pPictureIn.nHeight - pPictureIn.nTopOffset }
  | .deg270 =>
    { pPictureOut with
      nLeftOffset := pPictureIn.nTopOffset
      nBottomOffset := pPictureOut.nHeight - pPictureIn.nLeftOffset
      nRightOffset := pPictureOut.nWidth - (pPictureIn.nHeight - pPictureIn.nTopOffset)
      nTopOffset := pPictureIn.nWidth - pPictureIn.nRightOffset }

/-- The pictures as the loops of a rotation find them. -/
structure Prepared where
  pPictureIn : VideoPicture
  pPictureOut : VideoPicture

def prepare90 (pPictureIn pPictureOut : VideoPicture) : Prepared where
  pPictureIn := pPictureIn.setPlanes pPictureOut.ePixelFormat
  pPictureOut := (quarterSize pPictureIn pPictureOut).setPlanes pPictureOut.ePixelFormat

def prepare180 (pPictureIn pPictureOut : VideoPicture) : Prepared where
  pPictureIn := pPictureIn.setPlanes pPictureOut.ePixelFormat
  pPictureOut := (halfSize pPictureIn pPictureOut).setPlanes pPictureOut.ePixelFormat

/-- With pairs of chroma samples `pData1` of the result stays as it was. -/
def prepare270 (pPictureIn pPictureOut : VideoPicture) : Prepared where
  pPictureIn := pPictureIn.setPlanes pPictureOut.ePixelFormat
  pPictureOut :=
    if pPictureOut.ePixelFormat.planar then
      (quarterSize pPictureIn pPictureOut).setPlanes pPictureOut.ePixelFormat
    else quarterSize pPictureIn pPictureOut

def Degree.prepare (pPictureIn pPictureOut : VideoPicture) : Degree → Prepared
  | .deg90 => prepare90 pPictureIn pPictureOut
  | .deg180 => prepare180 pPictureIn pPictureOut
  | .deg270 => prepare270 pPictureIn pPictureOut

/-- The loops of a rotation and what it stores behind them. -/
def Degree.rotate (degree : Degree) (mem : Nat → Byte) (pPictureIn pPictureOut : VideoPicture) :
    Rotated Byte :=
  let prepared := degree.prepare pPictureIn pPictureOut
  { mem := copyMoves
      ((rotateMoves degree prepared.pPictureIn prepared.pPictureOut).map PlaneMove.move) mem
    pPictureIn := prepared.pPictureIn
    pPictureOut := degree.offsets prepared.pPictureIn prepared.pPictureOut }

def RotatePicture90Degree (mem : Nat → Byte) (pPictureIn pPictureOut : VideoPicture) :
    Rotated Byte := Degree.deg90.rotate mem pPictureIn pPictureOut

def RotatePicture180Degree (mem : Nat → Byte) (pPictureIn pPictureOut : VideoPicture) :
    Rotated Byte := Degree.deg180.rotate mem pPictureIn pPictureOut

def RotatePicture270Degree (mem : Nat → Byte) (pPictureIn pPictureOut : VideoPicture) :
    Rotated Byte := Degree.deg270.rotate mem pPictureIn pPictureOut

end Rotations

end CedarC.PictureRotation
