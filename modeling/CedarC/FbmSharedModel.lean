import CedarC.FbmOwnership
import Mathlib.Data.Nat.Bitwise

/-!
# One frame buffer manager for the two streams of a 3D video

With `bTwoStreamShareOneFbm` the minor stream owns a second manager, but decoder
and renderer of both streams work on the pictures of the first. `nBufStatus` says
who uses a picture; the prologues of four calls read and write it before the code
for a single stream is entered. The first manager is the one of `FbmFrameModel`.
-/

namespace CedarC.FbmSharedModel

open FbmFrameModel FbmFramePool FbmOwnership

inductive Stream where
  | major
  | minor
deriving DecidableEq

/-- The flags of `nBufStatus`. -/
inductive UseFlag where
  | MAJOR_DECODER_USE_FLAG
  | MINOR_DECODER_USE_FLAG
  | MAJOR_DISP_USE_FLAG
  | MINOR_DISP_USE_FLAG
  | MINOR_NEED_USE_FLAG
deriving DecidableEq

def UseFlag.value : UseFlag → Nat
  | .MAJOR_DECODER_USE_FLAG => 1
  | .MINOR_DECODER_USE_FLAG => 2
  | .MAJOR_DISP_USE_FLAG => 4
  | .MINOR_DISP_USE_FLAG => 8
  | .MINOR_NEED_USE_FLAG => 16

def inUse (nBufStatus : Nat) (flag : UseFlag) : Bool := nBufStatus &&& flag.value ≠ 0

def putInUse (flag : UseFlag) (nBufStatus : Nat) : Nat := nBufStatus ||| flag.value

def takeOutOfUse (flag : UseFlag) (nBufStatus : Nat) : Nat :=
  nBufStatus &&& (0xffffffff ^^^ flag.value)

def UseFlag.bit : UseFlag → Nat
  | .MAJOR_DECODER_USE_FLAG => 0
  | .MINOR_DECODER_USE_FLAG => 1
  | .MAJOR_DISP_USE_FLAG => 2
  | .MINOR_DISP_USE_FLAG => 3
  | .MINOR_NEED_USE_FLAG => 4

theorem in_use_iff_bit (nBufStatus : Nat) (flag : UseFlag) :
    inUse nBufStatus flag = nBufStatus.testBit flag.bit := by
  have power : flag.value = 2 ^ flag.bit := by cases flag <;> rfl
  unfold inUse
  rw [power, Nat.and_two_pow]
  cases nBufStatus.testBit flag.bit <;> simp

@[simp] theorem in_use_put (nBufStatus : Nat) (flag other : UseFlag) :
    inUse (putInUse flag nBufStatus) other = (inUse nBufStatus other || decide (flag = other)) := by
  rw [in_use_iff_bit, in_use_iff_bit, putInUse, Nat.testBit_or]
  cases flag <;> cases other <;> rfl

@[simp] theorem in_use_take (nBufStatus : Nat) (flag other : UseFlag) :
    inUse (takeOutOfUse flag nBufStatus) other =
      (inUse nBufStatus other && decide (flag ≠ other)) := by
  rw [in_use_iff_bit, in_use_iff_bit, takeOutOfUse, Nat.testBit_and]
  cases flag <;> cases other <;> rfl

@[simp] theorem in_use_zero (flag : UseFlag) : inUse 0 flag = false := by
  cases flag <;> rfl

structure SharedFbm where
  pFbmFirst : Fbm
  pFbmSecond : Fbm
  pMajorDecoderFrame : Option Nat
  pMajorDispFrame : Option Nat

def status (fbm : Fbm) (picture : Nat) : Nat := (fbm.pFrames picture).vpicture.nBufStatus

def setStatus (fbm : Fbm) (picture : Nat) (change : Nat → Nat) : Fbm :=
  fbm.setPicture picture fun vpicture =>
    { vpicture with nBufStatus := change vpicture.nBufStatus }

/-- `FbmRequestBuffer`; the minor stream gets the frame the major one got last. -/
def sharedRequestBuffer (shared : SharedFbm) : Stream → SharedFbm × Option Nat
  | .major =>
    match fbmRequestBuffer shared.pFbmFirst with
    | (fbm, none) => ({ shared with pFbmFirst := fbm, pMajorDecoderFrame := none }, none)
    | (fbm, some node) =>
      ({ shared with
        pFbmFirst := setStatus fbm node fun nBufStatus =>
          putInUse .MINOR_NEED_USE_FLAG (putInUse .MAJOR_DECODER_USE_FLAG nBufStatus)
        pMajorDecoderFrame := some node }, some node)
  | .minor =>
    match shared.pMajorDecoderFrame with
    | none => (shared, none)
    | some node =>
      ({ shared with
        pFbmFirst := setStatus shared.pFbmFirst node fun nBufStatus =>
          takeOutOfUse .MINOR_NEED_USE_FLAG
            (putInUse .MINOR_DECODER_USE_FLAG nBufStatus) }, some node)

/-- `FbmReturnBuffer`: whoever returns last goes on with the first manager. -/
def sharedReturnBuffer (shared : SharedFbm) (stream : Stream) (pVPicture : Nat)
    (bValidPicture : Bool) : Option SharedFbm :=
  match stream with
  | .major =>
    let fbm := setStatus shared.pFbmFirst pVPicture (takeOutOfUse .MAJOR_DECODER_USE_FLAG)
    if inUse (status fbm pVPicture) .MINOR_DECODER_USE_FLAG then
      some { shared with pFbmFirst := fbm }
    else if bValidPicture && inUse (status fbm pVPicture) .MINOR_NEED_USE_FLAG then
      some { shared with pFbmFirst := fbm }
    else
      (fbmReturnBuffer fbm pVPicture bValidPicture).map fun fbm =>
        { shared with pFbmFirst := fbm }
  | .minor =>
    let fbm := setStatus shared.pFbmFirst pVPicture (takeOutOfUse .MINOR_DECODER_USE_FLAG)
    if inUse (status fbm pVPicture) .MAJOR_DECODER_USE_FLAG then
      some { shared with pFbmFirst := fbm }
    else
      (fbmReturnBuffer fbm pVPicture bValidPicture).map fun fbm =>
        { shared with pFbmFirst := fbm }

/-- `FbmRequestPicture`; without a frame of the major display the minor one
dereferences a null pointer, which is the result `none`. -/
def sharedRequestPicture (shared : SharedFbm) : Stream → Option (SharedFbm × Option Nat)
  | .major =>
    let (fbm, result) := fbmRequestPicture shared.pFbmFirst
    some ({ shared with pFbmFirst := fbm, pMajorDispFrame := result }, result)
  | .minor =>
    shared.pMajorDispFrame.map fun node =>
      ({ shared with
        pFbmFirst := setStatus shared.pFbmFirst node (putInUse .MINOR_DISP_USE_FLAG) },
        some node)

/-- The rest of `FbmReturnPicture` on the second manager, which no picture that is
shown belongs to: only an id with the forbid tag is not refused. -/
def returnToSecond (shared : SharedFbm) (pVPicture : Nat) : Option (SharedFbm × Int) :=
  let index := shared.pFbmFirst.nID pVPicture
  let second := shared.pFbmSecond
  if second.nMaxFrameNum ≤ index ∧ FRM_FORBID_USE_TAG ≤ index then
    let node := index - FRM_FORBID_USE_TAG
    if (second.flag node).bUsedByRender || (second.flag node).bInValidPictureQueue ||
        (second.flag node).bAlreadyDisplayed then some (shared, -1)
    else
      (fbmEnqueue second .pEmptyBufferQueue node).map fun second =>
        ({ shared with
          pFbmFirst := shared.pFbmFirst.setPicture pVPicture fun picture =>
            { picture with nID := picture.nID - FRM_FORBID_USE_TAG }
          pFbmSecond := { second with nEmptyBufferNum := second.nEmptyBufferNum + 1 } }, 0)
  else some (shared, -1)

/-- `FbmReturnPicture`: the minor stream goes on with its own manager, where
`FbmReturnBuffer` has changed to the first. -/
def sharedReturnPicture (shared : SharedFbm) (stream : Stream) (pVPicture : Nat) :
    Option (SharedFbm × Int) :=
  match stream with
  | .major =>
    let fbm := setStatus shared.pFbmFirst pVPicture (takeOutOfUse .MAJOR_DISP_USE_FLAG)
    if inUse (status fbm pVPicture) .MINOR_DISP_USE_FLAG then
      some ({ shared with pFbmFirst := fbm }, 0)
    else
      (fbmReturnPicture fbm pVPicture).map fun (fbm, result) =>
        ({ shared with pFbmFirst := fbm }, result)
  | .minor =>
    let fbm := setStatus shared.pFbmFirst pVPicture (takeOutOfUse .MINOR_DISP_USE_FLAG)
    if inUse (status fbm pVPicture) .MAJOR_DISP_USE_FLAG then
      some ({ shared with pFbmFirst := fbm }, 0)
    else returnToSecond { shared with pFbmFirst := fbm } pVPicture

/-- The two managers with what decoders, renderers, the release client and the
application (whose buffers are returned through the major stream) hold. -/
structure SharedSystem where
  shared : SharedFbm
  decoderHolds : Stream → Nat → Bool
  renderHolds : Stream → Nat → Bool
  releaseHolds : Nat → Bool

abbrev SharedSystem.first (system : SharedSystem) : Fbm := system.shared.pFbmFirst

def SharedSystem.start (nFrameNum : Nat) : Option SharedSystem :=
  (fbmCreateBuffer nFrameNum true).bind fun first =>
    (fbmCreateBuffer nFrameNum true).map fun second =>
      { shared := ⟨first, second, none, none⟩
        decoderHolds := fun _ _ => false
        renderHolds := fun _ _ => false
        releaseHolds := fun _ => false }

def hold (holds : Stream → Nat → Bool) (stream : Stream) (picture : Nat) (held : Bool) :
    Stream → Nat → Bool :=
  Function.update holds stream (Function.update (holds stream) picture held)

inductive SharedOp where
  | requestBuffer (stream : Stream)
  | returnBuffer (stream : Stream) (picture : Nat) (bValidPicture : Bool)
  | requestPicture (stream : Stream)
  | returnPicture (stream : Stream) (picture : Nat)
  | flush
  | setNewDispRelease
  | requestReleasePicture
  | returnReleasePicture (nBufId : Nat) (bForbidUseFlag : Bool)
  | setFbmBufAddress (nBufId : Nat) (bForbidUseFlag : Bool)
deriving DecidableEq

/-- The calls on the first manager that have no prologue for the minor stream. -/
def withFirst (system : SharedSystem) (fbm : Fbm) : SharedSystem :=
  { system with shared := { system.shared with pFbmFirst := fbm } }

def exec (system : SharedSystem) : SharedOp → Option SharedSystem
  | .requestBuffer stream =>
    match sharedRequestBuffer system.shared stream with
    | (shared, none) => some { system with shared := shared }
    | (shared, some node) =>
      some { system with
        shared := shared
        decoderHolds := hold system.decoderHolds stream node true }
  | .returnBuffer stream picture bValidPicture =>
    (sharedReturnBuffer system.shared stream picture bValidPicture).map fun shared =>
      { system with
        shared := shared
        decoderHolds := hold system.decoderHolds stream picture false }
  | .requestPicture stream =>
    (sharedRequestPicture system.shared stream).map fun
      | (shared, none) => { system with shared := shared }
      | (shared, some node) =>
        { system with
          shared := shared
          renderHolds := hold system.renderHolds stream node true }
  | .returnPicture stream picture =>
    (sharedReturnPicture system.shared stream picture).map fun (shared, result) =>
      { system with
        shared := shared
        renderHolds :=
          if result = 0 then hold system.renderHolds stream picture false
          else system.renderHolds }
  | .flush => (fbmFlush system.first).map (withFirst system)
  | .setNewDispRelease => (fbmSetNewDispRelease system.first).map (withFirst system)
  | .requestReleasePicture =>
    match fbmRequestReleasePicture system.first with
    | (fbm, none) => some (withFirst system fbm)
    | (fbm, some node) =>
      some { withFirst system fbm with
        releaseHolds := Function.update system.releaseHolds node true }
  | .returnReleasePicture nBufId bForbidUseFlag =>
    (fbmReturnReleasePicture system.first nBufId bForbidUseFlag).map fun
      | (fbm, none) => withFirst system fbm
      | (fbm, some node) =>
        { withFirst system fbm with
          releaseHolds := Function.update system.releaseHolds node false
          renderHolds := hold system.renderHolds .major node bForbidUseFlag }
  | .setFbmBufAddress nBufId bForbidUseFlag =>
    (fbmSetFbmBufAddress system.first nBufId bForbidUseFlag).map fun (fbm, node) =>
      { withFirst system fbm with
        renderHolds := hold system.renderHolds .major node bForbidUseFlag }

def Legal (system : SharedSystem) : SharedOp → Prop
  | .returnBuffer stream picture _ => system.decoderHolds stream picture = true
  | .returnPicture stream picture => system.renderHolds stream picture = true
  | .setFbmBufAddress _ _ => system.first.nValidBufNum < system.first.nMaxFrameNum
  | _ => True

instance (system : SharedSystem) : ∀ op, Decidable (Legal system op)
  | .returnBuffer _ _ _ | .returnPicture _ _ => inferInstanceAs (Decidable (_ = _))
  | .setFbmBufAddress _ _ => inferInstanceAs (Decidable (_ < _))
  | .requestBuffer _ | .requestPicture _ | .flush | .setNewDispRelease | .requestReleasePicture
  | .returnReleasePicture _ _ => inferInstanceAs (Decidable True)

def awaitsMinor (system : SharedSystem) (picture : Nat) : Bool :=
  system.shared.pMajorDecoderFrame = some picture &&
    (system.first.flag picture).bUsedByDecoder &&
    inUse (status system.first picture) .MINOR_NEED_USE_FLAG

/-- The minor stream follows the major one: its decoder asks for each picture before
the next one is given out and while it is being decoded, its renderer asks and returns
while the major renderer holds the picture. -/
def PairSafe (system : SharedSystem) : SharedOp → Prop
  | .requestBuffer .major =>
    ∀ picture ∈ system.shared.pMajorDecoderFrame, awaitsMinor system picture = false
  | .requestBuffer .minor =>
    ∀ picture ∈ system.shared.pMajorDecoderFrame, (system.first.flag picture).bUsedByDecoder = true
  | .requestPicture .minor =>
    ∃ picture ∈ system.shared.pMajorDispFrame,
      inUse (status system.first picture) .MAJOR_DISP_USE_FLAG = true
  | .returnPicture .minor picture =>
    inUse (status system.first picture) .MAJOR_DISP_USE_FLAG = true
  | .returnReleasePicture _ _ =>
    ∀ node < system.first.nMaxFrameNum, LooksReleased system.first node →
      (∀ earlier < node, ¬ LooksReleased system.first earlier) → system.releaseHolds node = true
  | _ => True

instance (system : SharedSystem) : ∀ op, Decidable (PairSafe system op)
  | .requestBuffer .major | .requestBuffer .minor =>
    inferInstanceAs (Decidable (∀ _ ∈ (_ : Option Nat), _))
  | .requestPicture .minor => inferInstanceAs (Decidable (∃ _ ∈ (_ : Option Nat), _))
  | .returnPicture .minor _ => inferInstanceAs (Decidable (_ = _))
  | .returnReleasePicture _ _ => inferInstanceAs (Decidable (∀ node < _, _ → _ → _))
  | .returnBuffer _ _ _ | .requestPicture .major | .returnPicture .major _ | .flush
  | .setNewDispRelease | .requestReleasePicture | .setFbmBufAddress _ _ =>
    inferInstanceAs (Decidable True)

end CedarC.FbmSharedModel
