import CedarC.H265PicOrder
import CedarC.H265ShortTermRps

/-!
# The decoded picture buffer of the H265 decoder

The entries of `DPB` with their FBM pictures, `HevcOutputFrame` with the list of
time stamps, the reference picture set of a frame and `HevcSetNewRef`. What goes to
and comes from the frame buffer managers is recorded in the order of the calls.
-/

namespace CedarC.H265Dpb

open FixedWidth
open CedarC.H265PicOrder (HevcNaluType HEVC_IS_IDR HEVC_IS_BLA)
open CedarC.H265ShortTermRps (HevcShortTermRPS)

def HEVC_INT_MAX : Int := 0x7fffffff
def HEVC_INT_MINI : Int := -(HEVC_INT_MAX - 1)
def HEVC_MAX_DPB_SIZE : Nat := 16 + 4
def HEVC_MAX_REFS : Nat := 16
def HEVC_PTS_LIST_SIZE : Nat := HEVC_MAX_DPB_SIZE + 4
def HEVC_MAX_FRAMES_ONE_SQUEUE : Nat := 256
def HEVC_POC_INIT_VALUE : Int := 0x1fffffff

inductive HevcDecodeFrameResult
  | HEVC_RESULT_OK
  | HEVC_RESULT_NULA_DATA_ERROR
  | HEVC_RESULT_NO_FRAME_BUFFER
  | HEVC_RESULT_PICTURES_SIZE_CHANGE
  | HEVC_RESULT_RESET_INTRA_DECODER
  | HEVC_RESULT_DROP_THE_FRAME
  | HEVC_RESULT_INIT_FBM_FAILED
deriving DecidableEq

/-- The result of `HevcOutputFrame`; the first one is 0. -/
inductive OutputResult
  | HEVC_RESULT_OK
  | VDECODE_RESULT_FRAME_DECODED
  | VDECODE_RESULT_KEYFRAME_DECODED
deriving DecidableEq

/-- The three bits of `bFlags`. -/
structure FrameFlags where
  output : Bool := false
  shortRef : Bool := false
  longRef : Bool := false
deriving DecidableEq

namespace FrameFlags

def HEVC_FRAME_FLAG_OUTPUT : FrameFlags := { output := true }
def HEVC_FRAME_FLAG_SHORT_REF : FrameFlags := { shortRef := true }
def HEVC_FRAME_FLAG_LONG_REF : FrameFlags := { longRef := true }

def union (left right : FrameFlags) : FrameFlags :=
  ⟨left.output || right.output, left.shortRef || right.shortRef, left.longRef || right.longRef⟩

def without (left right : FrameFlags) : FrameFlags :=
  ⟨left.output && !right.output, left.shortRef && !right.shortRef, left.longRef && !right.longRef⟩

def isZero (bFlags : FrameFlags) : Bool := bFlags = {}

/-- The mask of `HevcClearRefs`. -/
def bothRefs : FrameFlags := union HEVC_FRAME_FLAG_SHORT_REF HEVC_FRAME_FLAG_LONG_REF

def all : FrameFlags := union HEVC_FRAME_FLAG_OUTPUT bothRefs

end FrameFlags

/-- The fields of an entry that the reference and the output logic use. -/
structure HevcFrame where
  pFbmBuffer : Option Nat := none
  pSecFbmBuffer : Option Nat := none
  nPoc : Int := 0
  nSequence : Fin 256 := 0
  bFlags : FrameFlags := {}
  bKeyFrame : Bool := false
  bErrorFrameFlag : Bool := false
  bDropFlag : Bool := false
deriving DecidableEq

inductive FbmHandle
  | fbm
  | SecondFbm
deriving DecidableEq

/-- The calls of the decoder to its frame buffer managers; where the decoder reads
through a null picture the process ends. -/
inductive FbmCall
  | requestBuffer (handle : FbmHandle) (buffer : Nat)
  | shareBuffer (buffer : Nat)
  | returnBuffer (handle : FbmHandle) (buffer : Nat) (bValidPicture : Bool)
  | nullPicture
deriving DecidableEq

/-- A picture that `HevcOutputFrame` took out, with the time stamp it got. -/
structure OutputPicture where
  nPoc : Int
  nSequence : Fin 256
  nPts : Int
  bDisplayFlag : Bool
deriving DecidableEq

section Context

/-- An entry of a reference picture set: a pointer into `DPB` and `List`. -/
structure RefEntry where
  Ref : Nat
  List : Int
deriving DecidableEq

inductive HevcRPSType
  | HEVC_ST_CURR_BEF
  | HEVC_ST_CURR_AFT
  | HEVC_ST_FOLL
  | HEVC_LT_CURR
  | HEVC_LT_FOLL
deriving DecidableEq

/-- The sequence parameters that the functions below read, and the others as one
value that `memcmp` compares. -/
structure HevcSPS where
  nWidth : Nat
  nHeight : Nat
  nLog2MaxPocLsb : Nat
  nSpsMaxDecPicBuffering : Nat
  nSpsMaxNumReoderPics : Nat
  others : Nat
deriving DecidableEq

structure LongTermRef where
  nPoc : Int
  bUsed : Bool
deriving DecidableEq

/-- The decoder's context. The sets `Rps` have their first `nNumOfRefs` entries, of
which those behind `HEVC_MAX_REFS` are written past the arrays. -/
structure HevcContex where
  secOutputEnabled : Bool
  bDisplayErrorFrameFlag : Bool
  bHadFindSpsFlag : Bool
  bHadFindPpsFlag : Bool
  pSps : Option HevcSPS
  bFbmInitFlag : Bool
  pCurrFrame : Option Nat
  pCurrSecFrame : Option Nat
  DPB : List HevcFrame
  pCurrDPB : Option Nat
  nSeqDecode : Fin 256
  nSeqOutput : Fin 256
  Rps : HevcRPSType → List RefEntry
  eNaluType : HevcNaluType
  nPoc : Int
  pShortTermRps : Option HevcShortTermRPS
  LongTermRps : List LongTermRef
  bPicOutputFlag : Bool
  bDropFrameAdaptiveEnable : Bool
  nSqueueFramePocList : List Int
  nLastDispPoc : Int
  bIsFirstPicture : Bool
  nCurrentFramePts : Int
  PtsList : List Int
  fbmCalls : List FbmCall
  outputs : List OutputPicture

variable (pHevcDec : HevcContex)

/-- The entry that a pointer into `DPB` points to. -/
def HevcContex.frame (index : Nat) : HevcFrame := pHevcDec.DPB.getD index {}

def HevcContex.setFrame (index : Nat) (pHf : HevcFrame) : HevcContex :=
  { pHevcDec with DPB := pHevcDec.DPB.set index pHf }

def HevcContex.call (calls : List FbmCall) : HevcContex :=
  { pHevcDec with fbmCalls := pHevcDec.fbmCalls ++ calls }

def HEVC_IS_KEYFRAME : HevcNaluType → Bool
  | .HEVC_NAL_BLA_W_LP | .HEVC_NAL_BLA_W_RADL | .HEVC_NAL_BLA_N_LP | .HEVC_NAL_IDR_W_RADL
  | .HEVC_NAL_IDR_N_LP | .HEVC_NAL_CRA_NUT => true
  | _ => false

end Context

def HevcMarkRef (pHf : HevcFrame) (bFlag : FrameFlags) : HevcFrame :=
  { pHf with bFlags := (pHf.bFlags.without FrameFlags.bothRefs).union bFlag }

/-- `HevcUnrefFrame` with the calls it makes. -/
def HevcUnrefFrame (secOutputEnabled : Bool) (bFlags : FrameFlags) (pHf : HevcFrame) :
    HevcFrame × List FbmCall :=
  match pHf.pFbmBuffer with
  | none => (pHf, [])
  | some buffer =>
    let pHf := { pHf with bFlags := pHf.bFlags.without bFlags }
    if !pHf.bFlags.isZero then (pHf, [])
    else if secOutputEnabled then
      ({ pHf with pFbmBuffer := none, pSecFbmBuffer := none }, .returnBuffer .fbm buffer false ::
          pHf.pSecFbmBuffer.toList.map fun second => .returnBuffer .SecondFbm second false)
    else ({ pHf with pFbmBuffer := none }, [.returnBuffer .fbm buffer false])

/-- The loops over the whole of `DPB` that call `HevcUnrefFrame`. -/
def unrefFrames (pHevcDec : HevcContex) (bFlags : FrameFlags) : HevcContex :=
  let unreferenced := pHevcDec.DPB.map (HevcUnrefFrame pHevcDec.secOutputEnabled bFlags)
  { pHevcDec with
    DPB := unreferenced.map Prod.fst
    fbmCalls := pHevcDec.fbmCalls ++ unreferenced.flatMap Prod.snd }

def HevcClearRefs (pHevcDec : HevcContex) : HevcContex := unrefFrames pHevcDec FrameFlags.bothRefs

def HevcResetClearRefs (pHevcDec : HevcContex) : HevcContex := unrefFrames pHevcDec FrameFlags.all

/-- The index of the smallest time stamp of the list. -/
def HevcFindAnAvailablePts (PtsList : List Int) : Option Nat :=
  (PtsList.zipIdx.foldl
    (fun (best : Int × Option Nat) (entry : Int × Nat) =>
      if 0 ≤ entry.1 ∧ entry.1 < best.1 then (entry.1, some entry.2) else best)
    (0x7fffffffffffffff, none)).2

structure OutputSearch where
  nNumOutput : Nat
  nMinPoc : Int
  nMinIdx : Nat
deriving DecidableEq

def HevcFrame.waits (nSeqOutput : Fin 256) (pHf : HevcFrame) : Bool :=
  pHf.bFlags.output && decide (pHf.nSequence = nSeqOutput)

/-- The search of `HevcOutputFrame` for the smallest count that waits. -/
def outputSearch (DPB : List HevcFrame) (nSeqOutput : Fin 256) : OutputSearch :=
  DPB.zipIdx.foldl
    (fun search (entry : HevcFrame × Nat) =>
      if entry.1.waits nSeqOutput then
        if entry.1.nPoc < search.nMinPoc then ⟨search.nNumOutput + 1, entry.1.nPoc, entry.2⟩
        else { search with nNumOutput := search.nNumOutput + 1 }
      else search)
    ⟨0, HEVC_INT_MAX, 0⟩

/-- The outputs of one picture: its FBM pictures, its flags and its time stamp. -/
def outputPicture (pHevcDec : HevcContex) (nMinIdx : Nat) : HevcContex × OutputResult :=
  let pHf := pHevcDec.frame nMinIdx
  let nPtsIdx := HevcFindAnAvailablePts pHevcDec.PtsList
  let nPts := nPtsIdx.elim 0 fun index => pHevcDec.PtsList.getD index 0
  let PtsList := nPtsIdx.elim pHevcDec.PtsList fun index => pHevcDec.PtsList.set index (-1)
  let bDisplayFlag := !(pHf.bDropFlag || !pHevcDec.bDisplayErrorFrameFlag && pHf.bErrorFrameFlag)
  let calls : List FbmCall :=
    match pHevcDec.secOutputEnabled, pHf.pFbmBuffer, pHf.pSecFbmBuffer with
    | _, none, _ => [.nullPicture]
    | true, some _, none => [.nullPicture]
    | true, some _, some second => [.returnBuffer .SecondFbm second bDisplayFlag]
    | false, some buffer, _ => if bDisplayFlag then [.shareBuffer buffer] else []
  let pHevcDec := pHevcDec.setFrame nMinIdx
    { pHf with
      bFlags := pHf.bFlags.without FrameFlags.HEVC_FRAME_FLAG_OUTPUT
      pSecFbmBuffer := if pHevcDec.secOutputEnabled then none else pHf.pSecFbmBuffer }
  ({ pHevcDec with
      nCurrentFramePts := nPts
      PtsList := PtsList
      bIsFirstPicture := false
      fbmCalls := pHevcDec.fbmCalls ++ calls
      outputs := pHevcDec.outputs ++ [⟨pHf.nPoc, pHf.nSequence, nPts, bDisplayFlag⟩] },
    if pHf.bKeyFrame then .VDECODE_RESULT_KEYFRAME_DECODED else .VDECODE_RESULT_FRAME_DECODED)

/-- What makes `HevcOutputFrame` take a picture out or go to the next sequence. -/
def needsOutput (pHevcDec : HevcContex) (nSpsMaxNumReoderPics : Nat) (bFlush : Bool)
    (search : OutputSearch) : Bool :=
  bFlush || decide (pHevcDec.nSeqOutput ≠ pHevcDec.nSeqDecode) || pHevcDec.bIsFirstPicture ||
    decide (nSpsMaxNumReoderPics < search.nNumOutput) ||
    decide (s32 (search.nMinPoc - pHevcDec.nLastDispPoc) = 1)

/-- The loop of `HevcOutputFrame`; it runs through the sequences from `nSeqOutput` to
`nSeqDecode`, of which there are `turns` still to come. -/
def outputLoop (nSpsMaxNumReoderPics : Nat) (bFlush : Bool) :
    Nat → HevcContex → HevcContex × OutputResult
  | turns, pHevcDec =>
    let search := outputSearch pHevcDec.DPB pHevcDec.nSeqOutput
    if !needsOutput pHevcDec nSpsMaxNumReoderPics bFlush search then
      (pHevcDec, .HEVC_RESULT_OK)
    else
      let pHevcDec := { pHevcDec with nLastDispPoc := search.nMinPoc }
      if search.nNumOutput ≠ 0 then outputPicture pHevcDec search.nMinIdx
      else
        match turns with
        | 0 => (pHevcDec, .HEVC_RESULT_OK)
        | turns + 1 =>
          outputLoop nSpsMaxNumReoderPics bFlush turns
            { pHevcDec with nSeqOutput := pHevcDec.nSeqOutput + 1 }

def HevcOutputFrame (pHevcDec : HevcContex) (bFlush : Bool) : HevcContex × OutputResult :=
  match pHevcDec.bHadFindSpsFlag && pHevcDec.bHadFindPpsFlag, pHevcDec.pSps with
  | true, some pSps =>
    outputLoop pSps.nSpsMaxNumReoderPics bFlush (pHevcDec.nSeqDecode - pHevcDec.nSeqOutput).val
      pHevcDec
  | _, _ => (pHevcDec, .HEVC_RESULT_OK)

/-- `HevcOutputFrame` and `HevcResetClearRefs`, as they are called together. -/
def flushAndClear (pHevcDec : HevcContex) : HevcContex :=
  HevcResetClearRefs (HevcOutputFrame pHevcDec true).1

/-- An entry that a set of the current sequence may name. -/
def inSequence (pHevcDec : HevcContex) (pHf : HevcFrame) : Bool :=
  pHf.pFbmBuffer.isSome && decide (pHf.nSequence = pHevcDec.nSeqDecode)

def nMaxPocLsb (pHevcDec : HevcContex) : Int := 2 ^ pHevcDec.pSps.elim 0 HevcSPS.nLog2MaxPocLsb

/-- The entry with the count, else the first with its low bits equal to it. -/
def HevcFindRefIdx (pHevcDec : HevcContex) (nPoc : Int) : Option Nat :=
  match pHevcDec.DPB.findIdx? fun pHf =>
      inSequence pHevcDec pHf && decide (pHf.nPoc = nPoc) with
  | some index => some index
  | none =>
    pHevcDec.DPB.findIdx? fun pHf =>
      inSequence pHevcDec pHf && decide (pHf.nPoc % nMaxPocLsb pHevcDec = nPoc)

structure Candidate where
  nListIdx : HevcRPSType
  nPoc : Int
  bFlags : FrameFlags
deriving DecidableEq

def HevcContex.appendRef (pHevcDec : HevcContex) (nListIdx : HevcRPSType) (entry : RefEntry) :
    HevcContex :=
  { pHevcDec with
    Rps := Function.update pHevcDec.Rps nListIdx (pHevcDec.Rps nListIdx ++ [entry]) }

def HevcAddCandidateRef (pHevcDec : HevcContex) (candidate : Candidate) :
    HevcContex × HevcDecodeFrameResult :=
  match HevcFindRefIdx pHevcDec candidate.nPoc with
  | none =>
    if pHevcDec.eNaluType = .HEVC_NAL_RASL_N ∨ pHevcDec.eNaluType = .HEVC_NAL_RASL_R then
      (pHevcDec, .HEVC_RESULT_DROP_THE_FRAME)
    else if candidate.nPoc = 0 then (flushAndClear pHevcDec, .HEVC_RESULT_OK)
    else (pHevcDec, .HEVC_RESULT_OK)
  | some index =>
    let pHf := pHevcDec.frame index
    if pHf.bErrorFrameFlag && !pHevcDec.bDisplayErrorFrameFlag then
      (pHevcDec, .HEVC_RESULT_RESET_INTRA_DECODER)
    else
      ((pHevcDec.appendRef candidate.nListIdx ⟨index, pHf.nPoc⟩).setFrame index
        (HevcMarkRef pHf candidate.bFlags), .HEVC_RESULT_OK)

def shortCandidates (nPoc : Int) (pShortRps : HevcShortTermRPS) : List Candidate :=
  (List.range pShortRps.nNumDeltaPocs.toNat).map fun i =>
    { nListIdx :=
        if !pShortRps.bUsed i then .HEVC_ST_FOLL
        else if (i : Int) < pShortRps.nNumNegativePics then .HEVC_ST_CURR_BEF
        else .HEVC_ST_CURR_AFT
      nPoc := s32 (nPoc + pShortRps.nDeltaPoc i)
      bFlags := FrameFlags.HEVC_FRAME_FLAG_SHORT_REF }

def longCandidates (pLongRps : List LongTermRef) : List Candidate :=
  pLongRps.map fun long =>
    { nListIdx := if long.bUsed then .HEVC_LT_CURR else .HEVC_LT_FOLL
      nPoc := long.nPoc
      bFlags := FrameFlags.HEVC_FRAME_FLAG_LONG_REF }

/-- The loops over the sets, left with the first result that is not 0. -/
def addCandidates : HevcContex → List Candidate → HevcContex × HevcDecodeFrameResult
  | pHevcDec, [] => (pHevcDec, .HEVC_RESULT_OK)
  | pHevcDec, candidate :: rest =>
    match HevcAddCandidateRef pHevcDec candidate with
    | (pHevcDec, .HEVC_RESULT_OK) => addCandidates pHevcDec rest
    | failed => failed

/-- The reference flags of all entries and the five lists are cleared. -/
def clearSets (pHevcDec : HevcContex) : HevcContex :=
  { pHevcDec with
    DPB := pHevcDec.DPB.map fun pRef => HevcMarkRef pRef {}
    Rps := fun _ => [] }

def rpsCandidates (pHevcDec : HevcContex) : List Candidate :=
  pHevcDec.pShortTermRps.elim [] (shortCandidates pHevcDec.nPoc) ++
    longCandidates pHevcDec.LongTermRps

/-- Without a short term set only the first two lists are emptied, and without a long
term set either that is all. -/
def HevcConstuctFrameRps (pHevcDec : HevcContex) : HevcContex × HevcDecodeFrameResult :=
  if pHevcDec.pShortTermRps.isNone ∧ pHevcDec.LongTermRps = [] then
    ({ pHevcDec with
        Rps := Function.update (Function.update pHevcDec.Rps .HEVC_ST_CURR_BEF [])
          .HEVC_ST_CURR_AFT [] }, .HEVC_RESULT_OK)
  else
    match addCandidates (clearSets pHevcDec) (rpsCandidates pHevcDec) with
    | (pHevcDec, .HEVC_RESULT_OK) => (unrefFrames pHevcDec {}, .HEVC_RESULT_OK)
    | failed => failed

/-- What the frame buffer managers answer during one call: whether they can be
created, and the buffer that each would give out. -/
structure FbmAnswers where
  bInitialized : Bool
  first : Option Nat
  second : Option Nat
deriving DecidableEq

/-- `FbmRequestBuffer` with the answer of the manager. -/
def FbmHandle.requested (handle : FbmHandle) (answer : Option Nat) : List FbmCall :=
  answer.toList.map (FbmCall.requestBuffer handle)

def requestFirst (pHevcDec : HevcContex) (answers : FbmAnswers) : HevcContex :=
  if pHevcDec.pCurrFrame.isNone then
    { pHevcDec.call (FbmHandle.fbm.requested answers.first) with pCurrFrame := answers.first }
  else pHevcDec

def requestSecond (pHevcDec : HevcContex) (answers : FbmAnswers) : HevcContex :=
  if pHevcDec.pCurrSecFrame.isNone then
    { pHevcDec.call (FbmHandle.SecondFbm.requested answers.second) with
      pCurrSecFrame := answers.second }
  else pHevcDec

/-- Both current pictures are requested where they are missing. -/
def requestFrames (pHevcDec : HevcContex) (answers : FbmAnswers) :
    HevcContex × HevcDecodeFrameResult :=
  let pHevcDec := requestFirst pHevcDec answers
  if pHevcDec.pCurrFrame.isNone then (pHevcDec, .HEVC_RESULT_NO_FRAME_BUFFER)
  else if !pHevcDec.secOutputEnabled then (pHevcDec, .HEVC_RESULT_OK)
  else
    let pHevcDec := requestSecond pHevcDec answers
    if pHevcDec.pCurrSecFrame.isNone then (pHevcDec, .HEVC_RESULT_NO_FRAME_BUFFER)
    else (pHevcDec, .HEVC_RESULT_OK)

/-- The first entry without a picture; when all own one, `pRef` is left at the last. -/
def newRefIndex (DPB : List HevcFrame) : Nat :=
  let i := DPB.findIdx fun pHf => pHf.pFbmBuffer.isNone
  if i = HEVC_MAX_DPB_SIZE then HEVC_MAX_DPB_SIZE - 1 else i

/-- Pictures that no other picture refers to may be dropped when the decoder is late. -/
def droppable : HevcNaluType → Bool
  | .HEVC_NAL_TRAIL_N | .HEVC_NAL_TSA_N | .HEVC_NAL_STSA_N | .HEVC_NAL_RADL_N
  | .HEVC_NAL_RASL_N => true
  | _ => false

def storedFrame (pHevcDec : HevcContex) (nPoc : Int) (bPocErrorFlag : Bool) : HevcFrame where
  pFbmBuffer := pHevcDec.pCurrFrame
  pSecFbmBuffer :=
    if pHevcDec.secOutputEnabled then pHevcDec.pCurrSecFrame
    else (pHevcDec.frame (newRefIndex pHevcDec.DPB)).pSecFbmBuffer
  nPoc := nPoc
  nSequence := pHevcDec.nSeqDecode
  bFlags := { output := pHevcDec.bPicOutputFlag, shortRef := true }
  bKeyFrame := HEVC_IS_KEYFRAME pHevcDec.eNaluType
  bErrorFrameFlag := bPocErrorFlag
  bDropFlag := pHevcDec.bDropFrameAdaptiveEnable && droppable pHevcDec.eNaluType

def storeNewRef (pHevcDec : HevcContex) (nPoc : Int) (bPocErrorFlag : Bool) : HevcContex :=
  let index := newRefIndex pHevcDec.DPB
  { pHevcDec.setFrame index (storedFrame pHevcDec nPoc bPocErrorFlag) with
    pCurrFrame := none
    pCurrSecFrame := if pHevcDec.secOutputEnabled then none else pHevcDec.pCurrSecFrame
    pCurrDPB := some index }

/-- The first entry with the count of the new picture empties `DPB`, so that the loop
finds no other. -/
def samePoc (pHevcDec : HevcContex) (nPoc : Int) (nNuhLayerId : Nat) : Bool :=
  pHevcDec.DPB.any fun pHf =>
    inSequence pHevcDec pHf && decide (pHf.nPoc = nPoc) && decide (nNuhLayerId = 0)

/-- Without a sequence parameter set the managers are not created. -/
def HevcInitialFBM (pHevcDec : HevcContex) (answers : FbmAnswers) : Bool :=
  pHevcDec.pSps.isSome && answers.bInitialized

def HevcSetNewRef (pHevcDec : HevcContex) (nPoc : Int) (nNuhLayerId : Nat)
    (answers : FbmAnswers) : HevcContex × HevcDecodeFrameResult :=
  let bPocErrorFlag := samePoc pHevcDec nPoc nNuhLayerId
  let pHevcDec := if bPocErrorFlag then flushAndClear pHevcDec else pHevcDec
  if !pHevcDec.bFbmInitFlag && !HevcInitialFBM pHevcDec answers then
    (pHevcDec, .HEVC_RESULT_INIT_FBM_FAILED)
  else
    match requestFrames { pHevcDec with bFbmInitFlag := true } answers with
    | (pHevcDec, .HEVC_RESULT_OK) => (storeNewRef pHevcDec nPoc bPocErrorFlag, .HEVC_RESULT_OK)
    | failed => failed

end CedarC.H265Dpb
