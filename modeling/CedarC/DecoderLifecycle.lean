import CedarC.AllocationLedger
import CedarC.GuardedRuns

/-!
# The lifecycle of a video decoder

`InitializeVideoDecoder`, `DecodeVideoStream`, `ResetVideoDecoder`,
`ReopenVideoEngine` and `DestroyVideoDecoder` with the engine calls below them, as far
as they take, use and give back codec specific data, VE contexts, decoder interfaces,
stream buffers, the memory adapter and the VE lock. A decoder's `Destroy` gives back
what its creator and `Init` took; its frame buffer managers live as long as it does.
-/

namespace CedarC.DecoderLifecycle

open AllocationLedger GuardedRuns

/-- What a call takes and gives back; data of the caller and `NULL` are never taken. -/
inductive Resource
  | csd
  | ve
  | decoder
  | sbm
  | memops
  | caller
  | null
deriving DecidableEq

abbrev Pointer := Option (Address Resource)

def nullAddress : Address Resource := Block.start ⟨.null, 0⟩

/-- The resources, the VE locks taken and not released, and the uses of what is not there. -/
structure Env where
  memory : Memory Resource
  locks : Int
  misuses : Nat
deriving DecidableEq

/-- A pointer to something taken from this pool and not given back. -/
def Live (env : Env) (pool : Resource) (p : Pointer) : Prop :=
  ⟨pool, p.getD nullAddress⟩ ∈ env.memory.allocated.map Block.release ∧
    ⟨pool, p.getD nullAddress⟩ ∉ env.memory.freed
deriving Decidable

def acquire (pool : Resource) (granted : Bool) (env : Env) : Env × Pointer :=
  let (memory, p) := env.memory.allocate (fun _ => granted) pool
  ({ env with memory := memory }, p)

def release (pool : Resource) (p : Pointer) (env : Env) : Env :=
  { env with memory := env.memory.free pool (p.getD nullAddress) }

def touch (pool : Resource) (p : Pointer) (env : Env) : Env :=
  if Live env pool p then env else { env with misuses := env.misuses + 1 }

structure VideoStreamInfo where
  eCodecFormat : Nat
  nWidth : Int
  nHeight : Int
  nCodecSpecificDataLen : Int
  pCodecSpecificData : Pointer
  bIs3DStream : Bool
  bSecureStreamFlagLevel1 : Bool
deriving DecidableEq

structure VideoEngine where
  info : VideoStreamInfo
  veOpsS : Bool
  pVeOpsSelf : Pointer
  bEnableGoogleVp9Flag : Bool
  bIsSoftwareDecoder : Bool
  pDecoderInterface : Pointer
  pSbm : Pointer × Pointer
deriving DecidableEq

def VIDEO_CODEC_FORMAT_VP9 : Nat := 0x113
def VIDEO_CODEC_FORMAT_H264 : Nat := 0x115
def VIDEO_CODEC_FORMAT_H265 : Nat := 0x116
def CHIP_H3s : Nat := 1
def CHIP_H2PLUS : Nat := 4
def CHIP_NOTSUPPORT_VP9_HW : Nat := 5

structure EngineAnswers where
  engine : Bool
  veOps : Bool
  ve : Bool
  nIcVeVersion : Nat
  chipId : Nat
  vp9Ops : Bool
  vp9Ve : Bool
  /-- The chip by the back end in use. -/
  chipIdInUse : Nat
  csd : Bool
  decoder : Bool
  opened : Bool
deriving DecidableEq

structure VDecoderNode where
  format : Nat
  bIsSoftDecoder : Bool
deriving DecidableEq

def checkVeVersionAndLib (node : VDecoderNode) (bEnableGoogleVp9Flag : Bool) : Bool :=
  if node.format = VIDEO_CODEC_FORMAT_H264 then true
  else if node.format = VIDEO_CODEC_FORMAT_H265 then !node.bIsSoftDecoder
  else if node.format = VIDEO_CODEC_FORMAT_VP9 then
    if bEnableGoogleVp9Flag then !node.bIsSoftDecoder else node.bIsSoftDecoder
  else false

/-- The first registered decoder that will do, in `CreateSpecificDecoder`. -/
def findDecoder (gVDecoderList : List VDecoderNode) (eCodecFormat : Nat)
    (bEnableGoogleVp9Flag : Bool) : Option VDecoderNode :=
  gVDecoderList.find? fun node =>
    decide (node.format = eCodecFormat) && checkVeVersionAndLib node bEnableGoogleVp9Flag

/-- An engine half way through a call; `error_exit` follows when it is not `ok`. -/
structure Attempt where
  engine : VideoEngine
  env : Env
  ok : Bool
deriving DecidableEq

def Attempt.andThen (attempt : Attempt) (stage : VideoEngine → Env → Attempt) : Attempt :=
  if attempt.ok then stage attempt.engine attempt.env else attempt

def lockVe (engine : VideoEngine) (env : Env) : Env :=
  let env := touch .ve engine.pVeOpsSelf env
  { env with locks := env.locks + 1 }

def unlockVe (engine : VideoEngine) (env : Env) : Env :=
  let env := touch .ve engine.pVeOpsSelf env
  { env with locks := env.locks - 1 }

def enableVe (engine : VideoEngine) (env : Env) : Env :=
  if engine.bIsSoftwareDecoder then env else lockVe engine env

def disableVe (engine : VideoEngine) (env : Env) : Env :=
  if engine.bIsSoftwareDecoder then env else unlockVe engine env

def createSpecificDecoder (gVDecoderList : List VDecoderNode) (answers : EngineAnswers)
    (engine : VideoEngine) (env : Env) : Attempt :=
  match findDecoder gVDecoderList engine.info.eCodecFormat engine.bEnableGoogleVp9Flag with
  | none => ⟨{ engine with pDecoderInterface := none }, env, false⟩
  | some node =>
    let (env, pInterface) := acquire .decoder answers.decoder env
    ⟨{ engine with
        bIsSoftwareDecoder := node.bIsSoftDecoder, pDecoderInterface := pInterface },
      env, pInterface.isSome⟩

def openVe (answers : EngineAnswers) (engine : VideoEngine) (env : Env) : Attempt :=
  let engine := { engine with veOpsS := answers.veOps }
  if answers.veOps then
    let (env, self) := acquire .ve answers.ve env
    ⟨{ engine with pVeOpsSelf := self }, env, self.isSome⟩
  else ⟨engine, env, false⟩

def switchesToVp9 (answers : EngineAnswers) (info : VideoStreamInfo) : Prop :=
  answers.nIcVeVersion = 0x3101000012010 ∧ info.eCodecFormat = VIDEO_CODEC_FORMAT_VP9 ∧
    answers.chipId ≠ CHIP_NOTSUPPORT_VP9_HW
deriving Decidable

/-- The back end is swapped for that of the VP9 decoder. -/
def switchVe (answers : EngineAnswers) (engine : VideoEngine) (env : Env) : Attempt :=
  if switchesToVp9 answers engine.info then
    let env := release .ve engine.pVeOpsSelf env
    let engine := { engine with bEnableGoogleVp9Flag := true, veOpsS := answers.vp9Ops }
    if answers.vp9Ops then
      let (env, self) := acquire .ve answers.vp9Ve env
      ⟨{ engine with pVeOpsSelf := self }, env, self.isSome⟩
    else ⟨engine, env, false⟩
  else ⟨engine, env, true⟩

def tooLarge (answers : EngineAnswers) (info : VideoStreamInfo) : Prop :=
  (answers.chipIdInUse = CHIP_H3s ∨ answers.chipIdInUse = CHIP_H2PLUS) ∧
    (info.nWidth ≥ 3840 ∨ info.nHeight ≥ 2160)
deriving Decidable

def checkChip (answers : EngineAnswers) (info : VideoStreamInfo) (engine : VideoEngine)
    (env : Env) : Attempt :=
  ⟨engine, touch .ve engine.pVeOpsSelf env, !decide (tooLarge answers info)⟩

def hasCodecData (info : VideoStreamInfo) : Prop :=
  info.nCodecSpecificDataLen > 0 ∧ info.pCodecSpecificData ≠ none
deriving Decidable

def copyCodecData (answers : EngineAnswers) (info : VideoStreamInfo) (engine : VideoEngine)
    (env : Env) : Attempt :=
  if hasCodecData info then
    let (env, p) := acquire .csd answers.csd env
    ⟨{ engine with info := { engine.info with pCodecSpecificData := p } }, env, p.isSome⟩
  else ⟨engine, env, true⟩

def initDecoder (answers : EngineAnswers) (engine : VideoEngine) (env : Env) : Attempt :=
  let env := enableVe engine env
  let env := touch .decoder engine.pDecoderInterface env
  ⟨engine, disableVe engine env, answers.opened⟩

def releaseCodecData (engine : VideoEngine) (env : Env) : VideoEngine × Env :=
  if engine.info.pCodecSpecificData ≠ none ∧ engine.info.nCodecSpecificDataLen > 0 then
    ({ engine with info := { engine.info with pCodecSpecificData := none } },
      release .csd engine.info.pCodecSpecificData env)
  else (engine, env)

def errorExit (engine : VideoEngine) (env : Env) : Env :=
  let (engine, env) := releaseCodecData engine env
  if engine.veOpsS then release .ve engine.pVeOpsSelf env else env

def clearedEngine (pVideoInfo : VideoStreamInfo) : VideoEngine where
  info := pVideoInfo
  veOpsS := false
  pVeOpsSelf := none
  bEnableGoogleVp9Flag := false
  bIsSoftwareDecoder := false
  pDecoderInterface := none
  pSbm := (none, none)

def attemptCreate (gVDecoderList : List VDecoderNode) (answers : EngineAnswers)
    (pVideoInfo : VideoStreamInfo) (env : Env) : Attempt :=
  ((((openVe answers (clearedEngine pVideoInfo) env).andThen (switchVe answers)).andThen
    (checkChip answers pVideoInfo)).andThen (copyCodecData answers pVideoInfo)).andThen
      (createSpecificDecoder gVDecoderList answers) |>.andThen (initDecoder answers)

/-- `VideoEngineCreate`: the engine starts as a copy of the stream information it is given. -/
def videoEngineCreate (gVDecoderList : List VDecoderNode) (answers : EngineAnswers)
    (pVideoInfo : VideoStreamInfo) (env : Env) : Env × Option VideoEngine :=
  if answers.engine then
    let attempt := attemptCreate gVDecoderList answers pVideoInfo env
    if attempt.ok then (attempt.env, some attempt.engine)
    else (errorExit attempt.engine attempt.env, none)
  else (env, none)

def releaseSbm (p : Pointer) (env : Env) : Env :=
  if p ≠ none then release .sbm p env else env

def destroyDecoder (engine : VideoEngine) (env : Env) : Env :=
  release .decoder engine.pDecoderInterface (touch .decoder engine.pDecoderInterface env)

def videoEngineDestroy (engine : VideoEngine) (env : Env) : Env :=
  let env := enableVe engine env
  let env := destroyDecoder engine env
  let env := releaseSbm engine.pSbm.1 env
  let env := releaseSbm engine.pSbm.2 env
  let env := disableVe engine env
  let (engine, env) := releaseCodecData engine env
  if engine.veOpsS then release .ve engine.pVeOpsSelf env else env

/-- The copy in a reopened engine; the length stays what it was. -/
def recopyCodecData (answers : EngineAnswers) (info : VideoStreamInfo) (engine : VideoEngine)
    (env : Env) : Attempt :=
  if hasCodecData info then copyCodecData answers info engine env
  else
    ⟨{ engine with
        info := { engine.info with pCodecSpecificData := none, nCodecSpecificDataLen := 0 } },
      env, true⟩

/-- A reopened engine up to the new decoder; its errors leave by `disableVe`. -/
def attemptReopen (gVDecoderList : List VDecoderNode) (answers : EngineAnswers)
    (pVideoInfo : VideoStreamInfo) (engine : VideoEngine) (env : Env) : Attempt :=
  let env := enableVe engine env
  let (engine, env) := releaseCodecData engine env
  ((checkChip answers pVideoInfo engine (destroyDecoder engine env)).andThen
    (recopyCodecData answers pVideoInfo)).andThen (createSpecificDecoder gVDecoderList answers)

/-- `VideoEngineReopen`, and whether it succeeds. -/
def videoEngineReopen (gVDecoderList : List VDecoderNode) (answers : EngineAnswers)
    (pVideoInfo : VideoStreamInfo) (engine : VideoEngine) (env : Env) :
    VideoEngine × Env × Bool :=
  let attempt := attemptReopen gVDecoderList answers pVideoInfo engine env
  if attempt.ok then
    let env := touch .decoder attempt.engine.pDecoderInterface attempt.env
    (attempt.engine, disableVe attempt.engine env, answers.opened)
  else (attempt.engine, disableVe attempt.engine attempt.env, false)

def lockedDecoderCall (engine : VideoEngine) (env : Env) : Env :=
  disableVe engine (touch .decoder engine.pDecoderInterface (enableVe engine env))

def videoEngineReset (engine : VideoEngine) (env : Env) : Env := lockedDecoderCall engine env

def videoEngineDecode (engine : VideoEngine) (env : Env) : Env := lockedDecoderCall engine env

def videoEngineSetSbm (engine : VideoEngine) (pSbm : Pointer) (second : Bool) (env : Env) :
    VideoEngine × Env :=
  ({ engine with
      pSbm := if second then (engine.pSbm.1, pSbm) else (pSbm, engine.pSbm.2) },
    lockedDecoderCall engine env)

structure VideoDecoderContext where
  pVideoEngine : Option VideoEngine
  info : VideoStreamInfo
  /-- `memops`, and the open that it stands for. -/
  memops : Bool
  opened : Pointer
  pSbm : Pointer × Pointer
  nSbmNum : Nat
  /-- The cached frame buffer managers, by the decoder that made them. -/
  pFbm : Pointer × Pointer
  nFbmNum : Nat
deriving DecidableEq

structure InitAnswers where
  memOpen : Bool
  csd : Bool
  engine : EngineAnswers
  /-- `GetSbmInterface` and `SbmInit` of the two stream buffers. -/
  sbm : Bool × Bool
  sbmInit : Bool × Bool
deriving DecidableEq

def supported (info : VideoStreamInfo) : Prop :=
  VIDEO_CODEC_FORMAT_VP9 ≤ info.eCodecFormat ∧ info.eCodecFormat ≤ VIDEO_CODEC_FORMAT_H265 ∧
    ¬(info.nHeight > 3240 ∨ info.nWidth > 6144)
deriving Decidable

def saveStreamInfo (granted : Bool) (pVideoInfo : VideoStreamInfo) (env : Env) :
    Env × VideoStreamInfo × Bool :=
  if pVideoInfo.nCodecSpecificDataLen > 0 then
    let (env, pMem) := acquire .csd granted env
    if pMem.isSome then (env, { pVideoInfo with pCodecSpecificData := pMem }, true)
    else (env, { pVideoInfo with pCodecSpecificData := none, nCodecSpecificDataLen := 0 }, false)
  else (env, { pVideoInfo with pCodecSpecificData := none }, true)

/-- A stream buffer is made and given to the engine, or made and destroyed again. -/
def attachSbm (made initialised : Bool) (second : Bool) (p : VideoDecoderContext)
    (engine : VideoEngine) (env : Env) : VideoDecoderContext × Env × Bool :=
  let (env, pSbm) := acquire .sbm made env
  if pSbm = none then (p, env, false)
  else if initialised then
    let (engine, env) := videoEngineSetSbm engine pSbm second env
    ({ p with
        pVideoEngine := some engine
        pSbm := if second then (p.pSbm.1, pSbm) else (pSbm, p.pSbm.2)
        nSbmNum := p.nSbmNum + 1 }, env, true)
  else (p, release .sbm pSbm (touch .sbm pSbm env), false)

def initializeVideoDecoder (gVDecoderList : List VDecoderNode) (answers : InitAnswers)
    (pVideoInfo : VideoStreamInfo) (p : VideoDecoderContext) (env : Env) :
    VideoDecoderContext × Env :=
  if supported pVideoInfo then
    let (env, opened) := acquire .memops answers.memOpen env
    let p := { p with memops := true, opened := opened }
    if opened = none then (p, env)
    else
      let (env, info, saved) := saveStreamInfo answers.csd pVideoInfo env
      let p := { p with info := info }
      if saved then
        match videoEngineCreate gVDecoderList answers.engine info env with
        | (env, none) => (p, env)
        | (env, some engine) =>
          let p := { p with pVideoEngine := some engine }
          let (p, env, attached) :=
            attachSbm answers.sbm.1 answers.sbmInit.1 false p engine env
          if attached ∧ info.bIs3DStream then
            match p.pVideoEngine with
            | none => (p, env)
            | some engine =>
              let (p, env, _) :=
                attachSbm answers.sbm.2 answers.sbmInit.2 true p engine env
              (p, env)
          else (p, env)
      else (p, env)
  else (p, env)

structure DecodeAnswers where
  bEndOfStream : Bool
  bThumbnailMode : Bool
  noBitstream : Bool
deriving DecidableEq

def touchSbm (p : Pointer) (env : Env) : Env :=
  if p ≠ none then touch .sbm p env else env

def decodeVideoStream (answers : DecodeAnswers) (p : VideoDecoderContext) (env : Env) :
    VideoDecoderContext × Env :=
  match p.pVideoEngine with
  | none => (p, env)
  | some engine =>
    let env :=
      if answers.bEndOfStream then touchSbm p.pSbm.2 (touchSbm p.pSbm.1 env) else env
    let env :=
      if p.info.bSecureStreamFlagLevel1 then touch .memops p.opened env else env
    let env := videoEngineDecode engine env
    let env :=
      if p.info.bSecureStreamFlagLevel1 then touch .memops p.opened env else env
    if !answers.bThumbnailMode ∧ answers.bEndOfStream ∧ answers.noBitstream then
      (p, videoEngineReset engine env)
    else (p, env)

structure ResetAnswers where
  /-- `GetFbmNum`, and whether `GetFbm` gives a manager. -/
  nFbmNum : Nat
  fbm : Bool × Bool
deriving DecidableEq

/-- One turn of the loop over the managers: `GetFbm` where none is cached, and the flush. -/
def flushFbm (made : Bool) (engine : Option VideoEngine) (cached : Pointer) (env : Env) :
    Pointer × Env :=
  let (pFbm, env) :=
    match cached, engine with
    | none, some engine =>
      (if made then engine.pDecoderInterface else none, touch .decoder engine.pDecoderInterface env)
    | _, _ => (cached, env)
  if pFbm ≠ none then (pFbm, touch .decoder pFbm env) else (pFbm, env)

def resetVideoDecoder (answers : ResetAnswers) (p : VideoDecoderContext) (env : Env) :
    VideoDecoderContext × Env :=
  let env :=
    match p.pVideoEngine with
    | some engine => videoEngineReset engine env
    | none => env
  let (nFbmNum, env) :=
    match p.pVideoEngine with
    | some engine =>
      if p.nFbmNum = 0 then
        (answers.nFbmNum, touch .decoder engine.pDecoderInterface env)
      else (p.nFbmNum, env)
    | none => (p.nFbmNum, env)
  let (first, env) :=
    if 0 < nFbmNum then flushFbm answers.fbm.1 p.pVideoEngine p.pFbm.1 env else (p.pFbm.1, env)
  let (second, env) :=
    if 1 < nFbmNum then flushFbm answers.fbm.2 p.pVideoEngine p.pFbm.2 env else (p.pFbm.2, env)
  let env := if 0 < p.nSbmNum then touchSbm p.pSbm.1 env else env
  let env := if 1 < p.nSbmNum then touchSbm p.pSbm.2 env else env
  ({ p with nFbmNum := nFbmNum, pFbm := (first, second) }, env)

structure ReopenAnswers where
  engine : EngineAnswers
  csd : Bool
deriving DecidableEq

def resetSbms (p : VideoDecoderContext) (engine : VideoEngine) (env : Env) : VideoEngine × Env :=
  let (engine, env) :=
    if 0 < p.nSbmNum then videoEngineSetSbm engine p.pSbm.1 false env else (engine, env)
  if 1 < p.nSbmNum then videoEngineSetSbm engine p.pSbm.2 true env else (engine, env)

def reopenVideoEngine (gVDecoderList : List VDecoderNode) (answers : ReopenAnswers)
    (pStreamInfo : VideoStreamInfo) (p : VideoDecoderContext) (env : Env) :
    VideoDecoderContext × Env :=
  match p.pVideoEngine with
  | none => (p, env)
  | some engine =>
    let env :=
      if p.info.pCodecSpecificData ≠ none then release .csd p.info.pCodecSpecificData env
      else env
    let p := { p with info := { p.info with pCodecSpecificData := none } }
    let (engine, env, reopened) :=
      videoEngineReopen gVDecoderList answers.engine pStreamInfo engine env
    let p := { p with pVideoEngine := some engine }
    if reopened then
      let p := { p with pFbm := (none, none), nFbmNum := 0, info := pStreamInfo }
      if pStreamInfo.pCodecSpecificData ≠ none then
        let (env, copy) := acquire .csd answers.csd env
        let p := { p with info := { pStreamInfo with pCodecSpecificData := copy } }
        if copy = none then (p, env)
        else
          let (engine, env) := resetSbms p engine env
          ({ p with pVideoEngine := some engine }, env)
      else
        let p :=
          { p with
            info := { pStreamInfo with pCodecSpecificData := none, nCodecSpecificDataLen := 0 } }
        let (engine, env) := resetSbms p engine env
        ({ p with pVideoEngine := some engine }, env)
    else (p, env)

def destroyVideoDecoder (p : VideoDecoderContext) (env : Env) : Env :=
  let env :=
    match p.pVideoEngine with
    | some engine => videoEngineDestroy engine env
    | none => env
  let env :=
    if p.info.pCodecSpecificData ≠ none then release .csd p.info.pCodecSpecificData env else env
  if p.memops then release .memops p.opened env else env

/-- A decoder is created, then initialised once, and its context is gone when it is destroyed. -/
structure System where
  env : Env
  context : Option VideoDecoderContext
  initialised : Bool
deriving DecidableEq

inductive DecoderCall
  | init (answers : InitAnswers) (pVideoInfo : VideoStreamInfo)
  | decode (answers : DecodeAnswers)
  | reset (answers : ResetAnswers)
  | reopen (answers : ReopenAnswers) (pStreamInfo : VideoStreamInfo)
  | destroy
deriving DecidableEq

def emptyInfo : VideoStreamInfo := ⟨0, 0, 0, 0, none, false, false⟩

/-- After `CreateVideoDecoder`. -/
def System.start : System where
  env := ⟨Memory.unused, 0, 0⟩
  context :=
    some
      { pVideoEngine := none
        info := emptyInfo
        memops := false
        opened := none
        pSbm := (none, none)
        nSbmNum := 0
        pFbm := (none, none)
        nFbmNum := 0 }
  initialised := false

def System.after (initialised : Bool) (result : VideoDecoderContext × Env) : System :=
  ⟨result.2, some result.1, initialised⟩

def lifecycleExec (gVDecoderList : List VDecoderNode) (system : System) (call : DecoderCall) :
    Option System :=
  match system.context with
  | none => none
  | some p =>
    match call with
    | .init answers info =>
      if system.initialised then none
      else some (.after true (initializeVideoDecoder gVDecoderList answers info p system.env))
    | .decode answers =>
      some (.after system.initialised (decodeVideoStream answers p system.env))
    | .reset answers =>
      some (.after system.initialised (resetVideoDecoder answers p system.env))
    | .reopen answers info =>
      some (.after system.initialised
        (reopenVideoEngine gVDecoderList answers info p system.env))
    | .destroy => some ⟨destroyVideoDecoder p system.env, none, system.initialised⟩

end CedarC.DecoderLifecycle
