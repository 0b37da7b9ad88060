import CedarC.LinkedChain
import Mathlib.Data.List.Range

/-!
# Message queue

A transcription of `base/CdcMessageQueue.c`, cut at its semaphore operations
and critical sections. A `MessageNode*` is the index of the node in the pool.
The content of a message is only copied, so its type is a parameter. `none`
stands for a use of a null node or a walk that does not end.
-/

namespace CedarC.MessageQueueModel

open LinkedChain

structure MessageNode (CdcMessage : Type) where
  next : Option Nat
  valid : Bool
  msg : CdcMessage

structure MessageQueueContext (CdcMessage : Type) where
  pHead : Option Nat
  nCount : Nat
  Nodes : Nat → MessageNode CdcMessage
  nMaxMessageNum : Nat
  sem : Nat

variable {CdcMessage : Type}

/-- `CdcMessageQueueCreate`: the nodes and their messages come from `calloc`. -/
def cdcMessageQueueCreate [Inhabited CdcMessage] (nMaxMessageNum : Nat) :
    MessageQueueContext CdcMessage :=
  { pHead := none
    nCount := 0
    Nodes := fun _ => ⟨none, false, default⟩
    nMaxMessageNum := nMaxMessageNum
    sem := 0 }

def MessageQueueContext.next (mqCtx : MessageQueueContext CdcMessage) : Nat → Option Nat :=
  fun node => (mqCtx.Nodes node).next

def MessageQueueContext.setNode (mqCtx : MessageQueueContext CdcMessage) (node : Nat)
    (content : MessageNode CdcMessage) : MessageQueueContext CdcMessage :=
  { mqCtx with Nodes := Function.update mqCtx.Nodes node content }

def freeNode (mqCtx : MessageQueueContext CdcMessage) : Option Nat :=
  (List.range mqCtx.nMaxMessageNum).find? fun i => !(mqCtx.Nodes i).valid

def linkLast (mqCtx : MessageQueueContext CdcMessage) (node : Nat) :
    Option (MessageQueueContext CdcMessage) :=
  match mqCtx.pHead with
  | none => some { mqCtx with pHead := some node }
  | some ptr =>
    (walkToLast mqCtx.next mqCtx.nMaxMessageNum ptr).map fun last =>
      mqCtx.setNode last { mqCtx.Nodes last with next := some node }

/-- The critical section of `CdcMessageQueuePostMessage`; the flag tells
whether a message was queued. -/
def postLocked (mqCtx : MessageQueueContext CdcMessage) (m : CdcMessage) :
    Option (MessageQueueContext CdcMessage × Bool) :=
  if mqCtx.nMaxMessageNum ≤ mqCtx.nCount then some (mqCtx, false)
  else do
    let node ← freeNode mqCtx
    let linked ← linkLast (mqCtx.setNode node ⟨none, true, m⟩) node
    return ({ linked with nCount := linked.nCount + 1 }, true)

/-- The critical section of `CdcMessageQueueTryGetMessage` with the message it
copies out. -/
def getLocked (mqCtx : MessageQueueContext CdcMessage) :
    Option (MessageQueueContext CdcMessage × Option CdcMessage) :=
  if mqCtx.nCount = 0 then some (mqCtx, none)
  else do
    let node ← mqCtx.pHead
    let content := mqCtx.Nodes node
    let taken := { mqCtx with pHead := content.next }.setNode node { content with valid := false }
    return ({ taken with nCount := taken.nCount - 1 }, some content.msg)

/-- What `CdcMessageQueueFlush` does before it drains the semaphore. -/
def flushLocked (mqCtx : MessageQueueContext CdcMessage) : MessageQueueContext CdcMessage :=
  { mqCtx with
    pHead := none
    nCount := 0
    Nodes := fun i =>
      if i < mqCtx.nMaxMessageNum then { mqCtx.Nodes i with valid := false } else mqCtx.Nodes i }

/-- Where a thread stands between two steps of its call. -/
inductive Stage
  | posted
  | waited
  | gotToken
  | draining
  | sawTokens
deriving DecidableEq

/-- The queue, the stage of each thread inside a call, the holder of the mutex,
and the messages that passed: `settled` marks each message that left the queue,
in posting order, as received or flushed. -/
structure QueueSystem (CdcMessage : Type) where
  mqCtx : MessageQueueContext CdcMessage
  nThreads : Nat
  stage : Nat → Option Stage
  mutex : Option Nat
  postedLog : List CdcMessage
  receivedLog : List CdcMessage
  settled : List Bool

inductive QueueOp (CdcMessage : Type)
  | postEnter (m : CdcMessage)
  | postSignal
  | waitToken
  | waitSignal
  | getToken
  | getEnter
  | timedOut
  | flushEnter
  | flushGetValue
  | flushTryWait

def QueueSystem.start [Inhabited CdcMessage] (nMaxMessageNum nThreads : Nat) :
    QueueSystem CdcMessage :=
  { mqCtx := cdcMessageQueueCreate nMaxMessageNum
    nThreads := nThreads
    stage := fun _ => none
    mutex := none
    postedLog := []
    receivedLog := []
    settled := [] }

variable (system : QueueSystem CdcMessage)

def QueueSystem.setSem (sem : Nat) : QueueSystem CdcMessage :=
  { system with mqCtx := { system.mqCtx with sem := sem } }

def QueueSystem.setStage (thread : Nat) (stage : Option Stage) : QueueSystem CdcMessage :=
  { system with stage := Function.update system.stage thread stage }

/-- `sem_wait` when a token is there; otherwise the thread blocks. -/
def takeToken (thread : Nat) (stage : Stage) : Option (QueueSystem CdcMessage) :=
  if system.stage thread = none ∧ 0 < system.mqCtx.sem then
    some ((system.setSem (system.mqCtx.sem - 1)).setStage thread (some stage))
  else none

/-- `sem_post` at the end of a call. -/
def giveToken (thread : Nat) (stage : Stage) : Option (QueueSystem CdcMessage) :=
  if system.stage thread = some stage then
    some ((system.setSem (system.mqCtx.sem + 1)).setStage thread none)
  else none

/-- One step of one thread; `none` when the thread is elsewhere or blocks. -/
def exec : Nat × QueueOp CdcMessage → Option (QueueSystem CdcMessage)
  | (thread, op) =>
    if system.nThreads ≤ thread then none
    else match op with
    | .postEnter m =>
      if system.stage thread = none ∧ system.mutex = none then
        (postLocked system.mqCtx m).map fun (mqCtx, queued) =>
          if queued then
            { system with
              mqCtx := mqCtx
              postedLog := system.postedLog ++ [m] }.setStage thread (some .posted)
          else { system with mqCtx := mqCtx }
      else none
    | .postSignal => giveToken system thread .posted
    | .waitToken => takeToken system thread .waited
    | .waitSignal => giveToken system thread .waited
    | .getToken => takeToken system thread .gotToken
    | .getEnter =>
      if system.stage thread = some .gotToken ∧ system.mutex = none then
        (getLocked system.mqCtx).map fun (mqCtx, received) =>
          { system with
            mqCtx := mqCtx
            receivedLog := system.receivedLog ++ received.toList
            settled := system.settled ++ received.toList.map fun _ => true }.setStage thread none
      else none
    | .timedOut => if system.stage thread = none then some system else none
    | .flushEnter =>
      if system.stage thread = none ∧ system.mutex = none then
        some ({ system with
          mqCtx := flushLocked system.mqCtx
          mutex := some thread
          settled := system.settled ++ List.replicate system.mqCtx.nCount false }.setStage
            thread (some .draining))
      else none
    | .flushGetValue =>
      if system.stage thread = some .draining then
        if system.mqCtx.sem = 0 then some ({ system with mutex := none }.setStage thread none)
        else some (system.setStage thread (some .sawTokens))
      else none
    | .flushTryWait =>
      if system.stage thread = some .sawTokens then
        some ((system.setSem (system.mqCtx.sem - 1)).setStage thread (some .draining))
      else none

end CedarC.MessageQueueModel
