import CedarC.MessageQueueModel
import CedarC.GuardedRuns
import CedarC.SlotTables
import Mathlib.Data.List.Perm.Subperm

/-!
# Interleavings of the message queue

Every step keeps the list of queued nodes, the log of what left the queue, and
the tokens: a message in the queue has a token in the semaphore or in the hands
of a thread that is about to give it back or to take a message for it.
-/

namespace CedarC.MessageQueueRuns

open GuardedRuns LinkedChain MessageQueueModel SlotTables List Function Option

variable {CdcMessage : Type}

def receivedOf : List CdcMessage → List Bool → List CdcMessage
  | message :: posted, mark :: settled =>
    if mark then message :: receivedOf posted settled else receivedOf posted settled
  | _, _ => []

/-- A thread at this stage still gives a token back or takes a message for it. -/
def owes : Stage → Bool
  | .posted | .waited | .gotToken => true
  | .draining | .sawTokens => false

def inFlight (system : QueueSystem CdcMessage) : Nat :=
  used system.nThreads fun thread => (system.stage thread).filter owes

def settlingOp : Stage → QueueOp CdcMessage
  | .posted => .postSignal
  | .waited => .waitSignal
  | .gotToken => .getEnter
  | .draining => .flushGetValue
  | .sawTokens => .flushTryWait

structure PoolKept (mqCtx : MessageQueueContext CdcMessage) (nodes : List Nat) : Prop where
  chain : Chain mqCtx.next mqCtx.pHead nodes
  distinct : nodes.Nodup
  count : nodes.length = mqCtx.nCount
  inUse : ∀ node, node ∈ nodes ↔ node < mqCtx.nMaxMessageNum ∧ (mqCtx.Nodes node).valid = true

/-- What holds of the queue in every state of every interleaving. -/
structure QueueContract (system : QueueSystem CdcMessage) : Prop where
  list : ∃ nodes, PoolKept system.mqCtx nodes ∧
    (nodes.map fun node => (system.mqCtx.Nodes node).msg) =
      system.postedLog.drop system.settled.length
  settledPosted : system.settled.length ≤ system.postedLog.length
  receivedOnce : system.receivedLog = receivedOf system.postedLog system.settled
  tokens : system.mqCtx.nCount ≤ system.mqCtx.sem + inFlight system
  notStranded : 0 < system.mqCtx.nCount → system.mqCtx.sem = 0 →
    ∃ thread stage, system.stage thread = some stage ∧ owes stage = true ∧
      (exec system (thread, settlingOp stage)).isSome
  postEnds : ∀ m, (postLocked system.mqCtx m).isSome
  getEnds : (getLocked system.mqCtx).isSome

theorem received_of_append (posted : List CdcMessage) (settled more : List Bool) :
    receivedOf posted (settled ++ more) =
      receivedOf posted settled ++ receivedOf (posted.drop settled.length) more := by
  induction settled generalizing posted with
  | nil => cases posted <;> simp [receivedOf]
  | cons mark settled ih =>
    cases posted with
    | nil => cases more <;> simp [receivedOf]
    | cons message posted =>
      cases mark <;> simp [receivedOf, ih]

theorem received_of_flushed (posted : List CdcMessage) (count : Nat) :
    receivedOf posted (List.replicate count false) = [] := by
  induction count generalizing posted with
  | zero => cases posted <;> rfl
  | succ count ih =>
    cases posted with
    | nil => rfl
    | cons message posted => simpa [replicate_succ, receivedOf] using ih posted

/-- Marks only speak of the messages that were posted when they were set. -/
theorem received_of_post {posted : List CdcMessage} {settled : List Bool}
    (covered : settled.length ≤ posted.length) (later : List CdcMessage) :
    receivedOf (posted ++ later) settled = receivedOf posted settled := by
  induction settled generalizing posted with
  | nil => cases posted <;> cases later <;> rfl
  | cons mark settled ih =>
    cases posted with
    | nil => simp at covered
    | cons message posted =>
      have rest := @ih posted (by simpa using covered)
      cases mark <;> simp [receivedOf, rest]

section Pool

variable {mqCtx : MessageQueueContext CdcMessage} {nodes : List Nat}

@[simp] theorem set_node_next (node : Nat) (content : MessageNode CdcMessage) :
    (mqCtx.setNode node content).next = update mqCtx.next node content.next := by
  funext other
  by_cases same : other = node
  · subst same
    simp [MessageQueueContext.setNode, MessageQueueContext.next]
  · simp [MessageQueueContext.setNode, MessageQueueContext.next, same]

@[simp] theorem set_node_head (node : Nat) (content : MessageNode CdcMessage) :
    (mqCtx.setNode node content).pHead = mqCtx.pHead := rfl

@[simp] theorem set_node_same (node : Nat) (content : MessageNode CdcMessage) :
    (mqCtx.setNode node content).Nodes node = content := by
  simp [MessageQueueContext.setNode]

@[simp] theorem set_node_other {node other : Nat} (apart : other ≠ node)
    (content : MessageNode CdcMessage) :
    (mqCtx.setNode node content).Nodes other = mqCtx.Nodes other := by
  simp [MessageQueueContext.setNode, apart]

theorem free_node_found (kept : PoolKept mqCtx nodes) (room : mqCtx.nCount < mqCtx.nMaxMessageNum) :
    ∃ node, freeNode mqCtx = some node ∧ node < mqCtx.nMaxMessageNum ∧ node ∉ nodes := by
  cases search : freeNode mqCtx with
  | none =>
    have full : List.range mqCtx.nMaxMessageNum ⊆ nodes := by
      intro node member
      have taken := List.find?_eq_none.mp search node member
      apply (kept.inUse node).mpr
      exact ⟨mem_range.mp member, by simpa using taken⟩
    have longer := (subperm_of_subset nodup_range full).length_le
    have count := kept.count
    rw [length_range] at longer
    omega
  | some node =>
    have free := List.find?_some search
    have inside := mem_range.mp (mem_of_find?_eq_some search)
    have outside : node ∉ nodes := by
      intro member
      have valid := ((kept.inUse node).mp member).2
      simp [valid] at free
    exact ⟨node, rfl, inside, outside⟩

/-- Two queues that differ at most in their links and head. -/
structure SameContents (left right : MessageQueueContext CdcMessage) : Prop where
  valid : ∀ node, (left.Nodes node).valid = (right.Nodes node).valid
  msg : ∀ node, (left.Nodes node).msg = (right.Nodes node).msg
  count : left.nCount = right.nCount
  capacity : left.nMaxMessageNum = right.nMaxMessageNum
  sem : left.sem = right.sem

theorem link_last_spec {node : Nat} (chain : Chain mqCtx.next mqCtx.pHead nodes)
    (bound : nodes.length ≤ mqCtx.nMaxMessageNum) (fresh : node ∉ nodes)
    (cleared : mqCtx.next node = none) :
    ∃ linked, linkLast mqCtx node = some linked ∧
      Chain linked.next linked.pHead (nodes ++ [node]) ∧ SameContents linked mqCtx := by
  cases nodes with
  | nil =>
    have empty : mqCtx.pHead = none := by
      cases head : mqCtx.pHead with
      | none => rfl
      | some first =>
        rw [head] at chain
        cases chain
    have alone : Chain mqCtx.next (some node) [node] := by
      apply Chain.link
      rw [cleared]
      exact Chain.null
    exact ⟨{ mqCtx with pHead := some node }, by simp [linkLast, empty], alone,
      ⟨fun _ => rfl, fun _ => rfl, rfl, rfl, rfl⟩⟩
  | cons first rest =>
    have head : mqCtx.pHead = some first := by
      cases head : mqCtx.pHead with
      | none =>
        rw [head] at chain
        cases chain
      | some other =>
        rw [head] at chain
        obtain ⟨tail, same, _⟩ := chain_some_iff.mp chain
        rw [(List.cons.inj same).1]
    rw [head] at chain
    let last := (first :: rest).getLast (by simp)
    have walk : walkToLast mqCtx.next mqCtx.nMaxMessageNum first = some last :=
      walk_reaches_last chain bound
    have linked := chain_link_last chain (by simp) fresh
    have different : last ≠ node := by
      intro same
      exact fresh (same ▸ getLast_mem _)
    have unchanged : update (update mqCtx.next last (some node)) node none =
        update mqCtx.next last (some node) := by
      apply update_eq_self_iff.mpr
      rw [update_of_ne (Ne.symm different), cleared]
    rw [unchanged] at linked
    have same : ∀ other, ((mqCtx.setNode last
        { mqCtx.Nodes last with next := some node }).Nodes other).valid =
          (mqCtx.Nodes other).valid ∧
        ((mqCtx.setNode last { mqCtx.Nodes last with next := some node }).Nodes other).msg =
          (mqCtx.Nodes other).msg := by
      intro other
      by_cases here : other = last
      · subst here
        simp [MessageQueueContext.setNode]
      · simp [MessageQueueContext.setNode, here]
    exact ⟨mqCtx.setNode last { mqCtx.Nodes last with next := some node },
      by simp [linkLast, head, walk], by simpa [head] using linked,
      ⟨fun other => (same other).1, fun other => (same other).2, rfl, rfl, rfl⟩⟩

/-- A post is refused by a full queue, and otherwise puts the message behind
the others, into a node that was free. -/
theorem post_locked_spec (kept : PoolKept mqCtx nodes) (m : CdcMessage) :
    postLocked mqCtx m = some (mqCtx, false) ∨
      ∃ node posted, postLocked mqCtx m = some (posted, true) ∧
        PoolKept posted (nodes ++ [node]) ∧ (posted.Nodes node).msg = m ∧
        (∀ other ∈ nodes, (posted.Nodes other).msg = (mqCtx.Nodes other).msg) ∧
        posted.nCount = mqCtx.nCount + 1 ∧ posted.sem = mqCtx.sem := by
  by_cases full : mqCtx.nMaxMessageNum ≤ mqCtx.nCount
  · left
    simp [postLocked, full]
  · right
    obtain ⟨node, free, inside, fresh⟩ := free_node_found kept (by omega)
    let filled := mqCtx.setNode node ⟨none, true, m⟩
    have different : ∀ other ∈ nodes, other ≠ node := by
      intro other member same
      exact fresh (same ▸ member)
    have chain : Chain filled.next filled.pHead nodes := by
      apply chain_congr kept.chain
      intro other member
      simp [filled, different other member]
    have short : nodes.length ≤ filled.nMaxMessageNum := by
      have count := kept.count
      have same : filled.nMaxMessageNum = mqCtx.nMaxMessageNum := rfl
      omega
    obtain ⟨linked, links, linkedChain, same⟩ := link_last_spec chain short fresh (by simp [filled])
    have outside : ∀ other, other ≠ node → (filled.Nodes other) = mqCtx.Nodes other := by
      intro other apart
      simp [filled, MessageQueueContext.setNode, apart]
    have here : filled.Nodes node = ⟨none, true, m⟩ := by simp [filled, MessageQueueContext.setNode]
    have count : linked.nCount = mqCtx.nCount := same.count
    refine ⟨node, { linked with nCount := linked.nCount + 1 }, ?_, ?_, ?_, ?_, ?_, same.sem⟩
    · simp only [postLocked, if_neg full, free, bind_eq_bind, bind_some]
      rw [links]
      rfl
    · exact
      { chain := linkedChain
        distinct := chain_nodup linkedChain
        count := by
          have before := kept.count
          simp only [length_append, length_singleton]
          omega
        inUse := by
          intro other
          have capacity : linked.nMaxMessageNum = mqCtx.nMaxMessageNum := same.capacity
          simp only [mem_append, mem_singleton, capacity]
          rw [same.valid, kept.inUse other]
          by_cases apart : other = node
          · subst apart
            simp [here, inside]
          · simp [outside other apart, apart] }
    · rw [same.msg, here]
    · intro other member
      rw [same.msg, outside other (different other member)]
    · simp [count]

theorem get_locked_spec (kept : PoolKept mqCtx nodes) :
    (nodes = [] ∧ getLocked mqCtx = some (mqCtx, none)) ∨ ∃ node rest taken, nodes = node :: rest ∧
        getLocked mqCtx = some (taken, some (mqCtx.Nodes node).msg) ∧ PoolKept taken rest ∧
        (∀ other, (taken.Nodes other).msg = (mqCtx.Nodes other).msg) ∧
        mqCtx.nCount = taken.nCount + 1 ∧ taken.sem = mqCtx.sem := by
  have count := kept.count
  have chain := kept.chain
  have distinct := kept.distinct
  cases nodes with
  | nil =>
    have empty : mqCtx.nCount = 0 := by simpa using count.symm
    left
    exact ⟨rfl, by simp [getLocked, empty]⟩
  | cons node rest =>
    have some_left : mqCtx.nCount ≠ 0 := by
      simp only [length_cons] at count
      omega
    cases head : mqCtx.pHead with
    | none =>
      rw [head] at chain
      cases chain
    | some first =>
      rw [head] at chain
      obtain ⟨tail, same, tailChain⟩ := chain_some_iff.mp chain
      obtain ⟨rfl, rfl⟩ := List.cons.inj same
      have outside := (nodup_cons.mp distinct).1
      let content := mqCtx.Nodes node
      let shorter := { mqCtx with pHead := content.next }
      let taken := { shorter.setNode node { content with valid := false } with
        nCount := mqCtx.nCount - 1 }
      have links : taken.next = mqCtx.next := by
        have update : (shorter.setNode node { content with valid := false }).next =
            update mqCtx.next node content.next := by
          simp only [set_node_next]
          rfl
        have same : taken.next = (shorter.setNode node { content with valid := false }).next := rfl
        rw [same, update]
        exact update_eq_self node mqCtx.next
      have here : taken.Nodes node = { content with valid := false } := by simp [taken]
      have there : ∀ other, other ≠ node → taken.Nodes other = mqCtx.Nodes other := by
        intro other apart
        simp [taken, shorter, apart]
      right
      refine ⟨node, rest, taken, rfl, ?_, ?_, ?_, ?_, rfl⟩
      · simp only [getLocked, if_neg some_left, head]
        rfl
      · exact
        { chain := by
            rw [links]
            exact tailChain
          distinct := (nodup_cons.mp distinct).2
          count := by
            have shorter : taken.nCount = mqCtx.nCount - 1 := rfl
            simp only [length_cons] at count
            omega
          inUse := by
            intro other
            have before := kept.inUse other
            have capacity : taken.nMaxMessageNum = mqCtx.nMaxMessageNum := rfl
            by_cases apart : other = node
            · subst apart
              simp [here, outside]
            · rw [there other apart, capacity, ← before]
              simp [apart] }
      · intro other
        by_cases apart : other = node
        · subst apart
          rw [here]
        · rw [there other apart]
      · have shorter : taken.nCount = mqCtx.nCount - 1 := rfl
        omega

theorem flush_locked_spec : PoolKept (flushLocked mqCtx) [] := by
  exact
  { chain := Chain.null
    distinct := nodup_nil
    count := rfl
    inUse := by
      intro node
      by_cases inside : node < mqCtx.nMaxMessageNum
      · simp [flushLocked, inside]
      · simp [flushLocked, inside] }

theorem pool_kept_sem (kept : PoolKept mqCtx nodes) (sem : Nat) :
    PoolKept { mqCtx with sem := sem } nodes :=
  ⟨kept.chain, kept.distinct, kept.count, kept.inUse⟩

end Pool

section Steps

/-- The invariant behind the contract: the mutex is held across steps by a
flush only, and the queue is empty meanwhile. -/
structure QueueKept (system : QueueSystem CdcMessage) : Prop where
  list : ∃ nodes, PoolKept system.mqCtx nodes ∧
    (nodes.map fun node => (system.mqCtx.Nodes node).msg) =
      system.postedLog.drop system.settled.length
  settledPosted : system.settled.length ≤ system.postedLog.length
  receivedOnce : system.receivedLog = receivedOf system.postedLog system.settled
  tokens : system.mqCtx.nCount ≤ system.mqCtx.sem + inFlight system
  holder : ∀ thread, system.stage thread = some .draining ∨ system.stage thread = some .sawTokens →
    system.mutex = some thread
  emptied : system.mutex ≠ none → system.mqCtx.nCount = 0
  inRange : ∀ thread, system.stage thread ≠ none → thread < system.nThreads

variable {system : QueueSystem CdcMessage} {thread : Nat}

def owed (stage : Option Stage) : Nat := if (stage.filter owes).isSome then 1 else 0

section StageSteps

variable {next : QueueSystem CdcMessage} {stage : Option Stage}

theorem in_flight_step (inside : thread < system.nThreads)
    (stages : next.stage = update system.stage thread stage)
    (threads : next.nThreads = system.nThreads) :
    inFlight next + owed (system.stage thread) = inFlight system + owed stage := by
  have moved : (fun other => (next.stage other).filter owes) =
      update (fun other => (system.stage other).filter owes) thread
        (stage.filter owes) := by
    funext other
    rw [stages]
    by_cases same : other = thread
    · subst same
      simp
    · simp [same]
  have counted := @used_update _ system.nThreads thread
    (fun other => (system.stage other).filter owes) (stage.filter owes) inside
  unfold inFlight owed
  rw [moved, threads]
  exact counted

theorem stage_step (kept : QueueKept system) (inside : thread < system.nThreads)
    (stages : next.stage = update system.stage thread stage)
    (threads : next.nThreads = system.nThreads) (list : ∃ nodes, PoolKept next.mqCtx nodes ∧
      (nodes.map fun node => (next.mqCtx.Nodes node).msg) = next.postedLog.drop next.settled.length)
    (settledPosted : next.settled.length ≤ next.postedLog.length)
    (receivedOnce : next.receivedLog = receivedOf next.postedLog next.settled)
    (balance : next.mqCtx.nCount = 0 ∨
      system.mqCtx.sem + owed (system.stage thread) + next.mqCtx.nCount ≤
        next.mqCtx.sem + owed stage + system.mqCtx.nCount)
    (held : stage = some .draining ∨ stage = some .sawTokens → next.mutex = some thread)
    (others : ∀ other, other ≠ thread → system.mutex = some other → next.mutex = some other)
    (emptied : next.mutex ≠ none → next.mqCtx.nCount = 0) : QueueKept next := by
  have counted := in_flight_step inside stages threads
  have before := kept.tokens
  exact
  { list := list
    settledPosted := settledPosted
    receivedOnce := receivedOnce
    tokens := by
      cases balance with
      | inl empty | inr balance => omega
    holder := by
      intro other flushing
      rw [stages] at flushing
      by_cases same : other = thread
      · subst same
        apply held
        simpa using flushing
      · apply others other same
        apply kept.holder other
        simpa [same] using flushing
    emptied := emptied
    inRange := by
      intro other busy
      rw [stages] at busy
      rw [threads]
      by_cases same : other = thread
      · subst same
        exact inside
      · exact kept.inRange other (by simpa [same] using busy) }

end StageSteps

theorem token_step (kept : QueueKept system) (inside : thread < system.nThreads) (sem : Nat)
    (stage : Option Stage) (balance : system.mqCtx.nCount = 0 ∨
      system.mqCtx.sem + owed (system.stage thread) ≤ sem + owed stage)
    (held : stage = some .draining ∨ stage = some .sawTokens → system.mutex = some thread) :
    QueueKept ((system.setSem sem).setStage thread stage) := by
  obtain ⟨nodes, pool, contents⟩ := kept.list
  have list : ∃ nodes, PoolKept ((system.setSem sem).setStage thread stage).mqCtx nodes ∧
      (nodes.map fun node => (system.mqCtx.Nodes node).msg) =
        system.postedLog.drop system.settled.length :=
    ⟨nodes, pool_kept_sem pool sem, contents⟩
  refine stage_step kept inside rfl rfl list kept.settledPosted kept.receivedOnce ?_ held ?_
    kept.emptied
  · cases balance with
    | inl empty => exact .inl empty
    | inr balance => exact .inr (Nat.add_le_add_right balance system.mqCtx.nCount)
  · intro other _ locked
    exact locked

variable {next : QueueSystem CdcMessage} (kept : QueueKept system)

include kept

theorem take_token_kept {stage : Stage}
    (inside : thread < system.nThreads) (owing : owes stage = true)
    (step : takeToken system thread stage = some next) : QueueKept next := by
  unfold takeToken at step
  split_ifs at step with free
  obtain rfl := Option.some.inj step
  have idle : owed (system.stage thread) = 0 := by simp [free.1, owed]
  have owing_one : owed (some stage) = 1 := by simp [owed, owing]
  have positive := free.2
  apply token_step kept inside
  · right
    omega
  · intro flushing
    cases flushing with
    | inl same | inr same => simp [Option.some.inj same, owes] at owing

theorem give_token_kept {stage : Stage}
    (inside : thread < system.nThreads) (step : giveToken system thread stage = some next) :
    QueueKept next := by
  unfold giveToken at step
  split_ifs at step with here
  obtain rfl := Option.some.inj step
  have atMost : owed (system.stage thread) ≤ 1 := by
    unfold owed
    split_ifs <;> omega
  apply token_step kept inside
  · right
    omega
  · intro flushing
    simp at flushing

theorem post_enter_kept {m : CdcMessage}
    (step : exec system (thread, .postEnter m) = some next) : QueueKept next := by
  simp only [exec] at step
  split_ifs at step with outside free
  have inside : thread < system.nThreads := by omega
  obtain ⟨nodes, pool, contents⟩ := kept.list
  cases post_locked_spec pool m with
  | inl full =>
    rw [full] at step
    obtain rfl := Option.some.inj step
    exact kept
  | inr room =>
    obtain ⟨node, posted, ends, longer, here, there, count, sem⟩ := room
    rw [ends] at step
    obtain rfl := Option.some.inj step
    have covered := kept.settledPosted
    have owing : owed (some Stage.posted) = 1 := rfl
    have idle : owed (system.stage thread) = 0 := by simp [free.1, owed]
    have map : ((nodes ++ [node]).map fun node => (posted.Nodes node).msg) =
        (system.postedLog ++ [m]).drop system.settled.length := by
      rw [map_append, map_singleton, here, drop_append_of_le_length covered, ← contents]
      congr 1
      apply map_congr_left
      intro other member
      exact there other member
    refine stage_step kept inside rfl rfl ⟨_, longer, map⟩ ?_ ?_ ?_ ?_ ?_ ?_
    · simp only [QueueSystem.setStage, if_true, length_append]
      omega
    · simp only [QueueSystem.setStage, if_true]
      rw [received_of_post covered, kept.receivedOnce]
    · right
      simp only [QueueSystem.setStage, if_true]
      omega
    · simp
    · intro other _ locked
      exact locked
    · intro locked
      simp [QueueSystem.setStage, free.2] at locked

theorem get_enter_kept
    (step : exec system (thread, .getEnter) = some next) : QueueKept next := by
  simp only [exec] at step
  split_ifs at step with outside holds
  have inside : thread < system.nThreads := by omega
  obtain ⟨nodes, pool, contents⟩ := kept.list
  have owing : owed (system.stage thread) = 1 := by simp [holds.1, owed, owes]
  have idle : owed none = 0 := rfl
  cases get_locked_spec pool with
  | inl empty =>
    rw [empty.2] at step
    obtain rfl := Option.some.inj step
    have count := pool.count
    rw [empty.1] at count
    refine stage_step kept inside rfl rfl
      ⟨nodes, pool, by simpa [QueueSystem.setStage] using contents⟩ ?_ ?_ ?_ ?_ ?_ ?_
    · simpa [QueueSystem.setStage] using kept.settledPosted
    · simpa [QueueSystem.setStage] using kept.receivedOnce
    · exact .inl count.symm
    · simp
    · intro other _ locked
      exact locked
    · intro _
      exact count.symm
  | inr some_left =>
    obtain ⟨node, rest, taken, split, ends, shorter, same, count, sem⟩ := some_left
    rw [ends] at step
    obtain rfl := Option.some.inj step
    have front : system.postedLog.drop system.settled.length =
        (system.mqCtx.Nodes node).msg :: rest.map fun node => (system.mqCtx.Nodes node).msg := by
      rw [← contents, split]
      rfl
    have longer : system.settled.length < system.postedLog.length := by
      have lengths := congrArg List.length front
      simp only [length_drop, length_cons] at lengths
      omega
    have map : (rest.map fun node => (taken.Nodes node).msg) =
        system.postedLog.drop (system.settled.length + 1) := by
      rw [← drop_drop, front]
      simp [same]
    refine stage_step kept inside rfl rfl
      ⟨rest, shorter, by simpa [QueueSystem.setStage] using map⟩ ?_ ?_ ?_ ?_ ?_ ?_
    · simp only [QueueSystem.setStage, toList_some, map_cons, map_nil,
        length_append, length_singleton]
      omega
    · simp only [QueueSystem.setStage, toList_some, map_cons, map_nil]
      rw [received_of_append, front, kept.receivedOnce]
      simp [receivedOf]
    · right
      simp only [QueueSystem.setStage]
      omega
    · simp
    · intro other _ locked
      exact locked
    · intro locked
      simp [QueueSystem.setStage, holds.2] at locked

theorem flush_enter_kept
    (step : exec system (thread, .flushEnter) = some next) : QueueKept next := by
  simp only [exec] at step
  split_ifs at step with outside free
  have inside : thread < system.nThreads := by omega
  obtain rfl := Option.some.inj step
  obtain ⟨nodes, pool, contents⟩ := kept.list
  have covered := kept.settledPosted
  have queued : system.settled.length + system.mqCtx.nCount = system.postedLog.length := by
    have lengths := congrArg List.length contents
    simp only [length_map, length_drop, pool.count] at lengths
    omega
  refine stage_step kept inside rfl rfl
    ⟨[], flush_locked_spec, by simp [QueueSystem.setStage, queued]⟩ ?_ ?_ ?_ ?_ ?_ ?_
  · simp [QueueSystem.setStage, queued]
  · simp only [QueueSystem.setStage]
    rw [received_of_append, received_of_flushed, append_nil, kept.receivedOnce]
  · exact .inl rfl
  · intro _
    rfl
  · intro other _ locked
    simp [free.2] at locked
  · intro _
    rfl

theorem flush_value_kept
    (step : exec system (thread, .flushGetValue) = some next) : QueueKept next := by
  simp only [exec] at step
  split_ifs at step with outside flushing drained
  · have inside : thread < system.nThreads := by omega
    obtain rfl := Option.some.inj step
    have locked := kept.holder thread (.inl flushing)
    have empty := kept.emptied (by simp [locked])
    refine stage_step kept inside rfl rfl kept.list kept.settledPosted kept.receivedOnce
      ?_ ?_ ?_ ?_
    · exact .inl empty
    · simp
    · intro other different held
      rw [locked] at held
      exact absurd (Option.some.inj held).symm different
    · simp [QueueSystem.setStage]
  · have inside : thread < system.nThreads := by omega
    obtain rfl := Option.some.inj step
    have locked := kept.holder thread (.inl flushing)
    have empty := kept.emptied (by simp [locked])
    have moved := token_step kept inside system.mqCtx.sem (some .sawTokens) (.inl empty)
      fun _ => locked
    exact moved

theorem flush_wait_kept
    (step : exec system (thread, .flushTryWait) = some next) : QueueKept next := by
  simp only [exec] at step
  split_ifs at step with outside flushing
  have inside : thread < system.nThreads := by omega
  obtain rfl := Option.some.inj step
  have locked := kept.holder thread (.inr flushing)
  have empty := kept.emptied (by simp [locked])
  exact token_step kept inside (system.mqCtx.sem - 1) (some .draining) (.inl empty) fun _ => locked

theorem exec_kept {op : Nat × QueueOp CdcMessage}
    (step : exec system op = some next) : QueueKept next := by
  obtain ⟨thread, op⟩ := op
  have inside : thread < system.nThreads := by
    by_contra outside
    simp [exec, show system.nThreads ≤ thread by omega] at step
  have within : ¬ system.nThreads ≤ thread := by omega
  cases op with
  | postEnter m => exact post_enter_kept kept step
  | postSignal | waitSignal =>
    simp only [exec, if_neg within] at step
    exact give_token_kept kept inside step
  | waitToken | getToken =>
    simp only [exec, if_neg within] at step
    exact take_token_kept kept inside rfl step
  | getEnter => exact get_enter_kept kept step
  | timedOut =>
    simp only [exec, if_neg within] at step
    split_ifs at step
    obtain rfl := Option.some.inj step
    exact kept
  | flushEnter => exact flush_enter_kept kept step
  | flushGetValue => exact flush_value_kept kept step
  | flushTryWait => exact flush_wait_kept kept step

end Steps

variable {system : QueueSystem CdcMessage}

theorem start_kept [Inhabited CdcMessage] (nMaxMessageNum nThreads : Nat) :
    QueueKept (QueueSystem.start nMaxMessageNum nThreads : QueueSystem CdcMessage) := by
  exact
  { list := by
      refine ⟨[], ⟨Chain.null, nodup_nil, rfl, ?_⟩, rfl⟩
      intro node
      simp [QueueSystem.start, cdcMessageQueueCreate]
    settledPosted := Nat.le_refl 0
    receivedOnce := rfl
    tokens := Nat.zero_le _
    holder := by simp [QueueSystem.start]
    emptied := by simp [QueueSystem.start]
    inRange := by simp [QueueSystem.start] }

/-- While a message is queued the mutex is free, so a thread that owes a token
or a get can always go on. -/
theorem settling_step_enabled (kept : QueueKept system) (queued : 0 < system.mqCtx.nCount)
    {thread : Nat} {stage : Stage} (here : system.stage thread = some stage)
    (owing : owes stage = true) : (exec system (thread, settlingOp stage)).isSome := by
  have free : system.mutex = none := by
    by_contra locked
    have empty := kept.emptied locked
    omega
  have inside := kept.inRange thread (by simp [here])
  have within : ¬ system.nThreads ≤ thread := by omega
  obtain ⟨nodes, pool, _⟩ := kept.list
  cases stage with
  | posted | waited => simp [settlingOp, exec, within, giveToken, here]
  | gotToken =>
    cases get_locked_spec pool with
    | inl empty => simp [settlingOp, exec, within, here, free, empty.2]
    | inr found =>
      obtain ⟨node, rest, taken, _, ends, _⟩ := found
      simp [settlingOp, exec, within, here, free, ends]
  | draining | sawTokens => simp [owes] at owing

theorem contract_of_kept (kept : QueueKept system) : QueueContract system := by
  obtain ⟨nodes, pool, _⟩ := kept.list
  exact
  { list := kept.list
    settledPosted := kept.settledPosted
    receivedOnce := kept.receivedOnce
    tokens := kept.tokens
    notStranded := by
      intro queued noToken
      have flying : inFlight system ≠ 0 := by
        have tokens := kept.tokens
        omega
      have owing : ∃ thread stage, system.stage thread = some stage ∧ owes stage = true := by
        by_contra none_owes
        apply flying
        apply used_eq_zero.mpr
        intro thread _
        apply filter_eq_none_iff.mpr
        intro stage here owing
        exact none_owes ⟨thread, stage, here, owing⟩
      obtain ⟨thread, stage, here, owing⟩ := owing
      exact ⟨thread, stage, here, owing, settling_step_enabled kept queued here owing⟩
    postEnds := by
      intro m
      cases post_locked_spec pool m with
      | inl full => simp [full]
      | inr room =>
        obtain ⟨node, posted, ends, _⟩ := room
        simp [ends]
    getEnds := by
      cases get_locked_spec pool with
      | inl empty => simp [empty.2]
      | inr found =>
        obtain ⟨node, rest, taken, _, ends, _⟩ := found
        simp [ends] }

/-- In every interleaving of any number of threads the list is the nodes in
use, what left the queue was received in posting order or flushed, and no
message is stranded. -/
theorem message_queue_contract [Inhabited CdcMessage] (nMaxMessageNum nThreads : Nat)
    (ops : List (Nat × QueueOp CdcMessage)) (final : QueueSystem CdcMessage)
    (run : runOps exec (QueueSystem.start nMaxMessageNum nThreads) ops = some final) :
    QueueContract final := by
  apply contract_of_kept
  exact run_invariant (fun _ _ _ kept step => exec_kept kept step)
    (start_kept nMaxMessageNum nThreads) run

def racingOps : List (Nat × QueueOp Nat) :=
  [(0, .postEnter 5), (0, .postSignal), (1, .getToken), (0, .postEnter 6), (2, .flushEnter),
   (2, .flushGetValue), (0, .postSignal), (2, .timedOut), (1, .getEnter)]

theorem racing_flush_strands_nothing :
    ∃ final, runOps exec (QueueSystem.start 3 3) racingOps = some final ∧ QueueContract final := by
  have ends : (runOps exec (QueueSystem.start 3 3) racingOps).isSome = true := by decide
  obtain ⟨final, run⟩ := isSome_iff_exists.mp ends
  exact ⟨final, run, message_queue_contract 3 3 racingOps final run⟩

end CedarC.MessageQueueRuns
