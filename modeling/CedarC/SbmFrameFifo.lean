import CedarC.SbmFrameModel
import CedarC.CyclicBuffer
import CedarC.GuardedRuns

/-!
# Frame pictures between the detector and the decoder

The cursors of a frame FIFO are three numbers that only grow, taken modulo the
number of entries: the frames flushed, delivered and added. The detector fills
the entry behind the last frame, the decoder requests frames, gives the newest
back and flushes the oldest.
-/

namespace CedarC.SbmFrameFifo

open CyclicBuffer GuardedRuns SbmFrameModel List

section Cursors

variable {Frame : Type}

/-- A FIFO after `added` frames, `delivered` of them read and `flushed` gone. -/
structure CursorsKept (fifo : FrameFifo Frame) (flushed delivered added : Nat) : Prop where
  capacity : 0 < fifo.nMaxFrameNum
  flushedDelivered : flushed ≤ delivered
  deliveredAdded : delivered ≤ added
  room : added ≤ flushed + fifo.nMaxFrameNum
  readPos : fifo.nReadPos = delivered % fifo.nMaxFrameNum
  writePos : fifo.nWritePos = added % fifo.nMaxFrameNum
  flushPos : fifo.nFlushPos = flushed % fifo.nMaxFrameNum
  valid : fifo.nValidFrameNum = added - flushed
  unRead : fifo.nUnReadFrameNum = added - delivered

variable {fifo : FrameFifo Frame} {flushed delivered added : Nat}

theorem next_pos_spec (capacity : 0 < fifo.nMaxFrameNum) (position : Nat) :
    fifo.nextPos (position % fifo.nMaxFrameNum) = (position + 1) % fifo.nMaxFrameNum :=
  cursor_next position capacity

theorem init_cursors (frame : Frame) {nMaxFrameNum : Nat} (positive : 0 < nMaxFrameNum) :
    CursorsKept (FrameFifo.init frame nMaxFrameNum) 0 0 0 := by
  exact
  { capacity := positive
    flushedDelivered := Nat.le_refl 0
    deliveredAdded := Nat.le_refl 0
    room := Nat.zero_le _
    readPos := (Nat.zero_mod _).symm
    writePos := (Nat.zero_mod _).symm
    flushPos := (Nat.zero_mod _).symm
    valid := rfl
    unRead := rfl }

variable (kept : CursorsKept fifo flushed delivered added)

include kept

theorem store_cursors (pFrame : Nat)
    (frame : Frame) : CursorsKept (fifo.store pFrame frame) flushed delivered added :=
  ⟨kept.capacity, kept.flushedDelivered, kept.deliveredAdded, kept.room, kept.readPos,
    kept.writePos, kept.flushPos, kept.valid, kept.unRead⟩

theorem request_none
    (empty : delivered = added) : fifo.request = (fifo, none) := by
  have unRead := kept.unRead
  have zero : fifo.nUnReadFrameNum = 0 := by omega
  simp [FrameFifo.request, zero]

theorem advance_read_spec (waiting : delivered < added) :
    CursorsKept fifo.advanceRead flushed (delivered + 1) added := by
  have unRead := kept.unRead
  have ordered := kept.flushedDelivered
  exact
  { kept with
    flushedDelivered := by omega
    deliveredAdded := waiting
    readPos := by
      change fifo.nextPos fifo.nReadPos = _
      rw [kept.readPos]
      exact next_pos_spec kept.capacity delivered
    unRead := by
      change fifo.nUnReadFrameNum - 1 = _
      omega }

theorem request_some (waiting : delivered < added) :
    fifo.request = (fifo.advanceRead, some (delivered % fifo.nMaxFrameNum)) := by
  have unRead := kept.unRead
  have some_left : fifo.nUnReadFrameNum ≠ 0 := by omega
  simp only [FrameFifo.request, if_neg some_left, kept.readPos]

omit kept

theorem give_back_spec (kept : CursorsKept fifo flushed (delivered + 1) added)
    (held : flushed ≤ delivered) :
    ∃ next, fifo.giveBack (delivered % fifo.nMaxFrameNum) = some (next, 0) ∧
      CursorsKept next flushed delivered added ∧ next.pFrames = fifo.pFrames ∧
      next.nMaxFrameNum = fifo.nMaxFrameNum := by
  have valid := kept.valid
  have inside := kept.deliveredAdded
  have unRead := kept.unRead
  have some_valid : fifo.nValidFrameNum ≠ 0 := by omega
  have previous := cursor_previous delivered kept.capacity
  rw [← kept.readPos] at previous
  refine ⟨{ fifo with
    nReadPos := delivered % fifo.nMaxFrameNum
    nUnReadFrameNum := fifo.nUnReadFrameNum + 1 }, ?_, ?_, rfl, rfl⟩
  · simp only [FrameFifo.giveBack, if_neg some_valid, previous]
    simp
  · exact
    { kept with
      flushedDelivered := held
      deliveredAdded := by omega
      readPos := rfl
      unRead := by
        change fifo.nUnReadFrameNum + 1 = _
        omega }

variable (kept : CursorsKept fifo flushed delivered added)

include kept

theorem advance_flush_spec
    (read : flushed < delivered) : CursorsKept fifo.advanceFlush (flushed + 1) delivered added := by
  have valid := kept.valid
  have inside := kept.deliveredAdded
  have room := kept.room
  exact
  { kept with
    flushedDelivered := read
    room := by
      change added ≤ flushed + 1 + fifo.nMaxFrameNum
      omega
    flushPos := by
      change fifo.nextPos fifo.nFlushPos = _
      rw [kept.flushPos]
      exact next_pos_spec kept.capacity flushed
    valid := by
      change fifo.nValidFrameNum - 1 = _
      omega }

theorem flush_oldest (read : flushed < delivered) :
    fifo.flush (flushed % fifo.nMaxFrameNum) = some (fifo.advanceFlush, 0) := by
  have valid := kept.valid
  have inside := kept.deliveredAdded
  have some_valid : fifo.nValidFrameNum ≠ 0 := by omega
  simp [FrameFifo.flush, some_valid, kept.flushPos]

theorem advance_write_spec (free : added < flushed + fifo.nMaxFrameNum) :
    CursorsKept fifo.advanceWrite flushed delivered (added + 1) := by
  have valid := kept.valid
  have unRead := kept.unRead
  have ordered := kept.flushedDelivered
  have inside := kept.deliveredAdded
  exact
  { kept with
    deliveredAdded := by omega
    room := free
    writePos := by
      change fifo.nextPos fifo.nWritePos = _
      rw [kept.writePos]
      exact next_pos_spec kept.capacity added
    valid := by
      change fifo.nValidFrameNum + 1 = _
      omega
    unRead := by
      change fifo.nUnReadFrameNum + 1 = _
      omega }

theorem full_iff :
    fifo.nMaxFrameNum ≤ fifo.nValidFrameNum ↔ added = flushed + fifo.nMaxFrameNum := by
  have valid := kept.valid
  have room := kept.room
  have positive := kept.capacity
  omega

end Cursors

section System

/-- The manager, the entry that the detector fills, the entries that the decoder
holds, and the contents of the frames that passed. -/
structure FramePicSystem where
  pSbm : SbmFrame
  filling : Option Nat
  held : List Nat
  added : List FramePicInfo
  delivered : List FramePicInfo
  flushed : List FramePicInfo

inductive FramePicOp
  | requestEmptyFramePic
  | fill (content : FramePicInfo)
  | addFramePic (pFramePic : Nat)
  | requestFramePic
  | returnFramePic (pFramePic : Nat)
  | flushFramePic (pFramePic : Nat)

def FramePicSystem.start (pSbm : SbmFrame) : FramePicSystem := ⟨pSbm, none, [], [], [], []⟩

def FramePicSystem.content (system : FramePicSystem) (pFramePic : Nat) : FramePicInfo :=
  system.pSbm.mFramePicFifo.pFrames pFramePic

/-- One call with its effect on the two parties; `none` when the call aborts. -/
def exec (system : FramePicSystem) : FramePicOp → Option FramePicSystem
  | .requestEmptyFramePic =>
    match requestEmptyFramePic system.pSbm with
    | some pFramePic => some { system with filling := some pFramePic }
    | none => some system
  | .fill content =>
    match system.filling with
    | some pFramePic =>
      let fifo := system.pSbm.mFramePicFifo.store pFramePic content
      some { system with pSbm := { system.pSbm with mFramePicFifo := fifo } }
    | none => some system
  | .addFramePic pFramePic =>
    (addFramePic system.pSbm pFramePic).map fun (pSbm, result) =>
      if result = 0 then
        { system with
          pSbm := pSbm
          filling := none
          added := system.added ++ [system.content pFramePic] }
      else { system with pSbm := pSbm, filling := none }
  | .requestFramePic =>
    match sbmFrameRequestFramePic system.pSbm with
    | (pSbm, some pFramePic) =>
      some { system with
        pSbm := pSbm
        held := system.held ++ [pFramePic]
        delivered := system.delivered ++ [system.content pFramePic] }
    | (pSbm, none) => some { system with pSbm := pSbm }
  | .returnFramePic pFramePic =>
    (sbmFrameReturnFramePic system.pSbm pFramePic).map fun (pSbm, result) =>
      if result = 0 then
        { system with
          pSbm := pSbm
          held := system.held.dropLast
          delivered := system.delivered.dropLast }
      else { system with pSbm := pSbm }
  | .flushFramePic pFramePic =>
    (sbmFrameFlushFramePic system.pSbm pFramePic).map fun (pSbm, result) =>
      if result = 0 then
        { system with
          pSbm := pSbm
          held := system.held.tail
          flushed := system.flushed ++ [system.content pFramePic] }
      else { system with pSbm := pSbm }

/-- The detector adds the entry it fills, the decoder returns its newest frame
and flushes its oldest. -/
def Legal (system : FramePicSystem) : FramePicOp → Prop
  | .addFramePic pFramePic => system.filling = some pFramePic
  | .returnFramePic pFramePic => system.held.getLast? = some pFramePic
  | .flushFramePic pFramePic => system.held.head? = some pFramePic
  | .requestEmptyFramePic | .fill _ | .requestFramePic => True

instance (system : FramePicSystem) : ∀ op, Decidable (Legal system op)
  | .addFramePic _ | .returnFramePic _ | .flushFramePic _ =>
    inferInstanceAs (Decidable (_ = _))
  | .requestEmptyFramePic | .fill _ | .requestFramePic => inferInstanceAs (Decidable True)

variable (system : FramePicSystem)

/-- The entries of the frames that were added and not yet flushed, oldest first. -/
def unflushedEntries : List Nat :=
  let fifo := system.pSbm.mFramePicFifo
  window id fifo.nMaxFrameNum fifo.nFlushPos fifo.nValidFrameNum

def unreadEntries : List Nat :=
  let fifo := system.pSbm.mFramePicFifo
  window id fifo.nMaxFrameNum fifo.nReadPos fifo.nUnReadFrameNum

structure FrameContract : Prop where
  inOrder : system.delivered ++ (unreadEntries system).map system.content = system.added
  flushedOnce : system.flushed ++ (unflushedEntries system).map system.content = system.added
  holding : system.flushed ++ system.held.map system.content = system.delivered
  fillingFree : ∀ pFramePic ∈ system.filling, pFramePic ∉ unflushedEntries system
  unreadValid : system.pSbm.mFramePicFifo.nUnReadFrameNum ≤ system.pSbm.mFramePicFifo.nValidFrameNum
  validCapacity : system.pSbm.mFramePicFifo.nValidFrameNum ≤ system.pSbm.mFramePicFifo.nMaxFrameNum

end System

section Steps

structure FramesKept (system : FramePicSystem) : Prop where
  cursors : CursorsKept system.pSbm.mFramePicFifo system.flushed.length system.delivered.length
    system.added.length
  contents : HoldsLog system.pSbm.mFramePicFifo.pFrames system.pSbm.mFramePicFifo.nMaxFrameNum
    system.flushed.length system.added
  deliveredPrefix : system.delivered = system.added.take system.delivered.length
  flushedPrefix : system.flushed = system.added.take system.flushed.length
  holding : system.held = window id system.pSbm.mFramePicFifo.nMaxFrameNum system.flushed.length
    (system.delivered.length - system.flushed.length)
  filling : ∀ pFramePic ∈ system.filling,
    pFramePic = system.added.length % system.pSbm.mFramePicFifo.nMaxFrameNum ∧
      system.added.length < system.flushed.length + system.pSbm.mFramePicFifo.nMaxFrameNum

variable {system : FramePicSystem}

theorem content_at (kept : FramesKept system) {position : Nat}
    (low : system.flushed.length ≤ position) (high : position < system.added.length) :
    system.added[position]? =
      some (system.content (position % system.pSbm.mFramePicFifo.nMaxFrameNum)) :=
  kept.contents position low high

variable {count pFramePic capacity first slot : Nat}

theorem take_next (log : List FramePicInfo) {item : FramePicInfo}
    (here : log[count]? = some item) : log.take count ++ [item] = log.take (count + 1) := by
  rw [take_add_one, here]
  rfl

theorem window_last (last : (window id capacity first count).getLast? = some slot) :
    ∃ shorter, count = shorter + 1 ∧ slot = (first + shorter) % capacity ∧
      (window id capacity first count).dropLast = window id capacity first shorter := by
  cases count with
  | zero => simp [window] at last
  | succ shorter =>
    rw [window_back] at last ⊢
    rw [List.getLast?_append_of_ne_nil _ (by simp)] at last
    refine ⟨shorter, rfl, ?_, by simp⟩
    simpa using last.symm

theorem window_head (head : (window id capacity first count).head? = some slot) :
    ∃ shorter, count = shorter + 1 ∧ slot = first % capacity ∧
      (window id capacity first count).tail = window id capacity (first + 1) shorter := by
  cases count with
  | zero => simp [window] at head
  | succ shorter =>
    rw [window_front] at head ⊢
    refine ⟨shorter, rfl, ?_, rfl⟩
    simpa using head.symm

variable (kept : FramesKept system)

include kept

theorem request_empty_kept :
    ∃ next, exec system .requestEmptyFramePic = some next ∧ FramesKept next := by
  by_cases full : system.pSbm.mFramePicFifo.nMaxFrameNum ≤ system.pSbm.mFramePicFifo.nValidFrameNum
  · exact ⟨system, by simp [exec, requestEmptyFramePic, full], kept⟩
  · have free := (not_congr (full_iff kept.cursors)).mp full
    have room : system.added.length < system.flushed.length +
        system.pSbm.mFramePicFifo.nMaxFrameNum := by
      have atMost := kept.cursors.room
      omega
    refine ⟨{ system with filling := some system.pSbm.mFramePicFifo.nWritePos },
      by simp [exec, requestEmptyFramePic, full], ?_⟩
    exact
    { kept with
      filling := by
        intro pFramePic filling
        obtain rfl : system.pSbm.mFramePicFifo.nWritePos = pFramePic := by simpa using filling
        exact ⟨kept.cursors.writePos, room⟩ }

theorem fill_kept (content : FramePicInfo) :
    ∃ next, exec system (.fill content) = some next ∧ FramesKept next := by
  cases filling : system.filling with
  | none => exact ⟨system, by simp [exec, filling], kept⟩
  | some pFramePic =>
    obtain ⟨rfl, room⟩ := kept.filling pFramePic filling
    let fifo := system.pSbm.mFramePicFifo.store
      (system.added.length % system.pSbm.mFramePicFifo.nMaxFrameNum) content
    refine ⟨{ system with pSbm := { system.pSbm with mFramePicFifo := fifo } },
      by simp [exec, filling, fifo], ?_⟩
    exact
    { kept with
      cursors := store_cursors kept.cursors _ content
      contents := holds_log_write kept.contents room content
      filling := kept.filling }

theorem add_kept (filling : system.filling = some pFramePic) :
    ∃ next, exec system (.addFramePic pFramePic) = some next ∧ FramesKept next := by
  obtain ⟨rfl, room⟩ := kept.filling pFramePic filling
  have free : ¬ system.pSbm.mFramePicFifo.nMaxFrameNum ≤
      system.pSbm.mFramePicFifo.nValidFrameNum := by
    intro full
    have whole := (full_iff kept.cursors).mp full
    omega
  have inside := kept.cursors.deliveredAdded
  have ordered := kept.cursors.flushedDelivered
  refine ⟨{ system with
    pSbm := { system.pSbm with mFramePicFifo := system.pSbm.mFramePicFifo.advanceWrite }
    filling := none
    added := system.added ++ [system.content
      (system.added.length % system.pSbm.mFramePicFifo.nMaxFrameNum)] }, ?_, ?_⟩
  · simp [exec, addFramePic, free, kept.cursors.writePos]
  · exact
    { cursors := by
        rw [length_append]
        exact advance_write_spec kept.cursors room
      contents := holds_log_append kept.contents
      deliveredPrefix := by
        rw [take_append_of_le_length inside]
        exact kept.deliveredPrefix
      flushedPrefix := by
        rw [take_append_of_le_length (Nat.le_trans ordered inside)]
        exact kept.flushedPrefix
      holding := kept.holding
      filling := by
        intro other again
        simp at again }

theorem request_kept : ∃ next, exec system .requestFramePic = some next ∧ FramesKept next := by
  have inside := kept.cursors.deliveredAdded
  have ordered := kept.cursors.flushedDelivered
  by_cases empty : system.delivered.length = system.added.length
  · have none_left := request_none kept.cursors empty
    refine ⟨system, ?_, kept⟩
    simp only [exec, sbmFrameRequestFramePic, none_left]
  · have waiting : system.delivered.length < system.added.length := by omega
    have request := request_some kept.cursors waiting
    have here := content_at kept ordered (by omega)
    refine ⟨{ system with
      pSbm := { system.pSbm with mFramePicFifo := system.pSbm.mFramePicFifo.advanceRead }
      held := system.held ++ [system.delivered.length % system.pSbm.mFramePicFifo.nMaxFrameNum]
      delivered := system.delivered ++ [system.content
        (system.delivered.length % system.pSbm.mFramePicFifo.nMaxFrameNum)] }, ?_, ?_⟩
    · simp only [exec, sbmFrameRequestFramePic, request]
    · exact
      { cursors := by
          rw [length_append]
          exact advance_read_spec kept.cursors waiting
        contents := kept.contents
        deliveredPrefix := by
          have next := take_next system.added here
          rw [← kept.deliveredPrefix] at next
          rw [next, length_take, Nat.min_eq_left (by omega)]
        flushedPrefix := kept.flushedPrefix
        holding := by
          rw [kept.holding, length_append, length_singleton,
            show system.delivered.length + 1 - system.flushed.length =
              system.delivered.length - system.flushed.length + 1 by omega, window_back,
            show system.flushed.length + (system.delivered.length - system.flushed.length) =
              system.delivered.length by omega]
          rfl
        filling := kept.filling }

theorem return_kept (newest : system.held.getLast? = some pFramePic) :
    ∃ next, exec system (.returnFramePic pFramePic) = some next ∧ FramesKept next := by
  have ordered := kept.cursors.flushedDelivered
  have inside := kept.cursors.deliveredAdded
  rw [kept.holding] at newest
  obtain ⟨count, size, rfl, shorter⟩ := window_last newest
  have position : system.delivered.length = system.flushed.length + count + 1 := by omega
  have cursors := kept.cursors
  rw [position] at cursors
  obtain ⟨fifo, giveBack, cursors, frames, capacity⟩ := give_back_spec cursors (by omega)
  have length : system.delivered.dropLast.length = system.flushed.length + count := by
    rw [length_dropLast]
    omega
  refine ⟨{ system with
    pSbm := { system.pSbm with mFramePicFifo := fifo }
    held := system.held.dropLast
    delivered := system.delivered.dropLast }, ?_, ?_⟩
  · simp [exec, sbmFrameReturnFramePic, giveBack]
  · exact
    { cursors := by
        rw [length]
        exact cursors
      contents := by
        rw [frames, capacity]
        exact kept.contents
      deliveredPrefix := by
        rw [length]
        calc system.delivered.dropLast
            = system.delivered.take (system.flushed.length + count) := by
              rw [dropLast_eq_take, position, Nat.add_sub_cancel]
          _ = (system.added.take system.delivered.length).take
                (system.flushed.length + count) := by
              rw [← kept.deliveredPrefix]
          _ = system.added.take (system.flushed.length + count) := by
              rw [take_take, Nat.min_eq_left (by omega)]
      flushedPrefix := kept.flushedPrefix
      holding := by
        rw [kept.holding, shorter, length, capacity,
          show system.flushed.length + count - system.flushed.length = count by omega]
      filling := by
        rw [capacity]
        exact kept.filling }

theorem flush_kept (oldest : system.held.head? = some pFramePic) :
    ∃ next, exec system (.flushFramePic pFramePic) = some next ∧ FramesKept next := by
  have inside := kept.cursors.deliveredAdded
  rw [kept.holding] at oldest
  obtain ⟨count, size, rfl, shorter⟩ := window_head oldest
  have read : system.flushed.length < system.delivered.length := by omega
  have flush := flush_oldest kept.cursors read
  have here := content_at kept (Nat.le_refl _) (by omega)
  refine ⟨{ system with
    pSbm := { system.pSbm with
      mFramePicFifo := system.pSbm.mFramePicFifo.advanceFlush
      nValidDataSize := FixedWidth.s32 (system.pSbm.nValidDataSize - (system.content
          (system.flushed.length % system.pSbm.mFramePicFifo.nMaxFrameNum)).nlength) }
    held := system.held.tail
    flushed := system.flushed ++ [system.content
      (system.flushed.length % system.pSbm.mFramePicFifo.nMaxFrameNum)] }, ?_, ?_⟩
  · simp [exec, sbmFrameFlushFramePic, flush, FramePicSystem.content]
  · exact
    { cursors := by
        rw [length_append]
        exact advance_flush_spec kept.cursors read
      contents := by
        rw [length_append]
        exact holds_log_later kept.contents (by omega)
      deliveredPrefix := kept.deliveredPrefix
      flushedPrefix := by
        have next := take_next system.added here
        rw [← kept.flushedPrefix] at next
        rw [next, length_take, Nat.min_eq_left (by omega)]
      holding := by
        rw [kept.holding, shorter, length_append, length_singleton,
          show system.delivered.length - (system.flushed.length + 1) = count by omega]
        rfl
      filling := by
        intro other filling
        have before := kept.filling other filling
        have later : system.added.length <
            system.flushed.length + 1 + system.pSbm.mFramePicFifo.nMaxFrameNum := by
          omega
        rw [length_append, length_singleton]
        exact ⟨before.1, later⟩ }

theorem exec_kept {op : FramePicOp} (legal : Legal system op) :
    ∃ next, exec system op = some next ∧ FramesKept next := by
  cases op with
  | requestEmptyFramePic => exact request_empty_kept kept
  | fill content => exact fill_kept kept content
  | addFramePic pFramePic => exact add_kept kept legal
  | requestFramePic => exact request_kept kept
  | returnFramePic pFramePic => exact return_kept kept legal
  | flushFramePic pFramePic => exact flush_kept kept legal

end Steps

variable {system : FramePicSystem}

theorem start_kept {pSbm : SbmFrame} {nSbmBufferTotalSize pSbmBuf : Int} {nNaluLength : Nat}
    {bytes : Int → UInt8}
    (init : sbmFrameInit nSbmBufferTotalSize nNaluLength pSbmBuf bytes = some pSbm) :
    FramesKept (FramePicSystem.start pSbm) := by
  unfold sbmFrameInit at init
  split_ifs at init
  obtain rfl := Option.some.inj init
  exact
  { cursors := init_cursors _ (by decide)
    contents := by
      intro position _ high
      simp [FramePicSystem.start] at high
    deliveredPrefix := rfl
    flushedPrefix := rfl
    holding := rfl
    filling := by
      intro pFramePic filling
      simp [FramePicSystem.start] at filling }

theorem entries_contents (kept : FramesKept system) {start : Nat}
    (low : system.flushed.length ≤ start) (high : start ≤ system.added.length) :
    (window id system.pSbm.mFramePicFifo.nMaxFrameNum start
      (system.added.length - start)).map system.content = system.added.drop start := by
  have whole := window_of_log kept.contents low
    (show start + (system.added.length - start) ≤ system.added.length by omega)
  rw [take_of_length_le (by simp)] at whole
  rw [← whole]
  unfold window
  rw [map_map]
  rfl

theorem contract_of_kept (kept : FramesKept system) : FrameContract system := by
  have cursors := kept.cursors
  have ordered := cursors.flushedDelivered
  have inside := cursors.deliveredAdded
  have unflushed : unflushedEntries system = window id system.pSbm.mFramePicFifo.nMaxFrameNum
      system.flushed.length (system.added.length - system.flushed.length) := by
    unfold unflushedEntries
    dsimp only
    rw [cursors.flushPos, cursors.valid, window_cursor]
  have unread : unreadEntries system = window id system.pSbm.mFramePicFifo.nMaxFrameNum
      system.delivered.length (system.added.length - system.delivered.length) := by
    unfold unreadEntries
    dsimp only
    rw [cursors.readPos, cursors.unRead, window_cursor]
  exact
  { inOrder := by
      rw [unread, entries_contents kept ordered inside]
      have split := take_append_drop system.delivered.length system.added
      rwa [← kept.deliveredPrefix] at split
    flushedOnce := by
      rw [unflushed, entries_contents kept (Nat.le_refl _) (by omega)]
      have split := take_append_drop system.flushed.length system.added
      rwa [← kept.flushedPrefix] at split
    holding := by
      have whole := window_of_log kept.contents (Nat.le_refl _)
        (show system.flushed.length + (system.delivered.length - system.flushed.length) ≤
          system.added.length by omega)
      have held : system.held.map system.content = (system.added.drop system.flushed.length).take
            (system.delivered.length - system.flushed.length) := by
        rw [kept.holding, ← whole]
        unfold window
        rw [map_map]
        rfl
      have split := @take_add _ system.added system.flushed.length
        (system.delivered.length - system.flushed.length)
      rw [show system.flushed.length + (system.delivered.length - system.flushed.length) =
        system.delivered.length by omega, ← kept.deliveredPrefix, ← kept.flushedPrefix] at split
      rw [held, ← split]
    fillingFree := by
      intro pFramePic filling member
      obtain ⟨rfl, room⟩ := kept.filling pFramePic filling
      rw [unflushed] at member
      obtain ⟨index, below, same⟩ := mem_map.mp member
      have bound := mem_range.mp below
      exact slots_differ (by omega) (by omega) same
    unreadValid := by
      rw [cursors.unRead, cursors.valid]
      omega
    validCapacity := by
      have room := cursors.room
      rw [cursors.valid]
      omega }

/-- No interleaving of the detector and the decoder aborts; frames are delivered
in order, flushed once, and never overwritten before. -/
theorem frame_fifo_contract (nSbmBufferTotalSize pSbmBuf : Int) (nNaluLength : Nat)
    (bytes : Int → UInt8) (pSbm : SbmFrame)
    (init : sbmFrameInit nSbmBufferTotalSize nNaluLength pSbmBuf bytes = some pSbm)
    (ops : List FramePicOp) (legal : StepsMeet Legal exec (FramePicSystem.start pSbm) ops) :
    ∃ final, runOps exec (FramePicSystem.start pSbm) ops = some final ∧ FrameContract final := by
  obtain ⟨final, run, kept⟩ := guarded_run_ends
    (fun state op kept meets => exec_kept kept meets) (start_kept init) legal
  exact ⟨final, run, contract_of_kept kept⟩

/-- Two frames are added, both requested, one returned and the other flushed. -/
def exchangeOps : List FramePicOp :=
  let content : FramePicInfo := ⟨[], 7, none, 0, 0, true, 0, 0, 0⟩
  [.requestEmptyFramePic, .fill content, .addFramePic 0, .requestFramePic,
   .requestEmptyFramePic, .addFramePic 1, .requestFramePic, .returnFramePic 1,
   .flushFramePic 0, .requestFramePic, .flushFramePic 1]

theorem exchange_keeps_contract : ∃ pSbm, sbmFrameInit 4096 4 1 (fun _ => 0) = some pSbm ∧
    ∃ final, runOps exec (FramePicSystem.start pSbm) exchangeOps = some final ∧
      FrameContract final :=
  ⟨_, rfl, frame_fifo_contract 4096 1 4 (fun _ => 0) _ rfl exchangeOps (by decide)⟩

end CedarC.SbmFrameFifo
