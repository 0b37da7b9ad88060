import CedarC.Vp9Superframe

/-! # The frames a VP9 chunk is handed over as

The gathered chunk is the submitted one at every ring position, the index loop stores the sizes
of the index in reverse, and the frame loop takes them from the top. What goes wrong is decided
by the last byte alone: a marker that announces another number of frames than two aborts, and one
whose index is not valid still counts two frames. -/

namespace CedarC.Vp9

open List

theorem bind_ok {α β : Type} {value : Except Fault α} {next : α → Except Fault β} {result : β}
    (ran : value >>= next = .ok result) :
    ∃ produced, value = .ok produced ∧ next produced = .ok result := by
  cases value with
  | error fault => cases ran
  | ok produced => exact ⟨produced, rfl, ran⟩

/-! ## Chunks in the ring -/

section Gather

variable {ring : Ring} (chunk : Chunk ring)

@[simp] theorem chunk_bytes_length : chunk.bytes.length = chunk.nLength := by
  simp [Chunk.bytes, chunk.length_le]

theorem chunk_bytes_eq : chunk.bytes =
      (ring.bytes.drop chunk.pData ++ ring.bytes.take chunk.pData).take chunk.nLength := by
  unfold Chunk.bytes
  rw [rotate_eq_drop_append_take (Nat.le_of_lt chunk.pData_lt)]

theorem chunk_bytes_in_place (inside : chunk.pData + chunk.nLength ≤ ring.bytes.length) :
    chunk.bytes = (ring.bytes.drop chunk.pData).take chunk.nLength := by
  rw [chunk_bytes_eq]
  apply take_append_of_le_length
  rw [length_drop]
  omega

theorem chunk_bytes_around (past : ring.bytes.length ≤ chunk.pData + chunk.nLength) :
    chunk.bytes = ring.bytes.drop chunk.pData ++
      ring.bytes.take (chunk.nLength - (ring.bytes.length - chunk.pData)) := by
  have length_le := chunk.length_le
  have pData_lt := chunk.pData_lt
  rw [chunk_bytes_eq, take_append, length_drop, take_take,
    take_of_length_le (by rw [length_drop]; omega), Nat.min_eq_left (by omega)]

theorem cdcMemCopy_ok (dst src : List Byte) (place start len : Nat)
    (room : place + len ≤ dst.length) (inside : start + len ≤ src.length) :
    cdcMemCopy dst place src start len =
      .ok (dst.take place ++ (src.drop start).take len ++ dst.drop (place + len)) := by
  unfold cdcMemCopy
  rw [if_pos ⟨room, inside⟩]

theorem temp_holds (tempsbminfo : TempSbm) (palloc : Palloc) (len : Nat) :
    len ≤ (if tempsbminfo.nSbmBufSize < len then palloc.temp (len + 1024)
      else tempsbminfo).pSbmBuf.length := by
  by_cases small : tempsbminfo.nSbmBufSize < len
  · rw [if_pos small, TempSbm.sized]
    change len ≤ len + 1024
    omega
  · rw [if_neg small, TempSbm.sized]
    omega

theorem two_copies (dst src : List Byte) (start first second : Nat)
    (room : first + second ≤ dst.length) (inside : start + first ≤ src.length)
    (again : second ≤ src.length) :
    ∃ copied, (cdcMemCopy dst 0 src start first >>= fun half =>
        cdcMemCopy half first src 0 second) = .ok copied ∧
      copied.take (first + second) = (src.drop start).take first ++ src.take second := by
  have taken : ((src.drop start).take first).length = first := by
    rw [length_take, length_drop]
    omega
  have takenAgain : (src.take second).length = second := by
    rw [length_take]
    omega
  rw [cdcMemCopy_ok dst src 0 start first (by omega) inside]
  simp only [take_zero, nil_append, Nat.zero_add, Bind.bind, Except.bind]
  have halfLength : ((src.drop start).take first ++ dst.drop first).length = dst.length := by
    rw [length_append, taken, length_drop]
    omega
  rw [cdcMemCopy_ok _ src first 0 second (by omega) (by omega)]
  refine ⟨_, rfl, ?_⟩
  rw [take_left' taken, drop_zero]
  apply take_left'
  rw [length_append, taken, takenAgain]

/-- Wherever the chunk lies in the ring, the decoder reads it as it was submitted. -/
theorem prepared_chunk (tempsbminfo : TempSbm) (palloc : Palloc) :
    ∃ prepared, prepareData ring chunk tempsbminfo palloc = .ok prepared ∧
      (prepared.memory.drop prepared.pDataPtr).take chunk.nLength = chunk.bytes := by
  have pData_lt := chunk.pData_lt
  have length_le := chunk.length_le
  unfold prepareData
  by_cases past : chunk.pData + chunk.nLength > ring.bytes.length - 1
  · rw [if_pos past]
    have room := temp_holds tempsbminfo palloc chunk.nLength
    generalize (if tempsbminfo.nSbmBufSize < chunk.nLength then
      palloc.temp (chunk.nLength + 1024) else tempsbminfo) = temp at room ⊢
    have firstLen : ring.bytes.length - 1 - chunk.pData + 1 =
        ring.bytes.length - chunk.pData := by omega
    obtain ⟨copied, copies, holds⟩ := two_copies temp.pSbmBuf ring.bytes chunk.pData
      (ring.bytes.length - chunk.pData)
      (chunk.nLength - (ring.bytes.length - chunk.pData)) (by omega) (by omega) (by omega)
    obtain ⟨half, firstCopy, secondCopy⟩ := bind_ok copies
    have whole : (ring.bytes.length - chunk.pData) +
        (chunk.nLength - (ring.bytes.length - chunk.pData)) = chunk.nLength := by omega
    refine ⟨{ buffer := .temp, memory := copied, pDataPtr := 0 }, ?_, ?_⟩
    · simp only [firstLen, firstCopy, secondCopy, Bind.bind, Except.bind]
    · have fromHere : (ring.bytes.drop chunk.pData).length ≤ ring.bytes.length - chunk.pData := by
        rw [length_drop]
      rw [whole, take_of_length_le fromHere] at holds
      rw [chunk_bytes_around chunk (by omega), drop_zero, holds]
  · rw [if_neg past]
    exact ⟨_, rfl, (chunk_bytes_in_place chunk (by omega)).symm⟩

end Gather

/-! ## The layout of a superframe -/

theorem layout_length (sizes : List Nat) (start : Nat) :
    (layout start sizes).length = sizes.length := by
  induction sizes generalizing start with
  | nil => simp [layout]
  | cons size sizes rest => simp [layout, rest]

theorem layout_shift (sizes : List Nat) (base start : Nat) : layout (base + start) sizes =
      (layout start sizes).map fun frame => (base + frame.1, frame.2) := by
  induction sizes generalizing start with
  | nil => simp [layout]
  | cons size sizes rest =>
    simp only [layout, map_cons]
    rw [Nat.add_assoc, rest]

theorem layout_inside (sizes : List Nat) (start : Nat) :
    ∀ frame ∈ layout start sizes, frame.1 + frame.2 ≤ start + sizes.sum := by
  induction sizes generalizing start with
  | nil => simp [layout]
  | cons size sizes rest =>
    intro frame member
    rcases mem_cons.mp member with here | later
    · subst here
      simp only [sum_cons]
      omega
    · have bound := rest (start + size) frame later
      simp only [sum_cons]
      omega

/-! ## Reading the index -/

theorem marker_fields : ∀ marker : Byte, (marker.val &&& 0xe0 = 0xc0 ↔ isMarker marker) ∧
      1 + ((marker.val >>> 3) &&& 0x3) = bytesPerSize marker ∧
      1 + (marker.val &&& 0x7) = framesInSuperframe marker := by
  decide +kernel

theorem shift_or_byte (high low : Nat) (byte : low < 256) :
    high <<< 8 ||| low = low + 256 * high := by
  rw [← Nat.shiftLeft_add_eq_or_of_lt (by simpa using byte), Nat.shiftLeft_eq]
  omega

theorem shift_or_two (top high low : Nat) (byteHigh : high < 256) (byteLow : low < 256) :
    top <<< 16 ||| high <<< 8 ||| low = low + 256 * (high + 256 * top) := by
  have nested : top <<< 16 ||| high <<< 8 = (top <<< 8 ||| high) <<< 8 := by
    rw [Nat.shiftLeft_or_distrib, ← Nat.shiftLeft_add]
  rw [nested, shift_or_byte _ low byteLow, shift_or_byte top high byteHigh]

theorem shift_or_three (last top high low : Nat) (byteTop : top < 256) (byteHigh : high < 256)
    (byteLow : low < 256) :
    last <<< 24 ||| top <<< 16 ||| high <<< 8 ||| low =
      low + 256 * (high + 256 * (top + 256 * last)) := by
  have nested : last <<< 24 ||| top <<< 16 ||| high <<< 8 =
      (last <<< 16 ||| top <<< 8 ||| high) <<< 8 := by
    rw [Nat.shiftLeft_or_distrib, Nat.shiftLeft_or_distrib, ← Nat.shiftLeft_add,
      ← Nat.shiftLeft_add]
  rw [nested, shift_or_byte _ low byteLow, shift_or_two last top high byteTop byteHigh]

section Reading

variable {data bytes : List Byte} (held : data.take bytes.length = bytes)

include held

theorem byteAt_chunk (i : Nat) (inside : i < bytes.length) :
    byteAt data bytes.length i = .ok bytes[i].val := by
  have there : data[i]? = some bytes[i] := by
    rw [← List.getElem?_take_of_lt inside, held, List.getElem?_eq_getElem inside]
  unfold byteAt
  rw [if_pos inside, there]

theorem entrySize_chunk (marker : Byte) (idx rd_sz : Nat)
    (inside : idx + bytesPerSize marker ≤ bytes.length) :
    entrySize (byteAt data bytes.length) (bytesPerSize marker) idx rd_sz = .ok (Nat.ofDigits 256
        (((bytes.drop idx).take (bytesPerSize marker)).map Fin.val)) := by
  have split : ∀ i, (low : i < bytes.length) → bytes.drop i = bytes[i] :: bytes.drop (i + 1) :=
    fun i low => drop_eq_getElem_cons low
  have width : bytesPerSize marker = 1 ∨ bytesPerSize marker = 2 ∨ bytesPerSize marker = 3 ∨
      bytesPerSize marker = 4 := by
    unfold bytesPerSize
    omega
  rcases width with one | two | three | four
  · rw [one] at inside ⊢
    rw [entrySize, byteAt_chunk held idx (by omega), split idx (by omega)]
    simp [-getElem_cons_drop, -map_take, -map_drop, Nat.ofDigits_cons]
  · rw [two] at inside ⊢
    rw [entrySize, byteAt_chunk held idx (by omega), byteAt_chunk held (idx + 1) (by omega),
      split idx (by omega), split (idx + 1) (by omega)]
    simp [-getElem_cons_drop, -map_take, -map_drop, Nat.ofDigits_cons, Bind.bind,
      Except.bind, shift_or_byte]
  · rw [three] at inside ⊢
    rw [entrySize, byteAt_chunk held idx (by omega), byteAt_chunk held (idx + 1) (by omega),
      byteAt_chunk held (idx + 2) (by omega), split idx (by omega),
      split (idx + 1) (by omega), split (idx + 1 + 1) (by omega)]
    simp [-getElem_cons_drop, -map_take, -map_drop, Nat.ofDigits_cons, Bind.bind,
      Except.bind, shift_or_two]
  · rw [four] at inside ⊢
    rw [entrySize, byteAt_chunk held idx (by omega), byteAt_chunk held (idx + 1) (by omega),
      byteAt_chunk held (idx + 2) (by omega), byteAt_chunk held (idx + 3) (by omega),
      split idx (by omega), split (idx + 1) (by omega), split (idx + 1 + 1) (by omega),
      split (idx + 1 + 1 + 1) (by omega)]
    simp [-getElem_cons_drop, -map_take, -map_drop, Nat.ofDigits_cons, Bind.bind,
      Except.bind, shift_or_three]

end Reading

/-! ## The lengths, stored in reverse -/

/-- The sizes of the entries from `idx` on. -/
def entriesFrom (bytes : List Byte) (nbytes : Nat) : Nat → Nat → List Nat
  | 0, _ => []
  | count + 1, idx =>
    Nat.ofDigits 256 (((bytes.drop idx).take nbytes).map Fin.val) ::
      entriesFrom bytes nbytes count (idx + nbytes)

theorem entriesFrom_length (bytes : List Byte) (nbytes count idx : Nat) :
    (entriesFrom bytes nbytes count idx).length = count := by
  induction count generalizing idx with
  | zero => simp [entriesFrom]
  | succ count rest => simp [entriesFrom, rest]

theorem entriesFrom_range (bytes : List Byte) (nbytes count idx : Nat) :
    entriesFrom bytes nbytes count idx = (List.range count).map fun k =>
      Nat.ofDigits 256 (((bytes.drop (idx + k * nbytes)).take nbytes).map Fin.val) := by
  induction count generalizing idx with
  | zero => simp [entriesFrom]
  | succ count rest =>
    rw [entriesFrom, rest, range_succ_eq_map, map_cons, map_map]
    congr 1
    · rw [Nat.zero_mul, Nat.add_zero]
    · apply map_congr_left
      intro k _
      have place : idx + nbytes + k * nbytes = idx + (k + 1) * nbytes := by
        rw [Nat.succ_mul]
        omega
      simp only [Function.comp_apply, place]

/-- The array holds the sizes in reverse: the first of them at the highest index. -/
def Stored (lens : RealDataLen) : List Nat → Prop
  | [] => True
  | size :: sizes => lenAt lens sizes.length = .ok size ∧ Stored lens sizes

variable {lens lens' : RealDataLen} {k len : Nat} {data bytes : List Byte}

theorem storeLen_get
    (stored : storeLen lens k len = .ok lens') : lenAt lens' k = .ok len := by
  unfold storeLen at stored
  split_ifs at stored with bound
  cases stored
  simp [lenAt, bound]

theorem storeLen_other (stored : storeLen lens k len = .ok lens') (j : Nat) (other : j ≠ k) :
    lenAt lens' j = lenAt lens j := by
  unfold storeLen at stored
  split_ifs at stored with bound
  cases stored
  unfold lenAt
  split_ifs
  · rw [Vector.getElem_set_ne _ _ (Ne.symm other)]
  · rfl

theorem storeLen_ok (lens : RealDataLen) (k len : Nat) (bound : k < 4) :
    ∃ lens', storeLen lens k len = .ok lens' := by
  unfold storeLen
  rw [dif_pos bound]
  exact ⟨_, rfl⟩

theorem minusU32_of_le {size rd_sz : Nat} (fits : size < 2 ^ 32) (le : rd_sz ≤ size) :
    minusU32 size rd_sz = size - rd_sz := by
  unfold minusU32
  have shifted : size + 2 ^ 32 - rd_sz = (size - rd_sz) + 2 ^ 32 := by omega
  rw [shifted, Nat.add_mod_right]
  exact Nat.mod_eq_of_lt (by omega)

/-- Sizes that fit the chunk are stored as they stand, from the top of the array downwards;
entries above them are left alone. -/
theorem readSizes_stored (held : data.take bytes.length = bytes)
    (marker : Byte) (count idx rd_sz size : Nat) (lens : RealDataLen) (few : count ≤ 4)
    (inside : idx + count * bytesPerSize marker ≤ bytes.length) (fits : size < 2 ^ 32)
    (room : (entriesFrom bytes (bytesPerSize marker) count idx).sum ≤ size) :
    ∃ lens', readSizes (byteAt data bytes.length) (bytesPerSize marker) count idx rd_sz size
        lens = .ok lens' ∧
      Stored lens' (entriesFrom bytes (bytesPerSize marker) count idx) ∧
      ∀ j, count ≤ j → lenAt lens' j = lenAt lens j := by
  induction count generalizing idx rd_sz size lens with
  | zero => exact ⟨lens, rfl, trivial, fun _ _ => rfl⟩
  | succ count rest =>
    simp only [entriesFrom, sum_cons] at room
    have width : (count + 1) * bytesPerSize marker =
        count * bytesPerSize marker + bytesPerSize marker := Nat.succ_mul _ _
    have entry := entrySize_chunk held marker idx rd_sz (by omega)
    generalize sizeIs : Nat.ofDigits 256
      (((bytes.drop idx).take (bytesPerSize marker)).map Fin.val) = read at entry room
    obtain ⟨first, stores⟩ := storeLen_ok lens count read (by omega)
    obtain ⟨last, loop, stored, above⟩ := rest (idx + bytesPerSize marker) read
      (size - read) first (by omega) (by omega) (by omega) (by omega)
    refine ⟨last, ?_, ⟨?_, stored⟩, ?_⟩
    · unfold readSizes
      simp only [entry, Bind.bind, Except.bind]
      rw [if_pos (by omega)]
      simp only [stores]
      rw [minusU32_of_le fits (by omega)]
      exact loop
    · rw [entriesFrom_length, above count (Nat.le_refl count), storeLen_get stores, sizeIs]
    · intro j high
      rw [above j (by omega)]
      exact storeLen_other stores j (by omega)

theorem readSizes_total (held : data.take bytes.length = bytes)
    (marker : Byte) (count idx rd_sz size : Nat) (lens : RealDataLen) (few : count ≤ 4)
    (inside : idx + count * bytesPerSize marker ≤ bytes.length) :
    ∃ lens', readSizes (byteAt data bytes.length) (bytesPerSize marker) count idx rd_sz size
        lens = .ok lens' := by
  induction count generalizing idx rd_sz size lens with
  | zero => exact ⟨lens, rfl⟩
  | succ count rest =>
    have width : (count + 1) * bytesPerSize marker =
        count * bytesPerSize marker + bytesPerSize marker := Nat.succ_mul _ _
    have entry := entrySize_chunk held marker idx rd_sz (by omega)
    generalize Nat.ofDigits 256
      (((bytes.drop idx).take (bytesPerSize marker)).map Fin.val) = read at entry
    obtain ⟨first, stores⟩ := storeLen_ok lens count (if read ≤ size then read else size)
      (by omega)
    obtain ⟨last, loop⟩ := rest (idx + bytesPerSize marker) read (minusU32 size read) first
      (by omega) (by omega)
    refine ⟨last, ?_⟩
    unfold readSizes
    simp only [entry, stores, loop, Bind.bind, Except.bind]

/-! ## The frame loop -/

def handedAt (buffer : Buffer) (frame : Nat × Nat) : Handed :=
  { parser := ⟨buffer, frame.1, frame.2⟩, hardware := ⟨buffer, frame.1, frame.2⟩ }

theorem frameLoop_stored (buffer : Buffer) (lens : RealDataLen) (sizes : List Nat)
    (pDataPtr : Nat) (stored : Stored lens sizes) :
    frameLoop buffer lens sizes.length pDataPtr =
      .ok ((layout pDataPtr sizes).map (handedAt buffer)) := by
  induction sizes generalizing pDataPtr with
  | nil => simp [frameLoop, layout]
  | cons size sizes rest =>
    have top : lenAt lens sizes.length = .ok size := stored.1
    have below := rest (pDataPtr + size) stored.2
    simp only [length_cons, frameLoop, Nat.add_sub_cancel, top, below, Bind.bind,
      Except.bind, layout, map_cons, handedAt]

theorem frameLoop_length (buffer : Buffer) (lens : RealDataLen) (nFrameNums pDataPtr : Nat)
    (handed : List Handed) (ran : frameLoop buffer lens nFrameNums pDataPtr = .ok handed) :
    handed.length = nFrameNums := by
  induction nFrameNums generalizing pDataPtr handed with
  | zero =>
    cases ran
    simp
  | succ nFrameNums rest =>
    unfold frameLoop at ran
    obtain ⟨header_len, _, ran⟩ := bind_ok ran
    obtain ⟨data_len, _, ran⟩ := bind_ok ran
    obtain ⟨others, loop, ran⟩ := bind_ok ran
    cases ran
    simp [rest _ _ loop]

/-! ## The lengths of a chunk -/

section Lengths

variable {data bytes : List Byte} (held : data.take bytes.length = bytes) (marker : Byte)
  (last : bytes.getLast? = some marker) (lens : RealDataLen)

include held last

theorem marker_read : byteAt data bytes.length (bytes.length - 1) = .ok marker.val := by
  rw [List.getLast?_eq_getElem?] at last
  obtain ⟨inside, same⟩ := List.getElem?_eq_some_iff.mp last
  rw [byteAt_chunk held _ inside, same]

theorem lengths_unmarked (unmarked : ¬ isMarker marker) :
    ∃ lens', vp9ProcessDataLength data bytes.length lens = .ok (1, lens') ∧
      Stored lens' [bytes.length] := by
  obtain ⟨lens', stores⟩ := storeLen_ok lens 0 bytes.length (by omega)
  refine ⟨lens', ?_, storeLen_get stores, trivial⟩
  unfold vp9ProcessDataLength
  simp only [marker_read held marker last, stores, Bind.bind, Except.bind]
  rw [if_neg (mt (marker_fields marker).1.mp unmarked)]

theorem lengths_abort (marked : isMarker marker) (frames : framesInSuperframe marker ≠ 2) :
    vp9ProcessDataLength data bytes.length lens = .error .abort := by
  obtain ⟨lens', stores⟩ := storeLen_ok lens 0 bytes.length (by omega)
  unfold vp9ProcessDataLength
  simp only [marker_read held marker last, stores, Bind.bind, Except.bind]
  rw [if_pos ((marker_fields marker).1.mpr marked), (marker_fields marker).2.2, if_pos frames]

theorem lengths_count (marked : isMarker marker) (result : Nat × RealDataLen)
    (ran : vp9ProcessDataLength data bytes.length lens = .ok result) : result.1 = 2 := by
  by_cases frames : framesInSuperframe marker = 2
  · unfold vp9ProcessDataLength at ran
    obtain ⟨byte, markerRead, ran⟩ := bind_ok ran
    rw [marker_read held marker last] at markerRead
    cases markerRead
    obtain ⟨first, _, ran⟩ := bind_ok ran
    rw [if_pos ((marker_fields marker).1.mpr marked), (marker_fields marker).2.2, frames,
      if_neg (by decide)] at ran
    by_cases long : bytes.length ≥ 2 + 2 * (1 + ((marker.val >>> 3) &&& 0x3))
    · rw [if_pos long] at ran
      obtain ⟨header, _, ran⟩ := bind_ok ran
      by_cases repeated : header = marker.val
      · rw [if_pos repeated] at ran
        obtain ⟨final, _, ran⟩ := bind_ok ran
        cases ran
        rfl
      · rw [if_neg repeated] at ran
        cases ran
        rfl
    · rw [if_neg long] at ran
      cases ran
      rfl
  · rw [lengths_abort held marker last lens marked frames] at ran
    cases ran

theorem lengths_two (marked : isMarker marker) (frames : framesInSuperframe marker = 2) :
    ∃ lens', vp9ProcessDataLength data bytes.length lens = .ok (2, lens') := by
  obtain ⟨first, stores⟩ := storeLen_ok lens 0 bytes.length (by omega)
  unfold vp9ProcessDataLength
  simp only [marker_read held marker last, stores, Bind.bind, Except.bind]
  rw [if_pos ((marker_fields marker).1.mpr marked), (marker_fields marker).2.2, (marker_fields marker).2.1, frames,
    if_neg (by decide)]
  by_cases long : bytes.length ≥ 2 + 2 * bytesPerSize marker
  · rw [if_pos long]
    have header := byteAt_chunk held (bytes.length - (2 + 2 * bytesPerSize marker)) (by omega)
    simp only [header]
    obtain ⟨lens', loop⟩ := readSizes_total held marker 2
      (bytes.length + 1 - (2 + 2 * bytesPerSize marker)) bytes.length bytes.length first
      (by omega) (by omega)
    rw [loop]
    split_ifs
    · exact ⟨lens', rfl⟩
    · exact ⟨first, rfl⟩
  · rw [if_neg long]
    exact ⟨first, rfl⟩

theorem lengths_indexed (frames : framesInSuperframe marker = 2)
    (valid : ValidIndex bytes marker) (fits : bytes.length < 2 ^ 32) :
    ∃ lens', vp9ProcessDataLength data bytes.length lens = .ok (2, lens') ∧
      Stored lens' (sizeEntries bytes marker) := by
  obtain ⟨marked, short, repeated, room⟩ := valid
  obtain ⟨first, stores⟩ := storeLen_ok lens 0 bytes.length (by omega)
  have entries : sizeEntries bytes marker = entriesFrom bytes (bytesPerSize marker)
      (framesInSuperframe marker) (bytes.length - indexSize marker + 1) := by
    rw [entriesFrom_range]
    rfl
  have index : indexSize marker = 2 + 2 * bytesPerSize marker := by
    unfold indexSize
    rw [frames]
  have firstRead : byteAt data bytes.length (bytes.length - indexSize marker) = .ok marker.val := by
    obtain ⟨inside, same⟩ := List.getElem?_eq_some_iff.mp repeated
    rw [byteAt_chunk held _ inside, same]
  rw [entries, frames] at room ⊢
  have start : bytes.length + 1 - indexSize marker = bytes.length - indexSize marker + 1 := by omega
  obtain ⟨lens', loop, stored, _⟩ := readSizes_stored held marker 2
    (bytes.length - indexSize marker + 1) bytes.length bytes.length first (by omega) (by omega)
    fits (by omega)
  refine ⟨lens', ?_, stored⟩
  unfold vp9ProcessDataLength
  simp only [marker_read held marker last, stores, Bind.bind, Except.bind]
  rw [if_pos ((marker_fields marker).1.mpr marked), (marker_fields marker).2.2, (marker_fields marker).2.1, frames,
    if_neg (by decide), if_pos (by omega), ← index]
  simp only [firstRead, if_true, start, loop]

end Lengths

/-! ## Whole chunks -/

/-- The chunk goes through without a fault, parser and hardware get its frames in order, and
every frame lies in the chunk and reads as it was submitted. -/
def HandsOverFrames {ring : Ring} (chunk : Chunk ring) (tempsbminfo : TempSbm) (palloc : Palloc)
    (real_data_len : RealDataLen) : Prop :=
  ∃ prepared handed,
    decodeChunk ring chunk tempsbminfo palloc real_data_len = .ok (prepared, handed) ∧
    handed = (annexBFrames chunk.bytes).map (fun frame =>
      handedAt prepared.buffer (prepared.pDataPtr + frame.1, frame.2)) ∧
    ∀ frame ∈ annexBFrames chunk.bytes, frame.1 + frame.2 ≤ chunk.nLength ∧
        (prepared.memory.drop (prepared.pDataPtr + frame.1)).take frame.2 =
          (chunk.bytes.drop frame.1).take frame.2

def PlainOrTwoFrames (bytes : List Byte) : Prop :=
  ∀ marker, bytes.getLast? = some marker → isMarker marker →
    framesInSuperframe marker = 2 ∧ ValidIndex bytes marker

section Whole

variable {ring : Ring} (chunk : Chunk ring) (tempsbminfo : TempSbm) (palloc : Palloc)
  (real_data_len : RealDataLen)

theorem chunk_last : ∃ marker, chunk.bytes.getLast? = some marker := by
  have length_pos := chunk.length_pos
  have some_byte : chunk.bytes ≠ [] := by
    apply ne_nil_of_length_pos
    rw [chunk_bytes_length]
    omega
  exact ⟨_, List.getLast?_eq_some_getLast some_byte⟩

theorem annexBFrames_inside (bytes : List Byte) :
    ∀ frame ∈ annexBFrames bytes, frame.1 + frame.2 ≤ bytes.length := by
  unfold annexBFrames
  cases bytes.getLast? with
  | none => simp
  | some marker =>
    by_cases valid : ValidIndex bytes marker
    · simp only [if_pos valid]
      intro frame member
      have bound := layout_inside _ _ frame member
      have room := valid.2.2.2
      omega
    · simp [if_neg valid]

theorem gathered_stretch {memory bytes : List Byte} {pDataPtr : Nat} (start len : Nat)
    (held : (memory.drop pDataPtr).take bytes.length = bytes)
    (inside : start + len ≤ bytes.length) :
    (memory.drop (pDataPtr + start)).take len = (bytes.drop start).take len := by
  have cut : bytes.drop start =
      ((memory.drop pDataPtr).take bytes.length).drop start := by rw [held]
  rw [cut, drop_take, take_take, drop_drop, Nat.min_eq_left (by omega)]

/-- Once the lengths stand in the array, the frames are handed over as they should be. -/
theorem hands_over_of_lengths (prepared : Prepared) (sizes : List Nat) (lens : RealDataLen)
    (gathers : prepareData ring chunk tempsbminfo palloc = .ok prepared)
    (held : (prepared.memory.drop prepared.pDataPtr).take chunk.nLength = chunk.bytes)
    (lengths : vp9ProcessDataLength (prepared.memory.drop prepared.pDataPtr) chunk.nLength
      real_data_len = .ok (sizes.length, lens))
    (stored : Stored lens sizes) (frames : annexBFrames chunk.bytes = layout 0 sizes) :
    HandsOverFrames chunk tempsbminfo palloc real_data_len := by
  have loop := frameLoop_stored prepared.buffer lens sizes prepared.pDataPtr stored
  refine ⟨prepared, (layout prepared.pDataPtr sizes).map (handedAt prepared.buffer), ?_, ?_, ?_⟩
  · unfold decodeChunk
    simp only [gathers, lengths, loop, Bind.bind, Except.bind]
  · rw [frames, ← Nat.add_zero prepared.pDataPtr, layout_shift, map_map, Nat.add_zero]
    rfl
  · intro frame member
    have inside := annexBFrames_inside chunk.bytes frame member
    rw [← chunk_bytes_length chunk] at held
    refine ⟨?_, gathered_stretch _ _ held inside⟩
    rw [← chunk_bytes_length chunk]
    exact inside

/-- A chunk is handed over as its frames, at every ring position and whatever an earlier chunk
left in the lengths, exactly when its last byte is no marker or ends a valid index of two
frames. -/
theorem hands_over_iff :
    HandsOverFrames chunk tempsbminfo palloc real_data_len ↔ PlainOrTwoFrames chunk.bytes := by
  obtain ⟨prepared, gathers, held⟩ := prepared_chunk chunk tempsbminfo palloc
  obtain ⟨marker, last⟩ := chunk_last chunk
  have inChunk : (prepared.memory.drop prepared.pDataPtr).take chunk.bytes.length =
      chunk.bytes := by
    rw [chunk_bytes_length]
    exact held
  constructor
  · intro hands other lastOther marked
    cases last.symm.trans lastOther
    obtain ⟨prepared', handed, decodes, frames, _⟩ := hands
    unfold decodeChunk at decodes
    obtain ⟨again, gathersAgain, decodes⟩ := bind_ok decodes
    cases gathers.symm.trans gathersAgain
    obtain ⟨lengths, measured, decodes⟩ := bind_ok decodes
    obtain ⟨spans, loop, decodes⟩ := bind_ok decodes
    cases decodes
    rw [← chunk_bytes_length chunk] at measured
    have two := lengths_count inChunk marker last real_data_len marked lengths measured
    have count := frameLoop_length _ _ _ _ _ loop
    rw [two, frames, length_map, annexBFrames, last] at count
    by_cases valid : ValidIndex chunk.bytes marker
    · simp only [if_pos valid, layout_length, sizeEntries, length_map, length_range] at count
      exact ⟨count, valid⟩
    · simp [if_neg valid] at count
  · intro usable
    by_cases marked : isMarker marker
    · obtain ⟨frames, valid⟩ := usable marker last marked
      have fits : chunk.bytes.length < 2 ^ 32 := by
        rw [chunk_bytes_length]
        exact Nat.lt_of_le_of_lt chunk.length_le ring.length_lt
      obtain ⟨lens, lengths, stored⟩ :=
        lengths_indexed inChunk marker last real_data_len frames valid fits
      rw [chunk_bytes_length] at lengths
      apply hands_over_of_lengths chunk tempsbminfo palloc real_data_len prepared
        (sizeEntries chunk.bytes marker) lens gathers held ?_ stored
      · simp only [annexBFrames, last, if_pos valid]
      · rw [lengths]
        simp [sizeEntries, frames]
    · obtain ⟨lens, lengths, stored⟩ :=
        lengths_unmarked inChunk marker last real_data_len marked
      rw [chunk_bytes_length] at lengths stored
      apply hands_over_of_lengths chunk tempsbminfo palloc real_data_len prepared
        [chunk.nLength] lens gathers held lengths stored
      have invalid : ¬ ValidIndex chunk.bytes marker := fun valid => marked valid.1
      simp only [annexBFrames, last, if_neg invalid, layout, chunk_bytes_length]

end Whole

/-! ## A superframe of one frame -/

/-- One frame with a superframe index: header `0b11000000`, the size, the header again. -/
def singleFrameRing : Ring := { bytes := [0x82, 0xC0, 1, 0xC0], length_lt := by decide }

def singleFrameChunk : Chunk singleFrameRing :=
  { pData := 0, nLength := 4, pData_lt := by decide, length_pos := by decide,
    length_le := by decide }

def emptyTemp : TempSbm := { pSbmBuf := [], nSbmBufSize := 0, sized := by decide }

def zeroPalloc : Palloc :=
  { block := fun size => List.replicate size 0, length_block := fun _ => length_replicate }

/-- A superframe of one frame, with a valid index, ends the process. -/
theorem single_frame_index_aborts : annexBFrames singleFrameChunk.bytes = [(0, 1)] ∧
      decodeChunk singleFrameRing singleFrameChunk emptyTemp zeroPalloc (.replicate 4 0) =
        .error .abort ∧
      ¬ HandsOverFrames singleFrameChunk emptyTemp zeroPalloc (.replicate 4 0) := by
  have aborts : decodeChunk singleFrameRing singleFrameChunk emptyTemp zeroPalloc
      (.replicate 4 0) = .error .abort := by decide +kernel
  refine ⟨by decide, aborts, ?_⟩
  rintro ⟨prepared, handed, decodes, _⟩
  rw [aborts] at decodes
  cases decodes

end CedarC.Vp9
