import CedarC.H264RefMarking
import CedarC.H265ListEntries

/-!
# The words of the reference lists

The second half of `H264ConfigureRefListRegister` shifts the entries of a list into its
words from the last one on. An entry without a picture shifts nothing in.
-/

namespace CedarC.H264RefListRegister

open List

open CedarC.H264RefMarking (PicStructure)
open CedarC.H265ListEntries (wordByte packed_byte)
open CedarC.H265RefLists (packBytes)

section Source

def H264_FRMBUF_INFO_ADDR : Nat := 0x400
def H264_FRMBUF_INFO_LEN : Nat := 0x240
def H264_REFLIST_ADDR : Nat := H264_FRMBUF_INFO_ADDR + H264_FRMBUF_INFO_LEN

structure H264PicInfo where
  pVPicture : Option Nat
  nDecodeBufIndex : Nat
  nPicStructure : PicStructure

/-- The lists of a slice; `refList` has room for 48 entries each. -/
structure H264Context where
  nListCount : Nat
  nRefCount : Nat → Nat
  refList : Nat → Nat → H264PicInfo

/-- What goes to the port of the SRAM. -/
inductive PortWrite
  | offset (addr : Nat)
  | data (word : Nat)

def refNumber (pic : H264PicInfo) : Nat :=
  2 * pic.nDecodeBufIndex + if pic.nPicStructure = .PICT_BOTTOM_FIELD then 1 else 0

/-- `(word << 8) | value`. -/
def shiftIn (pic : H264PicInfo) (word : Nat) : Nat :=
  if pic.pVPicture.isSome then (word * 256 % 2 ^ 32) ||| (refNumber pic % 2 ^ 32) else word

/-- The loop from entry `j - 1` down. -/
def packRefList (refList : Nat → H264PicInfo) : Nat → List Nat → List Nat
  | 0, refPicNum => refPicNum
  | j + 1, refPicNum =>
    packRefList refList j
      (if 48 ≤ j then refPicNum
      else refPicNum.set (j / 4) (shiftIn (refList j) (refPicNum.getD (j / 4) 0)))

variable (hCtx : H264Context)

def refListWords (i : Nat) : List Nat :=
  (List.range (hCtx.nRefCount i / 4 + 1)).map fun k =>
    (packRefList (hCtx.refList i) (hCtx.nRefCount i) (List.replicate 18 0)).getD k 0

def refListWrites (i : Nat) : List PortWrite :=
  if 0 < hCtx.nRefCount i then
    .offset (H264_REFLIST_ADDR + 36 * i) :: (refListWords hCtx i).map .data
  else []

def H264ConfigureRefListRegister : List PortWrite :=
  (List.range hCtx.nListCount).flatMap fun i => if 2 ≤ i then [] else refListWrites hCtx i

end Source

section Property

def leadingWords : List PortWrite → List Nat
  | .data word :: writes => word :: leadingWords writes
  | _ => []

def wordsAt (addr : Nat) : List PortWrite → List Nat
  | [] => []
  | .offset target :: writes => if target = addr then leadingWords writes else wordsAt addr writes
  | .data _ :: writes => wordsAt addr writes

variable (hCtx : H264Context)

/-- Byte `j` of the words of a list has the index and the field of its entry `j`. -/
def EntriesInPlace : Prop :=
  ∀ i < min hCtx.nListCount 2, ∀ j < hCtx.nRefCount i, (hCtx.refList i j).pVPicture.isSome = true →
      wordByte (wordsAt (H264_REFLIST_ADDR + 36 * i) (H264ConfigureRefListRegister hCtx)) j =
        refNumber (hCtx.refList i j)

/-- What an entry with a picture needs to keep its place: a number of one byte, and no entry
without a picture below it in its word, unless the number is zero. -/
def KeepsPlace (refList : Nat → H264PicInfo) (j : Nat) : Prop :=
  refNumber (refList j) < 256 ∧
    (refNumber (refList j) = 0 ∨ ∀ k < j, 4 * (j / 4) ≤ k → (refList k).pVPicture.isSome = true)

def AllKeepPlaces : Prop :=
  ∀ i < min hCtx.nListCount 2, ∀ j < hCtx.nRefCount i,
    (hCtx.refList i j).pVPicture.isSome = true → KeepsPlace (hCtx.refList i) j

end Property

section Packing

variable {slots : List (Option Nat)} {j value : Nat}

theorem packed_in_place (kept : ∀ (j value : Nat), slots[j]? = some (some value) →
      value = 0 ∨ ∀ k < j, slots[k]? ≠ some none)
    (slot : slots[j]? = some (some value)) : slots.reduceOption.getD j 0 = value := by
  induction slots generalizing j with
  | nil => cases slot
  | cons first rest later =>
    have behind : ∀ (j value : Nat), rest[j]? = some (some value) →
        value = 0 ∨ ∀ k < j, rest[k]? ≠ some none := by
      intro j value slot
      apply (kept (j + 1) value slot).imp id
      intro full k below
      exact full (k + 1) (Nat.succ_lt_succ below)
    cases first with
    | some head =>
      rw [reduceOption_cons_of_some]
      cases j with
      | zero =>
        cases slot
        rfl
      | succ j => exact later behind slot
    | none =>
      have zeros : ∀ other ∈ rest.reduceOption, other = 0 := by
        intro other member
        rcases mem_iff_getElem?.mp (reduceOption_mem_iff.mp member) with ⟨k, held⟩
        rcases kept (k + 1) other held with zero | full
        · exact zero
        · exact absurd rfl (full 0 (Nat.succ_pos k))
      have zero : value = 0 := by
        cases j with
        | zero => cases slot
        | succ j =>
          rcases kept (j + 1) value slot with zero | full
          · exact zero
          · exact absurd rfl (full 0 (Nat.succ_pos j))
      rw [reduceOption_cons_of_none, zero, getD_eq_getElem?_getD]
      cases held : rest.reduceOption[j]? with
      | none => rfl
      | some other => exact zeros other (mem_of_getElem? held)

theorem early_zero (placed : ∀ (j value : Nat), slots[j]? = some (some value) →
      slots.reduceOption.getD (j + 1) 0 = value)
    (slot : slots[j]? = some (some value)) : value = 0 := by
  induction slots using List.reverseRecOn generalizing j with
  | nil => cases slot
  | append_singleton slots last earlier =>
    have short : slots.reduceOption.length ≤ slots.length := reduceOption_length_le slots
    cases last with
    | none =>
      have same : (slots ++ [none]).reduceOption = slots.reduceOption := by
        rw [reduceOption_append]
        exact append_nil _
      rw [same] at placed
      have inside : j < slots.length := by
        by_contra past
        rw [List.getElem?_append_right (Nat.not_lt.mp past)] at slot
        cases place : j - slots.length <;> rw [place] at slot <;> cases slot
      apply earlier _ ((List.getElem?_append_left inside).symm.trans slot)
      intro k other held
      have bound := (List.getElem?_eq_some_iff.mp held).1
      exact placed k other ((List.getElem?_append_left bound).trans held)
    | some number =>
      have same : (slots ++ [some number]).reduceOption = slots.reduceOption ++ [number] := by
        rw [reduceOption_append]
        rfl
      rw [same] at placed
      have zero : number = 0 := by
        have here := placed slots.length number List.getElem?_concat_length
        rw [getD_eq_default _ _ (by simp; omega)] at here
        exact here.symm
      by_cases inside : j < slots.length
      · apply earlier _ ((List.getElem?_append_left inside).symm.trans slot)
        intro k other held
        have bound := (List.getElem?_eq_some_iff.mp held).1
        have found := placed k other ((List.getElem?_append_left bound).trans held)
        rw [zero] at found
        by_cases within : k + 1 < slots.reduceOption.length
        · rwa [getD_append _ _ _ _ within] at found
        · rw [getD_eq_default _ _ (Nat.not_lt.mp within)]
          rw [getD_append_right _ _ _ _ (Nat.not_lt.mp within)] at found
          rw [← found]
          cases k + 1 - slots.reduceOption.length <;> rfl
      · rw [List.getElem?_append_right (Nat.not_lt.mp inside)] at slot
        cases place : j - slots.length with
        | zero =>
          rw [place] at slot
          cases slot
          exact zero
        | succ k =>
          rw [place] at slot
          cases slot

theorem in_place_packed
    (placed : ∀ (j value : Nat), slots[j]? = some (some value) → slots.reduceOption.getD j 0 = value)
    (slot : slots[j]? = some (some value)) :
    value = 0 ∨ ∀ k < j, slots[k]? ≠ some none := by
  induction slots generalizing j with
  | nil => cases slot
  | cons first rest later =>
    cases first with
    | some head =>
      rw [reduceOption_cons_of_some] at placed
      cases j with
      | zero => exact .inr fun k below => absurd below (Nat.not_lt_zero k)
      | succ j =>
        apply (later (fun k other held => placed (k + 1) other held) slot).imp id
        intro full k below
        cases k with
        | zero => exact fun absent => nomatch absent
        | succ k => exact full k (Nat.lt_of_succ_lt_succ below)
    | none =>
      rw [reduceOption_cons_of_none] at placed
      cases j with
      | zero => cases slot
      | succ j =>
        exact .inl (early_zero (fun k other held => placed (k + 1) other held) slot)

end Packing

section Words

variable {refList : Nat → H264PicInfo}

/-- The entries of a list of `count` that are packed in word `m`. -/
def wordEntries (refList : Nat → H264PicInfo) (count m : Nat) : List H264PicInfo :=
  (List.range' (4 * m) (min 4 (count - 4 * m))).map refList

theorem word_entries_succ (count m : Nat) : wordEntries refList (count + 1) m =
      if count / 4 = m then wordEntries refList count m ++ [refList count]
      else wordEntries refList count m := by
  unfold wordEntries
  split_ifs with here
  · have before : min 4 (count - 4 * m) = count - 4 * m := by omega
    have behind : min 4 (count + 1 - 4 * m) = count - 4 * m + 1 := by omega
    have last : 4 * m + (count - 4 * m) = count := by omega
    rw [before, behind, range'_1_concat, map_append, last]
    rfl
  · have same : min 4 (count + 1 - 4 * m) = min 4 (count - 4 * m) := by omega
    rw [same]

theorem pack_word {count : Nat} (room : count ≤ 48) {refPicNum : List Nat}
    (size : refPicNum.length = 18) (m : Nat) :
    (packRefList refList count refPicNum).getD m 0 =
      (wordEntries refList count m).foldr shiftIn (refPicNum.getD m 0) := by
  induction count generalizing refPicNum with
  | zero =>
    unfold wordEntries packRefList
    rw [Nat.zero_sub, Nat.min_zero]
    rfl
  | succ count below =>
    unfold packRefList
    rw [if_neg (show ¬ 48 ≤ count by omega), below (by omega) (by rw [length_set, size]),
      word_entries_succ]
    split_ifs with here
    · have inside : m < refPicNum.length := by omega
      rw [foldr_append, here, getD_eq_getElem?_getD, List.getElem?_set_self inside]
      rfl
    · rw [getD_eq_getElem?_getD, List.getElem?_set_ne here, ← getD_eq_getElem?_getD]

def slotOf (pic : H264PicInfo) : Option Nat :=
  if pic.pVPicture.isSome then some (refNumber pic) else none

theorem slot_some {pic : H264PicInfo} {value : Nat} :
    slotOf pic = some value ↔ pic.pVPicture.isSome = true ∧ refNumber pic = value := by
  unfold slotOf
  split_ifs with there
  · rw [Option.some_inj]
    exact (and_iff_right there).symm
  · exact ⟨fun absent => (nomatch absent), fun both => absurd both.1 there⟩

theorem slot_none {pic : H264PicInfo} : slotOf pic ≠ none ↔ pic.pVPicture.isSome = true := by
  unfold slotOf
  split_ifs with there
  · exact ⟨fun _ => there, fun _ absent => nomatch absent⟩
  · exact ⟨fun absent => absurd rfl absent, fun present => absurd present there⟩

theorem shifted_packed {entries : List H264PicInfo} (room : entries.length ≤ 4)
    (small : ∀ pic ∈ entries, pic.pVPicture.isSome = true → refNumber pic < 256) :
    entries.foldr shiftIn 0 = packBytes (entries.map slotOf).reduceOption := by
  induction entries with
  | nil => rfl
  | cons pic rest later =>
    rw [length_cons] at room
    have behind := fun other member => small other (mem_cons_of_mem _ member)
    have packed := later (by omega) behind
    rw [foldr_cons, packed, map_cons]
    unfold shiftIn
    by_cases there : pic.pVPicture.isSome = true
    · have bytes : ∀ byte ∈ (rest.map slotOf).reduceOption, byte < 256 := by
        intro byte member
        rcases mem_map.mp (reduceOption_mem_iff.mp member) with ⟨other, held, slot⟩
        rcases slot_some.mp slot with ⟨present, rfl⟩
        exact behind other held present
      have short : (rest.map slotOf).reduceOption.length ≤ 3 := by
        apply Nat.le_trans (reduceOption_length_le _)
        rw [length_map]
        omega
      have bound : packBytes (rest.map slotOf).reduceOption < 256 ^ 3 := by
        apply Nat.lt_of_lt_of_le (Nat.ofDigits_lt_base_pow_length (by decide) bytes)
        exact Nat.pow_le_pow_right (by decide) short
      have number := small pic mem_cons_self there
      have slot : slotOf pic = some (refNumber pic) := slot_some.mpr ⟨there, rfl⟩
      rw [if_pos there, slot, reduceOption_cons_of_some]
      have cons : packBytes (refNumber pic :: (rest.map slotOf).reduceOption) =
          refNumber pic + 256 * packBytes (rest.map slotOf).reduceOption :=
        Nat.ofDigits_cons
      rw [cons]
      generalize packBytes (rest.map slotOf).reduceOption = word at bound ⊢
      have shifted : word * 256 % 2 ^ 32 = 2 ^ 8 * word := by omega
      have value : refNumber pic % 2 ^ 32 = refNumber pic := by omega
      rw [shifted, value, ← Nat.two_pow_add_eq_or_of_lt number]
      omega
    · have slot : slotOf pic = none := by
        by_contra present
        exact there (slot_none.mp present)
      rw [if_neg there, slot, reduceOption_cons_of_none]

theorem word_slot {count m k : Nat} : ((wordEntries refList count m).map slotOf)[k]? =
      if k < min 4 (count - 4 * m) then some (slotOf (refList (4 * m + k))) else none := by
  unfold wordEntries
  rw [map_map, List.getElem?_map]
  split_ifs with inside
  · rw [List.getElem?_range' inside, Nat.one_mul]
    rfl
  · rw [List.getElem?_eq_none (by rw [length_range']; omega)]
    rfl

end Words

variable {hCtx : H264Context}

theorem list_byte {i : Nat} (room : hCtx.nRefCount i ≤ 48)
    (small : ∀ j < hCtx.nRefCount i, (hCtx.refList i j).pVPicture.isSome = true →
      refNumber (hCtx.refList i j) < 256) {j : Nat} (inside : j < hCtx.nRefCount i) :
    wordByte (refListWords hCtx i) j =
      ((wordEntries (hCtx.refList i) (hCtx.nRefCount i) (j / 4)).map
        slotOf).reduceOption.getD (j % 4) 0 := by
  have entry : ∀ pic ∈ wordEntries (hCtx.refList i) (hCtx.nRefCount i) (j / 4),
      pic.pVPicture.isSome = true → refNumber pic < 256 := by
    intro pic member
    unfold wordEntries at member
    rcases mem_map.mp member with ⟨k, listed, rfl⟩
    have bounds := mem_range'_1.mp listed
    exact small k (by omega)
  have four : (wordEntries (hCtx.refList i) (hCtx.nRefCount i) (j / 4)).length ≤ 4 := by
    unfold wordEntries
    rw [length_map, length_range']
    exact Nat.min_le_left _ _
  have word : (refListWords hCtx i).getD (j / 4) 0 =
      packBytes ((wordEntries (hCtx.refList i) (hCtx.nRefCount i) (j / 4)).map
        slotOf).reduceOption := by
    unfold refListWords
    rw [getD_eq_getElem?_getD, List.getElem?_map,
      List.getElem?_range (show j / 4 < hCtx.nRefCount i / 4 + 1 by omega)]
    apply Eq.trans (pack_word room length_replicate _)
    have start : (List.replicate 18 0).getD (j / 4) 0 = 0 := by
      rw [getD_eq_getElem _ _ (by rw [length_replicate]; omega), getElem_replicate]
    rw [start]
    exact shifted_packed four entry
  unfold wordByte
  rw [word]
  apply packed_byte
  intro byte member
  rcases mem_map.mp (reduceOption_mem_iff.mp member) with ⟨pic, held, slot⟩
  rcases slot_some.mp slot with ⟨present, rfl⟩
  exact entry pic held present

theorem leading_data (words : List Nat) (writes : List PortWrite) :
    leadingWords (words.map .data ++ writes) = words ++ leadingWords writes := by
  induction words with
  | nil => rfl
  | cons word rest later =>
    rw [map_cons, cons_append, cons_append, ← later]
    rfl

theorem words_behind_data (addr : Nat) (words : List Nat) (writes : List PortWrite) :
    wordsAt addr (words.map .data ++ writes) = wordsAt addr writes := by
  induction words with
  | nil => rfl
  | cons word rest later => exact later

theorem register_writes : H264ConfigureRefListRegister hCtx =
      (List.range (min hCtx.nListCount 2)).flatMap (refListWrites hCtx) := by
  unfold H264ConfigureRefListRegister
  induction hCtx.nListCount with
  | zero => rfl
  | succ count before =>
    rw [range_succ, flatMap_append, before]
    by_cases past : 2 ≤ count
    · have same : min (count + 1) 2 = min count 2 := by omega
      rw [flatMap_singleton, if_pos past, same, append_nil]
    · have next : min (count + 1) 2 = min count 2 + 1 := by omega
      have place : min count 2 = count := by omega
      rw [next, range_succ, flatMap_append, flatMap_singleton,
        flatMap_singleton, if_neg past, place]

theorem leading_none (i : Nat) (writes : List PortWrite) (none : leadingWords writes = []) :
    leadingWords (refListWrites hCtx i ++ writes) = [] := by
  unfold refListWrites
  split_ifs
  · rfl
  · exact none

theorem words_of_list {i : Nat} (some : 0 < hCtx.nRefCount i) {writes : List PortWrite}
    (none : leadingWords writes = []) :
    wordsAt (H264_REFLIST_ADDR + 36 * i) (refListWrites hCtx i ++ writes) =
      refListWords hCtx i := by
  unfold refListWrites
  rw [if_pos some, cons_append]
  unfold wordsAt
  rw [if_pos rfl, leading_data, none, append_nil]

theorem words_behind_list {i k : Nat} (other : k ≠ i) (writes : List PortWrite) :
    wordsAt (H264_REFLIST_ADDR + 36 * i) (refListWrites hCtx k ++ writes) =
      wordsAt (H264_REFLIST_ADDR + 36 * i) writes := by
  unfold refListWrites
  split_ifs
  · have apart : H264_REFLIST_ADDR + 36 * k ≠ H264_REFLIST_ADDR + 36 * i := by omega
    have behind := words_behind_data (H264_REFLIST_ADDR + 36 * i) (refListWords hCtx k) writes
    exact (if_neg apart).trans behind
  · rfl

theorem written_words {i : Nat} (listed : i < min hCtx.nListCount 2) (some : 0 < hCtx.nRefCount i) :
    wordsAt (H264_REFLIST_ADDR + 36 * i) (H264ConfigureRefListRegister hCtx) =
      refListWords hCtx i := by
  rw [register_writes]
  have count : min hCtx.nListCount 2 = 1 ∨ min hCtx.nListCount 2 = 2 := by omega
  rcases count with one | two
  · rw [one] at listed ⊢
    have first : i = 0 := by omega
    subst first
    exact words_of_list some rfl
  · rw [two] at listed ⊢
    have lists : (List.range 2).flatMap (refListWrites hCtx) =
        refListWrites hCtx 0 ++ (refListWrites hCtx 1 ++ []) := rfl
    rw [lists]
    rcases (show i = 0 ∨ i = 1 by omega) with rfl | rfl
    · exact words_of_list some (leading_none 1 [] rfl)
    · rw [words_behind_list (by decide)]
      exact words_of_list some rfl

/-- Entries keep their places where no entry without a picture comes below one that has a
picture and a number that is not zero, in one word. -/
theorem entries_in_place_iff (room : ∀ i, hCtx.nRefCount i ≤ 48) :
    EntriesInPlace hCtx ↔ AllKeepPlaces hCtx := by
  constructor
  · intro placed i listed j inside present
    have bytes : ∀ k < hCtx.nRefCount i, (hCtx.refList i k).pVPicture.isSome = true →
        wordByte (refListWords hCtx i) k = refNumber (hCtx.refList i k) := by
      intro k within there
      rw [← written_words listed (Nat.zero_lt_of_lt within)]
      exact placed i listed k within there
    have small : ∀ k < hCtx.nRefCount i, (hCtx.refList i k).pVPicture.isSome = true →
        refNumber (hCtx.refList i k) < 256 := by
      intro k within there
      rw [← bytes k within there]
      exact Nat.mod_lt _ (by decide)
    have split := Nat.div_add_mod j 4
    have found : ∀ (k value : Nat),
        ((wordEntries (hCtx.refList i) (hCtx.nRefCount i) (j / 4)).map slotOf)[k]? =
          some (some value) →
        ((wordEntries (hCtx.refList i) (hCtx.nRefCount i) (j / 4)).map
          slotOf).reduceOption.getD k 0 = value := by
      intro k value slot
      rw [word_slot] at slot
      split_ifs at slot with within
      rcases slot_some.mp (Option.some_inj.mp slot) with ⟨there, rfl⟩
      have below : 4 * (j / 4) + k < hCtx.nRefCount i := by omega
      have byte := list_byte (room i) small below
      rw [bytes _ below there] at byte
      have quotient : (4 * (j / 4) + k) / 4 = j / 4 := by omega
      have remainder : (4 * (j / 4) + k) % 4 = k := by omega
      rw [quotient, remainder] at byte
      exact byte.symm
    have here : ((wordEntries (hCtx.refList i) (hCtx.nRefCount i) (j / 4)).map slotOf)[j % 4]? =
        some (some (refNumber (hCtx.refList i j))) := by
      rw [word_slot, if_pos (by omega), split, slot_some.mpr ⟨present, rfl⟩]
    apply And.intro (small j inside present)
    apply (in_place_packed found here).imp id
    intro full k below within
    have place : 4 * (j / 4) + (k - 4 * (j / 4)) = k := by omega
    have entry := full (k - 4 * (j / 4)) (by omega)
    rw [word_slot, if_pos (by omega), place] at entry
    exact slot_none.mp fun absent => entry (congrArg Option.some absent)
  · intro kept i listed j inside present
    have small : ∀ k < hCtx.nRefCount i, (hCtx.refList i k).pVPicture.isSome = true →
        refNumber (hCtx.refList i k) < 256 := fun k within there =>
      (kept i listed k within there).1
    have split := Nat.div_add_mod j 4
    rw [written_words listed (Nat.zero_lt_of_lt inside), list_byte (room i) small inside]
    apply packed_in_place
    · intro k value slot
      rw [word_slot] at slot
      split_ifs at slot with within
      rcases slot_some.mp (Option.some_inj.mp slot) with ⟨there, rfl⟩
      have below : 4 * (j / 4) + k < hCtx.nRefCount i := by omega
      apply (kept i listed _ below there).2.imp id
      intro full other before absent
      rw [word_slot, if_pos (by omega)] at absent
      have entry := full (4 * (j / 4) + other) (by omega) (by omega)
      exact slot_none.mpr entry (Option.some_inj.mp absent)
    · rw [word_slot, if_pos (by omega), split, slot_some.mpr ⟨present, rfl⟩]

def twoEntries (first : Option Nat) : H264Context where
  nListCount := 1
  nRefCount := fun i => if i = 0 then 2 else 0
  refList := fun _ j =>
    if j = 0 then ⟨first, 1, .PICT_FRAME⟩ else ⟨some 7, 2, .PICT_FRAME⟩

theorem two_entries_kept : EntriesInPlace (twoEntries (some 6)) := by
  apply (entries_in_place_iff _).mpr
  · intro i listed j inside _
    have first : i = 0 := by
      have count : i < 1 := listed
      omega
    subst first
    have two : j < 2 := inside
    constructor
    · rcases (show j = 0 ∨ j = 1 by omega) with rfl | rfl <;> decide
    · apply Or.inr
      intro k below _
      have least : k = 0 := by omega
      subst least
      rfl
  · intro i
    show (if i = 0 then 2 else 0) ≤ 48
    split_ifs <;> decide

/-- The second entry lands in the byte of the first. -/
theorem second_entry_shifted : ¬ EntriesInPlace (twoEntries none) := by
  intro placed
  exact absurd (placed 0 (by decide) 1 (by decide) rfl) (by decide)

end CedarC.H264RefListRegister
