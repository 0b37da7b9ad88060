import CedarC.H264RefListReordering

/-!
# Modification of the reference lists

The process for the modification of reference picture lists: every command puts
the picture with its number at the next index, moves the rest to the right and
takes the later entry with that number out. The decoder does the same where each
command names a reference picture; a command that names none is refused with a
positive code, which the caller does not take for an error.
-/

namespace CedarC.H264ReorderingClause

open FixedWidth H264RefMarking H264DefaultRefLists H264RefListReordering List Option Function

section Lists

variable {Entry : Type}

/-- The entry that goes where the list must not grow: the first hit, or the last one. -/
structure Leaves (hit : Entry → Bool) (entries : List Entry) (q : Nat) : Prop where
  inside : q < entries.length
  earlier : ∀ t, t < q → ∀ entry ∈ entries[t]?, hit entry = false
  here : q + 1 < entries.length → ∀ entry ∈ entries[q]?, hit entry = true

/-- In a list of different entries, with blanks behind them, the entry with the number leaves
or else the last one; a hit on a blank makes no difference. -/
theorem filter_leaves {same hit : Entry → Bool} {blank : Entry} (blanks : Nat)
    (unnumbered : same blank = false) (entries : List Entry)
    (hits : ∀ entry ∈ entries, hit entry = same entry)
    (distinct : entries.Pairwise fun one other => same one = true → same other = false) {q : Nat}
    (leaves : Leaves hit (entries ++ List.replicate blanks blank) q) :
    ((entries ++ List.replicate blanks blank).filter fun entry => !same entry).take
        ((entries ++ List.replicate blanks blank).length - 1) =
      (entries ++ List.replicate blanks blank).eraseIdx q := by
  have keeps : (List.replicate blanks blank).filter (fun entry => !same entry) =
      List.replicate blanks blank := by
    apply filter_eq_self.mpr
    intro entry member
    rw [eq_of_mem_replicate member, unnumbered]
    rfl
  induction entries generalizing q with
  | nil =>
    have inside := leaves.inside
    rw [nil_append, length_replicate] at inside
    rw [nil_append, keeps, length_replicate, take_replicate, eraseIdx_replicate,
      if_pos inside, Nat.min_eq_left (Nat.sub_le blanks 1)]
  | cons entry entries later =>
    have first : (entry :: entries ++ List.replicate blanks blank)[0]? = some entry := rfl
    rw [pairwise_cons] at distinct
    by_cases numbered : same entry = true
    · have atFirst : q = 0 := by
        by_contra behind
        have missed := leaves.earlier 0 (by omega) entry first
        rw [hits entry mem_cons_self, numbered] at missed
        cases missed
      have others : (entries ++ List.replicate blanks blank).filter (fun entry => !same entry) =
          entries ++ List.replicate blanks blank := by
        rw [filter_append, keeps]
        apply congrArg (· ++ List.replicate blanks blank)
        apply filter_eq_self.mpr
        intro other member
        rw [distinct.1 other member numbered]
        rfl
      rw [atFirst, cons_append, filter_cons_of_neg (by simp [numbered]), others]
      exact take_length
    · have missed : hit entry = false := by
        rw [hits entry mem_cons_self]
        simpa using numbered
      rw [cons_append, filter_cons_of_pos (by simp [numbered])]
      cases q with
      | zero =>
        have alone : ¬ 0 + 1 < (entry :: entries ++ List.replicate blanks blank).length := by
          intro more
          have found := leaves.here more entry first
          rw [missed] at found
          cases found
        have empty : (entries ++ List.replicate blanks blank).length = 0 := by
          rw [cons_append, length_cons] at alone
          omega
        rw [length_eq_zero_iff.mp empty]
        rfl
      | succ q =>
        have shorter : Leaves hit (entries ++ List.replicate blanks blank) q := by
          constructor
          · exact Nat.lt_of_succ_lt_succ leaves.inside
          · intro t earlier other there
            exact leaves.earlier (t + 1) (by omega) other there
          · intro more other there
            exact leaves.here (Nat.succ_lt_succ more) other there
        have rest := later (fun other member => hits other (mem_cons_of_mem entry member))
          distinct.2 shorter
        have inside := shorter.inside
        rw [eraseIdx_cons_succ, ← rest, length_cons, Nat.add_sub_cancel]
        cases size : (entries ++ List.replicate blanks blank).length with
        | zero => omega
        | succ count => rfl

end Lists

section Arrays

variable {refList : RefList} {entry : ListPic} {nRefCount index : Nat}

def listOf (refList : RefList) (nRefCount : Nat) : List ListPic :=
  (List.range nRefCount).map refList

theorem list_of_length (refList : RefList) (nRefCount : Nat) :
    (listOf refList nRefCount).length = nRefCount := by
  unfold listOf
  rw [length_map, length_range]

theorem list_of_get (refList : RefList) {nRefCount j : Nat} (inside : j < nRefCount) :
    (listOf refList nRefCount)[j]? = some (refList j) := by
  unfold listOf
  rw [List.getElem?_map, List.getElem?_range inside]
  rfl

/-- The test of the loop that looks for the picture in the list. -/
def hits (entry other : ListPic) : Bool :=
  decide (entry.bLongRef = other.bLongRef ∧ entry.nPicId = other.nPicId)

theorem find_listed_spec {left i : Nat} (inside : i < nRefCount)
    (size : nRefCount ≤ REF_LIST_SIZE) (enough : nRefCount ≤ left + i) :
    ∃ k, findListed refList entry.bLongRef entry.nPicId nRefCount left i = some k ∧ i ≤ k ∧
      k < nRefCount ∧ (∀ j, i ≤ j → j < k → hits entry (refList j) = false) ∧
      (k + 1 < nRefCount → hits entry (refList k) = true) := by
  induction left generalizing i with
  | zero => omega
  | succ left later =>
    unfold findListed
    by_cases more : i + 1 < nRefCount
    · rw [if_pos more, if_neg (by omega)]
      by_cases found : entry.bLongRef = (refList i).bLongRef ∧ entry.nPicId = (refList i).nPicId
      · rw [if_pos found]
        exact ⟨i, rfl, Nat.le_refl i, inside, fun j low high => by omega,
          fun _ => decide_eq_true found⟩
      · rw [if_neg found]
        rcases later more (by omega) with ⟨k, search, low, high, earlier, here⟩
        refine ⟨k, search, by omega, high, ?_, here⟩
        intro j from_i below
        by_cases first : j = i
        · rw [first]
          exact decide_eq_false found
        · exact earlier j (by omega) below
    · rw [if_neg more]
      exact ⟨i, rfl, Nat.le_refl i, inside, fun j low high => by omega,
        fun last => absurd last more⟩

theorem shift_list_spec (index : Nat) {i : Nat} (size : i < REF_LIST_SIZE) :
    ∃ after, shiftList index i refList = some after ∧
      ∀ j, after j = if index < j ∧ j ≤ i then refList (j - 1) else refList j := by
  induction i generalizing refList with
  | zero =>
    apply Exists.intro refList
    apply And.intro rfl
    intro j
    rw [if_neg (by omega)]
  | succ i later =>
    unfold shiftList
    by_cases above : i + 1 > index
    · rw [if_pos above, if_neg (by omega)]
      rcases @later (update refList (i + 1) (refList i)) (by omega) with
        ⟨after, shift, entries⟩
      refine ⟨after, shift, ?_⟩
      intro j
      rw [entries j]
      by_cases last : j = i + 1
      · rw [if_neg (by omega), if_pos (by omega), last, update_self]
        rfl
      · by_cases moved : index < j ∧ j ≤ i
        · rw [if_pos moved, if_pos (by omega), update_of_ne (by omega)]
        · rw [if_neg moved, if_neg (by omega), update_of_ne last]
    · rw [if_neg above]
      refine ⟨refList, rfl, ?_⟩
      intro j
      rw [if_neg (by omega)]

theorem place_ref_list (refList : RefList) (entry : ListPic) (inside : index < nRefCount)
    (size : nRefCount ≤ REF_LIST_SIZE) :
    ∃ after q, placeRef refList nRefCount index entry = some after ∧
      Leaves (hits entry) ((listOf refList nRefCount).drop index) q ∧
      listOf after nRefCount = (listOf refList nRefCount).take index ++
        entry :: ((listOf refList nRefCount).drop index).eraseIdx q := by
  rcases @find_listed_spec refList entry nRefCount nRefCount index inside size (by omega) with
    ⟨k, search, low, high, earlier, here⟩
  rcases @shift_list_spec refList index k (by omega) with ⟨shifted, shift, entries⟩
  have place : placeRef refList nRefCount index entry =
      some (update shifted index entry) := by
    unfold placeRef
    rw [search, bind_some, shift, bind_some, if_neg (by omega)]
  have behind : ∀ t, index + t < nRefCount →
      ((listOf refList nRefCount).drop index)[t]? = some (refList (index + t)) := by
    intro t below
    rw [List.getElem?_drop, list_of_get refList below]
  refine ⟨_, k - index, place, ?_, ?_⟩
  · constructor
    · rw [length_drop, list_of_length]
      omega
    · intro t before other there
      rw [behind t (by omega)] at there
      rw [← Option.some.inj there]
      exact earlier (index + t) (by omega) (by omega)
    · intro more other there
      rw [length_drop, list_of_length] at more
      rw [behind (k - index) (by omega)] at there
      rw [← Option.some.inj there, show index + (k - index) = k by omega]
      exact here (by omega)
  · apply ext_getElem?
    intro j
    have front : ((listOf refList nRefCount).take index).length = index := by
      rw [length_take, list_of_length]
      omega
    by_cases below : j < nRefCount
    · rw [list_of_get _ below]
      rcases Nat.lt_trichotomy j index with before | same | behind_index
      · rw [List.getElem?_append_left (by omega), List.getElem?_take_of_lt before,
          list_of_get refList below, update_of_ne (by omega), entries j,
          if_neg (by omega)]
      · rw [List.getElem?_append_right (by omega), front, same, Nat.sub_self, update_self]
        rfl
      · rw [List.getElem?_append_right (by omega), front, update_of_ne (by omega),
          entries j, show j - index = j - index - 1 + 1 by omega, List.getElem?_cons_succ,
          List.getElem?_eraseIdx]
        by_cases moved : j ≤ k
        · rw [if_pos (by omega), if_pos (by omega), behind (j - index - 1) (by omega),
            show index + (j - index - 1) = j - 1 by omega]
        · rw [if_neg (by omega), if_neg (by omega), behind (j - index - 1 + 1) (by omega),
            show index + (j - index - 1 + 1) = j by omega]
    · rw [List.getElem?_eq_none (by rw [list_of_length]; omega), List.getElem?_eq_none]
      rw [length_append, front, length_cons, length_eraseIdx, length_drop, list_of_length]
      split_ifs <;> omega

end Arrays

section Clause

structure Reference where
  pic : Pic
  structure_ : Nat
  LongTermFrameIdx : Option Nat
deriving DecidableEq

variable (hCtx : H264Context) (order : Pic → PicOrder)

def MaxPicNum : Int := hCtx.nMaxPicNum.toNat
def CurrPicNum : Int := hCtx.nCurPicNum.toNat
def MaxFrameNum : Int := if hCtx.isField then MaxPicNum hCtx / 2 else MaxPicNum hCtx
def frame_num : Int := if hCtx.isField then CurrPicNum hCtx / 2 else CurrPicNum hCtx

def FrameNumWrap (pic : Pic) : Int :=
  let FrameNum := (hCtx.picture pic).nFrmNum
  if FrameNum > frame_num hCtx then FrameNum - MaxFrameNum hCtx else FrameNum

/-- The number of a picture from that of its frame: fields of the current parity are odd. -/
def numberOf (structure_ : Nat) (number : Int) : Int :=
  if hCtx.isField then 2 * number + (if structure_ = hCtx.nPicStructure.bits then 1 else 0)
  else number

def PicNum (ref : Reference) : Int := numberOf hCtx ref.structure_ (FrameNumWrap hCtx ref.pic)

def LongTermPicNum (ref : Reference) (LongTermFrameIdx : Nat) : Int :=
  numberOf hCtx ref.structure_ LongTermFrameIdx

/-- Two short-term pictures with one `PicNum`, or long-term ones with one `LongTermPicNum`. -/
def sameNumber (one other : Reference) : Bool :=
  match one.LongTermFrameIdx, other.LongTermFrameIdx with
  | none, none => decide (PicNum hCtx one = PicNum hCtx other)
  | some i, some j => decide (LongTermPicNum hCtx one i = LongTermPicNum hCtx other j)
  | _, _ => false

def Coded (structure_ : Nat) : Prop :=
  if hCtx.isField then structure_ = 1 ∨ structure_ = 2 else structure_ = 3
deriving Decidable

/-- A picture in one of the two tables, all of whose fields are marked. -/
structure IsReference (ref : Reference) : Prop where
  coded : Coded hCtx ref.structure_
  marked : (hCtx.picture ref.pic).nReference &&& ref.structure_ = ref.structure_
  short : ref.LongTermFrameIdx = none → (hCtx.picture ref.pic).pVPicture = true ∧
    (hCtx.picture ref.pic).bLongRef = false ∧
    ∃ i, i < hCtx.nShortRefCount ∧ hCtx.pShortRef i = some ref.pic
  long : ∀ i ∈ ref.LongTermFrameIdx, i < 16 ∧ hCtx.pLongRef i = some ref.pic

def absDiffPicNum (code : ReorderCode) : Int := code.value.toNat + 1

def picNumLXNoWrap (picNumLXPred : Int) (code : ReorderCode) : Int :=
  if code.reorderingOfPicNumsIdc = 0 then
    if picNumLXPred - absDiffPicNum code < 0 then
      picNumLXPred - absDiffPicNum code + MaxPicNum hCtx
    else picNumLXPred - absDiffPicNum code
  else
    if picNumLXPred + absDiffPicNum code ≥ MaxPicNum hCtx then
      picNumLXPred + absDiffPicNum code - MaxPicNum hCtx
    else picNumLXPred + absDiffPicNum code

def picNumLX (noWrap : Int) : Int :=
  if noWrap > CurrPicNum hCtx then noWrap - MaxPicNum hCtx else noWrap

/-- Every command names a reference picture, from the prediction on. -/
inductive NamesAll : Int → List ReorderCode → List Reference → Prop
  | nil (picNumLXPred : Int) : NamesAll picNumLXPred [] []
  | shortTerm {picNumLXPred : Int} {code : ReorderCode} {rest : List ReorderCode} {ref : Reference}
      {refs : List Reference} (isShort : code.reorderingOfPicNumsIdc < 2)
      (range : absDiffPicNum code ≤ MaxPicNum hCtx) (isReference : IsReference hCtx ref)
      (short : ref.LongTermFrameIdx = none)
      (number : PicNum hCtx ref = picNumLX hCtx (picNumLXNoWrap hCtx picNumLXPred code))
      (later : NamesAll (picNumLXNoWrap hCtx picNumLXPred code) rest refs) :
      NamesAll picNumLXPred (code :: rest) (ref :: refs)
  | longTerm {picNumLXPred : Int} {code : ReorderCode} {rest : List ReorderCode} {ref : Reference}
      {refs : List Reference} {i : Nat} (isLong : code.reorderingOfPicNumsIdc = 2)
      (isReference : IsReference hCtx ref) (long : ref.LongTermFrameIdx = some i)
      (number : LongTermPicNum hCtx ref i = code.value.toNat)
      (later : NamesAll picNumLXPred rest refs) : NamesAll picNumLXPred (code :: rest) (ref :: refs)

/-- The picture goes to the index, the rest to the right without the one of its number; the
list keeps its length. -/
def insertNamed (length index : Nat) (ref : Reference) (list : List (Option Reference)) :
    List (Option Reference) :=
  (list.take index ++ some ref ::
    (list.drop index).filter fun entry => !entry.any (sameNumber hCtx ref)).take length

def modified (length : Nat) : Nat → List Reference → List (Option Reference) →
    List (Option Reference)
  | _, [], list => list
  | index, ref :: refs, list =>
    modified length (index + 1) refs (insertNamed hCtx length index ref list)

def initialList (length : Nat) (refs : List Reference) : List (Option Reference) :=
  (refs.map some ++ List.replicate length none).take length

def picIdOf (ref : Reference) : Int :=
  numberOf hCtx ref.structure_ (ref.LongTermFrameIdx.elim (hCtx.picture ref.pic).nFrmNum Int.ofNat)

def entryOf : Option Reference → ListPic
  | none => .zero
  | some ref => copyOf hCtx order ref.pic (picIdOf hCtx ref) ref.structure_

end Clause

section Numbers

variable {hCtx : H264Context}

structure SliceContext (hCtx : H264Context) : Prop where
  header : ∃ nFrmNum nLog2MaxFrmNum, nFrmNum < 2 ^ nLog2MaxFrmNum ∧ nLog2MaxFrmNum ≤ 28 ∧
    (hCtx.nCurPicNum, hCtx.nMaxPicNum) = slicePicNums hCtx.isField nFrmNum nLog2MaxFrmNum
  count : hCtx.nShortRefCount ≤ MAX_PICTURE_COUNT
  short : ∀ i, i < hCtx.nShortRefCount → ∃ pic, hCtx.pShortRef i = some pic
  frames : ∀ i pic, i < hCtx.nShortRefCount → hCtx.pShortRef i = some pic →
    0 ≤ (hCtx.picture pic).nFrmNum ∧ (hCtx.picture pic).nFrmNum < MaxFrameNum hCtx
  distinct : ∀ i j one other, i < hCtx.nShortRefCount → j < hCtx.nShortRefCount →
    hCtx.pShortRef i = some one → hCtx.pShortRef j = some other →
    (hCtx.picture one).nFrmNum = (hCtx.picture other).nFrmNum → i = j
  long : ∀ i pic, hCtx.pLongRef i = some pic → (hCtx.picture pic).bLongRef = true

structure SliceNumbers (hCtx : H264Context) (bits : Nat) : Prop where
  power : hCtx.nMaxPicNum.toNat = 2 ^ bits
  small : bits ≤ 29
  cur : hCtx.nCurPicNum.toNat < 2 ^ bits
  field : hCtx.isField = true → 1 ≤ bits ∧ hCtx.nCurPicNum.toNat % 2 = 1

theorem slice_numbers (context : SliceContext hCtx) : ∃ bits, SliceNumbers hCtx bits := by
  rcases context.header with ⟨nFrmNum, nLog2MaxFrmNum, inside, short, nums⟩
  have limit : 2 ^ nLog2MaxFrmNum ≤ 2 ^ 28 := Nat.pow_le_pow_right (by decide) short
  unfold slicePicNums at nums
  split_ifs at nums with isField
  · have cur : hCtx.nCurPicNum = UInt32.ofNat (2 * nFrmNum + 1) := congrArg Prod.fst nums
    have power : hCtx.nMaxPicNum = UInt32.ofNat (2 ^ (nLog2MaxFrmNum + 1)) := congrArg Prod.snd nums
    have double : 2 ^ (nLog2MaxFrmNum + 1) = 2 * 2 ^ nLog2MaxFrmNum := Nat.pow_succ'
    apply Exists.intro (nLog2MaxFrmNum + 1)
    constructor
    · rw [power, UInt32.toNat_ofNat_of_lt']
      change 2 ^ (nLog2MaxFrmNum + 1) < 2 ^ 32
      omega
    · omega
    · rw [cur, UInt32.toNat_ofNat_of_lt' (by change _ < 2 ^ 32; omega)]
      omega
    · intro _
      rw [cur, UInt32.toNat_ofNat_of_lt' (by change _ < 2 ^ 32; omega)]
      omega
  · have cur : hCtx.nCurPicNum = UInt32.ofNat nFrmNum := congrArg Prod.fst nums
    have power : hCtx.nMaxPicNum = UInt32.ofNat (2 ^ nLog2MaxFrmNum) := congrArg Prod.snd nums
    apply Exists.intro nLog2MaxFrmNum
    constructor
    · rw [power, UInt32.toNat_ofNat_of_lt']
      change 2 ^ nLog2MaxFrmNum < 2 ^ 32
      omega
    · omega
    · rw [cur, UInt32.toNat_ofNat_of_lt' (by change _ < 2 ^ 32; omega)]
      exact inside
    · intro field
      exact absurd field isField

variable {bits structure_ : Nat} {pred : UInt32} {ref : Reference}

theorem moved_prediction (nums : SliceNumbers hCtx bits)
    (inside : pred.toNat < 2 ^ bits) (code : ReorderCode)
    (range : absDiffPicNum code ≤ MaxPicNum hCtx) :
    ((((if code.reorderingOfPicNumsIdc = 0 then pred - (code.value + 1)
        else pred + (code.value + 1)) &&& (hCtx.nMaxPicNum - 1)).toNat : Nat) : Int) =
      picNumLXNoWrap hCtx pred.toNat code := by
  have power := nums.power
  have limit : 2 ^ bits ≤ 2 ^ 29 := Nat.pow_le_pow_right (by decide) nums.small
  have divides : (2 : Nat) ^ bits ∣ 2 ^ 32 := Nat.pow_dvd_pow 2 (by have := nums.small; omega)
  unfold picNumLXNoWrap MaxPicNum absDiffPicNum
  unfold MaxPicNum absDiffPicNum at range
  rw [power] at range ⊢
  have difference : (code.value + 1).toNat = code.value.toNat + 1 := by
    rw [UInt32.toNat_add]
    change (code.value.toNat + 1) % 2 ^ 32 = _
    omega
  have mask : (hCtx.nMaxPicNum - 1).toNat = 2 ^ bits - 1 := by
    have positive : 1 ≤ hCtx.nMaxPicNum.toNat := by
      rw [power]
      exact Nat.one_le_two_pow
    have one_le : (1 : UInt32) ≤ hCtx.nMaxPicNum := UInt32.le_iff_toNat_le.mpr positive
    rw [UInt32.toNat_sub_of_le _ _ one_le, power]
    rfl
  rw [UInt32.toNat_and, mask, Nat.and_two_pow_sub_one_eq_mod]
  rcases divides with ⟨turns, whole⟩
  generalize 2 ^ bits = size at *
  by_cases less : code.reorderingOfPicNumsIdc = 0
  · rw [if_pos less, if_pos less, UInt32.toNat_sub, difference, whole]
    have some_turns : 0 < turns := by
      apply Nat.pos_of_ne_zero
      rintro rfl
      omega
    rw [Nat.mod_mul_right_mod]
    by_cases wraps : pred.toNat < code.value.toNat + 1
    · rw [if_pos (by omega)]
      have split : size * turns - (code.value.toNat + 1) + pred.toNat =
          size * (turns - 1) + (size - (code.value.toNat + 1) + pred.toNat) := by
        have one : size * turns = size * (turns - 1) + size := by
          rw [← Nat.mul_succ, Nat.succ_eq_add_one, Nat.sub_add_cancel some_turns]
        omega
      rw [split, Nat.mul_add_mod, Nat.mod_eq_of_lt (by omega)]
      omega
    · rw [if_neg (by omega)]
      have split : size * turns - (code.value.toNat + 1) + pred.toNat =
          size * turns + (pred.toNat - (code.value.toNat + 1)) := by omega
      rw [split, Nat.mul_add_mod, Nat.mod_eq_of_lt (by omega)]
      omega
  · rw [if_neg less, if_neg less, UInt32.toNat_add, difference, whole, Nat.mod_mul_right_mod]
    by_cases wraps : size ≤ pred.toNat + (code.value.toNat + 1)
    · rw [if_pos (by omega), Nat.mod_eq_sub_mod wraps, Nat.mod_eq_of_lt (by omega)]
      omega
    · rw [if_neg (by omega), Nat.mod_eq_of_lt (by omega)]
      omega

theorem number_extract (coded : Coded hCtx structure_) (number : Int) :
    H264PicNumExtract hCtx (numberOf hCtx structure_ number) = (number, structure_) := by
  unfold Coded at coded
  unfold H264PicNumExtract numberOf
  by_cases field : hCtx.isField = true
  · rw [if_pos field] at coded
    dsimp only
    rw [if_pos field, if_pos field]
    have parity : hCtx.nPicStructure.bits = 1 ∨ hCtx.nPicStructure.bits = 2 := by
      unfold H264Context.isField at field
      cases coding : hCtx.nPicStructure with
      | PICT_TOP_FIELD => exact .inl rfl
      | PICT_BOTTOM_FIELD => exact .inr rfl
      | PICT_FRAME => simp [coding] at field
    by_cases own : structure_ = hCtx.nPicStructure.bits
    · rw [if_pos own, if_neg (by omega), own]
      exact Prod.ext (by dsimp only; omega) rfl
    · rw [if_neg own, if_pos (by omega)]
      apply Prod.ext
      · dsimp only
        omega
      · rcases parity with cur | cur
        · rw [cur] at own ⊢
          change 2 = structure_
          omega
        · rw [cur] at own ⊢
          change 1 = structure_
          omega
  · rw [if_neg field] at coded
    dsimp only
    rw [if_neg field, if_neg field, coded]
    have frame : hCtx.nPicStructure = .PICT_FRAME := by
      unfold H264Context.isField at field
      simpa using field
    rw [frame]
    rfl

theorem unwrapped_number (nums : SliceNumbers hCtx bits)
    (short : ref.LongTermFrameIdx = none) (low : 0 ≤ (hCtx.picture ref.pic).nFrmNum)
    (high : (hCtx.picture ref.pic).nFrmNum < MaxFrameNum hCtx) {noWrap : Int}
    (nonneg : 0 ≤ noWrap) (inside : noWrap < MaxPicNum hCtx)
    (number : PicNum hCtx ref = picNumLX hCtx noWrap) : noWrap = picIdOf hCtx ref := by
  have power := nums.power
  have cur := nums.cur
  have even : hCtx.isField = true → 2 ^ bits % 2 = 0 := by
    intro field
    rcases Nat.exists_eq_add_of_le (nums.field field).1 with ⟨more, size⟩
    rw [size, Nat.pow_add]
    omega
  unfold picIdOf
  rw [short, elim_none]
  unfold PicNum FrameNumWrap picNumLX at number
  unfold numberOf frame_num MaxFrameNum MaxPicNum CurrPicNum at *
  dsimp only at number
  rw [power] at high inside number
  have odd := nums.field
  generalize 2 ^ bits = size at *
  by_cases field : hCtx.isField = true
  · have halves := even field
    have odd := (odd field).2
    simp only [field, if_true] at high number ⊢
    split_ifs at number ⊢ <;> omega
  · have frame : hCtx.isField = false := by simpa using field
    simp only [frame, Bool.false_eq_true, if_false] at high number ⊢
    split_ifs at number <;> omega

theorem no_wrap_inside {picNumLXPred : Int} (nonneg : 0 ≤ picNumLXPred)
    (inside : picNumLXPred < MaxPicNum hCtx) (code : ReorderCode)
    (range : absDiffPicNum code ≤ MaxPicNum hCtx) :
    0 ≤ picNumLXNoWrap hCtx picNumLXPred code ∧
      picNumLXNoWrap hCtx picNumLXPred code < MaxPicNum hCtx := by
  have difference : 1 ≤ absDiffPicNum code := by
    unfold absDiffPicNum
    omega
  unfold picNumLXNoWrap
  split_ifs <;> omega

theorem coded_marked {nReference : Nat} (coded : Coded hCtx structure_)
    (marked : nReference &&& structure_ = structure_) : nReference &&& structure_ ≠ 0 := by
  unfold Coded at coded
  rw [marked]
  split_ifs at coded <;> omega

/-- The loop finds the picture of the frame number, which no other one has. -/
theorem search_short_found (context : SliceContext hCtx) {slot structure_ : Nat} {pic : Pic}
    (inside : slot < hCtx.nShortRefCount) (held : hCtx.pShortRef slot = some pic)
    (buffer : (hCtx.picture pic).pVPicture = true) (short : (hCtx.picture pic).bLongRef = false)
    (marked : (hCtx.picture pic).nReference &&& structure_ ≠ 0) {i : Nat} (before : slot < i)
    (small : i ≤ hCtx.nShortRefCount) :
    searchShort hCtx (hCtx.picture pic).nFrmNum structure_ i = some (some pic) := by
  have count := context.count
  induction i with
  | zero => omega
  | succ i later =>
    rcases context.short i (by omega) with ⟨ref, here⟩
    unfold searchShort
    rw [if_neg (by omega), here, bind_some]
    dsimp only
    by_cases found : (hCtx.picture ref).pVPicture = true ∧
        (hCtx.picture ref).nFrmNum = (hCtx.picture pic).nFrmNum ∧
        (hCtx.picture ref).nReference &&& structure_ ≠ 0 ∧ ¬ (hCtx.picture ref).bLongRef = true
    · have same : i = slot :=
        context.distinct i slot ref pic (by omega) inside here held found.2.1
      rw [if_pos found]
      rw [same, held] at here
      rw [Option.some.inj here]
    · rw [if_neg found]
      apply later _ (by omega)
      apply Nat.lt_of_le_of_ne (Nat.le_of_lt_succ before)
      rintro rfl
      rw [held] at here
      rw [← Option.some.inj here] at found
      exact found ⟨buffer, rfl, marked, by simp [short]⟩

theorem named_short (context : SliceContext hCtx) (nums : SliceNumbers hCtx bits)
    (inside : pred.toNat < 2 ^ bits) {code : ReorderCode}
    (isShort : code.reorderingOfPicNumsIdc < 2) (range : absDiffPicNum code ≤ MaxPicNum hCtx)
    (isReference : IsReference hCtx ref) (short : ref.LongTermFrameIdx = none)
    (number : PicNum hCtx ref = picNumLX hCtx (picNumLXNoWrap hCtx pred.toNat code)) :
    ∃ moved : UInt32, searchRef hCtx pred code =
        some (moved, .found ref.pic (picIdOf hCtx ref) ref.structure_) ∧
      (moved.toNat : Int) = picNumLXNoWrap hCtx pred.toNat code ∧ moved.toNat < 2 ^ bits := by
  rcases isReference.short short with ⟨buffer, notLong, slot, before, held⟩
  rcases context.frames slot ref.pic before held with ⟨low, high⟩
  have size : MaxPicNum hCtx = (2 ^ bits : Nat) := congrArg Nat.cast nums.power
  have bounds := @no_wrap_inside hCtx pred.toNat (Int.natCast_nonneg _)
    (by rw [size]; exact Int.ofNat_lt.mpr inside) code range
  have prediction := moved_prediction nums inside code range
  have same := unwrapped_number nums short low high bounds.1 bounds.2 number
  have limit : 2 ^ bits ≤ 2 ^ 29 := Nat.pow_le_pow_right (by decide) nums.small
  have allowed : ¬ code.value + 1 > hCtx.nMaxPicNum := by
    have whole : (code.value + 1).toNat = code.value.toNat + 1 := by
      unfold absDiffPicNum at range
      rw [size] at range
      rw [UInt32.toNat_add]
      change (code.value.toNat + 1) % 2 ^ 32 = _
      omega
    intro above
    have above : hCtx.nMaxPicNum.toNat < (code.value + 1).toNat := UInt32.lt_iff_toNat_lt.mp above
    unfold absDiffPicNum MaxPicNum at range
    omega
  unfold searchRef searchShortTerm
  rw [if_pos isShort]
  dsimp only
  rw [if_neg allowed]
  generalize ((if code.reorderingOfPicNumsIdc = 0 then pred - (code.value + 1)
    else pred + (code.value + 1)) &&& (hCtx.nMaxPicNum - 1)) = moved at prediction ⊢
  have signed : s32 moved.toNat = picIdOf hCtx ref := by
    rw [prediction, s32_of_range (by unfold InS32; omega), same]
  have extract : H264PicNumExtract hCtx (picIdOf hCtx ref) =
      ((hCtx.picture ref.pic).nFrmNum, ref.structure_) := by
    unfold picIdOf
    rw [number_extract isReference.coded, short, elim_none]
  have found := @search_short_found hCtx context slot ref.structure_ ref.pic before held buffer
    notLong (coded_marked isReference.coded isReference.marked) _ before (Nat.le_refl _)
  apply Exists.intro moved
  rw [signed, extract]
  dsimp only
  rw [found]
  have below : (moved.toNat : Int) < (2 ^ bits : Nat) := by
    rw [prediction, ← size]
    exact bounds.2
  exact ⟨rfl, prediction, Int.ofNat_lt.mp below⟩

theorem named_long {pred : UInt32} {code : ReorderCode} {ref : Reference} {i : Nat}
    (isLong : code.reorderingOfPicNumsIdc = 2) (isReference : IsReference hCtx ref)
    (long : ref.LongTermFrameIdx = some i)
    (number : LongTermPicNum hCtx ref i = code.value.toNat) :
    searchRef hCtx pred code = some (pred, .found ref.pic (picIdOf hCtx ref) ref.structure_) := by
  rcases isReference.long i long with ⟨small, held⟩
  have same : picIdOf hCtx ref = code.value.toNat := by
    unfold picIdOf
    rw [long, ← number]
    rfl
  have bound : (code.value.toNat : Int) ≤ 31 := by
    rw [← number]
    unfold LongTermPicNum numberOf
    split_ifs <;> omega
  have extract : H264PicNumExtract hCtx (picIdOf hCtx ref) = ((i : Int), ref.structure_) := by
    unfold picIdOf
    rw [number_extract isReference.coded, long]
    rfl
  have marked := coded_marked isReference.coded isReference.marked
  unfold searchRef searchLongTerm
  rw [if_neg (by rw [isLong]; decide), s32_of_range (by unfold InS32; omega), ← same]
  dsimp only
  rw [extract]
  dsimp only
  have inTable : ¬ (i : Int) ≥ (MAX_PICTURE_COUNT : Int) := by
    unfold MAX_PICTURE_COUNT
    omega
  rw [if_neg inTable, if_neg (by omega), Int.toNat_natCast, held]
  dsimp only
  rw [if_pos marked]
  rfl

end Numbers

section Insertion

variable {hCtx : H264Context} {order : Pic → PicOrder}

/-- The marks and the numbers that the pictures of a list have. -/
structure Listed (hCtx : H264Context) (ref : Reference) : Prop where
  coded : Coded hCtx ref.structure_
  short : ref.LongTermFrameIdx = none → (hCtx.picture ref.pic).bLongRef = false ∧
    0 ≤ (hCtx.picture ref.pic).nFrmNum ∧ (hCtx.picture ref.pic).nFrmNum < MaxFrameNum hCtx
  long : ∀ i ∈ ref.LongTermFrameIdx, (hCtx.picture ref.pic).bLongRef = true

variable {ref one other : Reference} {list : List (Option Reference)} {refList : RefList}
  {nRefCount index : Nat}

theorem reference_listed (context : SliceContext hCtx)
    (isReference : IsReference hCtx ref) : Listed hCtx ref where
  coded := isReference.coded
  short := by
    intro short
    rcases isReference.short short with ⟨_, notLong, slot, before, held⟩
    exact ⟨notLong, context.frames slot ref.pic before held⟩
  long := by
    intro i long
    exact context.long i ref.pic (isReference.long i long).2

theorem same_number_trans (left : sameNumber hCtx ref one = true)
    (right : sameNumber hCtx ref other = true) : sameNumber hCtx one other = true := by
  unfold sameNumber at *
  split at left
  · split at right
    all_goals simp_all
  · split at right
    all_goals simp_all
  · cases left

theorem hits_same (left : Listed hCtx one) (right : Listed hCtx other) :
    hits (entryOf hCtx order (some one)) (entryOf hCtx order (some other)) =
      sameNumber hCtx one other := by
  change decide ((hCtx.picture one.pic).bLongRef = (hCtx.picture other.pic).bLongRef ∧
    picIdOf hCtx one = picIdOf hCtx other) = _
  unfold sameNumber picIdOf
  cases leftLong : one.LongTermFrameIdx with
  | none =>
    rcases left.short leftLong with ⟨leftShort, leftLow, leftHigh⟩
    cases rightLong : other.LongTermFrameIdx with
    | none =>
      rcases right.short rightLong with ⟨rightShort, rightLow, rightHigh⟩
      apply decide_eq_decide.mpr
      rw [leftShort, rightShort]
      unfold PicNum FrameNumWrap
      simp only [elim_none, true_and]
      unfold numberOf
      split_ifs <;> omega
    | some j =>
      rw [leftShort, right.long j rightLong]
      exact decide_eq_false (by simp)
  | some i =>
    cases rightLong : other.LongTermFrameIdx with
    | none =>
      rw [left.long i leftLong, (right.short rightLong).1]
      exact decide_eq_false (by simp)
    | some j =>
      rw [left.long i leftLong, right.long j rightLong]
      apply decide_eq_decide.mpr
      exact and_iff_right rfl

/-- What is not named yet: different pictures, and "no reference picture" behind them. -/
def Tail (hCtx : H264Context) (list : List (Option Reference)) : Prop :=
  ∃ (refs : List Reference) (blanks : Nat), list = refs.map some ++ List.replicate blanks none ∧
    (∀ ref ∈ refs, Listed hCtx ref) ∧
    refs.Pairwise fun one other => sameNumber hCtx one other = false

theorem tail_erase (tail : Tail hCtx list) (q : Nat) : Tail hCtx (list.eraseIdx q) := by
  rcases tail with ⟨refs, blanks, rfl, listed, different⟩
  by_cases first : q < refs.length
  · refine ⟨refs.eraseIdx q, blanks, ?_, ?_, ?_⟩
    · rw [eraseIdx_append_of_lt_length (by rw [length_map]; exact first), eraseIdx_map]
    · intro ref member
      exact listed ref (mem_of_mem_eraseIdx member)
    · exact different.sublist (eraseIdx_sublist refs q)
  · rw [eraseIdx_append_of_length_le (by rw [length_map]; omega), eraseIdx_replicate]
    split_ifs
    · exact ⟨refs, blanks - 1, rfl, listed, different⟩
    · exact ⟨refs, blanks, rfl, listed, different⟩

theorem tail_leaves (listed : Listed hCtx ref) (tail : Tail hCtx list) {q : Nat}
    (leaves : Leaves (hits (entryOf hCtx order (some ref))) (list.map (entryOf hCtx order)) q) :
    (list.filter fun entry => !entry.any (sameNumber hCtx ref)).take (list.length - 1) =
      list.eraseIdx q := by
  rcases tail with ⟨refs, blanks, rfl, valid, different⟩
  apply @filter_leaves _ (fun entry => entry.any (sameNumber hCtx ref))
    (fun entry => hits (entryOf hCtx order (some ref)) (entryOf hCtx order entry)) none blanks rfl
  · intro entry member
    rcases mem_map.mp member with ⟨other, isIn, rfl⟩
    exact hits_same listed (valid other isIn)
  · apply pairwise_map.mpr
    apply different.imp
    intro one other differ same
    by_contra also
    have both : sameNumber hCtx ref other = true := by simpa using also
    rw [same_number_trans same both] at differ
    cases differ
  · constructor
    · have inside := leaves.inside
      rw [length_map] at inside
      exact inside
    · intro t earlier entry there
      apply leaves.earlier t earlier
      rw [List.getElem?_map, there]
      rfl
    · intro more entry there
      apply leaves.here (by rw [length_map]; exact more)
      rw [List.getElem?_map, there]
      rfl

/-- The list in the array, the entries from an index on still without the pictures named. -/
structure Reads (hCtx : H264Context) (order : Pic → PicOrder) (refList : RefList)
    (nRefCount index : Nat) (list : List (Option Reference)) : Prop where
  length : list.length = nRefCount
  entries : listOf refList nRefCount = list.map (entryOf hCtx order)
  tail : Tail hCtx (list.drop index)

theorem place_ref_reads
    (reads : Reads hCtx order refList nRefCount index list) (inside : index < nRefCount)
    (size : nRefCount ≤ REF_LIST_SIZE) (listed : Listed hCtx ref) :
    ∃ after, placeRef refList nRefCount index (entryOf hCtx order (some ref)) = some after ∧
      Reads hCtx order after nRefCount (index + 1) (insertNamed hCtx nRefCount index ref list) := by
  rcases place_ref_list refList (entryOf hCtx order (some ref)) inside size with
    ⟨after, q, place, leaves, result⟩
  have length := reads.length
  rw [reads.entries, ← map_drop] at leaves
  have gone := tail_leaves listed reads.tail leaves
  have front : (list.take index).length = index := by
    rw [length_take]
    omega
  have behind : (list.drop index).length = nRefCount - index := by rw [length_drop, length]
  have inserted : insertNamed hCtx nRefCount index ref list =
      list.take index ++ some ref :: (list.drop index).eraseIdx q := by
    unfold insertNamed
    rw [← gone, behind, take_append, front, take_of_length_le (by omega),
      show nRefCount - index = nRefCount - index - 1 + 1 by omega, take_succ_cons]
    rfl
  have left := leaves.inside
  rw [length_map, behind] at left
  refine ⟨after, place, ?_⟩
  rw [inserted]
  constructor
  · rw [length_append, front, length_cons, length_eraseIdx, behind, if_pos left]
    omega
  · rw [result, reads.entries, map_append, map_cons, ← eraseIdx_map, map_drop, map_take]
  · rw [show index + 1 = (list.take index).length + 1 by omega, drop_append,
      drop_of_length_le (by omega), show (list.take index).length + 1 -
      (list.take index).length = 1 by omega]
    exact tail_erase reads.tail q

theorem reorder_from_reads (context : SliceContext hCtx) {bits : Nat}
    (nums : SliceNumbers hCtx bits) (slice : SliceLists) (size : nRefCount ≤ REF_LIST_SIZE)
    {codes : List ReorderCode} {pred : UInt32} {refs : List Reference}
    (small : pred.toNat < 2 ^ bits) (room : codes.length + index ≤ nRefCount)
    (reads : Reads hCtx order refList nRefCount index list)
    (names : NamesAll hCtx pred.toNat codes refs) :
    ∃ after, reorderFrom hCtx order slice nRefCount codes index pred refList = some (0, after) ∧
      listOf after nRefCount =
        (modified hCtx nRefCount index refs list).map (entryOf hCtx order) := by
  induction codes generalizing index pred refList list refs with
  | nil =>
    cases names
    exact ⟨refList, rfl, reads.entries⟩
  | cons code rest later =>
    rw [length_cons] at room
    have inside : index < nRefCount := by omega
    unfold reorderFrom
    rw [if_neg (by omega)]
    cases names with
    | @shortTerm _ _ _ ref refs isShort range isReference short number others =>
      rcases named_short context nums small isShort range isReference short number with
        ⟨moved, search, prediction, below⟩
      rcases place_ref_reads reads inside size (reference_listed context isReference) with
        ⟨after, place, next⟩
      have known : code.reorderingOfPicNumsIdc < 3 := by
        have two : code.reorderingOfPicNumsIdc.toNat < 2 := UInt32.lt_iff_toNat_lt.mp isShort
        exact UInt32.lt_iff_toNat_lt.mpr (Nat.lt_succ_of_lt two)
      rw [← prediction] at others
      rw [if_pos known, search, bind_some]
      dsimp only
      change ∃ final, (placeRef refList nRefCount index
        (entryOf hCtx order (some ref))).bind _ = some (0, final) ∧ _
      rw [place, bind_some]
      exact later below (by omega) next others
    | @longTerm _ _ _ ref refs i isLong isReference long number others =>
      have search := @named_long hCtx pred code ref i isLong isReference long number
      rcases place_ref_reads reads inside size (reference_listed context isReference) with
        ⟨after, place, next⟩
      rw [if_pos (by rw [isLong]; decide), search, bind_some]
      dsimp only
      change ∃ final, (placeRef refList nRefCount index
        (entryOf hCtx order (some ref))).bind _ = some (0, final) ∧ _
      rw [place, bind_some]
      exact later small (by omega) next others

end Insertion

variable {hCtx : H264Context} {order : Pic → PicOrder} {slice : SliceLists}
  {defaults : Nat → List Reference}

/-- What the slice header leaves of the syntax: at most two lists of at most 32 entries, with no
more commands than entries. -/
structure SliceSyntax (slice : SliceLists) : Prop where
  lists : slice.nListCount ≤ 2
  intra : slice.bIntra = true → slice.nListCount = 0
  counts : ∀ list, slice.nRefCount list ≤ MAX_PICTURE_COUNT
  codes : ∀ list, ∀ codes ∈ slice.codes list, codes.length ≤ slice.nRefCount list ∧
    ∀ code ∈ codes, code.reorderingOfPicNumsIdc < 3

/-- The default lists hold different pictures and are zero behind them. -/
structure DefaultLists (hCtx : H264Context) (order : Pic → PicOrder) (slice : SliceLists)
    (defaults : Nat → List Reference) : Prop where
  entries : ∀ list, listOf (slice.defaultRefList list) (slice.nRefCount list) =
    (initialList (slice.nRefCount list) (defaults list)).map (entryOf hCtx order)
  listed : ∀ list, ∀ ref ∈ defaults list, Listed hCtx ref
  different : ∀ list, (defaults list).Pairwise fun one other => sameNumber hCtx one other = false

def commandsOf (slice : SliceLists) (list : Nat) : List ReorderCode := (slice.codes list).getD []

def clauseList (hCtx : H264Context) (slice : SliceLists) (defaults : Nat → List Reference)
    (list : Nat) (refs : List Reference) : List (Option Reference) :=
  modified hCtx (slice.nRefCount list) 0 refs
    (initialList (slice.nRefCount list) (defaults list))

/-- The slice has the lists of the clause, and is rejected where a command names no reference
picture. -/
structure ReorderingClause (hCtx : H264Context) (order : Pic → PicOrder) (slice : SliceLists)
    (defaults : Nat → List Reference) (refList : Nat → RefList) : Prop where
  inside : sliceHeaderLists hCtx order slice refList ≠ none
  lists : ∀ named : Nat → List Reference, (∀ list, list < slice.nListCount →
      NamesAll hCtx (CurrPicNum hCtx) (commandsOf slice list) (named list)) →
    ∃ logged after, sliceHeaderLists hCtx order slice refList = some (.goesOn logged after) ∧
      ∀ list, list < slice.nListCount → listOf (after list) (slice.nRefCount list) =
        (clauseList hCtx slice defaults list (named list)).map (entryOf hCtx order)
  rejects : (∃ list, list < slice.nListCount ∧ ∀ refs,
      ¬ NamesAll hCtx (CurrPicNum hCtx) (commandsOf slice list) refs) →
    sliceHeaderLists hCtx order slice refList = some .rejected

theorem initial_tail (defaultLists : DefaultLists hCtx order slice defaults) (list length : Nat) :
    Tail hCtx (initialList length (defaults list)) := by
  unfold initialList
  rw [take_append, ← map_take, length_map, take_replicate]
  refine ⟨(defaults list).take length, _, rfl, ?_, ?_⟩
  · intro ref member
    exact defaultLists.listed list ref (mem_of_mem_take member)
  · exact (defaultLists.different list).sublist (take_sublist _ _)

theorem initial_length (length : Nat) (refs : List Reference) :
    (initialList length refs).length = length := by
  unfold initialList
  rw [length_take, length_append, length_replicate]
  omega

theorem reorder_list_clause (context : SliceContext hCtx) (coded : SliceSyntax slice)
    (defaultLists : DefaultLists hCtx order slice defaults) (list : Nat) (refList : RefList)
    {refs : List Reference}
    (names : NamesAll hCtx (CurrPicNum hCtx) (commandsOf slice list) refs) :
    ∃ after, reorderList hCtx order slice list refList = some (0, after) ∧
      listOf after (slice.nRefCount list) =
        (clauseList hCtx slice defaults list refs).map (entryOf hCtx order) := by
  have count := coded.counts list
  have size : slice.nRefCount list ≤ REF_LIST_SIZE := Nat.le_trans count (by decide)
  rcases slice_numbers context with ⟨bits, nums⟩
  let copied : RefList := fun i =>
    if i < slice.nRefCount list then slice.defaultRefList list i else refList i
  have copies : copyDefault slice list refList = some copied := if_neg (by omega)
  have same : listOf copied (slice.nRefCount list) =
      listOf (slice.defaultRefList list) (slice.nRefCount list) := by
    apply map_congr_left
    intro i member
    exact if_pos (mem_range.mp member)
  have reads : Reads hCtx order copied (slice.nRefCount list) 0
      (initialList (slice.nRefCount list) (defaults list)) :=
    ⟨initial_length _ _, same.trans (defaultLists.entries list), initial_tail defaultLists list _⟩
  unfold reorderList
  rw [copies, bind_some]
  unfold commandsOf at names
  cases commands : slice.codes list with
  | none =>
    rw [commands] at names
    cases names
    exact ⟨copied, rfl, reads.entries⟩
  | some codes =>
    rw [commands] at names
    exact reorder_from_reads context nums slice size nums.cur (coded.codes list codes commands).1
      reads names

theorem reorder_lists_clause (context : SliceContext hCtx) (coded : SliceSyntax slice)
    (defaultLists : DefaultLists hCtx order slice defaults) {named : Nat → List Reference}
    {left list : Nat} (last : list + left ≤ 2) (refList : Nat → RefList)
    (names : ∀ other, list ≤ other → other < list + left →
      NamesAll hCtx (CurrPicNum hCtx) (commandsOf slice other) (named other)) :
    ∃ after, reorderLists hCtx order slice left list refList = some (0, after) ∧
      (∀ other, other < list → after other = refList other) ∧
      ∀ other, list ≤ other → other < list + left → listOf (after other) (slice.nRefCount other) =
          (clauseList hCtx slice defaults other (named other)).map (entryOf hCtx order) := by
  induction left generalizing list refList with
  | zero => exact ⟨refList, rfl, fun _ _ => rfl, fun other low high => by omega⟩
  | succ left later =>
    rcases reorder_list_clause context coded defaultLists list (refList list)
      (names list (Nat.le_refl _) (by omega)) with ⟨here, reorder, clause⟩
    rcases @later (list + 1) (by omega) (update refList list here)
      (fun other low high => names other (by omega) (by omega)) with ⟨after, rest, before, lists⟩
    refine ⟨after, ?_, ?_, ?_⟩
    · unfold reorderLists
      rw [if_neg (by omega), reorder, bind_some]
      exact rest
    · intro other below
      rw [before other (by omega), update_of_ne (by omega)]
    · intro other low high
      by_cases same : other = list
      · rw [same, before list (by omega), update_self]
        exact clause
      · exact lists other (by omega) (by omega)

theorem slice_header_not_rejected (refList : Nat → RefList) :
    sliceHeaderLists hCtx order slice refList ≠ some .rejected := by
  unfold sliceHeaderLists
  cases H264DecodeRefPicListReordering hCtx order slice refList with
  | none | some result => exact fun never => by cases never

theorem slice_lists_clause (context : SliceContext hCtx) (coded : SliceSyntax slice)
    (defaultLists : DefaultLists hCtx order slice defaults) (refList : Nat → RefList)
    {named : Nat → List Reference} (names : ∀ list, list < slice.nListCount →
      NamesAll hCtx (CurrPicNum hCtx) (commandsOf slice list) (named list)) :
    ∃ logged after, sliceHeaderLists hCtx order slice refList = some (.goesOn logged after) ∧
      ∀ list, list < slice.nListCount → listOf (after list) (slice.nRefCount list) =
        (clauseList hCtx slice defaults list (named list)).map (entryOf hCtx order) := by
  have two := coded.lists
  rcases @reorder_lists_clause hCtx order slice defaults context coded defaultLists named
    slice.nListCount 0 (by omega) refList (fun list _ below => names list (by omega)) with
    ⟨after, reorder, _, lists⟩
  by_cases intra : slice.bIntra = true
  · have none_listed := coded.intra intra
    refine ⟨false, refList, ?_, fun list below => by omega⟩
    unfold sliceHeaderLists H264DecodeRefPicListReordering
    rw [if_pos intra]
    rfl
  · refine ⟨false, after, ?_, fun list below => lists list (Nat.zero_le _) (by omega)⟩
    unfold sliceHeaderLists H264DecodeRefPicListReordering
    rw [if_neg intra, reorder]
    rfl

/-- The slice meets the clause exactly where every command names a reference picture. -/
theorem reordering_clause_iff (hCtx : H264Context) (order : Pic → PicOrder) (slice : SliceLists)
    (defaults : Nat → List Reference) (refList : Nat → RefList) (context : SliceContext hCtx)
    (coded : SliceSyntax slice) (defaultLists : DefaultLists hCtx order slice defaults) :
    ReorderingClause hCtx order slice defaults refList ↔ ∀ list, list < slice.nListCount →
        ∃ refs, NamesAll hCtx (CurrPicNum hCtx) (commandsOf slice list) refs := by
  constructor
  · intro clause list below
    by_contra unnamed
    have rejected := clause.rejects ⟨list, below, fun refs names => unnamed ⟨refs, names⟩⟩
    exact slice_header_not_rejected refList rejected
  · intro all
    constructor
    · have pick : ∀ list, ∃ refs, list < slice.nListCount →
          NamesAll hCtx (CurrPicNum hCtx) (commandsOf slice list) refs := by
        intro list
        by_cases below : list < slice.nListCount
        · rcases all list below with ⟨refs, names⟩
          exact ⟨refs, fun _ => names⟩
        · exact ⟨[], fun inside => absurd inside below⟩
      rcases Classical.skolem.mp pick with ⟨named, names⟩
      rcases slice_lists_clause context coded defaultLists refList names with
        ⟨logged, after, header, _⟩
      rw [header]
      exact some_ne_none _
    · intro named names
      exact slice_lists_clause context coded defaultLists refList names
    · rintro ⟨list, below, unnamed⟩
      rcases all list below with ⟨refs, names⟩
      exact absurd names (unnamed refs)

/-- Two frames before the current one are references, the nearer one first. -/
def twoFrames : H264Context :=
  { H264Context.init with
    picture := fun pic => ⟨pic.val, false, 3, true, false, false⟩
    pShortRef := fun i =>
      if i = 0 then some (1 : Fin 32) else if i = 1 then some (0 : Fin 32) else none
    nShortRefCount := 2
    nCurPicNum := 2
    nMaxPicNum := 16 }

def frameOrder (pic : Pic) : PicOrder := ⟨pic.val, pic.val, pic.val, 3, pic.val⟩

def nearer : Reference := ⟨(1 : Fin 32), 3, none⟩
def farther : Reference := ⟨(0 : Fin 32), 3, none⟩

def twoDefaults (_ : Nat) : List Reference := [nearer, farther]

def oneCommand (value : UInt32) : SliceLists :=
  { bIntra := false
    nListCount := 1
    nRefCount := fun _ => 2
    defaultRefList := fun _ i =>
      if i = 0 then entryOf twoFrames frameOrder (some nearer)
      else entryOf twoFrames frameOrder (some farther)
    codes := fun _ => some [⟨0, value⟩]
    pMajorRefFrame := none }

theorem two_frames_slots {i : Nat} {pic : Pic} (held : twoFrames.pShortRef i = some pic) :
    (i = 0 ∧ pic = (1 : Fin 32)) ∨ (i = 1 ∧ pic = (0 : Fin 32)) := by
  unfold twoFrames at held
  dsimp only at held
  split_ifs at held with first second
  · exact .inl ⟨first, (Option.some.inj held).symm⟩
  · exact .inr ⟨second, (Option.some.inj held).symm⟩

theorem two_frames_context : SliceContext twoFrames where
  header := ⟨2, 4, by decide, by decide, rfl⟩
  count := by decide
  short := by
    intro i below
    have two : i < 2 := below
    by_cases first : i = 0
    · exact ⟨_, if_pos first⟩
    · have second : i = 1 := by omega
      rw [second]
      exact ⟨_, rfl⟩
  frames := by
    intro i pic _ held
    rcases two_frames_slots held with ⟨_, rfl⟩ | ⟨_, rfl⟩ <;> decide
  distinct := by
    intro i j one other _ _ left right same
    rcases two_frames_slots left with ⟨rfl, rfl⟩ | ⟨rfl, rfl⟩ <;>
      rcases two_frames_slots right with ⟨rfl, rfl⟩ | ⟨rfl, rfl⟩
    · rfl
    · exact absurd same (by decide)
    · exact absurd same (by decide)
    · rfl
  long := by
    intro i pic held
    cases held

theorem one_command_coded (value : UInt32) : SliceSyntax (oneCommand value) where
  lists := (by decide : 1 ≤ 2)
  intra := fun never => by cases never
  counts := fun _ => (by decide : 2 ≤ 32)
  codes := by
    intro list codes isCodes
    have same : [⟨0, value⟩] = codes := Option.some.inj isCodes
    rw [← same]
    apply And.intro (show 1 ≤ 2 by decide)
    intro code member
    rw [mem_singleton.mp member]
    exact show (0 : UInt32) < 3 by decide

theorem one_command_defaults (value : UInt32) :
    DefaultLists twoFrames frameOrder (oneCommand value) twoDefaults where
  entries := fun _ => rfl
  listed := by
    intro _ ref member
    have either : ref = nearer ∨ ref = farther := by simpa [twoDefaults] using member
    rcases either with rfl | rfl
    all_goals exact ⟨by decide, fun _ => by decide, fun i long => by cases long⟩
  different := fun _ => show [nearer, farther].Pairwise fun one other =>
    sameNumber twoFrames one other = false by decide

/-- The command with the difference two moves the farther frame to the front. -/
theorem farther_frame_first :
    ReorderingClause twoFrames frameOrder (oneCommand 1) twoDefaults (fun _ _ => .zero) ∧
      clauseList twoFrames (oneCommand 1) twoDefaults 0 [farther] =
        [some farther, some nearer] := by
  have reference : IsReference twoFrames farther :=
    ⟨by decide, by decide, fun _ => ⟨rfl, rfl, 1, by decide, rfl⟩, fun i long => by cases long⟩
  have names : NamesAll twoFrames (CurrPicNum twoFrames) (commandsOf (oneCommand 1) 0) [farther] :=
    .shortTerm (by decide) (by decide) reference rfl (by decide) (.nil _)
  apply And.intro _ (by decide)
  apply (reordering_clause_iff twoFrames frameOrder (oneCommand 1) twoDefaults (fun _ _ => .zero)
    two_frames_context (one_command_coded 1) (one_command_defaults 1)).mpr
  intro list below
  have first : list = 0 := Nat.lt_one_iff.mp below
  rw [first]
  exact ⟨[farther], names⟩

/-- A command that leads to frame 11, which no reference has, is refused with 251; the caller
goes on. -/
theorem unnamed_picture_accepted : SliceContext twoFrames ∧ SliceSyntax (oneCommand 6) ∧
      DefaultLists twoFrames frameOrder (oneCommand 6) twoDefaults ∧
      (H264DecodeRefPicListReordering twoFrames frameOrder (oneCommand 6)
        (fun _ _ => .zero)).map Prod.fst = some VRESULT_ERR_FAIL ∧
      ¬ ReorderingClause twoFrames frameOrder (oneCommand 6) twoDefaults (fun _ _ => .zero) := by
  refine ⟨two_frames_context, one_command_coded 6, one_command_defaults 6, by decide, ?_⟩
  intro clause
  apply slice_header_not_rejected (fun _ _ => .zero) (clause.rejects ⟨0, by decide, _⟩)
  intro refs names
  cases names with
  | @shortTerm _ _ _ ref _ isShort range isReference short number later =>
    rcases isReference.short short with ⟨_, _, i, _, held⟩
    unfold PicNum FrameNumWrap numberOf at number
    rw [if_neg (by decide)] at number
    rcases two_frames_slots held with ⟨_, here⟩ | ⟨_, here⟩
    all_goals
      rw [here] at number
      exact absurd number (by decide)
  | longTerm isLong isReference long number later => exact absurd isLong (by decide)

end CedarC.H264ReorderingClause
