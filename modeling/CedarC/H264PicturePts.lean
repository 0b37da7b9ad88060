import CedarC.ExchangePasses
import Mathlib.Data.List.TakeWhile

/-!
# Time stamps among waiting pictures

The end of `H264CalculatePicturePts`: the time stamp of the current picture is exchanged
with those of the pictures that wait for their output, from the last one with count 0 on,
until the stamps rise with the counts. A picture without `pVPicture` ends the inner loop,
also when it has a scaled picture with a time stamp.
-/

namespace CedarC.H264PicturePts

open ExchangePasses List

section Source

/-- A decoded picture with the time stamps of its buffers, one of which it has. -/
structure H264PicInfo where
  nPoc : Int
  pVPicture : Option Int
  pScaleDownVPicture : Option Int
  held : (pScaleDownVPicture.isSome || pVPicture.isSome) = true

variable (pic : H264PicInfo)

/-- What `pPicPts` points to. -/
def H264PicInfo.nPts : Int := pic.pScaleDownVPicture.getD (pic.pVPicture.getD 0)

def H264PicInfo.setPts (nPts : Int) : H264PicInfo where
  nPoc := pic.nPoc
  pVPicture :=
    if pic.pScaleDownVPicture.isSome then pic.pVPicture else pic.pVPicture.map fun _ => nPts
  pScaleDownVPicture := pic.pScaleDownVPicture.map fun _ => nPts
  held := by
    have held := pic.held
    cases scaled : pic.pScaleDownVPicture.isSome with
    | true => rw [Option.isSome_map, scaled, Bool.true_or]
    | false =>
      rw [scaled, Bool.false_or] at held
      rw [if_neg Bool.false_ne_true, Option.isSome_map, Option.isSome_map, held, Bool.or_true]

/-- The stamps are exchanged when exactly one of the flags is set and the counts differ. -/
def exchanged (nPoc pts : Int) : Bool :=
  Bool.xor (decide (nPoc < pic.nPoc)) (decide (pts < pic.nPts)) && decide (nPoc ≠ pic.nPoc)

/-- The inner loop with the count and the time stamp that it holds. -/
def innerLoop (nPoc : Int) : Int → List H264PicInfo → Int × List H264PicInfo
  | pts, [] => (pts, [])
  | pts, pic :: rest =>
    if pic.pVPicture.isNone then (pts, pic :: rest)
    else if exchanged pic nPoc pts then
      ((innerLoop nPoc pic.nPts rest).1, pic.setPts pts :: (innerLoop nPoc pic.nPts rest).2)
    else ((innerLoop nPoc pts rest).1, pic :: (innerLoop nPoc pts rest).2)

def outerLoop : Nat → List H264PicInfo → List H264PicInfo
  | 0, pics => pics
  | _ + 1, [] => []
  | count + 1, pic :: rest =>
    pic.setPts (innerLoop pic.nPoc pic.nPts rest).1 ::
      outerLoop count (innerLoop pic.nPoc pic.nPts rest).2

/-- The loop down from `i - 1` for the last picture with count 0. -/
def idrSearch (pDelayedPic : List H264PicInfo) : Nat → Nat
  | 0 => 0
  | i + 1 =>
    if pDelayedPic[i]?.map H264PicInfo.nPoc = some 0 then i else idrSearch pDelayedPic i

def idrFrmIndex (pDelayedPic : List H264PicInfo) : Nat := idrSearch pDelayedPic pDelayedPic.length

def exchangePts (pCurPicture : H264PicInfo) (pDelayedPic : List H264PicInfo) :
    H264PicInfo × List H264PicInfo :=
  if pCurPicture.nPoc = 0 then (pCurPicture, pDelayedPic)
  else
    let pass := innerLoop pCurPicture.nPoc pCurPicture.nPts
      (pDelayedPic.drop (idrFrmIndex pDelayedPic))
    (pCurPicture.setPts pass.1,
      pDelayedPic.take (idrFrmIndex pDelayedPic) ++ outerLoop pass.2.length pass.2)

end Source

section Property

def entry (pic : H264PicInfo) : Int × Int := (pic.nPoc, pic.nPts)

def sinceReset (pDelayedPic : List H264PicInfo) : List H264PicInfo :=
  pDelayedPic.drop (idrFrmIndex pDelayedPic)

def allSinceReset (pCurPicture : H264PicInfo) (pDelayedPic : List H264PicInfo) : List H264PicInfo :=
  if pCurPicture.nPoc = 0 then [pCurPicture] else pCurPicture :: sinceReset pDelayedPic

variable (pCurPicture : H264PicInfo) (pDelayedPic : List H264PicInfo)

/-- The stamps of the pictures since the reset are permuted, nothing else changes, and they
rise with the counts if they did so before. -/
structure Reassociated : Prop where
  counts : (exchangePts pCurPicture pDelayedPic).1.nPoc = pCurPicture.nPoc ∧
    (exchangePts pCurPicture pDelayedPic).2.map H264PicInfo.nPoc = pDelayedPic.map H264PicInfo.nPoc
  before : (exchangePts pCurPicture pDelayedPic).2.take (idrFrmIndex pDelayedPic) =
    pDelayedPic.take (idrFrmIndex pDelayedPic)
  permuted : List.Perm
    ((allSinceReset (exchangePts pCurPicture pDelayedPic).1
      (exchangePts pCurPicture pDelayedPic).2).map H264PicInfo.nPts)
    ((allSinceReset pCurPicture pDelayedPic).map H264PicInfo.nPts)
  ordered : InOrder ((sinceReset pDelayedPic).map entry) →
    InOrder ((allSinceReset (exchangePts pCurPicture pDelayedPic).1
      (exchangePts pCurPicture pDelayedPic).2).map entry)

/-- The inner loop looks at the pictures before the first one without `pVPicture`. -/
def compared (pics : List H264PicInfo) : List H264PicInfo :=
  pics.takeWhile fun pic => pic.pVPicture.isSome

def skipped (pics : List H264PicInfo) : List H264PicInfo :=
  pics.dropWhile fun pic => pic.pVPicture.isSome

/-- Every picture that is not looked at is in order with the current one, or one that is
looked at stands in for it. -/
def SkippedInPlace : Prop :=
  ∀ pic ∈ skipped (sinceReset pDelayedPic),
    StandsBeside (entry pCurPicture) ((compared (sinceReset pDelayedPic)).map entry) (entry pic)

end Property

section Pictures

variable {pic : H264PicInfo}

@[simp] theorem set_pts_poc (pic : H264PicInfo) (nPts : Int) :
    (pic.setPts nPts).nPoc = pic.nPoc := rfl

@[simp] theorem set_pts_pts (pic : H264PicInfo) (nPts : Int) : (pic.setPts nPts).nPts = nPts := by
  have held := pic.held
  unfold H264PicInfo.nPts H264PicInfo.setPts
  dsimp only
  cases scaled : pic.pScaleDownVPicture with
  | some pts => rfl
  | none =>
    rw [scaled, Option.isSome_none, Bool.false_or] at held
    rcases Option.isSome_iff_exists.mp held with ⟨pts, there⟩
    rw [there]
    rfl

@[simp] theorem set_pts_picture (pic : H264PicInfo) (nPts : Int) :
    (pic.setPts nPts).pVPicture.isSome = pic.pVPicture.isSome := by
  unfold H264PicInfo.setPts
  dsimp only
  cases pic.pScaleDownVPicture.isSome with
  | true => rfl
  | false => rw [if_neg Bool.false_ne_true, Option.isSome_map]

theorem turn_exchange (nPoc pts : Int) (pic : H264PicInfo) : exchange (nPoc, pts) (entry pic) =
      if exchanged pic nPoc pts then ((nPoc, pic.nPts), entry (pic.setPts pts))
      else ((nPoc, pts), entry pic) := by
  unfold exchanged exchange entry
  rw [set_pts_poc, set_pts_pts]
  dsimp only
  rcases lt_trichotomy nPoc pic.nPoc with below | same | past
  · rw [if_pos below, decide_eq_true below, decide_eq_true (ne_of_lt below), Bool.true_xor,
      Bool.and_true]
    by_cases less : pts < pic.nPts
    · rw [decide_eq_true less, Bool.not_true, if_neg Bool.false_ne_true, min_eq_left less.le,
        max_eq_right less.le]
    · rw [decide_eq_false less, Bool.not_false, if_pos rfl, min_eq_right (not_lt.mp less),
        max_eq_left (not_lt.mp less)]
  · have first : ¬ nPoc < pic.nPoc := by omega
    have second : ¬ pic.nPoc < nPoc := by omega
    have equal : ¬ nPoc ≠ pic.nPoc := fun other => other same
    rw [if_neg first, if_neg second, decide_eq_false equal, Bool.and_false,
      if_neg Bool.false_ne_true]
  · have first : ¬ nPoc < pic.nPoc := by omega
    rw [if_neg first, if_pos past, decide_eq_false first, decide_eq_true (ne_of_gt past),
      Bool.false_xor, Bool.and_true]
    by_cases less : pts < pic.nPts
    · rw [decide_eq_true less, if_pos rfl, min_eq_left less.le, max_eq_right less.le]
    · rw [decide_eq_false less, if_neg Bool.false_ne_true, min_eq_right (not_lt.mp less),
        max_eq_left (not_lt.mp less)]

end Pictures

section Loops

variable {pics : List H264PicInfo}

theorem compared_skipped (pics : List H264PicInfo) : compared pics ++ skipped pics = pics :=
  takeWhile_append_dropWhile

theorem split_again {after : List H264PicInfo}
    (pictures : ∀ pic ∈ after, pic.pVPicture.isSome = true) :
    compared (after ++ skipped pics) = after ∧ skipped (after ++ skipped pics) = skipped pics := by
  have none : compared (skipped pics) = [] := by
    unfold compared skipped
    exact takeWhile_eq_nil_iff.mpr
      (dropWhile_get_zero_not (fun pic : H264PicInfo => pic.pVPicture.isSome) pics)
  have all : skipped (skipped pics) = skipped pics := by
    unfold skipped
    exact dropWhile_eq_self_iff.mpr
      (dropWhile_get_zero_not (fun pic : H264PicInfo => pic.pVPicture.isSome) pics)
  constructor
  · unfold compared at none ⊢
    rw [takeWhile_append_of_pos pictures, none, append_nil]
  · unfold skipped at all ⊢
    rw [dropWhile_append_of_pos pictures, all]

theorem inner_loop_pass (nPoc pts : Int) (pics : List H264PicInfo) :
    (nPoc, (innerLoop nPoc pts pics).1) =
        (ExchangePasses.pass (nPoc, pts) ((compared pics).map entry)).1 ∧
      ∃ after, (innerLoop nPoc pts pics).2 = after ++ skipped pics ∧
        after.map entry = (ExchangePasses.pass (nPoc, pts) ((compared pics).map entry)).2 ∧
        ∀ pic ∈ after, pic.pVPicture.isSome = true := by
  induction pics generalizing pts with
  | nil => exact ⟨rfl, [], rfl, rfl, fun pic member => (nomatch member)⟩
  | cons pic rest later =>
    unfold innerLoop
    by_cases there : pic.pVPicture.isSome = true
    · have head : compared (pic :: rest) = pic :: compared rest :=
        takeWhile_cons_of_pos there
      have tail : skipped (pic :: rest) = skipped rest := dropWhile_cons_of_pos there
      have present : ¬ pic.pVPicture.isNone = true := by
        rw [← Option.not_isSome, there]
        decide
      rw [if_neg present, head, tail, map_cons]
      unfold ExchangePasses.pass
      rw [turn_exchange]
      by_cases swapped : exchanged pic nPoc pts = true
      · rw [if_pos swapped, if_pos swapped]
        rcases later pic.nPts with ⟨held, after, loop, entries, pictures⟩
        apply And.intro held
        refine ⟨pic.setPts pts :: after, congrArg _ loop, ?_, ?_⟩
        · rw [map_cons, entries]
        · intro other member
          rcases mem_cons.mp member with rfl | member
          · rw [set_pts_picture, there]
          · exact pictures other member
      · rw [if_neg swapped, if_neg swapped]
        rcases later pts with ⟨held, after, loop, entries, pictures⟩
        apply And.intro held
        refine ⟨pic :: after, congrArg _ loop, ?_, ?_⟩
        · rw [map_cons, entries]
        · intro other member
          rcases mem_cons.mp member with rfl | member
          · exact there
          · exact pictures other member
    · have head : compared (pic :: rest) = [] := takeWhile_cons_of_neg there
      have tail : skipped (pic :: rest) = pic :: rest := dropWhile_cons_of_neg there
      rw [if_pos (Option.isNone_iff_eq_none.mpr (Option.not_isSome_iff_eq_none.mp there)), head,
        tail]
      exact ⟨rfl, [], rfl, rfl, fun pic member => (nomatch member)⟩

theorem inner_loop_length (nPoc pts : Int) (pics : List H264PicInfo) :
    (innerLoop nPoc pts pics).2.length = pics.length := by
  rcases (inner_loop_pass nPoc pts pics).2 with ⟨after, loop, entries, _⟩
  have size := congrArg List.length entries
  rw [length_map, pass_length, length_map] at size
  have whole := congrArg List.length (compared_skipped pics)
  rw [length_append] at whole
  rw [loop, length_append, size, whole]

theorem inner_loop_values (nPoc pts : Int) (pics : List H264PicInfo) :
    List.Perm ((innerLoop nPoc pts pics).1 :: (innerLoop nPoc pts pics).2.map H264PicInfo.nPts)
      (pts :: pics.map H264PicInfo.nPts) ∧
    (innerLoop nPoc pts pics).2.map H264PicInfo.nPoc = pics.map H264PicInfo.nPoc := by
  rcases inner_loop_pass nPoc pts pics with ⟨held, after, loop, entries, _⟩
  have stamps : ∀ list : List H264PicInfo,
      list.map H264PicInfo.nPts = (list.map entry).map Prod.snd := by
    intro list
    rw [map_map]
    rfl
  have counts : ∀ list : List H264PicInfo,
      list.map H264PicInfo.nPoc = (list.map entry).map Prod.fst := by
    intro list
    rw [map_map]
    rfl
  have stamp : (innerLoop nPoc pts pics).1 =
      (ExchangePasses.pass (nPoc, pts) ((compared pics).map entry)).1.2 := congrArg Prod.snd held
  constructor
  · have values := (pass_values (nPoc, pts) ((compared pics).map entry)).append_right
      ((skipped pics).map H264PicInfo.nPts)
    rw [← entries, ← stamp, ← stamps, ← stamps, cons_append, cons_append,
      ← map_append, ← map_append, ← loop, compared_skipped] at values
    exact values
  · have keys := (pass_keys (nPoc, pts) ((compared pics).map entry)).2
    rw [← entries, ← counts, ← counts] at keys
    rw [loop, map_append, keys, ← map_append, compared_skipped]

theorem outer_loop_values (count : Nat) (pics : List H264PicInfo) :
    List.Perm ((outerLoop count pics).map H264PicInfo.nPts) (pics.map H264PicInfo.nPts) ∧
      (outerLoop count pics).map H264PicInfo.nPoc = pics.map H264PicInfo.nPoc := by
  induction count generalizing pics with
  | zero => exact ⟨List.Perm.refl _, rfl⟩
  | succ count later =>
    cases pics with
    | nil => exact ⟨List.Perm.refl _, rfl⟩
    | cons pic rest =>
      have inner := inner_loop_values pic.nPoc pic.nPts rest
      have behind := later (innerLoop pic.nPoc pic.nPts rest).2
      unfold outerLoop
      rw [map_cons, map_cons, map_cons, map_cons, set_pts_pts, set_pts_poc, behind.2, inner.2]
      exact ⟨(behind.1.cons _).trans inner.1, rfl⟩

theorem outer_loop_in_order {count : Nat} (order : InOrder (pics.map entry)) :
    (outerLoop count pics).map entry = pics.map entry := by
  induction count generalizing pics with
  | zero => rfl
  | succ count later =>
    cases pics with
    | nil => rfl
    | cons pic rest =>
      rw [map_cons] at order
      have parts := pairwise_cons.mp order
      have agree : ∀ other ∈ (compared rest).map entry, Agree (pic.nPoc, pic.nPts) other := by
        intro other member
        rcases mem_map.mp member with ⟨one, listed, rfl⟩
        apply parts.1
        apply mem_map_of_mem
        rw [← compared_skipped rest]
        exact mem_append_left _ listed
      rcases inner_loop_pass pic.nPoc pic.nPts rest with ⟨held, after, loop, entries, _⟩
      rw [pass_agree agree] at held entries
      have same : (innerLoop pic.nPoc pic.nPts rest).2.map entry = rest.map entry := by
        rw [loop, map_append, entries, ← map_append, compared_skipped]
      have stamp : (innerLoop pic.nPoc pic.nPts rest).1 = pic.nPts := congrArg Prod.snd held
      unfold outerLoop
      rw [map_cons, map_cons, later (by rw [same]; exact parts.2), same, stamp]
      unfold entry
      rw [set_pts_poc, set_pts_pts]

/-- What the outer loop makes of the pictures: all passes over those before the first one
without `pVPicture`, while those behind it are in order and stay. -/
def MakesPasses (count : Nat) : Prop :=
  ∀ pics : List H264PicInfo, pics.length = count → InOrder ((skipped pics).map entry) →
    (outerLoop count pics).map entry =
      exchangeSort ((compared pics).map entry) ++ (skipped pics).map entry

/-- The first picture is held against those behind it whether it has a `pVPicture` or not. -/
theorem outer_loop_first {count : Nat} (behind : MakesPasses count) (pic : H264PicInfo)
    (size : pics.length = count) (order : InOrder ((skipped pics).map entry)) :
    (outerLoop (count + 1) (pic :: pics)).map entry =
      exchangeSort (entry pic :: (compared pics).map entry) ++ (skipped pics).map entry := by
  rcases inner_loop_pass pic.nPoc pic.nPts pics with ⟨held, after, loop, entries, pictures⟩
  have again := @split_again pics after pictures
  have short : (after ++ skipped pics).length = count := by rw [← loop, inner_loop_length, size]
  have later := behind _ short (by rw [again.2]; exact order)
  rw [again.1, again.2, entries] at later
  have first : entry (pic.setPts (innerLoop pic.nPoc pic.nPts pics).1) =
      (ExchangePasses.pass (entry pic) ((compared pics).map entry)).1 := by
    have value : entry (pic.setPts (innerLoop pic.nPoc pic.nPts pics).1) =
        (pic.nPoc, (innerLoop pic.nPoc pic.nPts pics).1) := by
      unfold entry
      rw [set_pts_poc, set_pts_pts]
    rw [value, held]
    rfl
  unfold exchangeSort at later ⊢
  rw [pass_length] at later
  unfold outerLoop
  rw [map_cons, loop, later, first]
  rfl

theorem outer_loop_passes (count : Nat) : MakesPasses count := by
  induction count with
  | zero =>
    intro pics size _
    rw [length_eq_zero_iff.mp size]
    rfl
  | succ count later =>
    intro pics size order
    cases pics with
    | nil => rfl
    | cons pic rest =>
      by_cases there : pic.pVPicture.isSome = true
      · have head : compared (pic :: rest) = pic :: compared rest :=
          takeWhile_cons_of_pos there
        have tail : skipped (pic :: rest) = skipped rest := dropWhile_cons_of_pos there
        rw [tail] at order ⊢
        rw [head, map_cons]
        exact outer_loop_first later pic (Nat.succ_inj.mp size) order
      · have head : compared (pic :: rest) = [] := takeWhile_cons_of_neg there
        have tail : skipped (pic :: rest) = pic :: rest := dropWhile_cons_of_neg there
        rw [tail] at order ⊢
        rw [head, outer_loop_in_order order]
        rfl

end Loops

variable {pCurPicture : H264PicInfo} {pDelayedPic : List H264PicInfo} {one other : List H264PicInfo}

theorem idr_search_counts
    (same : one.map H264PicInfo.nPoc = other.map H264PicInfo.nPoc) (count : Nat) :
    idrSearch one count = idrSearch other count := by
  induction count with
  | zero => rfl
  | succ i later =>
    have turn : one[i]?.map H264PicInfo.nPoc = other[i]?.map H264PicInfo.nPoc := by
      rw [← List.getElem?_map, ← List.getElem?_map, same]
    unfold idrSearch
    rw [turn, later]

theorem idr_counts (same : one.map H264PicInfo.nPoc = other.map H264PicInfo.nPoc) :
    idrFrmIndex one = idrFrmIndex other := by
  have size := congrArg List.length same
  rw [length_map, length_map] at size
  unfold idrFrmIndex
  rw [size, idr_search_counts same]

theorem idr_search_le (pics : List H264PicInfo) (count : Nat) : idrSearch pics count ≤ count := by
  induction count with
  | zero => exact Nat.le_refl _
  | succ i later =>
    unfold idrSearch
    split_ifs
    · exact Nat.le_succ i
    · exact Nat.le_succ_of_le later

theorem idr_before (pDelayedPic : List H264PicInfo) :
    (pDelayedPic.take (idrFrmIndex pDelayedPic)).length = idrFrmIndex pDelayedPic := by
  rw [length_take]
  exact Nat.min_eq_left (idr_search_le _ _)

def exchangedSinceReset (pCurPicture : H264PicInfo) (pDelayedPic : List H264PicInfo) :
    List H264PicInfo :=
  outerLoop ((sinceReset pDelayedPic).length + 1) (pCurPicture :: sinceReset pDelayedPic)

/-- The current picture goes through the loops like a first waiting one. -/
theorem exchange_pts_result (reset : pCurPicture.nPoc ≠ 0) :
    ∃ after : H264PicInfo × List H264PicInfo, exchangePts pCurPicture pDelayedPic =
        (after.1, pDelayedPic.take (idrFrmIndex pDelayedPic) ++ after.2) ∧
      after.1 :: after.2 = exchangedSinceReset pCurPicture pDelayedPic := by
  unfold exchangePts exchangedSinceReset
  rw [if_neg reset]
  refine ⟨(_, _), rfl, ?_⟩
  have size := inner_loop_length pCurPicture.nPoc pCurPicture.nPts (sinceReset pDelayedPic)
  unfold sinceReset at size ⊢
  dsimp only
  rw [size]
  rfl

theorem exchange_pts_counts : (exchangePts pCurPicture pDelayedPic).1.nPoc = pCurPicture.nPoc ∧
      (exchangePts pCurPicture pDelayedPic).2.map H264PicInfo.nPoc =
        pDelayedPic.map H264PicInfo.nPoc := by
  by_cases reset : pCurPicture.nPoc = 0
  · unfold exchangePts
    rw [if_pos reset]
    exact ⟨rfl, rfl⟩
  · rcases @exchange_pts_result _ pDelayedPic reset with ⟨after, loops, all⟩
    have counts := (outer_loop_values ((sinceReset pDelayedPic).length + 1)
      (pCurPicture :: sinceReset pDelayedPic)).2
    unfold exchangedSinceReset at all
    rw [← all, map_cons, map_cons] at counts
    rw [loops]
    constructor
    · exact (List.cons.inj counts).1
    · rw [map_append, (List.cons.inj counts).2, ← map_append]
      exact congrArg _ (take_append_drop _ _)

theorem all_since_exchanged (reset : pCurPicture.nPoc ≠ 0) :
    allSinceReset (exchangePts pCurPicture pDelayedPic).1
        (exchangePts pCurPicture pDelayedPic).2 =
      exchangedSinceReset pCurPicture pDelayedPic := by
  have counts := @exchange_pts_counts pCurPicture pDelayedPic
  unfold allSinceReset sinceReset
  rw [if_neg (by rw [counts.1]; exact reset), idr_counts counts.2]
  rcases @exchange_pts_result _ pDelayedPic reset with ⟨after, loops, all⟩
  rw [loops, ← all]
  dsimp only
  rw [drop_left' (idr_before pDelayedPic)]

/-- The stamps are always permuted; they rise with the counts again when every picture that
the loops do not look at stands in place. -/
theorem reassociated_iff : Reassociated pCurPicture pDelayedPic ↔
      (pCurPicture.nPoc ≠ 0 → InOrder ((sinceReset pDelayedPic).map entry) →
        SkippedInPlace pCurPicture pDelayedPic) := by
  by_cases reset : pCurPicture.nPoc = 0
  · apply iff_of_true _ fun other => absurd reset other
    have same : exchangePts pCurPicture pDelayedPic = (pCurPicture, pDelayedPic) := by
      unfold exchangePts
      rw [if_pos reset]
    constructor
    · exact exchange_pts_counts
    · rw [same]
    · rw [same]
    · intro _
      rw [same]
      unfold allSinceReset
      rw [if_pos reset]
      exact pairwise_singleton _ _
  · have sorted : InOrder ((sinceReset pDelayedPic).map entry) →
        (InOrder ((exchangedSinceReset pCurPicture pDelayedPic).map entry) ↔
          SkippedInPlace pCurPicture pDelayedPic) := by
      intro order
      have split : (sinceReset pDelayedPic).map entry =
          (compared (sinceReset pDelayedPic)).map entry ++
            (skipped (sinceReset pDelayedPic)).map entry := by
        rw [← map_append, compared_skipped]
      rw [split] at order
      have parts := pairwise_append.mp order
      unfold exchangedSinceReset SkippedInPlace
      rw [outer_loop_first (outer_loop_passes _) pCurPicture rfl parts.2.1,
        exchange_sort_beside_iff order]
      exact forall_mem_map
    constructor
    · intro result _ order
      have after := result.ordered order
      rw [all_since_exchanged reset] at after
      exact (sorted order).mp after
    · intro inPlace
      constructor
      · exact exchange_pts_counts
      · rcases @exchange_pts_result _ pDelayedPic reset with ⟨after, loops, _⟩
        rw [loops]
        exact take_left' (idr_before pDelayedPic)
      · rw [all_since_exchanged reset]
        unfold allSinceReset exchangedSinceReset
        rw [if_neg reset]
        exact (outer_loop_values _ _).1
      · intro order
        rw [all_since_exchanged reset]
        exact (sorted order).mpr (inPlace reset order)

/-- A waiting picture whose `pVPicture` has been given back, while its scaled picture is
still to be shown. -/
def scaledWaiting : H264PicInfo := ⟨4, none, some 40, rfl⟩

def current : H264PicInfo := ⟨2, some 50, some 50, rfl⟩

theorem scaled_not_exchanged : ¬ Reassociated current [scaledWaiting] := by
  intro result
  have after := result.ordered (pairwise_singleton _ _)
  have all : (allSinceReset (exchangePts current [scaledWaiting]).1
      (exchangePts current [scaledWaiting]).2).map entry = [(2, 50), (4, 40)] := rfl
  rw [all] at after
  have risen := in_order_mem after mem_cons_self
    (mem_cons_of_mem _ mem_cons_self) (by decide)
  exact absurd risen (by decide)

end CedarC.H264PicturePts
