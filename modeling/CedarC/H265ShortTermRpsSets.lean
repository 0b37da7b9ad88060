import CedarC.ArrayPasses
import CedarC.H265RefPicSetClause

/-!
# One short-term reference picture set

The parser filters, sorts and flips where the clause merges. For a predicted
and for an explicit set this module says exactly when the stored arrays hold
the lists that the clause derives.
-/

namespace CedarC.H265ShortTermRpsSets

open FixedWidth ArrayPasses H265ShortTermRps H265RefPicSetClause List Option

def entry (pRps : HevcShortTermRPS) (i : Nat) : RpsEntry := (pRps.nDeltaPoc i, pRps.bUsed i)

structure StoredRps (pRps : HevcShortTermRPS) (set : RefPicSet) : Prop where
  negative : pRps.nNumNegativePics = set.s0.length
  total : pRps.nNumDeltaPocs = set.s0.length + set.s1.length
  entries : front (entry pRps) (set.s0.length + set.s1.length) = set.s0 ++ set.s1

section Arrays

@[simp] theorem entry_set_entry (pRps : HevcShortTermRPS) (k : Nat) (nDeltaPoc : Int)
    (bUsed : Bool) :
    entry (pRps.setEntry k nDeltaPoc bUsed) =
      Function.update (entry pRps) k (nDeltaPoc, bUsed) := by
  funext i
  by_cases here : i = k
  · subst here
    simp [entry, HevcShortTermRPS.setEntry]
  · simp [entry, HevcShortTermRPS.setEntry, here]

theorem entry_sink (nDeltaPoc : Int) (bUsed : Bool) (k : Nat) (pRps : HevcShortTermRPS) :
    entry (pRps.sinkEntry nDeltaPoc bUsed k) = sink Prod.fst (nDeltaPoc, bUsed) k (entry pRps) := by
  induction k generalizing pRps with
  | zero => rfl
  | succ k ih =>
    rw [HevcShortTermRPS.sinkEntry, sink]
    by_cases larger : nDeltaPoc < pRps.nDeltaPoc k
    · have larger' : (nDeltaPoc, bUsed).1 < (entry pRps k).1 := larger
      rw [if_pos larger, if_pos larger', ih, entry_set_entry, entry_set_entry]
      rfl
    · have larger' : ¬ (nDeltaPoc, bUsed).1 < (entry pRps k).1 := larger
      rw [if_neg larger, if_neg larger', ih]

theorem sink_counts (nDeltaPoc : Int) (bUsed : Bool) (k : Nat) (pRps : HevcShortTermRPS) :
    (pRps.sinkEntry nDeltaPoc bUsed k).nNumDeltaPocs = pRps.nNumDeltaPocs ∧
      (pRps.sinkEntry nDeltaPoc bUsed k).nNumNegativePics = pRps.nNumNegativePics := by
  induction k generalizing pRps with
  | zero => exact ⟨rfl, rfl⟩
  | succ k ih =>
    rw [HevcShortTermRPS.sinkEntry]
    split_ifs
    · exact ih _
    · exact ih _

variable {step : HevcShortTermRPS → Nat → HevcShortTermRPS}

theorem entry_foldl {pass : (Nat → RpsEntry) → Nat → Nat → RpsEntry}
    (commutes : ∀ pRps i, entry (step pRps i) = pass (entry pRps) i)
    (indices : List Nat) (pRps : HevcShortTermRPS) :
    entry (indices.foldl step pRps) = indices.foldl pass (entry pRps) := by
  induction indices generalizing pRps with
  | nil => rfl
  | cons i rest ih => rw [foldl_cons, foldl_cons, ih, commutes]

theorem counts_foldl (kept : ∀ pRps i, (step pRps i).nNumDeltaPocs = pRps.nNumDeltaPocs ∧
      (step pRps i).nNumNegativePics = pRps.nNumNegativePics)
    (indices : List Nat) (pRps : HevcShortTermRPS) :
    (indices.foldl step pRps).nNumDeltaPocs = pRps.nNumDeltaPocs ∧
      (indices.foldl step pRps).nNumNegativePics = pRps.nNumNegativePics := by
  induction indices generalizing pRps with
  | nil => exact ⟨rfl, rfl⟩
  | cons i rest ih =>
    rw [foldl_cons, (ih _).1, (ih _).2]
    exact kept pRps i

variable (pRps : HevcShortTermRPS)

include pRps

theorem entry_sort :
    entry pRps.sortEntries = sortFront Prod.fst pRps.nNumDeltaPocs.toNat (entry pRps) := by
  unfold HevcShortTermRPS.sortEntries
  split_ifs with empty
  · exact entry_foldl (fun pRps i => entry_sink _ _ _ _) _ _
  · rw [not_not.mp empty]
    rfl

theorem sort_counts : pRps.sortEntries.nNumDeltaPocs = pRps.nNumDeltaPocs ∧
      pRps.sortEntries.nNumNegativePics = pRps.nNumNegativePics := by
  unfold HevcShortTermRPS.sortEntries
  split_ifs
  · exact counts_foldl (fun _ _ => sink_counts _ _ _ _) _ _
  · exact ⟨rfl, rfl⟩

theorem entry_flip :
    entry pRps.flipNegative = flipFront pRps.nNumNegativePics.toNat (entry pRps) := by
  unfold HevcShortTermRPS.flipNegative
  split_ifs with half
  · apply entry_foldl
    intro pRps i
    rw [entry_set_entry, entry_set_entry]
    rfl
  · rw [flipFront, show pRps.nNumNegativePics.toNat / 2 = 0 by omega]
    rfl

theorem flip_counts : pRps.flipNegative.nNumDeltaPocs = pRps.nNumDeltaPocs ∧
      pRps.flipNegative.nNumNegativePics = pRps.nNumNegativePics := by
  unfold HevcShortTermRPS.flipNegative
  split_ifs
  · apply counts_foldl
    intro _ _
    exact ⟨rfl, rfl⟩
  · exact ⟨rfl, rfl⟩

omit pRps

def entryNegative (entry : RpsEntry) : Bool := isNegative entry.1

/-- Sorting and flipping put the negative entries first, largest delta first,
and the others behind them, smallest first. -/
theorem arranged_entries {pRps : HevcShortTermRPS} {count : Nat}
    (total : pRps.nNumDeltaPocs = count)
    (negative : pRps.nNumNegativePics = (front (entry pRps) count).countP entryNegative) :
    ∃ sorted : List RpsEntry, sorted.Perm (front (entry pRps) count) ∧
      sorted.Pairwise (fun left right => left.1 ≤ right.1) ∧
      front (entry pRps.sortEntries.flipNegative) count =
        (sorted.filter entryNegative).reverse ++ sorted.filter fun entry => !entryNegative entry := by
  have sort := @sort_front_sorted _ _ _ (Prod.fst : RpsEntry → Int) count (entry pRps)
  refine ⟨front (sortFront Prod.fst count (entry pRps)) count, sort.1, sort.2.1, ?_⟩
  have sameCount := sort.1.countP_eq entryNegative
  rw [entry_flip, (sort_counts pRps).2, entry_sort, total,
    negative, Int.toNat_natCast, Int.toNat_natCast, ← sameCount, front_flip_part]
  · have split := @split_sorted _ _ _ Prod.fst entryNegative _ ?_ sort.2.1
    · rw [split.1, split.2]
    · intro left right ordered low
      simp only [entryNegative, isNegative, decide_eq_true_eq] at low ⊢
      omega
  · exact le_trans countP_le_length (by simp)

end Arrays

section Predicted

variable (syn : RpsSyntax) (ref : RefPicSet)

def wrapped (entry : RpsEntry) : RpsEntry := (s32 entry.1, entry.2)

/-- The entries that the first `count` indices contribute, in the parser's order. -/
def selected (count : Nat) : List RpsEntry :=
  (List.range count).filterMap (predicted syn ref fun _ => true)

def refSize : Nat := ref.s0.length + ref.s1.length

/-- All entries of the predicted set before it is arranged. -/
def allSelected : List RpsEntry := selected syn ref (refSize ref + 1)

/-- No selected entry refers to the current picture or leaves the range of an
`int`, and there are not too many of them. -/
structure InterSafe : Prop where
  notCurrent : ∀ entry ∈ allSelected syn ref, entry.1 ≠ 0
  inRange : ∀ entry ∈ allSelected syn ref, InS32 entry.1
  bounded : (allSelected syn ref).length ≤ maxRpsEntries

theorem selected_succ (count : Nat) : selected syn ref (count + 1) =
      selected syn ref count ++ (predicted syn ref (fun _ => true) count).toList := by
  simp only [selected, List.range_succ, filterMap_append, filterMap_cons, filterMap_nil]
  cases predicted syn ref (fun _ => true) count <;> rfl

variable {syn} {ref}

theorem delta_rps_eq : deltaRps syn = s32 (clauseDeltaRps syn) := by
  simp only [deltaRps, clauseDeltaRps, s32]
  split_ifs <;> omega

variable {pRpsRidx pRps : HevcShortTermRPS} {j : Nat} {set : RefPicSet}

theorem stored_delta (stored : StoredRps pRps ref)
    (inside : j < refSize ref) : pRps.nDeltaPoc j = refDelta ref j := by
  have here : (front (entry pRps) (refSize ref))[j]? = some (entry pRps j) := by
    simp [front, inside]
  rw [refSize, stored.entries] at here
  simp [refDelta, here, entry]

theorem ref_delta_outside : refDelta ref (refSize ref) = 0 := ref_delta_self ref

theorem loop_delta (stored : StoredRps pRpsRidx ref) (inside : j ≤ refSize ref) :
    (if (j : Int) < pRpsRidx.nNumDeltaPocs then s32 (deltaRps syn + pRpsRidx.nDeltaPoc j)
      else deltaRps syn) = s32 (dPoc syn ref j) := by
  have total : pRpsRidx.nNumDeltaPocs = refSize ref := by
    rw [stored.total, refSize, Int.natCast_add]
  by_cases before : j < refSize ref
  · rw [if_pos (by omega), delta_rps_eq, stored_delta stored before, dPoc]
    unfold s32
    omega
  · obtain rfl : j = refSize ref := by omega
    rw [if_neg (by omega), delta_rps_eq, dPoc, ref_delta_outside, Int.zero_add]

/-- The loop has read `count` indices of the reference set. -/
structure LoopAt (syn : RpsSyntax) (ref : RefPicSet) (count : Nat) (s : PredictLoop) : Prop where
  counted : s.k = (selected syn ref count).length
  entries : front (entry s.pRps) s.k = (selected syn ref count).map wrapped
  negative : s.k0 = ((selected syn ref count).map wrapped).countP entryNegative

theorem predict_entry_step (stored : StoredRps pRpsRidx ref)
    (inside : j ≤ refSize ref) {s : PredictLoop} (here : LoopAt syn ref j s) :
    (s.k < rpsArraySize → ∃ next, predictEntry syn (deltaRps syn) pRpsRidx s j = some next) ∧
    ∀ next, predictEntry syn (deltaRps syn) pRpsRidx s j = some next →
      LoopAt syn ref (j + 1) next := by
  have bound := ref.bounded
  have inArray : ¬ ((j : Int) < pRpsRidx.nNumDeltaPocs ∧ rpsArraySize ≤ j) := by
    unfold rpsArraySize
    unfold maxRpsEntries at bound
    rw [stored.total]
    omega
  by_cases full : rpsArraySize ≤ s.k
  · constructor
    · omega
    · simp [predictEntry, full]
  have flag : (syn.usedByCurrPicFlag j ||
      (if syn.usedByCurrPicFlag j then s.bUseDeltaFlag else syn.useDeltaFlag j)) =
        useDelta syn j := by
    unfold useDelta
    cases syn.usedByCurrPicFlag j <;> rfl
  by_cases use : useDelta syn j = true
  · have added : predicted syn ref (fun _ => true) j =
        some (dPoc syn ref j, syn.usedByCurrPicFlag j) := by
      simp [predicted, use]
    have computed : predictEntry syn (deltaRps syn) pRpsRidx s j = some
        { pRps := s.pRps.setEntry s.k (s32 (dPoc syn ref j)) (syn.usedByCurrPicFlag j)
          k := s.k + 1
          k0 := if s32 (dPoc syn ref j) < 0 then s.k0 + 1 else s.k0
          bUseDeltaFlag :=
            if syn.usedByCurrPicFlag j then s.bUseDeltaFlag else syn.useDeltaFlag j } := by
      simp only [predictEntry, if_neg full, flag, use, if_true, if_neg inArray,
        loop_delta stored inside]
      rfl
    refine ⟨fun _ => ⟨_, computed⟩, ?_⟩
    intro next result
    obtain rfl := Option.some.inj (computed.symm.trans result)
    constructor
    · simp [selected_succ, added, here.counted]
    · rw [selected_succ, added, map_append, ← here.entries, front_succ, entry_set_entry,
        Function.update_self, front_update (Nat.le_refl _)]
      rfl
    · rw [selected_succ, added, map_append, countP_append, ← here.negative]
      by_cases negative : s32 (dPoc syn ref j) < 0
      all_goals simp [negative, entryNegative, isNegative, wrapped]
  · have omitted : predicted syn ref (fun _ => true) j = none := by simp [predicted, use]
    have computed : predictEntry syn (deltaRps syn) pRpsRidx s j = some
        { s with
          pRps :=
            { s.pRps with bUsed := Function.update s.pRps.bUsed s.k (syn.usedByCurrPicFlag j) }
          bUseDeltaFlag :=
            if syn.usedByCurrPicFlag j then s.bUseDeltaFlag else syn.useDeltaFlag j } := by
      simp only [predictEntry, if_neg full, flag, use, Bool.false_eq_true, if_false]
    refine ⟨fun _ => ⟨_, computed⟩, ?_⟩
    intro next result
    obtain rfl := Option.some.inj (computed.symm.trans result)
    have same : selected syn ref (j + 1) = selected syn ref j := by
      rw [selected_succ, omitted]
      exact append_nil _
    constructor
    · rw [same]
      exact here.counted
    · rw [same, ← here.entries]
      apply front_congr
      intro i below
      have different : i ≠ s.k := Nat.ne_of_lt below
      simp [entry, Function.update_of_ne different]
    · rw [same]
      exact here.negative

theorem selected_length_mono {earlier later : Nat} (ordered : earlier ≤ later) :
    (selected syn ref earlier).length ≤ (selected syn ref later).length := by
  induction later with
  | zero => rw [Nat.le_zero.mp ordered]
  | succ later ih =>
    rcases Nat.le_succ_iff.mp ordered with before | rfl
    · rw [selected_succ, length_append]
      exact le_trans (ih before) (Nat.le_add_right _ _)
    · exact Nat.le_refl _

theorem predict_loop {pRpsRidx pRps : HevcShortTermRPS} (stored : StoredRps pRpsRidx ref)
    {count : Nat} (inside : count ≤ refSize ref + 1) :
    ((selected syn ref count).length < rpsArraySize →
      ∃ s, (List.range count).foldlM (predictEntry syn (deltaRps syn) pRpsRidx)
        ⟨pRps, 0, 0, false⟩ = some s) ∧
    ∀ s, (List.range count).foldlM (predictEntry syn (deltaRps syn) pRpsRidx)
        ⟨pRps, 0, 0, false⟩ = some s → LoopAt syn ref count s := by
  induction count with
  | zero =>
    refine ⟨fun _ => ⟨_, rfl⟩, ?_⟩
    intro s result
    obtain rfl := Option.some.inj result
    exact ⟨rfl, rfl, rfl⟩
  | succ count ih =>
    have before := ih (by omega)
    rw [List.range_succ, List.foldlM_append]
    constructor
    · intro room
      have shorter := @selected_length_mono syn ref count (count + 1) (by omega)
      obtain ⟨s, reached⟩ := before.1 (by omega)
      have here := before.2 s reached
      obtain ⟨next, step⟩ := (predict_entry_step stored (by omega) here).1 (by
        rw [here.counted]
        omega)
      exact ⟨next, by simp [reached, step]⟩
    · intro final result
      simp only [bind_eq_bind, bind_eq_some_iff, foldlM_cons,
        List.foldlM_nil, Option.pure_def, Option.some.injEq, exists_eq_right] at result
      obtain ⟨s, reached, step⟩ := result
      exact (predict_entry_step stored (by omega) (before.2 s reached)).2 final step

theorem predict_set_arranged {pRpsRidx pRps : HevcShortTermRPS} (stored : StoredRps pRpsRidx ref) :
    ((allSelected syn ref).length < rpsArraySize →
      ∃ result, predictSet syn pRpsRidx pRps = some result) ∧
    ∀ result, predictSet syn pRpsRidx pRps = some result →
      ∃ sorted : List RpsEntry, sorted.Perm ((allSelected syn ref).map wrapped) ∧
        sorted.Pairwise (fun left right => left.1 ≤ right.1) ∧
        result.nNumDeltaPocs = (allSelected syn ref).length ∧
        result.nNumNegativePics = sorted.countP entryNegative ∧
        front (entry result) (allSelected syn ref).length = (sorted.filter entryNegative).reverse ++
            sorted.filter fun entry => !entryNegative entry := by
  have indices : (pRpsRidx.nNumDeltaPocs + 1).toNat = refSize ref + 1 := by
    rw [stored.total, refSize]
    omega
  have loop := @predict_loop syn ref pRpsRidx pRps stored (refSize ref + 1) (Nat.le_refl _)
  unfold predictSet
  rw [indices]
  constructor
  · intro room
    obtain ⟨s, reached⟩ := loop.1 room
    exact ⟨_, by rw [reached, map_some]⟩
  · intro result computed
    obtain ⟨s, reached, rfl⟩ := map_eq_some_iff.mp computed
    have here := loop.2 s reached
    have counted : s.k = (allSelected syn ref).length := here.counted
    obtain ⟨sorted, perm, ordered, arranged⟩ := @arranged_entries
      { s.pRps with nNumDeltaPocs := s.k, nNumNegativePics := s.k0 } _ rfl
      (by
        change (s.k0 : Int) = ((front (entry s.pRps) s.k).countP entryNegative : Nat)
        rw [here.entries, here.negative])
    have entries : front (entry { s.pRps with nNumDeltaPocs := s.k, nNumNegativePics := s.k0 })
        s.k = (allSelected syn ref).map wrapped := here.entries
    rw [entries] at perm
    refine ⟨sorted, perm, ordered, ?_, ?_, ?_⟩
    · rw [(flip_counts _).1, (sort_counts _).1, ← counted]
    · rw [(flip_counts _).2, (sort_counts _).2, perm.countP_eq, allSelected, ← here.negative]
    · rw [← counted]
      exact arranged

theorem predicted_sides_perm :
    (predictedS0 syn ref).Perm ((allSelected syn ref).filter entryNegative) ∧
      (predictedS1 syn ref).Perm
        ((allSelected syn ref).filter fun entry => isPositive entry.1) := by
  have sides : ∀ (side : Int → Bool) (indices : List Nat),
      indices.filterMap (predicted syn ref side) =
        (indices.filterMap (predicted syn ref fun _ => true)).filter fun entry => side entry.1 := by
    intro side indices
    rw [filter_filterMap]
    apply filterMap_congr
    intro j _
    by_cases use : useDelta syn j = true
    · simp [predicted, use, Option.filter]
    · simp [predicted, use]
  have perm : ((indicesDown ref).filterMap (predicted syn ref fun _ => true)).Perm
      (allSelected syn ref) := (indices_down_perm ref).filterMap _
  constructor
  · rw [predicted_s0_eq, sides]
    exact perm.filter _
  · rw [predicted_s1_eq, sides, filterMap_reverse]
    exact ((reverse_perm _).trans perm).filter _

theorem wrapped_of_range {entry : RpsEntry} (inRange : InS32 entry.1) : wrapped entry = entry := by
  rw [wrapped, s32_of_range inRange]

theorem predicted_set_lists (derived : predictedRefPicSet syn ref = some set) :
    set.s0 = predictedS0 syn ref ∧ set.s1 = predictedS1 syn ref := by
  unfold predictedRefPicSet at derived
  split_ifs at derived
  obtain rfl := Option.some.inj derived
  exact ⟨rfl, rfl⟩

theorem sides_length (entries : List RpsEntry) : entries.length = entries.countP entryNegative +
      entries.countP (fun entry => isPositive entry.1) +
      entries.countP (fun entry => decide (entry.1 = 0)) := by
  induction entries with
  | nil => rfl
  | cons first rest ih =>
    simp only [length_cons, countP_cons, entryNegative, isNegative, isPositive,
      decide_eq_true_eq] at ih ⊢
    split_ifs <;> omega

theorem predicted_lengths :
    (predictedS0 syn ref).length = (allSelected syn ref).countP entryNegative ∧
      (predictedS1 syn ref).length =
        (allSelected syn ref).countP fun entry => isPositive entry.1 := by
  have sides := @predicted_sides_perm syn ref
  rw [sides.1.length_eq, sides.2.length_eq, countP_eq_length_filter, countP_eq_length_filter]
  exact ⟨rfl, rfl⟩

theorem predicted_stored_safe {result : HevcShortTermRPS}
    (stored : StoredRps pRpsRidx ref) (computed : predictSet syn pRpsRidx pRps = some result)
    (derived : predictedRefPicSet syn ref = some set) (holds : StoredRps result set) :
    InterSafe syn ref := by
  obtain ⟨sorted, perm, -, total, -, arranged⟩ := (predict_set_arranged stored).2 result computed
  obtain ⟨s0, s1⟩ := predicted_set_lists derived
  have lengths := @predicted_lengths syn ref
  have count : (allSelected syn ref).length = set.s0.length + set.s1.length := by
    have sameTotal := holds.total
    omega
  have notCurrent : ∀ entry ∈ allSelected syn ref, entry.1 ≠ 0 := by
    have none : (allSelected syn ref).countP (fun entry => decide (entry.1 = 0)) = 0 := by
      have split := sides_length (allSelected syn ref)
      rw [s0, s1, lengths.1, lengths.2] at count
      omega
    intro entry member zero
    exact countP_eq_zero.mp none entry member (decide_eq_true zero)
  have sides := @predicted_sides_perm syn ref
  constructor
  · exact notCurrent
  · intro entry member
    -- the entry is in a list of the clause, so it is stored, so it was wrapped
    have inLists : entry ∈ set.s0 ++ set.s1 := by
      rw [s0, s1, mem_append, sides.1.mem_iff, sides.2.mem_iff, mem_filter, mem_filter]
      have nonzero := notCurrent entry member
      simp only [member, true_and, entryNegative, isNegative, isPositive, decide_eq_true_eq]
      omega
    rw [← holds.entries, ← count, arranged, mem_append, mem_reverse, mem_filter,
      mem_filter] at inLists
    have inSorted : entry ∈ sorted := inLists.elim And.left And.left
    obtain ⟨source, -, rfl⟩ := mem_map.mp (perm.mem_iff.mp inSorted)
    exact s32_range source.1
  · rw [count]
    exact set.bounded

theorem predicted_safe_stored (pRps : HevcShortTermRPS)
    (stored : StoredRps pRpsRidx ref) (safe : InterSafe syn ref) :
    ∃ result, predictSet syn pRpsRidx pRps = some result ∧
      ∃ set, predictedRefPicSet syn ref = some set ∧ StoredRps result set := by
  have bounded := safe.bounded
  have room : (allSelected syn ref).length < rpsArraySize := by
    unfold rpsArraySize
    unfold maxRpsEntries at bounded
    omega
  obtain ⟨result, computed⟩ := (@predict_set_arranged syn ref pRpsRidx pRps stored).1 room
  obtain ⟨sorted, perm, ordered, total, negative, arranged⟩ :=
    (predict_set_arranged stored).2 result computed
  have exact : (allSelected syn ref).map wrapped = allSelected syn ref := by
    rw [map_congr_left fun entry member => wrapped_of_range (safe.inRange entry member)]
    exact map_id' _
  rw [exact] at perm
  have sides := @predicted_sides_perm syn ref
  have lengths := @predicted_lengths syn ref
  have split := sides_length (allSelected syn ref)
  have noZero : (allSelected syn ref).countP (fun entry => decide (entry.1 = 0)) = 0 := by
    rw [countP_eq_zero]
    intro entry member zero
    exact safe.notCurrent entry member (of_decide_eq_true zero)
  have within : (predictedS0 syn ref).length + (predictedS1 syn ref).length ≤ maxRpsEntries := by
    omega
  have s0 : (sorted.filter entryNegative).reverse = predictedS0 syn ref := by
    apply @eq_of_perm_strict _ _ _ fun entry : RpsEntry => -entry.1
    · exact ((reverse_perm _).trans (perm.filter _)).trans sides.1.symm
    · rw [pairwise_reverse]
      exact (ordered.filter _).imp fun rises => by omega
    · exact predicted_s0_ordered.1.imp fun falls => by omega
  have s1 : (sorted.filter fun entry => !entryNegative entry) = predictedS1 syn ref := by
    have positive : (sorted.filter fun entry => !entryNegative entry) =
        sorted.filter fun entry => isPositive entry.1 := by
      apply filter_congr
      intro entry member
      have nonzero := safe.notCurrent entry (perm.mem_iff.mp member)
      simp only [entryNegative, isNegative, isPositive, ← decide_not, decide_eq_decide]
      omega
    rw [positive]
    exact eq_of_perm_strict ((perm.filter _).trans sides.2.symm) (ordered.filter _)
      predicted_s1_ordered.1
  refine ⟨result, computed, _, by rw [predictedRefPicSet, dif_pos within], ?_⟩
  constructor
  · rw [negative, lengths.1, perm.countP_eq]
  · rw [total]
    change _ = ((predictedS0 syn ref).length : Int) + (predictedS1 syn ref).length
    omega
  · change front (entry result) ((predictedS0 syn ref).length + (predictedS1 syn ref).length) = _
    rw [show (predictedS0 syn ref).length + (predictedS1 syn ref).length =
      (allSelected syn ref).length by omega, arranged, s0, s1]

end Predicted

/-- The counts are allowed and every delta is an `int`. -/
structure ExplicitSafe (syn : RpsSyntax) : Prop where
  counts : ExplicitCounts syn
  negativeRange : ∀ entry ∈ explicitS0 syn, InS32 entry.1
  positiveRange : ∀ entry ∈ explicitS1 syn, InS32 entry.1

def ExplicitRefused (syn : RpsSyntax) : Prop :=
  HEVC_MAX_REFS ≤ s32 syn.numNegativePics.toNat ∨ HEVC_MAX_REFS ≤ s32 syn.numPositivePics.toNat

/-- The delta that entry `count` is counted from. -/
def deltaBefore (sign : Int) (deltaPocMinus1 : Nat → UInt32) : Nat → Int
  | 0 => 0
  | i + 1 => accumulated sign deltaPocMinus1 i

theorem accumulated_eq (sign : Int) (deltaPocMinus1 : Nat → UInt32) (i : Nat) :
    accumulated sign deltaPocMinus1 i =
      deltaBefore sign deltaPocMinus1 i + sign * ((deltaPocMinus1 i).toNat + 1) := by
  cases i with
  | zero => rw [accumulated, deltaBefore, Int.zero_add]
  | succ i => rfl

theorem read_deltas {sign : Int} (unit : sign = 1 ∨ sign = -1) (deltaPocMinus1 : Nat → UInt32) (used : Nat → Bool)
    (pRps : HevcShortTermRPS) (offset count : Nat) (room : offset + count ≤ rpsArraySize) :
    ∃ result prev, (List.range count).foldlM (readDelta sign deltaPocMinus1 used offset)
        (pRps, 0) = some (result, prev) ∧
      prev = s32 (deltaBefore sign deltaPocMinus1 count) ∧
      result.nNumNegativePics = pRps.nNumNegativePics ∧
      result.nNumDeltaPocs = pRps.nNumDeltaPocs ∧
      front (entry result) (offset + count) =
        front (entry pRps) offset ++ (explicitList sign deltaPocMinus1 used count).map wrapped := by
  induction count with
  | zero => exact ⟨pRps, 0, rfl, rfl, rfl, rfl, by simp [explicitList]⟩
  | succ count ih =>
    obtain ⟨result, prev, reached, previous, negative, total, entries⟩ := ih (by omega)
    have next : s32 (prev + sign * s32 ((deltaPocMinus1 count).toNat + 1)) =
        s32 (accumulated sign deltaPocMinus1 count) := by
      rw [accumulated_eq, previous]
      unfold s32
      rcases unit with rfl | rfl <;> omega
    have inside : 0 ≤ (offset : Int) + count ∧ (offset : Int) + count < rpsArraySize := by omega
    have index : ((offset : Int) + count).toNat = offset + count := by omega
    refine ⟨result.setEntry (offset + count) (s32 (accumulated sign deltaPocMinus1 count))
      (used count), s32 (accumulated sign deltaPocMinus1 count), ?_, rfl, negative, total, ?_⟩
    · rw [List.range_succ, List.foldlM_append, reached]
      simp only [bind_eq_bind, bind_some, foldlM_cons, List.foldlM_nil,
        readDelta, next, if_pos inside, index, Option.pure_def]
    · rw [← Nat.add_assoc, front_succ, entry_set_entry, Function.update_self,
        front_update (Nat.le_refl _), entries, explicitList, explicitList, List.range_succ,
        map_append, map_append, append_assoc]
      rfl

variable {syn : RpsSyntax} {set : RefPicSet}

theorem explicit_refused (pRps : HevcShortTermRPS) (refused : ExplicitRefused syn) :
    ∃ result, explicitSet syn pRps = some result ∧ result.2 ≠ 0 := by
  refine ⟨({ pRps with nNumNegativePics := s32 syn.numNegativePics.toNat }, -1), ?_,
    show (-1 : Int) ≠ 0 by decide⟩
  unfold ExplicitRefused at refused
  simp only [explicitSet, if_pos refused]

theorem explicit_refused_underived (refused : ExplicitRefused syn) :
    explicitRefPicSet syn = none := by
  have negative := syn.numNegativePics.toNat_lt
  have positive := syn.numPositivePics.toNat_lt
  apply dif_neg
  intro counts
  unfold ExplicitRefused HEVC_MAX_REFS s32 at refused
  unfold ExplicitCounts maxRpsEntries at counts
  omega

theorem explicit_set_computed (pRps : HevcShortTermRPS) (counts : ExplicitCounts syn) :
    ∃ result, explicitSet syn pRps = some (result, 0) ∧
      result.nNumNegativePics = syn.numNegativePics.toNat ∧
      result.nNumDeltaPocs = syn.numNegativePics.toNat + syn.numPositivePics.toNat ∧
      front (entry result) (syn.numNegativePics.toNat + syn.numPositivePics.toNat) =
        (explicitS0 syn).map wrapped ++ (explicitS1 syn).map wrapped := by
  obtain ⟨fewNegative, fewPositive, few⟩ := counts
  unfold maxRpsEntries at fewNegative fewPositive few
  have negative : s32 syn.numNegativePics.toNat = syn.numNegativePics.toNat :=
    s32_of_range ⟨by omega, by omega⟩
  have positive : s32 syn.numPositivePics.toNat = syn.numPositivePics.toNat :=
    s32_of_range ⟨by omega, by omega⟩
  have total : s32 ((syn.numNegativePics.toNat : Int) + syn.numPositivePics.toNat) =
      syn.numNegativePics.toNat + syn.numPositivePics.toNat :=
    s32_of_range ⟨by omega, by omega⟩
  have accepted : ¬ (HEVC_MAX_REFS ≤ (syn.numNegativePics.toNat : Int) ∨
      HEVC_MAX_REFS ≤ (syn.numPositivePics.toNat : Int)) := by
    unfold HEVC_MAX_REFS
    omega
  simp only [explicitSet, negative, positive, total, if_neg accepted]
  by_cases empty : (syn.numNegativePics.toNat : Int) + syn.numPositivePics.toNat = 0
  · have noNegative : syn.numNegativePics.toNat = 0 := by omega
    have noPositive : syn.numPositivePics.toNat = 0 := by omega
    rw [if_neg (not_not.mpr empty)]
    refine ⟨_, rfl, rfl, rfl, ?_⟩
    simp [explicitS0, explicitS1, explicitList, noNegative, noPositive]
  · rw [if_pos empty]
    obtain ⟨lower, _, reached, -, lowerNegative, lowerTotal, lowerEntries⟩ :=
      read_deltas (Or.inr rfl) syn.deltaPocS0Minus1 syn.usedByCurrPicS0Flag
        { pRps with
          nNumNegativePics := syn.numNegativePics.toNat
          nNumDeltaPocs := syn.numNegativePics.toNat + syn.numPositivePics.toNat }
        0 syn.numNegativePics.toNat (by unfold rpsArraySize; omega)
    obtain ⟨result, _, reached', -, resultNegative, resultTotal, resultEntries⟩ :=
      read_deltas (Or.inl rfl) syn.deltaPocS1Minus1 syn.usedByCurrPicS1Flag lower
        syn.numNegativePics.toNat syn.numPositivePics.toNat (by unfold rpsArraySize; omega)
    refine ⟨result, ?_, ?_, ?_, ?_⟩
    · rw [Int.natCast_zero] at reached
      rw [Int.toNat_natCast, Int.toNat_natCast, reached, bind_some, reached', map_some]
    · rw [resultNegative, lowerNegative]
    · rw [resultTotal, lowerTotal]
    · rw [Nat.zero_add] at lowerEntries
      rw [resultEntries, lowerEntries, front_zero, nil_append, explicitS0, explicitS1]

theorem map_wrapped_eq_iff {entries : List RpsEntry} :
    entries.map wrapped = entries ↔ ∀ entry ∈ entries, InS32 entry.1 := by
  constructor
  · intro same entry member
    rw [← same] at member
    obtain ⟨source, -, rfl⟩ := mem_map.mp member
    exact s32_range source.1
  · intro inRange
    rw [map_congr_left fun entry member => wrapped_of_range (inRange entry member)]
    exact map_id' _

theorem explicit_set_lists (derived : explicitRefPicSet syn = some set) :
    ExplicitCounts syn ∧ set.s0 = explicitS0 syn ∧ set.s1 = explicitS1 syn := by
  unfold explicitRefPicSet at derived
  split_ifs at derived with counts
  obtain rfl := Option.some.inj derived
  exact ⟨counts, rfl, rfl⟩

theorem explicit_list_length (sign : Int) (deltaPocMinus1 : Nat → UInt32) (used : Nat → Bool)
    (count : Nat) : (explicitList sign deltaPocMinus1 used count).length = count := by
  simp [explicitList]

theorem explicit_stored_safe {pRps : HevcShortTermRPS} {result : HevcShortTermRPS × Int}
    (computed : explicitSet syn pRps = some result)
    (derived : explicitRefPicSet syn = some set) (holds : StoredRps result.1 set) :
    ExplicitSafe syn := by
  obtain ⟨counts, s0, s1⟩ := explicit_set_lists derived
  obtain ⟨stored, computed', -, -, entries⟩ := explicit_set_computed pRps counts
  obtain rfl := Option.some.inj (computed'.symm.trans computed)
  have lists := holds.entries
  rw [s0, s1, explicitS0, explicitS1, explicit_list_length, explicit_list_length, ← explicitS0,
    ← explicitS1, entries] at lists
  have sides := append_inj lists (by simp)
  exact ⟨counts, map_wrapped_eq_iff.mp sides.1, map_wrapped_eq_iff.mp sides.2⟩

theorem explicit_safe_stored (pRps : HevcShortTermRPS) (safe : ExplicitSafe syn) :
    ∃ result, explicitSet syn pRps = some (result, 0) ∧
      ∃ set, explicitRefPicSet syn = some set ∧ StoredRps result set := by
  obtain ⟨result, computed, negative, total, entries⟩ := explicit_set_computed pRps safe.counts
  rw [map_wrapped_eq_iff.mpr safe.negativeRange, map_wrapped_eq_iff.mpr safe.positiveRange]
    at entries
  refine ⟨result, computed, _, by rw [explicitRefPicSet, dif_pos safe.counts], ?_⟩
  constructor
  · simp only [negative, explicitS0, explicit_list_length]
  · simp only [total, explicitS0, explicitS1, explicit_list_length]
  · simp only [explicitS0, explicitS1, explicit_list_length] at entries ⊢
    exact entries

end CedarC.H265ShortTermRpsSets
