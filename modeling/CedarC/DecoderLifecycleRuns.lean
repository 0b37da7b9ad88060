import CedarC.DecoderEngineBooks

/-!
# What a video decoder takes it gives back once

The books of a decoder over its calls: they are kept by every call whose failures, if
any, come where an engine half made or half reopened can stand them, and a destroyed
decoder owes nothing.
-/

namespace CedarC.DecoderLifecycle

open AllocationLedger GuardedRuns List Option

section Initialisation

variable {gVDecoderList : List VDecoderNode} {p : VideoDecoderContext} {engine : VideoEngine}
  {env : Env} {owed : List (Release Resource)}

theorem owed_of_engine (is : p.pVideoEngine = some engine) :
    owedDecoder p = owedContext p ++ owedEngine engine := by
  unfold owedDecoder
  rw [is]
  rfl

theorem owed_without_engine (is : p.pVideoEngine = none) : owedDecoder p = owedContext p := by
  unfold owedDecoder
  rw [is]
  exact append_nil _

theorem kept_decoder_call (kept : ContextKept gVDecoderList p env)
    (is : p.pVideoEngine = some engine) : Books (lockedDecoderCall engine env) 0 (owedDecoder p) := by
  obtain ⟨ready, _⟩ := kept.engine engine is
  apply books_decoder_call kept.books ready.ve ready.decoder
  all_goals
    intro release member
    rw [owed_of_engine is]
    simp [owedEngine, member]

def withSbm (slots : Pointer × Pointer) (second : Bool) (pSbm : Pointer) : Pointer × Pointer :=
  if second then (slots.1, pSbm) else (pSbm, slots.2)

def slotOf (slots : Pointer × Pointer) (second : Bool) : Pointer :=
  if second then slots.2 else slots.1

theorem owed_with_sbm (second : Bool) (pSbm : Pointer) (is : p.pVideoEngine = some engine)
    (free : slotOf engine.pSbm second = none) :
    (owedDecoder p ++ entry .sbm pSbm).Perm
      (owedContext p ++
        owedEngine { engine with pSbm := withSbm engine.pSbm second pSbm }) := by
  rw [owed_of_engine is, perm_iff_count]
  intro release
  cases second with
  | true =>
    change engine.pSbm.2 = none at free
    simp only [owedEngine, withSbm, free, entry, toList_none, map_nil,
      append_nil, count_append, if_true]
    omega
  | false =>
    change engine.pSbm.1 = none at free
    simp only [owedEngine, withSbm, free, entry, toList_none, map_nil,
      append_nil, count_append, Bool.false_eq_true, if_false]
    omega

theorem attach_kept (made initialised second : Bool) (kept : ContextKept gVDecoderList p env)
    (is : p.pVideoEngine = some engine) (free : slotOf p.pSbm second = none) :
    (∃ after, (attachSbm made initialised second p engine env).1 = p ∧
        (attachSbm made initialised second p engine env).2 = (after, false) ∧
        ContextKept gVDecoderList p after) ∨
    ∃ pSbm after, (attachSbm made initialised second p engine env).1 =
        { p with
          pVideoEngine := some { engine with pSbm := withSbm engine.pSbm second pSbm }
          pSbm := withSbm p.pSbm second pSbm
          nSbmNum := p.nSbmNum + 1 } ∧
      (attachSbm made initialised second p engine env).2 = (after, true) ∧
      ContextKept gVDecoderList
        { p with
          pVideoEngine := some { engine with pSbm := withSbm engine.pSbm second pSbm }
          pSbm := withSbm p.pSbm second pSbm
          nSbmNum := p.nSbmNum + 1 } after := by
  obtain ⟨ready, opened, same, firstFbm, secondFbm⟩ := kept.engine engine is
  have taken := books_acquire kept.books .sbm made
  unfold attachSbm
  generalize acquire .sbm made env = given at taken ⊢
  obtain ⟨after, pSbm⟩ := given
  obtain ⟨owes, given⟩ := taken
  dsimp only at owes given ⊢
  by_cases none_made : pSbm = none
  · left
    rw [if_pos none_made]
    refine ⟨after, rfl, rfl, ?_, kept.memops, kept.engine, kept.empty⟩
    rw [none_made] at owes
    change Books after 0 (owedDecoder p ++ []) at owes
    rwa [append_nil] at owes
  · rw [if_neg none_made]
    cases initialised with
    | false =>
      left
      rw [if_neg (by simp), touch_owed owes none_made fun release member =>
        mem_append_right _ member]
      exact ⟨_, rfl, rfl, books_release owes none_made perm_append_comm, kept.memops,
        kept.engine, kept.empty⟩
    | true =>
      right
      rw [if_pos rfl]
      have called := @books_decoder_call engine after _ owes ready.ve ready.decoder
        (by intro release member; rw [owed_of_engine is]; simp [owedEngine, member])
        (by intro release member; rw [owed_of_engine is]; simp [owedEngine, member])
      refine ⟨pSbm, lockedDecoderCall engine after, ?_, rfl, ?_, kept.memops, ?_, ?_⟩
      · simp [videoEngineSetSbm, withSbm]
      · exact called.reorder (owed_with_sbm second pSbm is (by rw [same]; exact free))
      · intro other again
        obtain rfl := Option.some.inj again
        refine ⟨⟨ready.veOps, ready.ve, ready.decoder, ready.length, ready.kind⟩, opened, ?_,
          firstFbm, secondFbm⟩
        change withSbm engine.pSbm second pSbm = withSbm p.pSbm second pSbm
        rw [same]
      · intro gone
        cases gone

theorem stream_info_saved {info : VideoStreamInfo} (granted : Bool) (books : Books env 0 owed) :
    ∃ after saved ok, saveStreamInfo granted info env = (after, saved, ok) ∧
      Books after 0 (owed ++ entry .csd saved.pCodecSpecificData) ∧
      (ok = true → (info.nCodecSpecificDataLen > 0 → granted = true) ∧
        saved = { info with pCodecSpecificData := saved.pCodecSpecificData } ∧
        (saved.pCodecSpecificData ≠ none ↔ info.nCodecSpecificDataLen > 0)) := by
  unfold saveStreamInfo
  by_cases long : info.nCodecSpecificDataLen > 0
  · rw [if_pos long]
    have taken := books_acquire books .csd granted
    generalize acquire .csd granted env = given at taken ⊢
    obtain ⟨after, pMem⟩ := given
    obtain ⟨owes, given⟩ := taken
    dsimp only at owes given ⊢
    cases pMem with
    | none =>
      refine ⟨after, _, false, rfl, owes, ?_⟩
      intro ok
      cases ok
    | some address =>
      refine ⟨after, _, true, rfl, owes, ?_⟩
      intro _
      exact ⟨fun _ => given.symm, rfl, fun _ => long, fun _ => some_ne_none _⟩
  · rw [if_neg long]
    refine ⟨env, _, true, rfl, ?_, ?_⟩
    · change Books env 0 (owed ++ [])
      rwa [append_nil]
    · intro _
      exact ⟨fun positive => absurd positive long, rfl, fun some_data => absurd rfl some_data,
        fun positive => absurd positive long⟩

theorem kept_without_engine (books : Books env 0 (owedContext p)) (is : p.pVideoEngine = none)
    (memops : p.memops = true ↔ p.opened ≠ none)
    (empty : p.pSbm = (none, none) ∧ p.pFbm = (none, none)) :
    ContextKept gVDecoderList p env := by
  refine ⟨by rwa [owed_without_engine is], memops, ?_, fun _ => empty⟩
  intro engine again
  cases is.symm.trans again

/-- What the condition says of a creation does not depend on where the data are. -/
theorem creation_sound_saved {answers : EngineAnswers} {info saved : VideoStreamInfo}
    (same : saved = { info with pCodecSpecificData := saved.pCodecSpecificData })
    (guard : CreationSound gVDecoderList answers info) :
    CreationSound gVDecoderList answers saved := by
  rw [same]
  exact guard

theorem kept_with_engine (books : Books env 0 (owedContext p ++ owedEngine engine))
    (ready : EngineReady gVDecoderList engine) (memops : p.memops = true ↔ p.opened ≠ none)
    (opened : p.opened ≠ none) (noSbm : engine.pSbm = (none, none))
    (empty : p.pSbm = (none, none) ∧ p.pFbm = (none, none)) :
    ContextKept gVDecoderList { p with pVideoEngine := some engine } env := by
  refine ⟨books, memops, ?_, ?_⟩
  · intro other again
    obtain rfl := Option.some.inj again
    refine ⟨ready, opened, noSbm.trans empty.1.symm, ?_, ?_⟩
    · left
      exact congrArg Prod.fst empty.2
    · left
      exact congrArg Prod.snd empty.2
  · intro gone
    cases gone

theorem attach_both_kept (first firstInit second secondInit : Bool) (third : Bool)
    (kept : ContextKept gVDecoderList p env) (is : p.pVideoEngine = some engine)
    (free : p.pSbm = (none, none)) :
    let attached := attachSbm first firstInit false p engine env
    let result :=
      if attached.2.2 ∧ third then
        match attached.1.pVideoEngine with
        | none => (attached.1, attached.2.1)
        | some engine =>
          let again := attachSbm second secondInit true attached.1 engine attached.2.1
          (again.1, again.2.1)
      else (attached.1, attached.2.1)
    ContextKept gVDecoderList result.1 result.2 := by
  dsimp only
  rcases attach_kept first firstInit false kept is (congrArg Prod.fst free) with
    ⟨after, same, ended, keptAfter⟩ | ⟨pSbm, after, same, ended, keptAfter⟩
  · rw [same, ended, if_neg (fun both => Bool.noConfusion both.1)]
    exact keptAfter
  · rw [same, ended]
    by_cases both : third = true
    · rw [if_pos ⟨rfl, both⟩]
      dsimp only
      have slot : slotOf (withSbm p.pSbm false pSbm) true = none := congrArg Prod.snd free
      rcases attach_kept second secondInit true keptAfter rfl slot with
        ⟨last, sameAgain, endedAgain, keptLast⟩ | ⟨other, last, sameAgain, endedAgain, keptLast⟩
      all_goals
        rw [sameAgain, endedAgain]
        exact keptLast
    · rw [if_neg (fun again => both again.2)]
      exact keptAfter

theorem initialise_kept {answers : InitAnswers} {info : VideoStreamInfo}
    (kept : ContextKept gVDecoderList p env)
    (fresh : p.memops = false ∧ p.pVideoEngine = none ∧ p.info.pCodecSpecificData = none)
    (guard : supported info → answers.memOpen = true ∧
      ((info.nCodecSpecificDataLen > 0 → answers.csd = true) → answers.engine.engine = true →
        CreationSound gVDecoderList answers.engine info)) :
    ContextKept gVDecoderList (initializeVideoDecoder gVDecoderList answers info p env).1
      (initializeVideoDecoder gVDecoderList answers info p env).2 := by
  obtain ⟨noMemops, noEngine, noData⟩ := fresh
  have empty := kept.empty noEngine
  unfold initializeVideoDecoder
  by_cases valid : supported info
  · obtain ⟨memOpen, creation⟩ := guard valid
    rw [if_pos valid, memOpen]
    have notOpened : p.opened = none := by
      by_contra opened
      rw [kept.memops.mpr opened] at noMemops
      cases noMemops
    have nothing : owedDecoder p = [] := by
      rw [owed_without_engine noEngine, owedContext, noData, notOpened]
      rfl
    have books := kept.books
    rw [nothing] at books
    have taken := books_acquire books .memops true
    generalize acquire .memops true env = given at taken ⊢
    obtain ⟨after, opened⟩ := given
    obtain ⟨owes, given⟩ := taken
    have there : opened ≠ none := isSome_iff_ne_none.mp given
    dsimp only at owes given ⊢
    rw [if_neg there]
    obtain ⟨saving, saved, ok, saves, owesData, isSaved⟩ :=
      @stream_info_saved _ _ info answers.csd owes
    rw [saves]
    dsimp only
    have books : Books saving 0 (owedContext { p with
        memops := true, opened := opened, info := saved }) :=
      owesData.reorder perm_append_comm
    have memops : (true = true ↔ opened ≠ none) := ⟨fun _ => there, fun _ => rfl⟩
    cases ok with
    | false =>
      rw [if_neg (by simp)]
      exact kept_without_engine books noEngine memops empty
    | true =>
      obtain ⟨granted, same, copied⟩ := isSaved rfl
      rw [if_pos rfl]
      have length : saved.nCodecSpecificDataLen = info.nCodecSpecificDataLen := by rw [same]
      rw [← length] at copied
      rcases @create_kept gVDecoderList answers.engine _ _ saved books copied
          (fun allocated => creation_sound_saved same (creation granted allocated)) with
        ⟨later, engine, created, ready, noSbm, owesEngine⟩ | ⟨later, created, settled⟩
      · rw [created]
        have keptEngine := kept_with_engine owesEngine ready memops there noSbm empty
        exact attach_both_kept answers.sbm.1 answers.sbmInit.1 answers.sbm.2 answers.sbmInit.2
          saved.bIs3DStream keptEngine rfl empty.1
      · rw [created]
        exact kept_without_engine settled noEngine memops empty
  · rw [if_neg valid]
    exact kept

theorem kept_with_books {after : Env} (kept : ContextKept gVDecoderList p env)
    (books : Books after 0 (owedDecoder p)) : ContextKept gVDecoderList p after :=
  ⟨books, kept.memops, kept.engine, kept.empty⟩

theorem touch_sbm_owed {pSbm : Pointer} (books : Books env 0 owed)
    (member : ∀ release ∈ entry .sbm pSbm, release ∈ owed) : touchSbm pSbm env = env := by
  unfold touchSbm
  by_cases there : pSbm = none
  · rw [if_neg (not_not_intro there)]
  · rw [if_pos there, touch_owed books there member]

theorem sbm_owed (kept : ContextKept gVDecoderList p env) (is : p.pVideoEngine = some engine)
    (second : Bool) :
    ∀ release ∈ entry .sbm (slotOf p.pSbm second), release ∈ owedDecoder p := by
  obtain ⟨_, _, same, _⟩ := kept.engine engine is
  intro release member
  rw [owed_of_engine is]
  rw [← same] at member
  cases second with
  | true => exact mem_append_right _ (mem_append_right _ member)
  | false =>
    apply mem_append_right
    apply mem_append_left
    exact mem_append_right _ member

theorem decode_kept (answers : DecodeAnswers) (kept : ContextKept gVDecoderList p env) :
    (decodeVideoStream answers p env).1 = p ∧
      ContextKept gVDecoderList p (decodeVideoStream answers p env).2 := by
  unfold decodeVideoStream
  cases is : p.pVideoEngine with
  | none => exact ⟨rfl, kept⟩
  | some engine =>
    obtain ⟨_, opened, _⟩ := kept.engine engine is
    have eos : (if answers.bEndOfStream = true then touchSbm p.pSbm.2 (touchSbm p.pSbm.1 env)
        else env) = env := by
      have first : touchSbm p.pSbm.1 env = env := touch_sbm_owed kept.books (sbm_owed kept is false)
      have second : touchSbm p.pSbm.2 env = env := touch_sbm_owed kept.books (sbm_owed kept is true)
      rw [first, second, ite_self]
    have adapter : ∀ after, Books after 0 (owedDecoder p) →
        (if p.info.bSecureStreamFlagLevel1 = true then touch .memops p.opened after
          else after) = after := by
      intro after books
      have there : touch .memops p.opened after = after := by
        apply touch_owed books opened
        intro release member
        rw [owed_of_engine is]
        exact mem_append_left _ (mem_append_right _ member)
      rw [there, ite_self]
    have decoded : Books (videoEngineDecode engine env) 0 (owedDecoder p) :=
      kept_decoder_call kept is
    have flushed : Books (videoEngineReset engine (videoEngineDecode engine env)) 0
        (owedDecoder p) := kept_decoder_call (kept_with_books kept decoded) is
    dsimp only
    rw [eos, adapter env kept.books, adapter _ decoded]
    split_ifs
    · exact ⟨rfl, kept_with_books kept flushed⟩
    · exact ⟨rfl, kept_with_books kept decoded⟩

theorem touch_decoder_owed (kept : ContextKept gVDecoderList p env)
    (is : p.pVideoEngine = some engine) : touch .decoder engine.pDecoderInterface env = env := by
  obtain ⟨ready, _⟩ := kept.engine engine is
  apply touch_owed kept.books ready.decoder
  intro release member
  rw [owed_of_engine is]
  simp [owedEngine, member]

theorem flush_fbm_kept (made : Bool) (kept : ContextKept gVDecoderList p env)
    (is : p.pVideoEngine = some engine) {cached : Pointer} (fbm : CachedFbm engine cached) :
    ∃ pFbm, flushFbm made p.pVideoEngine cached env = (pFbm, env) ∧ CachedFbm engine pFbm := by
  have there := touch_decoder_owed kept is
  obtain ⟨ready, _⟩ := kept.engine engine is
  unfold flushFbm
  rw [is]
  rcases fbm with none_cached | present
  · rw [none_cached]
    dsimp only
    rw [there]
    cases made with
    | true =>
      rw [if_pos rfl, if_pos ready.decoder, there]
      exact ⟨_, rfl, .inr rfl⟩
    | false => exact ⟨none, rfl, .inl rfl⟩
  · rw [present]
    obtain ⟨address, decoder⟩ := ne_none_iff_exists'.mp ready.decoder
    rw [decoder] at there ⊢
    dsimp only
    rw [if_pos (some_ne_none address), there]
    exact ⟨_, rfl, .inr decoder.symm⟩

theorem reset_kept (answers : ResetAnswers) (kept : ContextKept gVDecoderList p env) :
    ∃ nFbmNum pFbm, (resetVideoDecoder answers p env).1 =
        { p with nFbmNum := nFbmNum, pFbm := pFbm } ∧
      ContextKept gVDecoderList (resetVideoDecoder answers p env).1
        (resetVideoDecoder answers p env).2 := by
  unfold resetVideoDecoder
  cases is : p.pVideoEngine with
  | none =>
    obtain ⟨noSbm, noFbm⟩ := kept.empty is
    have idle : ∀ made, flushFbm made none none env = (none, env) := fun _ => rfl
    have noTouch : touchSbm none env = env := rfl
    dsimp only
    rw [noSbm, noFbm]
    simp only [idle, noTouch, ite_self]
    have books := kept.books
    rw [owed_without_engine is] at books
    exact ⟨p.nFbmNum, (none, none), rfl, kept_without_engine books rfl kept.memops ⟨rfl, rfl⟩⟩
  | some engine =>
    have keptReset : ContextKept gVDecoderList p (videoEngineReset engine env) :=
      kept_with_books kept (kept_decoder_call kept is)
    obtain ⟨ready, opened, same, firstFbm, secondFbm⟩ := kept.engine engine is
    have counted : ∃ nFbmNum, (if p.nFbmNum = 0 then
        (answers.nFbmNum, touch .decoder engine.pDecoderInterface (videoEngineReset engine env))
          else (p.nFbmNum, videoEngineReset engine env)) =
            (nFbmNum, videoEngineReset engine env) := by
      rw [touch_decoder_owed keptReset is]
      split_ifs
      · exact ⟨_, rfl⟩
      · exact ⟨_, rfl⟩
    obtain ⟨nFbmNum, counts⟩ := counted
    obtain ⟨one, flushOne, keptOne⟩ := flush_fbm_kept answers.fbm.1 keptReset is firstFbm
    obtain ⟨two, flushTwo, keptTwo⟩ := flush_fbm_kept answers.fbm.2 keptReset is secondFbm
    rw [is] at flushOne flushTwo
    have first : touchSbm p.pSbm.1 (videoEngineReset engine env) = videoEngineReset engine env :=
      touch_sbm_owed keptReset.books (sbm_owed keptReset is false)
    have second : touchSbm p.pSbm.2 (videoEngineReset engine env) = videoEngineReset engine env :=
      touch_sbm_owed keptReset.books (sbm_owed keptReset is true)
    dsimp only
    rw [counts]
    dsimp only
    rw [flushOne]
    have chosen : ∀ (test : Prop) [Decidable test] (pFbm cached : Pointer),
        (if test then (pFbm, videoEngineReset engine env)
          else (cached, videoEngineReset engine env)) =
          (if test then pFbm else cached, videoEngineReset engine env) := by
      intro test _ pFbm cached
      split_ifs
      · rfl
      · rfl
    rw [chosen]
    dsimp only
    rw [flushTwo, chosen]
    dsimp only
    rw [first, ite_self, second, ite_self]
    have books := keptReset.books
    rw [owed_of_engine is] at books
    refine ⟨nFbmNum, _, rfl, books, kept.memops, ?_, ?_⟩
    · intro other again
      obtain rfl := Option.some.inj again
      refine ⟨ready, opened, same, ?_, ?_⟩
      · dsimp only
        split_ifs
        · exact keptOne
        · exact firstFbm
      · dsimp only
        split_ifs
        · exact keptTwo
        · exact secondFbm
    · intro gone
      cases gone

end Initialisation

section Releasing

variable {gVDecoderList : List VDecoderNode} {p : VideoDecoderContext} {engine : VideoEngine}
  {env : Env} {locks : Int} {owed others : List (Release Resource)}

theorem books_release_some {pool : Resource} {pointer : Pointer} (books : Books env locks owed)
    (split : owed.Perm (entry pool pointer ++ others)) :
    Books (if pointer ≠ none then release pool pointer env else env) locks others := by
  by_cases there : pointer = none
  · rw [if_neg (not_not_intro there)]
    rw [there] at split
    exact books.reorder split
  · rw [if_pos there]
    exact books_release books there split

theorem books_release_sbm {pSbm : Pointer} (books : Books env locks owed)
    (split : owed.Perm (entry .sbm pSbm ++ others)) :
    Books (releaseSbm pSbm env) locks others := books_release_some books split

theorem codec_data_released
    (length : engine.info.pCodecSpecificData ≠ none → engine.info.nCodecSpecificDataLen > 0)
    (books : Books env locks (entry .csd engine.info.pCodecSpecificData ++ others)) :
    ∃ after, releaseCodecData engine env =
        ({ engine with info := { engine.info with pCodecSpecificData := none } }, after) ∧
      Books after locks others := by
  unfold releaseCodecData
  by_cases there : engine.info.pCodecSpecificData = none
  · rw [if_neg (fun both => both.1 there)]
    rw [there] at books
    refine ⟨env, ?_, books⟩
    rw [← there]
  · rw [if_pos ⟨there, length there⟩]
    exact ⟨_, rfl, books_release books there (List.Perm.refl _)⟩

theorem decoder_destroyed (decoder : engine.pDecoderInterface ≠ none)
    (books : Books env locks (entry .decoder engine.pDecoderInterface ++ others)) :
    Books (destroyDecoder engine env) locks others := by
  unfold destroyDecoder
  rw [touch_owed books decoder fun release member => mem_append_left _ member]
  exact books_release books decoder (List.Perm.refl _)

theorem engine_destroyed (ready : EngineReady gVDecoderList engine)
    (books : Books env 0 (owedEngine engine ++ others)) :
    Books (videoEngineDestroy engine env) 0 others := by
  have enabled := books_enable books ready.ve
    (by intro release member; simp [owedEngine, member])
  have decoderFirst : (owedEngine engine ++ others).Perm
      (entry .decoder engine.pDecoderInterface ++ (entry .sbm engine.pSbm.1 ++
        (entry .sbm engine.pSbm.2 ++ (entry .csd engine.info.pCodecSpecificData ++
          (entry .ve engine.pVeOpsSelf ++ others))))) := by
    rw [perm_iff_count]
    intro release
    simp only [owedEngine, count_append]
    omega
  have destroyed := decoder_destroyed ready.decoder (enabled.reorder decoderFirst)
  have firstSbm := books_release_sbm destroyed (List.Perm.refl _)
  have secondSbm := books_release_sbm firstSbm (List.Perm.refl _)
  have disabled := books_disable secondSbm ready.ve
    (by intro release member; simp [member])
  obtain ⟨after, released, settled⟩ := codec_data_released ready.length disabled
  unfold videoEngineDestroy
  dsimp only
  rw [released]
  dsimp only
  rw [if_pos ready.veOps]
  exact books_release settled ready.ve (List.Perm.refl _)

theorem engine_released (kept : ContextKept gVDecoderList p env) :
    Books (match p.pVideoEngine with
      | some engine => videoEngineDestroy engine env
      | none => env) 0 (owedContext p) := by
  have books := kept.books
  cases is : p.pVideoEngine with
  | none =>
    rw [owed_without_engine is] at books
    exact books
  | some engine =>
    obtain ⟨ready, _⟩ := kept.engine engine is
    rw [owed_of_engine is] at books
    exact engine_destroyed ready (books.reorder perm_append_comm)

theorem decoder_released (kept : ContextKept gVDecoderList p env) :
    Books (destroyVideoDecoder p env) 0 [] := by
  have withoutData := books_release_some (engine_released kept) (List.Perm.refl _)
  unfold destroyVideoDecoder
  by_cases memops : p.memops = true
  · rw [if_pos memops]
    apply books_release withoutData (kept.memops.mp memops)
    rw [append_nil]
  · rw [if_neg memops]
    have notOpened : p.opened = none := by
      by_contra opened
      exact memops (kept.memops.mpr opened)
    rw [notOpened] at withoutData
    exact withoutData

end Releasing

section Reopening

variable {gVDecoderList : List VDecoderNode} {p : VideoDecoderContext} {engine : VideoEngine}
  {env : Env} {owed : List (Release Resource)}

def owedRest (engine : VideoEngine) : List (Release Resource) :=
  entry .ve engine.pVeOpsSelf ++ entry .sbm engine.pSbm.1 ++ entry .sbm engine.pSbm.2

theorem codec_data_recopied {locks : Int} {answers : EngineAnswers} {info : VideoStreamInfo}
    (books : Books env locks owed)
    (given : hasCodecData info → answers.csd = true ∧ engine.info.nCodecSpecificDataLen > 0) :
    ∃ data after, recopyCodecData answers info engine env = ⟨{ engine with info := data }, after,
        true⟩ ∧ data.eCodecFormat = engine.info.eCodecFormat ∧
      (data.pCodecSpecificData ≠ none → data.nCodecSpecificDataLen > 0) ∧
      Books after locks (owed ++ entry .csd data.pCodecSpecificData) := by
  unfold recopyCodecData
  by_cases has : hasCodecData info
  · rw [if_pos has]
    obtain ⟨csd, long⟩ := given has
    rcases @codec_data_copied answers engine env owed locks info books with
      ⟨_, data, after, copies, _, owes⟩ | ⟨hasNot, _⟩
    · rw [copies, csd]
      exact ⟨_, after, rfl, rfl, fun _ => long, owes⟩
    · exact absurd has hasNot
  · rw [if_neg has]
    refine ⟨_, env, rfl, rfl, fun some_data => absurd rfl some_data, ?_⟩
    change Books env locks (owed ++ [])
    rwa [append_nil]

/-- A reopened engine has a decoder of the same kind, and owes what it took. -/
theorem reopened_kept {answers : EngineAnswers} {info : VideoStreamInfo}
    (ready : EngineReady gVDecoderList engine) (books : Books env 0 (owed ++ owedEngine engine))
    (small : ¬tooLarge answers info)
    (given : hasCodecData info → answers.csd = true ∧ engine.info.nCodecSpecificDataLen > 0)
    (found : (findDecoder gVDecoderList engine.info.eCodecFormat
      engine.bEnableGoogleVp9Flag).isSome = true) (made : answers.decoder = true) :
    ∃ next after, videoEngineReopen gVDecoderList answers info engine env =
        (next, after, answers.opened) ∧ EngineReady gVDecoderList next ∧
      next.pSbm = engine.pSbm ∧ Books after 0 (owed ++ owedEngine next) := by
  have enabled := books_enable books ready.ve
    (by intro release member; simp [owedEngine, member])
  have dataFirst : (owed ++ owedEngine engine).Perm
      (entry .csd engine.info.pCodecSpecificData ++ (entry .decoder engine.pDecoderInterface ++
        (owed ++ owedRest engine))) := by
    rw [perm_iff_count]
    intro release
    simp only [owedEngine, owedRest, count_append]
    omega
  obtain ⟨freed, releases, without⟩ :=
    codec_data_released ready.length (enabled.reorder dataFirst)
  have bare : Books (destroyDecoder { engine with
      info := { engine.info with pCodecSpecificData := none } } freed) (enabledLocks engine)
      (owed ++ owedRest engine) := decoder_destroyed ready.decoder without
  have chip : touch .ve engine.pVeOpsSelf (destroyDecoder { engine with
      info := { engine.info with pCodecSpecificData := none } } freed) =
        destroyDecoder { engine with
          info := { engine.info with pCodecSpecificData := none } } freed :=
    touch_owed bare ready.ve (by intro release member; simp [owedRest, member])
  obtain ⟨data, copied, recopies, format, length, owesData⟩ :=
    @codec_data_recopied { engine with info := { engine.info with pCodecSpecificData := none } }
      _ _ _ answers info bare given
  rcases @decoder_created gVDecoderList answers { engine with info := data } copied _ _ owesData
    with ⟨node, decoder, after, is, _, creates, there, owes⟩ | ⟨_, _, _, _, _, _, _, fails⟩
  · have kind : engine.bIsSoftwareDecoder = node.bIsSoftDecoder :=
      ready.kind node (by rw [← format]; exact is)
    have attempt : attemptReopen gVDecoderList answers info engine env =
        ⟨{ engine with
            info := data, bIsSoftwareDecoder := node.bIsSoftDecoder
            pDecoderInterface := decoder }, after, true⟩ := by
      unfold attemptReopen
      dsimp only
      rw [releases]
      unfold checkChip
      dsimp only
      rw [chip, decide_eq_false small, Bool.not_false, andThen_ok, recopies, andThen_ok, creates]
    have called : touch .decoder decoder after = after :=
      touch_owed owes there fun release member => mem_append_right _ member
    have disabled := @books_disable { engine with
        info := data, bIsSoftwareDecoder := node.bIsSoftDecoder, pDecoderInterface := decoder }
      after _ (by unfold enabledLocks at owes ⊢; rw [← kind]; exact owes) ready.ve
      (by intro release member; simp [owedRest, member])
    unfold videoEngineReopen
    rw [attempt]
    dsimp only
    rw [if_pos rfl, called]
    refine ⟨_, _, rfl, ⟨ready.veOps, ready.ve, there, length, ?_⟩, rfl, disabled.reorder ?_⟩
    · intro other again
      rw [Option.some.inj (again.symm.trans is)]
    · rw [perm_iff_count]
      intro release
      simp only [owedEngine, owedRest, count_append]
      omega
  · exact absurd ⟨by rw [← format] at found; exact found, made⟩ fails

theorem reset_sbms_kept (kept : ContextKept gVDecoderList p env)
    (is : p.pVideoEngine = some engine) :
    ∃ after, resetSbms p engine env = (engine, after) ∧ ContextKept gVDecoderList p after := by
  obtain ⟨_, _, same, _⟩ := kept.engine engine is
  have again : ∀ second after,
      (videoEngineSetSbm engine (slotOf p.pSbm second) second after).1 = engine := by
    intro second after
    unfold videoEngineSetSbm
    rw [← same]
    cases second with
    | true | false => rfl
  have set : ∀ second after, ContextKept gVDecoderList p after → ContextKept gVDecoderList p
        (videoEngineSetSbm engine (slotOf p.pSbm second) second after).2 :=
    fun _ _ keptNow => kept_with_books keptNow (kept_decoder_call keptNow is)
  have first : ∃ after, (if 0 < p.nSbmNum then videoEngineSetSbm engine p.pSbm.1 false env
      else (engine, env)) = (engine, after) ∧ ContextKept gVDecoderList p after := by
    split_ifs
    · exact ⟨_, Prod.ext (again false env) rfl, set false env kept⟩
    · exact ⟨env, rfl, kept⟩
  obtain ⟨after, setFirst, keptFirst⟩ := first
  unfold resetSbms
  rw [setFirst]
  dsimp only
  split_ifs
  · exact ⟨_, Prod.ext (again true after) rfl, set true after keptFirst⟩
  · exact ⟨after, rfl, keptFirst⟩

theorem kept_with_reopened {next : VideoEngine} {info : VideoStreamInfo} {pFbm : Pointer × Pointer}
    (nFbmNum : Nat) (kept : ContextKept gVDecoderList p env) (is : p.pVideoEngine = some engine)
    (ready : EngineReady gVDecoderList next) (sbms : next.pSbm = engine.pSbm)
    (noFbm : pFbm = (none, none)) {after : Env} (books : Books after 0
      (entry .csd info.pCodecSpecificData ++ entry .memops p.opened ++ owedEngine next)) :
    ContextKept gVDecoderList
      { p with pVideoEngine := some next, info := info, pFbm := pFbm, nFbmNum := nFbmNum }
      after := by
  obtain ⟨_, opened, same, _⟩ := kept.engine engine is
  refine ⟨books, kept.memops, ?_, fun gone => (by cases gone)⟩
  intro other again
  obtain rfl := Option.some.inj again
  exact ⟨ready, opened, sbms.trans same, .inl (congrArg Prod.fst noFbm),
    .inl (congrArg Prod.snd noFbm)⟩

theorem reopen_kept {answers : ReopenAnswers} {info : VideoStreamInfo}
    (kept : ContextKept gVDecoderList p env)
    (guard : ReopeningSound gVDecoderList answers.engine info p) :
    (p.pVideoEngine = none → reopenVideoEngine gVDecoderList answers info p env = (p, env)) ∧
      ContextKept gVDecoderList (reopenVideoEngine gVDecoderList answers info p env).1
        (reopenVideoEngine gVDecoderList answers info p env).2 := by
  unfold reopenVideoEngine
  cases is : p.pVideoEngine with
  | none => exact ⟨fun _ => rfl, kept⟩
  | some engine =>
    refine ⟨fun gone => (by cases gone), ?_⟩
    obtain ⟨small, given, found, made, cached⟩ := guard engine is
    obtain ⟨ready, _⟩ := kept.engine engine is
    have books := kept.books
    rw [owed_of_engine is, owedContext, append_assoc] at books
    have freed := books_release_some books (List.Perm.refl _)
    obtain ⟨next, after, reopens, readyNext, sbms, owes⟩ :=
      reopened_kept ready freed small given found made
    dsimp only
    rw [reopens]
    cases opened : answers.engine.opened with
    | false =>
      dsimp only
      rw [if_neg (by simp)]
      exact kept_with_reopened p.nFbmNum kept is readyNext sbms (cached opened) owes
    | true =>
      dsimp only
      rw [if_pos rfl]
      by_cases data : info.pCodecSpecificData = none
      · rw [if_neg (not_not_intro data)]
        have keptNext := @kept_with_reopened _ _ _ _ _
          { info with pCodecSpecificData := none, nCodecSpecificDataLen := 0 } (none, none) 0
          kept is readyNext sbms rfl _ owes
        obtain ⟨last, resets, keptLast⟩ := reset_sbms_kept keptNext rfl
        dsimp only
        rw [resets]
        exact keptLast
      · rw [if_pos data]
        have taken := books_acquire owes .csd answers.csd
        generalize acquire .csd answers.csd after = second at taken ⊢
        obtain ⟨later, copy⟩ := second
        obtain ⟨owesCopy, _⟩ := taken
        dsimp only at owesCopy ⊢
        have split : (entry .memops p.opened ++ owedEngine next ++ entry .csd copy).Perm
            (entry .csd copy ++ entry .memops p.opened ++ owedEngine next) := by
          rw [append_assoc (entry .csd copy)]
          exact perm_append_comm
        have keptNext := @kept_with_reopened _ _ _ _ _
          { info with pCodecSpecificData := copy } (none, none) 0
          kept is readyNext sbms rfl _ (owesCopy.reorder split)
        by_cases failed : copy = none
        · rw [if_pos failed]
          exact keptNext
        · rw [if_neg failed]
          obtain ⟨last, resets, keptLast⟩ := reset_sbms_kept keptNext rfl
          rw [resets]
          exact keptLast

end Reopening

variable {gVDecoderList : List VDecoderNode} {system next : System}

/-- No lock is held between calls, nothing was called that is not there, and when the decoder is
destroyed everything it took went back exactly once, and nothing else did. -/
structure LifecycleSound (system : System) : Prop where
  unlocked : system.env.locks = 0
  used : system.env.misuses = 0
  released : system.context = none → FreedOnce system.env.memory

structure SystemKept (gVDecoderList : List VDecoderNode) (system : System) : Prop where
  context : ∀ p, system.context = some p → ContextKept gVDecoderList p system.env
  fresh : system.initialised = false → ∀ p, system.context = some p →
    p.memops = false ∧ p.pVideoEngine = none ∧ p.info.pCodecSpecificData = none
  closed : system.context = none → Books system.env 0 []

theorem SystemKept.sound (kept : SystemKept gVDecoderList system) : LifecycleSound system := by
  cases is : system.context with
  | none =>
    have books := kept.closed is
    exact ⟨books.locked, books.used, fun _ => (books.ledger.balanced_iff (.inl rfl)).mpr ⟨rfl, rfl⟩⟩
  | some p =>
    have books := (kept.context p is).books
    exact ⟨books.locked, books.used, fun gone => (by cases is.symm.trans gone)⟩

theorem kept_after {initialised : Bool} {result : VideoDecoderContext × Env}
    (kept : ContextKept gVDecoderList result.1 result.2)
    (fresh : initialised = false → result.1.memops = false ∧ result.1.pVideoEngine = none ∧
      result.1.info.pCodecSpecificData = none) :
    SystemKept gVDecoderList (.after initialised result) := by
  refine ⟨?_, ?_, fun gone => (by cases gone)⟩
  · intro p is
    obtain rfl := Option.some.inj is
    exact kept
  · intro first p is
    obtain rfl := Option.some.inj is
    exact fresh first

theorem lifecycle_step_keeps {call : DecoderCall} (kept : SystemKept gVDecoderList system)
    (guard : CallSound gVDecoderList system call)
    (step : lifecycleExec gVDecoderList system call = some next) :
    SystemKept gVDecoderList next := by
  unfold lifecycleExec at step
  cases is : system.context with
  | none =>
    rw [is] at step
    cases step
  | some p =>
    have keptContext := kept.context p is
    rw [is] at step
    cases call with
    | init answers info =>
      dsimp only at step
      split_ifs at step with again
      obtain rfl := Option.some.inj step
      have fresh := kept.fresh (by simpa using again) p is
      exact kept_after (initialise_kept keptContext fresh guard) (fun first => by cases first)
    | decode answers =>
      obtain rfl := Option.some.inj step
      obtain ⟨same, keptNext⟩ := decode_kept answers keptContext
      apply kept_after
      · rw [same]
        exact keptNext
      · rw [same]
        exact fun first => kept.fresh first p is
    | reset answers =>
      obtain rfl := Option.some.inj step
      obtain ⟨nFbmNum, pFbm, same, keptNext⟩ := reset_kept answers keptContext
      apply kept_after keptNext
      rw [same]
      exact fun first => kept.fresh first p is
    | reopen answers info =>
      obtain rfl := Option.some.inj step
      obtain ⟨idle, keptNext⟩ := reopen_kept keptContext (guard p is)
      apply kept_after keptNext
      intro first
      have fresh := kept.fresh first p is
      rw [idle fresh.2.1]
      exact fresh
    | destroy =>
      obtain rfl := Option.some.inj step
      exact ⟨fun _ gone => (by cases gone), fun _ _ gone => (by cases gone),
        fun _ => decoder_released keptContext⟩

theorem start_kept (gVDecoderList : List VDecoderNode) : SystemKept gVDecoderList System.start := by
  refine ⟨?_, ?_, fun gone => (by cases gone)⟩
  · intro p is
    obtain rfl := Option.some.inj is
    exact kept_without_engine ⟨unused_ledger, rfl, rfl⟩ rfl
      ⟨fun set => Bool.noConfusion set, fun opened => absurd rfl opened⟩ ⟨rfl, rfl⟩
  · intro _ p is
    obtain rfl := Option.some.inj is
    exact ⟨rfl, rfl, rfl⟩

def plainRegistry : List VDecoderNode :=
  [⟨VIDEO_CODEC_FORMAT_H264, false⟩, ⟨VIDEO_CODEC_FORMAT_VP9, true⟩,
    ⟨VIDEO_CODEC_FORMAT_VP9, false⟩]

def engineSucceeds : EngineAnswers where
  engine := true
  veOps := true
  ve := true
  nIcVeVersion := 0x3101000012010
  chipId := 0
  vp9Ops := true
  vp9Ve := true
  chipIdInUse := 0
  csd := true
  decoder := true
  opened := true

def initSucceeds : InitAnswers where
  memOpen := true
  csd := true
  engine := engineSucceeds
  sbm := (true, true)
  sbmInit := (true, true)

def callerInfo (eCodecFormat : Nat) (nWidth : Int) : VideoStreamInfo :=
  ⟨eCodecFormat, nWidth, 1080, 20, some (Block.start ⟨.caller, 0⟩), true, true⟩

/-- A VP9 stream on the swapped back end, reset, reopened, and a reopening that cannot open the
decoder. -/
def plainLifecycle : List DecoderCall :=
  [.init initSucceeds (callerInfo VIDEO_CODEC_FORMAT_VP9 1920), .decode ⟨false, false, false⟩,
    .reset ⟨1, (true, false)⟩, .reopen ⟨engineSucceeds, true⟩ (callerInfo 0x113 1280),
    .decode ⟨true, false, true⟩,
    .reopen ⟨{ engineSucceeds with opened := false }, true⟩ (callerInfo 0x113 1280),
    .reset ⟨0, (false, false)⟩, .destroy]

end CedarC.DecoderLifecycle
