import CedarC.DecoderLifecycle

/-!
# The books of a video engine

What is taken is owed until it is given back, and what is owed may be called. The
conditions on the calls of a decoder, what a context keeps between them, and how the
creation of an engine settles its books, whether it succeeds or not.
-/

namespace CedarC.DecoderLifecycle

open AllocationLedger GuardedRuns List Option

section Books

def entry (pool : Resource) (p : Pointer) : List (Release Resource) :=
  p.toList.map fun address => ⟨pool, address⟩

/-- What has to be given back is owed, and nothing was called that is not there. -/
structure Books (env : Env) (locks : Int) (owed : List (Release Resource)) : Prop where
  ledger : Ledger env.memory owed [] []
  locked : env.locks = locks
  used : env.misuses = 0

variable {env : Env} {locks : Int} {owed others : List (Release Resource)}

theorem Books.reorder (books : Books env locks owed) (same : owed.Perm others) :
    Books env locks others :=
  ⟨books.ledger.reorder same, books.locked, books.used⟩

theorem books_acquire (books : Books env locks owed) (pool : Resource) (granted : Bool) :
    Books (acquire pool granted env).1 locks (owed ++ entry pool (acquire pool granted env).2) ∧
      (acquire pool granted env).2.isSome = granted := by
  cases granted with
  | true =>
    refine ⟨⟨?_, books.locked, books.used⟩, rfl⟩
    exact books.ledger.grant pool
  | false =>
    refine ⟨⟨?_, books.locked, books.used⟩, rfl⟩
    change Ledger _ (owed ++ []) [] []
    rw [append_nil]
    exact books.ledger.refuse

theorem books_release {pool : Resource} {p : Pointer} (books : Books env locks owed)
    (there : p ≠ none) (split : owed.Perm (entry pool p ++ others)) :
    Books (release pool p env) locks others := by
  obtain ⟨address, rfl⟩ := ne_none_iff_exists'.mp there
  exact ⟨books.ledger.settle [⟨pool, address⟩] split, books.locked, books.used⟩

theorem live_of_owed (books : Books env locks owed) {pool : Resource}
    {address : Address Resource} (member : ⟨pool, address⟩ ∈ owed) :
    Live env pool (some address) := by
  have entries := books.ledger.entries
  simp only [append_nil] at entries
  have granted : ⟨pool, address⟩ ∈ env.memory.allocated.map Block.release :=
    entries.mem_iff.mp (mem_append_right _ member)
  refine ⟨granted, ?_⟩
  intro freed
  have once := count_eq_one_of_mem (books.ledger.distinct.map release_injective) granted
  have counted := entries.count_eq ⟨pool, address⟩
  have first := count_pos_iff.mpr freed
  have second := count_pos_iff.mpr member
  rw [count_append] at counted
  change 0 < List.count (Release.mk pool address) env.memory.freed at first
  omega

theorem touch_owed (books : Books env locks owed) {pool : Resource} {p : Pointer}
    (there : p ≠ none) (member : ∀ release ∈ entry pool p, release ∈ owed) :
    touch pool p env = env := by
  obtain ⟨address, rfl⟩ := ne_none_iff_exists'.mp there
  unfold touch
  rw [if_pos (live_of_owed books (member _ (by simp [entry])))]

end Books

/-- The back end asked for last is there, where there is one at all. -/
def BackEndsOpen (answers : EngineAnswers) (info : VideoStreamInfo) : Prop :=
  answers.veOps = true → answers.ve = true ∧
    (switchesToVp9 answers info → answers.vp9Ops = true → answers.vp9Ve = true)
deriving Decidable

def HasBackEnd (answers : EngineAnswers) (info : VideoStreamInfo) : Prop :=
  answers.veOps = true ∧ (switchesToVp9 answers info → answers.vp9Ops = true)
deriving Decidable

/-- With codec specific data nothing fails before they are copied, and a specific decoder that
is made is opened. -/
def CreationSound (gVDecoderList : List VDecoderNode) (answers : EngineAnswers)
    (info : VideoStreamInfo) : Prop :=
  BackEndsOpen answers info ∧
  (info.nCodecSpecificDataLen > 0 → HasBackEnd answers info ∧ ¬tooLarge answers info) ∧
  (HasBackEnd answers info → ¬tooLarge answers info →
    (info.nCodecSpecificDataLen > 0 → answers.csd = true) →
    (findDecoder gVDecoderList info.eCodecFormat
      (decide (switchesToVp9 answers info))).isSome = true →
    answers.decoder = true → answers.opened = true)
deriving Decidable

/-- A reopened engine gets its new decoder, codec specific data only where it had some, and no
frame buffer manager is cached when the new decoder cannot be opened. -/
def ReopeningSound (gVDecoderList : List VDecoderNode) (answers : EngineAnswers)
    (info : VideoStreamInfo) (p : VideoDecoderContext) : Prop :=
  ∀ engine ∈ p.pVideoEngine, ¬tooLarge answers info ∧
    (hasCodecData info → answers.csd = true ∧ engine.info.nCodecSpecificDataLen > 0) ∧
    (findDecoder gVDecoderList engine.info.eCodecFormat
      engine.bEnableGoogleVp9Flag).isSome = true ∧
    answers.decoder = true ∧
    (answers.opened = false → p.pFbm = (none, none))
deriving Decidable

def CallSound (gVDecoderList : List VDecoderNode) (system : System) : DecoderCall → Prop
  | .init answers info =>
    supported info → answers.memOpen = true ∧
      ((info.nCodecSpecificDataLen > 0 → answers.csd = true) → answers.engine.engine = true →
        CreationSound gVDecoderList answers.engine info)
  | .reopen answers info =>
    ∀ p ∈ system.context, ReopeningSound gVDecoderList answers.engine info p
  | _ => True

instance (gVDecoderList : List VDecoderNode) (system : System) :
    ∀ call, Decidable (CallSound gVDecoderList system call)
  | .init _ _ => inferInstanceAs (Decidable (_ → _ ∧ _))
  | .reopen _ _ => inferInstanceAs (Decidable (∀ p ∈ system.context, _))
  | .decode _ | .reset _ | .destroy => isTrue trivial

def owedEngine (engine : VideoEngine) : List (Release Resource) :=
  entry .csd engine.info.pCodecSpecificData ++ entry .ve engine.pVeOpsSelf ++
    entry .decoder engine.pDecoderInterface ++ entry .sbm engine.pSbm.1 ++
    entry .sbm engine.pSbm.2

def owedContext (p : VideoDecoderContext) : List (Release Resource) :=
  entry .csd p.info.pCodecSpecificData ++ entry .memops p.opened

def owedDecoder (p : VideoDecoderContext) : List (Release Resource) :=
  owedContext p ++ (p.pVideoEngine.map owedEngine).getD []

/-- An engine outside its calls: a back end, a decoder that the registry gives for its format,
and codec specific data only with a length. -/
structure EngineReady (gVDecoderList : List VDecoderNode) (engine : VideoEngine) : Prop where
  veOps : engine.veOpsS = true
  ve : engine.pVeOpsSelf ≠ none
  decoder : engine.pDecoderInterface ≠ none
  length : engine.info.pCodecSpecificData ≠ none → engine.info.nCodecSpecificDataLen > 0
  kind : ∀ node, findDecoder gVDecoderList engine.info.eCodecFormat
    engine.bEnableGoogleVp9Flag = some node → engine.bIsSoftwareDecoder = node.bIsSoftDecoder

def CachedFbm (engine : VideoEngine) (pFbm : Pointer) : Prop :=
  pFbm = none ∨ pFbm = engine.pDecoderInterface

structure ContextKept (gVDecoderList : List VDecoderNode) (p : VideoDecoderContext) (env : Env) :
    Prop where
  books : Books env 0 (owedDecoder p)
  memops : p.memops = true ↔ p.opened ≠ none
  engine : ∀ engine, p.pVideoEngine = some engine → EngineReady gVDecoderList engine ∧
    p.opened ≠ none ∧ engine.pSbm = p.pSbm ∧ CachedFbm engine p.pFbm.1 ∧
    CachedFbm engine p.pFbm.2
  empty : p.pVideoEngine = none → p.pSbm = (none, none) ∧ p.pFbm = (none, none)

variable {gVDecoderList : List VDecoderNode} {answers : EngineAnswers} {engine : VideoEngine}
  {env : Env} {owed : List (Release Resource)}

theorem andThen_ok (stage : VideoEngine → Env → Attempt) :
    (Attempt.mk engine env true).andThen stage = stage engine env := rfl

theorem andThen_failed (stage : VideoEngine → Env → Attempt) :
    (Attempt.mk engine env false).andThen stage = ⟨engine, env, false⟩ := rfl

def withBackEnd (engine : VideoEngine) (self : Pointer) (bEnableGoogleVp9Flag : Bool) :
    VideoEngine :=
  { engine with
    veOpsS := true, pVeOpsSelf := self, bEnableGoogleVp9Flag := bEnableGoogleVp9Flag }

theorem back_end_opened (books : Books env 0 owed) (fresh : engine.veOpsS = false)
    (guard : BackEndsOpen answers engine.info) :
    (∃ self after, (openVe answers engine env).andThen (switchVe answers) =
        ⟨withBackEnd engine self (engine.bEnableGoogleVp9Flag ||
          decide (switchesToVp9 answers engine.info)), after, true⟩ ∧
        self ≠ none ∧ Books after 0 (owed ++ entry .ve self) ∧
        HasBackEnd answers engine.info) ∨
    (∃ failed after, (openVe answers engine env).andThen (switchVe answers) =
        ⟨failed, after, false⟩ ∧ failed.veOpsS = false ∧ failed.info = engine.info ∧
        Books after 0 owed ∧ ¬HasBackEnd answers engine.info) := by
  unfold openVe
  cases ops : answers.veOps with
  | false =>
    right
    rw [if_neg (by simp)]
    refine ⟨_, env, andThen_failed _, rfl, rfl, books, ?_⟩
    intro has
    exact Bool.noConfusion (ops.symm.trans has.1)
  | true =>
    obtain ⟨ve, vp9Ve⟩ := guard ops
    rw [if_pos rfl, ve]
    have taken := books_acquire books .ve true
    generalize acquire .ve true env = given at taken ⊢
    obtain ⟨after, self⟩ := given
    obtain ⟨owes, given⟩ := taken
    have there : self ≠ none := isSome_iff_ne_none.mp given
    dsimp only at owes given ⊢
    rw [given, andThen_ok]
    unfold switchVe
    by_cases switches : switchesToVp9 answers engine.info
    · rw [if_pos switches]
      have back := books_release owes there perm_append_comm
      cases vp9Ops : answers.vp9Ops with
      | false =>
        right
        rw [if_neg (by simp)]
        refine ⟨_, _, rfl, rfl, rfl, back, ?_⟩
        intro has
        exact Bool.noConfusion (vp9Ops.symm.trans (has.2 switches))
      | true =>
        left
        rw [if_pos rfl, vp9Ve switches vp9Ops]
        have again := books_acquire back .ve true
        dsimp only
        generalize acquire .ve true (release .ve self after) = second at again ⊢
        obtain ⟨last, other⟩ := second
        obtain ⟨owesAgain, givenAgain⟩ := again
        dsimp only at owesAgain givenAgain ⊢
        refine ⟨other, last, ?_, isSome_iff_ne_none.mp givenAgain, owesAgain, ops, fun _ => vp9Ops⟩
        rw [givenAgain]
        simp [switches, withBackEnd]
    · left
      rw [if_neg switches]
      refine ⟨self, after, ?_, there, owes, ops, fun does => absurd does switches⟩
      simp [switches, withBackEnd]

theorem error_exit_settles {self : Pointer} (ops : engine.veOpsS = true)
    (is : engine.pVeOpsSelf = self) (there : self ≠ none)
    (length : engine.info.pCodecSpecificData ≠ none → engine.info.nCodecSpecificDataLen > 0)
    (books : Books env 0 (owed ++ entry .ve self ++ entry .csd engine.info.pCodecSpecificData)) :
    Books (errorExit engine env) 0 owed := by
  unfold errorExit releaseCodecData
  by_cases copied : engine.info.pCodecSpecificData = none
  · rw [if_neg (fun both => both.1 copied)]
    dsimp only
    rw [if_pos ops, is]
    rw [copied] at books
    apply books_release books there
    change (owed ++ entry .ve self ++ []).Perm _
    rw [append_nil]
    exact perm_append_comm
  · rw [if_pos ⟨copied, length copied⟩]
    dsimp only
    rw [if_pos ops, is]
    exact books_release (books_release books copied perm_append_comm) there
      perm_append_comm

/-- Without a back end and without codec specific data there is nothing to give back. -/
theorem error_exit_idle (ops : engine.veOpsS = false)
    (none_copied : engine.info.pCodecSpecificData = none) : errorExit engine env = env := by
  unfold errorExit releaseCodecData
  rw [if_neg (fun both => both.1 none_copied)]
  dsimp only
  rw [ops]
  rfl

theorem books_lock (books : Books env 0 owed) (there : engine.pVeOpsSelf ≠ none)
    (member : ∀ release ∈ entry .ve engine.pVeOpsSelf, release ∈ owed) :
    Books (lockVe engine env) 1 owed := by
  unfold lockVe
  rw [touch_owed books there member]
  refine ⟨books.ledger, ?_, books.used⟩
  change env.locks + 1 = 1
  rw [books.locked]
  rfl

theorem books_unlock (books : Books env 1 owed) (there : engine.pVeOpsSelf ≠ none)
    (member : ∀ release ∈ entry .ve engine.pVeOpsSelf, release ∈ owed) :
    Books (unlockVe engine env) 0 owed := by
  unfold unlockVe
  rw [touch_owed books there member]
  refine ⟨books.ledger, ?_, books.used⟩
  change env.locks - 1 = 0
  rw [books.locked]
  rfl

def enabledLocks (engine : VideoEngine) : Int := if engine.bIsSoftwareDecoder then 0 else 1

theorem books_enable (books : Books env 0 owed) (there : engine.pVeOpsSelf ≠ none)
    (member : ∀ release ∈ entry .ve engine.pVeOpsSelf, release ∈ owed) :
    Books (enableVe engine env) (enabledLocks engine) owed := by
  unfold enableVe enabledLocks
  split_ifs
  · exact books
  · exact books_lock books there member

theorem books_disable (books : Books env (enabledLocks engine) owed)
    (there : engine.pVeOpsSelf ≠ none)
    (member : ∀ release ∈ entry .ve engine.pVeOpsSelf, release ∈ owed) :
    Books (disableVe engine env) 0 owed := by
  unfold enabledLocks at books
  unfold disableVe
  split_ifs at books ⊢
  · exact books
  · exact books_unlock books there member

theorem books_decoder_call (books : Books env 0 owed) (ve : engine.pVeOpsSelf ≠ none)
    (decoder : engine.pDecoderInterface ≠ none)
    (owesVe : ∀ release ∈ entry .ve engine.pVeOpsSelf, release ∈ owed)
    (owesDecoder : ∀ release ∈ entry .decoder engine.pDecoderInterface, release ∈ owed) :
    Books (lockedDecoderCall engine env) 0 owed := by
  have enabled := books_enable books ve owesVe
  unfold lockedDecoderCall
  rw [touch_owed enabled decoder owesDecoder]
  exact books_disable enabled ve owesVe

/-- The registry gives a decoder, and its creator makes one, or nothing changes. -/
theorem decoder_created {locks : Int} (books : Books env locks owed) :
    (∃ node decoder after, findDecoder gVDecoderList engine.info.eCodecFormat
          engine.bEnableGoogleVp9Flag = some node ∧ answers.decoder = true ∧
        createSpecificDecoder gVDecoderList answers engine env =
          ⟨{ engine with
              bIsSoftwareDecoder := node.bIsSoftDecoder, pDecoderInterface := decoder },
            after, true⟩ ∧
        decoder ≠ none ∧ Books after locks (owed ++ entry .decoder decoder)) ∨
    (∃ failed after, createSpecificDecoder gVDecoderList answers engine env =
        ⟨failed, after, false⟩ ∧ failed.info = engine.info ∧
        failed.veOpsS = engine.veOpsS ∧ failed.pVeOpsSelf = engine.pVeOpsSelf ∧
        Books after locks owed ∧
        ¬((findDecoder gVDecoderList engine.info.eCodecFormat
          engine.bEnableGoogleVp9Flag).isSome = true ∧ answers.decoder = true)) := by
  unfold createSpecificDecoder
  cases found : findDecoder gVDecoderList engine.info.eCodecFormat
      engine.bEnableGoogleVp9Flag with
  | none =>
    right
    refine ⟨_, env, rfl, rfl, rfl, rfl, books, ?_⟩
    intro both
    exact Bool.noConfusion both.1
  | some node =>
    have taken := books_acquire books .decoder answers.decoder
    dsimp only
    generalize acquire .decoder answers.decoder env = given at taken ⊢
    obtain ⟨after, decoder⟩ := given
    obtain ⟨owes, given⟩ := taken
    dsimp only at owes given ⊢
    cases decoder with
    | none =>
      right
      refine ⟨_, after, rfl, rfl, rfl, rfl, ?_, ?_⟩
      · change Books after locks (owed ++ []) at owes
        rwa [append_nil] at owes
      · intro both
        exact Bool.noConfusion (given.trans both.2)
    | some address =>
      left
      exact ⟨node, some address, after, rfl, given.symm, rfl, some_ne_none _, owes⟩

theorem codec_data_copied {locks : Int} (info : VideoStreamInfo) (books : Books env locks owed) :
    (hasCodecData info ∧ ∃ p after, copyCodecData answers info engine env =
        ⟨{ engine with info := { engine.info with pCodecSpecificData := p } }, after,
          answers.csd⟩ ∧ p.isSome = answers.csd ∧ Books after locks (owed ++ entry .csd p)) ∨
    (¬hasCodecData info ∧ copyCodecData answers info engine env = ⟨engine, env, true⟩) := by
  unfold copyCodecData
  by_cases has : hasCodecData info
  · left
    rw [if_pos has]
    have taken := books_acquire books .csd answers.csd
    generalize acquire .csd answers.csd env = given at taken ⊢
    obtain ⟨after, p⟩ := given
    obtain ⟨owes, given⟩ := taken
    dsimp only at owes given ⊢
    exact ⟨has, p, after, by rw [given], given, owes⟩
  · right
    rw [if_neg has]
    exact ⟨has, rfl⟩

theorem decoder_opened {self : Pointer} (is : engine.pVeOpsSelf = self) (there : self ≠ none)
    (ops : engine.veOpsS = true) (noSbm : engine.pSbm = (none, none))
    (length : engine.info.pCodecSpecificData ≠ none → engine.info.nCodecSpecificDataLen > 0)
    (opens : (findDecoder gVDecoderList engine.info.eCodecFormat
      engine.bEnableGoogleVp9Flag).isSome = true → answers.decoder = true → answers.opened = true)
    (books : Books env 0 (owed ++ entry .ve self ++ entry .csd engine.info.pCodecSpecificData)) :
    let attempt := (createSpecificDecoder gVDecoderList answers engine env).andThen
      (initDecoder answers)
    (attempt.ok = true ∧ EngineReady gVDecoderList attempt.engine ∧
        attempt.engine.pSbm = (none, none) ∧
        Books attempt.env 0 (owed ++ owedEngine attempt.engine)) ∨
      (attempt.ok = false ∧ Books (errorExit attempt.engine attempt.env) 0 owed) := by
  rcases @decoder_created gVDecoderList answers engine _ _ _ books with
    ⟨node, decoder, after, found, given, created, made, owes⟩ |
    ⟨failed, after, created, sameInfo, sameOps, sameVe, kept, _⟩
  · left
    rw [created, andThen_ok]
    refine ⟨opens (by rw [found]; rfl) given, ?_, noSbm, ?_⟩
    · refine ⟨ops, fun gone => there (is.symm.trans gone), made, length, ?_⟩
      intro other again
      rw [← Option.some.inj (found.symm.trans again)]
      rfl
    · have called := @books_decoder_call
        { engine with bIsSoftwareDecoder := node.bIsSoftDecoder, pDecoderInterface := decoder }
        after _ owes (fun gone => there (is.symm.trans gone)) made
        (by intro entry member; rw [is] at member; simp [member]) (by
          intro entry member
          exact mem_append_right _ member)
      apply called.reorder
      change List.Perm _ (owed ++ owedEngine { engine with
        bIsSoftwareDecoder := node.bIsSoftDecoder, pDecoderInterface := decoder })
      rw [perm_iff_count]
      intro release
      simp only [owedEngine, is, noSbm, entry, toList_none, map_nil, append_nil, count_append]
      omega
  · right
    rw [created, andThen_failed]
    refine ⟨rfl, ?_⟩
    apply error_exit_settles (sameOps.trans ops) (sameVe.trans is) there
    · rw [sameInfo]
      exact length
    · rw [sameInfo]
      exact kept

/-- A creation ends with an engine that owes what it took, or with nothing taken. -/
theorem create_kept {info : VideoStreamInfo} (books : Books env 0 owed)
    (copied : info.pCodecSpecificData ≠ none ↔ info.nCodecSpecificDataLen > 0)
    (guard : answers.engine = true → CreationSound gVDecoderList answers info) :
    (∃ after engine, videoEngineCreate gVDecoderList answers info env = (after, some engine) ∧
        EngineReady gVDecoderList engine ∧ engine.pSbm = (none, none) ∧
        Books after 0 (owed ++ owedEngine engine)) ∨
      ∃ after, videoEngineCreate gVDecoderList answers info env = (after, none) ∧
        Books after 0 owed := by
  unfold videoEngineCreate
  cases allocated : answers.engine with
  | false =>
    right
    rw [if_neg (by simp)]
    exact ⟨env, rfl, books⟩
  | true =>
    obtain ⟨backEnds, early, opens⟩ := guard allocated
    rw [if_pos rfl]
    have none_early : ¬(HasBackEnd answers info ∧ ¬tooLarge answers info) →
        info.pCodecSpecificData = none := by
      intro fails
      by_contra some_data
      exact fails (early (copied.mp some_data))
    have finish : ∀ attempt : Attempt,
        (attempt.ok = true ∧ EngineReady gVDecoderList attempt.engine ∧
            attempt.engine.pSbm = (none, none) ∧
            Books attempt.env 0 (owed ++ owedEngine attempt.engine)) ∨
          (attempt.ok = false ∧ Books (errorExit attempt.engine attempt.env) 0 owed) →
        (∃ after engine, (if attempt.ok then (attempt.env, some attempt.engine)
            else (errorExit attempt.engine attempt.env, none)) = (after, some engine) ∧
            EngineReady gVDecoderList engine ∧ engine.pSbm = (none, none) ∧
            Books after 0 (owed ++ owedEngine engine)) ∨
          ∃ after, (if attempt.ok then (attempt.env, some attempt.engine)
            else (errorExit attempt.engine attempt.env, none)) = (after, none) ∧
            Books after 0 owed := by
      rintro attempt (⟨ok, ready, noSbm, owes⟩ | ⟨failed, settled⟩)
      · left
        rw [if_pos ok]
        exact ⟨_, _, rfl, ready, noSbm, owes⟩
      · right
        rw [if_neg (by simp [failed])]
        exact ⟨_, rfl, settled⟩
    apply finish
    unfold attemptCreate
    rcases @back_end_opened answers (clearedEngine info) _ _ books rfl backEnds with
      ⟨self, after, opened, there, owes, has⟩ | ⟨failed, after, opened, ops, same, kept, hasNot⟩
    · have known : touch .ve (withBackEnd (clearedEngine info) self
          ((clearedEngine info).bEnableGoogleVp9Flag ||
            decide (switchesToVp9 answers (clearedEngine info).info))).pVeOpsSelf after = after :=
        touch_owed owes there fun entry member => mem_append_right _ member
      rw [opened, andThen_ok]
      unfold checkChip
      rw [known]
      by_cases large : tooLarge answers info
      · right
        have no_data := none_early fun both => both.2 large
        simp only [large, decide_true, Bool.not_true, andThen_failed]
        refine ⟨trivial, error_exit_settles rfl rfl there ?_ ?_⟩
        · exact fun some_data => absurd no_data some_data
        · change Books after 0 (owed ++ entry .ve self ++ entry .csd info.pCodecSpecificData)
          rw [no_data]
          change Books after 0 (owed ++ entry .ve self ++ [])
          rwa [append_nil]
      · simp only [large, decide_false, Bool.not_false, andThen_ok]
        have opensLater : (info.nCodecSpecificDataLen > 0 → answers.csd = true) →
            (findDecoder gVDecoderList info.eCodecFormat
              (false || decide (switchesToVp9 answers info))).isSome = true →
            answers.decoder = true → answers.opened = true := by
          rw [Bool.false_or]
          exact opens has large
        rcases @codec_data_copied answers (withBackEnd (clearedEngine info) self
            ((clearedEngine info).bEnableGoogleVp9Flag ||
              decide (switchesToVp9 answers (clearedEngine info).info)))
            after _ _ info owes with
          ⟨data, p, later, copies, given, owesCopy⟩ | ⟨no_data, copies⟩
        · rw [copies]
          cases csd : answers.csd with
          | false =>
            right
            rw [csd] at given
            obtain rfl := isNone_iff_eq_none.mp (by simpa using given)
            rw [andThen_failed, andThen_failed]
            refine ⟨rfl, error_exit_settles rfl rfl there ?_ owesCopy⟩
            exact fun some_data => absurd rfl some_data
          | true =>
            rw [andThen_ok]
            apply decoder_opened rfl there rfl rfl (fun _ => data.1) _ owesCopy
            exact opensLater fun _ => csd
        · rw [copies, andThen_ok]
          have no_length : ¬info.nCodecSpecificDataLen > 0 :=
            fun positive => no_data ⟨positive, copied.mpr positive⟩
          have no_pointer : info.pCodecSpecificData = none := by
            by_contra some_data
            exact no_length (copied.mp some_data)
          apply decoder_opened rfl there rfl rfl
          · exact fun some_data => absurd no_pointer some_data
          · exact opensLater fun positive => absurd positive no_length
          · change Books after 0 (owed ++ entry .ve self ++ entry .csd info.pCodecSpecificData)
            rw [no_pointer]
            change Books after 0 (owed ++ entry .ve self ++ [])
            rwa [append_nil]
    · right
      rw [opened]
      simp only [andThen_failed]
      refine ⟨trivial, ?_⟩
      rw [error_exit_idle ops (by rw [same]; exact none_early fun both => hasNot both.1)]
      exact kept

end CedarC.DecoderLifecycle
