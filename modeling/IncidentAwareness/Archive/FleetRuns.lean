import IncidentAwareness.Archive.FleetSpec

/-!
# Runs of the Workers

Every step of a fleet keeps what each Worker has reached (`Fleet.Holds`, `holds_step`),
whatever the interleaving, the redeliveries and the faults. Over runs:

* `archive_in_order`: the objects of an archive never change, the summary comes last,
  and a published row has both objects, with its bytes;
* `processedOnce_of_clean`: an object is recorded once, and a message is deleted only
  when each of its inputs has a receipt and, if there is one, a published row, in a run
  whose commits are clean.
-/

namespace IncidentAwareness.Archive

open IncidentAwareness.Common IncidentAwareness.Lib IncidentAwareness.Persistence

variable {ι : Type}

/-- The inputs that a message names. -/
def Message.inputs (m : Message) : List S3Object :=
  match m.body with
  | .records inputs => inputs
  | _ => []

/-- The Worker of a step. -/
def FleetStep.worker : FleetStep ι → Option ι
  | .receive i _ _ => some i
  | .advance i _ => some i
  | _ => none

/-- The call of a step that took effect. -/
def FleetAnswer.applied : FleetAnswer → Option Site
  | .called site true => some site
  | _ => none

/-- The receipt that a step records. -/
def FleetAnswer.receipt (answer : FleetAnswer) : Option S3ObjectReceipt :=
  answer.applied.bind Site.receipt

/-- Whether a Worker that deletes a message has a store of publications. -/
def Activity.storesPublications : Activity ι → Bool
  | .deleting _ env => env.publicationStore
  | _ => false

namespace Fleet

/-! ## What a Worker has reached -/

/-- What a Worker has reached: without an input in work its transaction is empty, and the
inputs behind it are settled. -/
def Reached (receiptLockKey : S3Object → Int) (strict : Prop) (i : ι) :
    Activity ι → World ι → Prop
  | .idle, w => w.pending i = []
  | .processing a, w =>
    Sat (workerProtocol receiptLockKey strict i)
        (Ends World.Sound fun _ w => w.pending i = [] ∧ Settled strict a.env.publicationStore a.object w)
        a.job w ∧
      ∀ o ∈ a.message.inputs, o = a.object ∨ o ∈ a.remaining ∨
        Settled strict a.env.publicationStore o w
  | .deleting m env, w => w.pending i = [] ∧ ∀ o ∈ m.inputs, Settled strict env.publicationStore o w
  | .rollingBack, _ => True

/-- The world is sound, and so is what every Worker has reached. -/
structure Holds (receiptLockKey : S3Object → Int) (strict : Prop) (s : Fleet ι) : Prop where
  world : s.world.Sound
  activity : ∀ i, Reached receiptLockKey strict i (s.activity i) s.world

section Step

variable {strict : Prop} {receiptLockKey : S3Object → Int} {i j : ι} {s : Fleet ι} {w w' : World ι}
  {sha256 : Sha256}

theorem Reached.rely {activity : Activity ι} (h : Reached receiptLockKey strict i activity w)
    (hprogress : Progress strict w w') (hapart : Apart receiptLockKey i w w') :
    Reached receiptLockKey strict i activity w' := by
  have hr : (workerProtocol receiptLockKey strict i).rely w w' := ⟨hprogress, hapart⟩
  cases activity with
  | idle => exact hapart.pending.trans h
  | processing a =>
    refine ⟨h.1.rely hr, fun o ho => ?_⟩
    rcases h.2 o ho with h | h | h
    · exact .inl h
    · exact .inr (.inl h)
    · exact .inr (.inr (kept_settled _ o w w' h hr))
  | deleting m env =>
    exact ⟨hapart.pending.trans h.1, fun o ho => kept_settled _ o w w' (h.2 o ho) hr⟩
  | rollingBack => trivial

/-- What a step does. -/
structure Steps (receiptLockKey : S3Object → Int) (strict : Prop) (s : Fleet ι)
    (r : Fleet ι × FleetAnswer) : Prop where
  holds : r.1.Holds receiptLockKey strict
  progress : Progress strict s.world r.1.world
  recorded : Recorded r.2.receipt s.world r.1.world

theorem steps_refl (h : s.Holds receiptLockKey strict) {answer : FleetAnswer}
    (hanswer : answer.receipt = none) : Steps receiptLockKey strict s (s, answer) :=
  ⟨h, .refl _, hanswer ▸ .none rfl⟩

theorem holds_initial (runIds : List String) (runtimes : RuntimeTable) (queue : List Message) :
    (initial runIds runtimes queue : Fleet ι).Holds receiptLockKey strict where
  world := by
    refine ⟨fun key content h => ?_, fun p hp => ?_, fun p hp => ?_, fun p hp => ?_, fun p hp => ?_⟩
    · cases h
    · exact absurd hp (Table.not_mem_empty p)
    · exact absurd hp (Table.not_mem_empty p)
    · exact absurd hp (Table.not_mem_empty p)
    · exact absurd hp (Table.not_mem_empty p)
  activity _ := rfl

variable [DecidableEq ι]

/-- A step of a Worker: what it reaches, and what it leaves to the others. -/
theorem Holds.become (h : s.Holds receiptLockKey strict) {activity : Activity ι}
    (hprogress : Progress strict s.world w') (hapart : ∀ j, j ≠ i → Apart receiptLockKey j s.world w')
    (hreached : Reached receiptLockKey strict i activity w') :
    Fleet.Holds receiptLockKey strict { s.become i activity with world := w' } where
  world := hprogress.sound h.world
  activity j := by
    by_cases hj : j = i
    · rw [hj]
      show Reached receiptLockKey strict i (Function.update s.activity i activity i) w'
      rwa [Function.update_self]
    · show Reached receiptLockKey strict j (Function.update s.activity i activity j) w'
      rw [Function.update_of_ne hj]
      exact (h.activity j).rely hprogress (hapart j hj)

theorem Holds.stop (h : s.Holds receiptLockKey strict)
    (hprogress : Progress strict s.world w') (hapart : ∀ j, j ≠ i → Apart receiptLockKey j s.world w') :
    Fleet.Holds receiptLockKey strict (Fleet.stop { s with world := w' } i) := by
  have hlocal : Local i w' (w'.rollback i) := local_rollback
  exact h.become (hprogress.trans hlocal.progress) (fun j hj => (hapart j hj).trans (hlocal.apart hj))
    pending_rollback

/-- What is left of a message. -/
theorem reached_nextInput {m : Message} {env : FleetEnvironment} {remaining : List S3Object}
    (hw : w.Sound) (hpending : w.pending i = [])
    (h : ∀ o ∈ m.inputs, o ∈ remaining ∨ Settled strict env.publicationStore o w) :
    Reached receiptLockKey strict i (nextInput sha256 receiptLockKey i m env remaining) w := by
  cases remaining with
  | nil => exact ⟨hpending, fun o ho => (h o ho).resolve_left List.not_mem_nil⟩
  | cons object remaining =>
    refine ⟨sat_processObject hw hpending, fun o ho => ?_⟩
    rcases h o ho with h | h
    · rcases List.mem_cons.mp h with rfl | h
      · exact .inl rfl
      · exact .inr (.inl h)
    · exact .inr (.inr h)

/-- A commit that takes effect is clean. -/
def CleanStep (sha256 : Sha256) (receiptLockKey : S3Object → Int) (s : Fleet ι) (x : FleetStep ι) :
    Prop :=
  ∀ site ∈ (s.step sha256 receiptLockKey x).2.applied, site.Clean s.world

instance (s : Fleet ι) (x : FleetStep ι) : Decidable (CleanStep sha256 receiptLockKey s x) :=
  inferInstanceAs (Decidable (∀ site ∈ (s.step sha256 receiptLockKey x).2.applied, site.Clean s.world))

/-- A step of a Worker that leaves the world as it is. -/
theorem steps_become (h : s.Holds receiptLockKey strict) {activity : Activity ι} {answer : FleetAnswer}
    (hanswer : answer.receipt = none)
    (hreached : Reached receiptLockKey strict i activity s.world) :
    Steps receiptLockKey strict s (s.become i activity, answer) :=
  ⟨h.become (.refl _) (fun _ _ => .refl _) hreached, .refl _, hanswer ▸ .none rfl⟩

/-- A Worker whose process ends. -/
theorem steps_stop (h : s.Holds receiptLockKey strict) {queue : List Message} {answer : FleetAnswer}
    (hanswer : answer.receipt = none) :
    Steps receiptLockKey strict s
      (Fleet.stop { s with world := { s.world with queue := queue } } i, answer) := by
  have hprogress : Progress strict s.world { s.world with queue := queue } := .of_eq rfl rfl rfl
  have hapart : ∀ j, j ≠ i → Apart receiptLockKey j s.world { s.world with queue := queue } :=
    fun _ _ => ⟨rfl, fun _ h => h, fun _ h => h, fun _ _ h => h, fun _ _ h => h⟩
  have hlocal : Local i { s.world with queue := queue } (World.rollback { s.world with queue := queue } i) :=
    local_rollback
  exact ⟨h.stop hprogress hapart, hprogress.trans hlocal.progress, hanswer ▸ .none rfl⟩

theorem steps_receive (h : s.Holds receiptLockKey strict) (hidle : s.activity i = .idle) (m : Message)
    (env : FleetEnvironment) :
    Steps receiptLockKey strict s (s.receive sha256 receiptLockKey i m env) := by
  have hpending : s.world.pending i = [] := by
    have := h.activity i
    rwa [hidle] at this
  unfold receive
  split
  · next hbody =>
    refine steps_become h rfl ⟨hpending, fun o ho => ?_⟩
    rw [Message.inputs, hbody] at ho
    exact absurd ho List.not_mem_nil
  · exact steps_become h rfl trivial
  · next inputs hbody =>
    refine steps_become h rfl (reached_nextInput h.world hpending fun o ho => .inl ?_)
    rw [Message.inputs, hbody] at ho
    exact List.mem_eraseDups.mpr ho

/-- The next call of an input: what it leaves of the job, and what it guarantees. -/
theorem steps_advanceJob (h : s.Holds receiptLockKey strict) {a : Attempt ι}
    (ha : s.activity i = .processing a) {fault : Fault WorkerError}
    (hclean : strict → ∀ site ∈ (s.advanceJob i a fault).2.applied, site.Clean s.world) :
    Steps receiptLockKey strict s (s.advanceJob i a fault) := by
  have hreached := h.activity i
  rw [ha] at hreached
  obtain ⟨hjob, hinputs⟩ := hreached
  cases hadvance : a.job.advance fault s.world with
  | finished =>
    simp only [advanceJob, hadvance]
    exact steps_refl h rfl
  | blocked =>
    simp only [advanceJob, hadvance]
    exact steps_refl h rfl
  | called site applied rest w =>
    have hproviso : applied = true → (workerProtocol receiptLockKey strict i).proviso site s.world := by
      rintro rfl hs
      refine hclean hs site ?_
      simp only [advanceJob, hadvance]
      cases rest <;> rfl
    obtain ⟨hguarantee, hrest⟩ := hjob.advance hproviso (fun _ _ => trivial) hadvance
    have hprogress : Progress strict s.world w := by
      rcases hguarantee with ⟨-, rfl⟩ | ⟨-, hg⟩
      · exact .refl _
      · exact hg.progress
    have hapart : ∀ j, j ≠ i → Apart receiptLockKey j s.world w := by
      intro j hj
      rcases hguarantee with ⟨-, rfl⟩ | ⟨-, hg⟩
      · exact .refl _
      · exact hg.apart j hj
    have hrecorded : Recorded (FleetAnswer.called site applied).receipt s.world w := by
      rcases hguarantee with ⟨rfl, rfl⟩ | ⟨rfl, hg⟩
      · exact .none rfl
      · exact hg.recorded
    cases rest with
    | none =>
      simp only [advanceJob, hadvance]
      have hlocal : Local i w (w.rollback i) := local_rollback
      exact ⟨h.stop hprogress hapart, hprogress.trans hlocal.progress,
        ⟨hrecorded.fresh, hrecorded.receipts⟩⟩
    | some job =>
      simp only [advanceJob, hadvance]
      refine ⟨h.become hprogress hapart ⟨hrest job rfl, fun o ho => ?_⟩, hprogress, hrecorded⟩
      rcases hinputs o ho with h | h | ⟨runId, hreceipt, hpublished⟩
      · exact .inl h
      · exact .inr (.inl h)
      · refine .inr (.inr ⟨runId, hprogress.receipts _ hreceipt, fun hs hstore => ?_⟩)
        exact hprogress.settled hs _ hreceipt (hpublished hs hstore)

theorem steps_advanceAttempt (h : s.Holds receiptLockKey strict) {a : Attempt ι}
    (ha : s.activity i = .processing a) {fault : Fault WorkerError}
    (hclean : strict → ∀ site ∈ (s.advanceAttempt sha256 receiptLockKey i a fault).2.applied,
      site.Clean s.world) :
    Steps receiptLockKey strict s (s.advanceAttempt sha256 receiptLockKey i a fault) := by
  unfold advanceAttempt at hclean ⊢
  split
  · next hjob =>
    have hreached := h.activity i
    rw [ha] at hreached
    obtain ⟨hdone, hinputs⟩ := hreached
    rw [hjob] at hdone
    obtain ⟨hpending, hsettled⟩ := hdone.done.2 () rfl
    refine steps_become h rfl (reached_nextInput h.world hpending fun o ho => ?_)
    rcases hinputs o ho with rfl | h | h
    · exact .inr hsettled
    · exact .inl h
    · exact .inr h
  · exact steps_become h rfl trivial
  · next hjob =>
    rw [hjob] at hclean
    exact steps_advanceJob h ha hclean

theorem steps_delete (h : s.Holds receiptLockKey strict) {m : Message} {env : FleetEnvironment}
    (ha : s.activity i = .deleting m env) (fault : Fault WorkerError) :
    Steps receiptLockKey strict s (s.delete i m fault) := by
  have hreached := h.activity i
  rw [ha] at hreached
  unfold delete
  split
  · have hprogress : Progress strict s.world
        { s.world with queue := s.world.queue.filter (· ≠ m) } := .of_eq rfl rfl rfl
    have hapart : ∀ j, j ≠ i → Apart receiptLockKey j s.world
        { s.world with queue := s.world.queue.filter (· ≠ m) } :=
      fun _ _ => ⟨rfl, fun _ h => h, fun _ h => h, fun _ _ h => h, fun _ _ h => h⟩
    exact ⟨h.become hprogress hapart hreached.1, hprogress, .none rfl⟩
  · exact steps_stop h rfl
  · exact steps_stop h rfl
  · exact steps_stop h rfl
  · exact steps_stop h rfl

/-- Every step keeps what each Worker has reached. -/
theorem holds_step (h : s.Holds receiptLockKey strict) (x : FleetStep ι)
    (hclean : strict → CleanStep sha256 receiptLockKey s x) :
    Steps receiptLockKey strict s (s.step sha256 receiptLockKey x) := by
  have houtside : ∀ w', (∀ j, Apart receiptLockKey j s.world w') → Progress strict s.world w' →
      w'.committed.receipts = s.world.committed.receipts →
      Steps receiptLockKey strict s ({ s with world := w' }, .outside) := fun w' hapart hprogress hr =>
    ⟨⟨hprogress.sound h.world, fun j => (h.activity j).rely hprogress (hapart j)⟩, hprogress, .none hr⟩
  have hsame : ∀ (w' : World ι), w'.pending = s.world.pending → w'.objectLock = s.world.objectLock →
      w'.rowLock = s.world.rowLock → w'.committed.publications = s.world.committed.publications →
      w'.committed.receipts = s.world.committed.receipts → ∀ j, Apart receiptLockKey j s.world w' := by
    intro w' hpending hobject hrow hpublications hreceipts j
    refine ⟨congrFun hpending j, fun k hk => ?_, fun r hr => ?_, fun _ _ h => ?_, fun _ _ h => ?_⟩
    · rwa [hobject]
    · rwa [hrow]
    · rwa [hpublications]
    · rwa [hreceipts]
  cases x with
  | receive i m env =>
    cases hactivity : s.activity i with
    | idle =>
      by_cases hm : m ∈ s.world.queue
      · simp only [step, hactivity, if_pos hm]
        exact steps_receive h hactivity m env
      · simp only [step, hactivity, if_neg hm]
        exact steps_refl h rfl
    | processing a =>
      simp only [step, hactivity]
      exact steps_refl h rfl
    | deleting m' env' =>
      simp only [step, hactivity]
      exact steps_refl h rfl
    | rollingBack =>
      simp only [step, hactivity]
      exact steps_refl h rfl
  | advance i fault =>
    cases hactivity : s.activity i with
    | idle =>
      simp only [step, advance, hactivity]
      exact steps_refl h rfl
    | processing a =>
      simp only [CleanStep, step, advance, hactivity] at hclean
      simp only [step, advance, hactivity]
      exact steps_advanceAttempt h hactivity hclean
    | deleting m env =>
      simp only [step, advance, hactivity]
      exact steps_delete h hactivity _
    | rollingBack =>
      simp only [step, advance, hactivity]
      exact steps_stop h rfl
  | send m => exact houtside _ (hsame _ rfl rfl rfl rfl rfl) (.of_eq rfl rfl rfl) rfl
  | observe status => exact houtside _ (hsame _ rfl rfl rfl rfl rfl) (.of_eq rfl rfl rfl) rfl

end Step

/-! ## Runs -/

section Runs

variable [DecidableEq ι] (sha256 : Sha256) (receiptLockKey : S3Object → Int) (runIds : List String)
  (runtimes : RuntimeTable) (queue : List Message)

/-- The fleet after some steps from empty tables. -/
def afterSteps (xs : List (FleetStep ι)) : Fleet ι :=
  after (step sha256 receiptLockKey) (initial runIds runtimes queue) xs

/-- What Workers reached in any run. -/
theorem holds_afterSteps (xs : List (FleetStep ι)) :
    (afterSteps sha256 receiptLockKey runIds runtimes queue xs).Holds receiptLockKey False :=
  run_induction _ (P := Holds receiptLockKey False) (fun _ x h => (holds_step h x False.elim).holds)
    (holds_initial runIds runtimes queue) xs

/-- The archive objects stay along a run. -/
theorem archive_monotone {s : Fleet ι} (h : s.Holds receiptLockKey False) (ys : List (FleetStep ι))
    {key : ObjectKey} {content : Bytes} (hcontent : s.world.archive key = some content) :
    (after (step sha256 receiptLockKey) s ys).world.archive key = some content := by
  induction ys generalizing s with
  | nil => exact hcontent
  | cons y ys ih =>
    have hsteps : Steps receiptLockKey False s (s.step sha256 receiptLockKey y) :=
      holds_step h y False.elim
    exact ih hsteps.holds (hsteps.progress.archive key content hcontent)

/-- In every run an archive object that is there stays as it is; where the summary of a
run is, both its objects are, with the bytes of its row; and so are those of a row that
is marked published. -/
theorem archive_in_order (xs : List (FleetStep ι)) :
    (∀ ys key content,
      (afterSteps sha256 receiptLockKey runIds runtimes queue xs).world.archive key = some content →
        (afterSteps sha256 receiptLockKey runIds runtimes queue (xs ++ ys)).world.archive key =
          some content) ∧
      (∀ bucket runId,
        (afterSteps sha256 receiptLockKey runIds runtimes queue xs).world.archive
            ⟨bucket, r1ArchivePrefix ++ "/" ++ runId ++ "/" ++ r1ExtractionSummaryFilename⟩ ≠ none →
          ∃ p ∈ (afterSteps sha256 receiptLockKey runIds runtimes queue xs).world.committed.publications,
            p.runId = runId ∧ p.payload.bucket = bucket ∧
              (afterSteps sha256 receiptLockKey runIds runtimes queue xs).world.Archived p.payload) ∧
      ∀ p ∈ (afterSteps sha256 receiptLockKey runIds runtimes queue xs).world.committed.publications,
        p.status = .published →
          (afterSteps sha256 receiptLockKey runIds runtimes queue xs).world.Archived p.payload := by
  have hholds := holds_afterSteps sha256 receiptLockKey runIds runtimes queue xs
  refine ⟨fun ys key content hcontent => ?_, fun bucket runId hsummary => ?_, hholds.world.published⟩
  · rw [afterSteps, after_append]
    exact archive_monotone sha256 receiptLockKey hholds ys hcontent
  · exact hholds.world.archived_of_key hsummary

end Runs

/-! ## Exactly once -/

/-- The objects that the steps of a trace recorded. -/
def recordedObjects (t : List (FleetStep ι × FleetAnswer)) : List S3Object :=
  t.filterMap fun e => e.2.receipt.map (·.object)

/-- A Worker received a message, and since then it received no other and failed no input. -/
def Attempting (i : ι) (m : Message) (t : List (FleetStep ι × FleetAnswer)) : Prop :=
  ∃ before x since, t = before ++ (x, .received m) :: since ∧ x.worker = some i ∧
    ∀ e ∈ since, e.1.worker = some i → (∀ o, e.2 ≠ .failed o) ∧ ∀ m', e.2 ≠ .received m'

/-- What exactly-once processing says of a run: an object is recorded once; a message is
deleted at the end of an attempt without a failure, when each of its inputs has a receipt
and, where a store of publications is configured, the row of its run is published. -/
structure ProcessedOnce [DecidableEq ι] (sha256 : Sha256) (receiptLockKey : S3Object → Int)
    (s : Fleet ι) (xs : List (FleetStep ι)) : Prop where
  recorded : (recordedObjects (trace (step sha256 receiptLockKey) s xs)).Nodup
  attempted : ∀ before x since i m, trace (step sha256 receiptLockKey) s xs =
    before ++ (x, .deleted m) :: since → x.worker = some i → Attempting i m before
  settled : ∀ before i fault since m, xs = before ++ .advance i fault :: since →
    (step sha256 receiptLockKey (after (step sha256 receiptLockKey) s before) (.advance i fault)).2 =
      .deleted m →
    ∃ env, (after (step sha256 receiptLockKey) s before).activity i = .deleting m env ∧
      ∀ o ∈ m.inputs,
        Settled True env.publicationStore o (after (step sha256 receiptLockKey) s before).world

section Once

variable [DecidableEq ι] {sha256 : Sha256} {receiptLockKey : S3Object → Int} {strict : Prop}
  {s : Fleet ι} {i : ι} {m : Message} {t : List (FleetStep ι × FleetAnswer)}

/-- The objects with a receipt are those that were recorded, each once. -/
def RecordedOnce (s : Fleet ι) (t : List (FleetStep ι × FleetAnswer)) : Prop :=
  (recordedObjects t).Nodup ∧
    ∀ o ∈ recordedObjects t, ∃ r ∈ s.world.committed.receipts, r.object = o

theorem recordedOnce_step (h : RecordedOnce s t) (hs : s.Holds receiptLockKey strict) (x : FleetStep ι)
    (hclean : strict → CleanStep sha256 receiptLockKey s x) :
    RecordedOnce (s.step sha256 receiptLockKey x).1
      (t ++ [(x, (s.step sha256 receiptLockKey x).2)]) := by
  have hsteps := holds_step hs x hclean
  have hrecorded : recordedObjects (t ++ [(x, (s.step sha256 receiptLockKey x).2)]) =
      recordedObjects t ++ ((s.step sha256 receiptLockKey x).2.receipt.map (·.object)).toList := by
    rw [recordedObjects, List.filterMap_append, List.filterMap_cons, List.filterMap_nil]
    cases (s.step sha256 receiptLockKey x).2.receipt <;> rfl
  rw [RecordedOnce, hrecorded]
  have hold : ∀ o ∈ recordedObjects t,
      ∃ r ∈ (s.step sha256 receiptLockKey x).1.world.committed.receipts, r.object = o := by
    intro o ho
    obtain ⟨r, hr, hobject⟩ := h.2 o ho
    exact ⟨r, hsteps.progress.receipts r hr, hobject⟩
  cases hreceipt : (s.step sha256 receiptLockKey x).2.receipt with
  | none =>
    rw [Option.map_none, Option.toList_none, List.append_nil]
    exact ⟨h.1, hold⟩
  | some r =>
    have hfresh := hsteps.recorded.fresh r hreceipt
    have hnew : r ∈ (s.step sha256 receiptLockKey x).1.world.committed.receipts :=
      (hsteps.recorded.receipts r).mpr (.inr hreceipt)
    refine ⟨List.nodup_append.mpr ⟨h.1, List.nodup_singleton _, fun a ha b hb => ?_⟩, fun o ho => ?_⟩
    · rintro rfl
      obtain ⟨r', hr', hobject⟩ := h.2 a ha
      exact hfresh r' hr' (hobject.trans (List.mem_singleton.mp hb))
    · rcases List.mem_append.mp ho with ho | ho
      · exact hold o ho
      · exact ⟨r, hnew, (List.mem_singleton.mp ho).symm⟩

/-- What a Worker does is part of an attempt. -/
def InAttempt (i : ι) (t : List (FleetStep ι × FleetAnswer)) : Activity ι → Prop
  | .processing a => Attempting i a.message t
  | .deleting m _ => Attempting i m t
  | _ => True

omit [DecidableEq ι] in
theorem Attempting.snoc (h : Attempting i m t) {x : FleetStep ι} {answer : FleetAnswer}
    (hx : x.worker = some i → (∀ o, answer ≠ .failed o) ∧ ∀ m', answer ≠ .received m') :
    Attempting i m (t ++ [(x, answer)]) := by
  obtain ⟨before, y, since, rfl, hy, hsince⟩ := h
  refine ⟨before, y, since ++ [(x, answer)], by simp, hy, fun e he => ?_⟩
  rcases List.mem_append.mp he with he | he
  · exact hsince e he
  · obtain rfl := List.mem_singleton.mp he
    exact hx

omit [DecidableEq ι] in
theorem InAttempt.snoc {activity : Activity ι} (h : InAttempt i t activity) {x : FleetStep ι}
    {answer : FleetAnswer}
    (hx : x.worker = some i → (∀ o, answer ≠ .failed o) ∧ ∀ m', answer ≠ .received m') :
    InAttempt i (t ++ [(x, answer)]) activity := by
  cases activity with
  | idle => trivial
  | processing a => exact Attempting.snoc h hx
  | deleting m env => exact Attempting.snoc h hx
  | rollingBack => trivial

omit [DecidableEq ι] in
theorem attempting_received {x : FleetStep ι} (hx : x.worker = some i) :
    Attempting i m (t ++ [(x, .received m)]) :=
  ⟨t, x, [], rfl, hx, fun _ he => absurd he List.not_mem_nil⟩

theorem inAttempt_nextInput {env : FleetEnvironment} {remaining : List S3Object}
    (h : Attempting i m t) :
    InAttempt i t (nextInput sha256 receiptLockKey i m env remaining) := by
  cases remaining with
  | nil => exact h
  | cons object remaining => exact h

omit [DecidableEq ι] in
theorem Attempting.snoc_of_ne (h : Attempting i m t) (x : FleetStep ι) {answer : FleetAnswer}
    (hfailed : ∀ o, answer ≠ .failed o) (hreceived : ∀ m', answer ≠ .received m') :
    Attempting i m (t ++ [(x, answer)]) := h.snoc fun _ => ⟨hfailed, hreceived⟩

/-- A Worker goes on with its attempt until it ends or fails. -/
theorem inAttempt_advance (x : FleetStep ι) (h : InAttempt i t (s.activity i))
    (fault : Fault WorkerError) :
    InAttempt i (t ++ [(x, (s.advance sha256 receiptLockKey i fault).2)])
      ((s.advance sha256 receiptLockKey i fault).1.activity i) := by
  have hself : ∀ (s : Fleet ι) (activity : Activity ι), (s.become i activity).activity i = activity :=
    fun s activity => Function.update_self ..
  have hstop : ∀ s : Fleet ι, (s.stop i).activity i = .idle := fun s => Function.update_self ..
  cases hactivity : s.activity i with
  | idle =>
    simp only [advance, hactivity]
    trivial
  | rollingBack =>
    simp only [advance, hactivity, hstop]
    trivial
  | deleting m env =>
    simp only [advance, hactivity]
    unfold delete
    split
    · rw [hself]
      trivial
    · rw [hstop]
      trivial
    · rw [hstop]
      trivial
    · rw [hstop]
      trivial
    · rw [hstop]
      trivial
  | processing a =>
    rw [hactivity] at h
    have ha : Attempting i a.message t := h
    simp only [advance, hactivity]
    unfold advanceAttempt
    split
    · rw [hself]
      exact inAttempt_nextInput (ha.snoc_of_ne x (fun _ h => by cases h) fun _ h => by cases h)
    · rw [hself]
      trivial
    · unfold advanceJob
      split
      · rw [hactivity]
        exact ha.snoc_of_ne x (fun _ h => by cases h) fun _ h => by cases h
      · rw [hactivity]
        exact ha.snoc_of_ne x (fun _ h => by cases h) fun _ h => by cases h
      · next site applied job w _ =>
        show InAttempt i _ ((s.become i (.processing { a with job := job })).activity i)
        rw [hself]
        exact ha.snoc_of_ne x (fun _ h => by cases h) fun _ h => by cases h
      · rw [hstop]
        trivial

/-- What the Worker of a step does next. -/
theorem inAttempt_self (x : FleetStep ι) (hx : x.worker = some i)
    (h : InAttempt i t (s.activity i)) :
    InAttempt i (t ++ [(x, (s.step sha256 receiptLockKey x).2)])
      ((s.step sha256 receiptLockKey x).1.activity i) := by
  have hself : ∀ (s : Fleet ι) (activity : Activity ι), (s.become i activity).activity i = activity :=
    fun s activity => Function.update_self ..
  have hsame : ∀ answer : FleetAnswer, (∀ o, answer ≠ .failed o) → (∀ m', answer ≠ .received m') →
      InAttempt i (t ++ [(x, answer)]) (s.activity i) := fun answer hf hr => h.snoc fun _ => ⟨hf, hr⟩
  cases x with
  | receive j m env =>
    obtain rfl : j = i := Option.some.inj hx
    cases hactivity : s.activity j with
    | idle =>
      by_cases hm : m ∈ s.world.queue
      · simp only [step, hactivity, if_pos hm, receive]
        split
        · rw [hself]
          exact attempting_received hx
        · rw [hself]
          trivial
        · rw [hself]
          exact inAttempt_nextInput (attempting_received hx)
      · simp only [step, hactivity, if_neg hm]
        trivial
    | processing a =>
      simp only [step, hactivity]
      rw [← hactivity]
      exact hsame _ (fun _ h => by cases h) (fun _ h => by cases h)
    | deleting m' env' =>
      simp only [step, hactivity]
      rw [← hactivity]
      exact hsame _ (fun _ h => by cases h) (fun _ h => by cases h)
    | rollingBack =>
      simp only [step, hactivity]
      trivial
  | advance j fault =>
    obtain rfl : j = i := Option.some.inj hx
    exact inAttempt_advance _ h _
  | send m => cases hx
  | observe status => cases hx

theorem become_of_ne {j : ι} (hj : i ≠ j) (activity : Activity ι) :
    (s.become j activity).activity i = s.activity i := Function.update_of_ne hj _ _

/-- Another Worker stays where it is. -/
theorem activity_advance {j : ι} (hj : i ≠ j) (fault : Fault WorkerError) :
    (s.advance sha256 receiptLockKey j fault).1.activity i = s.activity i := by
  unfold advance
  split
  · rfl
  · unfold advanceAttempt
    split
    · exact become_of_ne hj _
    · exact become_of_ne hj _
    · unfold advanceJob
      split
      · rfl
      · rfl
      · exact become_of_ne hj _
      · exact become_of_ne hj _
  · unfold delete
    split
    · exact become_of_ne hj _
    · exact become_of_ne hj _
    · exact become_of_ne hj _
    · exact become_of_ne hj _
    · exact become_of_ne hj _
  · exact become_of_ne hj _

theorem activity_other (x : FleetStep ι) (hx : x.worker ≠ some i) :
    (s.step sha256 receiptLockKey x).1.activity i = s.activity i := by
  cases x with
  | receive j m env =>
    have hj : i ≠ j := fun h => hx (congrArg some h.symm)
    simp only [step]
    split
    · split
      · unfold receive
        split
        · exact become_of_ne hj _
        · exact become_of_ne hj _
        · exact become_of_ne hj _
      · rfl
    · rfl
  | advance j fault =>
    have hj : i ≠ j := fun h => hx (congrArg some h.symm)
    exact activity_advance hj _
  | send m => rfl
  | observe status => rfl

theorem inAttempt_step (x : FleetStep ι) (h : ∀ i, InAttempt i t (s.activity i)) (i : ι) :
    InAttempt i (t ++ [(x, (s.step sha256 receiptLockKey x).2)])
      ((s.step sha256 receiptLockKey x).1.activity i) := by
  by_cases hx : x.worker = some i
  · exact inAttempt_self x hx (h i)
  · rw [activity_other x hx]
    exact (h i).snoc fun h => absurd h hx

/-- A message is deleted by a Worker that has come to its end. -/
theorem deleting_of_deleted {x : FleetStep ι}
    (h : (s.step sha256 receiptLockKey x).2 = .deleted m) :
    ∃ i fault env, x = .advance i fault ∧ s.activity i = .deleting m env := by
  cases x with
  | receive i m' env =>
    simp only [step] at h
    split at h
    · split at h
      · unfold receive at h
        split at h
        · cases h
        · cases h
        · cases h
      · cases h
    · cases h
  | advance i fault =>
    unfold step advance at h
    cases hactivity : s.activity i with
    | idle =>
      simp only [hactivity] at h
      cases h
    | processing a =>
      simp only [hactivity] at h
      unfold advanceAttempt at h
      split at h
      · cases h
      · cases h
      · unfold advanceJob at h
        split at h
        · cases h
        · cases h
        · cases h
        · cases h
    | deleting m' env =>
      refine ⟨i, fault, env, rfl, ?_⟩
      simp only [hactivity] at h
      unfold delete at h
      split at h
      · rw [FleetAnswer.deleted.inj h] at hactivity
        exact hactivity
      · rw [FleetAnswer.deleted.inj h] at hactivity
        exact hactivity
      · rw [FleetAnswer.deleted.inj h] at hactivity
        exact hactivity
      · cases h
      · cases h
    | rollingBack =>
      simp only [hactivity] at h
      cases h
  | send m' => cases h
  | observe status => cases h

/-- Every deletion of a trace ends an attempt. -/
def DeletedInAttempt (t : List (FleetStep ι × FleetAnswer)) : Prop :=
  ∀ before x since i m, t = before ++ (x, .deleted m) :: since → x.worker = some i →
    Attempting i m before

theorem deletedInAttempt_step (x : FleetStep ι) (h : DeletedInAttempt t)
    (hattempt : ∀ i, InAttempt i t (s.activity i)) :
    DeletedInAttempt (t ++ [(x, (s.step sha256 receiptLockKey x).2)]) := by
  intro before y since i m heq hy
  rcases split_append_singleton heq with ⟨hbefore, hlast⟩ | ⟨since', hbefore⟩
  · obtain ⟨rfl, hanswer⟩ := Prod.mk.inj hlast
    obtain ⟨j, fault, env, rfl, hactivity⟩ := deleting_of_deleted hanswer
    obtain rfl : j = i := Option.some.inj hy
    have hdeleting := hattempt j
    rw [hactivity] at hdeleting
    exact hbefore ▸ hdeleting
  · exact h before y since' i m hbefore hy

variable (sha256 receiptLockKey) (runIds : List String) (runtimes : RuntimeTable)
  (queue : List Message) (xs : List (FleetStep ι))

/-- No object is recorded twice, in any run. -/
theorem recordedOnce_run :
    RecordedOnce (afterSteps sha256 receiptLockKey runIds runtimes queue xs)
      (trace (step sha256 receiptLockKey) (initial runIds runtimes queue) xs) := by
  have hrun := run_trace_induction (step sha256 receiptLockKey)
    (P := fun s t => s.Holds receiptLockKey False ∧ RecordedOnce s t)
    (s := initial runIds runtimes queue)
    ⟨holds_initial runIds runtimes queue, List.nodup_nil, fun _ h => absurd h List.not_mem_nil⟩
    (fun s t x h => ⟨(holds_step h.1 x False.elim).holds, recordedOnce_step h.2 h.1 x False.elim⟩) xs
  exact hrun.2

/-- Every deletion ends an attempt without a failure, in any run. -/
theorem deletedInAttempt_run :
    DeletedInAttempt (trace (step sha256 receiptLockKey) (initial runIds runtimes queue : Fleet ι) xs) := by
  have hrun := run_trace_induction (step sha256 receiptLockKey)
    (P := fun s t => (∀ i, InAttempt i t (s.activity i)) ∧ DeletedInAttempt t)
    (s := (initial runIds runtimes queue : Fleet ι))
    ⟨fun _ => trivial, fun before x since i m h => by simp at h⟩
    (fun s t x h => ⟨inAttempt_step x h.1, deletedInAttempt_step x h.2 h.1⟩) xs
  exact hrun.2

/-- A run whose commits are clean processes every input once. -/
theorem processedOnce_of_clean
    (h : Meets (step sha256 receiptLockKey) (CleanStep sha256 receiptLockKey)
      (initial runIds runtimes queue) xs) :
    ProcessedOnce sha256 receiptLockKey (initial runIds runtimes queue) xs where
  recorded := (recordedOnce_run sha256 receiptLockKey runIds runtimes queue xs).1
  attempted := deletedInAttempt_run sha256 receiptLockKey runIds runtimes queue xs
  settled before i fault since m heq hdeleted := by
    have hpre : before <+: xs := ⟨.advance i fault :: since, heq.symm⟩
    have hholds := run_of_meets (step sha256 receiptLockKey) (P := Holds receiptLockKey True)
      (fun s x hs hc => (holds_step hs x fun _ => hc).holds) (holds_initial runIds runtimes queue)
      (h.of_prefix hpre)
    obtain ⟨j, fault', env, hx, hactivity⟩ := deleting_of_deleted hdeleted
    obtain ⟨rfl, -⟩ := FleetStep.advance.inj hx
    have hreached := hholds.activity i
    rw [hactivity] at hreached
    exact ⟨env, hactivity, hreached.2⟩

end Once

/-! ## Two Workers on one message -/

theorem letterDigest_nonblank (content : Bytes) :
    isBlank ("h" ++ String.ofList (content.map fun b => Char.ofNat b.toNat)) = false := by
  have hmem : 'h' ∈ ("h" ++ String.ofList (content.map fun b => Char.ofNat b.toNat)).toList := by
    simp
  exact Worker.isBlank_eq_false hmem rfl

/-- A digest that spells the content. -/
def letterDigest : Sha256 where
  hexdigest content := "h" ++ String.ofList (content.map fun b => Char.ofNat b.toNat)
  nonblank := letterDigest_nonblank

/-- An uploaded Sysmon log. -/
def sysmonLog (name : String) : S3Object := ⟨"sysmon-bucket", name, "etag-1"⟩

theorem archiveBucket_nonblank : isBlank "archive-bucket" = false := by decide

/-- The archive of a log, which spells its name. -/
def archiveOfLog (object : S3Object) : R1GeneratedArchive where
  bucket := "archive-bucket"
  evidenceContent := object.key.toList.map fun c => c.toNat.toUInt8
  summaryContent := []
  bucket_nonblank := archiveBucket_nonblank

def archivingEnvironment : FleetEnvironment where
  date := "20260101"
  standalone object _ := ⟨none, .ok (some (archiveOfLog object))⟩
  clock _ := 0

/-- A notification of two logs. -/
def twoLogs : Message := ⟨"receipt-1", .records [sysmonLog "a", sysmonLog "b"]⟩

/-- The next steps of a Worker, without a fault. -/
def advances (i : Fin 2) (n : Nat) : List (FleetStep (Fin 2)) := List.replicate n (.advance i .none)

def firstWorker : Fin 2 := ⟨0, Nat.two_pos⟩

def secondWorker : Fin 2 := ⟨1, Nat.one_lt_two⟩

/-- Idle Workers and one message. -/
def oneMessage : Fleet (Fin 2) := initial [] .empty [twoLogs]

/-- While the Worker processes the second log, the message is redelivered to another one, and
both come to its end. -/
def redeliveredRun : List (FleetStep (Fin 2)) :=
  .receive firstWorker twoLogs archivingEnvironment :: advances firstWorker 16 ++
    .receive secondWorker twoLogs archivingEnvironment :: advances secondWorker 20 ++
      advances firstWorker 12 ++ advances secondWorker 20

theorem processedOnce_of_clean_redelivered :
    Meets (step letterDigest fun _ => 0) (CleanStep letterDigest fun _ => 0) oneMessage
        redeliveredRun ∧
      ProcessedOnce letterDigest (fun _ => 0) oneMessage redeliveredRun := by
  have hclean : Meets (step letterDigest fun _ => 0) (CleanStep letterDigest fun _ => 0) oneMessage
      redeliveredRun := by
    decide +kernel
  exact ⟨hclean,
    processedOnce_of_clean letterDigest (fun _ => 0) [] .empty [twoLogs] redeliveredRun hclean⟩

/-- While the Worker processes the second log, the message is redelivered to another one,
whose upload of the first log's summary fails. -/
def overlappingRun : List (FleetStep (Fin 2)) :=
  .receive firstWorker twoLogs archivingEnvironment :: advances firstWorker 16 ++
    .receive secondWorker twoLogs archivingEnvironment :: advances secondWorker 4 ++
    .advance secondWorker (.raises (.clientError "InternalError") false) ::
      advances secondWorker 4 ++ advances firstWorker 16

/-- The message is deleted while the row of its first log is retryable. -/
theorem processedOnce_fails :
    ¬ ProcessedOnce letterDigest (fun _ => 0) oneMessage (overlappingRun ++ [.advance 0 .none]) := by
  intro h
  have hdeleted : (step letterDigest (fun _ => 0)
      (after (step letterDigest fun _ => 0) oneMessage overlappingRun) (.advance 0 .none)).2 =
        .deleted twoLogs := by
    decide +kernel
  have hstore : ((after (step letterDigest fun _ => 0) oneMessage overlappingRun).activity
      0).storesPublications = true := by
    decide +kernel
  have hreceipts : (after (step letterDigest fun _ => 0) oneMessage
      overlappingRun).world.committed.receipts.rows =
        [⟨sysmonLog "a", "RUN-20260101-001"⟩, ⟨sysmonLog "b", "RUN-20260101-002"⟩] := by
    decide +kernel
  have hrows : (after (step letterDigest fun _ => 0) oneMessage
      overlappingRun).world.committed.publications.rows.map (fun p => (p.runId, p.status)) =
        [("RUN-20260101-001", .retryable), ("RUN-20260101-002", .published)] := by
    decide +kernel
  obtain ⟨env, hactivity, hsettled⟩ := h.settled overlappingRun 0 .none [] twoLogs rfl hdeleted
  rw [hactivity] at hstore
  obtain ⟨runId, hreceipt, hpublished⟩ := hsettled (sysmonLog "a") List.mem_cons_self
  have hrun : runId = "RUN-20260101-001" := by
    rw [Table.mem_def, hreceipts] at hreceipt
    have hne : sysmonLog "a" ≠ sysmonLog "b" := by decide
    simpa [hne] using hreceipt
  have hrow : ("RUN-20260101-001", PublicationStatus.retryable) ∈
      (after (step letterDigest fun _ => 0) oneMessage
        overlappingRun).world.committed.publications.rows.map (fun p => (p.runId, p.status)) := by
    rw [hrows]
    exact List.mem_cons_self
  obtain ⟨p, hp, hfields⟩ := List.mem_map.mp hrow
  obtain ⟨hprun, hstatus⟩ := Prod.mk.inj hfields
  have hp' := hpublished trivial hstore p hp (hprun.trans hrun.symm)
  rw [hstatus] at hp'
  cases hp'

end Fleet

end IncidentAwareness.Archive
