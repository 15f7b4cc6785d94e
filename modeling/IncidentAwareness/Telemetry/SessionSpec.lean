import IncidentAwareness.Telemetry.Session
import IncidentAwareness.Telemetry.StoreSpec
import Mathlib.Data.List.DropRight

/-!
# What telemetry flushes deliver

A session, its observer and the store stay in step (`Session.Sound`): what is stored,
saved and pending are snapshots of the collector in the order of their revisions, and
the two failure counters agree. One call of the observer that answers with success
leaves the snapshot passed to it stored (`step_sound`), and over a run the stored
revision does not decrease (`run_sound`).
-/

namespace IncidentAwareness.Telemetry

open IncidentAwareness.Common IncidentAwareness.Lib

/-! ## The collector's revisions -/

namespace PipelineTelemetryCollector

variable {c c' : PipelineTelemetryCollector}

/-- What every call on a collector preserves: its published snapshot, its revision, which may
rise, and that it is disabled. -/
structure Grows (c c' : PipelineTelemetryCollector) : Prop where
  published : c'.published = c.published
  revision : c.revision ≤ c'.revision
  disabled : c.disabled = true → c'.disabled = true

theorem Grows.refl (c : PipelineTelemetryCollector) : c.Grows c := ⟨rfl, le_refl _, id⟩

theorem Grows.trans {c'' : PipelineTelemetryCollector} (h : c.Grows c') (h' : c'.Grows c'') :
    c.Grows c'' :=
  ⟨h'.published.trans h.published, h.revision.trans h'.revision, fun hd => h'.disabled (h.disabled hd)⟩

theorem grows_markIssue (c : PipelineTelemetryCollector) (issue : TelemetryObservationIssue) :
    c.Grows (c.markIssue issue) := by
  unfold markIssue
  split
  · exact .refl c
  · exact ⟨rfl, Nat.le_succ _, id⟩

theorem grows_disable (c : PipelineTelemetryCollector) : c.Grows c.disable := by
  unfold disable
  split
  · exact .refl c
  · exact ⟨rfl, Nat.le_succ _, fun _ => rfl⟩

theorem disabled_disable (c : PipelineTelemetryCollector) : c.disable.disabled = true := by
  unfold disable
  split
  · assumption
  · rfl

theorem grows_failed (c : PipelineTelemetryCollector) (issue : TelemetryObservationIssue) :
    c.Grows (c.failed issue) := (grows_markIssue c issue).trans (grows_disable _)

theorem grows_markObservationIssue (c : PipelineTelemetryCollector)
    (issue : TelemetryObservationIssue) (disable : Bool) :
    c.Grows (c.markObservationIssue issue disable) := by
  unfold markObservationIssue
  split
  · exact grows_failed c issue
  · exact grows_markIssue c issue

theorem disabled_markObservationIssue (c : PipelineTelemetryCollector)
    (issue : TelemetryObservationIssue) : (c.markObservationIssue issue true).disabled = true :=
  disabled_disable _

theorem grows_readMonotonic (c : PipelineTelemetryCollector) (monotonic : Option Nat) :
    c.Grows (c.readMonotonic monotonic) := by
  unfold readMonotonic
  split
  · exact grows_markIssue c _
  · exact .refl c

theorem grows_endTiming (c : PipelineTelemetryCollector) (started monotonic : Option Nat) :
    c.Grows (c.endTiming started monotonic) := by
  unfold endTiming
  dsimp only
  split
  · exact (grows_readMonotonic c monotonic).trans (grows_markIssue _ _)
  · exact grows_readMonotonic c monotonic

theorem grows_recordObservation {now : Int} {o : Observation}
    (h : c.recordObservation now o = .ok c') : c.Grows c' := by
  unfold recordObservation at h
  rw [raiseIf_bind_eq_ok, raiseIf_bind_eq_ok, raiseIf_bind_eq_ok, Except.pure_eq_ok] at h
  obtain ⟨-, -, -, rfl⟩ := h
  exact ⟨rfl, Nat.le_succ _, id⟩

theorem grows_accept {inputTotal : Int} {clock : Option Int} (h : c.accept inputTotal clock = .ok c') :
    c.Grows c' := by
  unfold accept at h
  rw [raiseIf_bind_eq_ok] at h
  obtain ⟨-, h⟩ := h
  split at h
  · rw [raiseIf_bind_eq_ok, Except.pure_eq_ok] at h
    rw [h.2]
    exact .refl c
  · rw [Except.bind_eq_ok] at h
    obtain ⟨now, -, h⟩ := h
    rw [Except.bind_eq_ok] at h
    obtain ⟨mid, hmid, h⟩ := h
    rw [Except.pure_eq_ok] at h
    subst h
    have hgrows := grows_recordObservation hmid
    exact ⟨hgrows.published, hgrows.revision, hgrows.disabled⟩

theorem grows_acceptBatch (c : PipelineTelemetryCollector) (inputTotal : Int) (clock : Option Int) :
    c.Grows (c.acceptBatch inputTotal clock) := by
  unfold acceptBatch
  split
  · exact .refl c
  · split
    · next h => exact grows_accept h
    · exact grows_failed c _

theorem grows_start {recordNo : Int} {monotonic : Option Nat} {token : Option RecordToken}
    (h : c.start recordNo monotonic = .ok (c', token)) : c.Grows c' := by
  unfold start at h
  rw [raiseIf_bind_eq_ok] at h
  obtain ⟨-, h⟩ := h
  split at h
  · obtain ⟨rfl, -⟩ := Prod.mk.inj (Except.ok.inj h)
    exact .refl c
  · rw [raiseIf_bind_eq_ok] at h
    obtain ⟨rfl, -⟩ := Prod.mk.inj (Except.ok.inj h.2)
    have hgrows := grows_readMonotonic c monotonic
    exact ⟨hgrows.published, hgrows.revision, hgrows.disabled⟩

theorem grows_beginRecord (c : PipelineTelemetryCollector) (recordNo : Int) (monotonic : Option Nat) :
    c.Grows (c.beginRecord recordNo monotonic).1 := by
  unfold beginRecord
  split
  · exact .refl c
  · split
    · next r h =>
      obtain ⟨next, token⟩ := r
      exact grows_start h
    · exact grows_failed c _

theorem grows_complete (c : PipelineTelemetryCollector) (record : Nat × Option Nat) (succeeded : Bool)
    (monotonic : Option Nat) (clock : Option Int) :
    c.Grows (c.complete record succeeded monotonic clock).1 := by
  have htimed : c.Grows (if succeeded then c.endTiming record.2 monotonic else c) := by
    split
    · exact grows_endTiming c _ _
    · exact .refl c
  unfold complete
  dsimp only
  split
  · next h =>
    rw [Except.bind_eq_ok] at h
    obtain ⟨now, -, h⟩ := h
    have hgrows := htimed.trans (grows_recordObservation h)
    exact ⟨hgrows.published, hgrows.revision, hgrows.disabled⟩
  · exact htimed

theorem grows_finish (c : PipelineTelemetryCollector) (token : Option RecordToken) (succeeded : Bool)
    (monotonic : Option Nat) (clock : Option Int) :
    c.Grows (c.finish token succeeded monotonic clock).1 := by
  unfold finish
  split
  · exact .refl c
  · exact .refl c
  · split
    · exact .refl c
    · split
      · exact .refl c
      · exact grows_complete c _ succeeded monotonic clock

theorem grows_finishRecord (c : PipelineTelemetryCollector) (token : Option RecordToken)
    (succeeded : Bool) (monotonic : Option Nat) (clock : Option Int) :
    c.Grows (c.finishRecord token succeeded monotonic clock) := by
  have hfinish := grows_finish c token succeeded monotonic clock
  unfold finishRecord
  split
  · exact .refl c
  · split
    · next h =>
      rw [h] at hfinish
      exact hfinish
    · next h =>
      rw [h] at hfinish
      exact hfinish.trans (grows_failed _ _)

/-- What taking a snapshot preserves: the revision, which may rise, the execution and that the
collector is disabled. A snapshot that is taken is the published one, of the collector's
revision. -/
theorem snapshot_spec (c : PipelineTelemetryCollector) :
    c.revision ≤ c.snapshot.1.revision ∧
      c.snapshot.1.published.val.executionId = c.published.val.executionId ∧
      (c.disabled = true → c.snapshot.1.disabled = true) ∧
      (c.published.val.revision ≤ c.revision →
        c.snapshot.1.published.val.revision ≤ c.snapshot.1.revision) ∧
      ∀ s, c.snapshot.2 = .ok s → c.snapshot.1.published = s ∧ s.val.revision = c.snapshot.1.revision := by
  unfold snapshot
  split
  · next h => exact ⟨le_refl _, rfl, id, id, fun s hs => ⟨Except.ok.inj hs, by rw [← Except.ok.inj hs, h]⟩⟩
  · split
    · next s hbuild =>
      have hval : s.val.executionId = c.published.val.executionId ∧ s.val.revision = c.revision := by
        unfold buildSnapshot at hbuild
        rw [Except.bind_eq_ok] at hbuild
        obtain ⟨buckets, -, hs⟩ := hbuild
        rw [val_of_construct hs]
        exact ⟨rfl, rfl⟩
      refine ⟨le_refl _, hval.1, id, fun _ => hval.2.le, fun t ht => ?_⟩
      obtain rfl : s = t := Except.ok.inj ht
      exact ⟨rfl, hval.2⟩
    · have hfailed := grows_failed c .internalError
      dsimp only
      split
      · next s hs =>
        have hval : s.val = (c.failed .internalError).retainedFields := val_of_construct hs
        have hexec : s.val.executionId = c.published.val.executionId := by
          rw [hval]
          show (c.failed .internalError).published.val.executionId = _
          rw [hfailed.published]
        have hrev : s.val.revision = (c.failed .internalError).revision := by
          rw [hval]
          rfl
        refine ⟨hfailed.revision, hexec, hfailed.disabled, fun _ => hrev.le, fun t ht => ?_⟩
        obtain rfl : s = t := Except.ok.inj ht
        exact ⟨rfl, hrev⟩
      · refine ⟨hfailed.revision, ?_, hfailed.disabled, fun h => ?_, fun t ht => absurd ht (by simp)⟩
        · rw [hfailed.published]
        · rw [hfailed.published]
          exact h.trans hfailed.revision

/-- A snapshot that was taken is taken again as long as nothing is observed. -/
theorem snapshot_again {s : PipelineTelemetrySnapshot} (h : c.snapshot = (c', .ok s)) :
    c'.snapshot = (c', .ok s) := by
  have hspec := (snapshot_spec c).2.2.2.2 s (by rw [h])
  rw [h] at hspec
  unfold snapshot
  rw [if_pos (by rw [hspec.1, hspec.2]), hspec.1]

end PipelineTelemetryCollector

/-! ## One attempt -/

/-- A stored snapshot stays or is replaced by a later one. -/
def Later (old new : Option PipelineTelemetrySnapshot) : Prop :=
  ∀ p, old = some p → ∃ q, new = some q ∧ (p = q ∨ p.val.revision < q.val.revision)

theorem Later.refl (old : Option PipelineTelemetrySnapshot) : Later old old :=
  fun p hp => ⟨p, hp, .inl rfl⟩

theorem Later.trans {a b c : Option PipelineTelemetrySnapshot} (h : Later a b) (h' : Later b c) :
    Later a c := by
  intro p hp
  obtain ⟨q, hq, hpq⟩ := h p hp
  obtain ⟨r, hr, hqr⟩ := h' q hq
  refine ⟨r, hr, ?_⟩
  rcases hpq with rfl | hpq
  · exact hqr
  · rcases hqr with rfl | hqr
    · exact .inr hpq
    · exact .inr (hpq.trans hqr)

variable {latest : String → Option PipelineTelemetrySnapshot} {store saved : TelemetryStore}
  {snapshot : PipelineTelemetrySnapshot}

/-- A save that returned leaves its snapshot stored where no later one was. -/
theorem TelemetryStore.Holds.saveSnapshot_stores (h : store.Holds latest)
    (hbehind : ∀ p, latest snapshot.val.executionId = some p →
      p.val.revision ≤ snapshot.val.revision) {now : Int} {wrote : Bool}
    (hs : store.saveSnapshot snapshot now = .ok (saved, wrote)) :
    ∃ latest', saved.Holds latest' ∧
      Later (latest snapshot.val.executionId) (latest' snapshot.val.executionId) ∧
      latest' snapshot.val.executionId = some snapshot := by
  cases wrote with
  | true =>
    obtain ⟨hholds, hnewer⟩ := h.saveSnapshot_wrote hs
    refine ⟨_, hholds, fun p hp => ?_, Function.update_self _ _ _⟩
    exact ⟨snapshot, Function.update_self _ _ _, .inr (hnewer p hp)⟩
  | false =>
    obtain ⟨rfl, p, hp, hle⟩ := h.saveSnapshot_kept hs
    have hsame : snapshot = p := by
      rcases hle with hlt | hsame
      · exact absurd (hbehind p hp) (Nat.not_le.mpr hlt)
      · exact hsame
    exact ⟨latest, h, .refl _, hsame ▸ hp⟩

namespace Observer

variable {o o' : Observer}

/-- Nothing that is stored, pending or was saved last is ahead of a revision, and what was saved
last is stored or was replaced by a later snapshot. -/
structure Behind (o : Observer) (revision : Nat) (stored : Option PipelineTelemetrySnapshot) :
    Prop where
  storedBehind : ∀ p, stored = some p → p.val.revision ≤ revision
  pendingBehind : ∀ q, o.pending = some q → q.val.revision ≤ revision
  lastSaved : Later o.lastSaved stored

theorem Behind.mono {revision revision' : Nat} {stored : Option PipelineTelemetrySnapshot}
    (h : o.Behind revision stored) (hle : revision ≤ revision') : o.Behind revision' stored where
  storedBehind p hp := (h.storedBehind p hp).trans hle
  pendingBehind q hq := (h.pendingBehind q hq).trans hle
  lastSaved := h.lastSaved

/-- A snapshot that is buffered is pending, unless a later one is kept. -/
theorem buffer_eq_ok (h : o.buffer snapshot = .ok o') :
    o' = { o with pending := some snapshot } ∨
      o' = o ∧ ∃ reference, (o.pending <|> o.lastSaved) = some reference ∧
        snapshot.val.revision < reference.val.revision := by
  unfold buffer at h
  rw [raiseIf_bind_eq_ok] at h
  obtain ⟨-, h⟩ := h
  split at h
  · exact .inl (Except.ok.inj h).symm
  · next reference href =>
    rw [raiseIf_bind_eq_ok] at h
    obtain ⟨-, h⟩ := h
    split at h
    · next hlt => exact .inr ⟨(Except.ok.inj h).symm, reference, href, hlt⟩
    · rw [raiseIf_bind_eq_ok] at h
      exact .inl (Except.ok.inj h.2).symm

/-- Behind the snapshot's revision there is no later one that buffering would keep. -/
theorem Behind.buffer_eq_ok {stored : Option PipelineTelemetrySnapshot}
    (h : o.Behind snapshot.val.revision stored) (hbuffer : o.buffer snapshot = .ok o') :
    o' = { o with pending := some snapshot } := by
  rcases Observer.buffer_eq_ok hbuffer with heq | ⟨-, reference, href, hlt⟩
  · exact heq
  · have hle : reference.val.revision ≤ snapshot.val.revision := by
      cases hpending : o.pending with
      | some q =>
        rw [hpending] at href
        obtain rfl : q = reference := Option.some.inj href
        exact h.pendingBehind q hpending
      | none =>
        rw [hpending] at href
        obtain ⟨p, hp, hrel⟩ := h.lastSaved reference href
        have hstored := h.storedBehind p hp
        rcases hrel with rfl | hrel
        · exact hstored
        · omega
    omega

/-- What one attempt to store a snapshot does: it answers with success only where the snapshot is
stored, and counts a failure otherwise. -/
structure Attempted (o o' : Observer) (snapshot : PipelineTelemetrySnapshot)
    (stored : Option PipelineTelemetrySnapshot) (answer : Bool) : Prop where
  behind : o'.Behind snapshot.val.revision stored
  success : answer = true → stored = some snapshot
  counted : o'.consecutiveFailures = if answer then 0 else o.consecutiveFailures + 1
  disabled : o'.disabled = decide (maxFailures ≤ o'.consecutiveFailures)
  isOpen : o'.closed = false

theorem attempted_failed {stored : Option PipelineTelemetrySnapshot} {mid : Observer}
    (h : mid.Behind snapshot.val.revision stored) (hcount : mid.consecutiveFailures = o.consecutiveFailures)
    (hopen : mid.closed = false) : o.Attempted mid.failed snapshot stored false where
  behind := ⟨h.storedBehind, h.pendingBehind, h.lastSaved⟩
  success hanswer := absurd hanswer (by decide)
  counted := congrArg (· + 1) hcount
  disabled := rfl
  isOpen := hopen

/-- `saveAndCommit` moves the store forward, to the snapshot where it returned. -/
theorem saveAndCommit_spec (h : store.Holds latest)
    (hbehind : ∀ p, latest snapshot.val.executionId = some p →
      p.val.revision ≤ snapshot.val.revision) (attempt : Attempt) :
    ∃ latest', (saveAndCommit store snapshot attempt).1.Holds latest' ∧
      Later (latest snapshot.val.executionId) (latest' snapshot.val.executionId) ∧
      (∀ p, latest' snapshot.val.executionId = some p → p.val.revision ≤ snapshot.val.revision) ∧
      ((saveAndCommit store snapshot attempt).2 = true →
        latest' snapshot.val.executionId = some snapshot) := by
  have hkept : ∃ latest', store.Holds latest' ∧
      Later (latest snapshot.val.executionId) (latest' snapshot.val.executionId) ∧
      (∀ p, latest' snapshot.val.executionId = some p → p.val.revision ≤ snapshot.val.revision) ∧
      (false = true → latest' snapshot.val.executionId = some snapshot) :=
    ⟨latest, h, .refl _, hbehind, fun hf => absurd hf Bool.false_ne_true⟩
  unfold saveAndCommit
  split
  · split
    · exact hkept
    · next saved wrote hs =>
      obtain ⟨latest', hholds, hlater, hstored⟩ := h.saveSnapshot_stores hbehind hs
      have hsaved : ∀ p, latest' snapshot.val.executionId = some p →
          p.val.revision ≤ snapshot.val.revision := by
        intro p hp
        rw [hstored] at hp
        rw [← Option.some.inj hp]
      split
      · exact ⟨latest', hholds, hlater, hsaved, fun _ => hstored⟩
      · exact hkept
      · exact ⟨latest', hholds, hlater, hsaved, fun hf => absurd hf Bool.false_ne_true⟩
  · exact hkept

/-- One call of an observer that still answers. -/
theorem call_spec (hopen : o.disabled = false ∧ o.closed = false) (h : store.Holds latest)
    (hbehind : o.Behind snapshot.val.revision (latest snapshot.val.executionId))
    (attempt : Attempt) :
    ∃ latest', (o.call snapshot store attempt).2.1.Holds latest' ∧
      Later (latest snapshot.val.executionId) (latest' snapshot.val.executionId) ∧
      o.Attempted (o.call snapshot store attempt).1 snapshot (latest' snapshot.val.executionId)
        (o.call snapshot store attempt).2.2 := by
  have hkept : ∀ mid : Observer,
      mid.Behind snapshot.val.revision (latest snapshot.val.executionId) →
      mid.consecutiveFailures = o.consecutiveFailures → mid.closed = false →
      ∃ latest', store.Holds latest' ∧
        Later (latest snapshot.val.executionId) (latest' snapshot.val.executionId) ∧
        o.Attempted mid.failed snapshot (latest' snapshot.val.executionId) false :=
    fun mid hmid hcount hclosed => ⟨latest, h, .refl _, attempted_failed hmid hcount hclosed⟩
  have hstill : ¬ (o.disabled = true ∨ o.closed = true) := by simp [hopen.1, hopen.2]
  unfold call
  rw [if_neg hstill]
  cases hbuffer : o.buffer snapshot with
  | error e => exact hkept o hbehind rfl hopen.2
  | ok mid =>
    obtain rfl := hbehind.buffer_eq_ok hbuffer
    have hmid : Behind { o with pending := some snapshot } snapshot.val.revision
        (latest snapshot.val.executionId) :=
      ⟨hbehind.storedBehind, fun q hq => by rw [← Option.some.inj hq], hbehind.lastSaved⟩
    dsimp only
    unfold flush
    rw [if_neg hstill]
    dsimp only
    split
    · next hsaved =>
      -- the pending snapshot was saved before: nothing later can be stored
      obtain ⟨p, hp, hrel⟩ := hbehind.lastSaved snapshot hsaved
      have hp' := hbehind.storedBehind p hp
      have hstored : latest snapshot.val.executionId = some snapshot := by
        rcases hrel with rfl | hlt
        · exact hp
        · omega
      refine ⟨latest, h, .refl _, ⟨hbehind.storedBehind, fun q hq => absurd hq (by simp [confirmed]),
        hbehind.lastSaved⟩, fun _ => hstored, rfl, ?_, hopen.2⟩
      rw [show (confirmed { o with pending := some snapshot } o.lastSaved).disabled = o.disabled from rfl,
        hopen.1]
      rfl
    · split
      · obtain ⟨latest', hholds, hlater, hbehind', hstored⟩ :=
          saveAndCommit_spec h hbehind.storedBehind attempt
        split
        · next saved hs =>
          rw [hs] at hholds hstored
          have hlatest := hstored rfl
          refine ⟨latest', hholds, hlater, ⟨hbehind', fun q hq => absurd hq (by simp [confirmed]),
            ?_⟩, fun _ => hlatest, rfl, ?_, hopen.2⟩
          · rw [hlatest]
            exact .refl _
          · show o.disabled = _
            rw [hopen.1]
            rfl
        · next saved hs =>
          rw [hs] at hholds
          exact ⟨latest', hholds, hlater, attempted_failed
            ⟨hbehind', hmid.pendingBehind, hmid.lastSaved.trans hlater⟩ rfl hopen.2⟩
      · exact hkept _ hmid rfl hopen.2

end Observer

/-! ## The session -/

namespace Session

/-- The execution that a session observes. -/
def executionId (s : Session) : String := s.collector.published.val.executionId

/-- The session, its observer and the store are in step: nothing stored, saved or pending is
ahead of the collector, and the failures that the session and the observer count agree. -/
structure Sound (s : Session) (stored : Option PipelineTelemetrySnapshot) : Prop where
  published : s.collector.published.val.revision ≤ s.collector.revision
  behind : s.observer.Behind s.collector.revision stored
  failures : s.observer.consecutiveFailures = s.failures
  limited : s.failures ≤ maxFailures
  disabled : s.disabled = decide (maxFailures ≤ s.failures)
  observerDisabled : s.observer.disabled = s.disabled
  observerOpen : s.observer.closed = false
  collectorDisabled : s.disabled = true → s.collector.disabled = true

variable {s : Session} {stored : Option PipelineTelemetrySnapshot}

/-- Observing more keeps a session in step. -/
theorem Sound.grows {c : PipelineTelemetryCollector} (h : s.Sound stored)
    (hgrows : s.collector.Grows c) : Sound { s with collector := c } stored where
  published := by
    show c.published.val.revision ≤ c.revision
    rw [hgrows.published]
    exact h.published.trans hgrows.revision
  behind := h.behind.mono hgrows.revision
  failures := h.failures
  limited := h.limited
  disabled := h.disabled
  observerDisabled := h.observerDisabled
  observerOpen := h.observerOpen
  collectorDisabled hd := hgrows.disabled (h.collectorDisabled hd)

theorem Sound.internalFailure (h : s.Sound stored) : s.internalFailure.Sound stored :=
  h.grows (PipelineTelemetryCollector.grows_markObservationIssue _ _ _)

/-- Taking a snapshot keeps a session in step. -/
theorem Sound.taken (h : s.Sound stored) :
    Sound { s with collector := s.collector.snapshot.1 } stored := by
  obtain ⟨hrevision, -, hdisabled, hpublished, -⟩ :=
    PipelineTelemetryCollector.snapshot_spec s.collector
  exact {
    published := hpublished h.published
    behind := h.behind.mono hrevision
    failures := h.failures
    limited := h.limited
    disabled := h.disabled
    observerDisabled := h.observerDisabled
    observerOpen := h.observerOpen
    collectorDisabled := fun hd => hdisabled (h.collectorDisabled hd) }

/-- The snapshot with the new issue that a failed answer keeps for the next attempt. -/
def refreshed (c : PipelineTelemetryCollector) (o : Observer) : PipelineTelemetryCollector × Observer :=
  match c.snapshot with
  | (collector, .ok snapshot) =>
    match o.buffer snapshot with
    | .ok observer => (collector, observer)
    | .error _ => (collector, o)
  | (collector, .error _) => (collector, o)

theorem settle_false (s : Session) : s.settle false =
    { s with
      collector := (refreshed (s.collector.markObservationIssue .storageError
        (decide (maxFailures ≤ s.failures + 1))) s.observer).1
      observer := (refreshed (s.collector.markObservationIssue .storageError
        (decide (maxFailures ≤ s.failures + 1))) s.observer).2
      failures := s.failures + 1
      disabled := decide (maxFailures ≤ s.failures + 1) } := rfl

/-- Keeping the refreshed snapshot changes what is pending, and nothing else. -/
theorem refreshed_spec {c : PipelineTelemetryCollector} {o : Observer}
    (hbehind : o.Behind c.revision stored) :
    (refreshed c o).1 = c.snapshot.1 ∧ (refreshed c o).2.Behind c.snapshot.1.revision stored ∧
      ∃ pending, (refreshed c o).2 = { o with pending := pending } := by
  obtain ⟨hrevision, -, -, -, htaken⟩ := PipelineTelemetryCollector.snapshot_spec c
  unfold refreshed
  split
  · next collector snapshot hsnapshot =>
    rw [hsnapshot] at hrevision htaken
    have hrev : snapshot.val.revision = collector.revision := (htaken snapshot rfl).2
    have hbefore : o.Behind snapshot.val.revision stored := hbehind.mono (hrev ▸ hrevision)
    rw [hsnapshot]
    split
    · next observer hbuffer =>
      obtain rfl := hbefore.buffer_eq_ok hbuffer
      refine ⟨rfl, ⟨fun p hp => ?_, fun q hq => ?_, hbehind.lastSaved⟩, some snapshot, rfl⟩
      · exact (hbehind.storedBehind p hp).trans hrevision
      · rw [← Option.some.inj hq]
        exact hrev.le
    · exact ⟨rfl, hbehind.mono hrevision, o.pending, rfl⟩
  · next collector e hsnapshot =>
    rw [hsnapshot] at hrevision ⊢
    exact ⟨rfl, hbehind.mono hrevision, o.pending, rfl⟩

/-- The session and its observer settle an attempt alike: both count a failure and are disabled by
the third, or both forget the failures. -/
theorem Sound.settle {before : Observer} {prior : Option PipelineTelemetrySnapshot} {answer : Bool}
    (h : Sound { s with observer := before } prior) (hactive : s.disabled = false)
    (hrevision : snapshot.val.revision = s.collector.revision)
    (hattempt : before.Attempted s.observer snapshot stored answer) :
    (s.settle answer).Sound stored ∧
      (s.settle answer).executionId = s.executionId ∧
      (s.settle answer).failures = (if answer then 0 else s.failures + 1) ∧
      (answer = true → (s.settle answer).collector = s.collector) := by
  have hbehind : s.observer.Behind s.collector.revision stored := hrevision ▸ hattempt.behind
  have hcounted := hattempt.counted
  have hdisabled := hattempt.disabled
  have hfailures : before.consecutiveFailures = s.failures := h.failures
  cases answer with
  | true =>
    rw [if_pos rfl] at hcounted
    rw [hcounted] at hdisabled
    refine ⟨⟨h.published, hbehind, hcounted, Nat.zero_le _, hactive, hdisabled.trans hactive.symm,
      hattempt.isOpen, fun hd => ?_⟩, rfl, rfl, fun _ => rfl⟩
    exact absurd (hactive.symm.trans hd) Bool.false_ne_true
  | false =>
    rw [if_neg Bool.false_ne_true, hfailures] at hcounted
    rw [hcounted] at hdisabled
    have hlimit : s.failures < maxFailures := by
      have hd : s.disabled = decide (maxFailures ≤ s.failures) := h.disabled
      rw [hactive] at hd
      exact Nat.not_le.mp (of_decide_eq_false hd.symm)
    have hgrows := PipelineTelemetryCollector.grows_markObservationIssue s.collector .storageError
      (decide (maxFailures ≤ s.failures + 1))
    obtain ⟨hrev, hexecution, hstill, hpublished, -⟩ := PipelineTelemetryCollector.snapshot_spec
      (s.collector.markObservationIssue .storageError (decide (maxFailures ≤ s.failures + 1)))
    obtain ⟨hcollector, hobserver, pending, hpending⟩ :=
      refreshed_spec (hbehind.mono hgrows.revision)
    rw [settle_false]
    refine ⟨?_, ?_, rfl, fun hf => absurd hf Bool.false_ne_true⟩
    · exact {
        published := by
          dsimp only
          rw [hcollector]
          refine hpublished ?_
          rw [hgrows.published]
          exact h.published.trans hgrows.revision
        behind := by
          dsimp only
          rw [hcollector]
          exact hobserver
        failures := by
          dsimp only
          rw [hpending]
          exact hcounted
        limited := hlimit
        disabled := rfl
        observerDisabled := by
          dsimp only
          rw [hpending]
          exact hdisabled
        observerOpen := by
          dsimp only
          rw [hpending]
          exact hattempt.isOpen
        collectorDisabled := fun hd => by
          dsimp only at hd ⊢
          rw [hcollector, hd]
          rw [hd] at hstill
          exact hstill (PipelineTelemetryCollector.disabled_markObservationIssue _ _) }
    · show (refreshed _ _).1.published.val.executionId = _
      rw [hcollector, hexecution, hgrows.published]
      rfl

/-- What a call does: the session stays in step with the store, whose snapshot of the execution
stays or moves forward, the failures since the last success are counted, and a success leaves the
snapshot passed to the observer stored, as the collector's. -/
structure Outcome (s s' : Session) (stored stored' : Option PipelineTelemetrySnapshot)
    (call : Option ObserverCall) : Prop where
  sound : s'.Sound stored'
  same : s'.executionId = s.executionId
  later : Later stored stored'
  counted : s'.failures = call.elim s.failures fun c => if c.2 then 0 else s.failures + 1
  success : ∀ S, call = some (S, true) →
    stored' = some S ∧ s'.collector.snapshot = (s'.collector, .ok S)

/-- The execution does not change with what is observed. -/
theorem executionId_of_grows {c : PipelineTelemetryCollector} (hgrows : s.collector.Grows c) :
    executionId { s with collector := c } = s.executionId :=
  congrArg (fun p : PipelineTelemetrySnapshot => p.val.executionId) hgrows.published

/-- A call that only observes. -/
theorem Sound.observed {c : PipelineTelemetryCollector} (h : s.Sound stored)
    (hgrows : s.collector.Grows c) : Outcome s { s with collector := c } stored stored none where
  sound := h.grows hgrows
  same := executionId_of_grows hgrows
  later := .refl _
  counted := rfl
  success S hS := absurd hS (by simp)

theorem Sound.timed (h : s.Sound stored) (last : Option Int) (clockFailed : Bool) :
    Sound { s with lastAttemptAt := last, clockFailed := clockFailed } stored :=
  ⟨h.published, h.behind, h.failures, h.limited, h.disabled, h.observerDisabled, h.observerOpen,
    h.collectorDisabled⟩

/-- What was done from a session of the same execution with as many failures. -/
theorem Outcome.of_same {s₁ s' : Session} {stored' : Option PipelineTelemetrySnapshot}
    {call : Option ObserverCall} (hid : s₁.executionId = s.executionId)
    (hfailures : s₁.failures = s.failures) (h : Outcome s₁ s' stored stored' call) :
    Outcome s s' stored stored' call where
  sound := h.sound
  same := h.same.trans hid
  later := h.later
  counted := hfailures ▸ h.counted
  success := h.success

/-- The attempt of a session that is not disabled. -/
theorem attemptFlush_spec (hstore : store.Holds latest) (h : s.Sound (latest s.executionId))
    (hactive : s.disabled = false) (attempt : Attempt) :
    ∃ latest', (s.attemptFlush store attempt).2.1.Holds latest' ∧
      Outcome s (s.attemptFlush store attempt).1 (latest s.executionId) (latest' s.executionId)
        (s.attemptFlush store attempt).2.2 := by
  have htaken := h.taken
  obtain ⟨hrevision, hexecution, -, -, hsnapshot⟩ :=
    PipelineTelemetryCollector.snapshot_spec s.collector
  unfold attemptFlush
  split
  · next collector e heq =>
    rw [heq] at htaken hexecution
    refine ⟨latest, hstore, htaken.internalFailure, ?_, .refl _, rfl, fun S hS => absurd hS (by simp)⟩
    have hgrows := PipelineTelemetryCollector.grows_markObservationIssue collector .internalError true
    show (collector.markObservationIssue .internalError true).published.val.executionId = _
    rw [hgrows.published]
    exact hexecution
  · next collector snapshot heq =>
    have hagain := PipelineTelemetryCollector.snapshot_again heq
    rw [heq] at htaken hexecution hsnapshot
    obtain ⟨hpublished, hrev⟩ := hsnapshot snapshot rfl
    have hid : snapshot.val.executionId = s.executionId := by
      rw [← hpublished]
      exact hexecution
    have hopen : s.observer.disabled = false ∧ s.observer.closed = false :=
      ⟨h.observerDisabled.trans hactive, h.observerOpen⟩
    have hbehind : s.observer.Behind snapshot.val.revision (latest snapshot.val.executionId) := by
      rw [hid, hrev]
      exact htaken.behind
    obtain ⟨latest', hholds, hlater, hattempt⟩ :=
      Observer.call_spec hopen hstore hbehind attempt
    rw [hid] at hlater hattempt
    have hsettled := Sound.settle (s := { s with
      collector := collector, observer := (s.observer.call snapshot store attempt).1 })
      htaken hactive hrev hattempt
    refine ⟨latest', hholds, hsettled.1, hsettled.2.1.trans hexecution, hlater, hsettled.2.2.1,
      fun S hS => ?_⟩
    obtain ⟨rfl, hanswer⟩ := Prod.mk.inj (Option.some.inj hS)
    refine ⟨hattempt.success hanswer, ?_⟩
    rw [hsettled.2.2.2 hanswer]
    exact hagain

theorem flush_spec (hstore : store.Holds latest) (h : s.Sound (latest s.executionId)) (force : Bool)
    (clock : Option Int) (attempt : Attempt) :
    ∃ latest', (s.flush store force clock attempt).2.1.Holds latest' ∧
      Outcome s (s.flush store force clock attempt).1 (latest s.executionId) (latest' s.executionId)
        (s.flush store force clock attempt).2.2 := by
  have hkept : Outcome s s (latest s.executionId) (latest s.executionId) none :=
    h.observed (.refl _)
  have hattempted : ∀ s₁ : Session, s₁.Sound (latest s.executionId) → s₁.disabled = false →
      s₁.executionId = s.executionId → s₁.failures = s.failures →
      ∃ latest', (s₁.attemptFlush store attempt).2.1.Holds latest' ∧
        Outcome s (s₁.attemptFlush store attempt).1 (latest s.executionId)
          (latest' s.executionId) (s₁.attemptFlush store attempt).2.2 := by
    intro s₁ hsound hactive hid hfailures
    obtain ⟨latest', hholds, houtcome⟩ := attemptFlush_spec hstore (hid ▸ hsound) hactive attempt
    rw [hid] at houtcome
    exact ⟨latest', hholds, houtcome.of_same hid hfailures⟩
  unfold flush
  split
  · exact ⟨latest, hstore, hkept⟩
  · next hstill =>
    have hactive : s.disabled = false := by
      rw [not_or] at hstill
      exact Bool.eq_false_iff.mpr hstill.1
    split
    · have hgrows := PipelineTelemetryCollector.grows_markObservationIssue s.collector
        .internalError true
      have hfailed := (h.timed s.lastAttemptAt true).internalFailure
      have hid : executionId ({ s with clockFailed := true }.internalFailure) = s.executionId :=
        executionId_of_grows hgrows
      dsimp only
      split
      · exact ⟨latest, hstore, hfailed, hid, .refl _, rfl, fun S hS => absurd hS (by simp)⟩
      · exact hattempted _ (hfailed.timed none true) hactive hid rfl
    · dsimp only
      generalize (if s.clockFailed then none else clock) = now
      split
      · exact ⟨latest, hstore, hkept⟩
      · exact hattempted _ (h.timed now s.clockFailed) hactive rfl rfl

/-- A call that is not a save of this execution from elsewhere. -/
def Call.Spares (e : String) : Call → Prop
  | .saveOther snapshot _ => snapshot.val.executionId ≠ e
  | _ => True

/-- Another execution's save leaves the snapshot of this one. -/
theorem saveOther_spares (hstore : store.Holds latest) {e : String}
    (hne : snapshot.val.executionId ≠ e) (now : Int) :
    ∃ latest', (store.step (snapshot, now)).1.Holds latest' ∧ latest' e = latest e := by
  unfold TelemetryStore.step
  split
  · next saved wrote hs =>
    cases wrote with
    | true =>
      obtain ⟨hholds, -⟩ := hstore.saveSnapshot_wrote hs
      exact ⟨_, hholds, Function.update_of_ne (Ne.symm hne) _ _⟩
    | false =>
      obtain ⟨rfl, -⟩ := hstore.saveSnapshot_kept hs
      exact ⟨latest, hstore, rfl⟩
  · exact ⟨latest, hstore, rfl⟩

/-- One call keeps the session in step with the store. -/
theorem step_spec (hstore : store.Holds latest) (h : s.Sound (latest s.executionId)) {call : Call}
    (hspares : call.Spares s.executionId) :
    ∃ latest', (step (s, store) call).1.2.Holds latest' ∧
      Outcome s (step (s, store) call).1.1 (latest s.executionId) (latest' s.executionId)
        (step (s, store) call).2 := by
  have hflushed : ∀ c : PipelineTelemetryCollector, s.collector.Grows c → ∀ force clock attempt,
      ∃ latest', (flush { s with collector := c } store force clock attempt).2.1.Holds latest' ∧
        Outcome s (flush { s with collector := c } store force clock attempt).1
          (latest s.executionId) (latest' s.executionId)
          (flush { s with collector := c } store force clock attempt).2.2 := by
    intro c hgrows force clock attempt
    have hid := executionId_of_grows hgrows
    obtain ⟨latest', hholds, houtcome⟩ :=
      flush_spec hstore (hid ▸ h.grows hgrows) force clock attempt
    rw [hid] at houtcome
    exact ⟨latest', hholds, houtcome.of_same hid rfl⟩
  cases call with
  | acceptBatch inputTotal clock =>
    exact ⟨latest, hstore, h.observed (PipelineTelemetryCollector.grows_acceptBatch _ _ _)⟩
  | beginRecord recordNo monotonic =>
    exact ⟨latest, hstore, h.observed (PipelineTelemetryCollector.grows_beginRecord _ _ _)⟩
  | recordSuccess token monotonic wall clock attempt =>
    exact hflushed _ (PipelineTelemetryCollector.grows_finishRecord _ _ _ _ _) false clock attempt
  | recordFailure token wall clock attempt =>
    exact hflushed _ (PipelineTelemetryCollector.grows_finishRecord _ _ _ _ _) true clock attempt
  | flush force clock attempt => exact flush_spec hstore h force clock attempt
  | saveOther other now =>
    obtain ⟨latest', hholds, heq⟩ := saveOther_spares hstore hspares now
    refine ⟨latest', hholds, heq ▸ h, rfl, ?_, rfl, fun S hS => absurd hS (by simp [step])⟩
    rw [heq]
    exact .refl _

/-! ## Runs -/

/-- `PipelineTelemetrySession(collector, PostgresPipelineTelemetryObserver())`. -/
def opened (collector : PipelineTelemetryCollector) (flushInterval : Int) : Session :=
  { collector := collector, flushInterval := flushInterval }

/-- What the observer answered, call by call. -/
def answers (calls : List (Call × Option ObserverCall)) : List Bool :=
  calls.filterMap fun call => call.2.map Prod.snd

/-- The failed answers since the last success. -/
def consecutiveFailures (answers : List Bool) : Nat := (answers.rtakeWhile (!·)).length

theorem consecutiveFailures_answers_snoc (calls : List (Call × Option ObserverCall)) (call : Call)
    (answer : Option ObserverCall) :
    consecutiveFailures (answers (calls ++ [(call, answer)])) =
      answer.elim (consecutiveFailures (answers calls)) fun c =>
        if c.2 then 0 else consecutiveFailures (answers calls) + 1 := by
  unfold consecutiveFailures answers
  rw [List.filterMap_append]
  cases answer with
  | none =>
    rw [List.filterMap_cons_none rfl, List.filterMap_nil, List.append_nil]
    rfl
  | some c =>
    obtain ⟨snapshot, answer⟩ := c
    show (List.rtakeWhile _ (_ ++ [answer])).length = _
    rw [List.rtakeWhile_concat]
    cases answer with
    | true => rfl
    | false =>
      rw [if_pos (by decide), List.length_append]
      rfl

/-- A new session is in step with a store that has nothing of its execution. -/
theorem sound_opened {e runId entityId : String}
    {inputIdentity : Option PipelineTelemetryInputIdentity} {maxBuckets maxRecords : Option Nat}
    {c : PipelineTelemetryCollector}
    (h : PipelineTelemetryCollector.create e runId entityId inputIdentity maxBuckets maxRecords =
      .ok c) (flushInterval : Int) :
    (opened c flushInterval).executionId = e ∧ (opened c flushInterval).Sound none := by
  unfold PipelineTelemetryCollector.create at h
  rw [raiseIf_bind_eq_ok, Except.bind_eq_ok] at h
  obtain ⟨-, published, hpublished, h⟩ := h
  have hval := val_of_construct hpublished
  obtain rfl := Except.ok.inj h
  refine ⟨?_, ⟨?_, ⟨fun p hp => absurd hp (by simp), fun q hq => absurd hq (by simp [opened]),
    fun l hl => absurd hl (by simp [opened])⟩, rfl, Nat.zero_le _, rfl, rfl, rfl,
    fun hd => absurd hd Bool.false_ne_true⟩⟩
  · show published.val.executionId = e
    rw [hval]
    rfl
  · show published.val.revision ≤ 0
    rw [hval]
    exact le_refl 0

/-- The session, the store and the calls so far. -/
def InStep (e : String) (state : Session × TelemetryStore)
    (calls : List (Call × Option ObserverCall)) : Prop :=
  ∃ latest, state.2.Holds latest ∧ state.1.executionId = e ∧ state.1.Sound (latest e) ∧
    state.1.failures = consecutiveFailures (answers calls)

/-- After any calls the session is in step with the store. -/
theorem inStep_after {e : String} {s₀ : Session} (hid : s₀.executionId = e)
    (h : s₀.Sound none) (hfailures : s₀.failures = 0) {calls : List Call}
    (hspares : ∀ call ∈ calls, call.Spares e) :
    InStep e (after step (s₀, TelemetryStore.empty) calls)
      (trace step (s₀, TelemetryStore.empty) calls) := by
  refine run_trace_of_meets step (C := fun _ call => call.Spares e)
    ⟨_, TelemetryStore.holds_empty, hid, h, hfailures⟩ ?_ (fun pre call post heq => ?_)
  · rintro ⟨s, store⟩ calls call ⟨latest, hholds, rfl, hsound, hcount⟩ hcall
    obtain ⟨latest', hholds', houtcome⟩ := step_spec hholds hsound hcall
    refine ⟨latest', hholds', houtcome.same, houtcome.sound, ?_⟩
    rw [consecutiveFailures_answers_snoc, houtcome.counted, hcount]
  · exact hspares call (heq ▸ List.mem_append_right _ List.mem_cons_self)

/-- Over more calls the snapshot of the execution stays or moves forward. -/
theorem later_after {s : Session} (hholds : store.Holds latest)
    (h : s.Sound (latest s.executionId)) {calls : List Call}
    (hspares : ∀ call ∈ calls, call.Spares s.executionId) :
    ∃ latest', (after step (s, store) calls).2.Holds latest' ∧
      Later (latest s.executionId) (latest' s.executionId) := by
  have hmeets : Meets step (fun _ call => call.Spares s.executionId) (s, store) calls :=
    fun pre call post heq => hspares call (heq ▸ List.mem_append_right _ List.mem_cons_self)
  have hrun := run_of_meets step (P := fun state => ∃ latest', state.2.Holds latest' ∧
      state.1.executionId = s.executionId ∧ state.1.Sound (latest' s.executionId) ∧
      Later (latest s.executionId) (latest' s.executionId))
    ?_ ⟨latest, hholds, rfl, h, .refl _⟩ hmeets
  · obtain ⟨latest', hholds', -, -, hlater⟩ := hrun
    exact ⟨latest', hholds', hlater⟩
  · rintro ⟨mid, store⟩ call ⟨latest₁, hholds₁, hid, hsound, hlater⟩ hcall
    simp only at hid hsound
    rw [← hid] at hsound hcall
    obtain ⟨latest₂, hholds₂, houtcome⟩ := step_spec hholds₁ hsound hcall
    rw [hid] at houtcome
    exact ⟨latest₂, hholds₂, houtcome.same.trans hid, houtcome.sound, hlater.trans houtcome.later⟩

/-- A disabled session does nothing more; another execution's save is not its call. -/
theorem step_of_disabled {s : Session} (hdisabled : s.disabled = true)
    (hcollector : s.collector.disabled = true) (store : TelemetryStore) {call : Call}
    (hown : ∀ snapshot now, call ≠ .saveOther snapshot now) :
    step (s, store) call = ((s, store), none) := by
  have hflush : ∀ force clock attempt, s.flush store force clock attempt = (s, store, none) := by
    intro force clock attempt
    unfold flush
    rw [if_pos (.inl hdisabled)]
  cases call with
  | acceptBatch inputTotal clock => simp [step, PipelineTelemetryCollector.acceptBatch, hcollector]
  | beginRecord recordNo monotonic => simp [step, PipelineTelemetryCollector.beginRecord, hcollector]
  | recordSuccess token monotonic wall clock attempt =>
    simp [step, PipelineTelemetryCollector.finishRecord, hcollector, hflush]
  | recordFailure token wall clock attempt =>
    simp [step, PipelineTelemetryCollector.finishRecord, hcollector, hflush]
  | flush force clock attempt => simp [step, hflush]
  | saveOther snapshot now => exact absurd rfl (hown snapshot now)

/-- Flushes deliver the collector's state: the stored snapshot of the execution stays or moves
forward; a call of the observer that answers with success leaves the snapshot passed to it stored,
which is the collector's; and the session and its observer are disabled by the third failure in a
row, after which no call does anything. -/
theorem telemetryFlushes_deliver {e runId entityId : String}
    {inputIdentity : Option PipelineTelemetryInputIdentity} {maxBuckets maxRecords : Option Nat}
    {c : PipelineTelemetryCollector}
    (hcreate : PipelineTelemetryCollector.create e runId entityId inputIdentity maxBuckets
      maxRecords = .ok c) (flushInterval : Int) {calls more : List Call}
    (hspares : ∀ call ∈ calls ++ more, call.Spares e) :
    let start := (opened c flushInterval, TelemetryStore.empty)
    let now := after step start calls
    let failures := consecutiveFailures (answers (trace step start calls))
    (∃ stored later, now.2.getExecution e = .ok stored ∧
      (after step now more).2.getExecution e = .ok later ∧ Later stored later) ∧
    (∀ call S, (step now call).2 = some (S, true) →
      (step now call).1.2.getExecution e = .ok (some S) ∧
        (step now call).1.1.collector.snapshot = ((step now call).1.1.collector, .ok S)) ∧
    (now.1.observer.disabled = now.1.disabled ∧ failures ≤ 3 ∧
      (now.1.disabled = true ↔ failures = 3)) ∧
    (now.1.disabled = true → ∀ call, call.Spares e →
      (step now call).1.1 = now.1 ∧ (step now call).2 = none ∧
        (step now call).1.2.getExecution e = now.2.getExecution e) := by
  intro start now failures
  obtain ⟨hid, hsound⟩ := sound_opened hcreate flushInterval
  have hcalls : ∀ call ∈ calls, call.Spares e :=
    fun call h => hspares call (List.mem_append_left _ h)
  have hmore : ∀ call ∈ more, call.Spares e :=
    fun call h => hspares call (List.mem_append_right _ h)
  obtain ⟨latest, hholds, hnow, hinstep, hcount⟩ := inStep_after hid hsound rfl hcalls
  subst hnow
  refine ⟨?_, ?_, ⟨hinstep.observerDisabled, ?_, ?_⟩, ?_⟩
  · obtain ⟨latest', hholds', hlater⟩ := later_after hholds hinstep hmore
    exact ⟨_, _, hholds.getExecution _, hholds'.getExecution _, hlater⟩
  · intro call S hcall
    have hcallSpares : call.Spares now.1.executionId := by
      cases call with
      | saveOther other time => exact absurd hcall (by simp [step])
      | _ => trivial
    obtain ⟨latest', hholds', houtcome⟩ := step_spec hholds hinstep hcallSpares
    obtain ⟨hstored, hsnapshot⟩ := houtcome.success S hcall
    exact ⟨(hholds'.getExecution _).trans (congrArg _ hstored), hsnapshot⟩
  · show consecutiveFailures _ ≤ 3
    rw [← hcount]
    exact hinstep.limited
  · show _ ↔ consecutiveFailures _ = 3
    rw [← hcount, hinstep.disabled, decide_eq_true_eq]
    have hlimited := hinstep.limited
    unfold maxFailures at hlimited ⊢
    omega
  · intro hdisabled call hcall
    have hown : (∀ snapshot time, call ≠ .saveOther snapshot time) →
        step now call = (now, none) :=
      step_of_disabled hdisabled (hinstep.collectorDisabled hdisabled) now.2
    by_cases hother : ∃ snapshot time, call = .saveOther snapshot time
    · obtain ⟨snapshot, time, rfl⟩ := hother
      obtain ⟨latest', hholds', heq⟩ := saveOther_spares hholds hcall time
      refine ⟨rfl, rfl, ?_⟩
      rw [hholds.getExecution, ← heq]
      exact hholds'.getExecution _
    · rw [hown fun snapshot time heq => hother ⟨snapshot, time, heq⟩]
      exact ⟨rfl, rfl, rfl⟩

namespace Sample

/-- A collector of one execution before its first observation. -/
def fields : SnapshotFields :=
  PipelineTelemetryCollector.initialFields "EXEC-1" "RUN-1" "HOST-1" none

theorem fields_valid : fields.validate = .ok () := by decide +kernel

def collector : PipelineTelemetryCollector := { published := ⟨fields, fields_valid⟩ }

/-- A batch, and an attempt whose commit raised although it became durable. -/
def calls : List Call :=
  [.acceptBatch 3 (some 1767225600000000), .flush true (some 0) { commit := .ambiguous }]

end Sample

/-- The flush after an ambiguous commit delivers the collector's snapshot. -/
theorem telemetryFlushes_deliver_ambiguous :
    let now := after step (opened Sample.collector 5000000000, TelemetryStore.empty) Sample.calls
    now.1.failures = 1 ∧ ∃ S, (step now (.flush true (some 1) {})).2 = some (S, true) ∧
      (step now (.flush true (some 1) {})).1.2.getExecution "EXEC-1" = .ok (some S) := by
  intro now
  have hcreate : PipelineTelemetryCollector.create "EXEC-1" "RUN-1" "HOST-1" none none none =
      .ok Sample.collector := by
    unfold PipelineTelemetryCollector.create
    rw [raiseIf_bind_eq_ok]
    refine ⟨by simp, ?_⟩
    show (construct _ Sample.fields >>= _) = _
    rw [construct_eq_ok Sample.fields_valid]
    rfl
  have hspares : ∀ call ∈ Sample.calls ++ [], call.Spares "EXEC-1" := by
    intro call h
    simp only [Sample.calls, List.append_nil, List.mem_cons, List.not_mem_nil, or_false] at h
    rcases h with rfl | rfl <;> trivial
  have hdeliver : ∀ call S, (step now call).2 = some (S, true) →
      (step now call).1.2.getExecution "EXEC-1" = .ok (some S) ∧
        (step now call).1.1.collector.snapshot = ((step now call).1.1.collector, .ok S) :=
    (telemetryFlushes_deliver hcreate 5000000000 hspares).2.1
  have hanswer : ((step now (.flush true (some 1) {})).2.map Prod.snd) = some true := by
    decide +kernel
  refine ⟨by decide +kernel, ?_⟩
  obtain ⟨⟨S, answer⟩, hcall, rfl⟩ := Option.map_eq_some_iff.mp hanswer
  exact ⟨S, hcall, (hdeliver _ S hcall).1⟩

end Session

end IncidentAwareness.Telemetry
