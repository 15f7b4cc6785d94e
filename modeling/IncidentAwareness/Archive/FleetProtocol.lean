import IncidentAwareness.Archive.Fleet
import IncidentAwareness.Archive.OutboxSpec

/-!
# The protocol of Workers that run at the same time

What a Worker relies on the others for and what each of its calls guarantees them
(`workerProtocol`):

* `World.Sound`: what is under the archive prefix are objects of committed
  publications, the summary after the Evidence, and both of every published one;
* `Progress`: archive objects, receipts and the payloads of publications stay, and as
  long as the commits are clean (`Site.Clean`), so does a published run with a receipt;
* `Apart`: a Worker's transaction and what it has locked are its own;
* `Recorded`: a receipt is recorded for an object without one.

An upload (`put_progress`), a commit of a status (`guarantee_updates`) and a commit of a
receipt (`guarantee_receipt`) keep them.
-/

namespace IncidentAwareness.Archive

open IncidentAwareness.Common IncidentAwareness.Lib IncidentAwareness.Persistence

variable {ι : Type}

/-! ## The world -/

namespace World

variable (w : World ι)

/-- Both objects of a publication are in the archive, with its bytes. -/
def Archived (payload : R1ArchivePublication) : Prop :=
  ∀ entry ∈ archiveEntries payload,
    w.archive (archiveKey payload entry.filename) = some entry.content

/-- A committed row has the payload. -/
def Stored (payload : R1ArchivePublication) : Prop :=
  ∃ p ∈ w.committed.publications, p.payload = payload

/-- The row of a run, if there is one, is published. -/
def RunPublished (runId : String) : Prop :=
  ∀ p ∈ w.committed.publications, p.runId = runId → p.status = .published

/-- The archive holds objects of committed publications, the summary last, and those
of the published ones; and every publication belongs to a run with a receipt. -/
structure Sound : Prop where
  archived : ∀ key content, w.archive key = some content →
    ∃ p ∈ w.committed.publications, ∃ entry ∈ archiveEntries p.payload,
      key = archiveKey p.payload entry.filename ∧ content = entry.content
  summaryLast : ∀ p ∈ w.committed.publications,
    w.archive (archiveKey p.payload r1ExtractionSummaryFilename) ≠ none →
      w.archive (archiveKey p.payload r1EvidenceFilename) ≠ none
  published : ∀ p ∈ w.committed.publications, p.status = .published → w.Archived p.payload
  objectPrefix : ∀ p ∈ w.committed.publications,
    p.payload.objectPrefix = r1ArchivePrefix ++ "/" ++ p.runId
  named : ∀ p ∈ w.committed.publications, ∃ r ∈ w.committed.receipts, r.runId = p.runId

end World

section Sound

variable {w w' : World ι} {p q : ArchivePublication}

/-- What is under the key of a publication's object is its content. -/
theorem World.Sound.content_eq (h : w.Sound) (hp : p ∈ w.committed.publications)
    {entry : ArchiveEntry} (hentry : entry ∈ archiveEntries p.payload) {content : Bytes}
    (hcontent : w.archive (archiveKey p.payload entry.filename) = some content) :
    content = entry.content := by
  obtain ⟨q, hq, entry', hentry', hkey, rfl⟩ := h.archived _ _ hcontent
  obtain ⟨hrun, hname⟩ :=
    archiveKey_inj (h.objectPrefix p hp) (h.objectPrefix q hq) hentry hentry' hkey
  obtain rfl : p = q := Table.eq_of_conflict hp hq hrun
  rw [entry_eq hentry hentry' hname]

theorem mem_archiveEntries {payload : R1ArchivePublication} {entry : ArchiveEntry} :
    entry ∈ archiveEntries payload ↔
      entry = ⟨r1EvidenceFilename, payload.evidenceContent, payload.evidenceSha256⟩ ∨
        entry = ⟨r1ExtractionSummaryFilename, payload.summaryContent, payload.summarySha256⟩ := by
  simp [archiveEntries]

/-- Where the summary is, both objects are, with the bytes of the row. -/
theorem World.Sound.archived_of_summary (h : w.Sound) (hp : p ∈ w.committed.publications)
    (hsummary : w.archive (archiveKey p.payload r1ExtractionSummaryFilename) ≠ none) :
    w.Archived p.payload := by
  intro entry hentry
  have hpresent : w.archive (archiveKey p.payload entry.filename) ≠ none := by
    rcases mem_archiveEntries.mp hentry with rfl | rfl
    · exact h.summaryLast p hp hsummary
    · exact hsummary
  obtain ⟨content, hcontent⟩ := Option.ne_none_iff_exists'.mp hpresent
  rw [hcontent, h.content_eq hp hentry hcontent]

/-- Where a summary is, there is a row of its run with both objects. -/
theorem World.Sound.archived_of_key (h : w.Sound) {bucket runId : String}
    (hsummary : w.archive
      ⟨bucket, r1ArchivePrefix ++ "/" ++ runId ++ "/" ++ r1ExtractionSummaryFilename⟩ ≠ none) :
    ∃ p ∈ w.committed.publications, p.runId = runId ∧ p.payload.bucket = bucket ∧
      w.Archived p.payload := by
  obtain ⟨content, hcontent⟩ := Option.ne_none_iff_exists'.mp hsummary
  obtain ⟨p, hp, entry, hentry, hkey, -⟩ := h.archived _ _ hcontent
  let named : R1ArchivePublication :=
    { p.payload with runId := runId, objectPrefix := r1ArchivePrefix ++ "/" ++ runId }
  have hnamed := (@mem_archiveEntries named _).mpr (.inr rfl)
  obtain ⟨hbucket, hpath⟩ := ObjectKey.mk.inj hkey
  have hkey' : archiveKey named r1ExtractionSummaryFilename = archiveKey p.payload entry.filename :=
    congrArg (ObjectKey.mk p.payload.bucket) hpath
  obtain ⟨hrun, hname⟩ := archiveKey_inj rfl (h.objectPrefix p hp) hnamed hentry hkey'
  have hpresent : w.archive (archiveKey p.payload r1ExtractionSummaryFilename) ≠ none := by
    have hsame : archiveKey p.payload r1ExtractionSummaryFilename = archiveKey p.payload entry.filename :=
      congrArg (archiveKey p.payload) hname
    rw [hsame, ← hkey]
    exact hsummary
  exact ⟨p, hp, hrun.symm, hbucket.symm, h.archived_of_summary hp hpresent⟩

end Sound

/-! ## Rely and guarantee -/

/-- The receipt that a call records. -/
def Site.receipt : Site → Option S3ObjectReceipt
  | .commitReceipt object runId => some ⟨object, runId⟩
  | _ => none

/-- A commit of a failure finds no published row, and a commit of a receipt none of
another receipt under its run. -/
def Site.Clean (w : World ι) : Site → Prop
  | .commitReceipt _ runId => ∀ r ∈ w.committed.receipts, r.runId ≠ runId
  | .commitError runId _ => ∀ p ∈ w.committed.publications, p.runId = runId → p.status ≠ .published
  | _ => True

instance (w : World ι) (site : Site) : Decidable (site.Clean w) := by
  cases site
  case commitReceipt object runId =>
    exact inferInstanceAs (Decidable (∀ r ∈ w.committed.receipts.rows, r.runId ≠ runId))
  case commitError runId status =>
    exact inferInstanceAs (Decidable (∀ p ∈ w.committed.publications.rows, p.runId = runId →
      p.status ≠ .published))
  all_goals exact isTrue trivial

/-- What a step of anyone does to the tables and the archive. -/
structure Progress (strict : Prop) (w w' : World ι) : Prop where
  sound : w.Sound → w'.Sound
  archive : ∀ key content, w.archive key = some content → w'.archive key = some content
  stored : ∀ payload, w.Stored payload → w'.Stored payload
  receipts : ∀ r ∈ w.committed.receipts, r ∈ w'.committed.receipts
  settled : strict → ∀ r ∈ w.committed.receipts, w.RunPublished r.runId → w'.RunPublished r.runId

/-- What a step of the others leaves to a Worker: its transaction, and what it has
locked. -/
structure Apart (receiptLockKey : S3Object → Int) (i : ι) (w w' : World ι) : Prop where
  pending : w'.pending i = w.pending i
  objectLock : ∀ k, w.objectLock k = some i → w'.objectLock k = some i
  rowLock : ∀ runId, w.rowLock runId = some i → w'.rowLock runId = some i
  absentRow : ∀ runId, w.rowLock runId = some i →
    (∀ p ∈ w.committed.publications, p.runId ≠ runId) →
      ∀ p ∈ w'.committed.publications, p.runId ≠ runId
  absentReceipt : ∀ object, w.objectLock (receiptLockKey object) = some i →
    (∀ r ∈ w.committed.receipts, r.object ≠ object) →
      ∀ r ∈ w'.committed.receipts, r.object ≠ object

/-- A step records a receipt, for an object without one, and no other. -/
structure Recorded (receipt : Option S3ObjectReceipt) (w w' : World ι) : Prop where
  fresh : ∀ r ∈ receipt, ∀ r' ∈ w.committed.receipts, r'.object ≠ r.object
  receipts : ∀ r, r ∈ w'.committed.receipts ↔ r ∈ w.committed.receipts ∨ r ∈ receipt

/-- What a call of a Worker does. -/
structure Guarantee (receiptLockKey : S3Object → Int) (strict : Prop) (i : ι) (site : Site)
    (w w' : World ι) : Prop where
  progress : Progress strict w w'
  apart : ∀ j, j ≠ i → Apart receiptLockKey j w w'
  recorded : Recorded site.receipt w w'

section Protocol

variable {strict : Prop} {receiptLockKey : S3Object → Int} {i j : ι} {w w' w'' : World ι}

theorem Progress.refl (w : World ι) : Progress strict w w :=
  ⟨id, fun _ _ h => h, fun _ h => h, fun _ h => h, fun _ _ _ h => h⟩

theorem Progress.trans (h : Progress strict w w') (h' : Progress strict w' w'') :
    Progress strict w w'' where
  sound hw := h'.sound (h.sound hw)
  archive key content hw := h'.archive key content (h.archive key content hw)
  stored payload hw := h'.stored payload (h.stored payload hw)
  receipts r hr := h'.receipts r (h.receipts r hr)
  settled hs r hr hw := h'.settled hs r (h.receipts r hr) (h.settled hs r hr hw)

theorem Apart.refl (w : World ι) : Apart receiptLockKey i w w :=
  ⟨rfl, fun _ h => h, fun _ h => h, fun _ _ h => h, fun _ _ h => h⟩

theorem Apart.trans (h : Apart receiptLockKey i w w') (h' : Apart receiptLockKey i w' w'') :
    Apart receiptLockKey i w w'' where
  pending := h'.pending.trans h.pending
  objectLock k hk := h'.objectLock k (h.objectLock k hk)
  rowLock runId hr := h'.rowLock runId (h.rowLock runId hr)
  absentRow runId hr hw := h'.absentRow runId (h.rowLock runId hr) (h.absentRow runId hr hw)
  absentReceipt object hk hw :=
    h'.absentReceipt object (h.objectLock _ hk) (h.absentReceipt object hk hw)

/-- The protocol of a Worker. -/
def workerProtocol (receiptLockKey : S3Object → Int) (strict : Prop) (i : ι) :
    Protocol Site (World ι) where
  rely w w' := Progress strict w w' ∧ Apart receiptLockKey i w w'
  guarantee := Guarantee receiptLockKey strict i
  proviso site w := strict → site.Clean w
  refl w := ⟨.refl w, .refl w⟩
  trans h h' := ⟨h.1.trans h'.1, h.2.trans h'.2⟩

/-- An assertion of a Worker that the others keep. -/
abbrev Kept (receiptLockKey : S3Object → Int) (strict : Prop) (i : ι) (P : World ι → Prop) : Prop :=
  (workerProtocol receiptLockKey strict i).Stable P

theorem kept_sound : Kept receiptLockKey strict i World.Sound := fun _ _ h hr => hr.1.sound h

theorem kept_pending (writes : List TableWrite) :
    Kept receiptLockKey strict i fun w => w.pending i = writes :=
  fun _ _ h hr => hr.2.pending.trans h

theorem kept_stored (payload : R1ArchivePublication) :
    Kept receiptLockKey strict i fun w => w.Stored payload := fun _ _ h hr => hr.1.stored payload h

theorem kept_receipt (r : S3ObjectReceipt) :
    Kept receiptLockKey strict i fun w => r ∈ w.committed.receipts :=
  fun _ _ h hr => hr.1.receipts r h

theorem kept_object (key : ObjectKey) (content : Bytes) :
    Kept receiptLockKey strict i fun w => w.archive key = some content :=
  fun _ _ h hr => hr.1.archive key content h

theorem kept_archived (payload : R1ArchivePublication) :
    Kept receiptLockKey strict i fun w => w.Archived payload :=
  fun _ _ h hr entry hentry => hr.1.archive _ _ (h entry hentry)

/-- The Worker holds the lock of an object without a receipt. -/
def Acquired (receiptLockKey : S3Object → Int) (i : ι) (object : S3Object) (w : World ι) : Prop :=
  w.objectLock (receiptLockKey object) = some i ∧ ∀ r ∈ w.committed.receipts, r.object ≠ object

theorem kept_acquired (object : S3Object) :
    Kept receiptLockKey strict i (Acquired receiptLockKey i object) :=
  fun _ _ h hr => ⟨hr.2.objectLock _ h.1, hr.2.absentReceipt object h.1 h.2⟩

/-- The Worker holds the lock of a run without a row. -/
def Reserved (i : ι) (runId : String) (w : World ι) : Prop :=
  w.rowLock runId = some i ∧ ∀ p ∈ w.committed.publications, p.runId ≠ runId

theorem kept_reserved (runId : String) : Kept receiptLockKey strict i (Reserved i runId) :=
  fun _ _ h hr => ⟨hr.2.rowLock _ h.1, hr.2.absentRow runId h.1 h.2⟩

/-- An object has a receipt under a run that is published, if it has a row and a store
of publications is configured (`store`). -/
def SettledUnder (strict : Prop) (store : Bool) (object : S3Object) (runId : String)
    (w : World ι) : Prop :=
  ⟨object, runId⟩ ∈ w.committed.receipts ∧ (strict → store = true → w.RunPublished runId)

theorem kept_settledUnder (store : Bool) (object : S3Object) (runId : String) :
    Kept receiptLockKey strict i (SettledUnder strict store object runId) :=
  fun _ _ h hr => ⟨hr.1.receipts _ h.1, fun hs hstore => hr.1.settled hs _ h.1 (h.2 hs hstore)⟩

/-- An object that is processed. -/
def Settled (strict : Prop) (store : Bool) (object : S3Object) (w : World ι) : Prop :=
  ∃ runId, SettledUnder strict store object runId w

theorem kept_settled (store : Bool) (object : S3Object) :
    Kept receiptLockKey strict i (Settled strict store object) := by
  rintro w w' ⟨runId, h⟩ hr
  exact ⟨runId, kept_settledUnder store object runId w w' h hr⟩

end Protocol

/-! ## Steps on the world -/

section Steps

variable {strict : Prop} {receiptLockKey : S3Object → Int} {i j : ι} {site : Site} {w w' w'' : World ι}

theorem Progress.of_eq (hpublications : w'.committed.publications = w.committed.publications)
    (hreceipts : w'.committed.receipts = w.committed.receipts) (harchive : w'.archive = w.archive) :
    Progress strict w w' where
  sound h := by
    constructor <;> simp only [World.Archived, hpublications, hreceipts, harchive]
    · exact h.archived
    · exact h.summaryLast
    · exact h.published
    · exact h.objectPrefix
    · exact h.named
  archive key content h := by rwa [harchive]
  stored payload h := by rwa [World.Stored, hpublications]
  receipts r h := by rwa [hreceipts]
  settled _ r _ h := by rwa [World.RunPublished, hpublications]

theorem Recorded.none (hreceipts : w'.committed.receipts = w.committed.receipts) :
    Recorded none w w' where
  fresh r hr := by cases hr
  receipts r := by
    rw [hreceipts]
    exact ⟨.inl, fun hr => hr.resolve_right fun hr => by cases hr⟩

/-- A step that leaves the committed publications and receipts and the archive alone, and
the transactions of the others. -/
structure Local (i : ι) (w w' : World ι) : Prop where
  publications : w'.committed.publications = w.committed.publications
  receipts : w'.committed.receipts = w.committed.receipts
  archive : w'.archive = w.archive
  pending : ∀ j, j ≠ i → w'.pending j = w.pending j
  objectLock : ∀ j, j ≠ i → ∀ k, w.objectLock k = some j → w'.objectLock k = some j
  rowLock : ∀ j, j ≠ i → ∀ runId, w.rowLock runId = some j → w'.rowLock runId = some j

theorem Local.refl (w : World ι) : Local i w w :=
  ⟨rfl, rfl, rfl, fun _ _ => rfl, fun _ _ _ h => h, fun _ _ _ h => h⟩

theorem Local.trans (h : Local i w w') (h' : Local i w' w'') : Local i w w'' where
  publications := h'.publications.trans h.publications
  receipts := h'.receipts.trans h.receipts
  archive := h'.archive.trans h.archive
  pending j hj := (h'.pending j hj).trans (h.pending j hj)
  objectLock j hj k hk := h'.objectLock j hj k (h.objectLock j hj k hk)
  rowLock j hj runId hr := h'.rowLock j hj runId (h.rowLock j hj runId hr)

theorem Local.progress (h : Local i w w') : Progress strict w w' :=
  .of_eq h.publications h.receipts h.archive

theorem Local.apart (h : Local i w w') (hj : j ≠ i) : Apart receiptLockKey j w w' where
  pending := h.pending j hj
  objectLock := h.objectLock j hj
  rowLock := h.rowLock j hj
  absentRow runId _ hw := by rwa [h.publications]
  absentReceipt object _ hw := by rwa [h.receipts]

theorem Local.guarantee (h : Local i w w') (hsite : site.receipt = none) :
    Guarantee receiptLockKey strict i site w w' where
  progress := h.progress
  apart _ hj := h.apart hj
  recorded := hsite ▸ .none h.receipts

theorem local_lockObject {k : Int} (h : w.objectFree i k) : Local i w (w.lockObject i k) where
  publications := rfl
  receipts := rfl
  archive := rfl
  pending _ _ := rfl
  objectLock j hj k' hk' := by
    have hne : k' ≠ k := by
      rintro rfl
      rcases h with h | h
      · rw [h] at hk'
        cases hk'
      · rw [h] at hk'
        exact hj (Option.some.inj hk').symm
    show Function.update w.objectLock k (some i) k' = some j
    rw [Function.update_of_ne hne, hk']
  rowLock _ _ _ hr := hr

theorem local_lockRow {runId : String} (h : w.rowFree i runId) : Local i w (w.lockRow i runId) where
  publications := rfl
  receipts := rfl
  archive := rfl
  pending _ _ := rfl
  objectLock _ _ _ hk := hk
  rowLock j hj runId' hr := by
    have hne : runId' ≠ runId := by
      rintro rfl
      rcases h with h | h
      · rw [h] at hr
        cases hr
      · rw [h] at hr
        exact hj (Option.some.inj hr).symm
    show Function.update w.rowLock runId (some i) runId' = some j
    rw [Function.update_of_ne hne, hr]

section Locks

variable [DecidableEq ι]

theorem local_push (write : TableWrite) : Local i w (w.push i write) where
  publications := rfl
  receipts := rfl
  archive := rfl
  pending _ hj := Function.update_of_ne hj _ _
  objectLock _ _ _ hk := hk
  rowLock _ _ _ hr := hr

/-- A rollback keeps the locks of the others. -/
theorem local_rollback : Local i w (w.rollback i) where
  publications := rfl
  receipts := rfl
  archive := rfl
  pending _ hj := Function.update_of_ne hj _ _
  objectLock j hj k hk := by
    have hne : ¬ some j = some i := fun h => hj (Option.some.inj h)
    simp only [World.rollback, hk, if_neg hne]
  rowLock j hj runId hr := by
    have hne : ¬ some j = some i := fun h => hj (Option.some.inj h)
    simp only [World.rollback, hr, if_neg hne]

theorem pending_rollback : (w.rollback i).pending i = [] := Function.update_self ..

theorem pending_commit : (w.commit i).pending i = [] := Function.update_self ..

theorem pending_push (write : TableWrite) : (w.push i write).pending i = w.pending i ++ [write] :=
  Function.update_self ..

/-- What a commit must keep: the rest is kept by the rollback that it ends with. -/
theorem guarantee_commit (hprogress : Progress strict w (w.commit i))
    (hrow : ∀ j, j ≠ i → ∀ runId, w.rowLock runId = some j →
      (∀ p ∈ w.committed.publications, p.runId ≠ runId) →
        ∀ p ∈ (w.view i).publications, p.runId ≠ runId)
    (hreceipt : ∀ j, j ≠ i → ∀ object, w.objectLock (receiptLockKey object) = some j →
      (∀ r ∈ w.committed.receipts, r.object ≠ object) →
        ∀ r ∈ (w.view i).receipts, r.object ≠ object)
    (hrecorded : Recorded site.receipt w (w.commit i)) :
    Guarantee receiptLockKey strict i site w (w.commit i) where
  progress := hprogress
  apart j hj :=
    { pending := local_rollback.pending j hj
      objectLock := local_rollback.objectLock j hj
      rowLock := local_rollback.rowLock j hj
      absentRow := hrow j hj
      absentReceipt := hreceipt j hj }
  recorded := hrecorded

end Locks

end Steps

/-! ## Uploads -/

section Put

variable {strict : Prop} {w : World ι} {payload : R1ArchivePublication} {entry : ArchiveEntry}

/-- An upload, of the summary after the Evidence, leaves the world sound. -/
theorem World.Sound.put (h : w.Sound) (hstored : w.Stored payload)
    (hentry : entry ∈ archiveEntries payload)
    (hevidence : entry.filename = r1ExtractionSummaryFilename →
      w.archive (archiveKey payload r1EvidenceFilename) ≠ none)
    (hnone : w.archive (archiveKey payload entry.filename) = none) :
    World.Sound { w with
      archive := Function.update w.archive (archiveKey payload entry.filename) (some entry.content) } := by
  obtain ⟨p, hp, rfl⟩ := hstored
  have hkeeps : ∀ key content, w.archive key = some content →
      Function.update w.archive (archiveKey p.payload entry.filename) (some entry.content) key =
        some content := by
    intro key content hkey
    have hne : key ≠ archiveKey p.payload entry.filename := by
      rintro rfl
      rw [hnone] at hkey
      cases hkey
    rw [Function.update_of_ne hne, hkey]
  have hpresent : ∀ key, w.archive key ≠ none →
      Function.update w.archive (archiveKey p.payload entry.filename) (some entry.content) key ≠
        none := by
    intro key hkey
    obtain ⟨content, hcontent⟩ := Option.ne_none_iff_exists'.mp hkey
    rw [hkeeps key content hcontent]
    exact Option.some_ne_none content
  refine ⟨fun key content hkey => ?_, fun q hq hsummary => ?_, fun q hq hpublished => ?_,
    h.objectPrefix, h.named⟩
  · by_cases hsame : key = archiveKey p.payload entry.filename
    · refine ⟨p, hp, entry, hentry, hsame, ?_⟩
      rw [hsame] at hkey
      have hcontent := hkey.symm.trans (Function.update_self _ _ w.archive)
      exact Option.some.inj hcontent
    · exact h.archived key content ((Function.update_of_ne hsame _ _).symm.trans hkey)
  · refine hpresent _ ?_
    by_cases hsame : archiveKey q.payload r1ExtractionSummaryFilename =
        archiveKey p.payload entry.filename
    · have hsummary' := (@mem_archiveEntries q.payload _).mpr (.inr rfl)
      obtain ⟨hrun, hname⟩ :=
        archiveKey_inj (h.objectPrefix q hq) (h.objectPrefix p hp) hsummary' hentry hsame
      obtain rfl : q = p := Table.eq_of_conflict hq hp hrun
      exact hevidence hname.symm
    · exact h.summaryLast q hq ((Function.update_of_ne hsame _ _).symm.trans_ne hsummary)
  · exact fun entry' hentry' => hkeeps _ _ (h.published q hq hpublished entry' hentry')

/-- What an upload does to the others, and to the Worker itself. -/
theorem put_progress (hstored : w.Stored payload) (hentry : entry ∈ archiveEntries payload)
    (hevidence : entry.filename = r1ExtractionSummaryFilename →
      w.archive (archiveKey payload r1EvidenceFilename) ≠ none)
    (hnone : w.archive (archiveKey payload entry.filename) = none) :
    Progress strict w { w with
      archive := Function.update w.archive (archiveKey payload entry.filename) (some entry.content) } where
  sound h := h.put hstored hentry hevidence hnone
  archive key content hkey := by
    have hne : key ≠ archiveKey payload entry.filename := by
      rintro rfl
      rw [hnone] at hkey
      cases hkey
    exact (Function.update_of_ne hne _ _).trans hkey
  stored _ h := h
  receipts _ h := h
  settled _ _ _ h := h

end Put

/-! ## The status of a publication -/

/-- The row of a run has a status, and nothing else of the table changed. -/
structure Restated (runId : String) (status : PublicationStatus)
    (T T' : Table (SameKey ArchivePublication.runId)) : Prop where
  origin : ∀ q ∈ T', q ∈ T ∧ q.runId ≠ runId ∨
    ∃ p ∈ T, q.payload = p.payload ∧ p.runId = runId ∧ q.status = status
  kept : ∀ p ∈ T, ∃ q ∈ T', q.payload = p.payload

section Status

variable {strict : Prop} {receiptLockKey : S3Object → Int} {i : ι} {site : Site}
  {w : World ι} {runId : String} {status : PublicationStatus} {d : Stores}

/-- An update finds the row of the run, or changes nothing. -/
theorem apply_updateStatus (d : Stores) (errorType errorMessage : Option String) :
    (∀ q ∈ d.publications, q.runId ≠ runId) ∧
        TableWrite.apply d (.updateStatus runId status errorType errorMessage) = d ∨
      ∃ row ∈ d.publications, row.runId = runId ∧
        TableWrite.apply d (.updateStatus runId status errorType errorMessage) =
          { d with publications := d.publications.upsert { row with
              status := status
              attemptCount := row.attemptCount + 1
              lastErrorType := errorType
              lastErrorMessage := errorMessage } } := by
  cases hget : d.publications.get runId with
  | none =>
    refine .inl ⟨Table.get_eq_none.mp hget, ?_⟩
    simp only [TableWrite.apply, Stores.updateStatus, hget]
  | some row =>
    obtain ⟨hrow, hrun⟩ := Table.get_eq_some.mp hget
    refine .inr ⟨row, hrow, hrun, ?_⟩
    simp only [TableWrite.apply, Stores.updateStatus, hget]

theorem restated_updateStatus (d : Stores) (errorType errorMessage : Option String) :
    Restated runId status d.publications
      (TableWrite.apply d (.updateStatus runId status errorType errorMessage)).publications := by
  rcases apply_updateStatus d errorType errorMessage with ⟨habsent, h⟩ | ⟨row, hrow, hrun, h⟩
  · rw [h]
    exact ⟨fun q hq => .inl ⟨hq, habsent q hq⟩, fun p hp => ⟨p, hp, rfl⟩⟩
  · rw [h]
    refine ⟨fun q hq => ?_, fun p hp => ?_⟩
    · rcases Table.mem_upsert.mp hq with rfl | ⟨hq, hne⟩
      · exact .inr ⟨row, hrow, rfl, hrun, rfl⟩
      · refine .inl ⟨hq, fun hsame => hne ?_⟩
        exact hsame.trans hrun.symm
    · by_cases hsame : p.runId = row.runId
      · obtain rfl : p = row := Table.eq_of_conflict hp hrow hsame
        exact ⟨_, Table.mem_upsert.mpr (.inl rfl), rfl⟩
      · exact ⟨p, Table.mem_upsert.mpr (.inr ⟨hp, hsame⟩), rfl⟩

theorem receipts_updateStatus (d : Stores) (errorType errorMessage : Option String) :
    (TableWrite.apply d (.updateStatus runId status errorType errorMessage)).receipts =
      d.receipts := by
  rcases apply_updateStatus d errorType errorMessage with ⟨-, h⟩ | ⟨row, -, -, h⟩
  · rw [h]
  · rw [h]

/-- The writes save Runtime statuses. -/
def SavesRuntimes (writes : List TableWrite) : Prop := ∀ x ∈ writes, ∃ s, x = .saveRuntime s

/-- Runtime statuses are no publications and no receipts. -/
theorem applyAll_saveRuntimes {writes : List TableWrite} (h : SavesRuntimes writes) :
    (d.applyAll writes).publications = d.publications ∧
      (d.applyAll writes).receipts = d.receipts := by
  induction writes generalizing d with
  | nil => exact ⟨rfl, rfl⟩
  | cons x writes ih =>
    obtain ⟨s, rfl⟩ := h x List.mem_cons_self
    exact ih (fun y hy => h y (List.mem_cons_of_mem _ hy))

/-- A transaction that updates a status and then saves Runtime statuses only. -/
def Updates (i : ι) (runId : String) (status : PublicationStatus) (w : World ι) : Prop :=
  ∃ errorType errorMessage writes, SavesRuntimes writes ∧
    w.pending i = .updateStatus runId status errorType errorMessage :: writes

theorem kept_updates : Kept receiptLockKey strict i (Updates i runId status) := by
  rintro w w' ⟨errorType, errorMessage, writes, hsaves, hpending⟩ hr
  exact ⟨errorType, errorMessage, writes, hsaves, hr.2.pending.trans hpending⟩

theorem view_of_updates (h : Updates i runId status w) :
    Restated runId status w.committed.publications (w.view i).publications ∧
      (w.view i).receipts = w.committed.receipts := by
  obtain ⟨errorType, errorMessage, writes, hsaves, hpending⟩ := h
  have hview : w.view i =
      (TableWrite.apply w.committed (.updateStatus runId status errorType errorMessage)).applyAll
        writes := by
    rw [World.view, hpending]
    rfl
  obtain ⟨hpublications, hreceipts⟩ := applyAll_saveRuntimes
    (d := TableWrite.apply w.committed (.updateStatus runId status errorType errorMessage)) hsaves
  rw [hview, hpublications, hreceipts]
  exact ⟨restated_updateStatus _ _ _, receipts_updateStatus _ _ _⟩

/-- A commit of a status: `published` only with both objects, another one only over a
row that is not published. -/
theorem guarantee_updates [DecidableEq ι] (hsite : site.receipt = none) (h : Updates i runId status w)
    (hpublished : status = .published → ∀ p ∈ w.committed.publications, p.runId = runId →
      w.Archived p.payload)
    (hclean : strict → status ≠ .published → ∀ p ∈ w.committed.publications, p.runId = runId →
      p.status ≠ .published) :
    Guarantee receiptLockKey strict i site w (w.commit i) := by
  obtain ⟨hrestated, hreceipts⟩ := view_of_updates h
  have horigin : ∀ q ∈ (w.view i).publications, ∃ p ∈ w.committed.publications,
      q.payload = p.payload := by
    intro q hq
    rcases hrestated.origin q hq with ⟨hq, -⟩ | ⟨p, hp, hpayload, -⟩
    · exact ⟨q, hq, rfl⟩
    · exact ⟨p, hp, hpayload⟩
  refine guarantee_commit ⟨fun hw => ?_, fun _ _ h => h, fun payload hstored => ?_,
    fun r hr => ?_, fun hs r _ hrun q hq hqrun => ?_⟩ (fun j _ runId' _ habsent q hq => ?_)
    (fun j _ object _ habsent => ?_) (hsite ▸ .none hreceipts)
  · refine ⟨fun key content hkey => ?_, fun q hq => ?_, fun q hq hqstatus => ?_, fun q hq => ?_,
      fun q hq => ?_⟩
    · obtain ⟨p, hp, entry, hentry, rfl, rfl⟩ := hw.archived key content hkey
      obtain ⟨q, hq, hpayload⟩ := hrestated.kept p hp
      exact ⟨q, hq, entry, hpayload ▸ hentry, by rw [hpayload], rfl⟩
    · obtain ⟨p, hp, hpayload⟩ := horigin q hq
      rw [hpayload]
      exact hw.summaryLast p hp
    · rcases hrestated.origin q hq with ⟨hq, -⟩ | ⟨p, hp, hpayload, hrun, hstatus⟩
      · exact hw.published q hq hqstatus
      · rw [hpayload]
        exact hpublished (hstatus.symm.trans hqstatus) p hp hrun
    · obtain ⟨p, hp, hpayload⟩ := horigin q hq
      rw [ArchivePublication.runId, hpayload]
      exact hw.objectPrefix p hp
    · obtain ⟨p, hp, hpayload⟩ := horigin q hq
      obtain ⟨r, hr, hrun⟩ := hw.named p hp
      refine ⟨r, ?_, hrun.trans (congrArg R1ArchivePublication.runId hpayload).symm⟩
      show r ∈ (w.view i).receipts
      rwa [hreceipts]
  · obtain ⟨p, hp, rfl⟩ := hstored
    exact hrestated.kept p hp
  · show r ∈ (w.view i).receipts
    rwa [hreceipts]
  · rcases hrestated.origin q hq with ⟨hq, -⟩ | ⟨p, hp, hpayload, hprun, hstatus⟩
    · exact hrun q hq hqrun
    · have hsame : p.runId = r.runId :=
        (congrArg R1ArchivePublication.runId hpayload).symm.trans hqrun
      have hold := hrun p hp hsame
      by_cases hnew : status = .published
      · exact hstatus.trans hnew
      · exact absurd hold (hclean hs hnew p hp hprun)
  · obtain ⟨p, hp, hpayload⟩ := horigin q hq
    rw [ArchivePublication.runId, hpayload]
    exact habsent p hp
  · rwa [hreceipts]

end Status

/-! ## The receipt -/

/-- What the transaction of an execution wrote before the receipt: the run, and its
publication unless a committed row has it already. -/
def Staged (i : ι) (runId : String) (publication : Option ArchivePublication)
    (writes : List TableWrite) (w : World ι) : Prop :=
  writes = [.insertRun runId] ∧ (∀ p, publication = some p → p.runId = runId ∧ w.Stored p.payload) ∨
    ∃ p, publication = some p ∧ p.runId = runId ∧
      p.payload.objectPrefix = r1ArchivePrefix ++ "/" ++ runId ∧
      writes = [.insertRun runId, .savePending p] ∧ Reserved i runId w

/-- What the tables are after the statements of an execution. -/
structure Receipted (i : ι) (object : S3Object) (runId : String)
    (publication : Option ArchivePublication) (w : World ι) (d : Stores) : Prop where
  receipts : ∀ r, r ∈ d.receipts ↔ r ∈ w.committed.receipts ∨ r = ⟨object, runId⟩
  old : ∀ q ∈ w.committed.publications, q ∈ d.publications
  new : ∀ q ∈ d.publications, q ∈ w.committed.publications ∨
    publication ≠ none ∧ q.status = .pending ∧ q.runId = runId ∧
      q.payload.objectPrefix = r1ArchivePrefix ++ "/" ++ runId ∧ Reserved i runId w
  publication : ∀ p, publication = some p → p.runId = runId ∧ ∃ q ∈ d.publications, q.payload = p.payload

section Receipt

variable {strict : Prop} {receiptLockKey : S3Object → Int} {i : ι} {w : World ι} {object : S3Object}
  {runId : String} {publication : Option ArchivePublication} {writes : List TableWrite} {d : Stores}

theorem kept_staged : Kept receiptLockKey strict i (Staged i runId publication writes) := by
  rintro w w' (⟨hwrites, hstored⟩ | ⟨p, hp, hrun, hpre, hwrites, hreserved⟩) hr
  · refine .inl ⟨hwrites, fun p hp => ⟨(hstored p hp).1, ?_⟩⟩
    exact kept_stored _ w w' (hstored p hp).2 hr
  · exact .inr ⟨p, hp, hrun, hpre, hwrites, kept_reserved runId w w' hreserved hr⟩

theorem mem_saveSuccess {receipt r : S3ObjectReceipt}
    (h : ∀ r ∈ d.receipts, r.object ≠ receipt.object) :
    r ∈ (d.saveSuccess receipt).receipts ↔ r ∈ d.receipts ∨ r = receipt := by
  obtain ⟨receipts, hinsert⟩ := Table.exists_insert? h
  simp only [Stores.saveSuccess, hinsert]
  exact Table.mem_of_insert? hinsert

theorem publications_saveSuccess (receipt : S3ObjectReceipt) :
    (d.saveSuccess receipt).publications = d.publications := by
  unfold Stores.saveSuccess
  cases d.receipts.insert? receipt <;> rfl

theorem mem_savePending {p q : ArchivePublication} (h : ∀ q ∈ d.publications, q.runId ≠ p.runId) :
    q ∈ (TableWrite.apply d (.savePending p)).publications ↔
      q ∈ d.publications ∨ q = { payload := p.payload } := by
  have hfresh : ∀ q ∈ d.publications,
      ¬ SameKey ArchivePublication.runId q { payload := p.payload } := h
  obtain ⟨publications, hinsert⟩ := Table.exists_insert? hfresh
  simp only [TableWrite.apply, hinsert]
  exact Table.mem_of_insert? hinsert

theorem receipts_savePending (p : ArchivePublication) :
    (TableWrite.apply d (.savePending p)).receipts = d.receipts := by
  cases hinsert : d.publications.insert? { payload := p.payload } with
  | none => simp only [TableWrite.apply, hinsert]
  | some publications => simp only [TableWrite.apply, hinsert]

/-- The statements of an execution, applied to what is committed. -/
theorem view_of_staged (h : Acquired receiptLockKey i object w)
    (hstaged : Staged i runId publication writes w)
    (hpending : w.pending i = writes ++ [.saveSuccess ⟨object, runId⟩]) :
    Receipted i object runId publication w (w.view i) := by
  rw [World.view, hpending]
  rcases hstaged with ⟨rfl, hstored⟩ | ⟨p, rfl, hrun, hpre, rfl, hreserved⟩
  · let d : Stores := { w.committed with runIds := w.committed.runIds ++ [runId] }
    show Receipted _ _ _ _ _ (d.saveSuccess ⟨object, runId⟩)
    have hpublications : (d.saveSuccess ⟨object, runId⟩).publications = w.committed.publications :=
      publications_saveSuccess _
    refine ⟨fun r => mem_saveSuccess h.2, fun q hq => ?_, fun q hq => .inl ?_, fun p hp => ?_⟩
    · rwa [hpublications]
    · rwa [← hpublications]
    · rw [hpublications]
      exact hstored p hp
  · let d : Stores := { w.committed with runIds := w.committed.runIds ++ [runId] }
    let d' : Stores := TableWrite.apply d (.savePending p)
    show Receipted _ _ _ _ _ (d'.saveSuccess ⟨object, runId⟩)
    have habsent : ∀ q ∈ d.publications, q.runId ≠ p.runId := by
      rw [hrun]
      exact hreserved.2
    have hreceipts : d'.receipts = w.committed.receipts := receipts_savePending p
    have hpublications : (d'.saveSuccess ⟨object, runId⟩).publications = d'.publications :=
      publications_saveSuccess _
    have hmem : ∀ q, q ∈ (d'.saveSuccess ⟨object, runId⟩).publications ↔
        q ∈ w.committed.publications ∨ q = { payload := p.payload } := by
      intro q
      rw [hpublications]
      exact mem_savePending habsent
    refine ⟨fun r => ?_, fun q hq => (hmem q).mpr (.inl hq), fun q hq => ?_, fun p' hp => ?_⟩
    · rw [← hreceipts]
      exact mem_saveSuccess (by rw [hreceipts]; exact h.2)
    · rcases (hmem q).mp hq with hq | rfl
      · exact .inl hq
      · exact .inr ⟨Option.some_ne_none p, rfl, hrun, hpre, hreserved⟩
    · obtain rfl := Option.some.inj hp
      exact ⟨hrun, _, (hmem _).mpr (.inr rfl), rfl⟩

/-- A commit of a receipt, with the row of its run if it has one. -/
theorem guarantee_receipt [DecidableEq ι] (h : Acquired receiptLockKey i object w)
    (hd : Receipted i object runId publication w (w.view i))
    (hclean : strict → ∀ r ∈ w.committed.receipts, r.runId ≠ runId) :
    Guarantee receiptLockKey strict i (.commitReceipt object runId) w (w.commit i) := by
  refine guarantee_commit ⟨fun hw => ?_, fun _ _ h => h, fun payload hstored => ?_,
    fun r hr => (hd.receipts r).mpr (.inl hr), fun hs r hr hrun q hq hqrun => ?_⟩
    (fun j hj runId' hlock habsent q hq => ?_) (fun j hj object' hlock habsent r hr => ?_)
    ⟨fun r hr => ?_, fun r => ?_⟩
  · refine ⟨fun key content hkey => ?_, fun q hq hsummary => ?_, fun q hq hqstatus => ?_,
      fun q hq => ?_, fun q hq => ?_⟩
    · obtain ⟨p, hp, hentry⟩ := hw.archived key content hkey
      exact ⟨p, hd.old p hp, hentry⟩
    · rcases hd.new q hq with hq | ⟨-, -, hqrun, hqpre, hreserved⟩
      · exact hw.summaryLast q hq hsummary
      · -- no object is under the prefix of a run without a row
        obtain ⟨content, hcontent⟩ := Option.ne_none_iff_exists'.mp hsummary
        obtain ⟨p, hp, entry, hentry, hkey, -⟩ := hw.archived _ _ hcontent
        have hsummary' := (@mem_archiveEntries q.payload _).mpr (.inr rfl)
        have hpre : q.payload.objectPrefix = r1ArchivePrefix ++ "/" ++ q.payload.runId :=
          hqpre.trans (congrArg _ hqrun.symm)
        obtain ⟨hsame, -⟩ := archiveKey_inj hpre (hw.objectPrefix p hp) hsummary' hentry hkey
        exact absurd (hsame.symm.trans hqrun) (hreserved.2 p hp)
    · rcases hd.new q hq with hq | ⟨-, hpending, -⟩
      · exact hw.published q hq hqstatus
      · rw [hpending] at hqstatus
        cases hqstatus
    · rcases hd.new q hq with hq | ⟨-, -, hqrun, hqpre, -⟩
      · exact hw.objectPrefix q hq
      · rw [hqpre, hqrun]
    · rcases hd.new q hq with hq | ⟨-, -, hqrun, -⟩
      · obtain ⟨r, hr, hrun⟩ := hw.named q hq
        exact ⟨r, (hd.receipts r).mpr (.inl hr), hrun⟩
      · exact ⟨_, (hd.receipts _).mpr (.inr rfl), hqrun.symm⟩
  · obtain ⟨p, hp, hpayload⟩ := hstored
    exact ⟨p, hd.old p hp, hpayload⟩
  · rcases hd.new q hq with hq | ⟨-, -, hrun', -⟩
    · exact hrun q hq hqrun
    · exact absurd (hqrun.symm.trans hrun') (hclean hs r hr)
  · rcases hd.new q hq with hq | ⟨-, -, hqrun, -, hreserved⟩
    · exact habsent q hq
    · intro hsame
      have hlock' : w.rowLock runId' = some i := by
        rw [← hsame, hqrun]
        exact hreserved.1
      exact hj (Option.some.inj (hlock.symm.trans hlock'))
  · rcases (hd.receipts r).mp hr with hr | rfl
    · exact habsent r hr
    · rintro rfl
      exact hj (Option.some.inj (hlock.symm.trans h.1))
  · obtain rfl := Option.some.inj hr
    exact h.2
  · rw [Site.receipt, Option.mem_some_iff, @eq_comm _ _ r]
    exact hd.receipts r

end Receipt

end IncidentAwareness.Archive
