import IncidentAwareness.Spool.Consume

/-!
# What a run of the consumer does

* `Published`: what `_publish_immutable` may leave, wherever it stops: the file as
  it was, or written once (`keeps_publishImmutable`); and the file has the data where
  it returns (`publishImmutable_returns`);
* `Committed`: the ledger has the message, now and after every later delivery;
* `deliverContent_spec`: a delivery returns with the message committed, and where it
  stops it has committed it or nothing.
-/

namespace IncidentAwareness.Spool

open IncidentAwareness.Common IncidentAwareness.Lib IncidentAwareness.Stream
  IncidentAwareness.Position

variable {D : Type}

/-! ## Publishing a file -/

section Publish

/-- One file was left as it was or written once, beside its stage. -/
structure Publishes (path stage : Path) (data : SpoolContent D)
    (files files' : Files (SpoolContent D)) : Prop where
  once : files'.read path = files.read path ∨
    files.read path = none ∧ files'.read path = some data
  other : ∀ q, q ≠ path → q ≠ stage → files'.read q = files.read q

/-- What publishing a file leaves. -/
def Published (path stage : Path) (data : SpoolContent D) (s s' : World D) : Prop :=
  ∃ files, s' = { s with files := files } ∧ Publishes path stage data s.files files

variable {path stage : Path} {data : SpoolContent D} {s s' : World D}

theorem Published.refl (path stage : Path) (data : SpoolContent D) (s : World D) :
    Published path stage data s s :=
  ⟨s.files, rfl, .inl rfl, fun _ _ _ => rfl⟩

/-- A file that is there keeps its content, unless it is the stage. -/
theorem Published.read_of_some (h : Published path stage data s s') {q : Path}
    {content : SpoolContent D} (hq : q ≠ stage) (hread : s.files.read q = some content) :
    s'.files.read q = some content := by
  obtain ⟨files, rfl, hpublishes⟩ := h
  by_cases hpath : q = path
  · rcases hpublishes.once with hsame | ⟨hnone, -⟩
    · show files.read q = _
      rw [hpath, hsame, ← hpath, hread]
    · rw [← hpath, hread] at hnone
      cases hnone
  · exact (hpublishes.other q hpath hq).trans hread

/-- The stage may be written and removed. -/
theorem Published.stages (h : Published path stage data s s') (hne : stage ≠ path)
    {files : Files (SpoolContent D)} (hfiles : ∀ q, q ≠ stage → files.read q = s'.files.read q) :
    Published path stage data s { s' with files := files } := by
  obtain ⟨files', rfl, hpublishes⟩ := h
  refine ⟨files, rfl, ?_, fun q hpath hstage => ?_⟩
  · rw [hfiles path hne.symm]
    exact hpublishes.once
  · rw [hfiles q hstage]
    exact hpublishes.other q hpath hstage

variable [DecidableEq D]

omit [DecidableEq D] in
theorem keeps_writeStage (hne : stage ≠ path) (content : SpoolContent D) :
    Keeps (Published path stage data s) (writeFile stage content) := by
  intro s' hs'
  exact hs'.stages hne fun q hq => by rw [Files.read_write, if_neg hq]

omit [DecidableEq D] in
theorem keeps_unlinkStage (hne : stage ≠ path) :
    Keeps (Published path stage data s) (unlinkFile stage) := by
  intro s' hs'
  exact hs'.stages hne fun q hq => by rw [Files.read_unlink, if_neg hq]

omit [DecidableEq D] in
theorem keeps_createStage (hne : stage ≠ path) (content : SpoolContent D) :
    Keeps (Published path stage data s) (createFile stage content) := by
  refine keeps_bind keeps_get fun s₁ => ?_
  split
  · exact keeps_throw _
  · exact keeps_writeStage hne content

omit [DecidableEq D] in
theorem keeps_createFile : Keeps (Published path stage data s) (createFile path data) := by
  intro s' hs'
  rw [createFile, wp_bind, wp_get]
  by_cases hread : (s'.files.read path).isSome
  · rw [if_pos hread]
    exact hs'
  · rw [if_neg hread]
    rw [Bool.not_eq_true, Option.isSome_eq_false_iff, Option.isNone_iff_eq_none] at hread
    obtain ⟨files, rfl, hpublishes⟩ := hs'
    refine ⟨_, rfl, .inr ⟨?_, ?_⟩, fun q hpath hstage => ?_⟩
    · rcases hpublishes.once with hsame | ⟨hnone, -⟩
      · exact hsame.symm.trans hread
      · exact hnone
    · rw [Files.read_write, if_pos rfl]
    · rw [Files.read_write, if_neg hpath]
      exact hpublishes.other q hpath hstage

theorem keeps_requireSame {I : World D → Prop} (path : Path) (data : SpoolContent D) :
    Keeps I (requireSame path data) := by
  refine keeps_bind keeps_get fun s₁ => ?_
  split
  · exact keeps_throw _
  · exact keeps_pure _

theorem keeps_linkStage (faults : PublishSite → Fault SpoolError) :
    Keeps (Published path stage data s) (linkStage faults path data) := by
  refine keeps_bind (keeps_attempt (keeps_call keeps_createFile)) fun r => ?_
  split
  · exact keeps_pure _
  · exact keeps_requireSame path data
  · exact keeps_throw _

theorem keeps_publishStage (faults : PublishSite → Fault SpoolError) (hne : stage ≠ path) :
    Keeps (Published path stage data s) (publishStage faults path stage data) := by
  refine keeps_bind (keeps_call (keeps_createStage hne _)) fun _ =>
    keeps_bind (keeps_call (keeps_writeStage hne _)) fun _ =>
      keeps_bind (keeps_attempt (keeps_linkStage faults)) fun r => ?_
  split
  · exact keeps_call (keeps_unlinkStage hne)
  · exact keeps_bind (keeps_call (keeps_unlinkStage hne)) fun _ => keeps_throw _

/-- `_publish_immutable` leaves its file as it was or written once, wherever it stops. -/
theorem keeps_publishImmutable (pid : String) (faults : PublishSite → Fault SpoolError)
    (hne : stagePath path pid ≠ path) :
    Keeps (Published path (stagePath path pid) data s) (publishImmutable pid faults path data) := by
  refine keeps_bind (keeps_call (keeps_pure _)) fun _ => keeps_bind keeps_get fun s₁ => ?_
  split
  · exact keeps_requireSame path data
  · refine keeps_bind (keeps_attempt (keeps_publishStage faults hne)) fun r => ?_
    split
    · exact keeps_pure _
    · exact keeps_bind (keeps_call (keeps_unlinkStage hne)) fun _ => keeps_throw _

theorem requireSame_returns (path : Path) (data : SpoolContent D) (s : World D) :
    wp (requireSame path data) (fun _ s' => s'.files.read path = some data) (fun _ _ => True) s := by
  rw [requireSame, wp_bind, wp_get]
  by_cases hsame : s.files.read path ≠ some data
  · rw [if_pos hsame]
    trivial
  · rw [if_neg hsame]
    exact not_not.mp hsame

omit [DecidableEq D] in
theorem createFile_returns (path : Path) (data : SpoolContent D) (s : World D) :
    wp (createFile path data) (fun _ s' => s'.files.read path = some data) (fun _ _ => True) s := by
  rw [createFile, wp_bind, wp_get]
  split
  · trivial
  · show (s.files.write path data).read path = some data
    rw [Files.read_write, if_pos rfl]

theorem linkStage_returns (faults : PublishSite → Fault SpoolError) (path : Path)
    (data : SpoolContent D) (s : World D) :
    wp (linkStage faults path data) (fun _ s' => s'.files.read path = some data) (fun _ _ => True)
      s := by
  rw [linkStage, wp_bind, wp_attempt]
  refine wp_mono (wp_call_returns (createFile_returns path data s)) (fun _ _ h => h) ?_
  refine fun stop s' _ => ⟨fun e _ => ?_, fun _ => trivial⟩
  cases e with
  | fileExists => exact requireSame_returns path data s'
  | python e => trivial
  | os text => trivial

theorem publishStage_returns (faults : PublishSite → Fault SpoolError) (hne : stage ≠ path)
    (s : World D) : wp (publishStage faults path stage data)
      (fun _ s' => s'.files.read path = some data) (fun _ _ => True) s := by
  refine wp_bind_returns fun _ s₁ => wp_bind_returns fun _ s₂ => ?_
  rw [wp_bind, wp_attempt]
  refine wp_mono (linkStage_returns faults path data s₂) ?_ ?_
  · intro _ s₃ hread
    refine wp_call_returns ?_
    show (s₃.files.unlink stage).read path = some data
    rw [Files.read_unlink, if_neg hne.symm]
    exact hread
  · refine fun stop s₃ _ => ⟨fun e _ => ?_, fun _ => trivial⟩
    exact wp_bind_returns fun _ _ => trivial

/-- Where `_publish_immutable` returns, the file has the data. -/
theorem publishImmutable_returns (pid : String) (faults : PublishSite → Fault SpoolError)
    (hne : stagePath path pid ≠ path) (s : World D) :
    wp (publishImmutable pid faults path data) (fun _ s' => s'.files.read path = some data)
      (fun _ _ => True) s := by
  refine wp_bind_returns fun _ s₁ => ?_
  rw [wp_bind, wp_get]
  split
  · exact requireSame_returns path data s₁
  · rw [wp_bind, wp_attempt]
    refine wp_mono (publishStage_returns faults hne s₁) (fun _ _ h => h) ?_
    refine fun stop s₂ _ => ⟨fun e _ => ?_, fun _ => trivial⟩
    exact wp_bind_returns fun _ _ => trivial

/-- Without faults a new file is written, unless a stage of the process was left over,
which is removed. -/
theorem publishImmutable_free {pid : String} {faults : PublishSite → Fault SpoolError}
    (hfree : ∀ site, faults site = .none) (hne : stagePath path pid ≠ path)
    (hread : s.files.read path = none) :
    wp (publishImmutable pid faults path data)
      (fun _ s' => s'.files.read path = some data)
      (fun stop s' => stop = .raised .fileExists ∧ (s.files.read (stagePath path pid)).isSome ∧
        s' = { s with files := s.files.unlink (stagePath path pid) }) s := by
  have hwrite : ∀ files : Files (SpoolContent D), files.read path = none →
      wp (linkStage faults path data) (fun _ s' => s'.files.read path = some data)
        (fun _ _ => False) { s with files := files } := by
    intro files hnone
    rw [linkStage, hfree, wp_bind, wp_attempt, call_none, createFile, wp_bind, wp_get]
    rw [hnone]
    show ((files.write path data).read path) = some data
    rw [Files.read_write, if_pos rfl]
  unfold publishImmutable
  rw [hfree, wp_bind, call_none, wp_pure, wp_bind, wp_get, hread]
  show wp (attempt (publishStage faults path (stagePath path pid) data) >>= _) _ _ s
  rw [wp_bind, wp_attempt, publishStage, hfree, wp_bind, call_none, createFile, wp_bind, wp_get]
  cases hstage : s.files.read (stagePath path pid) with
  | some existing =>
    refine ⟨fun e he => ?_, fun hcrash => nomatch hcrash⟩
    obtain rfl := Stop.raised.inj he
    rw [hfree, call_none]
    exact ⟨rfl, rfl, rfl⟩
  | none =>
    rw [hfree]
    show wp (attempt (linkStage faults path data) >>= _) _ _ { s with
      files := (s.files.write (stagePath path pid) (.other "")).write (stagePath path pid) data }
    rw [wp_bind, wp_attempt]
    refine wp_mono (hwrite _ ?_) ?_ fun _ _ hf => hf.elim
    · rw [Files.read_write, if_neg hne.symm, Files.read_write, if_neg hne.symm, hread]
    · intro _ s₁ hdone
      rw [hfree, call_none]
      show (s₁.files.unlink (stagePath path pid)).read path = some data
      rw [Files.read_unlink, if_neg hne.symm]
      exact hdone

end Publish

/-! ## Committed messages -/

section Committed

variable (sha256 : CanonicalPayload → D) {l l' : Ledger D} {d : Delivery D}
  {message : SpoolMessage D} {result : R1StreamDeliveryResult} {now : PyDatetime}

/-- The ledger has the message. -/
def Committed (l : Ledger D) : SpoolMessage D → Prop
  | .eventChunk c => chunkSha256 sha256 c = c.chunkContentSha256 ∧ chunkRow sha256 c ∈ l.chunks
  | .sourceWatermark w => l.HasWatermark w (sha256 (.watermark w))
  | .runClosed r => (l.FinalsMatch r.runId r.finalWatermarks ∧ Storable [r.closeId.val]) ∧
      runCloseRow sha256 r ∈ l.runCloses

variable {sha256}

/-- A committed message stays committed. -/
theorem Committed.commits (h : Committed sha256 l message) (hc : Commits sha256 l d result l') :
    Committed sha256 l' message := by
  cases message with
  | eventChunk c => exact hc.recorded (d := .chunk c .naive) h
  | sourceWatermark w => exact hc.grows.hasWatermark h
  | runClosed r => exact hc.recorded (d := .runClosed r) h

/-- A delivery that returned has committed its message. -/
theorem committed_of_commits (h : Commits sha256 l (message.delivery now) result l') :
    Committed sha256 l' message := by
  cases message with
  | eventChunk c =>
    cases h with
    | chunkReplay digest recorded => exact ⟨digest, recorded⟩
    | chunk admits records =>
      refine ⟨admits.digest, ?_⟩
      rw [Table.mem_def, records.chunks]
      exact List.mem_append_right _ (List.mem_singleton.mpr rfl)
  | sourceWatermark w =>
    cases h with
    | watermarkReplay recorded => exact recorded
    | watermark admits inserted =>
      exact ⟨_, (Table.mem_of_insert? inserted).mpr (.inr rfl), rfl, rfl, rfl, rfl⟩
  | runClosed r =>
    cases h with
    | runCloseReplay finals text recorded => exact ⟨⟨finals, text⟩, recorded⟩
    | runClosed finals text inserted =>
      exact ⟨⟨⟨finals.latest, finals.count⟩, text⟩, (Table.mem_of_insert? inserted).mpr (.inr rfl)⟩

/-- A message that is accepted was not committed. -/
theorem not_committed_of_accepted (h : Commits sha256 l (message.delivery now) result l')
    (haccepted : result.disposition = .accepted) : ¬ Committed sha256 l message := by
  intro hm
  cases message with
  | eventChunk c =>
    cases h with
    | chunkReplay => cases haccepted
    | chunk admits records => exact (admits.new _ hm.2 rfl).1 rfl
  | sourceWatermark w =>
    cases h with
    | watermarkReplay => cases haccepted
    | watermark admits inserted =>
      obtain ⟨r, hr, hp, hi, hrest⟩ := hm
      exact (admits.new r hr hp).1 hi
  | runClosed r =>
    cases h with
    | runCloseReplay => cases haccepted
    | runClosed finals text inserted => exact (Table.insert?_eq_some.mp inserted).1 _ hm.2 rfl

variable [DecidableEq D] {S : Type} {sink : DeadLetterSink S} {s s' : IngressState D S}

theorem commits_of_accept (h : (accept sha256 sink (message.delivery now)).run s = .ok result s') :
    Commits sha256 s.ledger (message.delivery now) result s'.ledger := by
  cases message with
  | eventChunk c => exact (acceptChunk_eq_ok h).1
  | sourceWatermark w => exact (acceptWatermark_eq_ok h).1
  | runClosed r => exact (acceptRunClosed_eq_ok h).1

/-- A committed message is a duplicate. -/
theorem accept_of_committed (h : Committed sha256 s.ledger message) :
    (accept sha256 sink (message.delivery now)).run s = .ok ⟨.duplicate, []⟩ s := by
  cases message with
  | eventChunk c => exact acceptChunk_replay h.1 h.2
  | sourceWatermark w => exact acceptWatermark_replay h
  | runClosed r => exact acceptRunClosed_replay h.1.1 h.1.2 h.2

/-- A dead letter is that of a late chunk. -/
theorem sink_of_accept {l : Ledger D} {e : PyError}
    {s' : IngressState D (Option R1LateEventDeadLetter)}
    (h : (accept sha256 deadLetterSink (message.delivery now)).run ⟨l, none⟩ = .error e s') :
    s'.sink = none ∨ ∃ c w letter, message = .eventChunk c ∧ Late sha256 l c w ∧
      s'.sink = some letter ∧ letter.chunkId = c.chunkId := by
  have hkept : ∀ {x : EStateM PyError (IngressState D (Option R1LateEventDeadLetter))
      R1StreamDeliveryResult}, Keeps (fun s => s.sink = none) x → x.run ⟨l, none⟩ = .error e s' →
      s'.sink = none := fun hx hrun => (wp_of_error hrun).mp (hx _ rfl)
  cases message with
  | eventChunk c =>
    by_cases hlate : ∃ w, Late sha256 l c w
    · obtain ⟨w, hlate⟩ := hlate
      have hrun := (acceptChunk_of_late deadLetterSink now hlate).symm.trans h
      cases hletter : deadLetterOf l c w now with
      | error e' =>
        rw [run_rejection_of_error hletter] at hrun
        obtain ⟨-, rfl⟩ := EStateM.Result.error.inj hrun
        exact .inl rfl
      | ok letter =>
        rw [run_rejection_of_write hletter rfl] at hrun
        obtain ⟨-, rfl⟩ := EStateM.Result.error.inj hrun
        exact .inr ⟨c, w, letter, rfl, hlate, rfl, (chunkId_of_deadLetterOf hletter).1⟩
    · exact .inl ((wp_of_error h).mp (acceptChunk_sink (not_exists.mp hlate)))
  | sourceWatermark w =>
    exact .inl (hkept (keeps_bind keeps_onLedger fun _ => keeps_pure _) h)
  | runClosed r =>
    refine .inl (hkept ?_ h)
    exact keeps_bind keeps_onLedger fun _ => keeps_bind keeps_onLedger fun _ => keeps_pure _

end Committed

/-! ## Deliveries -/

theorem stagePath_ne (path : Path) (pid : String) : stagePath path pid ≠ path := by
  intro h
  have hlast : path.getLast? = some ("." ++ path.getLast?.getD "" ++ "." ++ pid ++ ".tmp") := by
    conv_lhs => rw [← h]
    exact List.getLast?_concat
  have hlength := congrArg (fun o : Option String => (o.getD "").length) hlast
  simp only [Option.getD_some, String.length_append] at hlength
  have hone : (".tmp" : String).length = 4 := rfl
  omega

section Deliver

variable (sha256 : CanonicalPayload → D) (spoolRoot : Path)
  (contract : R1RequiredPartitionContract) (env : RunEnvironment) (name : String)

/-- What a delivery did, the session aside: nothing, it filed the dead letter of a late
chunk, or it committed its message. -/
inductive Effect (content : SpoolContent D) (s s' : World D) : Prop
  | nothing (committed : s'.committed = s.committed) (commits : s'.commits = s.commits)
      (files : s'.files = s.files)
  | deadLetter {c : R1EventChunk D} {layout : String} {w : R1AcceptedWatermark}
      {letter : R1LateEventDeadLetter} (hcontent : content = .message (.eventChunk c) layout)
      (required : requireContract contract (.eventChunk c) = .ok ())
      (late : Late sha256 s.session c w)
      (committed : s'.committed = s.committed) (commits : s'.commits = s.commits)
      (files : Publishes (deadLetterPath spoolRoot c.chunkId)
        (stagePath (deadLetterPath spoolRoot c.chunkId) env.pid) (.deadLetter letter) s.files s'.files)
  | commit {message : SpoolMessage D} {layout : String} {result : R1StreamDeliveryResult}
      (hcontent : content = .message message layout)
      (required : requireContract contract message = .ok ())
      (committed : Commits sha256 s.session (message.delivery (env.clock name)) result s'.committed)
      (commits : s'.commits = s.commits ++ [⟨name, message, result.disposition⟩])
      (files : s'.files = s.files)

variable {sha256 spoolRoot contract env name} {content : SpoolContent D} {s : World D}

theorem Effect.session (h : Effect sha256 spoolRoot contract env name content s s') (l : Ledger D) :
    Effect sha256 spoolRoot contract env name content s { s' with session := l } := by
  cases h with
  | nothing committed commits files => exact .nothing committed commits files
  | deadLetter hcontent required late committed commits files =>
    exact .deadLetter hcontent required late committed commits files
  | commit hcontent required committed commits files =>
    exact .commit hcontent required committed commits files

variable [DecidableEq D]

/-- The ingress returns with the message in the session, or stops with its dead letter filed. -/
theorem ingress_spec {message : SpoolMessage D} {layout : String}
    (hcontent : content = .message message layout)
    (required : requireContract contract message = .ok ()) :
    wp (ingress sha256 spoolRoot env name message)
      (fun result s' => ∃ l, s' = { s with session := l } ∧
        Commits sha256 s.session (message.delivery (env.clock name)) result l)
      (fun _ s' => Effect sha256 spoolRoot contract env name content s s') s := by
  rw [ingress, wp_bind, wp_get]
  cases hrun : (accept sha256 deadLetterSink (message.delivery (env.clock name))).run
      ⟨s.session, none⟩ with
  | ok result s' => exact ⟨s'.ledger, rfl, commits_of_accept hrun⟩
  | error e s' =>
    let s₁ : World D := { s with session := s'.ledger }
    show wp (fileDeadLetter spoolRoot env name s'.sink >>= fun _ => raise (.python e)) _ _ s₁
    rw [wp_bind]
    rcases sink_of_accept hrun with hnone | ⟨c, w, letter, rfl, hlate, hsome, hid⟩
    · rw [hnone]
      exact .nothing rfl rfl rfl
    · rw [hsome, fileDeadLetter, hid]
      have hkeeps := @keeps_publishImmutable D _ (.deadLetter letter) s₁ _ env.pid
        (fun site => env.faults name (.deadLetter site))
        (stagePath_ne (deadLetterPath spoolRoot c.chunkId) env.pid) s₁ (.refl _ _ _ s₁)
      have heffect : ∀ s₂, Published (deadLetterPath spoolRoot c.chunkId)
          (stagePath (deadLetterPath spoolRoot c.chunkId) env.pid) (.deadLetter letter) s₁ s₂ →
          Effect sha256 spoolRoot contract env name content s s₂ := by
        rintro s₂ ⟨files, rfl, hpublishes⟩
        exact .deadLetter hcontent required hlate rfl rfl hpublishes
      exact wp_mono hkeeps (fun _ s₂ h => heffect s₂ h) fun _ s₂ h => heffect s₂ h

/-- The body of the `try` returns with the message committed. -/
theorem deliverContent_spec :
    wp (deliverContent sha256 spoolRoot contract env name content)
      (fun result s' => s'.session = s'.committed ∧ ∃ message layout,
        content = .message message layout ∧ requireContract contract message = .ok () ∧
        Commits sha256 s.session (message.delivery (env.clock name)) result s'.committed ∧
        s'.commits = s.commits ++ [⟨name, message, result.disposition⟩] ∧ s'.files = s.files)
      (fun _ s' => Effect sha256 spoolRoot contract env name content s s') s := by
  cases content with
  | message message layout =>
    rw [deliverContent]
    cases required : requireContract contract message with
    | error e => exact .nothing rfl rfl rfl
    | ok u =>
      have hingress := @ingress_spec D sha256 spoolRoot contract env name _ s _ message layout rfl required
      show wp (call _ (ingress sha256 spoolRoot env name message) >>= _) _ _ s
      rw [wp_bind]
      refine wp_call (wp_mono hingress ?_ fun _ _ h => h) ?_ ?_
      · rintro result s₁ ⟨l, rfl, hcommits⟩
        rw [wp_bind]
        refine wp_call ?_ ?_ ?_
        · exact ⟨rfl, message, layout, rfl, required, hcommits, rfl, rfl⟩
        · exact fun _ _ => .nothing rfl rfl rfl
        · exact fun _ _ => .commit rfl required hcommits rfl rfl
      · exact fun _ _ => .nothing rfl rfl rfl
      · intro stop _
        refine wp_mono hingress ?_ fun _ _ h => h
        rintro result s₁ ⟨l, rfl, -⟩
        exact .nothing rfl rfl rfl
  | deadLetter letter => exact .nothing rfl rfl rfl
  | ack ack => exact .nothing rfl rfl rfl
  | contract contract => exact .nothing rfl rfl rfl
  | other text => exact .nothing rfl rfl rfl

/-- The `try` with its rollback. -/
theorem deliverFile_spec :
    wp (deliverFile sha256 spoolRoot contract env name content)
      (fun result s' => s'.session = s'.committed ∧ ∃ message layout,
        content = .message message layout ∧ requireContract contract message = .ok () ∧
        Commits sha256 s.session (message.delivery (env.clock name)) result s'.committed ∧
        s'.commits = s.commits ++ [⟨name, message, result.disposition⟩] ∧ s'.files = s.files)
      (fun _ s' => Effect sha256 spoolRoot contract env name content s s') s := by
  rw [deliverFile, wp_bind, wp_attempt]
  refine wp_mono deliverContent_spec (fun _ _ h => h) ?_
  intro stop s' heffect
  refine ⟨fun e _ => ?_, fun _ => heffect⟩
  rw [wp_bind]
  refine wp_call ?_ (fun _ _ => heffect) fun _ _ => ?_
  · exact heffect.session s'.committed
  · exact heffect.session s'.committed

end Deliver

end IncidentAwareness.Spool
