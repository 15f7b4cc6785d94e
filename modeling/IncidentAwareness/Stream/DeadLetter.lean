import IncidentAwareness.Lib.Files
import IncidentAwareness.Lib.Process
import IncidentAwareness.Stream.Frontier

/-!
# The dead-letter files

The ingress over `_FileDeadLetterSink`: a rejected chunk leaves its dead letter
in a file that is written once, under the chunk's id. The dead letter has the
time of the rejection in it, so a late chunk is rejected as late only if the file
does not have another record, another partition's or one of another millisecond;
and a chunk that was rejected is late no more once a later watermark of its
partition is uncovered (`lateRejectionLaw_iff`, `lateRejectionLaw_fails`).
-/

namespace IncidentAwareness.Stream

open IncidentAwareness.Common IncidentAwareness.Lib Ledger

variable {D S C : Type}

instance : DecidableEq R1LateEventDeadLetter := fun a b =>
  decidable_of_iff (a.chunkId = b.chunkId ∧ a.partition = b.partition ∧
      a.watermarkId = b.watermarkId ∧ a.watermarkAt = b.watermarkAt ∧
      a.violatingEventIds = b.violatingEventIds ∧ a.rejectedAt = b.rejectedAt)
    (by cases a; cases b; simp)

/-! ## The sink -/

/-- `spool_root / "dead-letter" / f"{chunk_id}.json"`. -/
def deadLetterPath (spoolRoot : Path) (chunkId : Identifier) : Path :=
  Path.join (spoolRoot ++ ["dead-letter"]) (chunkId.val ++ ".json")

/-- What the operating system raises where it refuses to write a file. -/
abbrev Refusals (C : Type) := Files C → Path → Option {e : PyError // NotLateError e}

section Sink

variable [DecidableEq C] (refuses : Refusals C) (canonicalBytes : R1LateEventDeadLetter → C)
  (spoolRoot : Path)

/-- `_publish_immutable`. -/
def publishImmutable (path : Path) (data : C) : EStateM PyError (Files C) Unit := fun files =>
  match refuses files path with
  | some e => .error e.val files
  | none =>
    match files.writeOnce path data with
    | some files => .ok () files
    | none =>
      .error (.valueError "immutable spool path conflicts with existing content") files

/-- `_FileDeadLetterSink`. -/
def fileDeadLetterSink : DeadLetterSink (Files C) where
  write deadLetter :=
    publishImmutable refuses (deadLetterPath spoolRoot deadLetter.chunkId)
      (canonicalBytes deadLetter)

end Sink

/-! ## Late chunks -/

section Late

variable [DecidableEq D] (sha256 : CanonicalPayload → D) {sink : DeadLetterSink S}

/-- The dead letter of a late chunk in a ledger. -/
def deadLetterOf (l : Ledger D) (c : R1EventChunk D) (w : R1AcceptedWatermark) (now : PyDatetime) :
    Except PyError R1LateEventDeadLetter :=
  lateEventDeadLetter c ((l.newEvents c).map (·.eventId)) w now

variable {sha256}

omit [DecidableEq D] in
theorem chunkId_of_deadLetterOf {l : Ledger D} {c : R1EventChunk D} {w : R1AcceptedWatermark}
    {now : PyDatetime} {letter : R1LateEventDeadLetter} (h : deadLetterOf l c w now = .ok letter) :
    letter.chunkId = c.chunkId ∧ letter.partition = c.partition := by
  obtain ⟨rejectedAt, -, h⟩ := Except.bind_eq_ok.mp h
  unfold R1LateEventDeadLetter.validate at h
  split at h
  · cases h
  · split at h
    · cases h
    · split at h
      · cases h
      · obtain rfl := Except.ok.inj h
        exact ⟨rfl, rfl⟩

/-- What `_reject_late_events` does with a late chunk. -/
def rejection (sink : DeadLetterSink S) (l : Ledger D) (c : R1EventChunk D) (w : R1AcceptedWatermark)
    (now : PyDatetime) : EStateM PyError (IngressState D S) R1StreamDeliveryResult := do
  let letter ← reads fun _ => deadLetterOf l c w now
  onSink (sink.write letter)
  throw (.lateStreamEventError c.chunkId.val w.watermarkId.val)

omit [DecidableEq D] in
theorem run_rejection_of_error {l : Ledger D} {c : R1EventChunk D} {w : R1AcceptedWatermark}
    {now : PyDatetime} {e : PyError} {s : IngressState D S} (h : deadLetterOf l c w now = .error e) :
    (rejection sink l c w now).run s = .error e s := by
  rw [rejection, EStateM.run_bind, run_reads, h]

section Write

variable {l : Ledger D} {c : R1EventChunk D} {w : R1AcceptedWatermark} {now : PyDatetime}
  {letter : R1LateEventDeadLetter} {s : IngressState D S} {t : S}

omit [DecidableEq D] in
theorem run_rejection_of_write (h : deadLetterOf l c w now = .ok letter)
    (hwrite : (sink.write letter).run s.sink = .ok () t) :
    (rejection sink l c w now).run s =
      .error (.lateStreamEventError c.chunkId.val w.watermarkId.val) { s with sink := t } := by
  have hsink : (onSink (D := D) (sink.write letter)).run s = .ok () { s with sink := t } := by
    simp only [EStateM.run] at hwrite
    simp only [onSink, EStateM.run, hwrite]
  have hread : (reads fun _ => deadLetterOf l c w now).run s = .ok letter s :=
    run_reads_eq_ok.mpr ⟨h, rfl⟩
  rw [rejection, run_bind_of_ok hread, run_bind_of_ok hsink]
  rfl

omit [DecidableEq D] in
theorem run_rejection_of_refusal {e : PyError} (h : deadLetterOf l c w now = .ok letter)
    (hwrite : (sink.write letter).run s.sink = .error e t) :
    (rejection sink l c w now).run s = .error e { s with sink := t } := by
  have hsink : (onSink (D := D) (sink.write letter)).run s = .error e { s with sink := t } := by
    simp only [EStateM.run] at hwrite
    simp only [onSink, EStateM.run, hwrite]
  have hread : (reads fun _ => deadLetterOf l c w now).run s = .ok letter s :=
    run_reads_eq_ok.mpr ⟨h, rfl⟩
  rw [rejection, run_bind_of_ok hread]
  exact run_bind_eq_error.mpr (.inl hsink)

end Write

variable (sink) in
/-- A late chunk is rejected. -/
theorem acceptChunk_of_late (now : PyDatetime) {c : R1EventChunk D} {w : R1AcceptedWatermark}
    {s : IngressState D S} (h : Late sha256 s.ledger c w) :
    (acceptChunk sha256 sink now c).run s = (rejection sink s.ledger c w now).run s := by
  have hdigest : (reads fun _ => raiseIf (chunkSha256 sha256 c ≠ c.chunkContentSha256)
      (PyError.valueError "chunk_content_sha256 does not match the canonical chunk payload")).run s =
      .ok () s := run_reads_eq_ok.mpr ⟨raiseIf_of_not (not_not.mpr h.digest), rfl⟩
  have hinspect : (onLedger (S := S) (reads fun l => l.inspectChunkAdmission c.partition c.chunkId
      c.chunkSequence (chunkSha256 sha256 c) (eventContentSha256s sha256 c)
      (eventSourceRecordIds c))).run s =
      .ok ⟨false, (s.ledger.newEvents c).map (·.eventId), some w⟩ s := by
    rw [← h.active]
    exact run_onLedger_eq_ok.mpr ⟨s.ledger, run_reads_eq_ok.mpr
      ⟨inspectChunkAdmission_eq_ok.mpr (.inr ⟨rfl, h.texts, h.new, h.notClosed,
        h.postPositionClose, h.eventsAgree, h.eventTexts⟩), rfl⟩, rfl⟩
  rw [acceptChunk, run_bind_of_ok hdigest, run_bind_of_ok hinspect]
  show (rejectLateEvents sink now c _ _ >>= _).run s = _
  rw [rejectLateEvents, if_neg h.violates, bind_assoc]
  refine congrArg (EStateM.run · s) (congrArg (reads _ >>= ·) (funext fun letter => ?_))
  -- The rest of `accept_chunk` is not reached: the rejection raises.
  rw [bind_assoc]
  rfl

omit [DecidableEq D] in
theorem wp_onLedger_reads {α : Type} {q : Ledger D → Except PyError α} {s : IngressState D S}
    {Q : α → IngressState D S → Prop} {R : PyError → IngressState D S → Prop} :
    wp (onLedger (reads q)) Q R s ↔
      (∀ a, q s.ledger = .ok a → Q a s) ∧ ∀ e, q s.ledger = .error e → R e s := by
  rw [wp, EStateM.run, onLedger, run_reads]
  cases q s.ledger <;> simp

omit [DecidableEq D] in
theorem keeps_onLedger {α : Type} {x : EStateM PyError (Ledger D) α} {t : S} :
    Keeps (fun s : IngressState D S => s.sink = t) (onLedger x) := by
  intro s hs
  rw [wp, EStateM.run, onLedger]
  cases x.run s.ledger <;> exact hs

/-- A chunk that is not late leaves the sink as it is. -/
theorem acceptChunk_sink {now : PyDatetime} {c : R1EventChunk D} {s : IngressState D S}
    (h : ∀ w, ¬ Late sha256 s.ledger c w) :
    wp (acceptChunk sha256 sink now c) (fun _ s' => s'.sink = s.sink) (fun _ s' => s'.sink = s.sink)
      s := by
  rw [acceptChunk, wp_bind, wp_reads]
  refine ⟨fun _ hdigest => ?_, fun _ _ => rfl⟩
  rw [wp_bind, wp_onLedger_reads]
  refine ⟨fun a ha => ?_, fun _ _ => rfl⟩
  rcases inspectChunkAdmission_eq_ok.mp ha with
    ⟨rfl, -⟩ | ⟨rfl, texts, new, notClosed, postPositionClose, eventsAgree, eventTexts⟩
  · exact rfl
  · have hpass : (rejectLateEvents sink now c ((s.ledger.newEvents c).map (·.eventId))
        (activeWatermark s.ledger c.partition)).run s = .ok () s := by
      refine rejectLateEvents_eq_ok.mpr ⟨rfl, fun w active => ?_⟩
      by_contra violates
      exact h w ⟨not_not.mp (raiseIf_eq_ok.mp hdigest), texts, new, notClosed, postPositionClose,
        eventsAgree, eventTexts, active, violates⟩
    show wp (rejectLateEvents sink now c _ _ >>= _) _ _ s
    rw [wp_bind, wp_of_ok hpass]
    exact keeps_bind keeps_onLedger (fun _ => keeps_bind keeps_onLedger fun _ => keeps_pure _) s rfl

end Late

/-! ## Deliveries to the file sink -/

section Files

variable [DecidableEq D] [DecidableEq C] {sha256 : CanonicalPayload → D} {refuses : Refusals C}
  {canonicalBytes : R1LateEventDeadLetter → C} {spoolRoot : Path}
  {s : IngressState D (Files C)} {c : R1EventChunk D} {w : R1AcceptedWatermark} {now : PyDatetime}

theorem publishImmutable_eq_ok {path : Path} {data : C} {files files' : Files C} {u : Unit} :
    (publishImmutable refuses path data).run files = .ok u files' ↔
      refuses files path = none ∧ files.writeOnce path data = some files' := by
  rw [EStateM.run, publishImmutable]
  cases refuses files path with
  | some e => simp
  | none => cases files.writeOnce path data <;> simp

theorem publishImmutable_eq_error {path : Path} {data : C} {files files' : Files C} {e : PyError}
    (h : (publishImmutable refuses path data).run files = .error e files') :
    files' = files ∧ NotLateError e := by
  rw [EStateM.run, publishImmutable] at h
  cases hrefuses : refuses files path with
  | some e' =>
    rw [hrefuses] at h
    obtain ⟨rfl, rfl⟩ := EStateM.Result.error.inj h
    exact ⟨rfl, e'.2⟩
  | none =>
    rw [hrefuses] at h
    cases hwrite : files.writeOnce path data with
    | some files' =>
      rw [hwrite] at h
      cases h
    | none =>
      rw [hwrite] at h
      obtain ⟨rfl, rfl⟩ := EStateM.Result.error.inj h
      exact ⟨rfl, trivial⟩

omit [DecidableEq D] [DecidableEq C] in
theorem raisesOnly_deadLetterOf (l : Ledger D) (c : R1EventChunk D) (w : R1AcceptedWatermark)
    (now : PyDatetime) : RaisesOnly NotLateError (deadLetterOf l c w now) := by
  refine raisesOnly_bind ?_ fun rejectedAt => ?_
  · cases now with
    | naive => exact raisesOnly_error trivial
    | aware instant utcoffset => exact raisesOnly_ok _
  · unfold R1LateEventDeadLetter.validate
    split
    · exact raisesOnly_error trivial
    · split
      · exact raisesOnly_error trivial
      · split
        · exact raisesOnly_error trivial
        · exact raisesOnly_ok _

/-- The dead letter of the chunk in the state was written, and `s'` has it. -/
structure Writes (refuses : Refusals C) (canonicalBytes : R1LateEventDeadLetter → C)
    (spoolRoot : Path) (s : IngressState D (Files C)) (c : R1EventChunk D) (w : R1AcceptedWatermark)
    (now : PyDatetime) (letter : R1LateEventDeadLetter) (s' : IngressState D (Files C)) : Prop where
  built : deadLetterOf s.ledger c w now = .ok letter
  permitted : refuses s.sink (deadLetterPath spoolRoot c.chunkId) = none
  written : s.sink.writeOnce (deadLetterPath spoolRoot c.chunkId) (canonicalBytes letter) =
    some s'.sink
  ledger : s'.ledger = s.ledger

variable (refuses canonicalBytes spoolRoot) in
/-- What a delivery of a late chunk does. -/
theorem deliver_late (h : Late sha256 s.ledger c w) (now : PyDatetime) :
    (∃ letter s', Writes refuses canonicalBytes spoolRoot s c w now letter s' ∧
      deliver sha256 (fileDeadLetterSink refuses canonicalBytes spoolRoot) s (.chunk c now) =
        (s', .error (.lateStreamEventError c.chunkId.val w.watermarkId.val))) ∨
    (¬ ∃ letter s', Writes refuses canonicalBytes spoolRoot s c w now letter s') ∧
      ∃ e, NotLateError e ∧
        deliver sha256 (fileDeadLetterSink refuses canonicalBytes spoolRoot) s (.chunk c now) =
          (s, .error e) := by
  have hrun := acceptChunk_of_late (fileDeadLetterSink refuses canonicalBytes spoolRoot) now h
  cases hletter : deadLetterOf s.ledger c w now with
  | error e =>
    rw [run_rejection_of_error hletter] at hrun
    refine .inr ⟨?_, e, raisesOnly_deadLetterOf _ _ _ _ e hletter, ?_⟩
    · rintro ⟨letter, s', hwrites⟩
      exact absurd (hwrites.built.symm.trans hletter) nofun
    · simp only [deliver, accept, hrun]
  | ok letter =>
    have hpath : letter.chunkId = c.chunkId := (chunkId_of_deadLetterOf hletter).1
    cases hwrite : ((fileDeadLetterSink refuses canonicalBytes spoolRoot).write letter).run s.sink with
    | ok u files =>
      rw [run_rejection_of_write hletter hwrite] at hrun
      obtain ⟨hpermitted, hwritten⟩ := publishImmutable_eq_ok.mp hwrite
      rw [hpath] at hpermitted hwritten
      refine .inl ⟨letter, { s with sink := files }, ⟨hletter, hpermitted, hwritten, rfl⟩, ?_⟩
      simp only [deliver, accept, hrun]
    | error e files =>
      rw [run_rejection_of_refusal hletter hwrite] at hrun
      obtain ⟨rfl, hlate⟩ := publishImmutable_eq_error hwrite
      refine .inr ⟨?_, e, hlate, ?_⟩
      · rintro ⟨letter', s', hwrites⟩
        obtain rfl := Except.ok.inj (hletter.symm.trans hwrites.built)
        have hok : (publishImmutable refuses (deadLetterPath spoolRoot letter.chunkId)
            (canonicalBytes letter)).run s.sink = .ok () s'.sink := by
          rw [hpath]
          exact publishImmutable_eq_ok.mpr ⟨hwrites.permitted, hwrites.written⟩
        cases hok.symm.trans hwrite
      · simp only [deliver, accept, hrun]

omit [DecidableEq D] in
theorem Writes.read {letter : R1LateEventDeadLetter} {s' : IngressState D (Files C)}
    (h : Writes refuses canonicalBytes spoolRoot s c w now letter s') (path : Path) :
    s'.sink.read path = if path = deadLetterPath spoolRoot c.chunkId then
      some (canonicalBytes letter) else s.sink.read path :=
  (Files.writeOnce_eq_some h.written).2 path

/-- Only a late chunk is rejected as late, and only when its dead letter is written. -/
theorem late_of_rejected {i j : String}
    (h : (deliver sha256 (fileDeadLetterSink refuses canonicalBytes spoolRoot) s (.chunk c now)).2 =
      .error (.lateStreamEventError i j)) :
    ∃ w letter, Late sha256 s.ledger c w ∧
      Writes refuses canonicalBytes spoolRoot s c w now letter
        (deliver sha256 (fileDeadLetterSink refuses canonicalBytes spoolRoot) s (.chunk c now)).1 := by
  have hlate : ∃ w, Late sha256 s.ledger c w := by
    unfold deliver at h
    cases hrun : (accept sha256 (fileDeadLetterSink refuses canonicalBytes spoolRoot)
        (.chunk c now)).run s with
    | ok r s' =>
      rw [hrun] at h
      cases h
    | error e s' =>
      rw [hrun] at h
      obtain rfl := Except.error.inj h
      exact acceptChunk_late hrun
  obtain ⟨w, hlate⟩ := hlate
  rcases deliver_late refuses canonicalBytes spoolRoot hlate now with
    ⟨letter, s', hwrites, hdeliver⟩ | ⟨-, e, hother, hdeliver⟩
  · rw [hdeliver]
    exact ⟨w, letter, hlate, hwrites⟩
  · rw [hdeliver] at h
    obtain rfl := Except.error.inj h
    exact hother.elim

theorem deliver_sink_eq {sink : DeadLetterSink S} {s : IngressState D S} {d : Delivery D}
    (h : wp (accept sha256 sink d) (fun _ s' => s'.sink = s.sink) (fun _ s' => s'.sink = s.sink) s) :
    (deliver sha256 sink s d).1.sink = s.sink := by
  unfold deliver
  cases hrun : (accept sha256 sink d).run s with
  | ok r s' => exact (wp_of_ok hrun).mp h
  | error e s' => exact (wp_of_error hrun).mp h

variable (sha256 refuses canonicalBytes spoolRoot) in
/-- A delivery leaves the files as they are, or writes the dead letter of a late chunk. -/
theorem deliver_sink (s : IngressState D (Files C)) (d : Delivery D) :
    (deliver sha256 (fileDeadLetterSink refuses canonicalBytes spoolRoot) s d).1.sink = s.sink ∨
      ∃ c now w letter, d = .chunk c now ∧ Late sha256 s.ledger c w ∧
        Writes refuses canonicalBytes spoolRoot s c w now letter
          (deliver sha256 (fileDeadLetterSink refuses canonicalBytes spoolRoot) s d).1 := by
  cases d with
  | chunk c now =>
    by_cases hlate : ∃ w, Late sha256 s.ledger c w
    · obtain ⟨w, hlate⟩ := hlate
      rcases deliver_late refuses canonicalBytes spoolRoot hlate now with
        ⟨letter, s', hwrites, hdeliver⟩ | ⟨-, e, -, hdeliver⟩
      · rw [hdeliver]
        exact .inr ⟨c, now, w, letter, rfl, hlate, hwrites⟩
      · rw [hdeliver]
        exact .inl rfl
    · exact .inl (deliver_sink_eq (acceptChunk_sink (not_exists.mp hlate)))
  | watermark w =>
    exact .inl (deliver_sink_eq (keeps_bind keeps_onLedger (fun _ => keeps_pure _) s rfl))
  | runClosed r =>
    refine .inl (deliver_sink_eq ?_)
    exact keeps_bind keeps_onLedger (fun _ => keeps_bind keeps_onLedger fun _ => keeps_pure _) s rfl

end Files

/-! ## The law -/

section Law

variable [DecidableEq D] [DecidableEq C] (sha256 : CanonicalPayload → D) (refuses : Refusals C)
  (canonicalBytes : R1LateEventDeadLetter → C) (spoolRoot : Path)

/-- The state after deliveries to an ingress whose ledger and dead letters were empty. -/
abbrev filedAfter (ds : List (Delivery D)) : IngressState D (Files C) :=
  stateAfter sha256 (fileDeadLetterSink refuses canonicalBytes spoolRoot) .empty ds

/-- What the ingress answers to a delivery that follows others. -/
abbrev answerAfter (ds : List (Delivery D)) (d : Delivery D) : Except PyError R1StreamDeliveryResult :=
  (deliver sha256 (fileDeadLetterSink refuses canonicalBytes spoolRoot)
    (filedAfter sha256 refuses canonicalBytes spoolRoot ds) d).2

/-- After these deliveries the chunk is late. -/
abbrev LateAfter (ds : List (Delivery D)) (c : R1EventChunk D) (w : R1AcceptedWatermark) : Prop :=
  Late sha256 (filedAfter sha256 refuses canonicalBytes spoolRoot ds).ledger c w

/-- The run delivers the chunk at `now`, after the deliveries `before`. -/
def DeliversChunk (ds before : List (Delivery D)) (c : R1EventChunk D) (now : PyDatetime) : Prop :=
  ∃ later, ds = before ++ .chunk c now :: later

/-- The run delivered the chunk and rejected it as late. -/
def RejectedAsLate (ds : List (Delivery D)) (c : R1EventChunk D) : Prop :=
  ∃ before now watermarkId, DeliversChunk ds before c now ∧
    answerAfter sha256 refuses canonicalBytes spoolRoot before (.chunk c now) =
      .error (.lateStreamEventError c.chunkId.val watermarkId)

/-- Every chunk that the run delivers when it is late, or after it was rejected as late,
is rejected with `LateStreamEventError` for the active watermark: its dead letter is
durable, and the ledger unchanged. -/
def LateRejectionLaw (ds : List (Delivery D)) : Prop :=
  ∀ before c now, DeliversChunk ds before c now →
    (∃ w, LateAfter sha256 refuses canonicalBytes spoolRoot before c w) ∨
      RejectedAsLate sha256 refuses canonicalBytes spoolRoot before c →
    (∃ w, activeWatermark (filedAfter sha256 refuses canonicalBytes spoolRoot before).ledger
        c.partition = some w ∧
      answerAfter sha256 refuses canonicalBytes spoolRoot before (.chunk c now) =
        .error (.lateStreamEventError c.chunkId.val w.watermarkId.val)) ∧
    (filedAfter sha256 refuses canonicalBytes spoolRoot (before ++ [.chunk c now])).ledger =
      (filedAfter sha256 refuses canonicalBytes spoolRoot before).ledger ∧
    ∃ letter, letter.chunkId = c.chunkId ∧ letter.partition = c.partition ∧
      (filedAfter sha256 refuses canonicalBytes spoolRoot (before ++ [.chunk c now])).sink.read
        (deadLetterPath spoolRoot c.chunkId) = some (canonicalBytes letter)

/-- The run delivers the chunk when it is late. -/
def DeliversLate (ds before : List (Delivery D)) (c : R1EventChunk D) (now : PyDatetime)
    (w : R1AcceptedWatermark) : Prop :=
  DeliversChunk ds before c now ∧ LateAfter sha256 refuses canonicalBytes spoolRoot before c w

/-- Every chunk that the run delivers when it is late, or after it was late at a delivery,
is late, and its dead letter can be built and filed and is the one of every earlier
delivery of a late chunk that goes to its file. -/
def StaysLate (ds : List (Delivery D)) : Prop :=
  ∀ before c now, DeliversChunk ds before c now →
    (∃ w, LateAfter sha256 refuses canonicalBytes spoolRoot before c w) ∨
      (∃ earlier now' w, DeliversLate sha256 refuses canonicalBytes spoolRoot before earlier c now' w) →
    ∃ w letter, LateAfter sha256 refuses canonicalBytes spoolRoot before c w ∧
      deadLetterOf (filedAfter sha256 refuses canonicalBytes spoolRoot before).ledger c w now =
        .ok letter ∧
      refuses (filedAfter sha256 refuses canonicalBytes spoolRoot before).sink
        (deadLetterPath spoolRoot c.chunkId) = none ∧
      ∀ before' c' now' w', DeliversLate sha256 refuses canonicalBytes spoolRoot before before' c' now'
          w' → deadLetterPath spoolRoot c'.chunkId = deadLetterPath spoolRoot c.chunkId →
        deadLetterOf (filedAfter sha256 refuses canonicalBytes spoolRoot before').ledger c' w' now' =
          .ok letter

variable {sha256 refuses canonicalBytes spoolRoot}

omit [DecidableEq D] in
theorem DeliversChunk.append {ds before rest : List (Delivery D)} {c : R1EventChunk D}
    {now : PyDatetime} (h : DeliversChunk ds before c now) :
    DeliversChunk (ds ++ rest) before c now := by
  obtain ⟨later, rfl⟩ := h
  exact ⟨later ++ rest, by simp⟩

theorem DeliversLate.append {ds before rest : List (Delivery D)} {c : R1EventChunk D}
    {now : PyDatetime} {w : R1AcceptedWatermark}
    (h : DeliversLate sha256 refuses canonicalBytes spoolRoot ds before c now w) :
    DeliversLate sha256 refuses canonicalBytes spoolRoot (ds ++ rest) before c now w :=
  ⟨h.1.append, h.2⟩

theorem filedAfter_snoc (ds : List (Delivery D)) (d : Delivery D) :
    filedAfter sha256 refuses canonicalBytes spoolRoot (ds ++ [d]) =
      (deliver sha256 (fileDeadLetterSink refuses canonicalBytes spoolRoot)
        (filedAfter sha256 refuses canonicalBytes spoolRoot ds) d).1 := by
  rw [filedAfter, stateAfter, after, run_snoc]

/-- A file keeps its content. -/
theorem read_filedAfter_append {ds : List (Delivery D)} {path : Path} {content : C}
    (h : (filedAfter sha256 refuses canonicalBytes spoolRoot ds).sink.read path = some content)
    (more : List (Delivery D)) :
    (filedAfter sha256 refuses canonicalBytes spoolRoot (ds ++ more)).sink.read path =
      some content := by
  rw [filedAfter, stateAfter, after_append]
  refine run_induction (P := fun s : IngressState D (Files C) => s.sink.read path = some content)
    _ (fun s d hs => ?_) h more
  rcases deliver_sink sha256 refuses canonicalBytes spoolRoot s d with
    hsame | ⟨c, now, w, letter, -, -, hwrites⟩
  · rw [hsame]
    exact hs
  · rw [hwrites.read]
    split
    · next hpath =>
      rw [hpath] at hs
      rcases (Files.writeOnce_eq_some hwrites.written).1 with hnone | hold
      · rw [hs] at hnone
        cases hnone
      · exact hold.symm.trans hs
    · exact hs

/-- A file has the dead letter of a late chunk that the run delivered. -/
theorem exists_deliversLate (ds : List (Delivery D)) (path : Path) (content : C)
    (h : (filedAfter sha256 refuses canonicalBytes spoolRoot ds).sink.read path = some content) :
    ∃ before c now w letter, DeliversLate sha256 refuses canonicalBytes spoolRoot ds before c now w ∧
      deadLetterPath spoolRoot c.chunkId = path ∧
      deadLetterOf (filedAfter sha256 refuses canonicalBytes spoolRoot before).ledger c w now =
        .ok letter ∧ canonicalBytes letter = content := by
  induction ds using List.reverseRecOn with
  | nil => cases h
  | append_singleton ds d ih =>
    have hold : (filedAfter sha256 refuses canonicalBytes spoolRoot ds).sink.read path =
        some content → ∃ before c now w letter,
          DeliversLate sha256 refuses canonicalBytes spoolRoot (ds ++ [d]) before c now w ∧
          deadLetterPath spoolRoot c.chunkId = path ∧
          deadLetterOf (filedAfter sha256 refuses canonicalBytes spoolRoot before).ledger c w now =
            .ok letter ∧ canonicalBytes letter = content := by
      intro hread
      obtain ⟨before, c, now, w, letter, hlate, hrest⟩ := ih hread
      exact ⟨before, c, now, w, letter, hlate.append, hrest⟩
    rw [filedAfter_snoc] at h
    rcases deliver_sink sha256 refuses canonicalBytes spoolRoot
      (filedAfter sha256 refuses canonicalBytes spoolRoot ds) d with
      hsame | ⟨c, now, w, letter, rfl, hlate, hwrites⟩
    · rw [hsame] at h
      exact hold h
    · rw [hwrites.read] at h
      split at h
      · next hpath =>
        exact ⟨ds, c, now, w, letter, ⟨⟨[], rfl⟩, hlate⟩, hpath.symm, hwrites.built,
          Option.some.inj h⟩
      · exact hold h

section Lawful

variable {ds before : List (Delivery D)} {c : R1EventChunk D} {now : PyDatetime}
  {w : R1AcceptedWatermark}

/-- Under the law a delivery of a late chunk writes its dead letter. -/
theorem LateRejectionLaw.writes (hlaw : LateRejectionLaw sha256 refuses canonicalBytes spoolRoot ds)
    (h : DeliversLate sha256 refuses canonicalBytes spoolRoot ds before c now w) :
    ∃ letter, Writes refuses canonicalBytes spoolRoot
      (filedAfter sha256 refuses canonicalBytes spoolRoot before) c w now letter
      (filedAfter sha256 refuses canonicalBytes spoolRoot (before ++ [.chunk c now])) := by
  obtain ⟨⟨w₁, -, hanswer⟩, -⟩ := hlaw before c now h.1 (.inl ⟨w, h.2⟩)
  obtain ⟨w₂, letter, hlate, hwrites⟩ := late_of_rejected hanswer
  obtain rfl := Option.some.inj (hlate.active.symm.trans h.2.active)
  rw [filedAfter_snoc]
  exact ⟨letter, hwrites⟩

/-- Under the law a chunk that was late at a delivery was rejected there. -/
theorem LateRejectionLaw.rejected (hlaw : LateRejectionLaw sha256 refuses canonicalBytes spoolRoot ds)
    {earlier : List (Delivery D)} {now' : PyDatetime} (h : DeliversChunk ds before c now)
    (hearlier : DeliversLate sha256 refuses canonicalBytes spoolRoot before earlier c now' w) :
    RejectedAsLate sha256 refuses canonicalBytes spoolRoot before c := by
  obtain ⟨later, rfl⟩ := h
  obtain ⟨⟨w₁, -, hanswer⟩, -⟩ := hlaw earlier c now' hearlier.append.1 (.inl ⟨w, hearlier.2⟩)
  exact ⟨earlier, now', _, hearlier.1, hanswer⟩

/-- Under the law an earlier dead letter in the chunk's file is the chunk's own. -/
theorem LateRejectionLaw.same (hinj : Function.Injective canonicalBytes)
    (hlaw : LateRejectionLaw sha256 refuses canonicalBytes spoolRoot ds)
    (h : DeliversChunk ds before c now) {letter : R1LateEventDeadLetter}
    {s' : IngressState D (Files C)} (hwrites : Writes refuses canonicalBytes spoolRoot
      (filedAfter sha256 refuses canonicalBytes spoolRoot before) c w now letter s')
    {before' : List (Delivery D)} {c' : R1EventChunk D} {now' : PyDatetime}
    {w' : R1AcceptedWatermark}
    (hearlier : DeliversLate sha256 refuses canonicalBytes spoolRoot before before' c' now' w')
    (hpath : deadLetterPath spoolRoot c'.chunkId = deadLetterPath spoolRoot c.chunkId) :
    deadLetterOf (filedAfter sha256 refuses canonicalBytes spoolRoot before').ledger c' w' now' =
      .ok letter := by
  obtain ⟨later, rfl⟩ := h
  obtain ⟨letter', hwrites'⟩ := hlaw.writes hearlier.append
  -- The file of the earlier dead letter is still there, so the two are the same.
  have hread := hwrites'.read (deadLetterPath spoolRoot c'.chunkId)
  rw [if_pos rfl] at hread
  obtain ⟨⟨between, rfl⟩, -⟩ := hearlier
  have hkept := read_filedAfter_append hread between
  rw [List.append_assoc, List.singleton_append] at hkept
  rcases (Files.writeOnce_eq_some hwrites.written).1 with hnone | hsame
  · rw [← hpath] at hnone
    exact absurd (hkept.symm.trans hnone) (Option.some_ne_none _)
  · rw [← hpath] at hsame
    obtain rfl := hinj (Option.some.inj (hkept.symm.trans hsame))
    exact hwrites'.built

/-- A dead letter that agrees with the earlier ones of its file can be written. -/
theorem exists_writeOnce {letter : R1LateEventDeadLetter}
    (h : ∀ before' c' now' w', DeliversLate sha256 refuses canonicalBytes spoolRoot before before' c'
      now' w' → deadLetterPath spoolRoot c'.chunkId = deadLetterPath spoolRoot c.chunkId →
      deadLetterOf (filedAfter sha256 refuses canonicalBytes spoolRoot before').ledger c' w' now' =
        .ok letter) :
    ∃ files, (filedAfter sha256 refuses canonicalBytes spoolRoot before).sink.writeOnce
      (deadLetterPath spoolRoot c.chunkId) (canonicalBytes letter) = some files := by
  rw [← Option.isSome_iff_exists, Option.isSome_iff_ne_none, ne_eq, Files.writeOnce_eq_none]
  rintro ⟨existing, hread, hne⟩
  obtain ⟨before', c', now', w', letter', hearlier, hpath, hbuilt, rfl⟩ :=
    exists_deliversLate before _ _ hread
  obtain rfl := Except.ok.inj (hbuilt.symm.trans (h before' c' now' w' hearlier hpath))
  exact hne rfl

end Lawful

/-- In every run, every chunk that is late or was rejected as late is rejected as late at
every delivery if and only if it stays late, and its dead letter can be filed and is the
one that earlier deliveries to its file left. -/
theorem lateRejectionLaw_iff (hinj : Function.Injective canonicalBytes) (ds : List (Delivery D)) :
    LateRejectionLaw sha256 refuses canonicalBytes spoolRoot ds ↔
      StaysLate sha256 refuses canonicalBytes spoolRoot ds := by
  constructor
  · intro hlaw before c now hdelivers hdue
    have hlate : ∃ w, LateAfter sha256 refuses canonicalBytes spoolRoot before c w := by
      rcases hdue with hlate | ⟨earlier, now', w, hearlier⟩
      · exact hlate
      · obtain ⟨⟨w', -, hanswer⟩, -⟩ :=
          hlaw before c now hdelivers (.inr (hlaw.rejected hdelivers hearlier))
        obtain ⟨w, -, hlate, -⟩ := late_of_rejected hanswer
        exact ⟨w, hlate⟩
    obtain ⟨w, hlate⟩ := hlate
    obtain ⟨letter, hwrites⟩ := hlaw.writes ⟨hdelivers, hlate⟩
    refine ⟨w, letter, hlate, hwrites.built, hwrites.permitted, ?_⟩
    intro before' c' now' w' hearlier hpath
    exact hlaw.same hinj hdelivers hwrites hearlier hpath
  · intro hstays before c now hdelivers hdue
    have hdue' : (∃ w, LateAfter sha256 refuses canonicalBytes spoolRoot before c w) ∨
        ∃ earlier now' w,
          DeliversLate sha256 refuses canonicalBytes spoolRoot before earlier c now' w := by
      refine hdue.imp_right ?_
      rintro ⟨earlier, now', i, hearlier, hanswer⟩
      obtain ⟨w, -, hlate, -⟩ := late_of_rejected hanswer
      exact ⟨earlier, now', w, hearlier, hlate⟩
    obtain ⟨w, letter, hlate, hbuilt, hpermitted, hsame⟩ := hstays before c now hdelivers hdue'
    obtain ⟨hid, hpartition⟩ := chunkId_of_deadLetterOf hbuilt
    obtain ⟨files, hwritten⟩ := exists_writeOnce hsame
    rw [filedAfter_snoc]
    rcases deliver_late refuses canonicalBytes spoolRoot hlate now with
      ⟨letter', s', hwrites, hdeliver⟩ | ⟨hnot, -⟩
    · obtain rfl := Except.ok.inj (hbuilt.symm.trans hwrites.built)
      simp only [answerAfter, hdeliver]
      refine ⟨⟨w, hlate.active, rfl⟩, hwrites.ledger, letter, hid, hpartition, ?_⟩
      rw [hwrites.read, if_pos rfl]
    · exact absurd ⟨letter, { filedAfter sha256 refuses canonicalBytes spoolRoot before with
        sink := files }, ⟨hbuilt, hpermitted, hwritten, rfl⟩⟩ hnot

end Law

namespace Sample

/-- The ingress with a file system that refuses nothing. -/
abbrev filed (ds : List (Delivery CanonicalPayload)) :
    IngressState CanonicalPayload (Files R1LateEventDeadLetter) :=
  filedAfter id (fun _ _ => none) id ["spool"] ds

/-- One millisecond after `now`. -/
def later : PyDatetime := .aware 1767225600001000 0

/-- Deliveries after which `chunk₂` is late. -/
def beforeLate : List (Delivery CanonicalPayload) := [.chunk chunk₁ now, .watermark watermark₁]

/-- Deliveries after which `chunk₂` was rejected as late. -/
def afterLate : List (Delivery CanonicalPayload) := beforeLate ++ [.chunk chunk₂ now]

theorem rejectedAsLate_chunk₂ (ds : List (Delivery CanonicalPayload)) :
    RejectedAsLate id (fun _ _ => none) id ["spool"] (afterLate ++ ds) chunk₂ :=
  ⟨beforeLate, now, "wm-1", ⟨ds, rfl⟩, by rfl⟩

end Sample

open Sample in
/-- A chunk that is rejected, redelivered in the same millisecond, and redelivered later. -/
theorem lateRejectionLaw_iff_chunk₂ :
    LateRejectionLaw id (fun _ _ => none) id ["spool"]
        (afterLate ++ [.chunk chunk₂ now, .chunk chunk₂ later]) ↔
      StaysLate id (fun _ _ => none) id ["spool"]
        (afterLate ++ [.chunk chunk₂ now, .chunk chunk₂ later]) :=
  lateRejectionLaw_iff Function.injective_id _

open Sample in
/-- A rejected chunk that is delivered again one millisecond later meets another error, and
one that is delivered again after a watermark whose chunks are missing is accepted. -/
theorem lateRejectionLaw_fails :
    ¬ LateRejectionLaw id (fun _ _ => none) id ["spool"] (afterLate ++ [.chunk chunk₂ later]) ∧
      ¬ LateRejectionLaw id (fun _ _ => none) id ["spool"]
        (afterLate ++ [.watermark watermark₂, .chunk chunk₂ now]) := by
  constructor
  · intro h
    obtain ⟨⟨w, -, hanswer⟩, -⟩ := h afterLate chunk₂ later ⟨[], rfl⟩
      (.inr (rejectedAsLate_chunk₂ []))
    have hrefused : answerAfter id (fun _ _ => none) id ["spool"] afterLate (.chunk chunk₂ later) =
        .error (.valueError "immutable spool path conflicts with existing content") := by rfl
    exact absurd (hrefused.symm.trans hanswer) nofun
  · intro h
    obtain ⟨⟨w, -, hanswer⟩, -⟩ := h (afterLate ++ [.watermark watermark₂]) chunk₂ now ⟨[], rfl⟩
      (.inr (rejectedAsLate_chunk₂ [.watermark watermark₂]))
    have haccepted : answerAfter id (fun _ _ => none) id ["spool"]
        (afterLate ++ [.watermark watermark₂]) (.chunk chunk₂ now) =
        .ok ⟨.accepted, ["evt-2"]⟩ := by rfl
    exact absurd (haccepted.symm.trans hanswer) nofun

end IncidentAwareness.Stream
