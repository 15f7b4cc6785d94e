import IncidentAwareness.Lib.Run
import IncidentAwareness.Stream.Ledger

/-!
# The R1 stream ingress

`R1StreamIngress` over the ledger and a dead-letter sink. The sink is a
parameter: a `write` that moves its own state and may raise. A delivery is one
transaction: when the ingress raises, the caller rolls the ledger back, while
the sink keeps what was written to it (`deliver`).
-/

namespace IncidentAwareness.Stream

open IncidentAwareness.Common IncidentAwareness.Lib

variable {D S : Type}

/-- `R1StreamDeadLetterSink`. -/
structure DeadLetterSink (S : Type) where
  write : R1LateEventDeadLetter → EStateM PyError S Unit

/-- The ledger and the sink that the ingress writes to. -/
structure IngressState (D S : Type) where
  ledger : Ledger D
  sink : S

/-- `R1StreamDeliveryDisposition`. -/
inductive R1StreamDeliveryDisposition where
  | accepted | duplicate
  deriving DecidableEq, Repr

/-- `R1StreamDeliveryResult`. -/
structure R1StreamDeliveryResult where
  disposition : R1StreamDeliveryDisposition
  newEventIds : List String := []
  deriving DecidableEq, Repr

/-- `_result`. -/
def result (accepted : Bool) (newEventIds : List String := []) : R1StreamDeliveryResult :=
  ⟨if accepted then .accepted else .duplicate, newEventIds⟩

/-- `_utc_milliseconds`. -/
def utcMilliseconds : PyDatetime → Except PyError UtcMillis
  | .naive => .error (.valueError "clock must return a timezone-aware datetime")
  | .aware instant _ => .ok (instant / 1000)

/-- A ledger program, run on the ledger of the ingress. -/
def onLedger {α : Type} (x : EStateM PyError (Ledger D) α) :
    EStateM PyError (IngressState D S) α := fun s =>
  match x.run s.ledger with
  | .ok a l => .ok a { s with ledger := l }
  | .error e l => .error e { s with ledger := l }

/-- A sink program, run on the sink of the ingress. -/
def onSink {α : Type} (x : EStateM PyError S α) : EStateM PyError (IngressState D S) α := fun s =>
  match x.run s.sink with
  | .ok a t => .ok a { s with sink := t }
  | .error e t => .error e { s with sink := t }

/-- The new Events of a chunk that are at or before a watermark. -/
def violatingEventIds (c : R1EventChunk D) (newEventIds : List String)
    (watermark : R1AcceptedWatermark) : List String :=
  (c.events.filter fun e => e.eventId ∈ newEventIds ∧ e.timestamp ≤ watermark.watermarkAt).map
    (·.eventId)

/-- The dead letter of a late chunk, with the clock's reading. -/
def lateEventDeadLetter (c : R1EventChunk D) (newEventIds : List String)
    (watermark : R1AcceptedWatermark) (now : PyDatetime) :
    Except PyError R1LateEventDeadLetter := do
  let rejectedAt ← utcMilliseconds now
  R1LateEventDeadLetter.validate c.chunkId c.partition watermark.watermarkId watermark.watermarkAt
    (violatingEventIds c newEventIds watermark) rejectedAt

/-- `_reject_late_events`. -/
def rejectLateEvents (sink : DeadLetterSink S) (now : PyDatetime) (c : R1EventChunk D)
    (newEventIds : List String) (latestWatermark : Option R1AcceptedWatermark) :
    EStateM PyError (IngressState D S) Unit :=
  match latestWatermark with
  | none => pure ()
  | some watermark =>
    if violatingEventIds c newEventIds watermark = [] then pure ()
    else do
      let letter ← reads fun _ => lateEventDeadLetter c newEventIds watermark now
      onSink (sink.write letter)
      throw (.lateStreamEventError c.chunkId.val watermark.watermarkId.val)

section Accept

variable [DecidableEq D] (sha256 : CanonicalPayload → D) (sink : DeadLetterSink S)

/-- The ledger row of a chunk. -/
def chunkRow (c : R1EventChunk D) : ChunkRow D where
  partition := c.partition
  chunkId := c.chunkId
  chunkSequence := c.chunkSequence
  contentSha256 := chunkSha256 sha256 c
  chunkSequence_pos := c.chunkSequence_pos

/-- The ledger row of a run close. -/
def runCloseRow (r : R1RunClosed) : RunCloseRow D where
  runId := r.runId
  closeId := r.closeId
  contentSha256 := sha256 (.runClosed r)

/-- `accept_chunk`, where the clock would read `now`. -/
def acceptChunk (now : PyDatetime) (c : R1EventChunk D) :
    EStateM PyError (IngressState D S) R1StreamDeliveryResult := do
  let contentSha256 := chunkSha256 sha256 c
  reads fun _ => raiseIf (contentSha256 ≠ c.chunkContentSha256)
    (.valueError "chunk_content_sha256 does not match the canonical chunk payload")
  let admission ← onLedger (reads fun l =>
    l.inspectChunkAdmission c.partition c.chunkId c.chunkSequence contentSha256
      (eventContentSha256s sha256 c) (eventSourceRecordIds c))
  if admission.isExactChunkReplay then
    return result false
  rejectLateEvents sink now c admission.newEventIds admission.latestWatermark
  let newEventIds ← onLedger (Ledger.saveEvents c.partition (eventContentSha256s sha256 c))
  let accepted ← onLedger (Ledger.saveChunk (chunkRow sha256 c))
  return result accepted newEventIds

/-- `accept_watermark`. -/
def acceptWatermark (w : R1SourceWatermark) :
    EStateM PyError (IngressState D S) R1StreamDeliveryResult := do
  let accepted ← onLedger (Ledger.saveWatermark w (sha256 (.watermark w)))
  return result accepted

/-- `accept_run_closed`. -/
def acceptRunClosed (r : R1RunClosed) :
    EStateM PyError (IngressState D S) R1StreamDeliveryResult := do
  onLedger (reads fun l => l.assertFinalWatermarksMatch r.finalWatermarks)
  let accepted ← onLedger (Ledger.saveRunClose (runCloseRow sha256 r))
  return result accepted

/-- A delivery: a message, and for a chunk the reading of the clock. -/
inductive Delivery (D : Type) where
  | chunk (chunk : R1EventChunk D) (now : PyDatetime)
  | watermark (watermark : R1SourceWatermark)
  | runClosed (close : R1RunClosed)

/-- The ingress call that a delivery makes. -/
def accept : Delivery D → EStateM PyError (IngressState D S) R1StreamDeliveryResult
  | .chunk c now => acceptChunk sha256 sink now c
  | .watermark w => acceptWatermark sha256 w
  | .runClosed r => acceptRunClosed sha256 r

/-- One transaction: it commits what the call wrote, or rolls the ledger back
when the call raised. -/
def deliver (s : IngressState D S) (d : Delivery D) :
    IngressState D S × Except PyError R1StreamDeliveryResult :=
  match (accept sha256 sink d).run s with
  | .ok r s' => (s', .ok r)
  | .error e s' => ({ s' with ledger := s.ledger }, .error e)

/-- The state after deliveries to an ingress whose ledger was empty. -/
abbrev stateAfter (sink₀ : S) (ds : List (Delivery D)) : IngressState D S :=
  after (deliver sha256 sink) ⟨.empty, sink₀⟩ ds

end Accept

end IncidentAwareness.Stream
