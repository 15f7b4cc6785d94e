import IncidentAwareness.Stream.Ingress
import Mathlib.Logic.Function.Basic

/-!
# The late-event guard in memory

`R1LateEventGuard` keeps the frontier of every partition and every watermark that
it accepted in two dictionaries, without a ledger. Its `accept_watermark` and the
ledger's `save_watermark` validate one protocol; `guardStep` and `ledgerStep` are the
two as machines that answer a sequence of watermarks.
-/

namespace IncidentAwareness.Stream

open IncidentAwareness.Common IncidentAwareness.Lib

variable {D S : Type}

/-! ## The guard -/

/-- `_AcceptedWatermark`. -/
structure AcceptedWatermark extends R1AcceptedWatermark where
  emittedAt : UtcMillis
  deriving DecidableEq, Repr

/-- The accepted values of a watermark message. -/
def acceptedWatermark (w : R1SourceWatermark) : AcceptedWatermark where
  watermarkId := w.watermarkId
  watermarkSequence := w.watermarkSequence
  watermarkAt := w.watermarkAt
  allowedLatenessMs := w.allowedLatenessMs
  coveredThroughChunkSequence := w.coveredThroughChunkSequence
  emittedAt := w.emittedAt

/-- `R1LateEventGuard`: its dictionaries, by partition and by partition and id. -/
structure R1LateEventGuard where
  watermarks : R1StreamPartition → Option AcceptedWatermark
  watermarksByIdentity : R1StreamPartition × Identifier → Option AcceptedWatermark

namespace R1LateEventGuard

/-- A guard that accepted nothing. -/
def initial : R1LateEventGuard := ⟨fun _ => none, fun _ => none⟩

/-- The three checks of `accept_watermark` against the frontier of the partition. -/
def assertIncreases (accepted existing : AcceptedWatermark) : Except PyError Unit := do
  raiseIf (accepted.watermarkSequence ≤ existing.watermarkSequence)
    (.valueError "watermark sequence must increase unless the watermark is an exact duplicate")
  raiseIf (accepted.watermarkAt < existing.watermarkAt)
    (.valueError "watermark_at must not move backwards")
  raiseIf (accepted.allowedLatenessMs ≠ existing.allowedLatenessMs)
    (.valueError "allowed_lateness_ms must remain constant within a partition")

/-- What `accept_watermark` decides before it writes: `true` for a new watermark,
`false` for an exact duplicate. -/
def inspectWatermark (g : R1LateEventGuard) (w : R1SourceWatermark) : Except PyError Bool :=
  match g.watermarksByIdentity (w.partition, w.watermarkId) with
  | some acceptedByIdentity =>
    if acceptedWatermark w = acceptedByIdentity then .ok false
    else .error (.valueError "watermark identity conflicts with previously accepted content")
  | none =>
    match g.watermarks w.partition with
    | none => .ok true
    | some existing => do
      assertIncreases (acceptedWatermark w) existing
      return true

/-- The two assignments of `accept_watermark`. -/
def record (g : R1LateEventGuard) (w : R1SourceWatermark) : R1LateEventGuard where
  watermarks := Function.update g.watermarks w.partition (some (acceptedWatermark w))
  watermarksByIdentity := Function.update g.watermarksByIdentity (w.partition, w.watermarkId)
    (some (acceptedWatermark w))

/-- `accept_watermark`. The source returns `None`; the Boolean says whether it is
the return after the assignments. -/
def acceptWatermark (w : R1SourceWatermark) : EStateM PyError R1LateEventGuard Bool := do
  let accepted ← reads fun g => g.inspectWatermark w
  if accepted then
    modify fun g => g.record w
  return accepted

/-- The Events of a chunk that are at or before a frontier. -/
def violatingEventIds (c : R1EventChunk D) (watermark : AcceptedWatermark) : List String :=
  (c.events.filter fun e => e.timestamp ≤ watermark.watermarkAt).map (·.eventId)

/-- The dead letter of a chunk, with the clock's reading. -/
def lateEventDeadLetter (c : R1EventChunk D) (watermark : AcceptedWatermark) (now : PyDatetime) :
    Except PyError R1LateEventDeadLetter := do
  let rejectedAt ← utcMilliseconds now
  R1LateEventDeadLetter.validate c.chunkId c.partition watermark.watermarkId watermark.watermarkAt
    (violatingEventIds c watermark) rejectedAt

/-- `accept_chunk`, where the clock would read `now`: it reads the guard and writes
to the sink only. -/
def acceptChunk (g : R1LateEventGuard) (sink : DeadLetterSink S) (now : PyDatetime)
    (c : R1EventChunk D) : EStateM PyError S Unit :=
  match g.watermarks c.partition with
  | none => pure ()
  | some watermark =>
    if violatingEventIds c watermark = [] then pure ()
    else do
      let letter ← reads fun _ => lateEventDeadLetter c watermark now
      sink.write letter
      throw (.lateStreamEventError c.chunkId.val watermark.watermarkId.val)

end R1LateEventGuard

/-! ## Decisions -/

/-- What a validator answers to a watermark. -/
inductive WatermarkDecision where
  | accepted | duplicate | rejected
  deriving DecidableEq, Repr

/-- The answer of a call: whether the watermark was new, or an exception. -/
def WatermarkDecision.of : Except PyError Bool → WatermarkDecision
  | .ok true => .accepted
  | .ok false => .duplicate
  | .error _ => .rejected

/-- A watermark comes to the guard; an exception leaves what was written. -/
def guardStep (g : R1LateEventGuard) (w : R1SourceWatermark) :
    R1LateEventGuard × WatermarkDecision :=
  match (R1LateEventGuard.acceptWatermark w).run g with
  | .ok accepted g' => (g', .of (.ok accepted))
  | .error e g' => (g', .of (.error e))

section Ledger

variable [DecidableEq D] (sha256 : CanonicalPayload → D)

/-- A watermark comes to the ledger, in a transaction that an exception rolls back. -/
def ledgerStep (l : Ledger D) (w : R1SourceWatermark) : Ledger D × WatermarkDecision :=
  match (Ledger.saveWatermark w (sha256 (.watermark w))).run l with
  | .ok accepted l' => (l', .of (.ok accepted))
  | .error e _ => (l, .of (.error e))

end Ledger

end IncidentAwareness.Stream
