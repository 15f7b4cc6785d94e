import IncidentAwareness.Common.Datetime

/-!
# Evidence

`Evidence`, whose `features` are of any type. Its timestamp is a UTC datetime by
its validator.
-/

namespace IncidentAwareness.Common

/-- `derived_from_source_layer`. -/
inductive DerivedFromSourceLayer where
  | rawTelemetry | detectorOutput | mixed
  deriving DecidableEq, Repr

/-- `feature_channel_group`. -/
inductive FeatureChannelGroup where
  | fusionFeature | diagnosticOnly
  deriving DecidableEq, Repr

/-- `Evidence`. -/
structure Evidence (φ : Type) where
  evidenceId : String
  runId : String
  timestamp : Int
  entityId : String
  evidenceType : String
  eventIds : List String
  derivedFromSourceLayer : DerivedFromSourceLayer
  featureChannelGroup : FeatureChannelGroup
  extractorVersion : String
  attackTechniqueIds : List String := []
  features : φ
  eventIds_ne_nil : eventIds ≠ [] := by simp
  deriving Repr

instance {φ : Type} [DecidableEq φ] : DecidableEq (Evidence φ) := fun a b =>
  decidable_of_iff (a.evidenceId = b.evidenceId ∧ a.runId = b.runId ∧ a.timestamp = b.timestamp ∧
      a.entityId = b.entityId ∧ a.evidenceType = b.evidenceType ∧ a.eventIds = b.eventIds ∧
      a.derivedFromSourceLayer = b.derivedFromSourceLayer ∧
      a.featureChannelGroup = b.featureChannelGroup ∧
      a.extractorVersion = b.extractorVersion ∧
      a.attackTechniqueIds = b.attackTechniqueIds ∧ a.features = b.features)
    (by cases a; cases b; simp)

/-- What the identity of an Evidence lists: a text, or the ids of Events. -/
inductive IdentityPart where
  | text (value : String)
  | texts (values : List String)
  deriving DecidableEq, Repr

end IncidentAwareness.Common
