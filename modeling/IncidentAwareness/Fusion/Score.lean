import IncidentAwareness.Common.Evidence
import IncidentAwareness.Lib.Binary64
import IncidentAwareness.Lib.Canonical
import Mathlib.Data.List.Dedup
import Mathlib.Data.String.Basic

/-!
# The simple score

`SimpleScorer`: the share of the profile's evidence types that are active, and
the ids that contribute to it. Both read the active Evidence as a set
(`score_congr`, `contributingEvidenceIds_congr`), and a positive score has a
contributing id (`contributingEvidenceIds_ne_nil`).
-/

namespace IncidentAwareness.Fusion

open IncidentAwareness.Common IncidentAwareness.Lib

variable {φ : Type}

/-- `SimpleScorer`: its profile types, which its constructor has checked. -/
structure SimpleScorer where
  profileTypes : List String
  ne_nil : profileTypes ≠ [] := by simp
  nonblank : ∀ t ∈ profileTypes, isBlank t = false := by decide
  nodup : profileTypes.Nodup := by decide
  deriving Repr

namespace SimpleScorer

/-- `SimpleScorer(evidence_types=...)`. -/
def new (evidenceTypes : List String) : Except PyError SimpleScorer :=
  if h₁ : evidenceTypes = [] then .error (.valueError "evidence_types must not be empty")
  else if h₂ : ∀ t ∈ evidenceTypes, isBlank t = false then
    if h₃ : evidenceTypes.Nodup then .ok ⟨evidenceTypes, h₁, h₂, h₃⟩
    else .error (.valueError "evidence_types must not contain duplicates")
  else .error (.valueError "evidence_types must not contain blank values")

variable (scorer : SimpleScorer)

/-- `denominator`. -/
def denominator : Nat := scorer.profileTypes.length

/-- `_is_scoring_evidence`. -/
def isScoringEvidence (evidence : Evidence φ) : Bool :=
  evidence.featureChannelGroup = .fusionFeature && evidence.evidenceType ∈ scorer.profileTypes

/-- `active_types`, as a list without repetition. -/
def activeTypes (activeEvidence : List (Evidence φ)) : List String :=
  ((activeEvidence.filter scorer.isScoringEvidence).map (·.evidenceType)).dedup

/-- `score`: `len(active_types) / self.denominator`. -/
def score (activeEvidence : List (Evidence φ)) : ℚ :=
  binary64 ((scorer.activeTypes activeEvidence).length / scorer.denominator)

/-- `contributing_evidence_ids`. -/
def contributingEvidenceIds (activeEvidence : List (Evidence φ)) : List String :=
  sortedBy id ((activeEvidence.filter scorer.isScoringEvidence).map (·.evidenceId)).dedup

variable {scorer} {l l' : List (Evidence φ)}

theorem mem_activeTypes {t : String} :
    t ∈ scorer.activeTypes l ↔ ∃ e ∈ l, scorer.isScoringEvidence e ∧ e.evidenceType = t := by
  simp [activeTypes, and_assoc]

theorem denominator_pos (scorer : SimpleScorer) : 0 < scorer.denominator :=
  List.length_pos_of_ne_nil scorer.ne_nil

/-- The active types are types of the profile. -/
theorem activeTypes_length_le (scorer : SimpleScorer) (l : List (Evidence φ)) :
    (scorer.activeTypes l).length ≤ scorer.denominator := by
  have hsub : scorer.activeTypes l ⊆ scorer.profileTypes := by
    intro t ht
    obtain ⟨e, -, hscoring, rfl⟩ := mem_activeTypes.mp ht
    rw [isScoringEvidence, Bool.and_eq_true, decide_eq_true_eq, decide_eq_true_eq] at hscoring
    exact hscoring.2
  exact (List.subperm_of_subset (List.nodup_dedup _) hsub).length_le

/-- The score depends on which Evidence is active, not on its order. -/
theorem score_congr (h : ∀ e, e ∈ l ↔ e ∈ l') : scorer.score l = scorer.score l' := by
  have hperm : (scorer.activeTypes l).Perm (scorer.activeTypes l') := by
    refine (List.perm_ext_iff_of_nodup (List.nodup_dedup _) (List.nodup_dedup _)).mpr fun t => ?_
    change t ∈ scorer.activeTypes l ↔ t ∈ scorer.activeTypes l'
    simp only [mem_activeTypes, h]
  rw [score, score, hperm.length_eq]

/-- The contributing ids depend on which Evidence is active, not on its order. -/
theorem contributingEvidenceIds_congr (h : ∀ e, e ∈ l ↔ e ∈ l') :
    scorer.contributingEvidenceIds l = scorer.contributingEvidenceIds l' := by
  refine sortedBy_eq_of_mem_iff (fun a _ b _ hab => hab) (List.nodup_dedup _) (List.nodup_dedup _)
    fun a => ?_
  simp only [List.mem_dedup, List.mem_map, List.mem_filter, h]

theorem score_nonneg (scorer : SimpleScorer) (l : List (Evidence φ)) : 0 ≤ scorer.score l :=
  binary64_nonneg (by positivity)

theorem score_le_one (scorer : SimpleScorer) (l : List (Evidence φ)) : scorer.score l ≤ 1 := by
  unfold score
  rcases Nat.eq_zero_or_pos (scorer.activeTypes l).length with hzero | hpos
  · rw [hzero, Nat.cast_zero, zero_div, binary64_zero]
    exact zero_le_one
  · have hden : (0 : ℚ) < scorer.denominator := by exact_mod_cast scorer.denominator_pos
    have hnum : (0 : ℚ) < (scorer.activeTypes l).length := by exact_mod_cast hpos
    apply binary64_le_one (div_pos hnum hden)
    rw [div_le_one hden]
    exact_mod_cast scorer.activeTypes_length_le l

/-- A positive score has a contributing Evidence id. -/
theorem contributingEvidenceIds_ne_nil (h : 0 < scorer.score l) :
    scorer.contributingEvidenceIds l ≠ [] := by
  have htypes : scorer.activeTypes l ≠ [] := by
    intro hnil
    rw [score, hnil, List.length_nil, Nat.cast_zero, zero_div, binary64_zero] at h
    exact lt_irrefl 0 h
  obtain ⟨t, ht⟩ := List.exists_mem_of_ne_nil _ htypes
  obtain ⟨e, he, hscoring, -⟩ := mem_activeTypes.mp ht
  have hmem : e.evidenceId ∈ scorer.contributingEvidenceIds l := by
    rw [contributingEvidenceIds, mem_sortedBy, List.mem_dedup]
    exact List.mem_map_of_mem (List.mem_filter.mpr ⟨he, hscoring⟩)
  exact List.ne_nil_of_mem hmem

/-- The constructor accepts types that are present, not blank and distinct. -/
theorem new_eq_ok {evidenceTypes : List String} (h₁ : evidenceTypes ≠ [])
    (h₂ : ∀ t ∈ evidenceTypes, isBlank t = false) (h₃ : evidenceTypes.Nodup) :
    new evidenceTypes = .ok ⟨evidenceTypes, h₁, h₂, h₃⟩ := by
  rw [new, dif_neg h₁, dif_pos h₂, dif_pos h₃]

end SimpleScorer

end IncidentAwareness.Fusion
