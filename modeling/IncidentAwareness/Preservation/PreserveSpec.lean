import IncidentAwareness.Preservation.BundleSpec
import IncidentAwareness.Preservation.Preserve
import IncidentAwareness.Seal.CloseProofSpec

/-!
# Preserved runs verify

What the input checks say of the plan (`Planned`), what the staging directory then holds
(`node_staged`), and when it is accepted (`preserves_iff`): its list is read back exactly
where every name can be written and has no line boundary of its own.
-/

namespace IncidentAwareness.Preservation

open IncidentAwareness.Common IncidentAwareness.Lib
open IncidentAwareness.Stream (isRunId)

/-! ## Paths -/

theorem pathParts_child (path name : PyStr) :
    pathParts (child path name) = pathParts path ++ pathParts name := by
  rw [pathParts, child, List.splitOn_append_cons_self, List.filter_append]
  rfl

/-- A name that is a part of a path. -/
theorem pathParts_of_plain {name : PyStr} (hslash : PyChar.char '/' ∉ name) (hne : name ≠ [])
    (hdot : name ≠ py ".") : pathParts name = [name] := by
  rw [pathParts, List.splitOn_eq_singleton hslash, List.filter_cons_of_pos (by simp [hne, hdot])]
  rfl

theorem child_injective (path : PyStr) : Function.Injective (child path) := by
  intro a b h
  exact (List.cons.inj (List.append_cancel_left h)).2

section RunId

variable {runId : String}

/-- A character of a run id is none that a path or a line treats specially. -/
theorem runId_plain (h : isRunId runId = true) : ∀ c ∈ py runId,
    c ≠ .char '/' ∧ c ≠ .char '.' ∧ c ≠ .char 'E' ∧ isLineBreak c = false := by
  intro c hc
  obtain ⟨d, hd, rfl⟩ := List.mem_map.mp hc
  rcases Seal.runId_chars ⟨runId, h⟩ d hd with hdigit | hletter
  · have hrange : 48 ≤ d.toNat ∧ d.toNat ≤ 57 := by
      simpa [Char.isDigit, UInt32.le_iff_toNat_le] using hdigit
    have hne : ∀ e : Char, e.toNat < 48 ∨ 57 < e.toNat → PyChar.char d ≠ .char e := by
      intro e he heq
      rw [PyChar.char.inj heq] at hrange
      omega
    refine ⟨hne _ (by decide), hne _ (by decide), hne _ (by decide), ?_⟩
    simp only [isLineBreak, List.mem_cons, List.not_mem_nil, or_false, decide_eq_false_iff_not]
    omega
  · have hletters : ∀ c ∈ py "RUN-", c ≠ .char '/' ∧ c ≠ .char '.' ∧ c ≠ .char 'E' ∧
        isLineBreak c = false := by decide
    exact hletters _ (List.mem_map_of_mem hletter)

theorem runId_ne_nil (h : isRunId runId = true) : py runId ≠ [] := by
  intro heq
  have hnil : runId.toList = [] := List.map_eq_nil_iff.mp heq
  rw [isRunId, hnil] at h
  exact absurd h (by decide)

theorem pathParts_runId (h : isRunId runId = true) : pathParts (py runId) = [py runId] := by
  refine pathParts_of_plain (fun hmem => (runId_plain h _ hmem).1 rfl) (runId_ne_nil h) ?_
  intro heq
  have hmem : PyChar.char '.' ∈ py runId := by rw [heq]; decide
  exact (runId_plain h _ hmem).2.1 rfl

theorem baseName_finalDir {inputs : PreservationInputs} (h : isRunId inputs.runId = true) :
    baseName (finalDir inputs) = py inputs.runId := by
  rw [baseName, finalDir, pathParts_child, pathParts_runId h, List.getLastD_concat]

end RunId

/-! ## The plan -/

section Plan

variable {lib : StandardLibrary} {t : FileTree} {inputs : PreservationInputs}
  {plan : List (PyStr × PyStr)}

/-- A file of the run in a layer. -/
def LayerFile (t : FileTree) (inputs : PreservationInputs) (layer : String) (relative : PyStr) :
    Prop :=
  ∃ content, (t.subtree (.char '/') (sourceDir inputs layer)).node relative =
    some (.file content)

/-- The layers of a run. -/
def layers : List String := ["raw", "ground_truth"]

/-- What the input checks say of the plan. -/
structure Planned (t : FileTree) (inputs : PreservationInputs) (plan : List (PyStr × PyStr)) :
    Prop where
  runId : isRunId inputs.runId = true
  notThere : t.isThere (.char '/') (finalDir inputs) = false
  sources : ∀ e ∈ plan, ∃ content, t.node e.2 = some (.file content)
  nodup : (plan.map Prod.fst).Nodup
  destinations : ∀ p, p ∈ plan.map Prod.fst ↔
    (∃ layer ∈ layers, ∃ relative, LayerFile t inputs layer relative ∧
      p = layerPath layer inputs.runId relative) ∨
    p ∈ (singleFiles inputs).map (·.destination)
  markers : ∀ layer ∈ layers, ∀ relative, LayerFile t inputs layer relative →
    baseName relative ≠ rehearsalMarker
  required : ∀ p ∈ requiredBundleFiles inputs.runId,
    p = recordFilename ∨ p ∈ plan.map Prod.fst

theorem node_of_requireRegularFile {path : PyStr} {label : String} {nonEmpty : Bool}
    {content : List UInt8} (h : requireRegularFile t path label nonEmpty = .ok content) :
    t.node path = some (.file content) := by
  rw [requireRegularFile, entryAt] at h
  cases hnode : t.node path with
  | none =>
    rw [hnode] at h
    dsimp only at h
    split at h <;> simp_all
  | some entry =>
    rw [hnode] at h
    cases entry with
    | file content' =>
      dsimp only at h
      split at h
      · exact absurd h (by simp)
      · rw [Except.ok.inj h]
    | directory => exact absurd h (by simp)
    | link => exact absurd h (by simp)
    | special => exact absurd h (by simp)

/-- What the plan of a layer has. -/
structure LayerPlanned (t : FileTree) (inputs : PreservationInputs) (layer : String)
    (required : List String) (plan : List (PyStr × PyStr)) : Prop where
  mem : ∀ e, e ∈ plan ↔ ∃ relative, LayerFile t inputs layer relative ∧
    e = (layerPath layer inputs.runId relative, child (sourceDir inputs layer) relative)
  nodup : (plan.map Prod.fst).Nodup
  markers : ∀ relative, LayerFile t inputs layer relative → baseName relative ≠ rehearsalMarker
  required : ∀ name ∈ required, LayerFile t inputs layer (py name)

theorem layerPlanned {layer : String} {required : List String}
    (h : planLayer t inputs layer required = .ok plan) :
    LayerPlanned t inputs layer required plan := by
  obtain ⟨files, hfiles, h⟩ := Except.bind_eq_ok.mp h
  obtain ⟨hmissing, h⟩ := raiseIf_bind_eq_ok.mp h
  obtain rfl := Except.ok.inj h
  obtain ⟨u, -, hcollect⟩ := Except.bind_eq_ok.mp hfiles
  have hmem : ∀ relative, relative ∈ files ↔ LayerFile t inputs layer relative :=
    fun relative => mem_collectEntries hcollect
  refine ⟨fun e => ?_, ?_, ?_, ?_⟩
  · rw [List.mem_map]
    refine exists_congr fun relative => ?_
    rw [hmem]
    exact and_congr_right fun _ => eq_comm
  · rw [List.map_map]
    refine (nodup_collectEntries hcollect).map ?_
    exact child_injective _
  · intro relative hfile hname
    obtain ⟨content, hnode⟩ := hfile
    have hcheck := (collectEntries_eq_ok.mp hcollect).1 _ (Tree.node_eq_some.mp hnode)
    rw [checkEntry] at hcheck
    exact raiseIf_eq_ok.mp hcheck hname
  · intro name hname
    have hnil := not_not.mp hmissing
    rw [List.filter_eq_nil_iff] at hnil
    have hin := hnil (py name) (List.mem_map_of_mem hname)
    rw [decide_eq_true_eq, not_not] at hin
    exact (hmem _).mp hin

theorem planSingleFiles_eq_ok {files : List SingleFile} {plan' : List (PyStr × PyStr)}
    (h : planSingleFiles t plan files = .ok plan') :
    plan' = plan ++ files.map (fun file => (file.destination, file.source)) ∧
      (∀ file ∈ files, ∃ content, t.node file.source = some (.file content)) ∧
      ((plan.map Prod.fst).Nodup → (plan'.map Prod.fst).Nodup) := by
  induction files generalizing plan with
  | nil =>
    obtain rfl := Except.ok.inj h
    exact ⟨by simp, fun file hfile => absurd hfile List.not_mem_nil, id⟩
  | cons file files ih =>
    obtain ⟨content, hfile, h⟩ := Except.bind_eq_ok.mp h
    obtain ⟨u, -, h⟩ := Except.bind_eq_ok.mp h
    obtain ⟨hnew, h⟩ := raiseIf_bind_eq_ok.mp h
    obtain ⟨hplan, hsources, hnodup⟩ := ih h
    refine ⟨?_, ?_, ?_⟩
    · rw [hplan, List.append_assoc]
      rfl
    · intro file' hfile'
      rcases List.mem_cons.mp hfile' with rfl | hfile'
      · exact ⟨content, node_of_requireRegularFile hfile⟩
      · exact hsources file' hfile'
    · intro hnd
      refine hnodup ?_
      rw [List.map_append, List.nodup_append]
      refine ⟨hnd, List.nodup_singleton _, ?_⟩
      intro p hp q hq hpq
      rw [hpq, List.mem_singleton.mp hq] at hp
      exact hnew hp

theorem layerPath_ne {runId : String} {relative relative' : PyStr} :
    layerPath "raw" runId relative ≠ layerPath "ground_truth" runId relative' := by
  intro h
  have hhead := congrArg List.head? h
  exact absurd hhead (by simp [layerPath, child, py])

/-- The required files of a layer have the destinations that the bundle requires. -/
theorem layerPath_py (layer runId name : String) :
    layerPath layer runId (py name) = py (layer ++ "/") ++ py runId ++ py "/" ++ py name := by
  simp [layerPath, child, py]

theorem LayerPlanned.mem_destinations {layer : String} {required : List String} {p : PyStr}
    (h : LayerPlanned t inputs layer required plan) : p ∈ plan.map Prod.fst ↔
      ∃ relative, LayerFile t inputs layer relative ∧
        p = layerPath layer inputs.runId relative := by
  rw [List.mem_map]
  constructor
  · rintro ⟨e, he, rfl⟩
    obtain ⟨relative, hfile, rfl⟩ := (h.mem e).mp he
    exact ⟨relative, hfile, rfl⟩
  · rintro ⟨relative, hfile, rfl⟩
    exact ⟨_, (h.mem _).mpr ⟨relative, hfile, rfl⟩, rfl⟩

theorem LayerPlanned.source {layer : String} {required : List String} {e : PyStr × PyStr}
    (h : LayerPlanned t inputs layer required plan) (he : e ∈ plan) :
    ∃ content, t.node e.2 = some (.file content) := by
  obtain ⟨relative, ⟨content, hnode⟩, rfl⟩ := (h.mem e).mp he
  rw [Tree.node_subtree] at hnode
  exact ⟨content, hnode⟩

/-- The destinations of a plan of two layers and the single files. -/
theorem mem_plan {raw groundTruth : List (PyStr × PyStr)} {required required' : List String}
    (hr : LayerPlanned t inputs "raw" required raw)
    (hg : LayerPlanned t inputs "ground_truth" required' groundTruth)
    (hentry : ∀ e, e ∈ plan ↔ (e ∈ raw ∨ e ∈ groundTruth) ∨
      e ∈ (singleFiles inputs).map fun file => (file.destination, file.source)) (p : PyStr) :
    p ∈ plan.map Prod.fst ↔
      (∃ layer ∈ layers, ∃ relative, LayerFile t inputs layer relative ∧
        p = layerPath layer inputs.runId relative) ∨
      p ∈ (singleFiles inputs).map (·.destination) := by
  have hsplit : p ∈ plan.map Prod.fst ↔ (p ∈ raw.map Prod.fst ∨ p ∈ groundTruth.map Prod.fst) ∨
      p ∈ (singleFiles inputs).map (·.destination) := by
    have hsingle : (singleFiles inputs).map (·.destination) =
        ((singleFiles inputs).map fun file => (file.destination, file.source)).map Prod.fst := by
      rw [List.map_map]
      rfl
    rw [hsingle, ← List.mem_append, ← List.map_append, ← List.mem_append, ← List.map_append,
      List.mem_map, List.mem_map]
    refine exists_congr fun e => and_congr_left fun _ => ?_
    rw [hentry e, List.mem_append, List.mem_append]
  rw [hsplit, hr.mem_destinations, hg.mem_destinations]
  simp [layers]

theorem planned_of_checkInputs (h : checkInputs lib t inputs = .ok plan) :
    Planned t inputs plan := by
  obtain ⟨hrunId, h⟩ := raiseIf_bind_eq_ok.mp h
  obtain ⟨-, h⟩ := raiseIf_bind_eq_ok.mp h
  obtain ⟨u, -, h⟩ := Except.bind_eq_ok.mp h
  obtain ⟨u, -, h⟩ := Except.bind_eq_ok.mp h
  obtain ⟨-, h⟩ := raiseIf_bind_eq_ok.mp h
  obtain ⟨hthere, h⟩ := raiseIf_bind_eq_ok.mp h
  obtain ⟨u, -, h⟩ := Except.bind_eq_ok.mp h
  obtain ⟨u, -, h⟩ := Except.bind_eq_ok.mp h
  obtain ⟨-, h⟩ := raiseIf_bind_eq_ok.mp h
  obtain ⟨u, -, h⟩ := Except.bind_eq_ok.mp h
  obtain ⟨u, -, h⟩ := Except.bind_eq_ok.mp h
  obtain ⟨raw, hraw, h⟩ := Except.bind_eq_ok.mp h
  obtain ⟨groundTruth, hgroundTruth, h⟩ := Except.bind_eq_ok.mp h
  obtain ⟨u, -, h⟩ := Except.bind_eq_ok.mp h
  obtain ⟨u, -, h⟩ := Except.bind_eq_ok.mp h
  obtain ⟨hplan, hsources, hnodup⟩ := planSingleFiles_eq_ok h
  have hr := layerPlanned hraw
  have hg := layerPlanned hgroundTruth
  have hrunId' := eq_true_of_ne_false hrunId
  have hentry : ∀ e, e ∈ plan ↔ (e ∈ raw ∨ e ∈ groundTruth) ∨
      e ∈ (singleFiles inputs).map fun file => (file.destination, file.source) := by
    intro e
    rw [hplan, List.mem_append, List.mem_append]
  have hmem := mem_plan hr hg hentry
  refine ⟨hrunId', eq_false_of_ne_true hthere, ?_, ?_, hmem, ?_, ?_⟩
  · intro e he
    rcases (hentry e).mp he with (he | he) | he
    · exact hr.source he
    · exact hg.source he
    · obtain ⟨file, hfile, rfl⟩ := List.mem_map.mp he
      exact hsources file hfile
  · refine hnodup ?_
    rw [List.map_append, List.nodup_append]
    refine ⟨hr.nodup, hg.nodup, ?_⟩
    intro p hp q hq hpq
    obtain ⟨relative, -, rfl⟩ := hr.mem_destinations.mp hp
    obtain ⟨relative', -, rfl⟩ := hg.mem_destinations.mp hq
    exact layerPath_ne hpq
  · intro layer hlayer relative hfile
    simp only [layers, List.mem_cons, List.not_mem_nil, or_false] at hlayer
    rcases hlayer with rfl | rfl
    · exact hr.markers relative hfile
    · exact hg.markers relative hfile
  · intro p hp
    simp only [requiredBundleFiles, List.mem_append, List.mem_map, List.mem_cons,
      List.not_mem_nil, or_false] at hp
    rcases hp with (((⟨name, hname, rfl⟩ | ⟨name, hname, rfl⟩) | hp) | ⟨e, he, rfl⟩) | hp
    · refine .inr ((hmem _).mpr
        (.inl ⟨"raw", by simp [layers], py name, hr.required name hname, ?_⟩))
      exact (layerPath_py "raw" inputs.runId name).symm
    · refine .inr ((hmem _).mpr
        (.inl ⟨"ground_truth", by simp [layers], py name, hg.required name hname, ?_⟩))
      exact (layerPath_py "ground_truth" inputs.runId name).symm
    · refine .inr ((hmem p).mpr (.inr ?_))
      rcases hp with rfl | rfl | rfl <;> simp [singleFiles]
    · refine .inr ((hmem _).mpr (.inr ?_))
      simp only [evidencePaths, List.mem_cons, List.not_mem_nil, or_false] at he
      rcases he with rfl | rfl | rfl | rfl <;> simp [singleFiles]
    · exact .inl hp

/-! ## The destinations -/

theorem pathParts_layerPath (h : isRunId inputs.runId = true) (layer : String) (relative : PyStr) :
    pathParts (layerPath layer inputs.runId relative) =
      pathParts (py layer) ++ [py inputs.runId] ++ pathParts relative := by
  rw [layerPath, pathParts_child, pathParts_child, pathParts_runId h]

theorem baseName_layerPath (h : isRunId inputs.runId = true) (layer : String) {relative : PyStr}
    (hmarker : baseName relative ≠ rehearsalMarker) :
    baseName (layerPath layer inputs.runId relative) ≠ rehearsalMarker := by
  rw [baseName, pathParts_layerPath h, List.getLastD_eq_getLast?, List.getLast?_append]
  rw [baseName, List.getLastD_eq_getLast?] at hmarker
  cases hlast : (pathParts relative).getLast? with
  | none =>
    rw [Option.none_or, List.getLast?_concat]
    show py inputs.runId ≠ rehearsalMarker
    intro heq
    have hmem : PyChar.char 'E' ∈ py inputs.runId := by rw [heq]; decide
    exact (runId_plain h _ hmem).2.2.1 rfl
  | some name =>
    rw [hlast] at hmarker
    exact hmarker

theorem head?_of_dropLast {l : List PyStr} {a : PyStr} (h : l.dropLast = [a]) :
    l.head? = some a := by
  cases l with
  | nil => exact absurd h (by simp)
  | cons b l =>
    cases l with
    | nil => exact absurd h (by simp)
    | cons c l => exact congrArg some (List.cons.inj h).1

/-- No file of a layer is the Sysmon config. -/
theorem not_isSysmonConfig_layerPath (h : isRunId inputs.runId = true) {layer : String}
    (hlayer : layer ∈ layers) (relative : PyStr) :
    isSysmonConfig (layerPath layer inputs.runId relative) = false := by
  rw [isSysmonConfig, Bool.and_eq_false_iff]
  refine .inl (decide_eq_false fun hparent => ?_)
  have hhead := head?_of_dropLast hparent
  rw [pathParts_layerPath h, List.append_assoc, List.head?_append] at hhead
  have hlayers : ∀ layer ∈ layers,
      ((pathParts (py layer)).head?.or (some (py "raw"))) ≠ some (py "support") ∧
        (pathParts (py layer)).head?.isSome := by decide
  obtain ⟨hne, hsome⟩ := hlayers layer hlayer
  obtain ⟨part, hpart⟩ := Option.isSome_iff_exists.mp hsome
  rw [hpart] at hne hhead
  exact hne hhead

/-- The destination of the Sysmon config. -/
def sysmonDestination (inputs : PreservationInputs) : PyStr :=
  child (py "support") (baseName inputs.sysmonConfig)

/-- The destinations of the other single files. -/
def fixedDestinations : List PyStr :=
  [py "support/scenario.json", py "support/run-common.ps1", py "support/run.ps1",
    py "verification/execution-log.txt", py "verification/validator-output.txt",
    py "verification/firewall-removal.txt", py "verification/approval-record.txt"]

theorem mem_singleFiles {p : PyStr} : p ∈ (singleFiles inputs).map (·.destination) ↔
    p = sysmonDestination inputs ∨ p ∈ fixedDestinations := by
  simp only [singleFiles, List.map_cons, List.map_nil, List.mem_cons, List.not_mem_nil, or_false,
    fixedDestinations, sysmonDestination]
  exact or_left_comm

/-- The three kinds of a destination. -/
theorem Planned.destination (hp : Planned t inputs plan) {p : PyStr} (h : p ∈ plan.map Prod.fst) :
    (∃ layer ∈ layers, ∃ relative, LayerFile t inputs layer relative ∧
      p = layerPath layer inputs.runId relative) ∨
    p = sysmonDestination inputs ∨ p ∈ fixedDestinations := by
  rcases (hp.destinations p).mp h with hlayer | hsingle
  · exact .inl hlayer
  · exact .inr (mem_singleFiles.mp hsingle)

/-- The one XML file in `support` is the Sysmon config. -/
theorem Planned.sysmonConfig_xml (hp : Planned t inputs plan)
    (hxml : ((plan.map Prod.fst).filter isSysmonConfig).length = 1) :
    isSysmonConfig (sysmonDestination inputs) = true := by
  obtain ⟨p, hone⟩ := List.length_eq_one_iff.mp hxml
  have hmem : p ∈ (plan.map Prod.fst).filter isSysmonConfig := by
    rw [hone]
    exact List.mem_singleton_self p
  obtain ⟨hp', hconfig⟩ := List.mem_filter.mp hmem
  rcases hp.destination hp' with ⟨layer, hlayer, relative, -, rfl⟩ | rfl | hfixed
  · rw [not_isSysmonConfig_layerPath hp.runId hlayer relative] at hconfig
    exact absurd hconfig (by simp)
  · exact hconfig
  · have hnone : ∀ p ∈ fixedDestinations, isSysmonConfig p = false := by decide +kernel
    rw [hnone p hfixed] at hconfig
    exact absurd hconfig (by simp)

theorem Planned.baseName_ne (hp : Planned t inputs plan)
    (hxml : ((plan.map Prod.fst).filter isSysmonConfig).length = 1) {p : PyStr}
    (h : p ∈ plan.map Prod.fst) : baseName p ≠ rehearsalMarker := by
  rcases hp.destination h with ⟨layer, hlayer, relative, hfile, rfl⟩ | rfl | hfixed
  · exact baseName_layerPath hp.runId layer (hp.markers layer hlayer relative hfile)
  · intro hmarker
    have hconfig := hp.sysmonConfig_xml hxml
    rw [isSysmonConfig, hmarker, Bool.and_eq_true] at hconfig
    exact absurd hconfig.2 (by decide)
  · have hnone : ∀ p ∈ fixedDestinations, baseName p ≠ rehearsalMarker := by decide +kernel
    exact hnone p hfixed

theorem slash_mem_child (path name : PyStr) : PyChar.char '/' ∈ child path name :=
  List.mem_append_right path List.mem_cons_self

/-- A destination is in a directory of the run. -/
theorem Planned.slash_mem (hp : Planned t inputs plan) {p : PyStr} (h : p ∈ plan.map Prod.fst) :
    PyChar.char '/' ∈ p := by
  rcases hp.destination h with ⟨layer, -, relative, -, rfl⟩ | rfl | hfixed
  · exact slash_mem_child _ _
  · exact slash_mem_child _ _
  · have hall : ∀ p ∈ fixedDestinations, PyChar.char '/' ∈ p := by decide +kernel
    exact hall p hfixed

theorem Planned.ne_recordFilename (hp : Planned t inputs plan) {p : PyStr}
    (h : p ∈ plan.map Prod.fst) : p ≠ recordFilename := by
  intro heq
  have hslash := hp.slash_mem h
  rw [heq] at hslash
  exact absurd hslash (by decide)

theorem Planned.ne_sha256sumsFilename (hp : Planned t inputs plan) {p : PyStr}
    (h : p ∈ plan.map Prod.fst) : p ≠ sha256sumsFilename := by
  intro heq
  have hslash := hp.slash_mem h
  rw [heq] at hslash
  exact absurd hslash (by decide)

end Plan

/-! ## The staging directory -/

section Staging

variable {lib : StandardLibrary} {fault : Fault} {t : FileTree} {inputs : PreservationInputs}
  {preservedAt : String} {plan : List (PyStr × PyStr)} {held : PyStr × PyStr → List UInt8}

/-- The content of a file. -/
def contentAt (t : FileTree) (path : PyStr) : List UInt8 :=
  ((t.node path).bind Entry.content?).getD []

/-- Every source of a plan is a file. -/
def SourcesAre (t : FileTree) (plan : List (PyStr × PyStr)) : Prop :=
  ∀ e ∈ plan, t.node e.2 = some (.file (contentAt t e.2))

/-- What is read of a planned copy. -/
def readsOf (fault : Fault) (t : FileTree) (e : PyStr × PyStr) : CopyReads :=
  fault.copyReads e.1 (contentAt t e.2)

/-- What the staging directory holds of a planned copy. -/
def heldBy (fault : Fault) (t : FileTree) (e : PyStr × PyStr) : List UInt8 :=
  (readsOf fault t e).copied

/-- The copy has the hash that its source has before it and after it. -/
def CopyReads.Agree (lib : StandardLibrary) (reads : CopyReads) : Prop :=
  sha256Of lib reads.copied = sha256Of lib reads.before ∧
    sha256Of lib reads.after = sha256Of lib reads.before

/-- The copies of a plan, with what is held of each. -/
def copiesOf (held : PyStr × PyStr → List UInt8) (plan : List (PyStr × PyStr)) :
    List (PyStr × Entry) :=
  (sortedBy (fun e => pathOrder e.1) plan).map fun e => (e.1, .file (held e))

/-- The staging directory with the copies and the record. -/
def recordedTree (held : PyStr × PyStr → List UInt8) (plan : List (PyStr × PyStr))
    (record : List UInt8) : FileTree :=
  Tree.put ((copiesOf held plan).foldl (fun staging e => Tree.put staging e.1 e.2) .empty)
    recordFilename (.file record)

/-- A file is copied where its hashes agree. -/
theorem copyVerified_eq_ok {e : PyStr × PyStr} {copy : PyStr × Entry} :
    copyVerified lib fault t e.1 e.2 = .ok copy ↔
      t.node e.2 = some (.file (contentAt t e.2)) ∧ fault.check (.copy e.1) = .ok () ∧
        (readsOf fault t e).Agree lib ∧ copy = (e.1, .file (heldBy fault t e)) := by
  rw [copyVerified, Except.unit_bind_eq_ok, Except.bind_eq_ok]
  constructor
  · rintro ⟨hcheck, content, hsource, h⟩
    have hnode := requireRegularFile_eq_ok.mp hsource
    have hcontent : contentAt t e.2 = content := by
      rw [contentAt, hnode]
      rfl
    subst hcontent
    obtain ⟨hafter, h⟩ := raiseIf_bind_eq_ok.mp h
    obtain ⟨hcopied, h⟩ := raiseIf_bind_eq_ok.mp h
    exact ⟨hnode, hcheck, ⟨not_not.mp hcopied, not_not.mp hafter⟩, (Except.ok.inj h).symm⟩
  · rintro ⟨hnode, hcheck, ⟨hcopied, hafter⟩, rfl⟩
    refine ⟨hcheck, _, requireRegularFile_eq_ok.mpr hnode, ?_⟩
    exact raiseIf_bind_eq_ok.mpr
      ⟨not_not.mpr hafter, raiseIf_bind_eq_ok.mpr ⟨not_not.mpr hcopied, rfl⟩⟩

/-- Nothing raises while a plan is staged, and the hashes of every copy agree. -/
structure Undisturbed (lib : StandardLibrary) (fault : Fault) (t : FileTree)
    (plan : List (PyStr × PyStr)) : Prop where
  copies : ∀ e ∈ plan, fault.check (.copy e.1) = .ok () ∧ (readsOf fault t e).Agree lib
  record : fault.check .record = .ok ()
  hashing : fault.check .hashing = .ok ()
  sums : fault.check .sums = .ok ()

theorem undisturbed_noFault : Undisturbed lib noFault t plan :=
  ⟨fun _ _ => ⟨rfl, rfl, rfl⟩, rfl, rfl, rfl⟩

theorem copies_eq_ok (h : SourcesAre t plan) {copies : List (PyStr × Entry)} :
    ((sortedBy (fun e => pathOrder e.1) plan).mapM fun e => copyVerified lib fault t e.1 e.2) =
      .ok copies ↔
        (∀ e ∈ plan, fault.check (.copy e.1) = .ok () ∧ (readsOf fault t e).Agree lib) ∧
          copies = copiesOf (heldBy fault t) plan := by
  constructor
  · intro hok
    have hview : ∀ (e : PyStr × PyStr) (copy : PyStr × Entry),
        copyVerified lib fault t e.1 e.2 = .ok copy → id copy = (e.1, .file (heldBy fault t e)) :=
      fun e copy he => (copyVerified_eq_ok.mp he).2.2.2
    refine ⟨fun e he => ?_, ?_⟩
    · obtain ⟨copy, -, hcopy⟩ := exists_of_mapM_mem hok (mem_sortedBy.mpr he)
      obtain ⟨-, hcheck, hagree, -⟩ := copyVerified_eq_ok.mp hcopy
      exact ⟨hcheck, hagree⟩
    · rw [copiesOf, ← map_of_mapM hview hok, List.map_id]
  · rintro ⟨hcopies, rfl⟩
    refine mapM_eq_ok_map fun e he => ?_
    have he' : e ∈ plan := mem_sortedBy.mp he
    exact copyVerified_eq_ok.mpr ⟨h e he', (hcopies e he').1, (hcopies e he').2, rfl⟩

theorem mem_copiesOf {p : PyStr} {entry : Entry} : (p, entry) ∈ copiesOf held plan ↔
    ∃ e ∈ plan, e.1 = p ∧ entry = .file (held e) := by
  rw [copiesOf, List.mem_map]
  refine exists_congr fun e => ?_
  rw [mem_sortedBy, Prod.mk.injEq]
  exact and_congr_right fun _ => and_congr_right fun _ => eq_comm

theorem nodup_copiesOf (h : (plan.map Prod.fst).Nodup) :
    ((copiesOf held plan).map Prod.fst).Nodup := by
  have hfst : (copiesOf held plan).map Prod.fst =
      (sortedBy (fun e => pathOrder e.1) plan).map Prod.fst := by
    rw [copiesOf, List.map_map]
    rfl
  rw [hfst]
  exact (((sortedBy_perm _ plan).map Prod.fst).nodup_iff).mpr h

theorem node_recordedTree {record : List UInt8} (h : (plan.map Prod.fst).Nodup) {p : PyStr}
    {entry : Entry} : (recordedTree held plan record).node p = some entry ↔
      p = recordFilename ∧ entry = .file record ∨
        p ≠ recordFilename ∧ ∃ e ∈ plan, e.1 = p ∧ entry = .file (held e) := by
  rw [recordedTree, Tree.node_put]
  split
  · rename_i heq
    simp [heq, eq_comm]
  · rename_i hne
    rw [Tree.node_foldl_put (nodup_copiesOf h), mem_copiesOf, Tree.node_empty]
    constructor
    · rintro (hmem | hnode)
      · exact .inr ⟨hne, hmem⟩
      · exact absurd hnode.1 (by simp)
    · rintro (⟨heq, -⟩ | ⟨-, hmem⟩)
      · exact absurd heq hne
      · exact .inl hmem

/-- What `assemble` does, where it returns. -/
theorem assemble_eq_ok (h : SourcesAre t plan) {staging : FileTree} {n : Nat} :
    assemble lib fault t inputs preservedAt plan = .ok (staging, n) ↔
      Undisturbed lib fault t plan ∧ ∃ record hashes sums,
        recordText lib inputs preservedAt (plan.map Prod.fst) = .ok record ∧
        hashTree lib (recordedTree (heldBy fault t) plan record) = .ok hashes ∧
        (∀ e ∈ copiesOf (heldBy fault t) plan,
          (e.1, sha256Of lib (e.2.content?.getD [])) ∈ hashes) ∧
        encodeUtf8 (renderSha256sums hashes) = .ok sums ∧
        staging = (recordedTree (heldBy fault t) plan record).put sha256sumsFilename (.file sums) ∧
        verifyPreservedRun lib staging (py inputs.runId) = .ok n := by
  rw [assemble]
  constructor
  · intro hok
    obtain ⟨copies, heq, hok⟩ := Except.bind_eq_ok.mp hok
    obtain ⟨hcopied, rfl⟩ := (copies_eq_ok h).mp heq
    obtain ⟨hatRecord, hok⟩ := Except.unit_bind_eq_ok.mp hok
    obtain ⟨record, hrecord, hok⟩ := Except.bind_eq_ok.mp hok
    obtain ⟨hatHashing, hok⟩ := Except.unit_bind_eq_ok.mp hok
    obtain ⟨hashes, hhashes, hok⟩ := Except.bind_eq_ok.mp hok
    obtain ⟨hcopies, hok⟩ := Except.unit_bind_eq_ok.mp hok
    obtain ⟨hatSums, hok⟩ := Except.unit_bind_eq_ok.mp hok
    obtain ⟨sums, hsums, hok⟩ := Except.bind_eq_ok.mp hok
    obtain ⟨fileCount, hverify, hok⟩ := Except.bind_eq_ok.mp hok
    obtain ⟨rfl, rfl⟩ := Prod.mk.inj (Except.ok.inj hok)
    refine ⟨⟨hcopied, hatRecord, hatHashing, hatSums⟩, record, hashes, sums, hrecord, hhashes, ?_,
      hsums, rfl, hverify⟩
    intro e he
    exact not_not.mp (raiseIf_eq_ok.mp (forM_eq_ok.mp hcopies e he))
  · rintro ⟨⟨hcopied, hatRecord, hatHashing, hatSums⟩, record, hashes, sums, hrecord, hhashes,
      hcopies, hsums, rfl, hverify⟩
    refine Except.bind_eq_ok.mpr ⟨_, (copies_eq_ok h).mpr ⟨hcopied, rfl⟩, ?_⟩
    refine Except.unit_bind_eq_ok.mpr ⟨hatRecord, Except.bind_eq_ok.mpr ⟨record, hrecord, ?_⟩⟩
    refine Except.unit_bind_eq_ok.mpr ⟨hatHashing, Except.bind_eq_ok.mpr ⟨hashes, hhashes, ?_⟩⟩
    refine Except.unit_bind_eq_ok.mpr ⟨forM_eq_ok.mpr fun e he => ?_, ?_⟩
    · exact raiseIf_of_not (not_not.mpr (hcopies e he))
    · refine Except.unit_bind_eq_ok.mpr ⟨hatSums, Except.bind_eq_ok.mpr ⟨sums, hsums, ?_⟩⟩
      exact Except.bind_eq_ok.mpr ⟨n, hverify, rfl⟩

end Staging

/-! ## Texts that can be written -/

/-- A text that UTF-8 can write. -/
def IsUnicode (s : PyStr) : Prop := ∀ c ∈ s, ∃ d, c = .char d

/-- A name that is read back from a list of hashes. -/
def Listable (name : PyStr) : Prop := IsUnicode name ∧ ∀ c ∈ name, isLineBreak c = false

theorem isUnicode_iff {s : PyStr} : IsUnicode s ↔ ∃ cs, unicode? s = some cs := by
  simp only [unicode_eq_some]
  constructor
  · intro h
    induction s with
    | nil => exact ⟨[], rfl⟩
    | cons c s ih =>
      obtain ⟨d, rfl⟩ := h c List.mem_cons_self
      obtain ⟨cs, rfl⟩ := ih fun c hc => h c (List.mem_cons_of_mem _ hc)
      exact ⟨d :: cs, rfl⟩
  · rintro ⟨cs, rfl⟩ c hc
    obtain ⟨d, -, rfl⟩ := List.mem_map.mp hc
    exact ⟨d, rfl⟩

theorem isUnicode_py (s : String) : IsUnicode (py s) := isUnicode_iff.mpr ⟨_, unicode_py s⟩

theorem listable_child {path name : PyStr} :
    Listable (child path name) ↔ Listable path ∧ Listable name := by
  have hchar : ∃ d, PyChar.char '/' = .char d := ⟨_, rfl⟩
  have hline : isLineBreak (.char '/') = false := by decide
  simp only [Listable, IsUnicode, child, List.forall_mem_append, List.forall_mem_cons]
  constructor
  · rintro ⟨⟨hpath, -, hname⟩, hlines, -, hlines'⟩
    exact ⟨⟨hpath, hlines⟩, hname, hlines'⟩
  · rintro ⟨⟨hpath, hlines⟩, hname, hlines'⟩
    exact ⟨⟨hpath, hchar, hname⟩, hlines, hline, hlines'⟩

section Writable

variable {lib : StandardLibrary} {fault : Fault} {t : FileTree} {inputs : PreservationInputs}
  {preservedAt : String} {plan : List (PyStr × PyStr)} {held : PyStr × PyStr → List UInt8}

/-- Every text of the inputs can be written and read back. -/
structure Writable (t : FileTree) (inputs : PreservationInputs) : Prop where
  snapshot : IsUnicode inputs.snapshot
  files : ∀ layer ∈ layers, ∀ relative, LayerFile t inputs layer relative → Listable relative
  sysmonConfig : Listable (baseName inputs.sysmonConfig)

theorem listable_layerPath (h : isRunId inputs.runId = true) {layer : String}
    (hlayer : layer ∈ layers) (relative : PyStr) :
    Listable (layerPath layer inputs.runId relative) ↔ Listable relative := by
  have hlayers : ∀ layer ∈ layers, ∀ c ∈ py layer, isLineBreak c = false := by decide
  have hrunId : Listable (py inputs.runId) :=
    ⟨isUnicode_py _, fun c hc => (runId_plain h c hc).2.2.2⟩
  rw [layerPath, listable_child, listable_child]
  exact and_iff_right ⟨⟨isUnicode_py _, hlayers layer hlayer⟩, hrunId⟩

/-- The destinations can be listed where the names of the files can. -/
theorem Planned.listable_iff (hp : Planned t inputs plan) :
    (∀ p ∈ plan.map Prod.fst, Listable p) ↔
      (∀ layer ∈ layers, ∀ relative, LayerFile t inputs layer relative → Listable relative) ∧
        Listable (baseName inputs.sysmonConfig) := by
  have hsupport : Listable (py "support") := ⟨isUnicode_py _, by decide⟩
  constructor
  · intro h
    constructor
    · intro layer hlayer relative hfile
      refine (listable_layerPath hp.runId hlayer relative).mp (h _ ?_)
      exact (hp.destinations _).mpr (.inl ⟨layer, hlayer, relative, hfile, rfl⟩)
    · refine (listable_child.mp (h (sysmonDestination inputs) ?_)).2
      exact (hp.destinations _).mpr (.inr (mem_singleFiles.mpr (.inl rfl)))
  · rintro ⟨hfiles, hsysmon⟩ p hmem
    rcases hp.destination hmem with ⟨layer, hlayer, relative, hfile, rfl⟩ | rfl | hfixed
    · exact (listable_layerPath hp.runId hlayer relative).mpr (hfiles layer hlayer relative hfile)
    · exact listable_child.mpr ⟨hsupport, hsysmon⟩
    · have hlines : ∀ p ∈ fixedDestinations, ∀ c ∈ p, isLineBreak c = false := by decide +kernel
      refine ⟨?_, hlines p hfixed⟩
      simp only [fixedDestinations, List.mem_cons, List.not_mem_nil, or_false] at hfixed
      rcases hfixed with rfl | rfl | rfl | rfl | rfl | rfl | rfl <;> exact isUnicode_py _

theorem encodable_eq_ok {text : PyStr} {s : String} : encodable text = .ok s ↔ text = py s := by
  rw [encodable]
  constructor
  · intro h
    split at h
    · exact absurd h (by simp)
    · rename_i cs hcs
      obtain rfl := Except.ok.inj h
      rw [unicode_eq_some.mp hcs, py, String.toList_ofList]
  · rintro rfl
    rw [unicode_py]
    exact congrArg Except.ok String.ofList_toList

theorem exists_encodable {text : PyStr} (h : IsUnicode text) :
    ∃ s, encodable text = .ok s ∧ py s = text := by
  obtain ⟨cs, hcs⟩ := isUnicode_iff.mp h
  refine ⟨String.ofList cs, ?_, ?_⟩
  · rw [encodable, hcs]
  · rw [unicode_eq_some.mp hcs, py, String.toList_ofList]

/-! ## What a staging directory says of its inputs -/

theorem isUnicode_of_recordText {paths : List PyStr} {record : List UInt8}
    (h : recordText lib inputs preservedAt paths = .ok record) :
    IsUnicode inputs.snapshot ∧ ∀ p ∈ paths, IsUnicode p := by
  obtain ⟨snapshot, hsnapshot, h⟩ := Except.bind_eq_ok.mp h
  obtain ⟨files, hfiles, -⟩ := Except.bind_eq_ok.mp h
  constructor
  · rw [encodable_eq_ok.mp hsnapshot]
    exact isUnicode_py snapshot
  · intro p hp
    obtain ⟨s, -, hs⟩ := exists_of_mapM_mem hfiles (mem_sortedBy.mpr hp)
    rw [encodable_eq_ok.mp hs]
    exact isUnicode_py s

/-- A staging directory that is accepted has every destination in its list. -/
theorem listable_of_assemble (hp : Planned t inputs plan) {t' : FileTree} (h : SourcesAre t' plan)
    {staging : FileTree} {n : Nat}
    (hok : assemble lib fault t' inputs preservedAt plan = .ok (staging, n)) :
    IsUnicode inputs.snapshot ∧ ∀ p ∈ plan.map Prod.fst, Listable p := by
  obtain ⟨-, record, hashes, sums, hrecord, -, -, -, rfl, hverify⟩ := (assemble_eq_ok h).mp hok
  obtain ⟨hsnapshot, hpaths⟩ := isUnicode_of_recordText hrecord
  refine ⟨hsnapshot, fun p hmem => ⟨hpaths p hmem, ?_⟩⟩
  obtain ⟨listed, hv, -⟩ := verifyPreservedRun_eq_ok.mp hverify
  obtain ⟨raw, text, -, -, hrows⟩ := hv.sums
  obtain ⟨e, he, rfl⟩ := List.mem_map.mp hmem
  have hnode : ((recordedTree (heldBy fault t') plan record).put sha256sumsFilename
      (.file sums)).node e.1 = some (.file (heldBy fault t' e)) := by
    rw [Tree.node_put, if_neg (hp.ne_sha256sumsFilename hmem)]
    exact (node_recordedTree hp.nodup).mpr
      (.inr ⟨hp.ne_recordFilename hmem, e, he, rfl, rfl⟩)
  have hlisted : (e.1, sha256Of lib (heldBy fault t' e)) ∈ listed :=
    (hv.exactly _).mpr ⟨hp.ne_sha256sumsFilename hmem, _, hnode, rfl⟩
  have hlines := not_isLineBreak_of_listed hrows hlisted
  exact hlines

/-! ## A staging directory that is accepted -/

theorem exists_recordText (hsnapshot : IsUnicode inputs.snapshot) {paths : List PyStr}
    (hpaths : ∀ p ∈ paths, IsUnicode p) :
    ∃ snapshot files, files.map py = sortedBy codes paths ∧
      recordText lib inputs preservedAt paths =
        .ok (lib.dumps (.obj (recordMembers inputs.runId preservedAt snapshot files))) := by
  obtain ⟨snapshot, hencode, -⟩ := exists_encodable hsnapshot
  have hfiles : ∀ p ∈ sortedBy codes paths, ∃ s, encodable p = .ok s ∧ py s = id p :=
    fun p hp => exists_encodable (hpaths p (mem_sortedBy.mp hp))
  obtain ⟨files, hmapM, hview⟩ := exists_mapM hfiles
  rw [List.map_id] at hview
  refine ⟨snapshot, files, hview, ?_⟩
  rw [recordText, hencode]
  show (List.mapM encodable (sortedBy codes paths) >>= fun files => _) = _
  rw [hmapM]
  rfl

theorem checkEntry_recordedTree (hp : Planned t inputs plan)
    (hxml : ((plan.map Prod.fst).filter isSysmonConfig).length = 1) {record : List UInt8}
    {label : String} {p : PyStr} {entry : Entry}
    (h : (recordedTree held plan record).node p = some entry) :
    checkEntry label p entry = .ok () := by
  rcases (node_recordedTree hp.nodup).mp h with ⟨rfl, rfl⟩ | ⟨-, e, he, rfl, rfl⟩
  · have hname : baseName recordFilename ≠ rehearsalMarker := by decide
    exact raiseIf_of_not hname
  · exact raiseIf_of_not (hp.baseName_ne hxml (List.mem_map_of_mem he))

theorem exists_hashTree (hp : Planned t inputs plan)
    (hxml : ((plan.map Prod.fst).filter isSysmonConfig).length = 1)
    (held : PyStr × PyStr → List UInt8) (record : List UInt8) :
    ∃ hashes, hashTree lib (recordedTree held plan record) = .ok hashes := by
  have hentries : ∀ r ∈ (recordedTree held plan record).rows,
      checkEntry "preserved run" r.1 r.2 = .ok () :=
    fun r hr => checkEntry_recordedTree hp hxml (Tree.node_eq_some.mpr hr)
  exact ⟨_, Except.bind_eq_ok.mpr ⟨_, collectEntries_eq_ok.mpr ⟨hentries, rfl⟩, rfl⟩⟩

/-- The hashed files are the copies and the record. -/
theorem hashes_perm (hp : Planned t inputs plan) {record : List UInt8}
    {hashes : List (PyStr × PyStr)}
    (h : hashTree lib (recordedTree held plan record) = .ok hashes) :
    (hashes.map Prod.fst).Perm (recordFilename :: plan.map Prod.fst) := by
  have hnew : recordFilename ∉ plan.map Prod.fst := fun hmem => hp.ne_recordFilename hmem rfl
  refine (List.perm_ext_iff_of_nodup (nodup_hashTree h) (hp.nodup.cons hnew)).mpr fun p => ?_
  rw [mem_map_hashTree h, List.mem_cons]
  constructor
  · rintro ⟨-, content, hnode⟩
    rcases (node_recordedTree hp.nodup).mp hnode with ⟨rfl, -⟩ | ⟨-, e, he, rfl, -⟩
    · exact .inl rfl
    · exact .inr (List.mem_map_of_mem he)
  · rintro (rfl | hmem)
    · exact ⟨by decide, record, (node_recordedTree hp.nodup).mpr (.inl ⟨rfl, rfl⟩)⟩
    · obtain ⟨e, he, rfl⟩ := List.mem_map.mp hmem
      refine ⟨hp.ne_sha256sumsFilename hmem, held e, ?_⟩
      exact (node_recordedTree hp.nodup).mpr
        (.inr ⟨hp.ne_recordFilename hmem, e, he, rfl, rfl⟩)

theorem copies_hashed (hp : Planned t inputs plan) {record : List UInt8}
    {hashes : List (PyStr × PyStr)}
    (h : hashTree lib (recordedTree held plan record) = .ok hashes) :
    ∀ e ∈ copiesOf held plan, (e.1, sha256Of lib (e.2.content?.getD [])) ∈ hashes := by
  intro e he
  obtain ⟨e', he', hpath, hentry⟩ := mem_copiesOf.mp he
  have hmem : e.1 ∈ plan.map Prod.fst := hpath ▸ List.mem_map_of_mem he'
  refine (mem_hashTree h).mpr ⟨hp.ne_sha256sumsFilename hmem, held e', ?_, ?_⟩
  · exact (node_recordedTree hp.nodup).mpr
      (.inr ⟨hp.ne_recordFilename hmem, e', he', hpath, rfl⟩)
  · rw [hentry]
    rfl

/-- A character of a rendered list of hashes. -/
theorem mem_render {hashes : List (PyStr × PyStr)} {c : PyChar}
    (h : c ∈ renderSha256sums hashes) :
    (∃ e ∈ sha256sumsHeader :: hashes, c ∈ e.1 ∨ c ∈ e.2) ∨
      c = .char '"' ∨ c = .char ',' ∨ c = .char '\n' := by
  obtain ⟨e, he, hc⟩ := List.mem_flatMap.mp h
  have he' : e ∈ sha256sumsHeader :: hashes := by
    rw [List.mem_cons, mem_sortedBy] at he
    exact List.mem_cons.mpr he
  rcases List.mem_append.mp hc with hc | hc
  · rcases mem_writeRow hc with hc | hc | hc
    · exact .inl ⟨e, he', hc⟩
    · exact .inr (.inl hc)
    · exact .inr (.inr (.inl hc))
  · exact .inr (.inr (.inr (List.mem_singleton.mp hc)))

/-- A list of hashes of listable paths is written, and decoded again. -/
theorem exists_encode_render {hashes : List (PyStr × PyStr)}
    (hpaths : ∀ e ∈ hashes, Listable e.1)
    (hdigests : ∀ e ∈ hashes, ∃ content, e.2 = sha256Of lib content) :
    ∃ sums, encodeUtf8 (renderSha256sums hashes) = .ok sums ∧
      decodeSha256sumsBytes sums = .ok (renderSha256sums hashes) := by
  have hheader : ∀ c, c ∈ sha256sumsHeader.1 ∨ c ∈ sha256sumsHeader.2 →
      (∃ d, c = .char d) ∧ isLineBreak c = false := by
    have hlines : ∀ c ∈ sha256sumsHeader.1 ++ sha256sumsHeader.2, isLineBreak c = false := by decide
    intro c hc
    refine ⟨?_, hlines c (List.mem_append.mpr hc)⟩
    rcases hc with hc | hc
    · exact isUnicode_py _ c hc
    · exact isUnicode_py _ c hc
  have hrow : ∀ e ∈ sha256sumsHeader :: hashes, ∀ c, c ∈ e.1 ∨ c ∈ e.2 →
      (∃ d, c = .char d) ∧ isLineBreak c = false := by
    intro e he c hc
    rcases List.mem_cons.mp he with rfl | he
    · exact hheader c hc
    · rcases hc with hc | hc
      · exact ⟨(hpaths e he).1 c hc, (hpaths e he).2 c hc⟩
      · obtain ⟨content, hdigest⟩ := hdigests e he
        rw [hdigest] at hc
        obtain ⟨d, -, heq⟩ := List.mem_map.mp hc
        exact ⟨⟨d, heq.symm⟩, not_isLineBreak_of_hex hc⟩
  have hunicode : IsUnicode (renderSha256sums hashes) := by
    intro c hc
    rcases mem_render hc with ⟨e, he, hc⟩ | rfl | rfl | rfl
    · exact (hrow e he c hc).1
    · exact ⟨_, rfl⟩
    · exact ⟨_, rfl⟩
    · exact ⟨_, rfl⟩
  obtain ⟨cs, hcs⟩ := isUnicode_iff.mp hunicode
  refine ⟨utf8Bytes cs, by rw [encodeUtf8, hcs], ?_⟩
  have htext := unicode_eq_some.mp hcs
  have hbom : ¬ bomUtf8 <+: utf8Bytes cs := by
    have hfirst : (cs.map PyChar.char).head? = some (.char 'p') := by rw [← htext]; rfl
    cases cs with
    | nil => exact absurd hfirst (by simp)
    | cons c cs =>
      obtain rfl := PyChar.char.inj (Option.some.inj hfirst)
      rw [utf8Bytes_eq, List.flatMap_cons]
      have hp : String.utf8EncodeChar 'p' = [112] := by decide
      rw [hp, bomUtf8, List.singleton_append, List.cons_prefix_cons]
      exact fun h => absurd h.1 (by decide)
  have hcr : (13 : UInt8) ∉ utf8Bytes cs := by
    intro hmem
    rw [utf8Bytes_eq] at hmem
    obtain ⟨c, hc, hbyte⟩ := List.mem_flatMap.mp hmem
    obtain rfl := cr_of_mem hbyte
    have hin : PyChar.char '\r' ∈ renderSha256sums hashes := by
      rw [htext]
      exact List.mem_map_of_mem hc
    rcases mem_render hin with ⟨e, he, hc⟩ | heq | heq | heq
    · exact absurd (hrow e he _ hc).2 (by decide)
    · exact absurd heq (by decide)
    · exact absurd heq (by decide)
    · exact absurd heq (by decide)
  rw [decodeSha256sumsBytes, raiseIf_of_not hbom, Except.ok_bind', raiseIf_of_not hcr,
    Except.ok_bind', decode_utf8Bytes, htext]

theorem jsonStrings_map (files : List String) :
    jsonStrings? (.arr (files.map .str)) = some files := by
  show (files.map Json.str).mapM jsonString? = some files
  induction files with
  | nil => rfl
  | cons file files ih =>
    rw [List.map_cons, List.mapM_cons, ih]
    rfl

/-- The record of a run is that of a directory with its files. -/
theorem checkRecord_recordMembers {runId snapshot : String} {files : List String}
    {listedPaths : List PyStr} (hrunId : isRunId runId = true)
    (hfiles : files.map py = sortedBy codes (listedPaths.filter (· ≠ recordFilename)))
    (hrequired : ∀ p ∈ requiredBundleFiles runId, p ∈ listedPaths)
    (hxml : (listedPaths.filter isSysmonConfig).length = 1) :
    checkRecord (recordMembers runId preservedAt snapshot files) listedPaths (py runId) =
      .ok () := by
  have hmissing : (requiredBundleFiles runId).filter (· ∉ listedPaths) = [] := by
    rw [List.filter_eq_nil_iff]
    intro p hp
    rw [decide_eq_true_eq, not_not]
    exact hrequired p hp
  have hid : (member (recordMembers runId preservedAt snapshot files) "run_id").bind jsonString? =
      some runId := rfl
  have hrecorded : (member (recordMembers runId preservedAt snapshot files) "files").bind
      jsonStrings? = some files := jsonStrings_map files
  have hcount : (member (recordMembers runId preservedAt snapshot files) "file_count") =
      some (.nat files.length) := rfl
  have hnat : isJsonNat files.length (.nat files.length) := rfl
  refine Except.unit_bind_eq_ok.mpr ⟨raiseIf_of_not (not_not.mpr rfl), ?_⟩
  rw [hid]
  dsimp only
  refine Except.unit_bind_eq_ok.mpr ⟨raiseIf_of_not (by rw [hrunId]; decide), ?_⟩
  refine Except.unit_bind_eq_ok.mpr ⟨raiseIf_of_not (not_not.mpr rfl), ?_⟩
  rw [hrecorded]
  dsimp only
  refine Except.unit_bind_eq_ok.mpr ⟨raiseIf_of_not (not_not.mpr hfiles), ?_⟩
  refine Except.unit_bind_eq_ok.mpr ⟨raiseIf_of_not (not_not.mpr hmissing), ?_⟩
  refine Except.unit_bind_eq_ok.mpr ⟨raiseIf_of_not (not_not.mpr hxml), ?_⟩
  refine Except.unit_bind_eq_ok.mpr ⟨raiseIf_of_not (not_not.mpr ?_), ?_⟩
  · rfl
  refine Except.unit_bind_eq_ok.mpr ⟨raiseIf_of_not (not_not.mpr ?_), ?_⟩
  · rw [hcount]
    exact decide_eq_true hnat
  refine Except.unit_bind_eq_ok.mpr
    ⟨raiseIf_of_not (not_not.mpr ?_), raiseIf_of_not (not_not.mpr ?_)⟩
  · show (true && true && decide (isJsonNat files.length (.nat files.length))) = true
    exact decide_eq_true hnat
  · rfl

theorem listable_recordFilename : Listable recordFilename := ⟨isUnicode_py _, by decide⟩

/-- The listed files but the record are those of the plan. -/
theorem filter_listed_perm (hp : Planned t inputs plan) {listedPaths : List PyStr}
    (h : listedPaths.Perm (recordFilename :: plan.map Prod.fst)) :
    (listedPaths.filter (· ≠ recordFilename)).Perm (plan.map Prod.fst) := by
  have hself : (plan.map Prod.fst).filter (· ≠ recordFilename) = plan.map Prod.fst := by
    rw [List.filter_eq_self]
    intro p hmem
    exact decide_eq_true (hp.ne_recordFilename hmem)
  have hfilter := h.filter (· ≠ recordFilename)
  rwa [List.filter_cons_of_neg (by simp), hself] at hfilter

/-- A directory with the copies, their record and a list of their hashes is accepted. -/
theorem verified_recordedTree (hp : Planned t inputs plan)
    (hxml : ((plan.map Prod.fst).filter isSysmonConfig).length = 1)
    {snapshot : String} {files : List String} {sums : List UInt8} {hashes : List (PyStr × PyStr)}
    (hfiles : files.map py = sortedBy codes (plan.map Prod.fst))
    {record : List UInt8}
    (hrecord : record =
      lib.dumps (.obj (recordMembers inputs.runId preservedAt snapshot files)))
    (hhashes : hashTree lib (recordedTree held plan record) = .ok hashes)
    (hdecode : decodeSha256sumsBytes sums = .ok (renderSha256sums hashes))
    (hread : readRows (renderSha256sums hashes) = .ok (sortedBy (fun e => codes e.1) hashes)) :
    Verified lib ((recordedTree held plan record).put sha256sumsFilename (.file sums))
      (py inputs.runId) (sortedBy (fun e => codes e.1) hashes) := by
  have hlisted : ((sortedBy (fun e => codes e.1) hashes).map Prod.fst).Perm
      (recordFilename :: plan.map Prod.fst) :=
    ((sortedBy_perm _ hashes).map Prod.fst).trans (hashes_perm hp hhashes)
  have hne : recordFilename ≠ sha256sumsFilename := by decide
  have hnode : ∀ p, p ≠ sha256sumsFilename →
      ((recordedTree held plan record).put sha256sumsFilename (.file sums)).node p =
        (recordedTree held plan record).node p := by
    intro p hp'
    rw [Tree.node_put, if_neg hp']
  have hcheck : checkRecord (recordMembers inputs.runId preservedAt snapshot files)
      ((sortedBy (fun e => codes e.1) hashes).map Prod.fst) (py inputs.runId) = .ok () := by
    refine checkRecord_recordMembers hp.runId ?_ ?_ ?_
    · rw [hfiles]
      exact sortedBy_codes_of_perm (filter_listed_perm hp hlisted).symm
    · intro p hmem
      exact hlisted.mem_iff.mpr (List.mem_cons.mpr (hp.required p hmem))
    · rw [(hlisted.filter _).length_eq]
      exact hxml
  refine ⟨⟨sums, _, ?_, hdecode, hread⟩, ?_, ?_, ?_, ⟨record, _, ?_, ?_, hcheck⟩⟩
  · rw [Tree.node_put, if_pos rfl]
  · exact hlisted.mem_iff.mpr List.mem_cons_self
  · intro e
    rw [mem_sortedBy, mem_hashTree hhashes]
    refine and_congr_right fun he => ?_
    rw [hnode e.1 he]
  · intro r hr
    have hr' := Tree.node_eq_some.mpr hr
    by_cases hsums : r.1 = sha256sumsFilename
    · rw [hsums, Tree.node_put, if_pos rfl] at hr'
      have hname : baseName sha256sumsFilename ≠ rehearsalMarker := by decide
      rw [hsums, ← Option.some.inj hr']
      exact raiseIf_of_not hname
    · rw [hnode r.1 hsums] at hr'
      exact checkEntry_recordedTree hp hxml hr'
  · rw [hnode _ hne]
    exact (node_recordedTree hp.nodup).mpr (.inl ⟨rfl, rfl⟩)
  · rw [readRecord, hrecord, lib.loads_dumps]

/-- A staging directory whose names can be listed is accepted. -/
theorem exists_assemble (hp : Planned t inputs plan)
    (hxml : ((plan.map Prod.fst).filter isSysmonConfig).length = 1) {t' : FileTree}
    (hsources : SourcesAre t' plan) (hsnapshot : IsUnicode inputs.snapshot)
    (hlist : ∀ p ∈ plan.map Prod.fst, Listable p) :
    ∃ staging n, assemble lib noFault t' inputs preservedAt plan = .ok (staging, n) := by
  obtain ⟨snapshot, files, hfiles, hrecord⟩ := @exists_recordText lib inputs preservedAt
    hsnapshot (plan.map Prod.fst) fun p hmem => (hlist p hmem).1
  obtain ⟨hashes, hhashes⟩ := @exists_hashTree lib t inputs plan hp hxml (heldBy noFault t')
    (lib.dumps (.obj (recordMembers inputs.runId preservedAt snapshot files)))
  have hperm := hashes_perm hp hhashes
  have hpaths : ∀ e ∈ hashes, Listable e.1 := by
    intro e he
    rcases List.mem_cons.mp (hperm.mem_iff.mp (List.mem_map_of_mem he)) with heq | hmem
    · rw [heq]
      exact listable_recordFilename
    · exact hlist _ hmem
  have hdigests : ∀ e ∈ hashes, ∃ content, e.2 = sha256Of lib content := by
    intro e he
    obtain ⟨-, content, -, hdigest⟩ := (mem_hashTree hhashes).mp he
    exact ⟨content, hdigest⟩
  obtain ⟨sums, hencode, hdecode⟩ := exists_encode_render hpaths hdigests
  have hread : readRows (renderSha256sums hashes) = .ok (sortedBy (fun e => codes e.1) hashes) := by
    refine readRows_render (nodup_hashTree hhashes) fun e he => ⟨(hpaths e he).2, fun c hc => ?_⟩
    obtain ⟨content, hdigest⟩ := hdigests e he
    rw [hdigest] at hc
    exact not_isLineBreak_of_hex hc
  have hverified := verified_recordedTree hp hxml hfiles rfl hhashes hdecode hread
  have hverify := verifyPreservedRun_eq_ok.mpr ⟨_, hverified, rfl⟩
  exact ⟨_, _, (assemble_eq_ok hsources).mpr
    ⟨undisturbed_noFault, _, hashes, sums, hrecord, hhashes, copies_hashed hp hhashes, hencode, rfl, hverify⟩⟩

end Writable

/-! ## The place of a run -/

section Place

variable {lib : StandardLibrary} {fault : Fault} {t : FileTree} {inputs : PreservationInputs}
  {preservedAt : String} {plan : List (PyStr × PyStr)}

theorem node_makeDirectory {path p : PyStr} : (makeDirectory t path).node p =
    if p = path ∧ t.isThere (.char '/') path = false then some .directory else t.node p := by
  rw [makeDirectory]
  cases hthere : t.isThere (.char '/') path with
  | true => simp
  | false => simp [Tree.node_put]

/-- A directory is made where nothing is. -/
theorem node_of_not_isThere {path : PyStr} (h : t.isThere (.char '/') path = false) :
    t.node path = none := by
  cases hnode : t.node path with
  | none => rfl
  | some entry =>
    have hthere : t.isThere (.char '/') path = true :=
      Tree.isThere_iff.mpr ⟨path, entry, .inl rfl, hnode⟩
    rw [h] at hthere
    exact absurd hthere (by simp)

theorem node_makeDirectory_of_some {path p : PyStr} {entry : Entry} (h : t.node p = some entry) :
    (makeDirectory t path).node p = some entry := by
  rw [node_makeDirectory, if_neg, h]
  rintro ⟨rfl, hthere⟩
  rw [node_of_not_isThere hthere] at h
  exact absurd h (by simp)

/-- The formal root is not at the place of a run, nor below it. -/
theorem formalRoot_ne {p : PyStr} (h : finalDir inputs = p ∨
    (Tree.below (.char '/') (finalDir inputs) p).isSome) : p ≠ inputs.formalRoot := by
  intro heq
  have hlength : (finalDir inputs).length ≤ p.length := by
    rcases h with rfl | h
    · exact le_refl _
    · obtain ⟨rest, hrest⟩ := Option.isSome_iff_exists.mp h
      rw [Tree.below_eq_some.mp hrest, List.length_append]
      omega
  rw [heq, finalDir, child, List.length_append, List.length_cons] at hlength
  omega

/-- Making the formal root leaves the place of the run as it is. -/
theorem node_makeDirectory_place {p : PyStr} (h : finalDir inputs = p ∨
    (Tree.below (.char '/') (finalDir inputs) p).isSome) :
    (makeDirectory t inputs.formalRoot).node p = t.node p := by
  rw [node_makeDirectory, if_neg fun hroot => formalRoot_ne h hroot.1]

theorem isThere_makeDirectory : (makeDirectory t inputs.formalRoot).isThere (.char '/')
    (finalDir inputs) = t.isThere (.char '/') (finalDir inputs) := by
  rw [Bool.eq_iff_iff, Tree.isThere_iff, Tree.isThere_iff]
  refine exists_congr fun p => exists_congr fun entry => and_congr_right fun h => ?_
  rw [node_makeDirectory_place h]

theorem Planned.sourcesAre (hp : Planned t inputs plan) :
    SourcesAre (makeDirectory t inputs.formalRoot) plan := by
  intro e he
  obtain ⟨content, hnode⟩ := hp.sources e he
  have hmade := @node_makeDirectory_of_some t inputs.formalRoot _ _ hnode
  rw [contentAt, hmade]
  rfl

theorem stageRun_eq_ok (h : t.isThere (.char '/') (finalDir inputs) = false)
    {staged : FileTree × Nat} :
    stageRun lib fault t inputs preservedAt plan = .ok staged ↔
      assemble lib fault t inputs preservedAt plan = .ok staged ∧ fault.check .rename = .ok () := by
  have hfree : ¬ t.isThere (.char '/') (finalDir inputs) = true := by rw [h]; decide
  rw [stageRun, Except.bind_eq_ok]
  constructor
  · rintro ⟨staged', hassemble, hrest⟩
    obtain ⟨hrename, hrest⟩ := Except.unit_bind_eq_ok.mp (raiseIf_bind_eq_ok.mp hrest).2
    obtain rfl := Except.ok.inj hrest
    exact ⟨hassemble, hrename⟩
  · rintro ⟨hassemble, hrename⟩
    exact ⟨staged, hassemble, raiseIf_bind_eq_ok.mpr
      ⟨hfree, Except.unit_bind_eq_ok.mpr ⟨hrename, rfl⟩⟩⟩

/-- `preserve_s0_run` returns where nothing raises and the staging directory is accepted. -/
theorem preserveS0Run_eq_ok (hplan : checkInputs lib t inputs = .ok plan)
    {result : PreservationResult} {t' : FileTree} :
    preserveS0Run lib fault t inputs preservedAt = (.ok result, t') ↔
      (∀ site ∈ [Site.formalRoot, .staging, .rename], fault.check site = .ok ()) ∧
      ∃ staging n, assemble lib fault (makeDirectory t inputs.formalRoot) inputs preservedAt
          plan = .ok (staging, n) ∧
        result = ⟨finalDir inputs, n⟩ ∧
        t' = (makeDirectory t inputs.formalRoot).graft (.char '/') (finalDir inputs) staging := by
  have hthere :
      (makeDirectory t inputs.formalRoot).isThere (.char '/') (finalDir inputs) = false := by
    rw [isThere_makeDirectory]
    exact (planned_of_checkInputs hplan).notThere
  simp only [List.forall_mem_cons, List.not_mem_nil, false_implies, implies_true, and_true]
  simp only [preserveS0Run, hplan]
  constructor
  · intro h
    split at h
    · exact absurd (Prod.mk.inj h).1 (by simp)
    · rename_i hroot
      split at h
      · exact absurd (Prod.mk.inj h).1 (by simp)
      · rename_i hstaging
        split at h
        · exact absurd (Prod.mk.inj h).1 (by simp)
        · rename_i staging n hstage
          obtain ⟨hassemble, hrename⟩ := (stageRun_eq_ok hthere).mp hstage
          obtain ⟨hresult, htree⟩ := Prod.mk.inj h
          exact ⟨⟨hroot, hstaging, hrename⟩, staging, n, hassemble, (Except.ok.inj hresult).symm,
            htree.symm⟩
  · rintro ⟨⟨hroot, hstaging, hrename⟩, staging, n, hassemble, rfl, rfl⟩
    rw [hroot]
    dsimp only
    rw [hstaging]
    dsimp only
    rw [(stageRun_eq_ok hthere).mpr ⟨hassemble, hrename⟩]

/-- The inputs are preserved, and the preserved run is accepted. -/
def Preserves (lib : StandardLibrary) (t : FileTree) (inputs : PreservationInputs)
    (preservedAt : String) : Prop :=
  ∃ result t', preserveS0Run lib noFault t inputs preservedAt = (.ok result, t') ∧
    verifyPreservedRun lib (t'.subtree (.char '/') result.runDir) (baseName result.runDir) =
      .ok result.fileCount

theorem writable_of_preserves (hplan : checkInputs lib t inputs = .ok plan)
    (h : Preserves lib t inputs preservedAt) : Writable t inputs := by
  obtain ⟨result, t', hok, -⟩ := h
  obtain ⟨-, staging, n, hassemble, -, -⟩ := (preserveS0Run_eq_ok hplan).mp hok
  have hp := planned_of_checkInputs hplan
  obtain ⟨hsnapshot, hlist⟩ := listable_of_assemble hp hp.sourcesAre hassemble
  obtain ⟨hfiles, hsysmon⟩ := hp.listable_iff.mp hlist
  exact ⟨hsnapshot, hfiles, hsysmon⟩

theorem preserves_of_writable (hplan : checkInputs lib t inputs = .ok plan)
    (hxml : ((plan.map Prod.fst).filter isSysmonConfig).length = 1) (h : Writable t inputs) :
    Preserves lib t inputs preservedAt := by
  have hp := planned_of_checkInputs hplan
  have hlist := hp.listable_iff.mpr ⟨h.files, h.sysmonConfig⟩
  obtain ⟨staging, n, hassemble⟩ := @exists_assemble lib t inputs preservedAt plan hp
    hxml _ hp.sourcesAre h.snapshot hlist
  have hsites : ∀ site ∈ [Site.formalRoot, .staging, .rename], noFault.check site = .ok () :=
    fun _ _ => rfl
  refine ⟨_, _, (preserveS0Run_eq_ok hplan).mpr ⟨hsites, staging, n, hassemble, rfl, rfl⟩, ?_⟩
  rw [Tree.subtree_graft, baseName_finalDir hp.runId]
  obtain ⟨-, -, -, -, -, -, -, -, -, hverify⟩ := (assemble_eq_ok hp.sourcesAre).mp hassemble
  exact hverify

/-! ## Tampering, and runs that are there -/

/-- Every single change of a bundle is found, but of the bytes of the list of hashes. -/
structure DetectsTampering (lib : StandardLibrary) (bundle : FileTree) (directoryRunId : PyStr) :
    Prop where
  changed : ∀ p content content', p ≠ sha256sumsFilename →
    bundle.node p = some (.file content) → content' ≠ content →
      ∃ e, verifyPreservedRun lib (bundle.put p (.file content')) directoryRunId = .error e
  added : ∀ p content, bundle.node p = none →
    ∃ e, verifyPreservedRun lib (bundle.put p (.file content)) directoryRunId = .error e
  removed : ∀ p content, bundle.node p = some (.file content) →
    ∃ e, verifyPreservedRun lib (bundle.remove p) directoryRunId = .error e
  renamed : ∀ p q content, bundle.node p = some (.file content) → q ≠ p →
    ∃ e, verifyPreservedRun lib ((bundle.remove p).put q (.file content)) directoryRunId = .error e

theorem detectsTampering (hinjective : Function.Injective lib.hexdigest) {bundle : FileTree}
    {directoryRunId : PyStr} {n : Nat} (h : verifyPreservedRun lib bundle directoryRunId = .ok n) :
    DetectsTampering lib bundle directoryRunId where
  changed _ _ _ hp hnode hne := tampered_put hinjective h hp hnode hne
  added _ _ hnode := tampered_add h hnode
  removed _ _ hnode := tampered_remove h hnode
  renamed _ _ _ hnode hq := tampered_rename h hnode hq

/-- A path of a directory that `mkdtemp` makes for a run. -/
def InStaging (root : PyStr) (runId : String) (p : PyStr) : Prop :=
  ∃ name, PyChar.char '/' ∉ name ∧
    (p = stagingPrefix root runId ++ name ∨ ∃ rest, p = child (stagingPrefix root runId ++ name) rest)

/-- The name of a staging directory begins with a dot. -/
theorem head_of_inStaging {root path : PyStr} {runId : String}
    (h : InStaging root runId (child root path)) : path.head? = some (.char '.') := by
  obtain ⟨name, -, heq | ⟨rest, heq⟩⟩ := h
  · have hpath : path = .char '.' :: (py runId ++ (py ".staging-" ++ name)) := by
      simpa [child, stagingPrefix, py] using heq
    rw [hpath]
    rfl
  · have hpath : path = .char '.' :: (py runId ++ (py ".staging-" ++ (name ++ .char '/' :: rest))) := by
      simpa [child, stagingPrefix, py] using heq
    rw [hpath]
    rfl

/-- No path of a run is one of a staging directory. -/
theorem not_inStaging {root rest : PyStr} {runId runId' : String} (h : isRunId runId = true) :
    ¬ InStaging root runId' (child root (py runId ++ rest)) := by
  intro hstaging
  have hhead := head_of_inStaging hstaging
  rw [List.head?_append] at hhead
  cases hname : py runId with
  | nil => exact runId_ne_nil h hname
  | cons c name =>
    rw [hname] at hhead
    have hdot : c = .char '.' := Option.some.inj hhead
    exact (runId_plain h c (by rw [hname]; exact List.mem_cons_self)).2.1 hdot

/-- What is at the place of a run, or below it. -/
theorem exists_of_place {p : PyStr} (h : finalDir inputs = p ∨
    (Tree.below (.char '/') (finalDir inputs) p).isSome) :
    ∃ rest, p = child inputs.formalRoot (py inputs.runId ++ rest) := by
  rcases h with rfl | h
  · exact ⟨[], by rw [List.append_nil]; rfl⟩
  · obtain ⟨rest, hrest⟩ := Option.isSome_iff_exists.mp h
    refine ⟨.char '/' :: rest, ?_⟩
    rw [Tree.below_eq_some.mp hrest, finalDir]
    simp [child]

/-- What is at the staging directory of a call, or below it. -/
theorem inStaging_of_stagingDir {t : FileTree} {p : PyStr} (h : stagingDir lib fault t inputs = p ∨
    (Tree.below (.char '/') (stagingDir lib fault t inputs) p).isSome) :
    InStaging inputs.formalRoot inputs.runId p := by
  refine ⟨_, lib.randomName_plain fault.draw t (stagingPrefix inputs.formalRoot inputs.runId), ?_⟩
  rcases h with rfl | h
  · exact .inl rfl
  · obtain ⟨rest, hrest⟩ := Option.isSome_iff_exists.mp h
    exact .inr ⟨rest, Tree.below_eq_some.mp hrest⟩

/-- Where `rmtree` removes the directory, or a path is not in it, the path is as before. -/
theorem node_rmtree {staging p : PyStr} (h : fault.leaves = none ∨ ¬ (staging = p ∨
    (Tree.below (.char '/') staging p).isSome)) : (rmtree fault t staging).node p = t.node p := by
  rw [rmtree]
  cases hleaves : fault.leaves with
  | none => rfl
  | some left =>
    rw [hleaves] at h
    obtain ⟨hne, hbelow⟩ := not_or.mp (h.resolve_left (Option.some_ne_none left))
    have hnone := Option.not_isSome_iff_eq_none.mp hbelow
    dsimp only
    rw [Tree.node_graft_of_below_none hnone, Tree.node_put, if_neg (Ne.symm hne)]

/-- No run directory has appeared, what was there has stayed, and nothing else has changed but
the formal root itself and, where `rmtree` leaves it, the staging directory of the call. -/
structure KeepsRuns (fault : Fault) (t t' : FileTree) (inputs : PreservationInputs) : Prop where
  place : t'.isThere (.char '/') (finalDir inputs) = t.isThere (.char '/') (finalDir inputs)
  kept : ∀ p entry, t.node p = some entry → t'.node p = some entry
  outside : ∀ p, p ≠ inputs.formalRoot →
    fault.leaves = none ∨ ¬ InStaging inputs.formalRoot inputs.runId p → t'.node p = t.node p

theorem KeepsRuns.refl : KeepsRuns fault t t inputs := ⟨rfl, fun _ _ h => h, fun _ _ _ => rfl⟩

theorem keepsRuns_makeDirectory :
    KeepsRuns fault t (makeDirectory t inputs.formalRoot) inputs where
  place := isThere_makeDirectory
  kept _ _ h := node_makeDirectory_of_some h
  outside p hp _ := by rw [node_makeDirectory, if_neg fun hroot => hp hroot.1]

/-- What a call whose staging directory is removed, as far as it is, leaves. -/
theorem keepsRuns_rmtree (hrunId : isRunId inputs.runId = true) :
    KeepsRuns fault t (rmtree fault (makeDirectory t inputs.formalRoot)
      (stagingDir lib fault (makeDirectory t inputs.formalRoot) inputs)) inputs := by
  have hmade := @keepsRuns_makeDirectory fault t inputs
  have houtside : ∀ p, ¬ InStaging inputs.formalRoot inputs.runId p →
      (rmtree fault (makeDirectory t inputs.formalRoot)
        (stagingDir lib fault (makeDirectory t inputs.formalRoot) inputs)).node p =
      (makeDirectory t inputs.formalRoot).node p :=
    fun p hp => node_rmtree (.inr fun h => hp (inStaging_of_stagingDir h))
  refine ⟨?_, fun p entry h => ?_, fun p hp h => ?_⟩
  · rw [← hmade.place, Bool.eq_iff_iff, Tree.isThere_iff, Tree.isThere_iff]
    refine exists_congr fun p => exists_congr fun entry => and_congr_right fun h => ?_
    obtain ⟨rest, rfl⟩ := exists_of_place h
    rw [houtside _ (not_inStaging hrunId)]
  · have hentry := hmade.kept p entry h
    rw [node_rmtree (.inr fun hstaging => ?_), hentry]
    -- Nothing was at the name that `mkdtemp` took.
    have hnew := lib.randomName_new fault.draw (makeDirectory t inputs.formalRoot)
      (stagingPrefix inputs.formalRoot inputs.runId)
    exact absurd (Tree.isThere_iff.mpr ⟨p, entry, hstaging, hentry⟩) (ne_true_of_eq_false hnew)
  · rw [← hmade.outside p hp h]
    exact node_rmtree (h.imp_right fun hnot h => hnot (inStaging_of_stagingDir h))

theorem keepsRuns_of_error {e : PreservationError} {t' : FileTree}
    (h : preserveS0Run lib fault t inputs preservedAt = (.error e, t')) :
    KeepsRuns fault t t' inputs := by
  rw [preserveS0Run] at h
  split at h
  · rw [← (Prod.mk.inj h).2]
    exact .refl
  · rename_i plan hplan
    split at h
    · rw [← (Prod.mk.inj h).2]
      exact .refl
    · dsimp only at h
      split at h
      · rw [← (Prod.mk.inj h).2]
        exact keepsRuns_makeDirectory
      · split at h
        · rw [← (Prod.mk.inj h).2]
          exact keepsRuns_rmtree (planned_of_checkInputs hplan).runId
        · exact absurd (Prod.mk.inj h).1 (by simp)

/-- A run is preserved, and accepted, if and only if every text of its inputs can be written
and read back; every single change of an accepted bundle is found, and a raise keeps the runs. -/
theorem preservedRuns_verify_iff (hinjective : Function.Injective lib.hexdigest)
    (hplan : checkInputs lib t inputs = .ok plan)
    (hxml : ((plan.map Prod.fst).filter isSysmonConfig).length = 1) :
    (Preserves lib t inputs preservedAt ↔ Writable t inputs) ∧
      (∀ bundle directoryRunId n, verifyPreservedRun lib bundle directoryRunId = .ok n →
        DetectsTampering lib bundle directoryRunId) ∧
      ∀ fault (t : FileTree) inputs preservedAt e t',
        preserveS0Run lib fault t inputs preservedAt = (.error e, t') →
          KeepsRuns fault t t' inputs :=
  ⟨⟨writable_of_preserves hplan, preserves_of_writable hplan hxml⟩,
    fun _ _ _ h => detectsTampering hinjective h,
    fun _ _ _ _ _ _ h => keepsRuns_of_error h⟩

end Place

/-! ## A run with one more file -/

namespace Sample

/-- The two digits of a byte. -/
def hexPair (b : UInt8) : List Char := [(b.toNat / 16).digitChar, (b.toNat % 16).digitChar]

/-- A hash that is the data itself. -/
def hexdigest (bytes : List UInt8) : List Char := bytes.flatMap hexPair

theorem hexdigest_hex (bytes : List UInt8) :
    ∀ c ∈ hexdigest bytes, c ∈ "0123456789abcdef".toList := by
  have hdigit : ∀ n < 16, n.digitChar ∈ "0123456789abcdef".toList := by decide
  intro c hc
  obtain ⟨b, -, hb⟩ := List.mem_flatMap.mp hc
  have hlt := b.toNat_lt
  simp only [hexPair, List.mem_cons, List.not_mem_nil, or_false] at hb
  rcases hb with rfl | rfl
  · exact hdigit _ (by omega)
  · exact hdigit _ (by omega)

theorem hexPair_injective : Function.Injective hexPair := by
  have hdigit : ∀ m < 16, ∀ n < 16, m.digitChar = n.digitChar → m = n := by decide
  intro a b h
  have ha := a.toNat_lt
  have hb := b.toNat_lt
  obtain ⟨hhigh, hrest⟩ := List.cons.inj h
  obtain ⟨hlow, -⟩ := List.cons.inj hrest
  have hhigh' := hdigit _ (by omega) _ (by omega) hhigh
  have hlow' := hdigit _ (by omega) _ (by omega) hlow
  exact UInt8.toNat_inj.mp (by omega)

theorem hexdigest_injective : Function.Injective hexdigest := by
  intro as
  induction as with
  | nil =>
    intro bs h
    cases bs with
    | nil => rfl
    | cons b bs => exact absurd h (by simp [hexdigest, hexPair])
  | cons a as ih =>
    intro bs h
    cases bs with
    | nil => exact absurd h (by simp [hexdigest, hexPair])
    | cons b bs =>
      rw [hexdigest, hexdigest, List.flatMap_cons, List.flatMap_cons] at h
      obtain ⟨hpair, hrest⟩ := List.append_inj h rfl
      rw [hexPair_injective hpair, ih hrest]

/-- The content of the manifest and of the metadata. -/
def identity : Json := .obj [("run_id", .str "RUN-20260101-001")]

open Classical in
/-- The value that is written as `bytes`. -/
noncomputable def loads (bytes : List UInt8) : Option Json :=
  if bytes = dumps identity then some identity
  else if h : ∃ value, dumps value = bytes then some h.choose else none

theorem loads_dumps (value : Json) : loads (dumps value) = some value := by
  rw [loads]
  split
  · rename_i heq
    rw [dumps_injective heq]
  · have hexists : ∃ value', dumps value' = dumps value := ⟨value, rfl⟩
    rw [dif_pos hexists]
    exact congrArg some (dumps_injective hexists.choose_spec)

/-- A name longer than every path that is there. -/
def randomName (t : FileTree) : PyStr :=
  List.replicate ((t.rows.map Prod.fst).flatten.length + 1) (.char 'a')

theorem slash_not_mem_randomName (t : FileTree) : PyChar.char '/' ∉ randomName t := by
  intro h
  have heq := List.eq_of_mem_replicate h
  exact absurd heq (by decide)

theorem isThere_randomName (t : FileTree) (path : PyStr) :
    t.isThere (.char '/') (path ++ randomName t) = false := by
  rw [Bool.eq_false_iff]
  intro hthere
  obtain ⟨q, entry, hq, hnode⟩ := Tree.isThere_iff.mp hthere
  have hlong : (randomName t).length ≤ q.length := by
    rcases hq with rfl | hq
    · rw [List.length_append]
      omega
    · obtain ⟨rest, hrest⟩ := Option.isSome_iff_exists.mp hq
      rw [Tree.below_eq_some.mp hrest, List.length_append, List.length_append]
      omega
  have hmem : q ∈ t.rows.map Prod.fst := List.mem_map_of_mem (Tree.node_eq_some.mp hnode)
  have hshort := (List.sublist_flatten_of_mem hmem).length_le
  rw [randomName, List.length_replicate] at hlong
  omega

noncomputable def library : StandardLibrary where
  hexdigest := hexdigest
  hexdigest_hex := hexdigest_hex
  loads := loads
  dumps := dumps
  loads_dumps := loads_dumps
  randomName _ t _ := randomName t
  randomName_plain _ t _ := slash_not_mem_randomName t
  randomName_new _ t path := isThere_randomName t path

def inputs : PreservationInputs where
  runId := "RUN-20260101-001"
  artifactRoot := py "/a"
  formalRoot := py "/f"
  snapshot := py "clean"
  scenarioJson := py "/i/scenario.json"
  sysmonConfig := py "/i/sysmon.xml"
  runCommon := py "/i/common"
  runScript := py "/i/run"
  executionLog := py "/i/log"
  validatorOutput := py "/i/validator"
  firewallRemoval := py "/i/firewall"
  approvalRecord := py "/i/approval"

/-- The absolute path with these parts. -/
def path (parts : List String) : PyStr := parts.flatMap fun part => .char '/' :: py part

theorem isUnicode_path (parts : List String) : IsUnicode (path parts) := by
  intro c hc
  obtain ⟨part, -, hpart⟩ := List.mem_flatMap.mp hc
  rcases List.mem_cons.mp hpart with rfl | hpart
  · exact ⟨_, rfl⟩
  · exact isUnicode_py part c hpart

/-- The files that are there, one of them in the raw layer with the name `name`. -/
def files (name : String) : List (List String × Entry) :=
  let raw := ["a", "raw", "RUN-20260101-001"]
  let groundTruth := ["a", "ground_truth", "RUN-20260101-001"]
  [(raw ++ ["manifest.json"], .file (dumps identity)),
    (raw ++ ["telemetry", "sysmon-0001.evtx"], .file []),
    (raw ++ ["telemetry", "sysmon-0001.jsonl"], .file []),
    (raw ++ [name], .file []),
    (groundTruth ++ ["execution_record.csv"], .file []),
    (groundTruth ++ ["run_metadata.json"], .file (dumps identity)),
    (["i", "scenario.json"], .file []),
    (["i", "sysmon.xml"], .file []),
    (["i", "common"], .file []),
    (["i", "run"], .file []),
    (["i", "log"], .file [48]),
    (["i", "validator"], .file [48]),
    (["i", "firewall"], .file [48]),
    (["i", "approval"], .file [48])]

def entries (name : String) : List (PyStr × Entry) := (files name).map fun e => (path e.1, e.2)

def tree (name : String) : FileTree :=
  (entries name).foldl (fun t e => Tree.put t e.1 e.2) .empty

/-- The inputs are accepted, with one XML file destined for `support`. -/
noncomputable def acceptedInputs (t : FileTree) : Bool :=
  (checkInputs library t inputs).toOption.any fun plan =>
    ((plan.map Prod.fst).filter isSysmonConfig).length = 1

theorem exists_plan {t : FileTree} (h : acceptedInputs t = true) :
    ∃ plan, checkInputs library t inputs = .ok plan ∧
      ((plan.map Prod.fst).filter isSysmonConfig).length = 1 := by
  rw [acceptedInputs] at h
  cases hplan : checkInputs library t inputs with
  | error e =>
    rw [hplan] at h
    exact absurd h (by simp [Except.toOption])
  | ok plan =>
    rw [hplan] at h
    exact ⟨plan, rfl, of_decide_eq_true h⟩

/-- The inputs are accepted, also with a line separator in the name of a file. -/
theorem acceptedInputs_tree : acceptedInputs (tree "notes.txt") = true ∧
    acceptedInputs (tree "notes\u2028.txt") = true := by
  decide +kernel

theorem listable_notes : ∀ e ∈ entries "notes.txt", Listable e.1 := by
  have hlines : ∀ e ∈ entries "notes.txt", ∀ c ∈ e.1, isLineBreak c = false := by decide +kernel
  intro e he
  refine ⟨?_, hlines e he⟩
  obtain ⟨f, -, rfl⟩ := List.mem_map.mp he
  exact isUnicode_path f.1

theorem writable_notes : Writable (tree "notes.txt") inputs := by
  refine ⟨isUnicode_py _, ?_, isUnicode_py "sysmon.xml", by decide⟩
  intro layer hlayer relative hfile
  obtain ⟨content, hnode⟩ := hfile
  rw [Tree.node_subtree] at hnode
  rcases Tree.mem_of_node_foldl_put hnode with hmem | hmem
  · have hlistable := listable_notes _ hmem
    exact (listable_child.mp hlistable).2
  · rw [Tree.node_empty] at hmem
    exact absurd hmem (by simp)

theorem layerFile_separator :
    LayerFile (tree "notes\u2028.txt") inputs "raw" (py "notes\u2028.txt") := by
  refine ⟨[], ?_⟩
  rw [Tree.node_subtree]
  decide +kernel

end Sample

/-- A run with an ordinary name more is preserved, its tampering is found, and a raise keeps
the runs. -/
theorem preservedRuns_verify_iff_notes :
    Preserves Sample.library (Sample.tree "notes.txt") Sample.inputs "2026-01-01T00:00:00.000Z" ∧
      (∀ bundle directoryRunId n,
        verifyPreservedRun Sample.library bundle directoryRunId = .ok n →
          DetectsTampering Sample.library bundle directoryRunId) ∧
      ∀ fault t inputs preservedAt e t',
        preserveS0Run Sample.library fault t inputs preservedAt = (.error e, t') →
          KeepsRuns fault t t' inputs := by
  obtain ⟨plan, hplan, hxml⟩ := Sample.exists_plan Sample.acceptedInputs_tree.1
  obtain ⟨hpreserves, hrest⟩ :=
    @preservedRuns_verify_iff Sample.library (Sample.tree "notes.txt") Sample.inputs
      "2026-01-01T00:00:00.000Z" plan Sample.hexdigest_injective hplan hxml
  exact ⟨hpreserves.mpr Sample.writable_notes, hrest⟩

/-- A run with a line separator in the name of a file passes the input checks and is not
preserved. -/
theorem preserves_fails_separator :
    (∃ plan, checkInputs Sample.library (Sample.tree "notes\u2028.txt") Sample.inputs = .ok plan ∧
      ((plan.map Prod.fst).filter isSysmonConfig).length = 1) ∧
    ¬ Preserves Sample.library (Sample.tree "notes\u2028.txt") Sample.inputs
      "2026-01-01T00:00:00.000Z" := by
  refine ⟨Sample.exists_plan Sample.acceptedInputs_tree.2, fun h => ?_⟩
  obtain ⟨plan, hplan, -⟩ := Sample.exists_plan Sample.acceptedInputs_tree.2
  have hlistable := (writable_of_preserves hplan h).files "raw" (by decide) _
    Sample.layerFile_separator
  have hbreak := hlistable.2 (.char '\u2028') (by decide)
  exact absurd hbreak (by decide)

end IncidentAwareness.Preservation
