import IncidentAwareness.Collection.S0Artifacts

/-!
# A validated S0 run, and the pipeline that loads it

The validator and the loader check one manifest by rules of their own. What a
report without failures says of the manifest is `Described`: its items are one
EVTX and one JSONL, each resolved to its file. From it follows what the loader
does (`load_iff_spelledAlike`): it refuses exactly the runs in which the JSONL's
raw log id is padded, or in which `derived_from` spells the path of the EVTX
differently from the EVTX's own item.

* `checkItem_clean`, `described_of_clean`: one item, and all of them;
* `sortItems_of_described`: what the loader's own loop makes of them;
* `validated_of_ok`: what the whole report says.
-/

namespace IncidentAwareness.Collection

open IncidentAwareness.Common IncidentAwareness.Lib IncidentAwareness.Persistence

section

variable {B : Type} {h : Host B} {root : ArtifactRoot B} {runId : String}

/-! ## What a clean report says of the manifest -/

/-- An item that the validator resolved to an artifact name, with every check passed. -/
structure ItemOk (h : Host B) (root : ArtifactRoot B) (runId name : String) (item : PyDict) :
    Prop where
  fromSysmon : fromSysmon item = true
  rawLogId : ∃ rawLogId, item.get "raw_log_id" = .str rawLogId ∧ isBlank rawLogId = false
  path : manifestArtifactName (item.get "path") runId = .ok name
  sha256 : ∃ recorded raw, sha256Hex? (item.get "sha256") = some recorded ∧
    root.telemetry name = .content raw ∧ h.sha256 raw = lower recorded

theorem checkItemSha256_resolved {s : ItemsState} {index : Nat} {item : PyDict} {name : String} :
    (checkItemSha256 h root s index item name).1.resolved = s.resolved := by
  unfold checkItemSha256
  split
  · rfl
  · split
    · rfl
    · rfl
    · split
      · rfl
      · rfl

theorem checkItemSha256_clean {s : ItemsState} {index : Nat} {item : PyDict} {name : String}
    (hclean : Clean (checkItemSha256 h root s index item name).2) :
    ∃ recorded raw, sha256Hex? (item.get "sha256") = some recorded ∧
      root.telemetry name = .content raw ∧ h.sha256 raw = lower recorded := by
  unfold checkItemSha256 at hclean
  split at hclean
  · exact absurd hclean not_clean_fail
  next recorded hrecorded =>
    split at hclean
    · exact absurd hclean not_clean_fail
    · exact absurd hclean not_clean_fail
    next raw hraw =>
      split at hclean
      · exact absurd hclean not_clean_fail
      next hsha => exact ⟨recorded, raw, hrecorded, hraw, not_not.mp hsha⟩

theorem resolveItem_clean {s : ItemsState} {index : Nat} {item : PyDict}
    (hclean : Clean (resolveItem h root runId s index item).2) :
    ∃ name, name ∉ s.resolved.map Prod.fst ∧
      manifestArtifactName (item.get "path") runId = .ok name ∧
      (∃ recorded raw, sha256Hex? (item.get "sha256") = some recorded ∧
        root.telemetry name = .content raw ∧ h.sha256 raw = lower recorded) ∧
      (resolveItem h root runId s index item).1.resolved = s.resolved ++ [(name, item)] := by
  unfold resolveItem at hclean ⊢
  split at hclean
  · exact absurd hclean not_clean_fail
  next name hname =>
    split at hclean
    · exact absurd hclean not_clean_fail
    next hnew =>
      refine ⟨name, hnew, hname, checkItemSha256_clean hclean, ?_⟩
      simp only [if_neg hnew, checkItemSha256_resolved]

/-- A turn that reported no failure resolved its item, to a name that was free. -/
theorem checkItem_clean {s : ItemsState} {index : Nat} {value : PyValue}
    (hclean : Clean (checkItem h root runId s index value).2) :
    ∃ name item, value = .dict item ∧ name ∉ s.resolved.map Prod.fst ∧
      ItemOk h root runId name item ∧
      (checkItem h root runId s index value).1.resolved = s.resolved ++ [(name, item)] := by
  unfold checkItem at hclean ⊢
  split at hclean
  next item hitem =>
    obtain rfl := PyValue.dict?_eq_some.mp hitem
    dsimp only at hclean ⊢
    split at hclean
    · exact absurd hclean not_clean_fail
    next hmissing =>
    split at hclean
    · exact absurd hclean not_clean_fail
    next hlayer =>
    split at hclean
    · exact absurd hclean not_clean_fail
    next hsource =>
    split at hclean
    · exact absurd hclean not_clean_fail
    next rawLogId hraw =>
    split at hclean
    · exact absurd hclean not_clean_fail
    next hblank =>
    split at hclean
    · exact absurd hclean not_clean_fail
    next hseen =>
    rw [if_neg hmissing, if_neg hlayer, if_neg hsource]
    simp only [if_neg hblank, if_neg hseen]
    obtain ⟨name, hnew, hname, hsha, hresolved⟩ := resolveItem_clean hclean
    refine ⟨name, item, rfl, hnew, ⟨?_, ⟨rawLogId, PyValue.str?_eq_some.mp hraw, ?_⟩, hname, hsha⟩,
      hresolved⟩
    · rw [fromSysmon, not_not.mp hlayer, not_not.mp hsource]
      decide
    · simpa using hblank
  · exact absurd hclean not_clean_fail

/-- The items the loop has resolved, after a prefix `done` of clean turns. -/
structure Resolved (h : Host B) (root : ArtifactRoot B) (runId : String) (done : List PyValue)
    (s : ItemsState) : Prop where
  items : done = s.resolved.map fun r => .dict r.2
  ok : ∀ r ∈ s.resolved, ItemOk h root runId r.1 r.2
  nodup : (s.resolved.map Prod.fst).Nodup

theorem resolved_of_clean {items : List PyValue} (hclean : Clean (scanItems h root runId items).2) :
    Resolved h root runId items (scanItems h root runId items).1 := by
  have hinit : Resolved h root runId [] {} := ⟨rfl, by simp, List.nodup_nil⟩
  refine scan_induction (Resolved h root runId) hinit ?_ hclean
  intro done s i value hinv hstep
  obtain ⟨name, item, rfl, hnew, hitem, hresolved⟩ := checkItem_clean hstep
  refine ⟨?_, ?_, ?_⟩
  · rw [hresolved, List.map_append, ← hinv.items]
    rfl
  · rw [hresolved]
    intro r hr
    rcases List.mem_append.mp hr with hr | hr
    · exact hinv.ok r hr
    · rw [List.mem_singleton.mp hr]
      exact hitem
  · rw [hresolved, List.map_append]
    refine List.nodup_append.mpr ⟨hinv.nodup, by simp, ?_⟩
    intro a ha b hb hab
    rw [List.map_singleton, List.mem_singleton] at hb
    rw [hab, hb] at ha
    exact hnew ha

/-- Two names of artifacts, each once, are those of the EVTX and the JSONL. -/
theorem eq_pair_of_names {resolved : List (String × PyDict)} (hlength : resolved.length = 2)
    (hevtx : evtxFilename ∈ resolved.map Prod.fst) (hjsonl : jsonlFilename ∈ resolved.map Prod.fst) :
    ∃ evtx jsonl, resolved = [(evtxFilename, evtx), (jsonlFilename, jsonl)] ∨
      resolved = [(jsonlFilename, jsonl), (evtxFilename, evtx)] := by
  obtain ⟨⟨a, x⟩, ⟨b, y⟩, rfl⟩ := List.length_eq_two.mp hlength
  have hne : evtxFilename ≠ jsonlFilename := by decide
  simp only [List.map_cons, List.map_nil, List.mem_cons, List.not_mem_nil, or_false] at hevtx hjsonl
  rcases hevtx with rfl | rfl
  · rcases hjsonl with hj | rfl
    · exact absurd hj.symm hne
    · exact ⟨x, y, .inl rfl⟩
  · rcases hjsonl with rfl | hj
    · exact ⟨y, x, .inr rfl⟩
    · exact absurd hj.symm hne

/-- What a clean report says of the manifest: its items are the EVTX and the
JSONL, in either order, and the JSONL is derived from a path that names the EVTX. -/
structure Described (h : Host B) (root : ArtifactRoot B) (runId : String) (items : List PyValue)
    (evtx jsonl : PyDict) : Prop where
  order : items = [.dict evtx, .dict jsonl] ∨ items = [.dict jsonl, .dict evtx]
  evtx_ok : ItemOk h root runId evtxFilename evtx
  jsonl_ok : ItemOk h root runId jsonlFilename jsonl
  derived : manifestArtifactName (jsonl.get "derived_from") runId = .ok evtxFilename
  matched_evtx : (scanItems h root runId items).1.resolved.lookup evtxFilename = some evtx
  matched_jsonl : (scanItems h root runId items).1.resolved.lookup jsonlFilename = some jsonl

/-- A clean derivation check: the JSONL's parent has the name of the EVTX. -/
theorem derived_of_clean {resolved : List (String × PyDict)} {jsonl : PyDict}
    (hclean : Clean (checkManifestDerivation resolved runId))
    (hjsonl : resolved.lookup jsonlFilename = some jsonl) :
    manifestArtifactName (jsonl.get "derived_from") runId = .ok evtxFilename := by
  rw [checkManifestDerivation, clean_append] at hclean
  have hparent := hclean.2
  simp only [hjsonl] at hparent
  split at hparent
  · exact absurd hparent not_clean_fail
  next derivedFrom hderived =>
    split at hparent
    · exact absurd hparent not_clean_fail
    next parent hname =>
      split at hparent
      · exact absurd hparent not_clean_fail
      next hevtx =>
        rw [PyDict.get, hderived, Option.getD_some, hname, not_not.mp hevtx]

/-- What clean items are. -/
theorem described_of_clean {value : PyValue}
    (hclean : Clean (checkManifestItems h root runId value)) :
    ∃ items evtx jsonl, value = .list items ∧ Described h root runId items evtx jsonl := by
  unfold checkManifestItems at hclean
  split at hclean
  next item rest =>
    simp only [clean_append, clean_ite_fail, not_not] at hclean
    obtain ⟨⟨⟨⟨hscan, habsent, -⟩, hcount, -⟩, hderivation⟩, -⟩ := hclean
    have hresolved := resolved_of_clean hscan
    have hlength : (scanItems h root runId (item :: rest)).1.resolved.length = 2 := by
      have hitems := congrArg List.length hresolved.items
      rw [hcount, List.length_map] at hitems
      exact hitems.symm
    have hnames : ∀ name ∈ allowedTelemetryFilenames,
        name ∈ (scanItems h root runId (item :: rest)).1.resolved.map Prod.fst := by
      intro name hname
      simpa using List.filter_eq_nil_iff.mp habsent name hname
    obtain ⟨evtx, jsonl, hpair⟩ :=
      eq_pair_of_names hlength (hnames evtxFilename (by decide)) (hnames jsonlFilename (by decide))
    have hne : (jsonlFilename == evtxFilename) = false := by decide
    have hne' : (evtxFilename == jsonlFilename) = false := by decide
    have hevtx : (scanItems h root runId (item :: rest)).1.resolved.lookup evtxFilename =
        some evtx := by
      rcases hpair with hpair | hpair
      · simp [hpair]
      · simp [hpair, List.lookup_cons, hne']
    have hjsonl : (scanItems h root runId (item :: rest)).1.resolved.lookup jsonlFilename =
        some jsonl := by
      rcases hpair with hpair | hpair
      · simp [hpair, List.lookup_cons, hne]
      · simp [hpair]
    have hitems := hresolved.items
    have hok := hresolved.ok
    refine ⟨item :: rest, evtx, jsonl, rfl, ?_, ?_, ?_, derived_of_clean hderivation hjsonl,
      hevtx, hjsonl⟩
    · rcases hpair with hpair | hpair
      · rw [hitems, hpair]
        exact .inl rfl
      · rw [hitems, hpair]
        exact .inr rfl
    · exact hok (evtxFilename, evtx) (by rcases hpair with hpair | hpair <;> simp [hpair])
    · exact hok (jsonlFilename, jsonl) (by rcases hpair with hpair | hpair <;> simp [hpair])
  · exact absurd hclean not_clean_fail

/-! ## What the loader makes of it -/

/-- The files of an artifact set, as the pipeline is given them. -/
def ArtifactRoot.pipelineInputs (root : ArtifactRoot B) : PipelineInputs B where
  runMetadata := root.runMetadata
  manifest := root.manifest
  sysmonJsonlName := jsonlFilename
  sysmonJsonl := root.jsonl

/-- Only a string has an artifact name. -/
theorem exists_str_of_artifactName {v : PyValue} {name : String}
    (hname : manifestArtifactName v runId = .ok name) : ∃ path, v = .str path := by
  unfold manifestArtifactName at hname
  split at hname
  next path => exact ⟨path, rfl⟩
  · cases hname

/-- The loader finds one JSONL item and one EVTX item. -/
theorem sortItems_of_described {items : List PyValue} {evtx jsonl : PyDict}
    (hd : Described h root runId items evtx jsonl) :
    sortItems runId 0 items = .ok ([jsonl], [evtx]) := by
  have hevtx := hd.evtx_ok.path
  have hjsonl := hd.jsonl_ok.path
  have hne : ¬ evtxFilename = jsonlFilename := by decide
  rcases hd.order with rfl | rfl
  · simp [sortItems, PyValue.dict?, hevtx, hjsonl, Except.mapError, hne, bind, Except.bind, pure,
      Except.pure]
  · simp [sortItems, PyValue.dict?, hevtx, hjsonl, Except.mapError, hne, bind, Except.bind, pure,
      Except.pure]

/-- The loader's parent rule: `derived_from` is the path of the EVTX item, as it is written. -/
theorem checkParent_eq_ok {items : List PyValue} {evtx jsonl : PyDict}
    (hd : Described h root runId items evtx jsonl) :
    checkParent runId jsonl [evtx] = .ok () ↔ jsonl.get "derived_from" = evtx.get "path" := by
  obtain ⟨derived, hderived⟩ := exists_str_of_artifactName hd.derived
  obtain ⟨path, hpath⟩ := exists_str_of_artifactName hd.evtx_ok.path
  have hname : manifestArtifactName (.str derived) runId = .ok evtxFilename := hderived ▸ hd.derived
  have hsysmon := hd.evtx_ok.fromSysmon
  rw [checkParent, hderived, hpath, hname]
  by_cases heq : path = derived
  · subst heq
    simp [Except.mapError, raiseIf, hpath, hsysmon, PyValue.str?, bind, Except.bind]
  · have hne : ¬ derived = path := fun h => heq h.symm
    simp [Except.mapError, raiseIf, hpath, PyValue.str?, bind, Except.bind, heq, hne]

/-- The loader accepts a described manifest when the raw log id is unpadded and the parent
is spelled as in its own item, and returns the raw log id and the digest of the item. -/
theorem validateSysmonManifestItem_eq_ok {manifest : PyDict} {items : List PyValue}
    {evtx jsonl : PyDict} (hitems : manifest.get "items" = .list items)
    (hd : Described h root runId items evtx jsonl) {rawLogId : String}
    (hraw : jsonl.get "raw_log_id" = .str rawLogId) (hblank : isBlank rawLogId = false)
    {recorded : String} (hrecorded : sha256Hex? (jsonl.get "sha256") = some recorded)
    {bound : String × String} :
    validateSysmonManifestItem h root.pipelineInputs manifest runId = .ok bound ↔
      (isPadded rawLogId = false ∧ jsonl.get "derived_from" = evtx.get "path") ∧
        bound = (rawLogId, lower recorded) := by
  obtain ⟨recorded', raw, hrecorded', hfile, hsha⟩ := hd.jsonl_ok.sha256
  obtain rfl := Option.some.inj (hrecorded.symm.trans hrecorded')
  have hbytes : root.jsonl.readBytes = .ok raw := by
    have hne : ¬ jsonlFilename = evtxFilename := by decide
    rw [ArtifactRoot.telemetry, if_neg hne, if_pos rfl] at hfile
    rw [hfile, File.readBytes]
  have hid : rawLogId? (.str rawLogId) = if isPadded rawLogId then none else some rawLogId := by
    cases hpadded : isPadded rawLogId with
    | false => simp [rawLogId?, PyValue.str?, hblank, hpadded]
    | true => simp [rawLogId?, PyValue.str?, hpadded]
  have hname : root.pipelineInputs.sysmonJsonlName = jsonlFilename := rfl
  have hjsonlFile : root.pipelineInputs.sysmonJsonl = root.jsonl := rfl
  have hsysmon : ¬ fromSysmon jsonl = false := by simp [hd.jsonl_ok.fromSysmon]
  have hne : ¬ root.pipelineInputs.sysmonJsonlName ≠ jsonlFilename := not_not.mpr hname
  simp only [validateSysmonManifestItem, hitems, sortItems_of_described hd, Except.ok_bind',
    raiseIf_of_not hne, raiseIf_of_not hsysmon, hraw, hid, hjsonlFile, hbytes, hrecorded]
  cases hpadded : isPadded rawLogId with
  | true => simp
  | false =>
    have hparent := checkParent_eq_ok hd
    simp only [if_neg Bool.false_ne_true, Except.mapError, Except.ok_bind', true_and, hsha, ne_eq,
      not_true_eq_false, raiseIf, if_false]
    constructor
    · intro hok
      obtain ⟨hcheck, hbound⟩ := Except.unit_bind_eq_ok.mp hok
      exact ⟨hparent.mp hcheck, Except.pure_eq_ok.mp hbound⟩
    · rintro ⟨hderived, rfl⟩
      exact Except.unit_bind_eq_ok.mpr ⟨hparent.mpr hderived, rfl⟩

/-! ## What a report without failures says -/

theorem ok_reportOf {rehearsal : Bool} {runType : Option RunType} {findings : List S0Finding} :
    (reportOf runId rehearsal runType findings).ok = true ↔ Clean findings := by
  rw [S0ValidationReport.ok, reportOf, List.isEmpty_iff, clean_iff]

theorem exists_of_readRunMetadata_clean {file : File B} (hclean : Clean (readRunMetadata h file).2) :
    ∃ metadata, (readRunMetadata h file).1 = some metadata := by
  unfold readRunMetadata at hclean ⊢
  split at hclean
  · exact absurd hclean not_clean_fail
  · split at hclean
    · exact absurd hclean not_clean_fail
    · exact ⟨_, rfl⟩

/-- What `json.loads` reads of a file, the parser behind pydantic reads alike, as
`model_validate_json` is documented. -/
def ReadsJsonAlike (h : Host B) (file : File B) : Prop :=
  ∀ text value, file.readText h = .ok text → h.jsonLoads text = some value →
    h.fromJson text = some value

/-- The metadata that the validator reads, the loader reads. -/
theorem loadRunMetadata_of_read {file : File B} {metadata : RunMetadata}
    (halike : ReadsJsonAlike h file) (hread : (readRunMetadata h file).1 = some metadata) :
    loadRunMetadata h file = .ok metadata := by
  unfold readRunMetadata at hread
  split at hread
  · cases hread
  next payload hpayload =>
    split at hread
    · cases hread
    next metadata' hmetadata =>
      obtain rfl := Option.some.inj hread
      obtain ⟨text, htext, hvalue⟩ := Except.bind_eq_ok.mp hpayload
      have hloads : h.jsonLoads text = some payload := by
        split at hvalue
        · cases hvalue
        next value hvalue' => rw [hvalue', Except.ok.inj hvalue]
      rw [loadRunMetadata, htext]
      dsimp only
      rw [halike text payload htext hloads, Option.bind_some, hmetadata]

/-- A row without a failure is a record. -/
theorem exists_of_readExecutionRow_clean {lineNo : Nat} {row : List String}
    (hclean : Clean (readExecutionRow h lineNo row).2) :
    ∃ record, (readExecutionRow h lineNo row).1 = some record := by
  unfold readExecutionRow at hclean ⊢
  split at hclean
  · split at hclean
    · exact absurd hclean not_clean_fail
    next record hrecord => exact ⟨record, rfl⟩
  · exact absurd hclean not_clean_fail

theorem exists_of_readExecutionRecords_clean {file : File B}
    (hclean : Clean (readExecutionRecords h file).2) :
    ∃ records, (readExecutionRecords h file).1 = some records := by
  unfold readExecutionRecords at hclean ⊢
  split at hclean
  · exact absurd hclean not_clean_fail
  split at hclean
  · exact absurd hclean not_clean_fail
  next hbom =>
  split at hclean
  · exact absurd hclean not_clean_fail
  split at hclean
  · exact absurd hclean not_clean_fail
  · exact absurd hclean not_clean_fail
  next header rows hrows =>
  split at hclean
  · exact absurd hclean not_clean_fail
  next hheader =>
  dsimp only at hclean ⊢
  split at hclean
  · exact absurd hclean not_clean_fail
  next hdata =>
  split at hclean
  next hrecords =>
    -- there is a data row, and its findings are clean, so it is one of the records
    obtain ⟨row, rest, hrow⟩ := List.exists_cons_of_ne_nil hdata
    rw [hrow, List.zipIdx_cons, List.map_cons] at hclean hrecords
    rw [List.flatMap_cons, clean_append] at hclean
    obtain ⟨record, hrecord⟩ := exists_of_readExecutionRow_clean hclean.1
    rw [List.filterMap_cons_some hrecord] at hrecords
    cases hrecords
  next hrecords =>
    rw [if_neg hbom, if_neg hheader, if_neg hdata, if_neg hrecords]
    exact ⟨_, rfl⟩

theorem exists_of_readSysmonRecords_clean {file : File B}
    (hclean : Clean (readSysmonRecords h file).2) :
    ∃ records, (readSysmonRecords h file).1 = some records ∧
      loadSysmonRecords h file = .ok records := by
  unfold readSysmonRecords at hclean ⊢
  unfold loadSysmonRecords
  cases hread : readSysmonJsonl h file with
  | error error =>
    rw [hread] at hclean
    exact absurd hclean not_clean_fail
  | ok records =>
    rw [hread] at hclean
    cases records with
    | nil => exact absurd hclean not_clean_fail
    | cons record records => exact ⟨record :: records, rfl, rfl⟩

/-- What both gates agree on in a run that the validator accepts. -/
structure ValidatedRun (h : Host B) (root : ArtifactRoot B) (runId : String) (metadata : RunMetadata)
    (records : List SysmonJsonlRecord) (manifest : PyDict) (items : List PyValue)
    (evtx jsonl : PyDict) : Prop where
  metadata_read : (readRunMetadata h root.runMetadata).1 = some metadata
  metadata_runId : metadata.runId = runId
  read : (readSysmonRecords h root.jsonl).1 = some records
  loaded : loadSysmonRecords h root.jsonl = .ok records
  manifest_read : root.manifest.loadJson h = .ok (.dict manifest)
  manifest_runId : (manifest.get "run_id").str? = some runId
  manifest_items : manifest.get "items" = .list items
  described : Described h root runId items evtx jsonl

theorem exists_of_checkManifest_clean (hclean : Clean (checkManifest h root runId)) :
    ∃ (manifest : PyDict) (items : List PyValue) (evtx jsonl : PyDict),
      root.manifest.loadJson h = .ok (.dict manifest) ∧
      (manifest.get "run_id").str? = some runId ∧ manifest.get "items" = .list items ∧
      Described h root runId items evtx jsonl := by
  unfold checkManifest at hclean
  split at hclean
  · exact absurd hclean not_clean_fail
  next value hvalue =>
    split at hclean
    · exact absurd hclean not_clean_fail
    next manifest hmanifest =>
      obtain rfl := PyValue.dict?_eq_some.mp hmanifest
      simp only [clean_append, clean_ite_fail, not_not] at hclean
      obtain ⟨-, ⟨⟨hrunId, -⟩, -⟩, hitems⟩ := hclean
      obtain ⟨items, evtx, jsonl, hlist, hd⟩ := described_of_clean hitems
      exact ⟨manifest, items, evtx, jsonl, hvalue, hrunId, hlist, hd⟩

/-- The checks after the Ground Truth files, when the rest of the program returned. -/
theorem clean_of_checkRun {rehearsal : Bool} {scenario : File B} {metadata : RunMetadata}
    {records : List ExecutionRecordRow} {findings : List S0Finding}
    (hrun : checkRun h root runId rehearsal scenario metadata records = .ok findings)
    (hclean : Clean findings) :
    Clean (checkRunIds runId metadata records) ∧ Clean (checkManifest h root runId) ∧
      Clean (readSysmonRecords h root.jsonl).2 := by
  unfold checkRun at hrun
  dsimp only at hrun
  split at hrun
  · obtain rfl := Except.pure_eq_ok.mp hrun
    simp only [clean_append] at hclean
    exact ⟨hclean.1.1.1.1.1, hclean.1.1.1.1.2, hclean.1.1.1.2⟩
  · obtain ⟨window, -, hfindings⟩ := Except.bind_eq_ok.mp hrun
    obtain rfl := Except.pure_eq_ok.mp hfindings
    simp only [clean_append] at hclean
    exact ⟨hclean.1.1.1.1.1.1, hclean.1.1.1.1.1.2, hclean.1.1.1.1.2⟩

/-- What the report of a run says when it has no failures. -/
theorem validated_of_ok {rehearsal : Bool} {scenario : File B} {report : S0ValidationReport}
    (hreport : validateS0Run h root runId rehearsal scenario = .ok report)
    (hok : report.ok = true) :
    ∃ metadata records manifest items evtx jsonl,
      ValidatedRun h root runId metadata records manifest items evtx jsonl := by
  unfold validateS0Run at hreport
  split at hreport
  · obtain rfl := Except.pure_eq_ok.mp hreport
    exact absurd (ok_reportOf.mp hok) not_clean_fail
  dsimp only at hreport
  split at hreport
  next habsent =>
    obtain rfl := Except.pure_eq_ok.mp hreport
    have hclean := (clean_append.mp (ok_reportOf.mp hok)).2
    obtain ⟨name, names, hnames⟩ := List.exists_cons_of_ne_nil habsent
    rw [hnames] at hclean
    exact absurd hclean not_clean_fail
  split at hreport
  next metadata records hmetadata hrecords =>
    obtain ⟨findings, hrun, hreturn⟩ := Except.bind_eq_ok.mp hreport
    obtain rfl := Except.pure_eq_ok.mp hreturn
    have hclean := ok_reportOf.mp hok
    simp only [clean_append, clean_passed] at hclean
    obtain ⟨⟨-, hread, -⟩, hfindings⟩ := hclean
    obtain ⟨hids, hmanifest, hsysmon⟩ := clean_of_checkRun hrun hfindings
    obtain ⟨sysmon, hsome, hloaded⟩ := exists_of_readSysmonRecords_clean hsysmon
    obtain ⟨manifest, items, evtx, jsonl, hjson, hrunId, hitems, hd⟩ :=
      exists_of_checkManifest_clean hmanifest
    simp only [checkRunIds, clean_append, clean_ite_fail, not_not] at hids
    exact ⟨metadata, sysmon, manifest, items, evtx, jsonl, hmetadata, hids.1.1, hsome, hloaded, hjson,
      hrunId, hitems, hd⟩
  next hneither =>
    obtain rfl := Except.pure_eq_ok.mp hreport
    have hclean := ok_reportOf.mp hok
    simp only [clean_append, clean_passed] at hclean
    obtain ⟨metadata, hmetadata⟩ := exists_of_readRunMetadata_clean hclean.2.1
    obtain ⟨records, hrecords⟩ := exists_of_readExecutionRecords_clean hclean.2.2
    exact absurd hrecords (hneither metadata records hmetadata)

/-! ## What the pipeline takes -/

/-- The manifest item that the validator resolved to an artifact name. -/
def matchedItem (h : Host B) (root : ArtifactRoot B) (runId name : String) : Option PyDict :=
  match root.manifest.loadJson h with
  | .ok (.dict manifest) =>
    match PyDict.get manifest "items" with
    | .list items => (scanItems h root runId items).1.resolved.lookup name
    | _ => none
  | _ => none

theorem ValidatedRun.matchedItem {metadata : RunMetadata} {records : List SysmonJsonlRecord}
    {manifest : PyDict} {items : List PyValue} {evtx jsonl : PyDict}
    (hv : ValidatedRun h root runId metadata records manifest items evtx jsonl) :
    matchedItem h root runId evtxFilename = some evtx ∧
      matchedItem h root runId jsonlFilename = some jsonl := by
  simp only [Collection.matchedItem, hv.manifest_read, hv.manifest_items]
  exact ⟨hv.described.matched_evtx, hv.described.matched_jsonl⟩

/-- `validate_s0_run` reports no failure of the artifacts as a formal collection. -/
def FormallyValid (h : Host B) (root : ArtifactRoot B) (runId : String) (scenario : File B) : Prop :=
  ∃ report, validateS0Run h root runId false scenario = .ok report ∧ report.ok = true

/-- The pipeline's artifacts are the records the validator read, in its order, under the
raw log id and the digest of the item the validator matched to the JSONL. -/
def BindsMatched (h : Host B) (root : ArtifactRoot B) (runId : String)
    (artifacts : S0PipelineArtifacts) : Prop :=
  (readSysmonRecords h root.jsonl).1 = some artifacts.sysmonRecords ∧
    artifacts.normalizationContext.runId = runId ∧
    ∃ item recorded, matchedItem h root runId jsonlFilename = some item ∧
      item.get "raw_log_id" = .str artifacts.normalizationContext.rawLogId ∧
      sha256Hex? (item.get "sha256") = some recorded ∧
      artifacts.sysmonContentSha256 = lower recorded

/-- The pipeline takes the artifacts of a run, and binds what the validator matched. -/
def Consumable (h : Host B) (root : ArtifactRoot B) (runId : String) : Prop :=
  ∃ artifacts, loadS0PipelineArtifacts h root.pipelineInputs = .ok artifacts ∧
    BindsMatched h root runId artifacts

/-- The manifest spells what the loader compares as text: the raw log id of the JSONL has
no whitespace around it, and `derived_from` is the `path` of the EVTX item. -/
def SpelledAlike (h : Host B) (root : ArtifactRoot B) (runId : String) : Prop :=
  ∃ evtx jsonl rawLogId, matchedItem h root runId evtxFilename = some evtx ∧
    matchedItem h root runId jsonlFilename = some jsonl ∧
    jsonl.get "raw_log_id" = .str rawLogId ∧ isPadded rawLogId = false ∧
    jsonl.get "derived_from" = evtx.get "path"

/-- What the loader returns for a validated run, and when. -/
theorem ValidatedRun.load_eq_ok {metadata : RunMetadata} {records : List SysmonJsonlRecord}
    {manifest : PyDict} {items : List PyValue} {evtx jsonl : PyDict}
    (hv : ValidatedRun h root runId metadata records manifest items evtx jsonl)
    (halike : ReadsJsonAlike h root.runMetadata) {rawLogId : String}
    (hraw : jsonl.get "raw_log_id" = .str rawLogId) (hblank : isBlank rawLogId = false)
    {recorded : String} (hrecorded : sha256Hex? (jsonl.get "sha256") = some recorded)
    {artifacts : S0PipelineArtifacts} :
    loadS0PipelineArtifacts h root.pipelineInputs = .ok artifacts ↔
      (isPadded rawLogId = false ∧ jsonl.get "derived_from" = evtx.get "path") ∧
        artifacts = ⟨metadata, records, lower recorded, ⟨runId, rawLogId, 1⟩⟩ := by
  have hmetadata : loadRunMetadata h root.pipelineInputs.runMetadata = .ok metadata :=
    loadRunMetadata_of_read halike hv.metadata_read
  have hmanifest : readJsonObject h root.pipelineInputs.manifest = .ok manifest := by
    have hfile : root.pipelineInputs.manifest = root.manifest := rfl
    rw [readJsonObject, hfile, hv.manifest_read]
    rfl
  have hloaded : loadSysmonRecords h root.pipelineInputs.sysmonJsonl = .ok records := hv.loaded
  have hrunId : ¬ (manifest.get "run_id").str? ≠ some runId := not_not.mpr hv.manifest_runId
  have hitem := fun bound : String × String =>
    (validateSysmonManifestItem_eq_ok hv.manifest_items hv.described hraw hblank hrecorded :
      _ = Except.ok bound ↔ _)
  simp only [loadS0PipelineArtifacts, hmetadata, hmanifest, Except.ok_bind', hv.metadata_runId,
    raiseIf_of_not hrunId, hloaded]
  constructor
  · intro hok
    obtain ⟨bound, hbound, hreturn⟩ := Except.bind_eq_ok.mp hok
    obtain ⟨hspelled, rfl⟩ := (hitem bound).mp hbound
    exact ⟨hspelled, Except.pure_eq_ok.mp hreturn⟩
  · rintro ⟨hspelled, rfl⟩
    exact Except.bind_eq_ok.mpr ⟨_, (hitem _).mpr ⟨hspelled, rfl⟩, rfl⟩

/-- A run the validator accepts as a formal collection, and whose metadata both JSON parsers
read alike, loads exactly when its manifest spells the JSONL's raw log id and parent as the
loader compares them; and what loads is what the validator matched. -/
theorem load_iff_spelledAlike {scenario : File B} (halike : ReadsJsonAlike h root.runMetadata)
    (hvalid : FormallyValid h root runId scenario) :
    ((∃ artifacts, loadS0PipelineArtifacts h root.pipelineInputs = .ok artifacts) ↔
      SpelledAlike h root runId) ∧
    ∀ artifacts, loadS0PipelineArtifacts h root.pipelineInputs = .ok artifacts →
      BindsMatched h root runId artifacts := by
  obtain ⟨report, hreport, hok⟩ := hvalid
  obtain ⟨metadata, records, manifest, items, evtx, jsonl, hv⟩ := validated_of_ok hreport hok
  obtain ⟨hmatchedEvtx, hmatchedJsonl⟩ := hv.matchedItem
  obtain ⟨rawLogId, hraw, hblank⟩ := hv.described.jsonl_ok.rawLogId
  obtain ⟨recorded, raw, hrecorded, -, -⟩ := hv.described.jsonl_ok.sha256
  have hload := fun artifacts : S0PipelineArtifacts =>
    (hv.load_eq_ok halike hraw hblank hrecorded : _ = Except.ok artifacts ↔ _)
  refine ⟨⟨?_, ?_⟩, ?_⟩
  · rintro ⟨artifacts, hartifacts⟩
    obtain ⟨⟨hpadded, hderived⟩, -⟩ := (hload artifacts).mp hartifacts
    exact ⟨evtx, jsonl, rawLogId, hmatchedEvtx, hmatchedJsonl, hraw, hpadded, hderived⟩
  · rintro ⟨evtx', jsonl', rawLogId', hevtx, hjsonl, hraw', hpadded, hderived⟩
    obtain rfl := Option.some.inj (hmatchedEvtx.symm.trans hevtx)
    obtain rfl := Option.some.inj (hmatchedJsonl.symm.trans hjsonl)
    obtain rfl := PyValue.str.inj (hraw.symm.trans hraw')
    exact ⟨_, (hload _).mpr ⟨⟨hpadded, hderived⟩, rfl⟩⟩
  · intro artifacts hartifacts
    obtain ⟨-, rfl⟩ := (hload artifacts).mp hartifacts
    exact ⟨hv.read, rfl, jsonl, recorded, hmatchedJsonl, hraw, hrecorded, rfl⟩

end

/-! ## A run that the loader refuses -/

namespace Sample

def runId : String := "RUN-20260101-001"

def evtxText : String := "ElfFile"

def jsonlText : String := "\x7b\"RecordId\":1,\"EventId\":1\x7d\n"

/-- A member of a JSON object whose value is a text. -/
def member (name value : String) : String := "\"" ++ name ++ "\":\"" ++ value ++ "\""

/-- The JSON text of an object. -/
def object (members : List String) : String := "\x7b" ++ ",".intercalate members ++ "\x7d"

def metadataText : String :=
  object [member "run_id" runId, member "scenario_id" "S0", member "run_type" "normal",
    member "target_host" "WIN-01", member "start_time" "2026-01-01T00:00:00Z",
    member "end_time" "2026-01-01T00:10:00Z",
    "\"schema_versions\":" ++ object (schemaVersionsFields.map fun name => member name "v0.2")]

def csvText : String :=
    "run_id,action_id,timestamp,action_type,description\r\nRUN-20260101-001,N01,2026-01-01T0" ++
    "0:00:01Z,process,notepad\r\n"

def scenarioText : String :=
    "scenario_id: S0\nrun_length:\n  evaluation_horizon_sec: 600\nruns:\n  normal:\n    run_" ++
    "type: normal\n    reference_action_id: null\n    actions:\n      - action_id: N01\n    " ++
    "    action_type: process\n"

def evtxSha256 : String := "5748dde09f5c3cf6819580b2b67d17e4564d465109c7387b7bddc85882cadd40"

def jsonlSha256 : String := "ce3ce0d4829e340fcb1906650309c6db5b37c8bb23eb0b43e09cde3ae83c10f8"

def configSha256 : String := "863513d429e4d7385265b47a3c32056326c470ffeeaaae9ac6e7b0d73992763f"

/-- The JSON text of one item. -/
def itemText (rawLogId name sha256 : String) (members : List String) : String :=
  object ([member "raw_log_id" rawLogId,
    member "path" ("C:\\\\S0\\\\data\\\\raw\\\\" ++ runId ++ "\\\\telemetry\\\\" ++ name),
    member "sha256" sha256, member "layer" "raw_telemetry", member "source" "sysmon"] ++ members)

/-- `manifest.json`, with the `derived_from` of the JSONL as JSON text. -/
def manifestText (derivedFrom : String) : String :=
  object [member "run_id" runId, member "generated_at" "2026-01-01T00:10:01Z",
    "\"sysmon\":" ++ object [member "config_version" "v0.1", member "config_sha256" configSha256,
      member "config_hash" configSha256],
    "\"items\":[" ++ itemText "RAW-001" evtxFilename evtxSha256 [] ++ "," ++
      itemText "RAW-002" jsonlFilename jsonlSha256 ["\"derived_from\":" ++ derivedFrom] ++ "]"]

def telemetryPath (name : String) : String :=
  "C:\\S0\\data\\raw\\RUN-20260101-001\\telemetry\\" ++ name

/-- The parsed item of one artifact. -/
def item (rawLogId name sha256 : String) : PyDict :=
  [("raw_log_id", .str rawLogId), ("path", .str (telemetryPath name)), ("sha256", .str sha256),
    ("layer", .str "raw_telemetry"), ("source", .str "sysmon")]

/-- The parsed manifest, with the `derived_from` of the JSONL. -/
def manifest (derivedFrom : String) : PyValue :=
  .dict [("run_id", .str runId), ("generated_at", .str "2026-01-01T00:10:01Z"),
    ("sysmon", .dict [("config_version", .str "v0.1"), ("config_sha256", .str configSha256),
      ("config_hash", .str configSha256)]),
    ("items", .list [.dict (item "RAW-001" evtxFilename evtxSha256),
      .dict (item "RAW-002" jsonlFilename jsonlSha256 ++ [("derived_from", .str derivedFrom)])])]

/-- The path of the EVTX in the run's own spelling, and its JSON text. -/
def ownPath : String × String :=
  (telemetryPath evtxFilename,
    "\"C:\\\\S0\\\\data\\\\raw\\\\RUN-20260101-001\\\\telemetry\\\\sysmon-0001.evtx\"")

/-- The path of the EVTX with the other separators, and its JSON text. -/
def otherPath : String × String :=
  ("C:/S0/data/raw/RUN-20260101-001/telemetry/sysmon-0001.evtx",
    "\"C:/S0/data/raw/RUN-20260101-001/telemetry/sysmon-0001.evtx\"")

def metadata : PyValue :=
  .dict [("run_id", .str runId), ("scenario_id", .str "S0"), ("run_type", .str "normal"),
    ("target_host", .str "WIN-01"), ("start_time", .str "2026-01-01T00:00:00Z"),
    ("end_time", .str "2026-01-01T00:10:00Z"),
    ("schema_versions", .dict (schemaVersionsFields.map fun name => (name, .str "v0.2")))]

def scenario : PyValue :=
  .dict [("scenario_id", .str "S0"),
    ("run_length", .dict [("evaluation_horizon_sec", .int 600)]),
    ("runs", .dict [("normal", .dict [("run_type", .str "normal"), ("reference_action_id", .none),
      ("actions", .list [.dict [("action_id", .str "N01"), ("action_type", .str "process")]])])])]

/-- The parsed texts of the run. -/
def parsed (text : String) : Option PyValue :=
  if text = metadataText then some metadata
  else if text = manifestText ownPath.2 then some (manifest ownPath.1)
  else if text = manifestText otherPath.2 then some (manifest otherPath.1)
  else if text = jsonlText then some (.dict [("RecordId", .int 1), ("EventId", .int 1)])
  else none

/-- The libraries, on the texts of the sample; a file is its text. -/
def host : Host String where
  decodeUtf8 := some
  textMode := some
  startsWithBom _ := false
  sha256 raw :=
    if raw = evtxText then evtxSha256 else if raw = jsonlText then jsonlSha256 else ""
  jsonLoads := parsed
  fromJson := parsed
  csvReader text :=
    if text = csvText then
      some [csvHeader, [runId, "N01", "2026-01-01T00:00:01Z", "process", "notepad"]]
    else none
  yamlSafeLoad text := if text = scenarioText then some scenario else none
  fromIsoformat _ := none
  parseDatetime
    | .str "2026-01-01T00:00:00Z" => some (.aware 1767225600000000 0)
    | .str "2026-01-01T00:00:01Z" => some (.aware 1767225601000000 0)
    | .str "2026-01-01T00:10:00Z" => some (.aware 1767226200000000 0)
    | _ => none
  isInt
    | .int _ => true
    | _ => false
  isFloat _ := false
  str
    | .int n => toString n
    | _ => ""
  upper s := String.ofList (s.toList.map Char.toUpper)

/-- The artifacts of the run, with the manifest that spells `derived_from` as given. -/
def root (derivedFrom : String × String) : ArtifactRoot String where
  evtx := .content evtxText
  jsonl := .content jsonlText
  manifest := .content (manifestText derivedFrom.2)
  executionRecord := .content csvText
  runMetadata := .content metadataText

/-- Whether the validator reports no failure of the run. -/
def passes (derivedFrom : String × String) : Bool :=
  match validateS0Run host (root derivedFrom) runId false (.content scenarioText) with
  | .ok report => report.ok
  | .error _ => false

theorem formallyValid {derivedFrom : String × String} (hpasses : passes derivedFrom = true) :
    FormallyValid host (root derivedFrom) runId (.content scenarioText) := by
  unfold passes at hpasses
  split at hpasses
  next report hreport => exact ⟨report, hreport, hpasses⟩
  · cases hpasses

/-- The validator reports no failure in either spelling, and the loader refuses the other one. -/
theorem evaluated : passes ownPath = true ∧ passes otherPath = true ∧
    (loadS0PipelineArtifacts host (root otherPath).pipelineInputs).toOption.isNone = true := by
  decide +kernel

/-- The two parsers are one. -/
theorem readsJsonAlike {file : File String} : ReadsJsonAlike host file :=
  fun _ _ _ hloads => hloads

end Sample

/-- The run as the runner writes it is validated, and so loads what was matched. -/
theorem load_iff_spelledAlike_ownPath :
    ((∃ artifacts, loadS0PipelineArtifacts Sample.host (Sample.root Sample.ownPath).pipelineInputs =
        .ok artifacts) ↔
      SpelledAlike Sample.host (Sample.root Sample.ownPath) Sample.runId) ∧
    ∀ artifacts, loadS0PipelineArtifacts Sample.host (Sample.root Sample.ownPath).pipelineInputs =
        .ok artifacts →
      BindsMatched Sample.host (Sample.root Sample.ownPath) Sample.runId artifacts :=
  load_iff_spelledAlike Sample.readsJsonAlike (Sample.formallyValid Sample.evaluated.1)

/-- A run whose `derived_from` names the EVTX with other separators than its own item is
validated, and the pipeline refuses it. -/
theorem not_consumable_of_otherPath :
    ¬ ∀ (B : Type) (h : Host B) (root : ArtifactRoot B) (runId : String) (scenario : File B),
      ReadsJsonAlike h root.runMetadata → FormallyValid h root runId scenario →
        Consumable h root runId := by
  intro hall
  obtain ⟨artifacts, hload, -⟩ := hall String Sample.host (Sample.root Sample.otherPath) Sample.runId
    (.content Sample.scenarioText) Sample.readsJsonAlike
    (Sample.formallyValid Sample.evaluated.2.1)
  have hrefused := Sample.evaluated.2.2
  rw [hload] at hrefused
  exact absurd hrefused Bool.false_ne_true

end IncidentAwareness.Collection
