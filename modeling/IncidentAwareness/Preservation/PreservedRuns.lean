import IncidentAwareness.Preservation.PreserveSpec
import Mathlib.Logic.Relation

/-!
# The preserved runs of a formal root

`preserve_s0_run` as the only writer of a formal root: its calls, which succeed or fail in
any order and whatever goes wrong, with changes of other files between them (`Changes`).

* `preserveS0Run_allOrNothing`: a call preserves the run byte for byte, or leaves no run;
* `preservedRun_stays`: a run stays as it is, and no later call for it returns;
* `formalRoot_verifies`: every run of a formal root is accepted at any time.
-/

namespace IncidentAwareness.Preservation

open IncidentAwareness.Common IncidentAwareness.Lib
open IncidentAwareness.Stream (isRunId)

/-! ## What a preserved run holds -/

/-- The copies of a run, with what is read of each: every file of its layers, and every single
file. -/
inductive Copies (fault : Fault) (t : FileTree) (inputs : PreservationInputs) :
    PyStr → CopyReads → Prop
  | layer {layer : String} {relative : PyStr} {content : List UInt8} (hlayer : layer ∈ layers)
      (h : t.node (child (sourceDir inputs layer) relative) = some (.file content)) :
      Copies fault t inputs (layerPath layer inputs.runId relative)
        (fault.copyReads (layerPath layer inputs.runId relative) content)
  | single {file : SingleFile} {content : List UInt8} (hfile : file ∈ singleFiles inputs)
      (h : t.node file.source = some (.file content)) :
      Copies fault t inputs file.destination (fault.copyReads file.destination content)

/-- A run that has been preserved, in the tree `t'`, from the tree `t`. -/
structure PreservedRun (lib : StandardLibrary) (fault : Fault) (t t' : FileTree)
    (inputs : PreservationInputs) (preservedAt : String) (fileCount : Nat) : Prop where
  isNew : t.isThere (.char '/') (finalDir inputs) = false
  contents : ∃ record sums, ∀ p entry,
    (t'.subtree (.char '/') (finalDir inputs)).node p = some entry ↔
      (∃ reads, Copies fault t inputs p reads ∧ entry = .file reads.copied) ∨
      p = recordFilename ∧ entry = .file record ∨ p = sha256sumsFilename ∧ entry = .file sums
  /-- Every copy has the hash that its source has before it and after it. -/
  copied : ∀ p reads, Copies fault t inputs p reads → reads.Agree lib
  record : ∃ content snapshot files,
    (t'.subtree (.char '/') (finalDir inputs)).node recordFilename = some (.file content) ∧
    lib.loads content =
      some (.obj (recordMembers inputs.runId preservedAt snapshot files)) ∧
    py snapshot = inputs.snapshot ∧
    (∀ p, p ∈ files.map py ↔ ∃ reads, Copies fault t inputs p reads) ∧
    fileCount = files.length + 1
  accepted : verifyPreservedRun lib (t'.subtree (.char '/') (finalDir inputs)) (py inputs.runId) =
    .ok fileCount
  /-- Nothing else has changed, but for the formal root, which is made. -/
  outside : ∀ p, p ≠ inputs.formalRoot → Tree.below (.char '/') (finalDir inputs) p = none →
    t'.node p = t.node p

section Contents

variable {lib : StandardLibrary} {fault : Fault} {t t' : FileTree} {inputs : PreservationInputs}
  {preservedAt : String} {plan : List (PyStr × PyStr)} {result : PreservationResult}

/-- What is planned: the files of the layers, and the single files. -/
theorem mem_checkInputs (h : checkInputs lib t inputs = .ok plan) {e : PyStr × PyStr} :
    e ∈ plan ↔
      (∃ layer ∈ layers, ∃ relative, LayerFile t inputs layer relative ∧
        e = (layerPath layer inputs.runId relative, child (sourceDir inputs layer) relative)) ∨
      ∃ file ∈ singleFiles inputs, e = (file.destination, file.source) := by
  have hplan : planCopies lib t inputs = .ok plan := by
    obtain ⟨-, h⟩ := raiseIf_bind_eq_ok.mp h
    obtain ⟨-, h⟩ := raiseIf_bind_eq_ok.mp h
    obtain ⟨-, h⟩ := Except.unit_bind_eq_ok.mp h
    obtain ⟨-, h⟩ := Except.unit_bind_eq_ok.mp h
    obtain ⟨-, h⟩ := raiseIf_bind_eq_ok.mp h
    exact (raiseIf_bind_eq_ok.mp h).2
  obtain ⟨-, hplan⟩ := Except.unit_bind_eq_ok.mp hplan
  obtain ⟨-, hplan⟩ := Except.unit_bind_eq_ok.mp hplan
  obtain ⟨-, hplan⟩ := raiseIf_bind_eq_ok.mp hplan
  obtain ⟨-, hplan⟩ := Except.unit_bind_eq_ok.mp hplan
  obtain ⟨-, hplan⟩ := Except.unit_bind_eq_ok.mp hplan
  obtain ⟨raw, hraw, hplan⟩ := Except.bind_eq_ok.mp hplan
  obtain ⟨groundTruth, hgroundTruth, hplan⟩ := Except.bind_eq_ok.mp hplan
  obtain ⟨-, hplan⟩ := Except.unit_bind_eq_ok.mp hplan
  obtain ⟨-, hplan⟩ := Except.unit_bind_eq_ok.mp hplan
  rw [(planSingleFiles_eq_ok hplan).1, List.mem_append, List.mem_append,
    (layerPlanned hraw).mem e, (layerPlanned hgroundTruth).mem e]
  simp [layers, eq_comm]

/-- The copies of a run are those that are planned. -/
theorem copies_iff (h : checkInputs lib t inputs = .ok plan) {p : PyStr} {reads : CopyReads} :
    Copies fault t inputs p reads ↔ ∃ e ∈ plan, e.1 = p ∧
      ∃ content, t.node e.2 = some (.file content) ∧ reads = fault.copyReads e.1 content := by
  constructor
  · intro hcopies
    cases hcopies with
    | @layer _ _ content hlayer hnode =>
      refine ⟨_, (mem_checkInputs h).mpr (.inl ⟨_, hlayer, _, ⟨content, ?_⟩, rfl⟩), rfl, content,
        hnode, rfl⟩
      rw [Tree.node_subtree]
      exact hnode
    | single hfile hnode =>
      exact ⟨_, (mem_checkInputs h).mpr (.inr ⟨_, hfile, rfl⟩), rfl, _, hnode, rfl⟩
  · rintro ⟨e, he, rfl, content, hnode, rfl⟩
    rcases (mem_checkInputs h).mp he with ⟨layer, hlayer, relative, -, rfl⟩ | ⟨file, hfile, rfl⟩
    · exact .layer hlayer hnode
    · exact .single hfile hnode

/-- Making the formal root changes no source. -/
theorem contentAt_makeDirectory (h : checkInputs lib t inputs = .ok plan) {e : PyStr × PyStr}
    (he : e ∈ plan) :
    t.node e.2 = some (.file (contentAt (makeDirectory t inputs.formalRoot) e.2)) := by
  obtain ⟨content, hnode⟩ := (planned_of_checkInputs h).sources e he
  rw [contentAt, node_makeDirectory_of_some hnode, hnode]
  rfl

/-- The copies of a run, as they are read where the formal root is made. -/
theorem copies_iff_readsOf (h : checkInputs lib t inputs = .ok plan) {p : PyStr}
    {reads : CopyReads} : Copies fault t inputs p reads ↔
      ∃ e ∈ plan, e.1 = p ∧ reads = readsOf fault (makeDirectory t inputs.formalRoot) e := by
  rw [copies_iff h]
  refine exists_congr fun e => and_congr_right fun he => and_congr_right fun _ => ?_
  have hnode := contentAt_makeDirectory h he
  constructor
  · rintro ⟨content, hcontent, rfl⟩
    rw [hcontent] at hnode
    rw [readsOf, ← Entry.file.inj (Option.some.inj hnode)]
  · rintro rfl
    exact ⟨_, hnode, rfl⟩

/-- What the staging directory of a plan has under a path. -/
theorem node_staging (h : checkInputs lib t inputs = .ok plan) {record sums : List UInt8}
    {p : PyStr} {entry : Entry} :
    ((recordedTree (heldBy fault (makeDirectory t inputs.formalRoot)) plan record).put
        sha256sumsFilename (.file sums)).node p = some entry ↔
      (∃ reads, Copies fault t inputs p reads ∧ entry = .file reads.copied) ∨
      p = recordFilename ∧ entry = .file record ∨
      p = sha256sumsFilename ∧ entry = .file sums := by
  have hp := planned_of_checkInputs h
  have hcopied : (∃ reads, Copies fault t inputs p reads ∧ entry = .file reads.copied) ↔
      ∃ e ∈ plan, e.1 = p ∧
        entry = .file (heldBy fault (makeDirectory t inputs.formalRoot) e) := by
    constructor
    · rintro ⟨reads, hcopies, rfl⟩
      obtain ⟨e, he, hdestination, rfl⟩ := (copies_iff_readsOf h).mp hcopies
      exact ⟨e, he, hdestination, rfl⟩
    · rintro ⟨e, he, hdestination, rfl⟩
      exact ⟨_, (copies_iff_readsOf h).mpr ⟨e, he, hdestination, rfl⟩, rfl⟩
  rw [hcopied, Tree.node_put]
  by_cases hsums : p = sha256sumsFilename
  · have hcopy : ¬ ∃ e ∈ plan, e.1 = p ∧
        entry = .file (heldBy fault (makeDirectory t inputs.formalRoot) e) := by
      rintro ⟨e, he, rfl, -⟩
      exact hp.ne_sha256sumsFilename (List.mem_map_of_mem he) hsums
    have hrecord : p ≠ recordFilename := by
      rw [hsums]
      decide
    rw [if_pos hsums]
    constructor
    · intro hnode
      exact .inr (.inr ⟨hsums, (Option.some.inj hnode).symm⟩)
    · rintro (hmem | hname | ⟨-, rfl⟩)
      · exact absurd hmem hcopy
      · exact absurd hname.1 hrecord
      · rfl
  · rw [if_neg hsums, node_recordedTree hp.nodup]
    constructor
    · rintro (hrecord | ⟨-, hcopy⟩)
      · exact .inr (.inl hrecord)
      · exact .inl hcopy
    · rintro (hcopy | hrecord | hrest)
      · obtain ⟨e, he, hdestination, hentry⟩ := hcopy
        refine .inr ⟨?_, e, he, hdestination, hentry⟩
        rw [← hdestination]
        exact hp.ne_recordFilename (List.mem_map_of_mem he)
      · exact .inl hrecord
      · exact absurd hrest.1 hsums

/-- Every file of a staging directory that is accepted is listed once. -/
theorem length_listed (h : checkInputs lib t inputs = .ok plan) {record sums : List UInt8}
    {hashes : List (PyStr × PyStr)} {n : Nat}
    {held : PyStr × PyStr → List UInt8}
    (hhashes : hashTree lib (recordedTree held plan record) = .ok hashes)
    (hverify : verifyPreservedRun lib ((recordedTree held plan record).put sha256sumsFilename
      (.file sums)) (py inputs.runId) = .ok n) :
    n = plan.length + 1 := by
  have hp := planned_of_checkInputs h
  obtain ⟨listed, hlisted, rfl⟩ := verifyPreservedRun_eq_ok.mp hverify
  obtain ⟨raw, text, -, -, hrows⟩ := hlisted.sums
  have hperm : (listed.map Prod.fst).Perm (hashes.map Prod.fst) := by
    refine (List.perm_ext_iff_of_nodup (nodup_of_readRows hrows) (nodup_hashTree hhashes)).mpr
      fun p => ?_
    rw [mem_map_hashTree hhashes]
    constructor
    · intro hmem
      obtain ⟨e, he, rfl⟩ := List.mem_map.mp hmem
      obtain ⟨hne, content, hnode, -⟩ := (hlisted.exactly e).mp he
      rw [Tree.node_put, if_neg hne] at hnode
      exact ⟨hne, content, hnode⟩
    · rintro ⟨hne, content, hnode⟩
      refine List.mem_map_of_mem ((hlisted.exactly (p, sha256Of lib content)).mpr ?_)
      refine ⟨hne, content, ?_, rfl⟩
      rw [Tree.node_put, if_neg hne]
      exact hnode
  have hlength := (hperm.trans (hashes_perm hp hhashes)).length_eq
  simpa using hlength

/-- The record of a run: its files are the copies. -/
theorem exists_files_of_recordText (h : checkInputs lib t inputs = .ok plan)
    {record : List UInt8}
    (hrecord : recordText lib inputs preservedAt (plan.map Prod.fst) = .ok record) :
    ∃ snapshot files,
      lib.loads record = some (.obj (recordMembers inputs.runId preservedAt snapshot files)) ∧
      py snapshot = inputs.snapshot ∧
      (∀ p, p ∈ files.map py ↔ ∃ reads, Copies fault t inputs p reads) ∧
      files.length = plan.length := by
  obtain ⟨snapshot, hsnapshot, hrecord⟩ := Except.bind_eq_ok.mp hrecord
  obtain ⟨files, hfiles, hrecord⟩ := Except.bind_eq_ok.mp hrecord
  obtain rfl := Except.ok.inj hrecord
  have hview : files.map py = sortedBy codes (plan.map Prod.fst) := by
    have hmap := @map_of_mapM _ _ _ encodable _ id py _ _
      (fun text s hs => (encodable_eq_ok.mp hs).symm) hfiles
    rw [hmap, List.map_id]
  refine ⟨snapshot, files, lib.loads_dumps _, (encodable_eq_ok.mp hsnapshot).symm, ?_, ?_⟩
  · intro p
    rw [hview, mem_sortedBy, List.mem_map]
    constructor
    · rintro ⟨e, he, rfl⟩
      exact ⟨_, (copies_iff_readsOf h).mpr ⟨e, he, rfl, rfl⟩⟩
    · rintro ⟨reads, hcopies⟩
      obtain ⟨e, he, hdestination, -⟩ := (copies_iff h).mp hcopies
      exact ⟨e, he, hdestination⟩
  · have hlength := congrArg List.length hview
    rw [List.length_map, (sortedBy_perm _ _).length_eq, List.length_map] at hlength
    exact hlength

/-- What `preserve_s0_run` has done where it returns, whatever can go wrong. -/
theorem exists_of_preserveS0Run {t' : FileTree}
    (h : preserveS0Run lib fault t inputs preservedAt = (.ok result, t')) :
    ∃ plan, checkInputs lib t inputs = .ok plan := by
  rw [preserveS0Run] at h
  split at h
  · exact absurd (Prod.mk.inj h).1 (by simp)
  · rename_i plan hplan
    exact ⟨plan, hplan⟩

/-- Where `preserve_s0_run` returns, whatever can go wrong, the place of the run was free; it
holds every file of the layers and every single file, each with the hash that its source had
before it was copied and after it, the record of exactly these, and the list of their hashes,
and nothing else; it is accepted; and no other path has changed. -/
theorem preservedRun_of_ok (h : preserveS0Run lib fault t inputs preservedAt = (.ok result, t')) :
    result.runDir = finalDir inputs ∧
      PreservedRun lib fault t t' inputs preservedAt result.fileCount := by
  obtain ⟨plan, hplan⟩ := exists_of_preserveS0Run h
  have hp := planned_of_checkInputs hplan
  obtain ⟨-, staging, n, hassemble, rfl, rfl⟩ := (preserveS0Run_eq_ok hplan).mp h
  obtain ⟨hundisturbed, record, hashes, sums, hrecord, hhashes, -, -, rfl, hverify⟩ :=
    (assemble_eq_ok hp.sourcesAre).mp hassemble
  obtain ⟨snapshot, files, hloads, hsnapshot, hfiles, hlength⟩ :=
    exists_files_of_recordText hplan hrecord
  refine ⟨rfl, hp.notThere, ?_, ?_, ?_, ?_, ?_⟩
  · refine ⟨record, sums, fun p entry => ?_⟩
    rw [Tree.subtree_graft]
    exact node_staging hplan
  · intro p reads hcopies
    obtain ⟨e, he, -, rfl⟩ := (copies_iff_readsOf hplan).mp hcopies
    exact (hundisturbed.copies e he).2
  · refine ⟨record, snapshot, files, ?_, hloads, hsnapshot, hfiles, ?_⟩
    · rw [Tree.subtree_graft]
      exact (node_staging hplan).mpr (.inr (.inl ⟨rfl, rfl⟩))
    · rw [length_listed hplan hhashes hverify, hlength]
  · rw [Tree.subtree_graft]
    exact hverify
  · intro p hroot hbelow
    rw [Tree.node_graft_of_below_none hbelow, node_makeDirectory, if_neg fun hp => hroot hp.1]

end Contents

section Root

variable {lib : StandardLibrary} {fault : Fault} {t t' t'' : FileTree}
  {inputs : PreservationInputs} {preservedAt : String} {result : PreservationResult}
  {root : PyStr} {runId runId' : String} {n : Nat} {admits : Fault → Prop}

/-- A step of a tree with a formal root: a call of `preserve_s0_run`, which returns or raises and
may meet the faults that are admitted, or a change of paths that are not below the formal root. -/
inductive Changes (lib : StandardLibrary) (admits : Fault → Prop) (root : PyStr)
    (t t' : FileTree) : Prop
  | preserve {fault : Fault} {inputs : PreservationInputs} {preservedAt : String}
      {outcome : Except PreservationError PreservationResult} (hfault : admits fault)
      (hroot : inputs.formalRoot = root)
      (h : preserveS0Run lib fault t inputs preservedAt = (outcome, t'))
  | elsewhere (h : ∀ p, t'.node (child root p) = t.node (child root p))

/-- The place of a run of a formal root. -/
def runPlace (root : PyStr) (runId : String) : PyStr := child root (py runId)

theorem child_child (a b c : PyStr) : child (child a b) c = child a (child b c) := by
  simp [child]

theorem child_ne_self (a b : PyStr) : child a b ≠ a := by
  intro h
  have hlength := congrArg List.length h
  rw [child, List.length_append, List.length_cons] at hlength
  omega

theorem below_eq_some_child {place p rest : PyStr} :
    Tree.below (.char '/') place p = some rest ↔ p = child place rest := Tree.below_eq_some

/-- Something is at a place where it has an entry, or a path below it has one. -/
theorem isThere_iff_child {place : PyStr} : t.isThere (.char '/') place = true ↔
    (∃ entry, t.node place = some entry) ∨ ∃ p entry, t.node (child place p) = some entry := by
  rw [Tree.isThere_iff]
  constructor
  · rintro ⟨q, entry, rfl | hbelow, hnode⟩
    · exact .inl ⟨entry, hnode⟩
    · obtain ⟨rest, hrest⟩ := Option.isSome_iff_exists.mp hbelow
      rw [below_eq_some_child.mp hrest] at hnode
      exact .inr ⟨rest, entry, hnode⟩
  · rintro (⟨entry, hnode⟩ | ⟨p, entry, hnode⟩)
    · exact ⟨place, entry, .inl rfl, hnode⟩
    · exact ⟨child place p, entry, .inr (by rw [below_eq_some_child.mpr rfl]; rfl), hnode⟩

theorem slash_not_mem_runId (h : isRunId runId = true) : PyChar.char '/' ∉ py runId :=
  fun hmem => (runId_plain h _ hmem).1 rfl

/-- The run id is the first component of a path below a run. -/
theorem takeWhile_child (h : isRunId runId = true) (rest : PyStr) :
    (child (py runId) rest).takeWhile (· ≠ PyChar.char '/') = py runId := by
  rw [child, List.takeWhile_append_of_pos, List.takeWhile_cons_of_neg (by simp), List.append_nil]
  intro c hc
  exact decide_eq_true (runId_plain h c hc).1

/-- What is below the place of a run is not at the place of another one, nor below it. -/
theorem runId_of_below (h : isRunId runId = true) (h' : isRunId runId' = true) {p rest' : PyStr}
    (hp : p = runPlace root runId ∨ ∃ rest, p = child (runPlace root runId) rest)
    (hp' : p = child (runPlace root runId') rest') : py runId = py runId' := by
  rw [runPlace, child_child] at hp'
  rcases hp with rfl | ⟨rest, rfl⟩
  · have heq : py runId = child (py runId') rest' := child_injective root hp'
    refine absurd ?_ (slash_not_mem_runId h)
    rw [heq, child]
    simp
  · rw [runPlace, child_child] at hp'
    have htake := congrArg (List.takeWhile (· ≠ PyChar.char '/')) (child_injective root hp')
    rwa [takeWhile_child h, takeWhile_child h'] at htake

/-- The paths of a run are not below the place of another one. -/
theorem below_eq_none (h : isRunId runId = true) (h' : isRunId runId' = true)
    (hne : py runId ≠ py runId') {p : PyStr}
    (hp : p = runPlace root runId ∨ ∃ rest, p = child (runPlace root runId) rest) :
    Tree.below (.char '/') (runPlace root runId') p = none := by
  cases hbelow : Tree.below (.char '/') (runPlace root runId') p with
  | none => rfl
  | some rest => exact absurd (runId_of_below h h' hp (below_eq_some_child.mp hbelow)) hne

/-- A tree with the same entries is accepted as well. -/
theorem verified_congr (hnode : ∀ p, t'.node p = t.node p) {listed : List (PyStr × PyStr)}
    {directoryRunId : PyStr} (h : Verified lib t directoryRunId listed) :
    Verified lib t' directoryRunId listed where
  sums := by
    rw [hnode]
    exact h.sums
  recordListed := h.recordListed
  exactly e := by
    rw [hnode]
    exact h.exactly e
  entries r hr := by
    have hr' := Tree.node_eq_some.mpr hr
    rw [hnode] at hr'
    exact h.entries r (Tree.node_eq_some.mp hr')
  record := by
    rw [hnode]
    exact h.record

/-- A run whose files have stayed is accepted as before. -/
theorem accepted_congr {place directoryRunId : PyStr}
    (hnode : ∀ p, t'.node (child place p) = t.node (child place p))
    (h : verifyPreservedRun lib (t.subtree (.char '/') place) directoryRunId = .ok n) :
    verifyPreservedRun lib (t'.subtree (.char '/') place) directoryRunId = .ok n := by
  obtain ⟨listed, hlisted, hn⟩ := verifyPreservedRun_eq_ok.mp h
  refine verifyPreservedRun_eq_ok.mpr ⟨listed, verified_congr (fun p => ?_) hlisted, hn⟩
  rw [Tree.node_subtree, Tree.node_subtree]
  exact hnode p

/-- A call that preserves a run leaves the paths of the other runs. -/
theorem node_of_ok (h : preserveS0Run lib fault t inputs preservedAt = (.ok result, t'))
    (hrunId : isRunId runId = true) (hne : py runId ≠ py inputs.runId) {p : PyStr}
    (hp : p = runPlace inputs.formalRoot runId ∨
      ∃ rest, p = child (runPlace inputs.formalRoot runId) rest) : t'.node p = t.node p := by
  obtain ⟨-, hrun⟩ := preservedRun_of_ok h
  obtain ⟨plan, hplan⟩ := exists_of_preserveS0Run h
  refine hrun.outside p ?_ (below_eq_none hrunId (planned_of_checkInputs hplan).runId hne hp)
  rcases hp with rfl | ⟨rest, rfl⟩
  · exact child_ne_self _ _
  · rw [runPlace, child_child]
    exact child_ne_self _ _

/-- A call leaves the files of a run that is there. -/
theorem node_of_preserve (hrunId : isRunId runId = true)
    {outcome : Except PreservationError PreservationResult}
    (h : preserveS0Run lib fault t inputs preservedAt = (outcome, t'))
    (hthere : t.isThere (.char '/') (runPlace inputs.formalRoot runId) = true) (p : PyStr) :
    t'.node (child (runPlace inputs.formalRoot runId) p) =
      t.node (child (runPlace inputs.formalRoot runId) p) := by
  cases outcome with
  | error e =>
    refine (keepsRuns_of_error h).outside _ ?_ (.inr ?_)
    · rw [runPlace, child_child]
      exact child_ne_self _ _
    · rw [runPlace, child_child]
      exact not_inStaging hrunId
  | ok result =>
    refine node_of_ok h hrunId (fun hsame => ?_) (.inr ⟨p, rfl⟩)
    have hnew := (preservedRun_of_ok h).2.isNew
    rw [finalDir, ← hsame] at hnew
    rw [runPlace, hnew] at hthere
    exact absurd hthere (by simp)

/-- A step leaves the files of a run that is there. -/
theorem node_of_changes (hrunId : isRunId runId = true) (h : Changes lib admits root t t')
    (hthere : t.isThere (.char '/') (runPlace root runId) = true) (p : PyStr) :
    t'.node (child (runPlace root runId) p) = t.node (child (runPlace root runId) p) := by
  cases h with
  | preserve _ hroot h =>
    subst hroot
    exact node_of_preserve hrunId h hthere p
  | elsewhere h =>
    rw [runPlace, child_child]
    exact h _

/-- A run that has a file keeps all of them over a run of steps. -/
theorem node_of_reflTransGen (hrunId : isRunId runId = true)
    (h : Relation.ReflTransGen (Changes lib admits root) t t') {q : PyStr} {entry : Entry}
    (hq : t.node (child (runPlace root runId) q) = some entry) (p : PyStr) :
    t'.node (child (runPlace root runId) p) = t.node (child (runPlace root runId) p) := by
  -- The file is what keeps the run there, so every path is followed at once.
  have hall : ∀ p, t'.node (child (runPlace root runId) p) =
      t.node (child (runPlace root runId) p) := by
    induction h with
    | refl => exact fun p => rfl
    | tail hrun hstep ih =>
      intro p
      have hthere := isThere_iff_child.mpr (.inr ⟨q, entry, (ih q).trans hq⟩)
      rw [node_of_changes hrunId hstep hthere, ih p]
  exact hall p

/-- A run that has been preserved keeps every file, whatever calls of `preserve_s0_run` for the
formal root and changes elsewhere come after it; it is accepted at any time, and no later call
for it returns. -/
theorem preservedRun_stays
    (h : preserveS0Run lib fault t inputs preservedAt = (.ok result, t'))
    (hrun : Relation.ReflTransGen (Changes lib admits inputs.formalRoot) t' t'') :
    (∀ p, (t''.subtree (.char '/') result.runDir).node p =
        (t'.subtree (.char '/') result.runDir).node p) ∧
      verifyPreservedRun lib (t''.subtree (.char '/') result.runDir) (baseName result.runDir) =
        .ok result.fileCount ∧
      ∀ fault inputs' preservedAt' outcome, inputs'.runId = inputs.runId →
        inputs'.formalRoot = inputs.formalRoot →
        (preserveS0Run lib fault t'' inputs' preservedAt').1 ≠ .ok outcome := by
  obtain ⟨hdir, hpreserved⟩ := preservedRun_of_ok h
  obtain ⟨plan, hplan⟩ := exists_of_preserveS0Run h
  have hrunId := (planned_of_checkInputs hplan).runId
  obtain ⟨content, -, -, hrecord, -⟩ := hpreserved.record
  rw [Tree.node_subtree] at hrecord
  have hnode : ∀ p, t''.node (child (runPlace inputs.formalRoot inputs.runId) p) =
      t'.node (child (runPlace inputs.formalRoot inputs.runId) p) :=
    node_of_reflTransGen hrunId hrun hrecord
  rw [hdir, baseName_finalDir hrunId]
  refine ⟨fun p => ?_, accepted_congr hnode hpreserved.accepted, ?_⟩
  · rw [Tree.node_subtree, Tree.node_subtree]
    exact hnode p
  · intro fault' inputs' preservedAt' outcome hsame hroot hok
    have hcall : preserveS0Run lib fault' t'' inputs' preservedAt' =
        (.ok outcome, (preserveS0Run lib fault' t'' inputs' preservedAt').2) := Prod.ext hok rfl
    have hnew := (preservedRun_of_ok hcall).2.isNew
    have hthere : t''.isThere (.char '/') (finalDir inputs) = true :=
      isThere_iff_child.mpr (.inr ⟨recordFilename, _, (hnode recordFilename).trans hrecord⟩)
    rw [finalDir, hsame, hroot] at hnew
    rw [finalDir, hnew] at hthere
    exact absurd hthere (by simp)

/-- Everything below a formal root is below the place of a run, or in a staging directory that
`rmtree` has left, and every run is accepted. -/
structure RootHolds (lib : StandardLibrary) (admits : Fault → Prop) (root : PyStr)
    (t : FileTree) : Prop where
  inRun : ∀ p entry, t.node (child root p) = some entry →
    ∃ runId, isRunId runId = true ∧
      ((∃ rest, child root p = child (runPlace root runId) rest) ∨
        InStaging root runId (child root p) ∧ ∃ fault, admits fault ∧ fault.leaves ≠ none)
  accepted : ∀ runId, isRunId runId = true →
    t.isThere (.char '/') (runPlace root runId) = true →
    ∃ n, verifyPreservedRun lib (t.subtree (.char '/') (runPlace root runId)) (py runId) = .ok n

/-- A run whose paths have stayed is accepted as before. -/
theorem RootHolds.accepted_of_same (h : RootHolds lib admits root t) (hrunId : isRunId runId = true)
    (hsame : ∀ rest, t'.node (child root (py runId ++ rest)) = t.node (child root (py runId ++ rest)))
    (hthere : t'.isThere (.char '/') (runPlace root runId) = true) :
    ∃ n, verifyPreservedRun lib (t'.subtree (.char '/') (runPlace root runId)) (py runId) = .ok n := by
  have hplace : t'.node (runPlace root runId) = t.node (runPlace root runId) := by
    simpa [runPlace] using hsame []
  have hbelow : ∀ p, t'.node (child (runPlace root runId) p) =
      t.node (child (runPlace root runId) p) := by
    intro p
    rw [runPlace, child_child]
    exact hsame (.char '/' :: p)
  have hthere' : t.isThere (.char '/') (runPlace root runId) = true := by
    refine isThere_iff_child.mpr ((isThere_iff_child.mp hthere).imp ?_ ?_)
    · rintro ⟨entry, hnode⟩
      exact ⟨entry, hplace.symm.trans hnode⟩
    · rintro ⟨p, entry, hnode⟩
      exact ⟨p, entry, (hbelow p).symm.trans hnode⟩
  obtain ⟨n, hn⟩ := h.accepted runId hrunId hthere'
  exact ⟨n, accepted_congr hbelow hn⟩

theorem RootHolds.of_same (h : RootHolds lib admits root t)
    (hsame : ∀ p, t'.node (child root p) = t.node (child root p)) :
    RootHolds lib admits root t' where
  inRun p entry hnode := h.inRun p entry ((hsame p).symm.trans hnode)
  accepted _ hrunId hthere := h.accepted_of_same hrunId (fun _ => hsame _) hthere

/-- A call that raises keeps what holds of the formal root. -/
theorem RootHolds.keepsRuns (h : RootHolds lib admits inputs.formalRoot t) (hfault : admits fault)
    (hrunId : isRunId inputs.runId = true) (hkeeps : KeepsRuns fault t t' inputs) :
    RootHolds lib admits inputs.formalRoot t' := by
  refine ⟨fun p entry hnode => ?_, fun runId hother hthere => ?_⟩
  · by_cases hsame : fault.leaves = none ∨
        ¬ InStaging inputs.formalRoot inputs.runId (child inputs.formalRoot p)
    · rw [hkeeps.outside _ (child_ne_self _ _) hsame] at hnode
      exact h.inRun p entry hnode
    · obtain ⟨hleaves, hstaging⟩ := not_or.mp hsame
      exact ⟨inputs.runId, hrunId, .inr ⟨not_not.mp hstaging, fault, hfault, hleaves⟩⟩
  · refine h.accepted_of_same hother (fun rest => ?_) hthere
    exact hkeeps.outside _ (child_ne_self _ _) (.inr (not_inStaging hother))

/-- A call for the formal root keeps what holds of it. -/
theorem RootHolds.preserve (h : RootHolds lib admits inputs.formalRoot t) (hfault : admits fault)
    {outcome : Except PreservationError PreservationResult}
    (hcall : preserveS0Run lib fault t inputs preservedAt = (outcome, t')) :
    RootHolds lib admits inputs.formalRoot t' := by
  cases outcome with
  | error e =>
    cases hcheck : checkInputs lib t inputs with
    | ok plan =>
      exact h.keepsRuns hfault (planned_of_checkInputs hcheck).runId (keepsRuns_of_error hcall)
    | error e' =>
      rw [preserveS0Run, hcheck] at hcall
      rwa [← (Prod.mk.inj hcall).2]
  | ok result =>
    obtain ⟨-, hrun⟩ := preservedRun_of_ok hcall
    obtain ⟨plan, hplan⟩ := exists_of_preserveS0Run hcall
    have hrunId := (planned_of_checkInputs hplan).runId
    refine ⟨fun p entry hnode => ?_, fun runId hother hthere => ?_⟩
    · cases hbelow : Tree.below (.char '/') (finalDir inputs) (child inputs.formalRoot p) with
      | some rest => exact ⟨inputs.runId, hrunId, .inl ⟨rest, below_eq_some_child.mp hbelow⟩⟩
      | none =>
        rw [hrun.outside _ (child_ne_self _ _) hbelow] at hnode
        exact h.inRun p entry hnode
    · by_cases hsame : py runId = py inputs.runId
      · rw [runPlace, hsame]
        exact ⟨result.fileCount, hrun.accepted⟩
      · have hthere' : t.isThere (.char '/') (runPlace inputs.formalRoot runId) = true := by
          refine isThere_iff_child.mpr ((isThere_iff_child.mp hthere).imp ?_ ?_)
          · rintro ⟨entry, hnode⟩
            exact ⟨entry, (node_of_ok hcall hother hsame (.inl rfl)).symm.trans hnode⟩
          · rintro ⟨p, entry, hnode⟩
            exact ⟨p, entry, (node_of_ok hcall hother hsame (.inr ⟨p, rfl⟩)).symm.trans hnode⟩
        obtain ⟨n, hn⟩ := h.accepted runId hother hthere'
        exact ⟨n, accepted_congr (fun p => node_of_ok hcall hother hsame (.inr ⟨p, rfl⟩)) hn⟩

end Root

/-! ## Two calls for one run -/

namespace Sample

/-- The first call preserves the run. -/
theorem exists_preserved : ∃ result t', preserveS0Run library noFault (tree "notes.txt") inputs
    "2026-01-01T00:00:00.000Z" = (.ok result, t') := by
  obtain ⟨plan, hplan, hxml⟩ := exists_plan acceptedInputs_tree.1
  obtain ⟨result, t', hok, -⟩ := @preserves_of_writable library (tree "notes.txt") inputs
    "2026-01-01T00:00:00.000Z" plan hplan hxml writable_notes
  exact ⟨result, t', hok⟩

/-- The rename is refused, and the staging directory cannot be removed. -/
def refusedRename : Fault where
  raises site := if site = .rename then some (.osError "rename") else none
  leaves := some .empty

/-- The tree after a call. -/
noncomputable def called (fault : Fault) (t : FileTree) : FileTree :=
  (preserveS0Run library fault t inputs "2026-01-02T00:00:00.000Z").2

theorem changes_called (fault : Fault) (t : FileTree) :
    Changes library (fun _ => True) (py "/f") t (called fault t) := by
  have hcall : preserveS0Run library fault t inputs "2026-01-02T00:00:00.000Z" =
    ((preserveS0Run library fault t inputs "2026-01-02T00:00:00.000Z").1, called fault t) := rfl
  exact .preserve trivial rfl hcall

end Sample

theorem preservedRun_stays_notes :
    ∃ (result : PreservationResult) (t' : FileTree), verifyPreservedRun Sample.library
      ((Sample.called Sample.refusedRename t').subtree (.char '/') result.runDir)
        (baseName result.runDir) = .ok result.fileCount := by
  obtain ⟨result, t', hok⟩ := Sample.exists_preserved
  have hrun := Relation.ReflTransGen.single (Sample.changes_called Sample.refusedRename t')
  exact ⟨result, t', (preservedRun_stays hok hrun).2.1⟩

end IncidentAwareness.Preservation
