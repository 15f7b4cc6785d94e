import IncidentAwareness.Artifacts.PublishFilesSpec
import IncidentAwareness.Artifacts.R1Evidence
import IncidentAwareness.Lib.Run
import Mathlib.Data.Fintype.Basic

/-!
# Runs of the publishers of an R1 output directory

Whatever the publishers of one directory do, each keeps what `sat_publishFiles` says of
it (`Holds`, `holds_step`). `publishedInOrder_of_clean`: in a run whose completed
summaries are linked last and whose exceptions are harmless, a visible file is never
changed, a publication that raised has no link left, and a completed summary is visible
with all files of its publication. `publishedInOrder_fails`: with a collection
provenance, which is linked behind the summary, this fails.
-/

namespace IncidentAwareness.Artifacts

open IncidentAwareness.Common IncidentAwareness.Lib IncidentAwareness.Evidence

variable {ι P α : Type}

instance : Fintype R1ArtifactName where
  elems := {.evidence, .extractionSummary, .collectionProvenance}
  complete := by
    intro name
    cases name with
    | evidence => decide
    | extractionSummary => decide
    | collectionProvenance => decide

/-- The publication itself returned, and the extraction raised. -/
def ArtifactError.isPublished : ArtifactError → Bool
  | .extraction _ none => true
  | _ => false

/-- A completed summary is a marker. -/
abbrev IsMarker (content : R1Content P) : Prop := content.isCompletedSummary = true

/-! ## A publisher -/

/-- How a request ends: unless its publication returned, an exception leaves no link. -/
def RequestEnds (files : List (R1File P)) (strict : Prop) (r : Except ArtifactError α)
    (m : Mine ι R1ArtifactName (R1Content P)) : Prop :=
  (strict → m.Marked IsMarker files) ∧
    (strict → ∀ e, r = .error e → e.isPublished = false → m.Unlinked)

section Publisher

variable [DecidableEq ι] {env : R1Environment} {i : ι} {strict : Prop} {files : List (R1File P)}
  {d : OutputDirectory ι R1ArtifactName (R1Content P)}

omit [DecidableEq ι] in
theorem requestEnds_unlinked {r : Except ArtifactError α} {m : Mine ι R1ArtifactName (R1Content P)}
    (h : m.Unlinked) : RequestEnds files strict r m :=
  ⟨fun _ => h.unmarked.marked, fun _ _ _ _ => h⟩

omit [DecidableEq ι] in
theorem requestEnds_ended {r : Except ArtifactError Unit} {m : Mine ι R1ArtifactName (R1Content P)}
    (h : Ended IsMarker files strict r m) : RequestEnds files strict r m :=
  ⟨h.1, fun hs e he _ => h.2 hs e he⟩

theorem sat_existingPaths (names : List R1ArtifactName) (h : (mine i d).Unlinked) :
    Sat (publisherProtocol i IsMarker files strict) (fun _ d => (mine i d).Unlinked)
      (existingPaths names) d := by
  induction names generalizing d with
  | nil => exact sat_return (Q := fun _ => Mine.Unlinked) h
  | cons name names ih =>
    have hreturn : ∀ (r : Except ArtifactError (List R1ArtifactName))
        (d : OutputDirectory ι R1ArtifactName (R1Content P)), (mine i d).Unlinked →
        Sat (publisherProtocol i IsMarker files strict) (fun _ d => (mine i d).Unlinked) (.done r) d :=
      fun r d h => sat_return (Q := fun _ => Mine.Unlinked) h
    have hexists : Sat (publisherProtocol i IsMarker files strict) (fun _ d => (mine i d).Unlinked)
        (pathExists name) d := by
      refine sat_reads (Q := fun _ => Mine.Unlinked) (fun m hm _ => hm.unmarked.marked)
        (fun _ _ _ hm _ => hm) (fun d r d' hm hb => ?_) h
      exact ⟨(Prod.mk.inj (Option.some.inj hb)).2.symm, hm⟩
    refine sat_bind hexists (fun found d h => ?_) fun e d h => hreturn _ d h
    exact sat_bind (ih h) (fun existing d h => hreturn _ d h) fun e d h => hreturn _ d h

theorem sat_prepareOutputPaths (names : List R1ArtifactName) (h : (mine i d).Unlinked) :
    Sat (publisherProtocol i IsMarker files strict) (fun _ d => (mine i d).Unlinked)
      (prepareOutputPaths names) d := by
  refine sat_bind (sat_existingPaths names h) (fun existing d h => ?_) fun e d h => ?_
  · exact sat_return (Q := fun _ => Mine.Unlinked) h
  · exact sat_return (Q := fun _ => Mine.Unlinked) h

/-- What comes before a publication leaves nothing behind. -/
theorem sat_before {β : Type} {p : Publisher ι R1ArtifactName (R1Content P) α}
    {f : α → Publisher ι R1ArtifactName (R1Content P) β}
    (h : Sat (publisherProtocol i IsMarker files strict) (fun _ d => (mine i d).Unlinked) p d)
    (hf : ∀ a d, (mine i d).Unlinked → Sat (publisherProtocol i IsMarker files strict)
      (fun r d => RequestEnds files strict r (mine i d)) (f a) d) :
    Sat (publisherProtocol i IsMarker files strict) (fun r d => RequestEnds files strict r (mine i d))
      (p >>= f) d :=
  sat_bind h hf fun _ _ h => sat_return (Q := RequestEnds files strict) (requestEnds_unlinked h)

theorem sat_ofExcept {r : Except ArtifactError α} (h : (mine i d).Unlinked) :
    Sat (publisherProtocol i IsMarker files strict) (fun _ d => (mine i d).Unlinked)
      (Publisher.ofExcept r) d :=
  sat_return (Q := fun _ => Mine.Unlinked) h

theorem sat_raiseExtraction {error : PyError} {r : Except ArtifactError Unit}
    (h : Ended IsMarker files strict r (mine i d)) :
    Sat (publisherProtocol i IsMarker files strict)
      (fun (r : Except ArtifactError α) d => RequestEnds files strict r (mine i d))
      (raiseExtraction error r) d := by
  have hraise : ∀ e e' : ArtifactError, r = .error e' →
      RequestEnds files strict (.error e : Except _ α) (mine i d) :=
    fun e e' he => ⟨h.1, fun hs _ _ _ => h.2 hs e' he⟩
  cases r with
  | ok u =>
    refine sat_return (Q := RequestEnds files strict) ⟨h.1, fun _ e he hpublished => ?_⟩
    rw [← Except.error.inj he] at hpublished
    cases hpublished
  | error e =>
    cases e with
    | pyError e => exact sat_return (Q := RequestEnds files strict) (hraise _ _ rfl)
    | extraction e note => exact sat_return (Q := RequestEnds files strict) (hraise _ _ rfl)
    | call e =>
      show Sat _ _ (if _ then _ else _) d
      split
      · exact sat_return (Q := RequestEnds files strict) (hraise _ _ rfl)
      · exact sat_return (Q := RequestEnds files strict) (hraise _ _ rfl)

theorem nodup_completedFiles (request : R1EvidenceRequest P) (result : R1EvidencePipelineResult) :
    ((request.completedFiles env result).map (·.1)).Nodup := by
  unfold R1EvidenceRequest.completedFiles
  cases request.collectionProvenance with
  | none => simp
  | some p => simp

theorem sat_runAndWriteR1EvidenceArtifacts (request : R1EvidenceRequest P)
    (h : (mine i d).Unlinked) :
    Sat (publisherProtocol i IsMarker ((R1Request.evidence request).files env) strict)
      (fun r d => RequestEnds ((R1Request.evidence request).files env) strict r (mine i d))
      (runAndWriteR1EvidenceArtifacts env i request) d := by
  refine sat_before (sat_ofExcept h) fun _ d h => ?_
  refine sat_before (sat_prepareOutputPaths _ h) fun _ d h => ?_
  cases hextract : request.extract env with
  | error error =>
    have hfiles : (R1Request.evidence request).files env = request.failedFiles env error := by
      simp only [R1Request.files, hextract]
    rw [hfiles]
    exact sat_attempt (sat_publishFiles (List.nodup_singleton _) h) fun r d hr => sat_raiseExtraction hr
  | ok result =>
    have hfiles : (R1Request.evidence request).files env = request.completedFiles env result := by
      simp only [R1Request.files, hextract]
    rw [hfiles]
    refine sat_before (sat_ofExcept h) fun _ d h => ?_
    refine sat_bind (sat_publishFiles (nodup_completedFiles request result) h) (fun _ d hr => ?_)
      fun e d hr => ?_
    · exact sat_return (Q := RequestEnds (request.completedFiles env result) strict)
        ⟨hr.1, fun _ _ he => by cases he⟩
    · exact sat_return (Q := RequestEnds (request.completedFiles env result) strict)
        ⟨hr.1, fun hs e' he _ => hr.2 hs e rfl⟩

/-- Every publisher keeps its part. -/
theorem sat_program (request : R1Request P) (h : (mine i d).Unlinked) :
    Sat (publisherProtocol i IsMarker (request.files env) strict)
      (fun r d => RequestEnds (request.files env) strict r (mine i d)) (request.program env i) d := by
  cases request with
  | evidence request =>
    refine sat_bind (sat_runAndWriteR1EvidenceArtifacts request h) (fun _ d hr => ?_) fun e d hr => ?_
    · exact sat_return (Q := RequestEnds _ strict) ⟨hr.1, fun _ _ he => by cases he⟩
    · exact sat_return (Q := RequestEnds _ strict)
        ⟨hr.1, fun hs e' he hp => hr.2 hs e' (congrArg Except.error (Except.error.inj he)) hp⟩
  | collectionProvenance provenance =>
    refine sat_before (sat_prepareOutputPaths _ h) fun _ d h => ?_
    exact sat_mono (fun r d hr => requestEnds_ended hr) (sat_publishFiles (List.nodup_singleton _) h)

end Publisher

/-! ## Runs -/

namespace R1Publishers

/-- What a publisher has reached. -/
def Reached [DecidableEq ι] (env : R1Environment) (strict : Prop) (i : ι)
    (d : OutputDirectory ι R1ArtifactName (R1Content P)) : R1PublisherState ι P → Prop
  | .idle => (mine i d).Unlinked
  | .running request rest =>
    Sat (publisherProtocol i IsMarker (request.files env) strict)
        (fun r d => RequestEnds (request.files env) strict r (mine i d)) rest d ∧
      (strict → (mine i d).Marked IsMarker (request.files env))
  | .killed request => strict → (mine i d).Marked IsMarker (request.files env)

/-- What every publisher has reached. -/
def Holds [DecidableEq ι] (env : R1Environment) (strict : Prop) (s : R1Publishers ι P) : Prop :=
  ∀ i, Reached env strict i s.directory (s.publishers i)

/-- A call that links no completed summary before a file of its publication, and raises only
harmlessly. -/
def CleanCall [DecidableEq ι] (files : List (R1File P)) (i : ι) (site : PublishSite R1ArtifactName)
    (fault : Fault CallError) (d : OutputDirectory ι R1ArtifactName (R1Content P)) : Prop :=
  (fault.applied = true → MarkerLast IsMarker files site d) ∧
    (fault.raises? = true → Harmless site fault.applied (mine i d))

/-- The next call of a publisher is clean. -/
def CleanAdvance [DecidableEq ι] (env : R1Environment) (i : ι) (fault : Fault CallError)
    (d : OutputDirectory ι R1ArtifactName (R1Content P)) : R1PublisherState ι P → Prop
  | .running request rest => ∀ site ∈ rest.site?, CleanCall (request.files env) i site fault d
  | _ => True

/-- A step whose call is clean. -/
def CleanStep [DecidableEq ι] (env : R1Environment) (s : R1Publishers ι P) : R1PublisherStep ι P → Prop
  | .start _ _ => True
  | .advance i fault => CleanAdvance env i fault s.directory (s.publishers i)

section Step

variable [DecidableEq ι] {env : R1Environment} {strict : Prop} {s : R1Publishers ι P} {i j : ι}
  {d d' : OutputDirectory ι R1ArtifactName (R1Content P)} {state : R1PublisherState ι P}

/-- The others keep what a publisher has reached. -/
theorem Reached.rely (h : Reached env strict i d state) (hmine : mine i d' = mine i d) :
    Reached env strict i d' state := by
  cases state with
  | idle =>
    show (mine i d').Unlinked
    rw [hmine]
    exact h
  | running request rest =>
    have hr : (publisherProtocol i IsMarker (request.files env) strict).rely d d' := hmine
    refine ⟨h.1.rely hr, ?_⟩
    rw [hmine]
    exact h.2
  | killed request =>
    show strict → (mine i d').Marked _ _
    rw [hmine]
    exact h

/-- A publisher moves on, and the others see nothing of it. -/
theorem Holds.become (h : s.Holds env strict) (hothers : ∀ j, j ≠ i → mine j d = mine j s.directory)
    (hreached : Reached env strict i d state) :
    Holds env strict ⟨d, Function.update s.publishers i state⟩ := by
  intro j
  show Reached env strict j d (Function.update s.publishers i state j)
  by_cases hj : j = i
  · rw [hj, Function.update_self]
    exact hreached
  · rw [Function.update_of_ne hj]
    exact (h j).rely (hothers j hj)

theorem holds_initial (prior : R1ArtifactName → Option (R1Content P)) :
    (initial prior : R1Publishers ι P).Holds env strict := by
  intro i name
  show ((prior name).map fun _ => ArtifactFile.prior name).bind _ = none
  cases prior name with
  | none => rfl
  | some content => rfl

/-- A visible file stays, or its publisher removes it. -/
def Kept (x : R1PublisherStep ι P) (d d' : OutputDirectory ι R1ArtifactName (R1Content P)) : Prop :=
  ∀ name file, d.entries (.artifact name) = some file →
    d'.entries (.artifact name) = some file ∧ d'.contents file = d.contents file ∨
      d'.entries (.artifact name) = none ∧ ∃ i k fault, file = .staged i k ∧ x = .advance i fault

omit [DecidableEq ι] in
theorem kept_refl (x : R1PublisherStep ι P) : Kept x d d := fun _ _ h => .inl ⟨h, rfl⟩

/-- Every step keeps what the publishers have reached, and the files that are visible. -/
theorem holds_step (h : s.Holds env strict) (x : R1PublisherStep ι P) (hclean : strict → CleanStep env s x) :
    (s.step env x).1.Holds env strict ∧ Kept x s.directory (s.step env x).1.directory := by
  cases x with
  | start i request =>
    cases hstate : s.publishers i with
    | idle =>
      simp only [step, hstate]
      have hidle := h i
      rw [hstate] at hidle
      have hunlinked : (mine i s.directory).Unlinked := hidle
      exact ⟨h.become (fun _ _ => rfl) ⟨sat_program request hunlinked, fun _ => hunlinked.unmarked.marked⟩,
        kept_refl _⟩
    | running request rest =>
      simp only [step, hstate]
      exact ⟨h, kept_refl _⟩
    | killed request =>
      simp only [step, hstate]
      exact ⟨h, kept_refl _⟩
  | advance i fault =>
    cases hstate : s.publishers i with
    | idle =>
      simp only [step, hstate]
      exact ⟨h, kept_refl _⟩
    | killed request =>
      simp only [step, hstate]
      exact ⟨h, kept_refl _⟩
    | running request rest =>
      have hreached := h i
      rw [hstate] at hreached
      obtain ⟨hsat, hmarked⟩ := hreached
      cases hadvance : rest.advance (fault.map .call) s.directory with
      | finished =>
        simp only [step, hstate, hadvance]
        exact ⟨h, kept_refl _⟩
      | blocked =>
        simp only [step, hstate, hadvance]
        exact ⟨h, kept_refl _⟩
      | called site applied rest' d =>
        obtain ⟨hsite, happlied⟩ := Program.site?_of_advance hadvance
        rw [Fault.applied_map] at happlied
        have hcall : strict → CleanCall (request.files env) i site fault s.directory := by
          intro hs
          have hstep : CleanAdvance env i fault s.directory (s.publishers i) := hclean hs
          rw [hstate] at hstep
          exact hstep site hsite
        obtain ⟨hguarantee, hrest⟩ := hsat.advance (fun ha hs => (hcall hs).1 (happlied.trans ha))
          (fun e he hs => happlied ▸ (hcall hs).2 (Fault.raises?_of_map he)) hadvance
        have hothers : ∀ j, j ≠ i → mine j d = mine j s.directory := by
          rcases hguarantee with ⟨-, rfl⟩ | ⟨-, hg⟩
          · exact fun _ _ => rfl
          · exact hg.1.others
        have hkept : Kept (.advance i fault) s.directory d := by
          rcases hguarantee with ⟨-, rfl⟩ | ⟨-, hg⟩
          · exact kept_refl _
          · intro name file hentry
            rcases hg.1.kept name file hentry with hsame | ⟨hgone, -, k, hfile⟩
            · exact .inl hsame
            · exact .inr ⟨hgone, i, k, fault, hfile, rfl⟩
        have hmarked' : strict → (mine i d).Marked IsMarker (request.files env) := by
          rcases hguarantee with ⟨-, rfl⟩ | ⟨-, hg⟩
          · exact hmarked
          · exact hg.2
        cases rest' with
        | none =>
          simp only [step, hstate, hadvance]
          exact ⟨h.become hothers hmarked', hkept⟩
        | some rest' =>
          simp only [step, hstate, hadvance]
          exact ⟨h.become hothers ⟨hrest rest' rfl, hmarked'⟩, hkept⟩

end Step

section Order

variable [DecidableEq ι] (env : R1Environment) (prior : R1ArtifactName → Option (R1Content P))
  (xs : List (R1PublisherStep ι P))

/-- The state after some steps of publishers that find prior files. -/
abbrev afterSteps : R1Publishers ι P := after (step env) (initial prior) xs

/-- A run whose publications are in order. -/
structure PublishedInOrder : Prop where
  /-- A visible file is never changed, and only its publisher removes it. -/
  kept : ∀ before x since, xs = before ++ x :: since →
    Kept x (afterSteps env prior before).directory (afterSteps env prior (before ++ [x])).directory
  /-- A publication that raised has no link left. -/
  removed : ∀ i e, ((afterSteps env prior xs).publishers i).error? = some e → e.isPublished = false →
    ∀ name k, (afterSteps env prior xs).directory.entries (.artifact name) ≠ some (.staged i k)
  /-- A completed summary is visible with all files of its publication. -/
  complete : ∀ i request, ((afterSteps env prior xs).publishers i).request? = some request →
    ∀ name k content, (afterSteps env prior xs).directory.entries (.artifact name) = some (.staged i k) →
    (afterSteps env prior xs).directory.contents (.staged i k) = some content →
    content.isCompletedSummary = true →
    ∀ file ∈ request.files env, ∃ k',
      (afterSteps env prior xs).directory.entries (.artifact file.1) = some (.staged i k') ∧
        (afterSteps env prior xs).directory.contents (.staged i k') = some file.2

variable {env prior xs}

theorem Holds.marked {s : R1Publishers ι P} (h : s.Holds env True) {i : ι} {request : R1Request P}
    (hrequest : (s.publishers i).request? = some request) :
    (mine i s.directory).Marked IsMarker (request.files env) := by
  have hreached := h i
  cases hstate : s.publishers i with
  | idle =>
    rw [hstate] at hrequest
    cases hrequest
  | running request' rest =>
    rw [hstate] at hrequest hreached
    obtain rfl := Option.some.inj hrequest
    exact hreached.2 trivial
  | killed request' =>
    rw [hstate] at hrequest hreached
    obtain rfl := Option.some.inj hrequest
    exact hreached trivial

theorem Holds.unlinked {s : R1Publishers ι P} (h : s.Holds env True) {i : ι} {e : ArtifactError}
    (he : (s.publishers i).error? = some e) (hpublished : e.isPublished = false) :
    (mine i s.directory).Unlinked := by
  have hreached := h i
  cases hstate : s.publishers i with
  | idle =>
    rw [hstate] at he
    cases he
  | killed request =>
    rw [hstate] at he
    cases he
  | running request rest =>
    rw [hstate] at he hreached
    unfold R1PublisherState.error? at he
    cases hresult : rest.result? with
    | none => simp [hresult] at he
    | some r =>
      have hdone := hreached.1
      rw [Program.eq_done_of_result? hresult] at hdone
      cases r with
      | ok u => simp [hresult] at he
      | error e' =>
        simp only [hresult, Option.some.injEq] at he
        exact hdone.done.2 trivial e' rfl (he ▸ hpublished)

/-- A run whose calls are clean publishes in order. -/
theorem publishedInOrder_of_clean (h : Meets (step env) (CleanStep env) (initial prior) xs) :
    PublishedInOrder env prior xs where
  kept before x since hxs := by
    have hholds : (afterSteps env prior before).Holds env False :=
      run_induction (P := Holds env False) (step env)
        (fun s x hs => (holds_step hs x False.elim).1) (holds_initial prior) before
    have hstep := (holds_step hholds x False.elim).2
    have hafter : afterSteps env prior (before ++ [x]) = (step env (afterSteps env prior before) x).1 := by
      rw [afterSteps, after, run_snoc]
    rwa [hafter]
  removed i e he hpublished name k hentry := by
    have hholds : (afterSteps env prior xs).Holds env True :=
      run_of_meets (P := Holds env True) (step env) (fun s x hs hc => (holds_step hs x fun _ => hc).1)
        (holds_initial prior) h
    have hlink := links_eq_some.mpr hentry
    rw [hholds.unlinked he hpublished name] at hlink
    cases hlink
  complete i request hrequest name k content hentry hcontent hmarker file hfile := by
    have hholds : (afterSteps env prior xs).Holds env True :=
      run_of_meets (P := Holds env True) (step env) (fun s x hs hc => (holds_step hs x fun _ => hc).1)
        (holds_initial prior) h
    obtain ⟨k', hlink, hsame⟩ := hholds.marked hrequest name k content (links_eq_some.mpr hentry) hcontent
      hmarker file hfile
    exact ⟨k', links_eq_some.mp hlink, hsame⟩

end Order

/-! ## Two publishers -/

section Sample

instance [DecidableEq ι] (site : PublishSite R1ArtifactName) (applied : Bool)
    (m : Mine ι R1ArtifactName (R1Content P)) : Decidable (Harmless site applied m) :=
  match site with
  | .link _ => inferInstanceAs (Decidable (applied = false))
  | .unlink name => inferInstanceAs (Decidable (applied = true ∧ ∀ name', name' ≠ name → m.links name' = none))
  | .exists _ => inferInstanceAs (Decidable (∀ name, m.links name = none))
  | .create _ => inferInstanceAs (Decidable (∀ name, m.links name = none))
  | .write _ => inferInstanceAs (Decidable (∀ name, m.links name = none))
  | .close _ => inferInstanceAs (Decidable (∀ name, m.links name = none))
  | .stat _ => inferInstanceAs (Decidable (∀ name, m.links name = none))
  | .lstat _ => inferInstanceAs (Decidable (∀ name, m.links name = none))
  | .unlinkStaged _ => inferInstanceAs (Decidable (∀ name, m.links name = none))

instance [DecidableEq ι] (files : List (R1File P)) (site : PublishSite R1ArtifactName)
    (d : OutputDirectory ι R1ArtifactName (R1Content P)) : Decidable (MarkerLast IsMarker files site d) :=
  inferInstanceAs (Decidable (∀ file ∈ files, site = .link file.1 →
    d.entries (.artifact file.1) = none → IsMarker file.2 → (files.map (·.1)).getLast? = some file.1))

instance [DecidableEq ι] (files : List (R1File P)) (i : ι) (site : PublishSite R1ArtifactName)
    (fault : Fault CallError) (d : OutputDirectory ι R1ArtifactName (R1Content P)) :
    Decidable (CleanCall files i site fault d) :=
  inferInstanceAs (Decidable ((fault.applied = true → MarkerLast IsMarker files site d) ∧
    (fault.raises? = true → Harmless site fault.applied (mine i d))))

instance [DecidableEq ι] (env : R1Environment) (i : ι) (fault : Fault CallError)
    (d : OutputDirectory ι R1ArtifactName (R1Content P)) (state : R1PublisherState ι P) :
    Decidable (CleanAdvance env i fault d state) :=
  match state with
  | .idle => inferInstanceAs (Decidable True)
  | .running request rest =>
    inferInstanceAs (Decidable (∀ site ∈ rest.site?, CleanCall (request.files env) i site fault d))
  | .killed _ => inferInstanceAs (Decidable True)

instance [DecidableEq ι] (env : R1Environment) (s : R1Publishers ι P) (x : R1PublisherStep ι P) :
    Decidable (CleanStep env s x) :=
  match x with
  | .start _ _ => inferInstanceAs (Decidable True)
  | .advance i fault => inferInstanceAs (Decidable (CleanAdvance env i fault s.directory (s.publishers i)))

/-- Digests that spell nothing. -/
def sampleEnvironment : R1Environment where
  casefold s := s
  uuid5 _ := ""
  evidenceSha256 _ := String.ofList (List.replicate 64 '0')
  errorText _ := ""

/-- An Evidence publication of a Run without Events. -/
def sampleRequest (collectionProvenance : Option Unit) : R1Request Unit :=
  .evidence { events := [], runId := "RUN-20260101-001", collectionProvenance }

/-- The next calls of a publisher, without a fault. -/
def advances (i : Fin 2) (n : Nat) : List (R1PublisherStep (Fin 2) Unit) :=
  List.replicate n (.advance i .none)

/-- Two publishers stage their files, one links first, and the other rolls back. -/
def racingRun : List (R1PublisherStep (Fin 2) Unit) :=
  [.start 0 (sampleRequest none), .start 1 (sampleRequest none)] ++ advances 1 8 ++ advances 0 12 ++
    advances 1 6

theorem publishedInOrder_of_clean_racing :
    Meets (step sampleEnvironment) (CleanStep sampleEnvironment) (initial fun _ => none) racingRun ∧
      PublishedInOrder sampleEnvironment (fun _ => none) racingRun := by
  have hclean : Meets (step sampleEnvironment) (CleanStep sampleEnvironment) (initial fun _ => none)
      racingRun := by
    decide +kernel
  exact ⟨hclean, publishedInOrder_of_clean hclean⟩

/-- A publisher of Evidence with a collection provenance is killed behind the link of its
summary. -/
def killedRun : List (R1PublisherStep (Fin 2) Unit) :=
  [.start 0 (sampleRequest (some ()))] ++ advances 0 13 ++ [.advance 0 (.crash true)]

/-- The completed summary is visible, and the collection provenance is not. -/
theorem publishedInOrder_fails : ¬ PublishedInOrder sampleEnvironment (fun _ => none) killedRun := by
  intro h
  have hrequest : ((afterSteps sampleEnvironment (fun _ => none) killedRun).publishers 0).request? =
      some (sampleRequest (some ())) := rfl
  have hentry : (afterSteps sampleEnvironment (fun _ => none) killedRun).directory.entries
      (.artifact .extractionSummary) = some (.staged 0 1) := by
    decide +kernel
  have hprovenance : (afterSteps sampleEnvironment (fun _ => none) killedRun).directory.entries
      (.artifact .collectionProvenance) = none := by
    decide +kernel
  have hmarker : ((afterSteps sampleEnvironment (fun _ => none)
      killedRun).directory.contents (.staged 0 1)).any (·.isCompletedSummary) = true := by
    decide +kernel
  obtain ⟨content, hcontent, hmarker⟩ := (Option.any_eq_true ..).mp hmarker
  have hfile : (.collectionProvenance, .collectionProvenance ()) ∈
      (sampleRequest (some ())).files sampleEnvironment := by
    decide +kernel
  obtain ⟨k, hlink, -⟩ := h.complete 0 _ hrequest _ 1 content hentry hcontent hmarker _ hfile
  rw [hprovenance] at hlink
  cases hlink

end Sample

end R1Publishers

end IncidentAwareness.Artifacts
