import IncidentAwareness.Artifacts.PublishFiles
import Mathlib.Data.List.Nodup

/-!
# What a publication keeps

What a directory holds of a publisher (`Mine`) is changed by nobody else, so every
assertion about it is kept by the others. `sat_publishFiles`: whatever the others do, no
file that is visible is changed or taken by another, and, if every exception is harmless
and a marker is linked last, a marker is only visible with all files of its publication,
and a publication that raised has no link left.
-/

namespace IncidentAwareness.Artifacts

open IncidentAwareness.Common IncidentAwareness.Lib

variable {ι N C α β : Type}

/-! ## The files of one publisher -/

/-- What a directory holds of a publisher: the numbers of its files under the artifact
names, its temporaries, and the contents of its files. -/
structure Mine (ι N C : Type) where
  links : N → Option Nat
  staged : Nat → Option (ArtifactFile ι N)
  contents : Nat → Option C

/-- The number of a file of a publisher. -/
def ArtifactFile.indexOf [DecidableEq ι] (i : ι) : ArtifactFile ι N → Option Nat
  | .prior _ => none
  | .staged j k => if j = i then some k else none

section Mine

variable [DecidableEq ι] {i j : ι} {d d' : OutputDirectory ι N C} {name : N} {index : Nat}

/-- What a directory holds of a publisher. -/
def mine (i : ι) (d : OutputDirectory ι N C) : Mine ι N C where
  links name := (d.entries (.artifact name)).bind (·.indexOf i)
  staged index := d.entries (.temporary i index)
  contents index := d.contents (.staged i index)

theorem indexOf_eq_some {file : ArtifactFile ι N} : file.indexOf i = some index ↔ file = .staged i index := by
  cases file with
  | prior name => simp [ArtifactFile.indexOf]
  | staged j k =>
    by_cases hj : j = i
    · simp [ArtifactFile.indexOf, hj]
    · simp [ArtifactFile.indexOf, hj]

theorem links_eq_some :
    (mine i d).links name = some index ↔ d.entries (.artifact name) = some (.staged i index) := by
  rw [mine, Option.bind_eq_some_iff]
  simp only [indexOf_eq_some, exists_eq_right]

theorem links_of_free (h : d.entries (.artifact name) = none) : (mine i d).links name = none := by
  show (d.entries (.artifact name)).bind _ = none
  rw [h]
  rfl

/-- The same directory, as far as a publisher sees it. -/
theorem mine_congr (hlinks : ∀ name, d'.entries (.artifact name) = d.entries (.artifact name))
    (hstaged : ∀ k, d'.entries (.temporary i k) = d.entries (.temporary i k))
    (hcontents : ∀ k, d'.contents (.staged i k) = d.contents (.staged i k)) : mine i d' = mine i d := by
  simp only [mine, hlinks, hstaged, hcontents]

variable [DecidableEq N]

theorem mine_create_other (hj : j ≠ i) :
    mine j (d.create (.temporary i index) (.staged i index)) = mine j d := by
  refine mine_congr (fun name => ?_) (fun k => ?_) fun k => ?_
  · simp
  · simp [hj]
  · simp [hj]

theorem mine_fill_other (hj : j ≠ i) {content : C} :
    mine j (d.fill (.staged i index) content) = mine j d := by
  refine mine_congr (fun name => ?_) (fun k => ?_) fun k => ?_
  · simp
  · simp
  · simp [hj]

theorem mine_unlink_other (hj : j ≠ i) (h : (mine i d).links name = some index) :
    mine j (d.unlink (.artifact name)) = mine j d := by
  have hentry := links_eq_some.mp h
  have hfile : (ArtifactFile.staged i index : ArtifactFile ι N).indexOf j = none := if_neg hj.symm
  simp only [mine, Links.entries_unlink, Links.contents_unlink, Mine.mk.injEq]
  refine ⟨funext fun name' => ?_, funext fun k => ?_, trivial⟩
  · by_cases hname : name' = name
    · rw [hname, if_pos rfl, hentry]
      exact hfile.symm
    · rw [if_neg fun h => hname (ArtifactPath.artifact.inj h)]
  · rw [if_neg fun h => by cases h]

theorem mine_unlinkStaged_other (hj : j ≠ i) :
    mine j (d.unlink (.temporary i index)) = mine j d := by
  refine mine_congr (fun name => ?_) (fun k => ?_) fun k => ?_
  · simp
  · simp [hj]
  · simp

/-- A link that was made, as publishers see it. -/
theorem mine_link (h : d.link (.temporary i index) (.artifact name) = .ok d')
    (hstaged : (mine i d).staged index = some (.staged i index)) :
    (mine i d).links name = none ∧ (∀ j, j ≠ i → mine j d' = mine j d) ∧
      mine i d' = { mine i d with links := Function.update (mine i d).links name (some index) } := by
  obtain ⟨hfree, hcontents, file, hsource, hentries⟩ := Links.link_eq_ok h
  obtain rfl : file = .staged i index := Option.some.inj (hsource.symm.trans hstaged)
  refine ⟨links_of_free hfree, fun j hj => ?_, ?_⟩
  · have hfile : (ArtifactFile.staged i index : ArtifactFile ι N).indexOf j = none := if_neg hj.symm
    simp only [mine, hcontents, hentries, Mine.mk.injEq]
    refine ⟨funext fun name' => ?_, funext fun k => ?_, trivial⟩
    · by_cases hname : name' = name
      · rw [hname, if_pos rfl, hfree]
        exact hfile
      · rw [if_neg fun h => hname (ArtifactPath.artifact.inj h)]
    · rw [if_neg fun h => by cases h]
  · have hfile : (ArtifactFile.staged i index : ArtifactFile ι N).indexOf i = some index := if_pos rfl
    simp only [mine, hcontents, hentries, Mine.mk.injEq]
    refine ⟨funext fun name' => ?_, funext fun k => ?_, trivial⟩
    · by_cases hname : name' = name
      · rw [hname, if_pos rfl, Function.update_self]
        exact hfile
      · rw [if_neg fun h => hname (ArtifactPath.artifact.inj h), Function.update_of_ne hname]
    · rw [if_neg fun h => by cases h]

end Mine

/-! ## The protocol -/

/-- No link of a publisher is in the directory. -/
def Mine.Unlinked (m : Mine ι N C) : Prop := ∀ name, m.links name = none

/-- No marker of a publisher is visible. -/
def Mine.Unmarked (marker : C → Prop) (m : Mine ι N C) : Prop :=
  ∀ name k content, m.links name = some k → m.contents k = some content → ¬ marker content

/-- A marker is only visible with all files of its publication. -/
def Mine.Marked (marker : C → Prop) (files : List (N × C)) (m : Mine ι N C) : Prop :=
  ∀ name k content, m.links name = some k → m.contents k = some content → marker content →
    ∀ file ∈ files, ∃ k, m.links file.1 = some k ∧ m.contents k = some file.2

theorem Mine.Unlinked.unmarked {marker : C → Prop} {m : Mine ι N C} (h : m.Unlinked) :
    m.Unmarked marker := by
  intro name k content hlink
  rw [h name] at hlink
  cases hlink

theorem Mine.Unmarked.marked {marker : C → Prop} {files : List (N × C)} {m : Mine ι N C}
    (h : m.Unmarked marker) : m.Marked marker files :=
  fun name k content hlink hcontent hmarker => absurd hmarker (h name k content hlink hcontent)

/-- An exception that leaves no link behind: of a link that was not made, of the removal
of the last link, or while there is no link. -/
def Harmless : PublishSite N → Bool → Mine ι N C → Prop
  | .link _, applied, _ => applied = false
  | .unlink name, applied, m => applied = true ∧ ∀ name', name' ≠ name → m.links name' = none
  | _, _, m => m.Unlinked

/-- What a call guarantees: the others keep what is theirs, and a visible file stays as it
is unless its own publisher removes it. -/
structure Guarded [DecidableEq ι] (i : ι) (site : PublishSite N) (d d' : OutputDirectory ι N C) : Prop where
  others : ∀ j, j ≠ i → mine j d' = mine j d
  kept : ∀ name file, d.entries (.artifact name) = some file →
    d'.entries (.artifact name) = some file ∧ d'.contents file = d.contents file ∨
      d'.entries (.artifact name) = none ∧ site = .unlink name ∧ ∃ k, file = .staged i k

/-- A link that makes a marker visible is the last of its publication. -/
def MarkerLast (marker : C → Prop) (files : List (N × C)) (site : PublishSite N)
    (d : OutputDirectory ι N C) : Prop :=
  ∀ file ∈ files, site = .link file.1 → d.entries (.artifact file.1) = none → marker file.2 →
    (files.map (·.1)).getLast? = some file.1

section Protocol

variable [DecidableEq ι] (i : ι) (marker : C → Prop) (files : List (N × C)) (strict : Prop)

/-- A publisher relies on the others to keep what is its own. -/
def publisherProtocol : Protocol (PublishSite N) (OutputDirectory ι N C) where
  rely d d' := mine i d' = mine i d
  guarantee site d d' := Guarded i site d d' ∧ (strict → (mine i d').Marked marker files)
  proviso site d := strict → MarkerLast marker files site d
  interruptible site applied d := strict → Harmless site applied (mine i d)
  refl _ := rfl
  trans h h' := h'.trans h

end Protocol

section Calls

variable [DecidableEq ι] {i : ι} {marker : C → Prop} {files : List (N × C)} {strict : Prop}
  {d d' : OutputDirectory ι N C} {site : PublishSite N}

/-- An assertion about what is one's own is kept by the others. -/
theorem stable_mine (P : Mine ι N C → Prop) :
    (publisherProtocol i marker files strict).Stable fun d => P (mine i d) := by
  intro d d' h hr
  have hmine : mine i d' = mine i d := hr
  rwa [hmine]

theorem guarded_refl : Guarded i site d d := ⟨fun _ _ => rfl, fun _ _ h => .inl ⟨h, rfl⟩⟩

/-- A call from an assertion about what is one's own. -/
theorem sat_mine {P : Mine ι N C → Prop} {Q : Except ArtifactError α → Mine ι N C → Prop}
    {body : OutputDirectory ι N C → Option (Except ArtifactError α × OutputDirectory ι N C)}
    (hfault : ∀ m e, P m → (strict → Harmless site false m) → Q (.error e) m)
    (hbody : ∀ d r d', P (mine i d) → (publisherProtocol i marker files strict).proviso site d →
      body d = some (r, d') →
      (Guarded i site d d' ∧ (strict → (mine i d').Marked marker files)) ∧ Q r (mine i d') ∧
        ∀ e, (strict → Harmless site true (mine i d)) → Q (.error e) (mine i d'))
    (h : P (mine i d)) :
    Sat (publisherProtocol i marker files strict) (fun r d => Q r (mine i d)) (.request site body) d :=
  sat_request (stable_mine P) (fun r => stable_mine (Q r)) (fun _ e hp hi => hfault _ e hp hi) hbody h

theorem sat_return {Q : Except ArtifactError α → Mine ι N C → Prop} {r : Except ArtifactError α}
    (h : Q r (mine i d)) :
    Sat (publisherProtocol i marker files strict) (fun r d => Q r (mine i d)) (.done r) d :=
  sat_done (stable_mine (Q r)) h

/-- A call that leaves the directory as it is. -/
theorem sat_reads {P : Mine ι N C → Prop} {Q : Except ArtifactError α → Mine ι N C → Prop}
    {body : OutputDirectory ι N C → Option (Except ArtifactError α × OutputDirectory ι N C)}
    (hmarked : ∀ m, P m → strict → m.Marked marker files)
    (hfault : ∀ m e applied, P m → (strict → Harmless site applied m) → Q (.error e) m)
    (hbody : ∀ d r d', P (mine i d) → body d = some (r, d') → d' = d ∧ Q r (mine i d))
    (h : P (mine i d)) :
    Sat (publisherProtocol i marker files strict) (fun r d => Q r (mine i d)) (.request site body) d := by
  refine sat_mine (fun m e => hfault m e false) (fun d r d' hp _ hb => ?_) h
  obtain ⟨rfl, hq⟩ := hbody d r d' hp hb
  exact ⟨⟨guarded_refl, hmarked _ hp⟩, hq, fun e hi => hfault _ e true hp hi⟩

/-- A part that returns, with what it returned. -/
def Gives (A : α → Mine ι N C → Prop) (r : Except ArtifactError α) (m : Mine ι N C) : Prop :=
  ∃ a, r = .ok a ∧ A a m

omit [DecidableEq ι] in
theorem gives_ok {A : α → Mine ι N C → Prop} {a : α} {m : Mine ι N C} (h : A a m) :
    Gives A (.ok a) m := ⟨a, rfl, h⟩

theorem sat_gives {A : α → Mine ι N C → Prop} {Q : Except ArtifactError β → Mine ι N C → Prop}
    {p : Publisher ι N C α} {f : α → Publisher ι N C β}
    (h : Sat (publisherProtocol i marker files strict) (fun r d => Gives A r (mine i d)) p d)
    (hf : ∀ a d, A a (mine i d) →
      Sat (publisherProtocol i marker files strict) (fun r d => Q r (mine i d)) (f a) d) :
    Sat (publisherProtocol i marker files strict) (fun r d => Q r (mine i d)) (p >>= f) d := by
  refine sat_bind h (fun a d h => ?_) fun e d h => ?_
  · obtain ⟨b, hb, ha⟩ := h
    obtain rfl := Except.ok.inj hb
    exact hf _ d ha
  · obtain ⟨b, hb, -⟩ := h
    cases hb

end Calls

/-! ## Staging -/

/-- The first files are staged, and nothing is linked. -/
structure Staging (i : ι) (files : List (N × C)) (staged : Nat) (m : Mine ι N C) : Prop where
  temporaries : ∀ k < staged, m.staged k = some (.staged i k)
  contents : ∀ k < staged, m.contents k = files[k]?.map (·.2)
  unlinked : m.Unlinked

/-- How a turn of the first loop ends. -/
def TurnEnds (i : ι) (files : List (N × C)) (staged : Nat) (x : Bool × Except ArtifactError Unit)
    (m : Mine ι N C) : Prop :=
  m.Unlinked ∧ (x.2 = .ok () → x.1 = true ∧ Staging i files (staged + 1) m)

/-- How the first loop ends. -/
def LoopEnds (i : ι) (files : List (N × C)) (x : Nat × Except ArtifactError Unit) (m : Mine ι N C) : Prop :=
  m.Unlinked ∧ (x.2 = .ok () → x.1 = files.length ∧ Staging i files files.length m)

section Staging

variable [DecidableEq ι] [DecidableEq N] {i : ι} {marker : C → Prop} {files : List (N × C)}
  {strict : Prop} {d : OutputDirectory ι N C} {staged : Nat} {file : N × C}

/-- A new temporary is nobody's link. -/
theorem guarded_create {site : PublishSite N} (h : (mine i d).Unlinked) :
    Guarded i site d (d.create (.temporary i staged) (.staged i staged)) where
  others _ hj := mine_create_other hj
  kept name file hentry := by
    have hne : file ≠ .staged i staged := by
      rintro rfl
      have hlink := links_eq_some.mpr hentry
      rw [h name] at hlink
      cases hlink
    refine .inl ⟨?_, ?_⟩
    · simpa using hentry
    · simp [hne]

theorem guarded_fill {site : PublishSite N} {content : C} (h : (mine i d).Unlinked) :
    Guarded i site d (d.fill (.staged i staged) content) where
  others _ hj := mine_fill_other hj
  kept name file hentry := by
    have hne : file ≠ .staged i staged := by
      rintro rfl
      have hlink := links_eq_some.mpr hentry
      rw [h name] at hlink
      cases hlink
    refine .inl ⟨?_, ?_⟩
    · simpa using hentry
    · simp [hne]

theorem mine_create :
    mine i (d.create (.temporary i staged) (.staged i staged)) =
      ⟨(mine i d).links, Function.update (mine i d).staged staged (some (.staged i staged)),
        Function.update (mine i d).contents staged none⟩ := by
  simp only [mine, Mine.mk.injEq]
  refine ⟨funext fun name => ?_, funext fun k => ?_, funext fun k => ?_⟩
  · simp
  · simp [Function.update_apply]
  · simp [Function.update_apply]

theorem mine_fill {content : C} :
    mine i (d.fill (.staged i staged) content) =
      { mine i d with contents := Function.update (mine i d).contents staged (some content) } := by
  simp only [mine, Mine.mk.injEq]
  refine ⟨rfl, rfl, funext fun k => ?_⟩
  simp [Function.update_apply]

omit [DecidableEq ι] [DecidableEq N] in
theorem Staging.marked {m : Mine ι N C} (h : Staging i files staged m) : m.Marked marker files :=
  h.unlinked.unmarked.marked

theorem sat_createTemporary (h : Staging i files staged (mine i d)) {name : N} :
    Sat (publisherProtocol i marker files strict)
      (fun r d => Staging i files staged (mine i d) ∧
        (r = .ok () → (mine i d).staged staged = some (.staged i staged)))
      (createTemporary i staged name) d := by
  refine sat_mine (Q := fun r m => Staging i files staged m ∧
    (r = .ok () → m.staged staged = some (.staged i staged)))
    (fun m e hp _ => ⟨hp, fun h => by cases h⟩) (fun d r d' hp _ hb => ?_) h
  obtain ⟨rfl, rfl⟩ := Prod.mk.inj (Option.some.inj hb)
  have hstaging : Staging i files staged (mine i (d.create (.temporary i staged) (.staged i staged))) := by
    rw [mine_create]
    refine ⟨fun k hk => ?_, fun k hk => ?_, hp.unlinked⟩
    · show Function.update _ _ _ k = _
      rw [Function.update_of_ne (Nat.ne_of_lt hk), hp.temporaries k hk]
    · show Function.update _ _ _ k = _
      rw [Function.update_of_ne (Nat.ne_of_lt hk), hp.contents k hk]
  refine ⟨⟨guarded_create hp.unlinked, fun _ => hstaging.marked⟩, ⟨hstaging, fun _ => ?_⟩,
    fun e _ => ⟨hstaging, fun h => by cases h⟩⟩
  rw [mine_create]
  exact Function.update_self ..

omit [DecidableEq N] in
theorem sat_writeTemporary {P : Mine ι N C → Prop} (hP : ∀ m, P m → Staging i files staged m)
    (h : P (mine i d)) {name : N} :
    Sat (publisherProtocol i marker files strict) (fun _ d => P (mine i d)) (writeTemporary name) d :=
  sat_reads (Q := fun _ => P) (fun m hp _ => (hP m hp).marked) (fun _ _ _ hp _ => hp)
    (fun _ _ _ hp hb => ⟨(Prod.mk.inj (Option.some.inj hb)).2.symm, hp⟩) h

theorem sat_closeTemporary (hfile : files[staged]? = some file)
    (h : Staging i files staged (mine i d) ∧ (mine i d).staged staged = some (.staged i staged)) :
    Sat (publisherProtocol i marker files strict)
      (fun r d => (mine i d).Unlinked ∧ (r = .ok () → Staging i files (staged + 1) (mine i d)))
      (closeTemporary i staged file.1 file.2) d := by
  refine sat_mine (P := fun m => Staging i files staged m ∧ m.staged staged = some (.staged i staged))
    (Q := fun r m => m.Unlinked ∧ (r = .ok () → Staging i files (staged + 1) m))
    (fun m e hp _ => ⟨hp.1.unlinked, fun h => by cases h⟩) (fun d r d' hp _ hb => ?_) h
  obtain ⟨rfl, rfl⟩ := Prod.mk.inj (Option.some.inj hb)
  have hstaging : Staging i files (staged + 1) (mine i (d.fill (.staged i staged) file.2)) := by
    rw [mine_fill]
    refine ⟨fun k hk => ?_, fun k hk => ?_, hp.1.unlinked⟩
    · rcases Nat.lt_succ_iff_lt_or_eq.mp hk with hk | rfl
      · exact hp.1.temporaries k hk
      · exact hp.2
    · show Function.update _ _ _ k = _
      rcases Nat.lt_succ_iff_lt_or_eq.mp hk with hk | rfl
      · rw [Function.update_of_ne (Nat.ne_of_lt hk), hp.1.contents k hk]
      · rw [Function.update_self, hfile]
        rfl
  exact ⟨⟨guarded_fill hp.1.unlinked, fun _ => hstaging.marked⟩, ⟨hstaging.unlinked, fun _ => hstaging⟩,
    fun e _ => ⟨hstaging.unlinked, fun h => by cases h⟩⟩

/-- One file is staged. -/
theorem sat_stageFile (hfile : files[staged]? = some file) (h : Staging i files staged (mine i d)) :
    Sat (publisherProtocol i marker files strict)
      (fun r d => Gives (TurnEnds i files staged) r (mine i d)) (stageFile i staged file) d := by
  refine sat_attempt (Q := fun r d => Staging i files staged (mine i d) ∧
    (r = .ok () → (mine i d).staged staged = some (.staged i staged))) ?_ fun r d h => ?_
  · refine sat_bind (sat_createTemporary h) (fun _ d h => ?_) fun e d h => ?_
    · refine sat_mono (fun r d h => ⟨h.1, fun _ => h.2⟩)
        (sat_writeTemporary (P := fun m => Staging i files staged m ∧
          m.staged staged = some (.staged i staged)) (fun m hm => hm.1) ⟨h.1, h.2 rfl⟩)
    · exact sat_return (Q := fun r m => Staging i files staged m ∧
        (r = .ok () → m.staged staged = some (.staged i staged))) ⟨h.1, fun h => by cases h⟩
  · cases r with
    | error e => exact sat_return (gives_ok ⟨h.1.unlinked, fun h => by cases h⟩)
    | ok u =>
      refine sat_attempt (sat_closeTemporary hfile ⟨h.1, h.2 rfl⟩) fun r d h => ?_
      exact sat_return (gives_ok ⟨h.1, fun hr => ⟨rfl, h.2 hr⟩⟩)

/-- The first loop, by induction on the files that are left. -/
theorem sat_stageFiles {rest : List (N × C)} (hrest : files.drop staged = rest)
    (h : Staging i files staged (mine i d)) (hstaged : staged ≤ files.length) :
    Sat (publisherProtocol i marker files strict)
      (fun r d => Gives (LoopEnds i files) r (mine i d)) (stageFiles i rest staged) d := by
  induction rest generalizing staged d with
  | nil =>
    have hlength : staged = files.length := by
      have := List.drop_eq_nil_iff.mp hrest
      omega
    subst hlength
    exact sat_return (gives_ok ⟨h.unlinked, fun _ => ⟨rfl, h⟩⟩)
  | cons file rest ih =>
    have hfile : files[staged]? = some file := by
      rw [← List.head?_drop, hrest]
      rfl
    have htail : files.drop (staged + 1) = rest := by
      rw [← List.tail_drop, hrest]
      rfl
    have hlt : staged < files.length := (List.getElem?_eq_some_iff.mp hfile).1
    refine sat_gives (sat_stageFile hfile h) fun x d hx => ?_
    obtain ⟨b, r⟩ := x
    obtain ⟨hunlinked, hok⟩ := hx
    cases b with
    | false => exact sat_return (gives_ok ⟨hunlinked, fun hr => by cases (hok hr).1⟩)
    | true =>
      cases r with
      | error e => exact sat_return (gives_ok ⟨hunlinked, fun h => by cases h⟩)
      | ok u => exact ih htail (hok rfl).2 hlt

end Staging

/-! ## Linking -/

/-- The first names are linked: `pre` of the names of the files. -/
structure Linking (i : ι) (marker : C → Prop) (files : List (N × C)) (strict : Prop) (pre : List N)
    (m : Mine ι N C) : Prop where
  temporaries : ∀ k < files.length, m.staged k = some (.staged i k)
  contents : ∀ k < files.length, m.contents k = files[k]?.map (·.2)
  published : ∀ name k, pre[k]? = some name → m.links name = some k
  linked : strict → ∀ name k, m.links name = some k → pre[k]? = some name
  marked : strict → m.Marked marker files

/-- How the second loop ends: with all names linked, or with a link that was refused. -/
def LinksEnd (i : ι) (marker : C → Prop) (files : List (N × C)) (strict : Prop)
    (x : List (N × Nat) × Except ArtifactError Unit) (m : Mine ι N C) : Prop :=
  ∃ pre post, files.map (·.1) = pre ++ post ∧ x.1 = pre.zipIdx ∧
    Linking i marker files strict pre m ∧ (strict → ∀ e, x.2 = .error e → m.Unmarked marker)

section Linking

variable [DecidableEq ι] [DecidableEq N] {i : ι} {marker : C → Prop} {files : List (N × C)}
  {strict : Prop} {d : OutputDirectory ι N C} {pre post : List N} {name : N} {m : Mine ι N C}

omit [DecidableEq ι] [DecidableEq N] in
/-- The file of a name in the list of names. -/
theorem exists_file {k : Nat} (h : (files.map (·.1))[k]? = some name) :
    ∃ content, files[k]? = some (name, content) := by
  rw [List.getElem?_map, Option.map_eq_some_iff] at h
  obtain ⟨⟨name', content⟩, hfile, rfl⟩ := h
  exact ⟨content, hfile⟩

omit [DecidableEq ι] [DecidableEq N] in
/-- Before all names are linked no marker is visible. -/
theorem Linking.unmarked (h : Linking i marker files strict pre m) (hs : strict)
    (hnodup : (files.map (·.1)).Nodup) (hnames : files.map (·.1) = pre ++ name :: post) :
    m.Unmarked marker := by
  intro name' k content hlink hcontent hmarker
  have hat : (files.map (·.1))[pre.length]? = some name := by
    rw [hnames, List.getElem?_append_right (Nat.le_refl _), Nat.sub_self]
    rfl
  obtain ⟨c, hfile⟩ := exists_file hat
  obtain ⟨k', hlink', -⟩ := h.marked hs name' k content hlink hcontent hmarker (name, c)
    (List.mem_of_getElem? hfile)
  have hpre : name ∈ pre := List.mem_of_getElem? (h.linked hs name k' hlink')
  rw [hnames] at hnodup
  exact (List.nodup_append.mp hnodup).2.2 name hpre name List.mem_cons_self rfl

omit [DecidableEq ι] in
/-- One more name is linked. -/
theorem Linking.snoc (h : Linking i marker files strict pre m)
    (hnodup : (files.map (·.1)).Nodup) (hnames : files.map (·.1) = pre ++ name :: post)
    (hfree : m.links name = none)
    (hlast : strict → ∀ content, (name, content) ∈ files → marker content →
      (files.map (·.1)).getLast? = some name) :
    Linking i marker files strict (pre ++ [name])
      { m with links := Function.update m.links name (some pre.length) } := by
  have hpublished : ∀ name' k, (pre ++ [name])[k]? = some name' →
      Function.update m.links name (some pre.length) name' = some k := by
    intro name' k hk
    rcases Nat.lt_or_ge k pre.length with hlt | hge
    · rw [List.getElem?_append_left hlt] at hk
      have hne : name' ≠ name := by
        rintro rfl
        rw [h.published _ _ hk] at hfree
        cases hfree
      rw [Function.update_of_ne hne, h.published _ _ hk]
    · rw [List.getElem?_append_right hge, List.getElem?_singleton] at hk
      split at hk
      · next hzero =>
        obtain rfl := Option.some.inj hk
        rw [Function.update_self, show k = pre.length by omega]
      · cases hk
  have hlinked : strict → ∀ name' k, Function.update m.links name (some pre.length) name' = some k →
      (pre ++ [name])[k]? = some name' := by
    intro hs name' k hk
    by_cases hname : name' = name
    · rw [hname, Function.update_self] at hk
      rw [← Option.some.inj hk, hname, List.getElem?_append_right (Nat.le_refl _), Nat.sub_self]
      rfl
    · rw [Function.update_of_ne hname] at hk
      have hat := h.linked hs _ _ hk
      rw [List.getElem?_append_left (List.getElem?_eq_some_iff.mp hat).1, hat]
  refine ⟨h.temporaries, h.contents, hpublished, hlinked, fun hs => ?_⟩
  intro name' k content hlink hcontent hmarker
  -- the marker is the name that was linked, for no marker was visible before
  have hname : name' = name := by
    by_contra hne
    have hold : m.links name' = some k := by
      rw [← hlink]
      exact (Function.update_of_ne hne ..).symm
    exact h.unmarked hs hnodup hnames name' k content hold hcontent hmarker
  obtain rfl := hname
  obtain rfl : pre.length = k := by
    have hself : Function.update m.links name' (some pre.length) name' = some k := hlink
    rw [Function.update_self] at hself
    exact Option.some.inj hself
  have hat : (files.map (·.1))[pre.length]? = some name' := by
    rw [hnames, List.getElem?_append_right (Nat.le_refl _), Nat.sub_self]
    rfl
  obtain ⟨c, hfile⟩ := exists_file hat
  have hlt : pre.length < files.length := (List.getElem?_eq_some_iff.mp hfile).1
  obtain rfl : c = content := by
    have hc := h.contents _ hlt
    rw [hfile] at hc
    exact Option.some.inj (hc.symm.trans hcontent)
  have hpost : post = [] := by
    have hend := hlast hs c (List.mem_of_getElem? hfile) hmarker
    rw [hnames] at hend hnodup
    cases post with
    | nil => rfl
    | cons a post =>
      have hmem : name' ∈ a :: post := by
        rw [List.getLast?_append, List.getLast?_cons_cons] at hend
        refine List.mem_of_getLast? (l := a :: post) ?_
        rw [List.getLast?_eq_some_getLast (List.cons_ne_nil a post)] at hend ⊢
        exact hend
      exact absurd hmem (List.nodup_cons.mp (List.nodup_append.mp hnodup).2.1).1
  intro file hmem
  obtain ⟨k, hk, rfl⟩ := List.mem_iff_getElem.mp hmem
  refine ⟨k, hpublished _ _ ?_, ?_⟩
  · rw [← hpost, ← hnames, List.getElem?_map, List.getElem?_eq_getElem hk]
    rfl
  · rw [h.contents k hk, List.getElem?_eq_getElem hk]
    rfl

/-- A link takes a name that is free. -/
theorem guarded_link {d' : OutputDirectory ι N C} {k : Nat} {site : PublishSite N}
    (h : d.link (.temporary i k) (.artifact name) = .ok d')
    (hstaged : (mine i d).staged k = some (.staged i k)) : Guarded i site d d' where
  others := (mine_link h hstaged).2.1
  kept name' file hentry := by
    obtain ⟨hfree, hcontents, file', -, hentries⟩ := Links.link_eq_ok h
    have hne : ArtifactPath.artifact name' ≠ (ArtifactPath.artifact name : ArtifactPath ι N) := by
      intro hname
      rw [hname, hfree] at hentry
      cases hentry
    refine .inl ⟨?_, by rw [hcontents]⟩
    rw [hentries, if_neg hne, hentry]

theorem sat_osLink (hnodup : (files.map (·.1)).Nodup) (hnames : files.map (·.1) = pre ++ name :: post)
    (h : Linking i marker files strict pre (mine i d)) :
    Sat (publisherProtocol i marker files strict)
      (fun r d => (r = .ok () → Linking i marker files strict (pre ++ [name]) (mine i d)) ∧
        ∀ e, r = .error e → Linking i marker files strict pre (mine i d))
      (osLink i name pre.length) d := by
  have hlt : pre.length < files.length := by
    have := congrArg List.length hnames
    rw [List.length_map, List.length_append, List.length_cons] at this
    omega
  have hkept : ∀ {r : Except ArtifactError Unit} {m : Mine ι N C}, r ≠ .ok () →
      Linking i marker files strict pre m →
      (r = .ok () → Linking i marker files strict (pre ++ [name]) m) ∧
        ∀ e, r = .error e → Linking i marker files strict pre m :=
    fun hr hm => ⟨fun h => absurd h hr, fun _ _ => hm⟩
  refine sat_mine (Q := fun r m => (r = .ok () → Linking i marker files strict (pre ++ [name]) m) ∧
    ∀ e, r = .error e → Linking i marker files strict pre m)
    (fun m e hp _ => hkept (by simp) hp) (fun d r d' hp hproviso hb => ?_) h
  cases hlink : d.link (.temporary i pre.length) (.artifact name) with
  | error e =>
    have hsame : d' = d ∧ r ≠ .ok () := by
      rw [hlink] at hb
      cases e with
      | sourceMissing =>
        obtain ⟨rfl, rfl⟩ := Prod.mk.inj (Option.some.inj hb)
        exact ⟨rfl, by simp⟩
      | targetExists =>
        obtain ⟨rfl, rfl⟩ := Prod.mk.inj (Option.some.inj hb)
        exact ⟨rfl, by simp⟩
    obtain ⟨rfl, hr⟩ := hsame
    exact ⟨⟨guarded_refl, hp.marked⟩, hkept hr hp, fun e _ => hkept (by simp) hp⟩
  | ok d₁ =>
    rw [hlink] at hb
    obtain ⟨rfl, rfl⟩ := Prod.mk.inj (Option.some.inj hb)
    have hstaged := hp.temporaries _ hlt
    obtain ⟨hfree, -, hmine⟩ := mine_link hlink hstaged
    have hentry := (Links.link_eq_ok hlink).1
    have hsnoc := hp.snoc hnodup hnames hfree fun hs content hmem =>
      hproviso hs (name, content) hmem rfl hentry
    rw [← hmine] at hsnoc
    refine ⟨⟨guarded_link hlink hstaged, hsnoc.marked⟩,
      ⟨fun _ => hsnoc, fun e h => by cases h⟩, fun e hi => hkept (by simp) ?_⟩
    -- an exception after the link is no harmless one
    have hstrict : ¬ strict := fun hs => by cases hi hs
    refine ⟨hsnoc.temporaries, hsnoc.contents, fun name' k hk => hsnoc.published name' k ?_,
      fun hs => absurd hs hstrict, fun hs => absurd hs hstrict⟩
    rw [List.getElem?_append_left (List.getElem?_eq_some_iff.mp hk).1, hk]

/-- The second loop, by induction on the names that are left. -/
theorem sat_linkFiles (hnodup : (files.map (·.1)).Nodup) (hnames : files.map (·.1) = pre ++ post)
    (h : Linking i marker files strict pre (mine i d)) :
    Sat (publisherProtocol i marker files strict)
      (fun r d => Gives (LinksEnd i marker files strict) r (mine i d))
      (linkFiles i (post.zipIdx pre.length) pre.zipIdx) d := by
  induction post generalizing pre d with
  | nil => exact sat_return (gives_ok ⟨pre, [], hnames, rfl, h, fun _ _ he => by cases he⟩)
  | cons name post ih =>
    refine sat_attempt (sat_osLink hnodup hnames h) fun r d hr => ?_
    cases r with
    | error e =>
      have hlinking := hr.2 e rfl
      exact sat_return (gives_ok ⟨pre, name :: post, hnames, rfl, hlinking,
        fun hs _ _ => hlinking.unmarked hs hnodup hnames⟩)
    | ok u =>
      have hsnoc := ih (by rw [hnames, List.append_assoc]; rfl) (hr.1 rfl)
      rwa [List.length_append, List.zipIdx_append, Nat.zero_add] at hsnoc

end Linking

/-! ## Rollback -/

/-- The links that are left to remove. -/
structure RollingBack (i : ι) (marker : C → Prop) (strict : Prop) (rest : List (N × Nat))
    (m : Mine ι N C) : Prop where
  temporaries : ∀ target ∈ rest, m.staged target.2 = some (.staged i target.2)
  published : ∀ target ∈ rest, m.links target.1 = some target.2
  names : (rest.map (·.1)).Nodup
  linked : strict → ∀ name k, m.links name = some k → (name, k) ∈ rest
  unmarked : strict → m.Unmarked marker

/-- How a publication ends: an exception leaves no link. -/
def Ended (marker : C → Prop) (files : List (N × C)) (strict : Prop) (r : Except ArtifactError Unit)
    (m : Mine ι N C) : Prop :=
  (strict → m.Marked marker files) ∧ (strict → ∀ e, r = .error e → m.Unlinked)

/-- How the loops of a publication end. -/
def LoopsEnd (i : ι) (marker : C → Prop) (files : List (N × C)) (strict : Prop)
    (x : Nat × List (N × Nat) × Except ArtifactError Unit) (m : Mine ι N C) : Prop :=
  (x.2.2 = .ok () → strict → m.Marked marker files) ∧
    ∀ e, x.2.2 = .error e → RollingBack i marker strict x.2.1.reverse m

section Rollback

variable {i : ι} {marker : C → Prop} {files : List (N × C)}
  {strict : Prop} {d : OutputDirectory ι N C} {rest : List (N × Nat)} {target : N × Nat}
  {m : Mine ι N C}

/-- What is left once a link is removed. -/
theorem RollingBack.tail [DecidableEq N] (h : RollingBack i marker strict (target :: rest) m) :
    RollingBack i marker strict rest { m with links := Function.update m.links target.1 none } := by
  obtain ⟨hnew, hnames⟩ := List.nodup_cons.mp h.names
  have hother : ∀ target' ∈ rest, target'.1 ≠ target.1 := by
    intro target' hmem hsame
    refine hnew ?_
    show target.1 ∈ rest.map (·.1)
    rw [← hsame]
    exact List.mem_map_of_mem hmem
  refine ⟨fun t ht => h.temporaries t (List.mem_cons_of_mem _ ht), fun t ht => ?_, hnames,
    fun hs name k hk => ?_, fun hs name k content hk => ?_⟩
  · show Function.update _ _ _ _ = _
    rw [Function.update_of_ne (hother t ht), h.published t (List.mem_cons_of_mem _ ht)]
  · have hlink : Function.update m.links target.1 none name = some k := hk
    have hne : name ≠ target.1 := by
      rintro rfl
      rw [Function.update_self] at hlink
      cases hlink
    rw [Function.update_of_ne hne] at hlink
    rcases List.mem_cons.mp (h.linked hs name k hlink) with rfl | hmem
    · exact absurd rfl hne
    · exact hmem
  · have hlink : Function.update m.links target.1 none name = some k := hk
    have hne : name ≠ target.1 := by
      rintro rfl
      rw [Function.update_self] at hlink
      cases hlink
    rw [Function.update_of_ne hne] at hlink
    exact h.unmarked hs name k content hlink

/-- While a link is left, an exception that is harmless strikes nothing but its removal. -/
theorem RollingBack.not_strict (h : RollingBack i marker strict (target :: rest) m)
    (hi : strict → m.Unlinked) : ¬ strict := by
  intro hs
  have hlink := h.published target List.mem_cons_self
  rw [hi hs target.1] at hlink
  cases hlink

theorem RollingBack.weaken (h : RollingBack i marker strict (target :: rest) m) (hs : ¬ strict) :
    RollingBack i marker strict rest m :=
  ⟨fun t ht => h.temporaries t (List.mem_cons_of_mem _ ht),
    fun t ht => h.published t (List.mem_cons_of_mem _ ht), (List.nodup_cons.mp h.names).2,
    fun h => absurd h hs, fun h => absurd h hs⟩

/-- Once a link was tried, it is gone, or an exception that is not harmless left it. -/
def Removed (i : ι) (marker : C → Prop) (strict : Prop) (rest : List (N × Nat))
    (r : Except ArtifactError Unit) (m : Mine ι N C) : Prop :=
  RollingBack i marker strict rest m ∧ (strict → ∀ e, r = .error e → m.Unlinked)

variable [DecidableEq ι]

theorem sat_statPath {site : PublishSite N} {path : ArtifactPath ι N}
    (hsite : ∀ applied m, Harmless site applied (m : Mine ι N C) → m.Unlinked)
    (hpath : ∀ d : OutputDirectory ι N C, RollingBack i marker strict (target :: rest) (mine i d) →
      d.entries path = some (.staged i target.2))
    (h : RollingBack i marker strict (target :: rest) (mine i d)) :
    Sat (publisherProtocol i marker files strict)
      (fun r d => (∀ file, r = .ok file → file = .staged i target.2 ∧
          RollingBack i marker strict (target :: rest) (mine i d)) ∧
        ∀ e, r = .error e → ¬ strict ∧ RollingBack i marker strict rest (mine i d))
      (statPath site path) d := by
  refine sat_reads (Q := fun (r : Except ArtifactError (ArtifactFile ι N)) m =>
    (∀ file, r = .ok file → file = .staged i target.2 ∧
      RollingBack i marker strict (target :: rest) m) ∧
    ∀ e, r = .error e → ¬ strict ∧ RollingBack i marker strict rest m)
    (fun m hp hs => (hp.unmarked hs).marked) (fun m e applied hp hi => ?_) (fun d r d' hp hb => ?_) h
  · have hstrict := hp.not_strict fun hs => hsite applied m (hi hs)
    exact ⟨fun _ h => (by cases h), fun _ _ => ⟨hstrict, hp.weaken hstrict⟩⟩
  · rw [hpath d hp] at hb
    obtain ⟨rfl, rfl⟩ := Prod.mk.inj (Option.some.inj hb)
    refine ⟨rfl, fun file hfile => ⟨?_, hp⟩, fun _ h => by cases h⟩
    exact (Except.ok.inj hfile).symm

variable [DecidableEq N]

theorem guarded_unlink (h : (mine i d).links target.1 = some target.2) :
    Guarded i (.unlink target.1) d (d.unlink (.artifact target.1)) where
  others _ hj := mine_unlink_other hj h
  kept name file hentry := by
    by_cases hname : name = target.1
    · obtain rfl : file = .staged i target.2 := by
        have hown := links_eq_some.mp h
        rw [hname, hown] at hentry
        exact (Option.some.inj hentry).symm
      exact .inr ⟨by simp [hname], by rw [hname], target.2, rfl⟩
    · exact .inl ⟨by simpa [hname] using hentry, rfl⟩

theorem mine_unlink {name : N} :
    mine i (d.unlink (.artifact name)) =
      { mine i d with links := Function.update (mine i d).links name none } := by
  simp only [mine, Mine.mk.injEq]
  refine ⟨funext fun name' => ?_, funext fun k => ?_, rfl⟩
  · by_cases hname : name' = name
    · simp [hname]
    · simp [hname]
  · simp

theorem sat_unlinkTarget (h : RollingBack i marker strict (target :: rest) (mine i d)) :
    Sat (publisherProtocol i marker files strict)
      (fun r d => Removed i marker strict rest r (mine i d)) (unlinkTarget target.1) d := by
  refine sat_mine (P := RollingBack i marker strict (target :: rest)) (Q := Removed i marker strict rest)
    (fun m e hp hi => ?_) (fun d r d' hp _ hb => ?_) h
  · have hstrict : ¬ strict := fun hs => by cases (hi hs).1
    exact ⟨hp.weaken hstrict, fun hs => absurd hs hstrict⟩
  · have hlink := hp.published target List.mem_cons_self
    have hentry := links_eq_some.mp hlink
    rw [hentry] at hb
    obtain ⟨rfl, rfl⟩ := Prod.mk.inj (Option.some.inj hb)
    have htail := hp.tail
    rw [← mine_unlink] at htail
    refine ⟨⟨guarded_unlink hlink, fun hs => (htail.unmarked hs).marked⟩,
      ⟨htail, fun _ _ h => by cases h⟩, fun e hi => ⟨htail, fun hs _ _ name => ?_⟩⟩
    rw [mine_unlink]
    show Function.update (mine i d).links target.1 none name = none
    by_cases hname : name = target.1
    · rw [hname, Function.update_self]
    · rw [Function.update_of_ne hname, (hi hs).2 name hname]

theorem sat_removeOwnLink (h : RollingBack i marker strict (target :: rest) (mine i d)) :
    Sat (publisherProtocol i marker files strict)
      (fun r d => Removed i marker strict rest r (mine i d)) (removeOwnLink i target) d := by
  have herror : ∀ (e : ArtifactError) (d : OutputDirectory ι N C),
      ¬ strict ∧ RollingBack i marker strict rest (mine i d) →
      Sat (publisherProtocol i marker files strict)
        (fun r d => Removed i marker strict rest r (mine i d)) (.done (.error e)) d :=
    fun e d h => sat_return ⟨h.2, fun hs => absurd hs h.1⟩
  refine sat_bind (sat_statPath (fun _ _ h => h) (fun d hp => hp.temporaries target List.mem_cons_self) h)
    (fun source d hsource => ?_) fun e d h => herror e d (h.2 e rfl)
  obtain ⟨rfl, h⟩ := hsource.1 source rfl
  refine sat_bind (sat_statPath (fun _ _ h => h)
      (fun d hp => links_eq_some.mp (hp.published target List.mem_cons_self)) h)
    (fun linked d hlinked => ?_) fun e d h => herror e d (h.2 e rfl)
  obtain ⟨rfl, h⟩ := hlinked.1 linked rfl
  show Sat _ _ (if _ then _ else _) d
  rw [if_pos rfl]
  exact sat_unlinkTarget h

theorem sat_rollBackLink (h : RollingBack i marker strict (target :: rest) (mine i d)) :
    Sat (publisherProtocol i marker files strict)
      (fun r d => Removed i marker strict rest r (mine i d)) (rollBackLink i target) d := by
  refine sat_attempt (sat_removeOwnLink h) fun r d hr => ?_
  have hok : Removed i marker strict rest (.ok ()) (mine i d) := ⟨hr.1, fun _ _ h => by cases h⟩
  cases r with
  | ok u => exact sat_return hr
  | error e =>
    cases e with
    | pyError e => exact sat_return hr
    | extraction e note => exact sat_return hr
    | call e =>
      cases e with
      | fileNotFoundError => exact sat_return hok
      | fileExistsError text => exact sat_return hr
      | osError text => exact sat_return hr
      | baseException text => exact sat_return hr

/-- The links are removed one by one, by induction on those that are left. -/
theorem sat_rollBackLinks (h : RollingBack i marker strict rest (mine i d)) :
    Sat (publisherProtocol i marker files strict)
      (fun _ d => strict → (mine i d).Unlinked) (rest.forM (rollBackLink i)) d := by
  induction rest generalizing d with
  | nil =>
    refine sat_return (Q := fun _ m => strict → m.Unlinked) fun hs name => ?_
    cases hlink : (mine i d).links name with
    | none => rfl
    | some k => exact absurd (h.linked hs name k hlink) List.not_mem_nil
  | cons target rest ih =>
    refine sat_bind (sat_rollBackLink h) (fun _ d hr => ih hr.1) fun e d hr => ?_
    exact sat_return (Q := fun _ m => strict → m.Unlinked) fun hs => hr.2 hs e rfl

/-! ## The publication -/

/-- The `except` of a publication whose loops have ended. -/
theorem sat_rollBack {published : List (N × Nat)} {r : Except ArtifactError Unit}
    (hok : r = .ok () → strict → (mine i d).Marked marker files)
    (herror : ∀ e, r = .error e → RollingBack i marker strict published.reverse (mine i d)) :
    Sat (publisherProtocol i marker files strict)
      (fun r d => Gives (Ended marker files strict) r (mine i d)) (rollBack i published r) d := by
  cases r with
  | ok u => exact sat_return (gives_ok ⟨hok rfl, fun _ _ h => by cases h⟩)
  | error e =>
    refine sat_attempt (sat_rollBackLinks (herror e rfl)) fun r d h => ?_
    have hended : ∀ e : ArtifactError, Ended marker files strict (.error e) (mine i d) :=
      fun _ => ⟨fun hs => (h hs).unmarked.marked, fun hs _ _ => h hs⟩
    cases r with
    | ok u => exact sat_return (gives_ok (hended e))
    | error e' => exact sat_return (gives_ok (hended e'))

omit [DecidableEq ι] [DecidableEq N] in
/-- The links of the second loop, as the rollback finds them. -/
theorem Linking.rollingBack {pre post : List N} (h : Linking i marker files strict pre m)
    (hnodup : (files.map (·.1)).Nodup) (hnames : files.map (·.1) = pre ++ post)
    (hunmarked : strict → m.Unmarked marker) :
    RollingBack i marker strict pre.zipIdx.reverse m := by
  have hat : ∀ target ∈ pre.zipIdx.reverse, pre[target.2]? = some target.1 := fun target ht =>
    List.mem_zipIdx_iff_getElem?.mp (List.mem_reverse.mp ht)
  have hlength : pre.length ≤ files.length := by
    have := congrArg List.length hnames
    rw [List.length_map, List.length_append] at this
    omega
  refine ⟨fun target ht => h.temporaries _ ?_, fun target ht => h.published _ _ (hat target ht), ?_,
    fun hs name k hk => ?_, hunmarked⟩
  · have := (List.getElem?_eq_some_iff.mp (hat target ht)).1
    omega
  · rw [List.map_reverse, List.nodup_reverse]
    show (pre.zipIdx.map Prod.fst).Nodup
    rw [List.zipIdx_map_fst]
    rw [hnames] at hnodup
    exact (List.nodup_append.mp hnodup).1
  · exact List.mem_reverse.mpr (List.mem_zipIdx_iff_getElem?.mpr (h.linked hs name k hk))

theorem sat_stageAndLink (hnodup : (files.map (·.1)).Nodup) (h : (mine i d).Unlinked) :
    Sat (publisherProtocol i marker files strict)
      (fun r d => Gives (LoopsEnd i marker files strict) r (mine i d)) (stageAndLink i files) d := by
  have hnone : Staging i files 0 (mine i d) :=
    ⟨fun k hk => absurd hk (Nat.not_lt_zero k), fun k hk => absurd hk (Nat.not_lt_zero k), h⟩
  refine sat_gives (@sat_stageFiles _ _ _ _ _ _ _ _ _ _ 0 _ rfl hnone (Nat.zero_le _)) fun x d hx => ?_
  obtain ⟨n, r⟩ := x
  obtain ⟨hunlinked, hok⟩ := hx
  cases r with
  | error e =>
    refine sat_return (gives_ok ⟨fun h => (by cases h), fun _ _ => ?_⟩)
    refine ⟨fun _ ht => absurd ht List.not_mem_nil, fun _ ht => absurd ht List.not_mem_nil,
      List.nodup_nil, fun _ name k hk => ?_, fun _ => hunlinked.unmarked⟩
    rw [hunlinked name] at hk
    cases hk
  | ok u =>
    obtain ⟨-, hstaging⟩ := hok rfl
    have hlinking : Linking i marker files strict [] (mine i d) := by
      refine ⟨hstaging.temporaries, hstaging.contents, fun name k hk => ?_, fun _ name k hk => ?_,
        fun _ => hstaging.marked⟩
      · rw [List.getElem?_nil] at hk
        cases hk
      · rw [hunlinked name] at hk
        cases hk
    refine sat_gives (@sat_linkFiles _ _ _ _ _ _ _ _ _ _ [] _ hnodup rfl hlinking) fun x d hx => ?_
    obtain ⟨published, r⟩ := x
    obtain ⟨pre, post, hnames, rfl, hlinking, hunmarked⟩ := hx
    refine sat_return (gives_ok ⟨fun _ => hlinking.marked, fun e he => ?_⟩)
    exact hlinking.rollingBack hnodup hnames fun hs => hunmarked hs e he

theorem sat_unlinkStaged {r : Except ArtifactError Unit} (index : Nat)
    (h : Ended marker files strict r (mine i d)) :
    Sat (publisherProtocol i marker files strict)
      (fun r' d => Ended marker files strict r (mine i d) ∧
        (strict → ∀ e, r' = .error e → (mine i d).Unlinked)) (unlinkStaged i index) d := by
  have hmine : ∀ d : OutputDirectory ι N C, Ended marker files strict r (mine i d) →
      Ended marker files strict r (mine i (d.unlink (.temporary i index))) := by
    intro d h
    have hlinks : (mine i (d.unlink (.temporary i index))).links = (mine i d).links := by
      funext name
      simp [mine]
    have hcontents : (mine i (d.unlink (.temporary i index))).contents = (mine i d).contents := rfl
    refine ⟨fun hs => ?_, fun hs e he name => ?_⟩
    · intro name k content hlink hcontent hmarker
      rw [hlinks, hcontents] at *
      exact h.1 hs name k content hlink hcontent hmarker
    · rw [hlinks]
      exact h.2 hs e he name
  refine sat_mine (Q := fun r' m => Ended marker files strict r m ∧
    (strict → ∀ e, r' = .error e → m.Unlinked)) (fun m e hp hi => ⟨hp, fun hs _ _ => hi hs⟩)
    (fun d r' d' hp _ hb => ?_) h
  obtain ⟨rfl, rfl⟩ := Prod.mk.inj (Option.some.inj hb)
  have hended := hmine d hp
  have hguarded : Guarded i (.unlinkStaged index) d (d.unlink (.temporary i index)) := by
    refine ⟨fun j hj => mine_unlinkStaged_other hj, fun name file hentry => .inl ⟨?_, rfl⟩⟩
    simpa using hentry
  refine ⟨⟨hguarded, hended.1⟩, ⟨hended, fun _ _ h => by cases h⟩, fun e hi => ⟨hended, fun hs _ _ => ?_⟩⟩
  intro name
  have hname := hi hs name
  rw [← hname]
  simp [mine]

/-- Whatever the others do, a publication that raises only harmlessly links its marker with
all its files, and has no link left once it raised. -/
theorem sat_publishFiles (hnodup : (files.map (·.1)).Nodup) (h : (mine i d).Unlinked) :
    Sat (publisherProtocol i marker files strict)
      (fun r d => Ended marker files strict r (mine i d)) (publishFiles i files) d := by
  refine sat_gives (sat_stageAndLink hnodup h) fun x d hx => ?_
  obtain ⟨n, published, r⟩ := x
  refine sat_gives (sat_rollBack hx.1 hx.2) fun r d hr => ?_
  have herror : ∀ (e : ArtifactError) (d : OutputDirectory ι N C), Ended marker files strict r (mine i d) ∧
      (strict → ∀ e', Except.error (ε := ArtifactError) (α := Unit) e = .error e' → (mine i d).Unlinked) →
      Ended marker files strict (.error e) (mine i d) :=
    fun e d h => ⟨h.1.1, fun hs _ _ => h.2 hs e rfl⟩
  have hloop : Sat (publisherProtocol i marker files strict)
      (fun r' d => Ended marker files strict r (mine i d) ∧
        (strict → ∀ e, r' = .error e → (mine i d).Unlinked))
      ((List.range n).forM (unlinkStaged i)) d := by
    refine sat_forM (Q := fun r' d => Ended marker files strict r (mine i d) ∧
        (strict → ∀ e, r' = .error e → (mine i d).Unlinked))
      (stable_mine fun m => Ended marker files strict r m ∧
        (strict → ∀ e, Except.ok (ε := ArtifactError) PUnit.unit = .error e → m.Unlinked))
      (fun e d h => ?_) (fun k _ d h => sat_unlinkStaged k h.1) ⟨hr, fun _ _ h => by cases h⟩
    exact sat_return (Q := fun r' m => Ended marker files strict r m ∧
      (strict → ∀ e, r' = .error e → m.Unlinked)) h
  refine sat_bind hloop (fun _ d h => sat_return (Q := Ended marker files strict) h.1) fun e d h => ?_
  exact sat_return (Q := Ended marker files strict) (herror e d h)

end Rollback

end IncidentAwareness.Artifacts
