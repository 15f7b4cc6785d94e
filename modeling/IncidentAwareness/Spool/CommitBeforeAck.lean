import IncidentAwareness.Spool.ConsumeSpec

/-!
# Commit before ack

The worlds that runs of the consumer reach, each of which may stop at any call: an
ack names a message that the ledger has, a message is accepted once, and a message
that was committed is acknowledged by the next runs (`commitBeforeAck`). It takes
that no dead letter is filed in the outbox or in the place of an ack: a chunk id may
lead there (`commitBeforeAck_fails`).
-/

namespace IncidentAwareness.Spool

open IncidentAwareness.Common IncidentAwareness.Lib IncidentAwareness.Stream
  IncidentAwareness.Position

variable {D : Type}

/-! ## Paths -/

theorem ackPath_ne_outboxPath (spoolRoot : Path) (name name' : String) :
    ackPath spoolRoot name ≠ outboxPath spoolRoot name' := by
  simp [ackPath, outboxPath]

theorem ackPath_inj {spoolRoot : Path} {name name' : String}
    (h : ackPath spoolRoot name = ackPath spoolRoot name') : name = name' := by
  have hname : name ++ ".ack.json" = name' ++ ".ack.json" := by simpa [ackPath] using h
  have hlist := congrArg String.toList hname
  rw [String.toList_append, String.toList_append, List.append_cancel_right_eq] at hlist
  exact String.toList_injective hlist

/-- A file that `glob("*.json")` finds. -/
def IsJson (name : String) : Prop := ".json".toList <:+ name.toList

/-- A stage file is no JSON file. -/
theorem stagePath_ne_json (path dir : Path) (pid : String) {name : String} (h : IsJson name) :
    stagePath path pid ≠ dir ++ [name] := by
  intro heq
  have hlast := congrArg List.getLast? heq
  rw [stagePath, List.getLast?_concat, List.getLast?_concat] at hlast
  obtain ⟨front, hfront⟩ := h
  have hchars := congrArg (fun text : String => text.toList.getLast?) (Option.some.inj hlast)
  have htmp : ∀ text : String, (text ++ ".tmp").toList.getLast? = some 'p' := by
    intro text
    rw [String.toList_append, List.getLast?_append]
    rfl
  have hjson : name.toList.getLast? = some 'n' := by
    rw [← hfront, List.getLast?_append]
    rfl
  exact absurd ((htmp _).symm.trans (hchars.trans hjson)) (by decide)

theorem stagePath_ne_ackPath (spoolRoot path : Path) (pid name : String) :
    stagePath path pid ≠ ackPath spoolRoot name := by
  have hjson : IsJson (name ++ ".ack.json") := by
    rw [IsJson, String.toList_append]
    exact (List.suffix_append ".ack".toList ".json".toList).trans (List.suffix_append _ _)
  have hne := stagePath_ne_json path (spoolRoot ++ ["acks"]) pid hjson
  rwa [List.append_assoc] at hne

theorem dropLast_outboxPath (spoolRoot : Path) (name : String) :
    (outboxPath spoolRoot name).dropLast = spoolRoot ++ ["outbox"] := by
  have hconcat : outboxPath spoolRoot name = (spoolRoot ++ ["outbox"]) ++ [name] := by
    simp [outboxPath]
  rw [hconcat, List.dropLast_concat]

/-! ## The invariant -/

section Invariant

variable (sha256 : CanonicalPayload → D) (fileSha256 : SpoolContent D → D) (spoolRoot : Path)
  (outbox : String → Option (SpoolContent D))

/-- The file has an ack. -/
def World.Acked (s : World D) (name : String) : Prop :=
  (s.files.read (ackPath spoolRoot name)).isSome

/-- An ack that binds the content of its file. -/
structure AckBinds (name : String) (content : SpoolContent D) (ack : DeliveryAck D) : Prop where
  messagePath : ack.messagePath = outboxPath spoolRoot name
  messageSha256 : ack.messageSha256 = fileSha256 content

/-- What every run keeps. -/
structure SpoolInvariant (s : World D) : Prop where
  messages : ∀ name, s.files.read (outboxPath spoolRoot name) = outbox name
  acks : ∀ name content, s.files.read (ackPath spoolRoot name) = some content →
    ∃ ack message layout, content = .ack ack ∧ outbox name = some (.message message layout) ∧
      AckBinds fileSha256 spoolRoot name (.message message layout) ack ∧
      Committed sha256 s.committed message
  commits : ∀ k ∈ s.commits, IsJson k.name ∧
    (∃ layout, outbox k.name = some (.message k.message layout)) ∧
    Committed sha256 s.committed k.message ∧
    ∀ earlier, IsJson earlier → (outbox earlier).isSome → earlier < k.name → s.Acked spoolRoot earlier
  once : ((s.commits.filter (·.disposition = .accepted)).map (·.message)).Nodup

/-- A path where a dead letter is neither a message nor an ack. -/
def Apart (path : Path) : Prop :=
  path.dropLast ≠ spoolRoot ++ ["outbox"] ∧ ∀ name, path ≠ ackPath spoolRoot name

variable {sha256 fileSha256 spoolRoot outbox} {s s' : World D}

/-- Files that are apart from the messages and the acks. -/
theorem Publishes.read_eq {path stage : Path} {data : SpoolContent D}
    {files files' : Files (SpoolContent D)} (h : Publishes path stage data files files') {q : Path}
    (hpath : path ≠ q) (hstage : stage ≠ q) : files'.read q = files.read q :=
  h.other q hpath.symm hstage.symm

/-- The files of the messages and the acks are what counts. -/
theorem SpoolInvariant.congr (h : SpoolInvariant sha256 fileSha256 spoolRoot outbox s)
    (hcommitted : s'.committed = s.committed) (hcommits : s'.commits = s.commits)
    (houtbox : ∀ name, s'.files.read (outboxPath spoolRoot name) =
      s.files.read (outboxPath spoolRoot name))
    (hacks : ∀ name, s'.files.read (ackPath spoolRoot name) = s.files.read (ackPath spoolRoot name)) :
    SpoolInvariant sha256 fileSha256 spoolRoot outbox s' where
  messages name := (houtbox name).trans (h.messages name)
  acks name content hread := by
    rw [hacks] at hread
    rw [hcommitted]
    exact h.acks name content hread
  commits k hk := by
    rw [hcommits] at hk
    rw [hcommitted]
    obtain ⟨hjson, hfile, hc, hearlier⟩ := h.commits k hk
    refine ⟨hjson, hfile, hc, fun earlier he ho hlt => ?_⟩
    rw [World.Acked, hacks]
    exact hearlier earlier he ho hlt
  once := by
    rw [hcommits]
    exact h.once

/-- Filing a dead letter that is apart changes no message and no ack. -/
theorem Apart.read_eq {path : Path} (h : Apart spoolRoot path) {pid : String}
    {data : SpoolContent D} {files files' : Files (SpoolContent D)}
    (hpublishes : Publishes path (stagePath path pid) data files files') (name : String) :
    files'.read (outboxPath spoolRoot name) = files.read (outboxPath spoolRoot name) ∧
      files'.read (ackPath spoolRoot name) = files.read (ackPath spoolRoot name) := by
  constructor
  · refine hpublishes.read_eq (fun heq => h.1 ?_) fun heq => h.1 ?_
    · rw [heq, dropLast_outboxPath]
    · have hdir := congrArg List.dropLast heq
      rwa [stagePath, List.dropLast_concat, dropLast_outboxPath] at hdir
  · exact hpublishes.read_eq (h.2 name) (stagePath_ne_ackPath spoolRoot path pid name)

/-- A commit of a message whose earlier files have acks. -/
theorem SpoolInvariant.commit (h : SpoolInvariant sha256 fileSha256 spoolRoot outbox s)
    {name : String} {message : SpoolMessage D} {layout : String} {now : PyDatetime}
    {result : R1StreamDeliveryResult} (hsession : s.session = s.committed) (hjson : IsJson name)
    (hcontent : outbox name = some (.message message layout))
    (hearlier : ∀ earlier, IsJson earlier → (outbox earlier).isSome → earlier < name →
      s.Acked spoolRoot earlier)
    (hcommitted : Commits sha256 s.session (message.delivery now) result s'.committed)
    (hcommits : s'.commits = s.commits ++ [⟨name, message, result.disposition⟩])
    (hfiles : s'.files = s.files) : SpoolInvariant sha256 fileSha256 spoolRoot outbox s' := by
  rw [hsession] at hcommitted
  have hself := committed_of_commits hcommitted
  have hacked : ∀ n, s'.Acked spoolRoot n ↔ s.Acked spoolRoot n := by
    intro n
    rw [World.Acked, World.Acked, hfiles]
  refine ⟨fun n => ?_, fun n content hread => ?_, fun k hk => ?_, ?_⟩
  · rw [hfiles]
    exact h.messages n
  · rw [hfiles] at hread
    obtain ⟨ack, m, l, hack, hout, hbinds, hm⟩ := h.acks n content hread
    exact ⟨ack, m, l, hack, hout, hbinds, hm.commits hcommitted⟩
  · rw [hcommits, List.mem_append, List.mem_singleton] at hk
    simp only [hacked]
    rcases hk with hk | rfl
    · obtain ⟨hj, hfile, hc, he⟩ := h.commits k hk
      exact ⟨hj, hfile, hc.commits hcommitted, he⟩
    · exact ⟨hjson, ⟨layout, hcontent⟩, hself, hearlier⟩
  · rw [hcommits, List.filter_append, List.map_append]
    by_cases haccepted : result.disposition = .accepted
    · refine List.nodup_append.mpr ⟨h.once, by simp [haccepted], ?_⟩
      -- A message that was accepted before is a duplicate now.
      intro m hm m' hm' heq
      simp only [haccepted, decide_true, List.filter_cons_of_pos, List.filter_nil, List.map_cons,
        List.map_nil, List.mem_singleton] at hm'
      obtain ⟨k, hk, rfl⟩ := List.mem_map.mp hm
      have hold := (h.commits k (List.mem_of_mem_filter hk)).2.2.1
      rw [heq, hm'] at hold
      exact not_committed_of_accepted hcommitted haccepted hold
    · simpa [haccepted] using h.once

/-- An ack of a committed message. -/
theorem SpoolInvariant.ack (h : SpoolInvariant sha256 fileSha256 spoolRoot outbox s) {name : String}
    {message : SpoolMessage D} {layout : String} {ack : DeliveryAck D} {pid : String}
    (hcontent : outbox name = some (.message message layout))
    (hbinds : AckBinds fileSha256 spoolRoot name (.message message layout) ack)
    (hm : Committed sha256 s.committed message)
    (hpublished : Published (ackPath spoolRoot name) (stagePath (ackPath spoolRoot name) pid)
      (.ack ack) s s') : SpoolInvariant sha256 fileSha256 spoolRoot outbox s' := by
  obtain ⟨files, rfl, hpublishes⟩ := hpublished
  have hkept : ∀ n, s.Acked spoolRoot n → (files.read (ackPath spoolRoot n)).isSome := by
    intro n hn
    obtain ⟨content, hread⟩ := Option.isSome_iff_exists.mp hn
    have hread' := Published.read_of_some ⟨files, rfl, hpublishes⟩
      (stagePath_ne_ackPath spoolRoot _ pid n).symm hread
    exact Option.isSome_iff_exists.mpr ⟨content, hread'⟩
  refine ⟨fun n => ?_, fun n content hread => ?_, fun k hk => ?_, h.once⟩
  · rw [← h.messages n]
    refine hpublishes.read_eq (ackPath_ne_outboxPath spoolRoot name n) fun heq => ?_
    have hdir := congrArg List.dropLast heq
    rw [stagePath, List.dropLast_concat, dropLast_outboxPath] at hdir
    exact absurd hdir (by simp [ackPath])
  · by_cases hn : n = name
    · subst hn
      rcases hpublishes.once with hsame | ⟨-, hnew⟩
      · rw [hsame] at hread
        exact h.acks n content hread
      · obtain rfl := Option.some.inj (hnew.symm.trans hread)
        exact ⟨ack, message, layout, rfl, hcontent, hbinds, hm⟩
    · have hsame := hpublishes.read_eq (fun heq => hn (ackPath_inj heq).symm)
        (stagePath_ne_ackPath spoolRoot (ackPath spoolRoot name) pid n)
      rw [hsame] at hread
      exact h.acks n content hread
  · obtain ⟨hj, hfile, hc, he⟩ := h.commits k hk
    exact ⟨hj, hfile, hc, fun earlier h₁ h₂ h₃ => hkept earlier (he earlier h₁ h₂ h₃)⟩

end Invariant

/-! ## One file -/

section Turn

variable [DecidableEq D] (sha256 : CanonicalPayload → D) (fileSha256 : SpoolContent D → D)
  (spoolRoot : Path) (contract : R1RequiredPartitionContract) (env : RunEnvironment)

/-- If the run comes to a file without an ack, whose chunk is late, its dead letter is
apart from the messages and the acks. -/
def DeadLetterApart (name : String) (s : World D) : Prop :=
  ∀ c layout w, s.files.read (outboxPath spoolRoot name) = some (.message (.eventChunk c) layout) →
    ¬ s.Acked spoolRoot name → requireContract contract (.eventChunk c) = .ok () →
    Late sha256 s.session c w → Apart spoolRoot (deadLetterPath spoolRoot c.chunkId)

variable {sha256 fileSha256 spoolRoot contract env} {outbox : String → Option (SpoolContent D)}
  {s s' : World D} {name : String} {content : SpoolContent D}

omit [DecidableEq D] in
/-- What a delivery may leave keeps the invariant. -/
theorem SpoolInvariant.effect (h : SpoolInvariant sha256 fileSha256 spoolRoot outbox s)
    (hsession : s.session = s.committed) (hjson : IsJson name)
    (hread : s.files.read (outboxPath spoolRoot name) = some content)
    (hack : ¬ s.Acked spoolRoot name)
    (hearlier : ∀ earlier, IsJson earlier → (outbox earlier).isSome → earlier < name →
      s.Acked spoolRoot earlier)
    (hapart : DeadLetterApart sha256 spoolRoot contract name s)
    (heffect : Effect sha256 spoolRoot contract env name content s s') :
    SpoolInvariant sha256 fileSha256 spoolRoot outbox s' := by
  cases heffect with
  | nothing committed commits files =>
    exact h.congr committed commits (fun n => by rw [files]) fun n => by rw [files]
  | deadLetter hcontent required late committed commits files =>
    rw [hcontent] at hread
    have happart := hapart _ _ _ hread hack required late
    exact h.congr committed commits (fun n => (happart.read_eq files n).1) fun n =>
      (happart.read_eq files n).2
  | commit hcontent required committed commits files =>
    have hout := (h.messages name).symm.trans hread
    rw [hcontent] at hout
    exact h.commit hsession hjson hout hearlier committed commits files

omit [DecidableEq D] in
theorem Published.acked {path stage : Path} {data : SpoolContent D}
    (h : Published path stage data s s') {n : String} (hne : ackPath spoolRoot n ≠ stage)
    (hn : s.Acked spoolRoot n) : s'.Acked spoolRoot n := by
  obtain ⟨content, hread⟩ := Option.isSome_iff_exists.mp hn
  exact Option.isSome_iff_exists.mpr ⟨content, h.read_of_some hne hread⟩

/-- Where the consumer goes on: in the invariant, without a transaction, and with the ack. -/
abbrev Turned (sha256 : CanonicalPayload → D) (fileSha256 : SpoolContent D → D) (spoolRoot : Path)
    (outbox : String → Option (SpoolContent D)) (name : String) (s s' : World D) : Prop :=
  SpoolInvariant sha256 fileSha256 spoolRoot outbox s' ∧ s'.session = s'.committed ∧
    s'.Acked spoolRoot name ∧ ∀ n, s.Acked spoolRoot n → s'.Acked spoolRoot n

/-- The ack of a committed message. -/
theorem publishAck_spec (h : SpoolInvariant sha256 fileSha256 spoolRoot outbox s)
    (hsession : s.session = s.committed) {message : SpoolMessage D} {layout : String}
    {ack : DeliveryAck D} (hout : outbox name = some (.message message layout))
    (hbinds : AckBinds fileSha256 spoolRoot name (.message message layout) ack)
    (hm : Committed sha256 s.committed message) (pid : String)
    (faults : PublishSite → Fault SpoolError) :
    wp (publishImmutable pid faults (ackPath spoolRoot name) (.ack ack))
      (fun _ s' => Turned sha256 fileSha256 spoolRoot outbox name s s')
      (fun _ s' => SpoolInvariant sha256 fileSha256 spoolRoot outbox s') s := by
  have hstage := stagePath_ne (ackPath spoolRoot name) pid
  have hkeeps := @keeps_publishImmutable D _ (.ack ack) s _ pid faults hstage s (.refl _ _ _ s)
  have hreturns := @publishImmutable_returns D _ (.ack ack) _ pid faults hstage s
  refine wp_mono (wp_and hkeeps hreturns) ?_ ?_
  · rintro _ s' ⟨hpublished, hdone⟩
    refine ⟨h.ack hout hbinds hm hpublished, ?_, ?_, fun n hn => ?_⟩
    · obtain ⟨files, rfl, -⟩ := hpublished
      exact hsession
    · exact Option.isSome_iff_exists.mpr ⟨_, hdone⟩
    · exact hpublished.acked (stagePath_ne_ackPath spoolRoot _ _ n).symm hn
  · rintro _ s' ⟨hpublished, -⟩
    exact h.ack hout hbinds hm hpublished

/-- The turn of a file whose earlier files have acks returns with its ack, and stops in
the invariant. -/
theorem consumeFile_spec (h : SpoolInvariant sha256 fileSha256 spoolRoot outbox s)
    (hsession : s.session = s.committed) (hjson : IsJson name)
    (hearlier : ∀ earlier, IsJson earlier → (outbox earlier).isSome → earlier < name →
      s.Acked spoolRoot earlier)
    (hapart : DeadLetterApart sha256 spoolRoot contract name s) :
    wp (consumeFile sha256 fileSha256 spoolRoot contract env name)
      (fun _ s' => Turned sha256 fileSha256 spoolRoot outbox name s s')
      (fun _ s' => SpoolInvariant sha256 fileSha256 spoolRoot outbox s') s := by
  rw [consumeFile, wp_bind, wp_get]
  by_cases hack : (s.files.read (ackPath spoolRoot name)).isSome
  · rw [if_pos hack]
    exact ⟨h, hsession, hack, fun _ hn => hn⟩
  · rw [if_neg hack, wp_bind]
    refine wp_call ?_ (fun _ _ => h) fun _ _ => h
    rw [wp_pure]
    cases hread : s.files.read (outboxPath spoolRoot name) with
    | none => exact h
    | some content =>
      show wp (deliverFile sha256 spoolRoot contract env name content >>= _) _ _ s
      rw [wp_bind]
      refine wp_mono deliverFile_spec ?_ fun _ _ heffect =>
        h.effect hsession hjson hread hack hearlier hapart heffect
      rintro result s₁ ⟨hsession₁, message, layout, rfl, required, hcommits, hlog, hfiles⟩
      have h₁ := h.effect hsession hjson hread hack hearlier hapart
        (.commit rfl required hcommits hlog hfiles)
      have hout : outbox name = some (.message message layout) := (h.messages name).symm.trans hread
      rw [acknowledge]
      split
      · exact h₁
      · next acceptedAt hclock =>
        refine wp_mono (publishAck_spec h₁ hsession₁ hout ⟨rfl, rfl⟩ (committed_of_commits hcommits)
          env.pid _) ?_ fun _ _ hstop => hstop
        rintro _ s₂ ⟨h₂, hsession₂, hdone, hkept⟩
        refine ⟨h₂, hsession₂, hdone, fun n hn => hkept n ?_⟩
        rw [World.Acked, hfiles]
        exact hn

end Turn

/-! ## Runs -/

section Names

variable {spoolRoot : Path}

theorem mem_outboxNames {files : Files (SpoolContent D)} {name : String} :
    name ∈ outboxNames spoolRoot files ↔
      IsJson name ∧ (files.read (outboxPath spoolRoot name)).isSome := by
  rw [outboxNames, mem_sortedBy, List.mem_filterMap]
  constructor
  · rintro ⟨⟨path, content⟩, hmem, hname⟩
    split at hname
    · next hpath =>
      have hne : path ≠ [] := by
        rintro rfl
        cases hname
      have hsplit : path = outboxPath spoolRoot name := by
        rw [← List.dropLast_append_getLast hne, hpath.1]
        rw [List.getLast?_eq_some_getLast hne] at hname
        simp [outboxPath, Option.some.inj hname]
      rw [hsplit] at hmem hpath
      refine ⟨?_, Option.isSome_iff_exists.mpr ⟨content, Files.read_eq_some.mpr hmem⟩⟩
      rw [IsJson]
      simpa [outboxPath] using hpath.2
    · cases hname
  · rintro ⟨hjson, hsome⟩
    obtain ⟨content, hread⟩ := Option.isSome_iff_exists.mp hsome
    refine ⟨(outboxPath spoolRoot name, content), Files.read_eq_some.mp hread, ?_⟩
    have hlast : (outboxPath spoolRoot name).getLast? = some name := by
      simp [outboxPath]
    rw [hlast, if_pos ⟨dropLast_outboxPath spoolRoot name, hjson⟩]

/-- The names before one in the order are those that are less. -/
theorem mem_of_lt_outboxNames {files : Files (SpoolContent D)} {pre post : List String}
    {name earlier : String} (h : outboxNames spoolRoot files = pre ++ name :: post)
    (hmem : earlier ∈ outboxNames spoolRoot files) (hlt : earlier < name) : earlier ∈ pre := by
  have hsorted : (pre ++ name :: post).Pairwise fun a b => a ≤ b := h ▸ sortedBy_pairwise id _
  rw [h, List.mem_append, List.mem_cons] at hmem
  rcases hmem with hpre | rfl | hpost
  · exact hpre
  · exact absurd hlt (lt_irrefl _)
  · have hle := (List.pairwise_cons.mp (List.pairwise_append.mp hsorted).2.1).1 earlier hpost
    exact absurd hlt (not_lt.mpr hle)

end Names

section Runs

variable [DecidableEq D] (sha256 : CanonicalPayload → D) (fileSha256 : SpoolContent D → D)
  (spoolRoot : Path)

/-- No turn of the run files a dead letter in the place of a message or an ack. -/
def DeadLettersApart (s : World D) (run : SpoolRun) : Prop :=
  Along (DeadLetterApart sha256 spoolRoot run.contract)
    (consumeFile sha256 fileSha256 spoolRoot run.contract run.env)
    (outboxNames spoolRoot s.files) s.reconnect

variable {sha256 fileSha256 spoolRoot} {outbox : String → Option (SpoolContent D)} {s : World D}
  {run : SpoolRun}

variable (sha256 fileSha256 spoolRoot outbox) in
/-- The world after the turns of the files `pre`. -/
def TurnsMade (pre : List String) (s' : World D) : Prop :=
  SpoolInvariant sha256 fileSha256 spoolRoot outbox s' ∧ s'.session = s'.committed ∧
    ∀ n ∈ pre, s'.Acked spoolRoot n

/-- The next turn. -/
theorem TurnsMade.consumeFile {contract : R1RequiredPartitionContract} {env : RunEnvironment}
    {pre post : List String} {name : String} {s₁ : World D}
    (h : SpoolInvariant sha256 fileSha256 spoolRoot outbox s)
    (hnames : outboxNames spoolRoot s.files = pre ++ name :: post)
    (h₁ : TurnsMade sha256 fileSha256 spoolRoot outbox pre s₁)
    (hapart : DeadLetterApart sha256 spoolRoot contract name s₁) :
    wp (consumeFile sha256 fileSha256 spoolRoot contract env name)
      (fun _ => TurnsMade sha256 fileSha256 spoolRoot outbox (pre ++ [name]))
      (fun _ s' => SpoolInvariant sha256 fileSha256 spoolRoot outbox s') s₁ := by
  obtain ⟨h₁, hsession₁, hpre⟩ := h₁
  have hname := mem_outboxNames.mp (hnames ▸ List.mem_append_right pre List.mem_cons_self :
    name ∈ outboxNames spoolRoot s.files)
  have hearlier : ∀ earlier, IsJson earlier → (outbox earlier).isSome → earlier < name →
      s₁.Acked spoolRoot earlier := by
    intro earlier hjson hsome hlt
    rw [← h.messages] at hsome
    exact hpre earlier (mem_of_lt_outboxNames hnames (mem_outboxNames.mpr ⟨hjson, hsome⟩) hlt)
  refine wp_mono (consumeFile_spec h₁ hsession₁ hname.1 hearlier hapart) ?_ fun _ _ hstop => hstop
  rintro _ s₂ ⟨h₂, hsession₂, hdone, hkept⟩
  refine ⟨h₂, hsession₂, fun n hn => ?_⟩
  rw [List.mem_append, List.mem_singleton] at hn
  rcases hn with hn | rfl
  · exact hkept n (hpre n hn)
  · exact hdone

theorem consumeSpoolOnce_spec (h : SpoolInvariant sha256 fileSha256 spoolRoot outbox s)
    (hsession : s.session = s.committed)
    (hapart : Along (DeadLetterApart sha256 spoolRoot run.contract)
      (consumeFile sha256 fileSha256 spoolRoot run.contract run.env)
      (outboxNames spoolRoot s.files) s) :
    wp (consumeSpoolOnce sha256 fileSha256 spoolRoot run.contract run.env)
      (fun _ s' => SpoolInvariant sha256 fileSha256 spoolRoot outbox s')
      (fun _ s' => SpoolInvariant sha256 fileSha256 spoolRoot outbox s') s := by
  rw [consumeSpoolOnce, wp_bind, wp_get]
  have hloop : wp ((outboxNames spoolRoot s.files).forM
      (consumeFile sha256 fileSha256 spoolRoot run.contract run.env))
      (fun _ => TurnsMade sha256 fileSha256 spoolRoot outbox (outboxNames spoolRoot s.files))
      (fun _ s' => SpoolInvariant sha256 fileSha256 spoolRoot outbox s') s := by
    refine wp_forM_prefix (I := TurnsMade sha256 fileSha256 spoolRoot outbox) ?_
      ⟨h, hsession, fun n hn => absurd hn List.not_mem_nil⟩ hapart
    exact fun pre name post hnames s₁ h₁ hapart₁ => h₁.consumeFile h hnames hapart₁
  exact wp_mono hloop (fun _ _ hend => hend.1) fun _ _ hstop => hstop

omit [DecidableEq D] in
theorem wp_after {x : Consumer D Unit} {I : World D → Prop}
    (h : wp x (fun _ s' => I s') (fun _ s' => I s') s) : I (s.after x) := by
  unfold World.after
  cases hrun : x.run s with
  | ok u s' => exact (wp_of_ok hrun).mp h
  | error stop s' => exact (wp_of_error hrun).mp h

omit [DecidableEq D] in
theorem SpoolInvariant.reconnect (h : SpoolInvariant sha256 fileSha256 spoolRoot outbox s) :
    SpoolInvariant sha256 fileSha256 spoolRoot outbox s.reconnect :=
  h.congr rfl rfl (fun _ => rfl) fun _ => rfl

/-- A run keeps the invariant, wherever it stops. -/
theorem SpoolInvariant.consume (h : SpoolInvariant sha256 fileSha256 spoolRoot outbox s)
    (hapart : DeadLettersApart sha256 fileSha256 spoolRoot s run) :
    SpoolInvariant sha256 fileSha256 spoolRoot outbox (consume sha256 fileSha256 spoolRoot s run).1 := by
  exact wp_after (consumeSpoolOnce_spec h.reconnect rfl hapart)

/-- Where the dead letter of each chunk in the outbox is apart, every turn's is. -/
theorem SpoolInvariant.deadLettersApart (h : SpoolInvariant sha256 fileSha256 spoolRoot outbox s)
    (hall : ∀ name c layout, outbox name = some (.message (.eventChunk c) layout) →
      Apart spoolRoot (deadLetterPath spoolRoot c.chunkId)) (run : SpoolRun) :
    DeadLettersApart sha256 fileSha256 spoolRoot s run := by
  have hapart : ∀ {name s'}, SpoolInvariant sha256 fileSha256 spoolRoot outbox s' →
      DeadLetterApart sha256 spoolRoot run.contract name s' :=
    fun h' c layout _ hread _ _ _ => hall _ c layout ((h'.messages _).symm.trans hread)
  refine along_of_prefix (I := TurnsMade sha256 fileSha256 spoolRoot outbox) ?_ ?_
    ⟨h.reconnect, rfl, fun n hn => absurd hn List.not_mem_nil⟩
  · exact fun _ _ _ _ _ h₁ => hapart h₁.1
  · intro pre name post s₁ hnames h₁
    exact wp_mono (h₁.consumeFile h hnames (hapart h₁.1)) (fun _ _ hend => hend) fun _ _ _ => trivial

/-! ## Files that stay -/

/-- A file that no stage can take keeps its content. -/
theorem keeps_publish {path q : Path} {data content : SpoolContent D} (pid : String)
    (faults : PublishSite → Fault SpoolError) (hq : ∀ path pid, stagePath path pid ≠ q) :
    Keeps (fun s : World D => s.files.read q = some content)
      (publishImmutable pid faults path data) := by
  intro s hs
  have hkeeps := @keeps_publishImmutable D path data s _ pid faults (stagePath_ne path pid) s
    (.refl _ _ _ s)
  exact wp_mono hkeeps (fun _ _ h => h.read_of_some (hq _ _).symm hs) fun _ _ h =>
    h.read_of_some (hq _ _).symm hs

theorem keeps_deliverFile {q : Path} {content file : SpoolContent D} {contract : R1RequiredPartitionContract}
    {env : RunEnvironment} {name : String} (hq : ∀ path pid, stagePath path pid ≠ q) :
    Keeps (fun s : World D => s.files.read q = some content)
      (deliverFile sha256 spoolRoot contract env name file) := by
  intro s hs
  have heffect : ∀ s', Effect sha256 spoolRoot contract env name file s s' →
      s'.files.read q = some content := by
    intro s' h
    cases h with
    | nothing committed commits files => rw [files, hs]
    | deadLetter hcontent required late committed commits files =>
      have hpublished : Published _ _ _ s { s with files := s'.files } := ⟨_, rfl, files⟩
      exact hpublished.read_of_some (hq _ _).symm hs
    | commit hcontent required committed commits files => rw [files, hs]
  refine wp_mono deliverFile_spec ?_ fun _ s' h => heffect s' h
  rintro result s' ⟨-, message, layout, -, -, -, -, hfiles⟩
  rw [hfiles, hs]

/-- A turn keeps the messages and the acks. -/
theorem keeps_consumeFile {q : Path} {content : SpoolContent D} {contract : R1RequiredPartitionContract}
    {env : RunEnvironment} (hq : ∀ path pid, stagePath path pid ≠ q) (name : String) :
    Keeps (fun s : World D => s.files.read q = some content)
      (consumeFile sha256 fileSha256 spoolRoot contract env name) := by
  refine keeps_bind keeps_get fun s => ?_
  split
  · exact keeps_pure _
  · refine keeps_bind (keeps_call (keeps_pure _)) fun _ => ?_
    unfold consumeContent
    split
    · exact keeps_throw _
    · refine keeps_bind (keeps_deliverFile hq) fun result => ?_
      unfold acknowledge
      split
      · exact keeps_throw _
      · exact keeps_publish env.pid _ hq

variable (fileSha256 spoolRoot) in
/-- `load_accepted_spool_message` loads the message of a file. -/
def Loads (s : World D) (name : String) (message : SpoolMessage D) : Prop :=
  loadAcceptedSpoolMessage fileSha256 s.files (outboxPath spoolRoot name) (ackPath spoolRoot name) =
    .ok message

/-- A file with an ack is loaded. -/
theorem SpoolInvariant.loads (h : SpoolInvariant sha256 fileSha256 spoolRoot outbox s) {name : String}
    {message : SpoolMessage D} {layout : String}
    (hout : outbox name = some (.message message layout)) (hack : s.Acked spoolRoot name) :
    Loads fileSha256 spoolRoot s name message := by
  obtain ⟨content, hread⟩ := Option.isSome_iff_exists.mp hack
  obtain ⟨ack, message', layout', rfl, hout', hbinds, -⟩ := h.acks name content hread
  obtain ⟨rfl, rfl⟩ := SpoolContent.message.inj (Option.some.inj (hout.symm.trans hout'))
  have hrequire : requireAck fileSha256 (outboxPath spoolRoot name) (.message message layout) ack =
      .ok () := by
    simp only [requireAck, Except.unit_bind_eq_ok, raiseIf_eq_ok, not_not]
    refine ⟨hbinds.messagePath, hbinds.messageSha256, ?_⟩
    cases ack.disposition with
    | accepted => decide
    | duplicate => decide
  rw [Loads, loadAcceptedSpoolMessage, h.messages, hout, hread]
  simp only [hrequire]
  rfl

/-- What was loaded once stays. -/
theorem Loads.of_read {s' : World D} {name : String} {message : SpoolMessage D} (hjson : IsJson name)
    (h : Loads fileSha256 spoolRoot s name message)
    (hkept : ∀ q content, (∀ path pid, stagePath path pid ≠ q) → s.files.read q = some content →
      s'.files.read q = some content) : Loads fileSha256 spoolRoot s' name message := by
  cases hmessage : s.files.read (outboxPath spoolRoot name) with
  | none =>
    rw [Loads, loadAcceptedSpoolMessage, hmessage] at h
    cases h
  | some content =>
    cases hack : s.files.read (ackPath spoolRoot name) with
    | none =>
      rw [Loads, loadAcceptedSpoolMessage, hmessage, hack] at h
      cases h
    | some ack =>
      have hmessage' := hkept _ _ (fun path pid => by
        have hne := stagePath_ne_json path (spoolRoot ++ ["outbox"]) pid hjson
        rwa [List.append_assoc] at hne) hmessage
      have hack' := hkept _ _ (fun path pid => stagePath_ne_ackPath spoolRoot path pid name) hack
      rw [Loads, loadAcceptedSpoolMessage, hmessage', hack', ← h, loadAcceptedSpoolMessage, hmessage,
        hack]

theorem keeps_loads {name : String} {message : SpoolMessage D} (hjson : IsJson name)
    {contract : R1RequiredPartitionContract} {env : RunEnvironment} (names : List String) :
    Keeps (fun s => Loads fileSha256 spoolRoot s name message)
      (names.forM (consumeFile sha256 fileSha256 spoolRoot contract env)) := by
  intro s hs
  have hread : ∀ s', (∀ q content, (∀ path pid, stagePath path pid ≠ q) →
      s.files.read q = some content → s'.files.read q = some content) →
      Loads fileSha256 spoolRoot s' name message := fun s' hkept => hs.of_read hjson hkept
  have hkeeps : ∀ q content, (∀ path pid, stagePath path pid ≠ q) →
      Keeps (fun s : World D => s.files.read q = some content)
        (names.forM (consumeFile sha256 fileSha256 spoolRoot contract env)) :=
    fun q content hq => keeps_forM fun n _ => keeps_consumeFile hq n
  cases hrun : (names.forM (consumeFile sha256 fileSha256 spoolRoot contract env)).run s with
  | ok u s' =>
    refine (wp_of_ok hrun).mpr (hread s' fun q content hq hq' => ?_)
    exact (wp_of_ok hrun).mp (hkeeps q content hq s hq')
  | error stop s' =>
    refine (wp_of_error hrun).mpr (hread s' fun q content hq hq' => ?_)
    exact (wp_of_error hrun).mp (hkeeps q content hq s hq')

/-! ## Reruns -/

/-- No call of the run meets a fault, and its clock is aware. -/
structure FaultFree (run : SpoolRun) : Prop where
  faults : ∀ name site, run.env.faults name site = .none
  clock : ∀ name, ∃ acceptedAt, utcMilliseconds (run.env.clock name) = .ok acceptedAt

/-- A delivery of a committed message without faults is a duplicate. -/
theorem deliverFile_free {message : SpoolMessage D} {layout : String} {name : String}
    (hfree : FaultFree run) (hsession : s.session = s.committed)
    (hm : Committed sha256 s.committed message)
    (required : requireContract run.contract message = .ok ()) :
    (deliverFile sha256 spoolRoot run.contract run.env name (.message message layout)).run s =
      .ok ⟨.duplicate, []⟩ { s with commits := s.commits ++ [⟨name, message, .duplicate⟩] } := by
  have haccept : (accept sha256 deadLetterSink (message.delivery (run.env.clock name))).run
      ⟨s.session, none⟩ = .ok ⟨.duplicate, []⟩ ⟨s.session, none⟩ := by
    refine accept_of_committed ?_
    rw [hsession]
    exact hm
  have hingress : (ingress sha256 spoolRoot run.env name message).run s =
      .ok ⟨.duplicate, []⟩ s := by
    rw [ingress, run_bind_of_ok (rfl : EStateM.run get s = .ok s s)]
    simp only [haccept]
    rfl
  have hcommit : (commit name message ⟨.duplicate, []⟩).run s =
      .ok () { s with commits := s.commits ++ [⟨name, message, .duplicate⟩] } := by
    cases s
    cases hsession
    rfl
  have hdeliver : (deliverContent sha256 spoolRoot run.contract run.env name
      (.message message layout)).run s =
      .ok ⟨.duplicate, []⟩ { s with commits := s.commits ++ [⟨name, message, .duplicate⟩] } := by
    rw [deliverContent]
    simp only [required, hfree.faults, call_none]
    rw [run_bind_of_ok hingress, run_bind_of_ok hcommit]
    rfl
  have hattempt : (attempt (deliverContent sha256 spoolRoot run.contract run.env name
      (.message message layout))).run s =
      .ok (.ok ⟨.duplicate, []⟩) { s with commits := s.commits ++ [⟨name, message, .duplicate⟩] } := by
    simp only [EStateM.run] at hdeliver
    simp only [attempt, EStateM.run, hdeliver]
  rw [deliverFile, run_bind_of_ok hattempt]
  rfl

/-- The turn of a committed message without faults ends with its ack, unless a stage of
the process was left over, which it removes. -/
theorem consumeFile_free {k : SpoolCommit D} (h : SpoolInvariant sha256 fileSha256 spoolRoot outbox s)
    (hsession : s.session = s.committed) (hk : k ∈ s.commits) (hfree : FaultFree run)
    (required : requireContract run.contract k.message = .ok ()) :
    wp (consumeFile sha256 fileSha256 spoolRoot run.contract run.env k.name)
      (fun _ s' => Loads fileSha256 spoolRoot s' k.name k.message)
      (fun _ s' => SpoolInvariant sha256 fileSha256 spoolRoot outbox s' ∧ k ∈ s'.commits ∧
        (s.files.read (stagePath (ackPath spoolRoot k.name) run.env.pid)).isSome ∧
        s'.files.read (stagePath (ackPath spoolRoot k.name) run.env.pid) = none) s := by
  obtain ⟨hjson, ⟨layout, hout⟩, hm, hearlier⟩ := h.commits k hk
  have hapart : DeadLetterApart sha256 spoolRoot run.contract k.name s := by
    intro c layout' w hread _ _ hlate
    -- A committed chunk is not late.
    have hsame := Option.some.inj (hout.symm.trans ((h.messages k.name).symm.trans hread))
    obtain ⟨hmessage, -⟩ := SpoolContent.message.inj hsame
    rw [hmessage] at hm
    rw [hsession] at hlate
    exact absurd rfl (hlate.new _ hm.2 rfl).1
  have hspec := @consumeFile_spec D _ sha256 fileSha256 spoolRoot run.contract run.env outbox _ _ h hsession
    hjson hearlier hapart
  have hrun : wp (consumeFile sha256 fileSha256 spoolRoot run.contract run.env k.name)
      (fun _ _ => True)
      (fun _ s' => k ∈ s'.commits ∧
        (s.files.read (stagePath (ackPath spoolRoot k.name) run.env.pid)).isSome ∧
        s'.files.read (stagePath (ackPath spoolRoot k.name) run.env.pid) = none) s := by
    rw [consumeFile, wp_bind, wp_get]
    by_cases hack : (s.files.read (ackPath spoolRoot k.name)).isSome
    · rw [if_pos hack]
      trivial
    · rw [if_neg hack, hfree.faults, wp_bind, call_none, wp_pure, h.messages, hout]
      show wp (deliverFile sha256 spoolRoot run.contract run.env k.name _ >>= _) _ _ s
      rw [wp_bind, wp_of_ok (deliverFile_free hfree hsession hm required)]
      obtain ⟨acceptedAt, hclock⟩ := hfree.clock k.name
      rw [acknowledge, hclock]
      rw [Bool.not_eq_true, Option.isSome_eq_false_iff, Option.isNone_iff_eq_none] at hack
      refine wp_mono (publishImmutable_free (fun site => hfree.faults k.name (.ack site))
        (stagePath_ne (ackPath spoolRoot k.name) run.env.pid) hack) (fun _ _ _ => trivial) ?_
      rintro stop s' ⟨-, hstage, rfl⟩
      refine ⟨List.mem_append_left _ hk, hstage, ?_⟩
      show (s.files.unlink _).read _ = none
      rw [Files.read_unlink, if_pos rfl]
  refine wp_mono (wp_and hspec hrun) ?_ ?_
  · rintro _ s' ⟨⟨h', -, hdone, -⟩, -⟩
    exact h'.loads hout hdone
  · rintro _ s' ⟨h', hk', hstage, hremoved⟩
    exact ⟨h', hk', hstage, hremoved⟩

/-- Without faults a run that finds a committed message acknowledges it, unless a stage of
the process was left over, which it removes. -/
theorem rerun_spec {k : SpoolCommit D} (h : SpoolInvariant sha256 fileSha256 spoolRoot outbox s)
    (hsession : s.session = s.committed) (hk : k ∈ s.commits) (hfree : FaultFree run)
    (required : requireContract run.contract k.message = .ok ()) :
    wp (consumeSpoolOnce sha256 fileSha256 spoolRoot run.contract run.env)
      (fun _ s' => Loads fileSha256 spoolRoot s' k.name k.message)
      (fun _ s' => Loads fileSha256 spoolRoot s' k.name k.message ∨
        SpoolInvariant sha256 fileSha256 spoolRoot outbox s' ∧ k ∈ s'.commits ∧
        (s.files.read (stagePath (ackPath spoolRoot k.name) run.env.pid)).isSome ∧
        s'.files.read (stagePath (ackPath spoolRoot k.name) run.env.pid) = none) s := by
  obtain ⟨hjson, ⟨layout, hout⟩, hm, hearlier⟩ := h.commits k hk
  have hname : k.name ∈ outboxNames spoolRoot s.files := by
    refine mem_outboxNames.mpr ⟨hjson, ?_⟩
    rw [h.messages, hout]
    rfl
  obtain ⟨pre, post, hnames, hnew⟩ := List.eq_append_cons_of_mem hname
  -- The files before it have acks, and the run passes over them.
  have hpre : wp (pre.forM (consumeFile sha256 fileSha256 spoolRoot run.contract run.env))
      (fun _ s' => s' = s) (fun _ _ => False) s := by
    refine wp_forM ?_ rfl
    rintro n hn s' rfl
    have hmem : n ∈ outboxNames spoolRoot s'.files := hnames ▸ List.mem_append_left _ hn
    obtain ⟨hjson', hsome⟩ := mem_outboxNames.mp hmem
    rw [h.messages] at hsome
    have hsorted : (pre ++ k.name :: post).Pairwise fun a b => a ≤ b :=
      hnames ▸ sortedBy_pairwise id _
    have hle : n ≤ k.name :=
      (List.pairwise_append.mp hsorted).2.2 n hn k.name List.mem_cons_self
    have hlt : n < k.name := lt_of_le_of_ne hle fun heq => hnew (heq ▸ hn)
    have hack : (s'.files.read (ackPath spoolRoot n)).isSome := hearlier n hjson' hsome hlt
    rw [consumeFile, wp_bind, wp_get, if_pos hack]
    exact rfl
  have happend : (pre ++ k.name :: post).forM
      (consumeFile sha256 fileSha256 spoolRoot run.contract run.env) =
      pre.forM (consumeFile sha256 fileSha256 spoolRoot run.contract run.env) >>= fun _ =>
        (k.name :: post).forM (consumeFile sha256 fileSha256 spoolRoot run.contract run.env) :=
    List.forM_append
  rw [consumeSpoolOnce, wp_bind, wp_get, hnames, happend, wp_bind]
  refine wp_mono hpre ?_ fun _ _ hf => hf.elim
  rintro _ s' rfl
  show wp (consumeFile sha256 fileSha256 spoolRoot run.contract run.env k.name >>= _) _ _ s'
  rw [wp_bind]
  refine wp_mono (consumeFile_free h hsession hk hfree required) ?_ fun _ _ hstop => .inr hstop
  intro _ s₁ hloads
  exact wp_mono (keeps_loads hjson post s₁ hloads) (fun _ _ h' => h') fun _ _ h' => .inl h'

/-- A rerun without faults acknowledges a committed message, unless a stage of its process
was left over, which it removes. -/
theorem SpoolInvariant.rerun {k : SpoolCommit D}
    (h : SpoolInvariant sha256 fileSha256 spoolRoot outbox s) (hk : k ∈ s.commits)
    (hfree : FaultFree run) (required : requireContract run.contract k.message = .ok ()) :
    Loads fileSha256 spoolRoot (Spool.consume sha256 fileSha256 spoolRoot s run).1 k.name k.message ∨
      SpoolInvariant sha256 fileSha256 spoolRoot outbox
        (Spool.consume sha256 fileSha256 spoolRoot s run).1 ∧
      k ∈ (Spool.consume sha256 fileSha256 spoolRoot s run).1.commits ∧
      (s.files.read (stagePath (ackPath spoolRoot k.name) run.env.pid)).isSome ∧
      (Spool.consume sha256 fileSha256 spoolRoot s run).1.files.read
        (stagePath (ackPath spoolRoot k.name) run.env.pid) = none := by
  have hreconnect : SpoolInvariant sha256 fileSha256 spoolRoot outbox s.reconnect :=
    h.congr rfl rfl (fun _ => rfl) fun _ => rfl
  exact wp_after (I := fun s₁ => Loads fileSha256 spoolRoot s₁ k.name k.message ∨
    SpoolInvariant sha256 fileSha256 spoolRoot outbox s₁ ∧ k ∈ s₁.commits ∧
    (s.files.read (stagePath (ackPath spoolRoot k.name) run.env.pid)).isSome ∧
    s₁.files.read (stagePath (ackPath spoolRoot k.name) run.env.pid) = none)
    (wp_mono (rerun_spec hreconnect rfl hk hfree required) (fun _ _ h' => .inl h') fun _ _ h' => h')

theorem Loads.consume {name : String} {message : SpoolMessage D} (hjson : IsJson name)
    (h : Loads fileSha256 spoolRoot s name message) (run : SpoolRun) :
    Loads fileSha256 spoolRoot (Spool.consume sha256 fileSha256 spoolRoot s run).1 name message := by
  have hkeeps : Keeps (fun s => Loads fileSha256 spoolRoot s name message)
      (consumeSpoolOnce sha256 fileSha256 spoolRoot run.contract run.env) :=
    keeps_bind keeps_get fun _ => keeps_loads hjson _
  exact wp_after (I := fun s' => Loads fileSha256 spoolRoot s' name message) (hkeeps s.reconnect h)

end Runs

/-! ## The law -/

section Law

variable [DecidableEq D] (sha256 : CanonicalPayload → D) (fileSha256 : SpoolContent D → D)
  (spoolRoot : Path)

/-- Commit before ack, for an outbox and a world:

* `acked`: an ack is there only for a message that the ledger has committed;
* `once`: a message is accepted once;
* `rejected`: a delivery that raises leaves the acks as they are;
* `converges`: a message that was committed is loaded after a rerun without faults whose
  process left no stage of its ack, and after two reruns of one process in any case. -/
structure CommitBeforeAck (outbox : Table (SameKey (Prod.fst : String × SpoolContent D → String)))
    (s : World D) : Prop where
  acked : ∀ name, s.Acked spoolRoot name → ∃ message layout,
    (name, .message message layout) ∈ outbox ∧ Committed sha256 s.committed message
  once : ((s.commits.filter (·.disposition = .accepted)).map (·.message)).Nodup
  rejected : ∀ (run : SpoolRun) name content, (name, content) ∈ outbox → ¬ s.Acked spoolRoot name →
    DeadLetterApart sha256 spoolRoot run.contract name s.reconnect →
    wp (deliverFile sha256 spoolRoot run.contract run.env name content) (fun _ _ => True)
      (fun _ s' => ∀ n, s'.files.read (ackPath spoolRoot n) = s.files.read (ackPath spoolRoot n))
      s.reconnect
  converges : ∀ k ∈ s.commits, ∀ run : SpoolRun, FaultFree run →
    requireContract run.contract k.message = .ok () →
    let s₁ := (consume sha256 fileSha256 spoolRoot s run).1
    (s.files.read (stagePath (ackPath spoolRoot k.name) run.env.pid) = none →
      Loads fileSha256 spoolRoot s₁ k.name k.message) ∧
    Loads fileSha256 spoolRoot (consume sha256 fileSha256 spoolRoot s₁ run).1 k.name k.message

variable {sha256 fileSha256 spoolRoot}

omit [DecidableEq D] in
theorem read_initial (ledger : Ledger D)
    (outbox : Table (SameKey (Prod.fst : String × SpoolContent D → String))) {path : Path}
    {content : SpoolContent D} :
    (World.initial spoolRoot ledger outbox).files.read path = some content ↔
      ∃ name, path = outboxPath spoolRoot name ∧ (name, content) ∈ outbox := by
  rw [Files.read_eq_some]
  show (path, content) ∈ outbox.rows.map _ ↔ _
  rw [List.mem_map]
  constructor
  · rintro ⟨⟨name, c⟩, hmem, heq⟩
    obtain ⟨rfl, rfl⟩ := Prod.mk.inj heq
    exact ⟨name, rfl, hmem⟩
  · rintro ⟨name, rfl, hmem⟩
    exact ⟨(name, content), hmem, rfl⟩

/-- The content of a file of the outbox. -/
def outboxContent (outbox : Table (SameKey (Prod.fst : String × SpoolContent D → String)))
    (name : String) : Option (SpoolContent D) := (outbox.get name).map Prod.snd

omit [DecidableEq D] in
theorem outboxContent_eq_some {outbox : Table (SameKey (Prod.fst : String × SpoolContent D → String))}
    {name : String} {content : SpoolContent D} :
    outboxContent outbox name = some content ↔ (name, content) ∈ outbox := by
  rw [outboxContent, Option.map_eq_some_iff]
  constructor
  · rintro ⟨⟨n, c⟩, hget, rfl⟩
    obtain ⟨hmem, rfl⟩ := Table.get_eq_some.mp hget
    exact hmem
  · exact fun hmem => ⟨(name, content), Table.get_of_mem hmem, rfl⟩

omit [DecidableEq D] in
/-- A new spool. -/
theorem SpoolInvariant.initial (ledger : Ledger D)
    (outbox : Table (SameKey (Prod.fst : String × SpoolContent D → String))) :
    SpoolInvariant sha256 fileSha256 spoolRoot (outboxContent outbox)
      (World.initial spoolRoot ledger outbox) where
  messages name := by
    refine Option.ext fun content => ?_
    rw [read_initial, outboxContent_eq_some]
    constructor
    · rintro ⟨n, hpath, hmem⟩
      obtain rfl := outboxPath_inj spoolRoot hpath
      exact hmem
    · exact fun hmem => ⟨name, rfl, hmem⟩
  acks name content hread := by
    obtain ⟨n, hpath, -⟩ := read_initial ledger outbox |>.mp hread
    exact absurd hpath (ackPath_ne_outboxPath spoolRoot name n)
  commits k hk := absurd hk List.not_mem_nil
  once := List.nodup_nil

/-- What the invariant says of an outbox. -/
theorem SpoolInvariant.committedBeforeAck
    {outbox : Table (SameKey (Prod.fst : String × SpoolContent D → String))} {s : World D}
    (h : SpoolInvariant sha256 fileSha256 spoolRoot (outboxContent outbox) s) :
    CommitBeforeAck sha256 fileSha256 spoolRoot outbox s where
  acked name hack := by
    obtain ⟨content, hread⟩ := Option.isSome_iff_exists.mp hack
    obtain ⟨ack, message, layout, -, hout, -, hm⟩ := h.acks name content hread
    exact ⟨message, layout, outboxContent_eq_some.mp hout, hm⟩
  once := h.once
  rejected run name content hmem hack hapart := by
    refine wp_mono deliverFile_spec (fun _ _ _ => trivial) ?_
    intro stop s' heffect n
    cases heffect with
    | nothing committed commits files => rw [files]; rfl
    | deadLetter hcontent required late committed commits files =>
      have hread := (h.messages name).trans (outboxContent_eq_some.mpr hmem)
      rw [hcontent] at hread
      exact ((hapart _ _ _ hread hack required late).read_eq files n).2
    | commit hcontent required committed commits files => rw [files]; rfl
  converges k hk run hfree required := by
    have hjson := (h.commits k hk).1
    refine ⟨fun hstage => ?_, ?_⟩
    · rcases h.rerun hk hfree required with hloads | ⟨-, -, hsome, -⟩
      · exact hloads
      · rw [hstage] at hsome
        cases hsome
    · rcases h.rerun hk hfree required with hloads | ⟨h₁, hk₁, -, hremoved⟩
      · exact hloads.consume hjson run
      · rcases h₁.rerun hk₁ hfree required with hloads | ⟨-, -, hsome, -⟩
        · exact hloads
        · rw [hremoved] at hsome
          cases hsome

/-- In every sequence of runs, each of which may stop at any call, that files no dead
letter in the place of a message or an ack, commit before ack holds in the world reached. -/
theorem commitBeforeAck (ledger : Ledger D)
    (outbox : Table (SameKey (Prod.fst : String × SpoolContent D → String))) (runs : List SpoolRun)
    (h : Meets (consume sha256 fileSha256 spoolRoot) (DeadLettersApart sha256 fileSha256 spoolRoot)
      (World.initial spoolRoot ledger outbox) runs) :
    CommitBeforeAck sha256 fileSha256 spoolRoot outbox
      (after (consume sha256 fileSha256 spoolRoot) (World.initial spoolRoot ledger outbox) runs) := by
  refine SpoolInvariant.committedBeforeAck (run_of_meets (P := SpoolInvariant sha256 fileSha256 spoolRoot
    (outboxContent outbox)) _ (fun s run hs hapart => hs.consume hapart) (.initial ledger outbox) h)

/-- No run files a dead letter in the place of a message or an ack where the chunks in the outbox
have ids that keep theirs apart. -/
theorem meets_deadLettersApart (ledger : Ledger D)
    (outbox : Table (SameKey (Prod.fst : String × SpoolContent D → String)))
    (hall : ∀ name c layout, (name, .message (.eventChunk c) layout) ∈ outbox →
      Apart spoolRoot (deadLetterPath spoolRoot c.chunkId)) (runs : List SpoolRun) :
    Meets (consume sha256 fileSha256 spoolRoot) (DeadLettersApart sha256 fileSha256 spoolRoot)
      (World.initial spoolRoot ledger outbox) runs := by
  have hcontent : ∀ name c layout,
      outboxContent outbox name = some (.message (.eventChunk c) layout) →
        Apart spoolRoot (deadLetterPath spoolRoot c.chunkId) :=
    fun name c layout h => hall name c layout (outboxContent_eq_some.mp h)
  intro pre run post _
  have hinvariant : SpoolInvariant sha256 fileSha256 spoolRoot (outboxContent outbox)
      (after (consume sha256 fileSha256 spoolRoot) (World.initial spoolRoot ledger outbox) pre) :=
    run_induction _ (fun s run hs => hs.consume (hs.deadLettersApart hcontent run))
      (.initial ledger outbox) pre
  exact hinvariant.deadLettersApart hcontent run

end Law

/-! ## Runs of a sample spool -/

namespace Sample

open Stream.Sample (chunk event chunk₁ chunk₂ watermark₁ now)

/-- Messages as their own digests. -/
def contentSha256 : SpoolContent CanonicalPayload → CanonicalPayload
  | .message (.eventChunk c) _ => c.chunkContentSha256
  | .message (.sourceWatermark w) _ => .watermark w
  | .message (.runClosed r) _ => .runClosed r
  | _ => .watermark watermark₁

theorem strayId_ne_empty : "evt-2" ≠ "" := by decide

theorem strayId_ne_dot : "evt-2" ≠ "." ∧ "evt-2" ≠ ".." := by decide

def strayEvent : NormalizedEvent := event "evt-2" 1500 strayId_ne_empty strayId_ne_dot

theorem straySequence_pos : 1 ≤ 2 := by decide

theorem strayIds_nodup : ([strayEvent].map (·.eventId)).Nodup := by decide

theorem strayEvents_scope : ∀ e ∈ [strayEvent], e.runId = Stream.Sample.partition.runId.val ∧
    e.hostId = Stream.Sample.partition.hostId.val ∧
    e.source = Stream.Sample.partition.source.val := by
  decide

/-- A late chunk whose dead letter is filed in the place of its ack. -/
def strayChunk : R1EventChunk CanonicalPayload :=
  chunk ⟨"../acks/3.json.ack", by decide, by decide⟩ 2 [strayEvent] straySequence_pos
    (List.cons_ne_nil _ _) strayIds_nodup strayEvents_scope

def outbox : Table (SameKey (Prod.fst : String × SpoolContent CanonicalPayload → String)) where
  rows := [("1.json", .message (.eventChunk chunk₁) ""),
    ("2.json", .message (.sourceWatermark watermark₁) ""),
    ("3.json", .message (.eventChunk strayChunk) "")]
  unique := by decide

/-- A run without faults. -/
def spoolRun : SpoolRun where
  contract := Position.Sample.contract
  env := { pid := "17", clock := fun _ => now, faults := fun _ _ => .none }

/-- The world after one run. -/
abbrev consumed : World CanonicalPayload :=
  after (consume id contentSha256 ["spool"]) (World.initial ["spool"] .empty outbox) [spoolRun]

/-- A chunk, a watermark after it and a chunk that is late. -/
def lateOutbox : Table (SameKey (Prod.fst : String × SpoolContent CanonicalPayload → String)) where
  rows := [("1.json", .message (.eventChunk chunk₁) ""),
    ("2.json", .message (.sourceWatermark watermark₁) ""),
    ("3.json", .message (.eventChunk chunk₂) "")]
  unique := by decide

/-- A run that is killed after it has committed the first chunk and before its ack. -/
def killedRun : SpoolRun where
  contract := Position.Sample.contract
  env :=
    { pid := "16"
      clock := fun _ => now
      faults := fun name site =>
        if name = "1.json" ∧ site = .commit then .crash true else .none }

/-- The world after runs over this spool. -/
abbrev delivered (runs : List SpoolRun) : World CanonicalPayload :=
  after (consume id contentSha256 ["spool"]) (World.initial ["spool"] .empty lateOutbox) runs

/-- A dead letter in the directory of dead letters is apart. -/
theorem apart_of_eq {path : Path} {file : String} (h : path = ["spool", "dead-letter", file]) :
    Apart ["spool"] path := by
  rw [h]
  exact ⟨by simp, fun name => by simp [ackPath]⟩

theorem apart_lateOutbox (name : String) (c : R1EventChunk CanonicalPayload) (layout : String)
    (h : (name, .message (.eventChunk c) layout) ∈ lateOutbox) :
    Apart ["spool"] (deadLetterPath ["spool"] c.chunkId) := by
  have hid : c.chunkId = chunk₁.chunkId ∨ c.chunkId = chunk₂.chunkId := by
    simp only [Table.mem_def, lateOutbox, List.mem_cons, Prod.mk.injEq, SpoolContent.message.injEq,
      SpoolMessage.eventChunk.injEq, reduceCtorEq, false_and, and_false, List.not_mem_nil, or_false,
      false_or] at h
    rcases h with ⟨-, rfl, -⟩ | ⟨-, rfl, -⟩
    · exact .inl rfl
    · exact .inr rfl
  rcases hid with hid | hid <;> rw [hid]
  · exact apart_of_eq (show _ = ["spool", "dead-letter", "chunk-1.json"] by decide)
  · exact apart_of_eq (show _ = ["spool", "dead-letter", "chunk-2.json"] by decide)

end Sample

open Sample in
/-- A run is killed between a commit and its ack, and the next one comes to a late chunk. -/
theorem commitBeforeAck_rerun : ¬ (delivered [killedRun]).Acked ["spool"] "1.json" ∧
    (delivered [killedRun, spoolRun]).Acked ["spool"] "2.json" ∧
    ¬ (delivered [killedRun, spoolRun]).Acked ["spool"] "3.json" ∧
    CommitBeforeAck id contentSha256 ["spool"] lateOutbox (delivered [killedRun, spoolRun]) := by
  refine ⟨?_, ?_, ?_, ?_⟩
  · show ¬ ((delivered [killedRun]).files.read (ackPath ["spool"] "1.json")).isSome
    decide
  · show ((delivered [killedRun, spoolRun]).files.read (ackPath ["spool"] "2.json")).isSome
    decide
  · show ¬ ((delivered [killedRun, spoolRun]).files.read (ackPath ["spool"] "3.json")).isSome
    decide
  · exact commitBeforeAck .empty lateOutbox [killedRun, spoolRun]
      (meets_deadLettersApart .empty lateOutbox apart_lateOutbox _)

open Sample in
/-- The dead letter of a chunk that was rejected takes the place of its ack. -/
theorem commitBeforeAck_fails : ¬ ∀ (ledger : Ledger CanonicalPayload) outbox runs,
    CommitBeforeAck id contentSha256 ["spool"] outbox
      (after (consume id contentSha256 ["spool"]) (World.initial ["spool"] ledger outbox) runs) := by
  intro h
  have hack : consumed.Acked ["spool"] "3.json" := by
    show (consumed.files.read (ackPath ["spool"] "3.json")).isSome
    decide
  obtain ⟨message, layout, hmem, hcommitted⟩ := (h .empty outbox [spoolRun]).acked "3.json" hack
  have hcontent : message = .eventChunk strayChunk := by
    simp [Table.mem_def, outbox] at hmem
    exact hmem.1
  subst hcontent
  have hrows : consumed.committed.chunks.rows = [chunkRow id chunk₁] := by rfl
  have hrow := hcommitted.2
  rw [Table.mem_def, hrows, List.mem_singleton] at hrow
  exact absurd (congrArg ChunkRow.chunkSequence hrow) (by decide)

end IncidentAwareness.Spool
