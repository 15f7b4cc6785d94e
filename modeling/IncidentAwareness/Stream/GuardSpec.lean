import IncidentAwareness.Stream.Guard
import IncidentAwareness.Stream.LedgerSpec

/-!
# The guard and the ledger take the same decisions

The watermark protocol, apart from any state that represents it: `protocolStep` on
the list of the watermarks accepted so far. The guard's dictionaries and the
ledger's rows each represent that list (`GuardHolds`, `LedgerHolds`), and a step of
either is a step of the protocol (`guardStep_spec`, `ledgerStep_spec`), except that
the columns of the ledger refuse what they cannot hold: an integer beyond INTEGER,
or a text with U+0000.
-/

namespace IncidentAwareness.Stream

open IncidentAwareness.Common IncidentAwareness.Lib

variable {D S : Type}

/-! ## The protocol -/

/-- A watermark may follow another of its partition. -/
structure Follows (earlier later : R1SourceWatermark) : Prop where
  watermarkSequence : earlier.watermarkSequence < later.watermarkSequence
  watermarkAt : earlier.watermarkAt ≤ later.watermarkAt
  allowedLatenessMs : earlier.allowedLatenessMs = later.allowedLatenessMs

instance (a b : R1SourceWatermark) : Decidable (Follows a b) :=
  decidable_of_iff (a.watermarkSequence < b.watermarkSequence ∧ a.watermarkAt ≤ b.watermarkAt ∧
    a.allowedLatenessMs = b.allowedLatenessMs)
    ⟨fun h => ⟨h.1, h.2.1, h.2.2⟩, fun h => ⟨h.watermarkSequence, h.watermarkAt, h.allowedLatenessMs⟩⟩

theorem Follows.trans {a b c : R1SourceWatermark} (h : Follows a b) (h' : Follows b c) :
    Follows a c where
  watermarkSequence := h.watermarkSequence.trans h'.watermarkSequence
  watermarkAt := h.watermarkAt.trans h'.watermarkAt
  allowedLatenessMs := h.allowedLatenessMs.trans h'.allowedLatenessMs

/-- Of one partition, the later has another id and follows the earlier. -/
def Succeeds (earlier later : R1SourceWatermark) : Prop :=
  earlier.partition = later.partition →
    earlier.watermarkId ≠ later.watermarkId ∧ Follows earlier later

instance : DecidableRel Succeeds := fun _ _ => inferInstanceAs (Decidable (_ → _))

/-- The accepted watermarks of every partition succeed one another. -/
def Valid (ws : List R1SourceWatermark) : Prop := ws.Pairwise Succeeds

/-- A new watermark that succeeds the accepted ones. -/
def Admissible (ws : List R1SourceWatermark) (w : R1SourceWatermark) : Prop :=
  ∀ a ∈ ws, Succeeds a w

instance (ws : List R1SourceWatermark) (w : R1SourceWatermark) : Decidable (Admissible ws w) :=
  inferInstanceAs (Decidable (∀ a ∈ ws, _))

/-- The protocol: a watermark accepted before is a duplicate, one that succeeds the
accepted ones is accepted, and every other one is rejected. -/
def protocolStep (ws : List R1SourceWatermark) (w : R1SourceWatermark) :
    List R1SourceWatermark × WatermarkDecision :=
  if w ∈ ws then (ws, .duplicate)
  else if Admissible ws w then (ws ++ [w], .accepted)
  else (ws, .rejected)

/-- The watermarks that a trace accepted, in their order. -/
def acceptedIn (trace : List (R1SourceWatermark × WatermarkDecision)) : List R1SourceWatermark :=
  (trace.filter fun x => x.2 = .accepted).map Prod.fst

variable {ws : List R1SourceWatermark} {w : R1SourceWatermark} {p : R1StreamPartition}

theorem valid_append_singleton (h : Valid ws) (hw : Admissible ws w) : Valid (ws ++ [w]) := by
  refine List.pairwise_append.mpr ⟨h, List.pairwise_singleton _ _, fun a ha b hb => ?_⟩
  rw [List.mem_singleton.mp hb]
  exact hw a ha

/-- What a step of the protocol accepts is what its answers say. -/
theorem acceptedIn_append (t : List (R1SourceWatermark × WatermarkDecision)) (w : R1SourceWatermark)
    (d : WatermarkDecision) :
    acceptedIn (t ++ [(w, d)]) = if d = .accepted then acceptedIn t ++ [w] else acceptedIn t := by
  by_cases hd : d = .accepted <;> simp [acceptedIn, hd]

theorem protocolStep_fst (ws : List R1SourceWatermark) (w : R1SourceWatermark) :
    (protocolStep ws w).1 = if (protocolStep ws w).2 = .accepted then ws ++ [w] else ws := by
  unfold protocolStep
  split
  · rfl
  · split <;> rfl

theorem protocolStep_valid (h : Valid ws) (w : R1SourceWatermark) : Valid (protocolStep ws w).1 := by
  unfold protocolStep
  split
  · exact h
  · split
    · next hw => exact valid_append_singleton h hw
    · exact h

/-- The accepted watermarks with one partition and id are one. -/
theorem Valid.eq_of_id (h : Valid ws) {a b : R1SourceWatermark} (ha : a ∈ ws) (hb : b ∈ ws)
    (hp : a.partition = b.partition) (hi : a.watermarkId = b.watermarkId) : a = b := by
  by_contra hne
  have hdistinct : ws.Pairwise fun a b => ¬ (a.partition = b.partition ∧ a.watermarkId = b.watermarkId) :=
    h.imp fun hs hc => (hs hc.1).1 hc.2
  have : Std.Symm fun a b : R1SourceWatermark =>
      ¬ (a.partition = b.partition ∧ a.watermarkId = b.watermarkId) :=
    ⟨fun a b hn hc => hn ⟨hc.1.symm, hc.2.symm⟩⟩
  exact hdistinct.forall ha hb hne ⟨hp, hi⟩

/-- The frontier of a partition: its last accepted watermark. -/
def lastOf (ws : List R1SourceWatermark) (p : R1StreamPartition) : Option R1SourceWatermark :=
  (ws.filter fun a => a.partition = p).getLast?

theorem lastOf_append (ws : List R1SourceWatermark) (w : R1SourceWatermark) (p : R1StreamPartition) :
    lastOf (ws ++ [w]) p = if p = w.partition then some w else lastOf ws p := by
  by_cases hp : p = w.partition
  · simp [lastOf, hp]
  · have hne : ¬ w.partition = p := fun h => hp h.symm
    simp [lastOf, hp, hne]

theorem lastOf_eq_none : lastOf ws p = none ↔ ∀ a ∈ ws, a.partition ≠ p := by
  simp [lastOf]

theorem mem_of_lastOf {last : R1SourceWatermark} (h : lastOf ws p = some last) :
    last ∈ ws ∧ last.partition = p := by
  simpa using List.mem_of_getLast? h

/-- Every accepted watermark of a partition is its last one or before it. -/
theorem Valid.follows_lastOf (h : Valid ws) {last : R1SourceWatermark} (hlast : lastOf ws p = some last)
    {a : R1SourceWatermark} (ha : a ∈ ws) (hp : a.partition = p) : a = last ∨ Follows a last := by
  obtain ⟨init, hinit⟩ := List.getLast?_eq_some_iff.mp hlast
  have hmem : a ∈ ws.filter fun a => a.partition = p := List.mem_filter.mpr ⟨ha, by simpa using hp⟩
  have hpair : (ws.filter fun a => a.partition = p).Pairwise Succeeds := h.filter _
  rw [hinit] at hmem hpair
  rcases List.mem_append.mp hmem with hmem | hmem
  · have hs := (List.pairwise_append.mp hpair).2.2 a hmem last (List.mem_singleton_self last)
    exact .inr (hs (hp.trans (mem_of_lastOf hlast).2.symm)).2
  · exact .inl (List.mem_singleton.mp hmem)

/-- It is enough to compare a new watermark with the ids and the frontier. -/
theorem Valid.admissible_iff (h : Valid ws) : Admissible ws w ↔
    (∀ a ∈ ws, a.partition = w.partition → a.watermarkId ≠ w.watermarkId) ∧
      ∀ last, lastOf ws w.partition = some last → Follows last w := by
  constructor
  · intro hw
    refine ⟨fun a ha hp => (hw a ha hp).1, fun last hlast => ?_⟩
    obtain ⟨hmem, hp⟩ := mem_of_lastOf hlast
    exact (hw last hmem hp).2
  · rintro ⟨hids, hlast⟩ a ha hp
    refine ⟨hids a ha hp, ?_⟩
    cases hl : lastOf ws w.partition with
    | none => exact absurd hp (lastOf_eq_none.mp hl a ha)
    | some last =>
      rcases h.follows_lastOf hl ha hp with rfl | hfollows
      · exact hlast a hl
      · exact hfollows.trans (hlast last hl)

/-! ## The guard -/

/-- The guard's dictionaries hold the accepted watermarks. -/
structure GuardHolds (ws : List R1SourceWatermark) (g : R1LateEventGuard) : Prop where
  watermarks : ∀ p, g.watermarks p = (lastOf ws p).map acceptedWatermark
  byIdentity : ∀ p i, g.watermarksByIdentity (p, i) =
    (ws.find? fun a => a.partition = p ∧ a.watermarkId = i).map acceptedWatermark

theorem guardHolds_initial : GuardHolds [] .initial := ⟨fun _ => rfl, fun _ _ => rfl⟩

/-- Watermarks of one partition with the same accepted values are equal. -/
theorem eq_of_acceptedWatermark {a b : R1SourceWatermark} (hp : a.partition = b.partition)
    (h : acceptedWatermark a = acceptedWatermark b) : a = b := by
  cases a
  cases b
  simp only [acceptedWatermark, AcceptedWatermark.mk.injEq, R1AcceptedWatermark.mk.injEq] at h
  simp_all

theorem assertIncreases_eq_ok {a b : R1SourceWatermark} :
    R1LateEventGuard.assertIncreases (acceptedWatermark b) (acceptedWatermark a) = .ok () ↔
      Follows a b := by
  rw [R1LateEventGuard.assertIncreases, raiseIf_bind_eq_ok, raiseIf_bind_eq_ok, raiseIf_eq_ok,
    not_le, not_lt, not_not]
  exact ⟨fun h => ⟨h.1, h.2.1, h.2.2.symm⟩, fun h => ⟨h.1, h.2, h.3.symm⟩⟩

/-- The guard decides as the protocol does. -/
theorem GuardHolds.inspectWatermark (hv : Valid ws) {g : R1LateEventGuard} (h : GuardHolds ws g)
    (w : R1SourceWatermark) :
    WatermarkDecision.of (g.inspectWatermark w) = (protocolStep ws w).2 := by
  unfold R1LateEventGuard.inspectWatermark protocolStep
  rw [h.byIdentity, h.watermarks]
  cases hfind : ws.find? fun a => a.partition = w.partition ∧ a.watermarkId = w.watermarkId with
  | some a =>
    have ha := List.mem_of_find?_eq_some hfind
    obtain ⟨hp, hi⟩ : a.partition = w.partition ∧ a.watermarkId = w.watermarkId := by
      simpa using List.find?_some hfind
    by_cases heq : acceptedWatermark w = acceptedWatermark a
    · have hw : w ∈ ws := eq_of_acceptedWatermark hp.symm heq ▸ ha
      simp [heq, hw, WatermarkDecision.of]
    · have hw : w ∉ ws := fun hw => heq (by rw [hv.eq_of_id hw ha hp.symm hi.symm])
      have hna : ¬ Admissible ws w := fun hadm => (hadm a ha hp).1 hi
      simp [heq, hw, hna, WatermarkDecision.of]
  | none =>
    have hids : ∀ a ∈ ws, a.partition = w.partition → a.watermarkId ≠ w.watermarkId := by
      simpa using hfind
    have hw : w ∉ ws := fun hw => hids w hw rfl rfl
    have hadm : Admissible ws w ↔ ∀ last, lastOf ws w.partition = some last → Follows last w := by
      rw [hv.admissible_iff]
      exact and_iff_right hids
    rw [if_neg hw]
    cases hlast : lastOf ws w.partition with
    | none =>
      have : Admissible ws w := hadm.mpr fun last h' => by rw [hlast] at h'; cases h'
      simp [this, WatermarkDecision.of]
    | some last =>
      have hiff : Admissible ws w ↔ Follows last w := by
        rw [hadm, hlast]
        simp
      by_cases hf : Follows last w
      · have hok := assertIncreases_eq_ok.mpr hf
        simp [hok, hiff, hf, WatermarkDecision.of]
      · cases hok : R1LateEventGuard.assertIncreases (acceptedWatermark w) (acceptedWatermark last) with
        | ok u => exact absurd (assertIncreases_eq_ok.mp hok) hf
        | error e => simp [hok, hiff, hf, WatermarkDecision.of]

theorem GuardHolds.record {g : R1LateEventGuard} (h : GuardHolds ws g)
    (hid : ∀ a ∈ ws, a.partition = w.partition → a.watermarkId ≠ w.watermarkId) :
    GuardHolds (ws ++ [w]) (g.record w) where
  watermarks p := by
    show Function.update g.watermarks w.partition _ p = _
    rw [lastOf_append]
    by_cases hp : p = w.partition
    · simp [hp]
    · rw [Function.update_of_ne hp, if_neg hp]
      exact h.watermarks p
  byIdentity p i := by
    show Function.update g.watermarksByIdentity _ _ (p, i) = _
    rw [List.find?_append]
    by_cases hk : (p, i) = (w.partition, w.watermarkId)
    · obtain ⟨rfl, rfl⟩ := Prod.mk.inj hk
      have hnone : (ws.find? fun a => a.partition = w.partition ∧ a.watermarkId = w.watermarkId) =
          none := by
        simpa using hid
      rw [Function.update_self, hnone]
      simp
    · have hne : ¬ (w.partition = p ∧ w.watermarkId = i) := fun hc => hk (by rw [hc.1, hc.2])
      rw [Function.update_of_ne hk]
      simp [h.byIdentity, hne]

/-- A step of the guard is a step of the protocol. -/
theorem guardStep_spec (hv : Valid ws) {g : R1LateEventGuard} (h : GuardHolds ws g)
    (w : R1SourceWatermark) : (guardStep g w).2 = (protocolStep ws w).2 ∧
      GuardHolds (protocolStep ws w).1 (guardStep g w).1 := by
  have hdecision := h.inspectWatermark hv w
  have hfst := protocolStep_fst ws w
  rw [← hdecision] at hfst ⊢
  unfold guardStep R1LateEventGuard.acceptWatermark
  rw [EStateM.run_bind, run_reads]
  cases hi : g.inspectWatermark w with
  | error e =>
    rw [hi] at hfst
    rw [hfst]
    exact ⟨rfl, h⟩
  | ok accepted =>
    rw [hi] at hfst hdecision
    rw [hfst]
    cases accepted with
    | false => exact ⟨rfl, h⟩
    | true =>
      refine ⟨rfl, h.record fun a ha hp => ?_⟩
      have hadm : Admissible ws w := by
        unfold protocolStep at hdecision
        split at hdecision
        · cases hdecision
        · split at hdecision
          · next hadm => exact hadm
          · cases hdecision
      exact (hadm a ha hp).1

/-! ## The ledger -/

section Ledger

variable (sha256 : CanonicalPayload → D)

/-- The row that the ledger keeps of a watermark. -/
def rowOf (w : R1SourceWatermark) : WatermarkRow D := Ledger.watermarkRow w (sha256 (.watermark w))

/-- The ledger's rows hold the accepted watermarks, and no run is closed. -/
structure LedgerHolds (ws : List R1SourceWatermark) (l : Ledger D) : Prop where
  watermarks : l.watermarks.rows = ws.map (rowOf sha256)
  runCloses : l.runCloses.rows = []

variable {sha256} {l : Ledger D}

theorem ledgerHolds_empty : LedgerHolds sha256 [] .empty := ⟨rfl, rfl⟩

theorem LedgerHolds.mem_iff (h : LedgerHolds sha256 ws l) {r : WatermarkRow D} :
    r ∈ l.watermarks ↔ ∃ a ∈ ws, rowOf sha256 a = r := by
  rw [Table.mem_def, h.watermarks, List.mem_map]

/-- The latest row of a partition is that of its last accepted watermark. -/
theorem LedgerHolds.latestWatermark (hv : Valid ws) (h : LedgerHolds sha256 ws l)
    (p : R1StreamPartition) : l.latestWatermark p = (lastOf ws p).map (rowOf sha256) := by
  cases hlast : lastOf ws p with
  | none =>
    refine Ledger.latestWatermark_eq_none.mpr fun r hr => ?_
    obtain ⟨a, ha, rfl⟩ := h.mem_iff.mp hr
    exact lastOf_eq_none.mp hlast a ha
  | some last =>
    obtain ⟨hmem, hp⟩ := mem_of_lastOf hlast
    refine Ledger.latestWatermark_eq_some.mpr ⟨⟨h.mem_iff.mpr ⟨last, hmem, rfl⟩, hp⟩, ?_⟩
    intro r hr hrp
    obtain ⟨a, ha, rfl⟩ := h.mem_iff.mp hr
    rcases hv.follows_lastOf hlast ha hrp with rfl | hfollows
    · exact le_rfl
    · exact hfollows.watermarkSequence.le

theorem LedgerHolds.admitsWatermark_iff (hv : Valid ws) (h : LedgerHolds sha256 ws l) :
    l.AdmitsWatermark w ↔ Storable (w.watermarkId.val :: w.partition.texts) ∧ Admissible ws w := by
  constructor
  · intro hw
    refine ⟨hw.texts, fun a ha hp => ?_⟩
    have hr : rowOf sha256 a ∈ l.watermarks := h.mem_iff.mpr ⟨a, ha, rfl⟩
    refine ⟨(hw.new _ hr hp).1, ?_⟩
    have hlast := h.latestWatermark hv w.partition
    cases hl : lastOf ws w.partition with
    | none => exact absurd hp (lastOf_eq_none.mp hl a ha)
    | some last =>
      rw [hl] at hlast
      obtain ⟨hs, ht, hlate⟩ := hw.advances _ hlast
      have hfollows : Follows last w := ⟨hs, ht, hlate⟩
      rcases hv.follows_lastOf hl ha hp with rfl | hbefore
      · exact hfollows
      · exact hbefore.trans hfollows
  · rintro ⟨htexts, hw⟩
    refine ⟨htexts, fun r hr => ?_, fun r hr hp => ?_, fun latest hlatest => ?_⟩
    · rw [Table.mem_def, h.runCloses] at hr
      cases hr
    · obtain ⟨a, ha, rfl⟩ := h.mem_iff.mp hr
      obtain ⟨hid, hfollows⟩ := hw a ha hp
      exact ⟨hid, hfollows.watermarkSequence.ne⟩
    · obtain ⟨⟨hr, hp⟩, -⟩ := Ledger.latestWatermark_eq_some.mp hlatest
      obtain ⟨a, ha, rfl⟩ := h.mem_iff.mp hr
      have hfollows := (hw a ha hp).2
      exact ⟨hfollows.watermarkSequence, hfollows.watermarkAt, hfollows.allowedLatenessMs⟩

theorem LedgerHolds.hasWatermark_iff (hinj : Function.Injective sha256)
    (h : LedgerHolds sha256 ws l) :
    l.HasWatermark w (sha256 (.watermark w)) ↔ w ∈ ws := by
  constructor
  · rintro ⟨r, hr, -, -, -, hsha⟩
    obtain ⟨a, ha, rfl⟩ := h.mem_iff.mp hr
    have heq : a = w := CanonicalPayload.watermark.inj (hinj hsha)
    exact heq ▸ ha
  · intro hw
    exact ⟨rowOf sha256 w, h.mem_iff.mpr ⟨w, hw, rfl⟩, rfl, rfl, rfl, rfl⟩

variable [DecidableEq D]

/-- A new watermark is inserted, unless a column cannot hold it. -/
theorem ledgerStep_of_admits (h : l.AdmitsWatermark w) :
    if FitsColumns w then ∃ t, (l.watermarks.insert? (rowOf sha256 w) = some t ∧
      ledgerStep sha256 l w = ({ l with watermarks := t }, .accepted))
    else ledgerStep sha256 l w = (l, .rejected) := by
  have hinspect : l.inspectWatermark w (sha256 (.watermark w)) = .ok true :=
    Ledger.inspectWatermark_eq_ok.mpr (.inr ⟨rfl, h⟩)
  have hfree : ∀ r ∈ l.watermarks, ¬ r.Conflict (rowOf sha256 w) := fun r hr hc =>
    hc.2.elim (h.new r hr hc.1).1 (h.new r hr hc.1).2
  obtain ⟨t, ht⟩ := Table.exists_insert? hfree
  have hread : (reads fun l : Ledger D => l.inspectWatermark w (sha256 (.watermark w))).run l =
      (.ok true l : EStateM.Result PyError (Ledger D) Bool) := run_reads_eq_ok.mpr ⟨hinspect, rfl⟩
  split
  · next hfits =>
    have hinsert : (Ledger.insertWatermark (rowOf sha256 w)).run l =
        .ok true { l with watermarks := t } :=
      Ledger.insertWatermark_eq_ok.mpr ⟨hfits, .inl ⟨t, ht, rfl, rfl⟩⟩
    have hsave : (Ledger.saveWatermark w (sha256 (.watermark w))).run l =
        .ok true { l with watermarks := t } := by
      rw [Ledger.saveWatermark, run_bind_eq_ok]
      refine ⟨true, l, hread, run_bind_eq_ok.mpr ⟨true, _, hinsert, rfl⟩⟩
    refine ⟨t, ht, ?_⟩
    rw [ledgerStep, hsave]
    rfl
  · next hfits =>
    have hsave : ∀ b l', (Ledger.saveWatermark w (sha256 (.watermark w))).run l ≠ .ok b l' := by
      intro b l' hok
      rw [Ledger.saveWatermark, run_bind_of_ok hread] at hok
      obtain ⟨_, _, hinsert, -⟩ := run_bind_eq_ok.mp hok
      exact hfits (Ledger.insertWatermark_eq_ok.mp hinsert).1
    rw [ledgerStep]
    cases hrun : (Ledger.saveWatermark w (sha256 (.watermark w))).run l with
    | ok b l' => exact absurd hrun (hsave b l')
    | error e l' => rfl

/-- A step of the ledger is a step of the protocol, unless the protocol accepts what
a column cannot hold; then the ledger rejects it. -/
theorem ledgerStep_spec (hinj : Function.Injective sha256) (hv : Valid ws)
    (h : LedgerHolds sha256 ws l) (w : R1SourceWatermark) :
    if (protocolStep ws w).2 = .accepted ∧ ¬ FitsColumns w then ledgerStep sha256 l w = (l, .rejected)
    else (ledgerStep sha256 l w).2 = (protocolStep ws w).2 ∧
      LedgerHolds sha256 (protocolStep ws w).1 (ledgerStep sha256 l w).1 := by
  have hhas : l.HasWatermark w (sha256 (.watermark w)) ↔ w ∈ ws := h.hasWatermark_iff hinj
  have hadmits : l.AdmitsWatermark w ↔
      Storable (w.watermarkId.val :: w.partition.texts) ∧ Admissible ws w := h.admitsWatermark_iff hv
  by_cases hw : w ∈ ws
  · have hinspect : l.inspectWatermark w (sha256 (.watermark w)) = .ok false :=
      Ledger.inspectWatermark_eq_ok.mpr (.inl ⟨rfl, hhas.mpr hw⟩)
    have hstep : ledgerStep sha256 l w = (l, .duplicate) := by
      rw [ledgerStep, Ledger.saveWatermark, EStateM.run_bind, run_reads, hinspect]
      rfl
    rw [hstep]
    simp [protocolStep, hw, h]
  · by_cases hadm : l.AdmitsWatermark w
    · have hinsert := @ledgerStep_of_admits _ w sha256 _ _ hadm
      have hadm := (hadmits.mp hadm).2
      by_cases hfits : FitsColumns w
      · rw [if_pos hfits] at hinsert
        obtain ⟨t, ht, hstep⟩ := hinsert
        rw [hstep]
        have hholds : LedgerHolds sha256 (ws ++ [w]) { l with watermarks := t } := by
          refine ⟨?_, h.runCloses⟩
          rw [(Table.insert?_eq_some.mp ht).2, h.watermarks, List.map_append, List.map_singleton]
        simp [protocolStep, hw, hadm, hfits, hholds]
      · rw [if_neg hfits] at hinsert
        simp [protocolStep, hw, hadm, hfits, hinsert]
    · have hinspect : ∀ b, l.inspectWatermark w (sha256 (.watermark w)) ≠ .ok b := by
        intro b hb
        rcases Ledger.inspectWatermark_eq_ok.mp hb with ⟨-, hb⟩ | ⟨-, hb⟩
        · exact hw (hhas.mp hb)
        · exact hadm hb
      have hstep : ledgerStep sha256 l w = (l, .rejected) := by
        rw [ledgerStep, Ledger.saveWatermark, EStateM.run_bind, run_reads]
        cases hi : l.inspectWatermark w (sha256 (.watermark w)) with
        | ok b => exact absurd hi (hinspect b)
        | error e => rfl
      rw [hstep]
      by_cases hproto : Admissible ws w
      · have hfits : ¬ FitsColumns w := fun hf => hadm (hadmits.mpr ⟨hf.1, hproto⟩)
        simp [protocolStep, hw, hproto, hfits]
      · simp [protocolStep, hw, hproto, h]

/-! ## Sequences of watermarks -/

/-- After any sequence of watermarks the guard holds what it accepted. -/
theorem guard_run (ws : List R1SourceWatermark) :
    GuardHolds (acceptedIn (trace guardStep .initial ws)) (after guardStep .initial ws) ∧
      Valid (acceptedIn (trace guardStep .initial ws)) := by
  refine run_trace_induction guardStep (P := fun g t => GuardHolds (acceptedIn t) g ∧
    Valid (acceptedIn t)) ⟨guardHolds_initial, .nil⟩ ?_ ws
  rintro g t w ⟨h, hv⟩
  obtain ⟨hdecision, hholds⟩ := guardStep_spec hv h w
  have hacc : acceptedIn (t ++ [(w, (guardStep g w).2)]) = (protocolStep (acceptedIn t) w).1 := by
    rw [acceptedIn_append, hdecision, protocolStep_fst]
  rw [hacc]
  exact ⟨hholds, protocolStep_valid hv w⟩

/-- After any sequence of watermarks the ledger holds what it accepted. -/
theorem ledger_run (hinj : Function.Injective sha256) (ws : List R1SourceWatermark) :
    LedgerHolds sha256 (acceptedIn (trace (ledgerStep sha256) .empty ws))
        (after (ledgerStep sha256) .empty ws) ∧
      Valid (acceptedIn (trace (ledgerStep sha256) .empty ws)) ∧
      ∀ w ∈ acceptedIn (trace (ledgerStep sha256) .empty ws), FitsColumns w := by
  refine run_trace_induction (ledgerStep sha256) (P := fun l t => LedgerHolds sha256 (acceptedIn t) l ∧
    Valid (acceptedIn t) ∧ ∀ w ∈ acceptedIn t, FitsColumns w)
    ⟨ledgerHolds_empty, .nil, fun w hw => absurd hw List.not_mem_nil⟩ ?_ ws
  rintro l t w ⟨h, hv, hfits⟩
  have hspec := ledgerStep_spec hinj hv h w
  split at hspec
  · rw [hspec, acceptedIn_append]
    exact ⟨h, hv, hfits⟩
  · next hnot =>
    obtain ⟨hdecision, hholds⟩ := hspec
    have hacc : acceptedIn (t ++ [(w, (ledgerStep sha256 l w).2)]) =
        (protocolStep (acceptedIn t) w).1 := by
      rw [acceptedIn_append, hdecision, protocolStep_fst]
    rw [hacc]
    refine ⟨hholds, protocolStep_valid hv w, fun a ha => ?_⟩
    rw [protocolStep_fst] at ha
    split at ha
    · next haccepted =>
      rcases List.mem_append.mp ha with ha | ha
      · exact hfits a ha
      · rw [List.mem_singleton.mp ha]
        by_contra hnf
        exact hnot ⟨haccepted, hnf⟩
    · exact hfits a ha

/-- Where the rows can hold what the guard accepts, the two answer alike. -/
theorem trace_eq (hinj : Function.Injective sha256) (ws : List R1SourceWatermark)
    (hfits : ∀ w ∈ acceptedIn (trace guardStep .initial ws), FitsColumns w) :
    trace (ledgerStep sha256) .empty ws = trace guardStep .initial ws := by
  induction ws using List.reverseRecOn with
  | nil => rfl
  | append_singleton ws w ih =>
    have hguard := guard_run ws
    have hledger := ledger_run hinj ws
    rw [trace, run_snoc, acceptedIn_append] at hfits
    have hprefix : ∀ a ∈ acceptedIn (trace guardStep .initial ws), FitsColumns a := by
      intro a ha
      apply hfits
      split
      · exact List.mem_append_left _ ha
      · exact ha
    have heq := ih hprefix
    rw [heq] at hledger
    have hgs := (guardStep_spec hguard.2 hguard.1 w).1
    have hls := ledgerStep_spec hinj hledger.2.1 hledger.1 w
    have hnot : ¬ ((protocolStep (acceptedIn (trace guardStep .initial ws)) w).2 = .accepted ∧
        ¬ FitsColumns w) := by
      rintro ⟨haccepted, hnf⟩
      refine hnf (hfits w ?_)
      rw [if_pos (hgs.trans haccepted)]
      exact List.mem_append_right _ (List.mem_singleton_self w)
    rw [if_neg hnot] at hls
    have hsnoc : trace (ledgerStep sha256) .empty (ws ++ [w]) = _ := congrArg Prod.snd (run_snoc ..)
    have hsnoc' : trace guardStep .initial (ws ++ [w]) = _ := congrArg Prod.snd (run_snoc ..)
    rw [hsnoc, hsnoc', heq, hls.1, hgs]

/-- For every sequence of watermarks, over any partitions: the guard and the ledger
take the same decisions exactly if the columns can hold every watermark that the
guard accepts, and then they end with the same frontier of every partition. In
both, the accepted watermarks of a partition follow one another. -/
theorem acceptWatermark_refines_saveWatermark (hinj : Function.Injective sha256)
    (ws : List R1SourceWatermark) :
    (trace (ledgerStep sha256) .empty ws = trace guardStep .initial ws ↔
        ∀ w ∈ acceptedIn (trace guardStep .initial ws), FitsColumns w) ∧
      ((∀ w ∈ acceptedIn (trace guardStep .initial ws), FitsColumns w) →
        ∀ p, ((after guardStep .initial ws).watermarks p).map (·.toR1AcceptedWatermark) =
          ((after (ledgerStep sha256) .empty ws).latestWatermark p).map (·.accepted)) ∧
      ((acceptedIn (trace guardStep .initial ws)).Pairwise fun a b =>
        a.partition = b.partition → Follows a b) ∧
      (acceptedIn (trace (ledgerStep sha256) .empty ws)).Pairwise fun a b =>
        a.partition = b.partition → Follows a b := by
  obtain ⟨hguard, hgv⟩ := guard_run ws
  obtain ⟨hledger, hlv, hlf⟩ := ledger_run hinj ws
  refine ⟨⟨fun heq => ?_, trace_eq hinj ws⟩, fun hfits p => ?_, ?_, ?_⟩
  · rw [← heq]
    exact hlf
  · rw [trace_eq hinj ws hfits] at hledger
    rw [hguard.watermarks, hledger.latestWatermark hgv, Option.map_map, Option.map_map]
    rfl
  · exact hgv.imp fun hs hp => (hs hp).2
  · exact hlv.imp fun hs hp => (hs hp).2

end Ledger

/-! ## Chunks -/

/-- After any sequence of watermarks, a chunk goes through the guard, which then
leaves the sink alone, exactly if all its Events are after the last accepted
watermark of its partition. -/
theorem guard_acceptChunk_iff (ws : List R1SourceWatermark) (sink : DeadLetterSink S)
    (now : PyDatetime) (c : R1EventChunk D) (s s' : S) :
    ((after guardStep .initial ws).acceptChunk sink now c).run s = .ok () s' ↔ s' = s ∧
      ∀ last, lastOf (acceptedIn (trace guardStep .initial ws)) c.partition = some last →
        ∀ e ∈ c.events, last.watermarkAt < e.timestamp := by
  unfold R1LateEventGuard.acceptChunk
  rw [(guard_run ws).1.watermarks]
  cases lastOf (acceptedIn (trace guardStep .initial ws)) c.partition with
  | none => simp [eq_comm]
  | some last =>
    have hviolating : R1LateEventGuard.violatingEventIds c (acceptedWatermark last) = [] ↔
        ∀ e ∈ c.events, last.watermarkAt < e.timestamp := by
      rw [R1LateEventGuard.violatingEventIds, List.map_eq_nil_iff, List.filter_eq_nil_iff]
      refine forall₂_congr fun e _ => ?_
      rw [decide_eq_true_iff]
      exact not_le
    simp only [Option.map_some, Option.some.injEq, forall_eq', ← hviolating]
    split
    · next hnone => simp [hnone, eq_comm]
    · next hsome =>
      simp only [hsome, and_false, iff_false]
      intro h
      obtain ⟨letter, s₁, -, h⟩ := run_bind_eq_ok.mp h
      obtain ⟨_, s₂, -, h⟩ := run_bind_eq_ok.mp h
      cases h

namespace Sample

/-- The guard after `watermark₁`, with a sink that keeps how many letters it was given. -/
def guarded (c : R1EventChunk CanonicalPayload) : EStateM.Result PyError Nat Unit :=
  ((after guardStep .initial [watermark₁]).acceptChunk ⟨fun _ => modify (· + 1)⟩
    (.aware 2500000 0) c).run 0

theorem lastOf_watermark₁ :
    lastOf (acceptedIn (trace guardStep .initial [watermark₁])) partition = some watermark₁ := by
  decide

end Sample

open Sample in
/-- A chunk of an instant after the watermark goes through, and one of an instant before it
does not. -/
theorem guard_acceptChunk_iff_watermark₁ :
    guarded laterChunk = .ok () 0 ∧ ∀ n, guarded chunk₂ ≠ .ok () n := by
  refine ⟨(guard_acceptChunk_iff _ _ _ _ _ _).mpr ⟨rfl, fun last hlast e he => ?_⟩, fun n h => ?_⟩
  · obtain rfl := Option.some.inj (hlast.symm.trans lastOf_watermark₁)
    obtain rfl := List.mem_singleton.mp he
    decide
  · have hafter := ((guard_acceptChunk_iff _ _ _ _ _ _).mp h).2 watermark₁ lastOf_watermark₁ _
      List.mem_cons_self
    exact absurd hafter (by decide)

/-! ## A watermark that no row can hold -/

namespace Sample

/-- A watermark whose sequence is beyond INTEGER. -/
def watermarkBeyondInteger : R1SourceWatermark :=
  watermark ⟨"wm-2147483648", by decide, by decide⟩ 2147483648 2000 1 (by decide) Nat.one_pos

/-- A watermark with U+0000 in its id. -/
def watermarkWithNul : R1SourceWatermark :=
  watermark ⟨"wm-\x00", by decide, by decide⟩ 1 2000 1 Nat.one_pos Nat.one_pos

end Sample

/-- The guard accepts a watermark whose sequence is beyond INTEGER, and one with
U+0000 in its id; the ledger rejects both. -/
theorem saveWatermark_refuses_beyondInteger :
    (trace guardStep .initial [Sample.watermarkBeyondInteger] =
        [(Sample.watermarkBeyondInteger, .accepted)] ∧
      trace (ledgerStep id) .empty [Sample.watermarkBeyondInteger] =
        [(Sample.watermarkBeyondInteger, .rejected)]) ∧
    trace guardStep .initial [Sample.watermarkWithNul] = [(Sample.watermarkWithNul, .accepted)] ∧
      trace (ledgerStep id) .empty [Sample.watermarkWithNul] =
        [(Sample.watermarkWithNul, .rejected)] := by
  decide

theorem acceptWatermark_refines_saveWatermark_watermark₁ :
    trace (ledgerStep id) .empty [Sample.watermark₁, Sample.watermark₁] =
        trace guardStep .initial [Sample.watermark₁, Sample.watermark₁] ↔
      ∀ w ∈ acceptedIn (trace guardStep .initial [Sample.watermark₁, Sample.watermark₁]),
        FitsColumns w :=
  (acceptWatermark_refines_saveWatermark Function.injective_id
    [Sample.watermark₁, Sample.watermark₁]).1

end IncidentAwareness.Stream
