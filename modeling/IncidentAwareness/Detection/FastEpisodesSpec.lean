import IncidentAwareness.Detection.FastEpisodes
import IncidentAwareness.Detection.FastHitsSpec
import IncidentAwareness.Lib.Sessions

/-!
# What the development episodes group

* `Grouping.Represents`: the loop's variables stand for lists of hits that are the sessions
  of the records read so far;
* `represents_foldlM`, `exists_foldlM_iff`: what a run of the loop makes of them, and when it
  returns;
* `groupHits_eq_ok`, `groupHits_perm`: the episodes of a list of hits;
* `exists_groupEpisodes_iff`: the gaps with which the grouping and the text of its version
  return;
* `fastStarts_of_agrees`: the pair that the evaluation accepts;
* `EpisodeInputs.Observed.agrees_iff`, `fastEpisodes_iff`: when the episodes of a handoff are
  those of its hits and agree with its Fast result.
-/

namespace IncidentAwareness.Detection

open IncidentAwareness.Common IncidentAwareness.Evaluation IncidentAwareness.Lib

/-! ## The loop -/

/-- Whether a hit is less than the gap after another. -/
def follows (policy : DevelopmentEpisodePolicy) (a b : FastHitRecord) : Bool :=
  b.val.timestamp - a.val.timestamp < (policy.inactivityGapSec : Int) * 1000

/-- The group that stands for a list of hits. -/
def groupOf : List FastHitRecord → EpisodeGroup
  | [] => ⟨0, "", []⟩
  | hit :: hits => ⟨hit.val.timestamp, hit.val.alertKey, (hit :: hits).map fun h => h.val.hitId⟩

theorem groupOf_snoc {g : List FastHitRecord} (hg : g ≠ []) (hit : FastHitRecord) :
    groupOf (g ++ [hit]) = (groupOf g).append hit.val.hitId := by
  cases g with
  | nil => exact absurd rfl hg
  | cons h hits => simp [groupOf, EpisodeGroup.append]

/-- The alert key of a hit. -/
abbrev alertKeyOf (hit : FastHitRecord) : String := hit.val.alertKey

/-- The loop's variables stand for groups of the records. -/
structure Grouping.Represents (policy : DevelopmentEpisodePolicy) (s : Grouping)
    (records : List FastHitRecord) (gs : List (List FastHitRecord)) : Prop where
  groups : s.groups = gs.map groupOf
  sessions : IsSessions alertKeyOf (follows policy) records gs
  inactive : ∀ key, s.active key = none → ∀ h ∈ records, alertKeyOf h ≠ key
  last : ∀ key t i, s.active key = some (t, i) → ∃ g hit, gs[i]? = some g ∧
    groupKey alertKeyOf g = some key ∧ g.getLast? = some hit ∧ hit.val.timestamp = t ∧
    ∀ j g', i < j → gs[j]? = some g' → groupKey alertKeyOf g' ≠ some key
  ordered : (gs.map fun g => (groupOf g).startTime).Pairwise (· ≤ ·)
  first : gs.head?.bind List.head? = records.head?

namespace Grouping.Represents

variable {policy : DevelopmentEpisodePolicy} {s : Grouping} {records : List FastHitRecord}
  {gs : List (List FastHitRecord)} {hit : FastHitRecord}

theorem nil : Grouping.Represents policy {} [] [] where
  groups := rfl
  sessions := IsSessions.nil
  inactive _ _ _ h := absurd h List.not_mem_nil
  last _ _ _ h := nomatch h
  ordered := List.Pairwise.nil
  first := rfl

/-- A group starts with one of the records. -/
theorem startTime_mem (h : s.Represents policy records gs) {g : List FastHitRecord} (hg : g ∈ gs) :
    ∃ first ∈ records, (groupOf g).startTime = first.val.timestamp := by
  cases g with
  | nil => exact absurd hg h.sessions.nonempty
  | cons first rest =>
    refine ⟨first, h.sessions.perm.subset ?_, rfl⟩
    exact List.mem_flatten.mpr ⟨_, hg, List.mem_cons_self⟩

/-- A hit that comes after the records opens a group. -/
theorem openGroup (h : s.Represents policy records gs)
    (hafter : ∀ first ∈ records, first.val.timestamp ≤ hit.val.timestamp)
    (hr : ∀ b ∈ (records.filter fun b => alertKeyOf b = alertKeyOf hit).getLast?,
      follows policy b hit = false) :
    (s.openGroup hit).Represents policy (records ++ [hit]) (gs ++ [[hit]]) where
  groups := by simp [Grouping.openGroup, h.groups, groupOf]
  sessions := h.sessions.opens hr
  inactive key hkey first hfirst := by
    by_cases hsame : key = hit.val.alertKey
    · rw [hsame, openGroup_active_self] at hkey
      cases hkey
    · rw [openGroup_active_of_ne s hsame] at hkey
      rcases List.mem_append.mp hfirst with hfirst | hfirst
      · exact h.inactive key hkey first hfirst
      · rw [List.mem_singleton.mp hfirst]
        exact Ne.symm hsame
  last key t i hkey := by
    have hlength : s.groups.length = gs.length := by rw [h.groups, List.length_map]
    by_cases hsame : key = hit.val.alertKey
    · rw [hsame, openGroup_active_self] at hkey
      obtain ⟨rfl, rfl⟩ := Prod.mk.inj (Option.some.inj hkey)
      rw [hlength, hsame]
      refine ⟨[hit], hit, by simp, rfl, rfl, rfl, fun j g' hj hg' => ?_⟩
      rw [List.getElem?_eq_none (by simp; omega)] at hg'
      cases hg'
    · rw [openGroup_active_of_ne s hsame] at hkey
      obtain ⟨g, last, hg, hgkey, hlast, htime, hlater⟩ := h.last key t i hkey
      have hi : i < gs.length := List.getElem?_eq_some_iff.mp hg |>.1
      refine ⟨g, last, by rw [List.getElem?_append_left hi, hg], hgkey, hlast, htime, ?_⟩
      intro j g' hj hg'
      by_cases hjlength : j < gs.length
      · rw [List.getElem?_append_left hjlength] at hg'
        exact hlater j g' hj hg'
      · rw [List.getElem?_append_right (by omega)] at hg'
        rw [List.mem_singleton.mp (List.mem_of_getElem? hg')]
        simpa [groupKey] using Ne.symm hsame
  ordered := by
    rw [List.map_append, List.pairwise_append]
    refine ⟨h.ordered, List.pairwise_singleton _ _, ?_⟩
    intro a ha b hb
    rw [List.map_singleton, List.mem_singleton] at hb
    obtain ⟨g, hg, rfl⟩ := List.mem_map.mp ha
    obtain ⟨first, hfirst, hstart⟩ := h.startTime_mem hg
    rw [hstart, hb]
    exact hafter first hfirst
  first := by
    cases gs with
    | nil =>
      have hrecords : records = [] := List.nil_perm.mp h.sessions.perm
      rw [hrecords]
      rfl
    | cons g gs =>
      have hfirst := h.first
      have hg : g ≠ [] := fun hg => h.sessions.nonempty (by simp [hg])
      obtain ⟨first, rest, rfl⟩ := List.exists_cons_of_ne_nil hg
      have hhead : some first = records.head? := hfirst
      have happend : (records ++ [hit]).head? = some first := by rw [List.head?_append, ← hhead]; rfl
      rw [happend]
      rfl

/-- A hit joins the last group of its key. -/
theorem joinGroup (h : s.Represents policy records gs) {g : List FastHitRecord} {i : Nat}
    (hg : gs[i]? = some g) (hkey : groupKey alertKeyOf g = some (alertKeyOf hit))
    (hlater : ∀ (j : Nat) (g' : List FastHitRecord), i < j → gs[j]? = some g' →
      groupKey alertKeyOf g' ≠ some (alertKeyOf hit))
    (hr : ∀ b ∈ g.getLast?, follows policy b hit = true) :
    (s.joinGroup i hit).Represents policy (records ++ [hit])
      (gs.modify i fun g => g ++ [hit]) := by
  obtain ⟨hi, hgi⟩ := List.getElem?_eq_some_iff.mp hg
  have hne : g ≠ [] := fun hnil => h.sessions.nonempty (hnil ▸ hgi ▸ List.getElem_mem hi)
  have hkeys : ∀ j : Nat, ((gs.modify i fun g => g ++ [hit])[j]?).map (groupKey alertKeyOf) =
      (gs[j]?).map (groupKey alertKeyOf) := by
    intro j
    by_cases hj : i = j
    · subst hj
      rw [List.getElem?_modify_eq, hg]
      exact congrArg some (groupKey_snoc hne)
    · rw [List.getElem?_modify_ne _ _ hj]
  refine ⟨?_, ?_, ?_, ?_, ?_, ?_⟩
  · rw [Grouping.joinGroup, h.groups]
    refine List.ext_getElem? fun j => ?_
    by_cases hj : i = j
    · subst hj
      rw [List.getElem?_modify_eq, List.getElem?_map, List.getElem?_map, List.getElem?_modify_eq, hg]
      exact congrArg some (groupOf_snoc hne hit).symm
    · rw [List.getElem?_modify_ne _ _ hj, List.getElem?_map, List.getElem?_map,
        List.getElem?_modify_ne _ _ hj]
  · have hsplit : gs = gs.take i ++ g :: gs.drop (i + 1) := by
      rw [← hgi, List.getElem_cons_drop, List.take_append_drop]
    have hmodify : gs.modify i (fun g => g ++ [hit]) =
        gs.take i ++ (g ++ [hit]) :: gs.drop (i + 1) := by
      rw [List.modify_eq_take_cons_drop hi, hgi]
    rw [hmodify]
    rw [hsplit] at h
    refine h.sessions.joins hkey (fun g' hg' => ?_) hr
    obtain ⟨j, hj⟩ := List.mem_iff_getElem?.mp hg'
    rw [List.getElem?_drop] at hj
    exact hlater (i + 1 + j) g' (by omega) hj
  · intro key hinactive first hfirst
    by_cases hsame : key = hit.val.alertKey
    · rw [hsame, joinGroup_active_self] at hinactive
      cases hinactive
    · rw [joinGroup_active_of_ne s i hsame] at hinactive
      rcases List.mem_append.mp hfirst with hfirst | hfirst
      · exact h.inactive key hinactive first hfirst
      · rw [List.mem_singleton.mp hfirst]
        exact Ne.symm hsame
  · intro key t j hactive
    have hlaters : ∀ (k : Nat) (g' : List FastHitRecord), (gs.modify i fun g => g ++ [hit])[k]? = some g' →
        ∃ g₀, gs[k]? = some g₀ ∧ groupKey alertKeyOf g₀ = groupKey alertKeyOf g' := by
      intro k g' hg'
      have hmap := hkeys k
      rw [hg', Option.map_some] at hmap
      exact Option.map_eq_some_iff.mp hmap.symm
    by_cases hsame : key = hit.val.alertKey
    · rw [hsame, joinGroup_active_self] at hactive
      obtain ⟨rfl, rfl⟩ := Prod.mk.inj (Option.some.inj hactive)
      refine ⟨g ++ [hit], hit, ?_, by rw [groupKey_snoc hne, hkey, hsame], by simp, rfl, ?_⟩
      · rw [List.getElem?_modify_eq, hg]
        rfl
      · intro k g' hk hg'
        obtain ⟨g₀, hg₀, hsamekey⟩ := hlaters k g' hg'
        rw [← hsamekey, hsame]
        exact hlater k g₀ hk hg₀
    · rw [joinGroup_active_of_ne s i hsame] at hactive
      obtain ⟨g₁, last, hg₁, hg₁key, hlast, htime, hafter⟩ := h.last key t j hactive
      have hij : i ≠ j := by
        rintro rfl
        rw [hg, Option.some.injEq] at hg₁
        rw [← hg₁, hkey, Option.some.injEq] at hg₁key
        exact hsame hg₁key.symm
      refine ⟨g₁, last, ?_, hg₁key, hlast, htime, fun k g' hk hg' => ?_⟩
      · rw [List.getElem?_modify_ne _ _ hij, hg₁]
      · obtain ⟨g₀, hg₀, hsamekey⟩ := hlaters k g' hg'
        rw [← hsamekey]
        exact hafter k g₀ hk hg₀
  · have hstarts : ((gs.modify i fun g => g ++ [hit]).map fun g => (groupOf g).startTime) =
        gs.map fun g => (groupOf g).startTime := by
      refine List.ext_getElem? fun j => ?_
      rw [List.getElem?_map, List.getElem?_map]
      by_cases hj : i = j
      · subst hj
        rw [List.getElem?_modify_eq, hg]
        exact congrArg (fun group => some group.startTime) (groupOf_snoc hne hit)
      · rw [List.getElem?_modify_ne _ _ hj]
    rw [hstarts]
    exact h.ordered
  · have hfirst := h.first
    obtain ⟨first, rest, hrecords⟩ : ∃ first rest, records = first :: rest := by
      refine List.exists_cons_of_ne_nil fun hnil => hne ?_
      have hflatten : gs.flatten = [] := List.perm_nil.mp (hnil ▸ h.sessions.perm)
      exact List.flatten_eq_nil_iff.mp hflatten g (hgi ▸ List.getElem_mem hi)
    rw [hrecords] at hfirst ⊢
    have hhead : (gs.modify i fun g => g ++ [hit]).head? = (gs.modify i fun g => g ++ [hit])[0]? :=
      List.head?_eq_getElem?
    rw [List.head?_eq_getElem?] at hfirst
    rw [hhead]
    by_cases hzero : i = 0
    · subst hzero
      rw [hg] at hfirst
      rw [List.getElem?_modify_eq, hg]
      show (g ++ [hit]).head? = some first
      rw [List.head?_append_of_ne_nil g hne]
      exact hfirst
    · rw [List.getElem?_modify_ne _ _ hzero]
      exact hfirst

/-- The last record of an active key, with the group that it stands in. -/
theorem getLast?_records (h : s.Represents policy records gs) {t : UtcMillis} {i : Nat}
    (hactive : s.active hit.val.alertKey = some (t, i)) :
    ∃ g last, gs[i]? = some g ∧ groupKey alertKeyOf g = some (alertKeyOf hit) ∧
      (∀ (j : Nat) (g' : List FastHitRecord), i < j → gs[j]? = some g' →
        groupKey alertKeyOf g' ≠ some (alertKeyOf hit)) ∧
      g.getLast? = some last ∧ last.val.timestamp = t ∧
      (records.filter fun b => alertKeyOf b = alertKeyOf hit).getLast? = some last := by
  obtain ⟨g, last, hg, hkey, hlast, htime, hlater⟩ := h.last _ t i hactive
  obtain ⟨hi, hgi⟩ := List.getElem?_eq_some_iff.mp hg
  refine ⟨g, last, hg, hkey, hlater, hlast, htime, ?_⟩
  have hsplit : gs = gs.take i ++ g :: gs.drop (i + 1) := by
    rw [← hgi, List.getElem_cons_drop, List.take_append_drop]
  have hsessions := h.sessions
  rw [hsplit] at hsessions
  rw [hsessions.getLast?_filter hkey fun g' hg' => ?_, hlast]
  obtain ⟨j, hj⟩ := List.mem_iff_getElem?.mp hg'
  rw [List.getElem?_drop] at hj
  exact hlater (i + 1 + j) g' (by omega) hj

/-- The key of an active group is the key of a record. -/
theorem exists_record (h : s.Represents policy records gs) {t : UtcMillis} {i : Nat}
    (hactive : s.active hit.val.alertKey = some (t, i)) :
    ∃ b ∈ records, alertKeyOf b = alertKeyOf hit := by
  obtain ⟨-, last, -, -, -, -, -, hlast⟩ := h.getLast?_records hactive
  have hmem := List.mem_of_getLast? hlast
  exact ⟨last, List.mem_of_mem_filter hmem, by simpa using (List.mem_filter.mp hmem).2⟩

end Grouping.Represents

theorem timedeltaSeconds_eq_ok {seconds : Nat} {gap : Int} :
    timedeltaSeconds seconds = .ok gap ↔ seconds < timedeltaSecondsLimit ∧ gap = seconds * 1000 := by
  rw [timedeltaSeconds, raiseIf_bind_eq_ok, Except.pure_eq_ok, Nat.not_le]

section Run

variable {policy : DevelopmentEpisodePolicy} {start stop : UtcMillis} {s s' : Grouping}
  {records hits : List FastHitRecord} {gs : List (List FastHitRecord)} {hit : FastHitRecord}

/-- What one turn makes of the groups. -/
theorem represents_addHit (h : s.Represents policy records gs)
    (hafter : ∀ first ∈ records, first.val.timestamp ≤ hit.val.timestamp)
    (hstep : s.addHit policy start stop hit = .ok s') :
    ∃ gs', s'.Represents policy (records ++ [hit]) gs' := by
  unfold Grouping.addHit at hstep
  rw [raiseIf_bind_eq_ok] at hstep
  replace hstep := hstep.2
  split at hstep
  · next hinactive =>
    rw [Except.pure_eq_ok.mp hstep]
    refine ⟨_, h.openGroup hafter fun b hb => ?_⟩
    have hmem := List.mem_filter.mp (List.mem_of_getLast? hb)
    exact absurd (of_decide_eq_true hmem.2) (h.inactive _ hinactive b hmem.1)
  · next last position hactive =>
    rw [Except.bind_eq_ok] at hstep
    obtain ⟨gap, hgap, hstep⟩ := hstep
    obtain ⟨-, rfl⟩ := timedeltaSeconds_eq_ok.mp hgap
    obtain ⟨g, b, hg, hkey, hlater, hlast, rfl, hrecords⟩ := h.getLast?_records hactive
    rw [Except.pure_eq_ok.mp hstep]
    split
    · next hge =>
      refine ⟨_, h.openGroup hafter fun b' hb' => ?_⟩
      rw [hrecords, Option.mem_some_iff] at hb'
      subst hb'
      exact decide_eq_false (not_lt.mpr hge)
    · next hlt =>
      refine ⟨_, h.joinGroup hg hkey hlater fun b' hb' => ?_⟩
      rw [hlast, Option.mem_some_iff] at hb'
      subst hb'
      exact decide_eq_true (not_le.mp hlt)

/-- When a turn returns. -/
theorem exists_addHit_iff (h : s.Represents policy records gs) :
    (∃ s', s.addHit policy start stop hit = .ok s') ↔
      (start ≤ hit.val.timestamp ∧ hit.val.timestamp ≤ stop) ∧
      (policy.inactivityGapSec < timedeltaSecondsLimit ∨
        ∀ b ∈ records, alertKeyOf b ≠ alertKeyOf hit) := by
  unfold Grouping.addHit
  simp only [raiseIf_bind_eq_ok, not_not, exists_and_left]
  refine and_congr_right fun _ => ?_
  cases hactive : s.active hit.val.alertKey with
  | none =>
    exact ⟨fun _ => .inr (h.inactive _ hactive), fun _ => ⟨_, rfl⟩⟩
  | some pair =>
    obtain ⟨t, i⟩ := pair
    obtain ⟨b, hb, hkey⟩ := h.exists_record hactive
    constructor
    · rintro ⟨s', hstep⟩
      obtain ⟨gap, hgap, -⟩ := Except.bind_eq_ok.mp hstep
      exact .inl (timedeltaSeconds_eq_ok.mp hgap).1
    · rintro (hgap | hnone)
      · exact ⟨_, Except.bind_eq_ok.mpr ⟨_, timedeltaSeconds_eq_ok.mpr ⟨hgap, rfl⟩, rfl⟩⟩
      · exact absurd hkey (hnone b hb)

/-- Hits whose alert keys are new, in the order in which they come. -/
def NewKeys (records hits : List FastHitRecord) : Prop :=
  (hits.map alertKeyOf).Nodup ∧ ∀ b ∈ records, ∀ hit ∈ hits, alertKeyOf b ≠ alertKeyOf hit

theorem newKeys_cons : NewKeys records (hit :: hits) ↔
    (∀ b ∈ records, alertKeyOf b ≠ alertKeyOf hit) ∧ NewKeys (records ++ [hit]) hits := by
  unfold NewKeys
  simp only [List.map_cons, List.nodup_cons, List.mem_map, List.mem_append, List.mem_cons,
    List.not_mem_nil, or_false, not_exists, not_and]
  constructor
  · rintro ⟨⟨hfirst, hnodup⟩, hrecords⟩
    refine ⟨fun b hb => hrecords b hb hit (.inl rfl), hnodup, ?_⟩
    rintro b (hb | rfl) h hh
    · exact hrecords b hb h (.inr hh)
    · exact fun hkey => hfirst h hh hkey.symm
  · rintro ⟨hfirst, hnodup, hrest⟩
    refine ⟨⟨fun h hh hkey => hrest hit (.inr rfl) h hh hkey.symm, hnodup⟩, ?_⟩
    rintro b hb h (rfl | hh)
    · exact hfirst b hb
    · exact hrest b (.inl hb) h hh

/-- What a run of the loop makes of the groups. -/
theorem represents_foldlM (h : s.Represents policy records gs)
    (hsorted : (records ++ hits).Pairwise fun a b => a.val.timestamp ≤ b.val.timestamp)
    (hrun : hits.foldlM (Grouping.addHit policy start stop) s = .ok s') :
    ∃ gs', s'.Represents policy (records ++ hits) gs' := by
  induction hits generalizing s records gs with
  | nil =>
    rw [List.append_nil, ← Except.ok.inj hrun]
    exact ⟨gs, h⟩
  | cons hit hits ih =>
    rw [List.foldlM_cons, Except.bind_eq_ok] at hrun
    obtain ⟨s₁, hstep, hrun⟩ := hrun
    have hafter : ∀ first ∈ records, first.val.timestamp ≤ hit.val.timestamp := fun first hfirst =>
      (List.pairwise_append.mp hsorted).2.2 first hfirst hit List.mem_cons_self
    obtain ⟨gs₁, h₁⟩ := represents_addHit h hafter hstep
    rw [List.append_cons] at hsorted ⊢
    exact ih h₁ hsorted hrun

/-- When a run of the loop returns. -/
theorem exists_foldlM_iff (h : s.Represents policy records gs)
    (hsorted : (records ++ hits).Pairwise fun a b => a.val.timestamp ≤ b.val.timestamp)
    (hin : ∀ hit ∈ hits, start ≤ hit.val.timestamp ∧ hit.val.timestamp ≤ stop) :
    (∃ s', hits.foldlM (Grouping.addHit policy start stop) s = .ok s') ↔
      policy.inactivityGapSec < timedeltaSecondsLimit ∨ NewKeys records hits := by
  induction hits generalizing s records gs with
  | nil => exact ⟨fun _ => .inr (by simp [NewKeys]), fun _ => ⟨s, rfl⟩⟩
  | cons hit hits ih =>
    have hafter : ∀ first ∈ records, first.val.timestamp ≤ hit.val.timestamp := fun first hfirst =>
      (List.pairwise_append.mp hsorted).2.2 first hfirst hit List.mem_cons_self
    have hrest : ((records ++ [hit]) ++ hits).Pairwise
        fun a b => a.val.timestamp ≤ b.val.timestamp := by
      rwa [List.append_assoc]
    rw [newKeys_cons]
    constructor
    · rintro ⟨s', hrun⟩
      rw [List.foldlM_cons, Except.bind_eq_ok] at hrun
      obtain ⟨s₁, hstep, hrun⟩ := hrun
      obtain ⟨gs₁, h₁⟩ := represents_addHit h hafter hstep
      have hcond := ((exists_addHit_iff h).mp ⟨s₁, hstep⟩).2
      have htail := (ih h₁ hrest fun hit hhit => hin hit (List.mem_cons_of_mem _ hhit)).mp ⟨s', hrun⟩
      tauto
    · intro hcond
      have hfirst : policy.inactivityGapSec < timedeltaSecondsLimit ∨
          ∀ b ∈ records, alertKeyOf b ≠ alertKeyOf hit := by tauto
      obtain ⟨s₁, hstep⟩ := (exists_addHit_iff h).mpr ⟨hin hit List.mem_cons_self, hfirst⟩
      obtain ⟨gs₁, h₁⟩ := represents_addHit h hafter hstep
      have htail : policy.inactivityGapSec < timedeltaSecondsLimit ∨
          NewKeys (records ++ [hit]) hits := by tauto
      obtain ⟨s', hrun⟩ :=
        (ih h₁ hrest fun hit hhit => hin hit (List.mem_cons_of_mem _ hhit)).mpr htail
      exact ⟨s', by rw [List.foldlM_cons, hstep, Except.ok_bind', hrun]⟩

end Run

/-! ## The groups of a list of hits -/

/-- Lists of hits that are the episodes of `hits`. -/
structure IsEpisodes (policy : DevelopmentEpisodePolicy) (hits : List FastHitRecord)
    (gs : List (List FastHitRecord)) : Prop where
  partition : gs.flatten.Perm hits
  nonempty : [] ∉ gs
  sameKey : ∀ g ∈ gs, ∀ h ∈ g, alertKeyOf h = (groupOf g).alertKey
  within : ∀ g ∈ gs, g.IsChain fun a b => a.val.timestamp ≤ b.val.timestamp ∧
    b.val.timestamp - a.val.timestamp < (policy.inactivityGapSec : Int) * 1000
  apart : ∀ key, (gs.filter fun g => (groupOf g).alertKey = key).IsChain fun g g' => ∃ hg hg',
    (policy.inactivityGapSec : Int) * 1000 ≤ (g'.head hg').val.timestamp - (g.getLast hg).val.timestamp
  ordered : (gs.map fun g => (groupOf g).startTime).Pairwise (· ≤ ·)

section Groups

variable {policy : DevelopmentEpisodePolicy} {start stop : UtcMillis} {s : Grouping}
  {hits : List FastHitRecord} {gs : List (List FastHitRecord)}

theorem groupKey_eq {g : List FastHitRecord} (hg : g ≠ []) :
    groupKey alertKeyOf g = some (groupOf g).alertKey := by
  cases g with
  | nil => exact absurd rfl hg
  | cons h hits => rfl

/-- The records of an entity in their order. -/
theorem sortedBy_selectionKey_pairwise (hits : List FastHitRecord) :
    (sortedBy selectionKey hits).Pairwise fun a b => a.val.timestamp ≤ b.val.timestamp :=
  (sortedBy_pairwise selectionKey hits).imp fun {a b} hle => by
    rcases Prod.Lex.toLex_le_toLex.mp hle with hlt | heq
    · exact le_of_lt hlt
    · exact le_of_eq heq.1

theorem isEpisodes_of_represents
    (h : s.Represents policy (sortedBy selectionKey hits) gs) : IsEpisodes policy hits gs where
  partition := h.sessions.perm.trans (sortedBy_perm _ _)
  nonempty := h.sessions.nonempty
  sameKey g hg hit hhit := by
    have hne : g ≠ [] := List.ne_nil_of_mem hhit
    have hkey := h.sessions.keyed g hg hit hhit
    rw [groupKey_eq hne] at hkey
    exact (Option.some.inj hkey).symm
  within g hg := by
    have hchain := h.sessions.isChain hg
    have hne : g ≠ [] := fun hnil => h.sessions.nonempty (hnil ▸ hg)
    have hsublist : g.Sublist (sortedBy selectionKey hits) := by
      have hmem : g ∈ gs.filter fun g' => groupKey alertKeyOf g' = some (groupOf g).alertKey :=
        List.mem_filter.mpr ⟨hg, by simp [groupKey_eq hne]⟩
      refine (List.sublist_flatten_of_mem hmem).trans ?_
      rw [← h.sessions.filter_eq_flatten]
      exact List.filter_sublist
    have hsorted := ((sortedBy_selectionKey_pairwise hits).sublist hsublist).isChain
    rw [List.isChain_iff_getElem] at hsorted hchain ⊢
    exact fun i hi => ⟨hsorted i hi, of_decide_eq_true (hchain i hi)⟩
  apart key := by
    have hsame : (gs.filter fun g => groupKey alertKeyOf g = some key) =
        gs.filter fun g => (groupOf g).alertKey = key := by
      refine List.filter_congr fun g hg => ?_
      have hne : g ≠ [] := fun hnil => h.sessions.nonempty (hnil ▸ hg)
      simp [groupKey_eq hne]
    rw [← hsame]
    refine (h.sessions.apart key).imp fun g g' hfar => ?_
    obtain ⟨hg, hg', hfar⟩ := hfar
    exact ⟨hg, hg', not_lt.mp (of_decide_eq_false hfar)⟩
  ordered := h.ordered

/-- What the groups of a list of hits are. -/
theorem groupHits_eq_ok {groups : List EpisodeGroup}
    (h : groupHits policy start stop hits = .ok groups) :
    ∃ gs, groups = gs.map groupOf ∧ IsEpisodes policy hits gs ∧
      gs.head?.bind List.head? = (sortedBy selectionKey hits).head? := by
  unfold groupHits at h
  dsimp only at h
  rw [raiseIf_bind_eq_ok, Except.bind_eq_ok] at h
  obtain ⟨-, s, hrun, h⟩ := h
  have hsorted := sortedBy_selectionKey_pairwise hits
  have hempty : Grouping.Represents policy {} [] [] := Grouping.Represents.nil
  obtain ⟨gs, hgs⟩ := represents_foldlM hempty (by rwa [List.nil_append]) hrun
  rw [List.nil_append] at hgs
  rw [Except.pure_eq_ok.mp h, hgs.groups]
  exact ⟨gs, rfl, isEpisodes_of_represents hgs, hgs.first⟩

/-- When the grouping returns. -/
theorem exists_groupHits_iff (hnodup : (hits.map fun h => h.val.hitId).Nodup)
    (hin : ∀ h ∈ hits, start ≤ h.val.timestamp ∧ h.val.timestamp ≤ stop) :
    (∃ groups, groupHits policy start stop hits = .ok groups) ↔
      policy.inactivityGapSec < timedeltaSecondsLimit ∨ (hits.map alertKeyOf).Nodup := by
  have hperm := sortedBy_perm selectionKey hits
  have hsorted := sortedBy_selectionKey_pairwise hits
  have hids : ((sortedBy selectionKey hits).map fun h => h.val.hitId).Nodup :=
    (hperm.map _).nodup_iff.mpr hnodup
  have hempty : Grouping.Represents policy {} [] [] := Grouping.Represents.nil
  have hreturns := exists_foldlM_iff hempty (by rwa [List.nil_append]) fun h hh =>
    hin h (hperm.subset hh)
  have hkeys : NewKeys [] (sortedBy selectionKey hits) ↔ (hits.map alertKeyOf).Nodup := by
    rw [← (hperm.map alertKeyOf).nodup_iff]
    simp [NewKeys]
  rw [hkeys] at hreturns
  rw [← hreturns]
  unfold groupHits
  dsimp only
  rw [raiseIf_of_not (not_not.mpr hids), Except.ok_bind']
  constructor
  · rintro ⟨groups, h⟩
    obtain ⟨s, hrun, -⟩ := Except.bind_eq_ok.mp h
    exact ⟨s, hrun⟩
  · rintro ⟨s, hrun⟩
    exact ⟨s.groups, by rw [hrun]; rfl⟩

/-- The version has the digits of the gap. -/
theorem exists_version_iff :
    (∃ version, policy.version = .ok version) ↔
      policy.inactivityGapSec < 10 ^ intMaxStrDigits := by
  rw [DevelopmentEpisodePolicy.version, strInt]
  constructor
  · rintro ⟨version, h⟩
    obtain ⟨_, hgap, -⟩ := Except.bind_eq_ok.mp h
    exact not_le.mp (raiseIf_bind_eq_ok.mp hgap).1
  · intro h
    rw [raiseIf_of_not (not_le.mpr h)]
    exact ⟨_, rfl⟩

/-- What a `timedelta` holds has a text. -/
theorem timedeltaSecondsLimit_lt : timedeltaSecondsLimit < 10 ^ intMaxStrDigits :=
  calc timedeltaSecondsLimit < 10 ^ 14 := by decide
    _ ≤ 10 ^ intMaxStrDigits := Nat.pow_le_pow_right (by decide) (by decide)

/-- The gap is one of a `timedelta`, or no two of the hits share an alert key and the gap has
a text. -/
def HoldsGap (policy : DevelopmentEpisodePolicy) (hits : List FastHitRecord) : Prop :=
  policy.inactivityGapSec < timedeltaSecondsLimit ∨
    (hits.map alertKeyOf).Nodup ∧ policy.inactivityGapSec < 10 ^ intMaxStrDigits

theorem groupEpisodes_eq_ok {version : String} {groups : List EpisodeGroup} :
    groupEpisodes policy start stop hits = .ok (version, groups) ↔
      groupHits policy start stop hits = .ok groups ∧ policy.version = .ok version := by
  rw [groupEpisodes, Except.bind_eq_ok]
  constructor
  · rintro ⟨groups', hgroups, h⟩
    obtain ⟨version', hversion, h⟩ := Except.bind_eq_ok.mp h
    obtain ⟨rfl, rfl⟩ := Prod.mk.inj (Except.pure_eq_ok.mp h)
    exact ⟨hgroups, hversion⟩
  · rintro ⟨hgroups, hversion⟩
    exact ⟨groups, hgroups, by rw [hversion]; rfl⟩

/-- When the grouping returns with its version. -/
theorem exists_groupEpisodes_iff (hnodup : (hits.map fun h => h.val.hitId).Nodup)
    (hin : ∀ h ∈ hits, start ≤ h.val.timestamp ∧ h.val.timestamp ≤ stop) :
    (∃ version groups, groupEpisodes policy start stop hits = .ok (version, groups)) ↔
      HoldsGap policy hits := by
  constructor
  · rintro ⟨version, groups, h⟩
    obtain ⟨hgroups, hversion⟩ := groupEpisodes_eq_ok.mp h
    rcases (exists_groupHits_iff hnodup hin).mp ⟨groups, hgroups⟩ with hgap | hkeys
    · exact .inl hgap
    · exact .inr ⟨hkeys, exists_version_iff.mp ⟨version, hversion⟩⟩
  · intro h
    obtain ⟨groups, hgroups⟩ : ∃ groups, groupHits policy start stop hits = .ok groups :=
      (exists_groupHits_iff hnodup hin).mpr (h.imp_right And.left)
    obtain ⟨version, hversion⟩ : ∃ version, policy.version = .ok version :=
      exists_version_iff.mpr (h.elim (fun hgap => lt_trans hgap timedeltaSecondsLimit_lt) And.right)
    exact ⟨version, groups, groupEpisodes_eq_ok.mpr ⟨hgroups, hversion⟩⟩

/-- The groups do not depend on the order in which the hits come. -/
theorem groupHits_perm (hnodup : (hits.map fun h => h.val.hitId).Nodup)
    {hits' : List FastHitRecord} (hperm : hits'.Perm hits) :
    groupHits policy start stop hits' = groupHits policy start stop hits := by
  unfold groupHits
  rw [sortedBy_eq_of_perm (fun a ha b hb hkey => ?_) hperm]
  exact hit_of_key_eq hnodup (hperm.subset ha) (hperm.subset hb) hkey

end Groups

/-! ## The evaluation of the pair -/

/-- A measured run, and a plan, that episodes are evaluated for. -/
structure EvaluatedFor (episodes : FastEpisodeStarts) (run : MeasuredRun) (plan : EvaluationPlan) :
    Prop where
  runId : episodes.runId = run.runId
  entityId : episodes.entityId = run.targetHost
  purpose : plan.purpose = .smoke
  policyVersion : episodes.policyVersion = plan.fastEpisodePolicyVersion
  detectorSetVersion : episodes.detectorSetVersion = plan.detectorSetVersion
  startTime : run.startTime = episodes.observationStart
  endTime : run.endTime = some episodes.observationEnd

theorem requireObservation_eq_ok {d : PyDatetime} {t : UtcMillis}
    (h : requireObservation d = .ok t) : d = .utc (t * 1000) := by
  cases d with
  | naive => cases h
  | aware instant utcoffset =>
    rw [requireObservation, raiseIf_bind_eq_ok, raiseIf_bind_eq_ok, Except.pure_eq_ok] at h
    obtain ⟨hoffset, hmillis, rfl⟩ := h
    have hinstant : instant / 1000 * 1000 = instant := by omega
    rw [PyDatetime.utc, hinstant, not_not.mp hoffset]

theorem requireTime_utc (name : String) (t : UtcMillis) :
    requireTime name (.utc (t * 1000)) = .ok (t * 1000) := by
  have hmillis : t * 1000 % 1000 = 0 := Int.mul_emod_left t 1000
  rw [PyDatetime.utc, requireTime, raiseIf_of_not (by simp [hmillis])]
  rfl

/-- Ordered starts are sorted as they are. -/
theorem sortedTimes_utc {times : List UtcMillis} (h : times.Pairwise (· ≤ ·)) :
    sortedTimes (times.map fun t => .utc (t * 1000)) =
      .ok (times.map fun t => .utc (t * 1000)) := by
  have hsorted : (times.map fun t => PyDatetime.utc (t * 1000)).Pairwise
      fun a b => instantOf a ≤ instantOf b := by
    rw [List.pairwise_map]
    refine h.imp fun {a b} hab => ?_
    exact Int.mul_le_mul_of_nonneg_right hab (by decide)
  cases times with
  | nil => rfl
  | cons t times =>
    have haware : ((t :: times).map fun t => PyDatetime.utc (t * 1000)).any (· = .naive) = false := by
      rw [List.any_eq_false]
      intro d hd
      obtain ⟨t', -, rfl⟩ := List.mem_map.mp hd
      exact of_decide_eq_false rfl
    have hsome : ((t :: times).map fun t => PyDatetime.utc (t * 1000)).all (· = .naive) = false := rfl
    rw [sortedTimes, hsome, if_neg Bool.false_ne_true, haware, if_neg Bool.false_ne_true, sortedBy,
      hsorted.insertionSort_eq]

section Pair

variable {episodes : FastEpisodeStarts} {run : MeasuredRun} {plan : EvaluationPlan}
  {detection : Persistence.DetectionResult} {start stop : UtcMillis} {times : List UtcMillis}

/-- The pair that the evaluation accepts. -/
theorem fastStarts_of_agrees (hfor : EvaluatedFor episodes run plan)
    (hstart : episodes.observationStart = .utc (start * 1000))
    (hstop : episodes.observationEnd = .utc (stop * 1000))
    (htimes : episodes.startTimes = times.map fun t => .utc (t * 1000))
    (hordered : times.Pairwise (· ≤ ·)) (hin : ∀ t ∈ times, start ≤ t ∧ t ≤ stop)
    (hevaluated : detection.detectorStatus ≠ .notEvaluated)
    (hfirst : detection.detectorTime = times.head?) :
    fastStarts detection run (some episodes) plan = .ok (times.map (· * 1000)) := by
  have hstarts : (times.map fun t => PyDatetime.utc (t * 1000)).mapM
      (requireStart (start * 1000) (stop * 1000)) = .ok (times.map (· * 1000)) := by
    rw [List.mapM_map]
    refine mapM_eq_ok_map fun t ht => ?_
    obtain ⟨hle, hge⟩ := hin t ht
    have hwithin : start * 1000 ≤ t * 1000 ∧ t * 1000 ≤ stop * 1000 :=
      ⟨Int.mul_le_mul_of_nonneg_right hle (by decide), Int.mul_le_mul_of_nonneg_right hge (by decide)⟩
    show requireStart _ _ (.utc (t * 1000)) = _
    rw [requireStart, requireTime_utc, Except.ok_bind', raiseIf_of_not (not_not.mpr hwithin)]
    rfl
  have hcover : sameTime (start * 1000) run.startTime = true ∧
      run.endTime.elim false (sameTime (stop * 1000)) = true := by
    rw [hfor.startTime, hfor.endTime, hstart, hstop]
    simp [sameTime, PyDatetime.utc]
  have hmiss : ¬ (detection.detectorStatus = .miss ∧ times.map (· * 1000) ≠ []) := by
    rintro ⟨hstatus, hne⟩
    have hnone := detection.detectorTime_isSome
    rw [hfirst, hstatus] at hnone
    cases times with
    | nil => exact hne rfl
    | cons t times => cases hnone
  have hdetected : ¬ (detection.detectorStatus = .detected ∧
      ((times.map (· * 1000)).head? = none ∨
        (times.map (· * 1000)).head? ≠ detection.detectorTime.map (· * 1000))) := by
    rintro ⟨hstatus, hwrong⟩
    have hsome := detection.detectorTime_isSome
    rw [hfirst, hstatus] at hsome
    rw [List.head?_map, hfirst] at hwrong
    cases times with
    | nil => cases hsome
    | cons t times => simp at hwrong
  rw [fastStarts, if_neg hevaluated,
    raiseIf_of_not (by simp [hfor.runId, hfor.entityId]), Except.ok_bind',
    raiseIf_of_not (by simp [hfor.purpose]), Except.ok_bind',
    raiseIf_of_not (not_not.mpr hfor.policyVersion), Except.ok_bind',
    raiseIf_of_not (not_not.mpr hfor.detectorSetVersion), Except.ok_bind', hstart, hstop,
    requireTime_utc, Except.ok_bind', requireTime_utc, Except.ok_bind',
    raiseIf_of_not (not_not.mpr hcover), Except.ok_bind', htimes, sortedTimes_utc hordered,
    Except.ok_bind', hstarts, Except.ok_bind', raiseIf_of_not hmiss, Except.ok_bind',
    raiseIf_of_not hdetected]
  rfl

end Pair

/-! ## The episodes of a handoff -/

/-- The arguments of `build_development_episodes`, with the files that it reads. -/
structure EpisodeInputs where
  utcMillis : String → Except FastError UtcMillis
  files : FastFiles
  coverageFiles : CoverageFiles
  selectionPolicy : FastSelectionPolicy
  episodePolicy : DevelopmentEpisodePolicy
  coverageSha256 : String
  runId : String
  entityId : String
  observationStart : PyDatetime
  observationEnd : PyDatetime

namespace EpisodeInputs

/-- The call. -/
def build (i : EpisodeInputs) :
    Except FastError (FastEpisodeStarts × FastDetectionSelection × List EpisodeGroup) :=
  buildDevelopmentEpisodes i.utcMillis i.files i.coverageFiles i.selectionPolicy i.episodePolicy
    i.coverageSha256 i.runId i.entityId i.observationStart i.observationEnd

/-- The hits of the entity. -/
def entityHits (i : EpisodeInputs) (handoff : FastHitHandoff) : List FastHitRecord :=
  handoff.records.filter fun h => h.val.nativeHostId.bind i.selectionPolicy.entityOf = some i.entityId

/-- A handoff whose selection returns, with a verified coverage that binds it, and with the hits
of the entity inside the observation interval. -/
structure Observed (i : EpisodeInputs) (handoff : FastHitHandoff) (start stop : UtcMillis)
    (selection : FastDetectionSelection) (audit : SelectionAudit) : Prop where
  coverage : verifyCoverage i.coverageFiles i.coverageSha256 i.runId i.entityId i.observationStart
    i.observationEnd = .ok (start, stop)
  selected : selectFastHit i.utcMillis i.files i.selectionPolicy i.runId i.entityId =
    .ok (selection, audit)
  csv : i.coverageFiles.coverage.csvSha256 = audit.inputCsvSha256
  config : i.coverageFiles.coverage.configSha256 = i.selectionPolicy.val.configSha256
  read : readFastHitHandoff i.files i.runId = .ok handoff
  inside : ∀ h ∈ i.entityHits handoff, start ≤ h.val.timestamp ∧ h.val.timestamp ≤ stop

/-- What the episodes of a handoff are, and that the evaluation accepts them beside the Fast
result of the same selection. -/
def Agrees (i : EpisodeInputs) (handoff : FastHitHandoff) (selection : FastDetectionSelection) :
    Prop :=
  ∃ episodes gs result,
    i.build = .ok (episodes, selection, gs.map groupOf) ∧
    IsEpisodes i.episodePolicy (i.entityHits handoff) gs ∧
    adaptFastHitHandoff i.files handoff i.entityId selection i.selectionPolicy.entityOf = .ok result ∧
    result.detectionResult.detectorTime = (gs.map fun g => (groupOf g).startTime).head? ∧
    episodes.startTimes = gs.map (fun g => .utc ((groupOf g).startTime * 1000)) ∧
    ∀ run plan, EvaluatedFor episodes run plan →
      ∃ starts, fastStarts result.detectionResult run (some episodes) plan = .ok starts

variable {i : EpisodeInputs} {handoff : FastHitHandoff} {start stop : UtcMillis}
  {selection : FastDetectionSelection} {audit : SelectionAudit}

theorem verifyCoverage_eq_ok {files : CoverageFiles} {sha256 runId entityId : String}
    {observationStart observationEnd : PyDatetime}
    (h : verifyCoverage files sha256 runId entityId observationStart observationEnd =
      .ok (start, stop)) :
    observationStart = .utc (start * 1000) ∧ observationEnd = .utc (stop * 1000) := by
  unfold verifyCoverage at h
  rw [raiseIf_bind_eq_ok, Except.bind_eq_ok] at h
  obtain ⟨-, start', hstart, h⟩ := h
  rw [Except.bind_eq_ok] at h
  obtain ⟨stop', hstop, h⟩ := h
  rw [Except.bind_eq_ok] at h
  obtain ⟨coverageStart, -, h⟩ := h
  rw [Except.bind_eq_ok] at h
  obtain ⟨coverageStop, -, h⟩ := h
  rw [raiseIf_bind_eq_ok, raiseIf_bind_eq_ok, raiseIf_bind_eq_ok, Except.unit_bind_eq_ok,
    Except.pure_eq_ok] at h
  obtain ⟨-, -, -, -, hpair⟩ := h
  obtain ⟨rfl, rfl⟩ := Prod.mk.inj hpair
  exact ⟨requireObservation_eq_ok hstart, requireObservation_eq_ok hstop⟩

/-- The episodes of an observed handoff are the groups of the hits. -/
theorem Observed.build_eq (h : i.Observed handoff start stop selection audit) :
    i.build = (groupEpisodes i.episodePolicy start stop (i.entityHits handoff)).map
      fun episodes => ({
        runId := i.runId
        entityId := i.entityId
        policyVersion := episodes.1
        detectorSetVersion := i.selectionPolicy.val.detectorSetVersion
        observationStart := i.observationStart
        observationEnd := i.observationEnd
        startTimes := episodes.2.map fun g => .utc (g.startTime * 1000) }, selection, episodes.2) := by
  obtain ⟨handoff', -, -, hread, -, -, -, -, -, hhits, hinput⟩ := selectFastHit_eq_ok h.selected
  rw [h.read] at hread
  obtain rfl := Except.ok.inj hread
  unfold build buildDevelopmentEpisodes
  rw [h.coverage, Except.ok_bind']
  dsimp only
  rw [h.selected, Except.ok_bind']
  dsimp only
  rw [raiseIf_of_not (by simp [h.csv, h.config]), Except.ok_bind', h.read, Except.ok_bind',
    raiseIf_of_not (by simp [hhits, hinput]), Except.ok_bind']
  show (groupEpisodes _ _ _ (i.entityHits handoff) >>= _) = _
  cases groupEpisodes i.episodePolicy start stop (i.entityHits handoff) with
  | error e => rfl
  | ok episodes => rfl

/-- The time of the Fast result is that of the first hit. -/
theorem Observed.detectorTime (h : i.Observed handoff start stop selection audit) :
    ∃ result,
      adaptFastHitHandoff i.files handoff i.entityId selection i.selectionPolicy.entityOf =
        .ok result ∧
      result.detectionResult.detectorStatus ≠ .notEvaluated ∧
      result.detectionResult.detectorTime =
        (sortedBy selectionKey (i.entityHits handoff)).head?.map fun hit => hit.val.timestamp := by
  obtain ⟨handoff', -, result, hread, -, -, -, hselection, hadapt, -, -⟩ :=
    selectFastHit_eq_ok h.selected
  rw [h.read] at hread
  obtain rfl := Except.ok.inj hread
  obtain ⟨-, hnodup⟩ := readFastHitHandoff_eq_ok h.read
  have hstatus := (adaptFastHitHandoff_sound hadapt).2.2
  have htime := result.detectionResult.detectorTime_isSome
  refine ⟨result, hadapt, ?_⟩
  change selection = selectionOf (sortedBy selectionKey (i.entityHits handoff)) at hselection
  cases hsorted : sortedBy selectionKey (i.entityHits handoff) with
  | nil =>
    rw [hsorted] at hselection
    rw [hselection] at hstatus
    change _ = Persistence.DetectorStatus.miss at hstatus
    rw [hstatus] at htime ⊢
    exact ⟨by decide, Option.isNone_iff_eq_none.mp (by simpa using htime)⟩
  | cons first rest =>
    rw [hsorted] at hselection
    rw [hselection] at hstatus
    change _ = Persistence.DetectorStatus.detected at hstatus
    obtain ⟨hit, hhit, hid, hhitTime⟩ := adaptFastHitHandoff_detectorTime hadapt hstatus
    rw [hselection] at hid
    have hfirst : first ∈ handoff.records := by
      have hmem : first ∈ sortedBy selectionKey (i.entityHits handoff) := by
        rw [hsorted]
        exact List.mem_cons_self
      exact List.mem_of_mem_filter (mem_sortedBy.mp hmem)
    have hsame : first = hit := List.inj_on_of_nodup_map hnodup hfirst hhit (Option.some.inj hid)
    rw [hstatus, hhitTime, hsame]
    exact ⟨by decide, rfl⟩

/-- When the episodes of an observed handoff agree with its Fast result. -/
theorem Observed.agrees_iff (h : i.Observed handoff start stop selection audit) :
    i.Agrees handoff selection ↔ HoldsGap i.episodePolicy (i.entityHits handoff) := by
  obtain ⟨-, hnodup⟩ := readFastHitHandoff_eq_ok h.read
  have hids : ((i.entityHits handoff).map fun h => h.val.hitId).Nodup :=
    hnodup.sublist (List.filter_sublist.map _)
  rw [← exists_groupEpisodes_iff hids h.inside]
  constructor
  · rintro ⟨episodes, gs, result, hbuild, -⟩
    rw [h.build_eq] at hbuild
    cases hgroups : groupEpisodes i.episodePolicy start stop (i.entityHits handoff) with
    | error e =>
      rw [hgroups] at hbuild
      cases hbuild
    | ok episodes => exact ⟨episodes.1, episodes.2, rfl⟩
  · rintro ⟨version, groups, hgroups⟩
    obtain ⟨gs, rfl, hepisodes, hfirst⟩ := groupHits_eq_ok (groupEpisodes_eq_ok.mp hgroups).1
    obtain ⟨result, hadapt, hevaluated, htime⟩ := h.detectorTime
    obtain ⟨hstart, hstop⟩ := verifyCoverage_eq_ok h.coverage
    have hhead : result.detectionResult.detectorTime =
        (gs.map fun g => (groupOf g).startTime).head? := by
      rw [htime, ← hfirst, List.head?_map]
      cases gs with
      | nil => rfl
      | cons g gs =>
        cases g with
        | nil => exact absurd List.mem_cons_self hepisodes.nonempty
        | cons hit hits => rfl
    refine ⟨_, gs, result, by rw [h.build_eq, hgroups]; rfl, hepisodes, hadapt, hhead, ?_, ?_⟩
    · rw [List.map_map]
      rfl
    · intro run plan hfor
      refine ⟨_, fastStarts_of_agrees hfor hstart hstop ?_ hepisodes.ordered ?_ hevaluated hhead⟩
      · simp only [List.map_map]
        rfl
      · intro t ht
        obtain ⟨g, hg, rfl⟩ := List.mem_map.mp ht
        cases g with
        | nil => exact absurd hg hepisodes.nonempty
        | cons hit hits =>
          refine h.inside hit (hepisodes.partition.subset ?_)
          exact List.mem_flatten.mpr ⟨_, hg, List.mem_cons_self⟩

end EpisodeInputs

/-- The hits of an entity are grouped into its episodes, alike for every order in which they come,
and the episodes of an observed handoff agree with its Fast result, exactly when a `timedelta`
holds the inactivity gap, or no two of the hits share an alert key and the gap has a text. -/
theorem fastEpisodes_iff (policy : DevelopmentEpisodePolicy) :
    (∀ (start stop : UtcMillis) (hits : List FastHitRecord),
      (hits.map fun h => h.val.hitId).Nodup →
      (∀ h ∈ hits, start ≤ h.val.timestamp ∧ h.val.timestamp ≤ stop) →
      ((∃ gs version, IsEpisodes policy hits gs ∧ ∀ hits' : List FastHitRecord, hits'.Perm hits →
          groupEpisodes policy start stop hits' = .ok (version, gs.map groupOf)) ↔
        HoldsGap policy hits)) ∧
    ∀ (i : EpisodeInputs) (handoff : FastHitHandoff) (start stop : UtcMillis)
      (selection : FastDetectionSelection) (audit : SelectionAudit),
      i.Observed handoff start stop selection audit →
      (i.Agrees handoff selection ↔ HoldsGap i.episodePolicy (i.entityHits handoff)) := by
  refine ⟨fun start stop hits hnodup hin => ?_, fun i handoff start stop selection audit h =>
    h.agrees_iff⟩
  rw [← exists_groupEpisodes_iff hnodup hin]
  constructor
  · rintro ⟨gs, version, -, hgroups⟩
    exact ⟨version, _, hgroups hits (List.Perm.refl hits)⟩
  · rintro ⟨version, groups, hgroups⟩
    obtain ⟨gs, rfl, hepisodes, -⟩ := groupHits_eq_ok (groupEpisodes_eq_ok.mp hgroups).1
    refine ⟨gs, version, hepisodes, fun hits' hperm => ?_⟩
    rw [groupEpisodes, groupHits_perm hnodup hperm]
    exact hgroups

namespace Sample

theorem laterHit_valid :
    (hit "RUN-20260101-001-hit-2" 1767225609000 (some "17")).validate = .ok () := by
  decide +kernel

def laterHit : FastHitRecord := ⟨_, laterHit_valid⟩

theorem earlierHit_valid :
    (hit "RUN-20260101-001-hit-3" 1767225605000 none).validate = .ok () := by
  decide +kernel

def earlierHit : FastHitRecord := ⟨_, earlierHit_valid⟩

theorem oneMinute_positive : 0 < 60 := by decide

def oneMinute : DevelopmentEpisodePolicy := ⟨60, oneMinute_positive⟩

theorem beyondTimedelta_positive : 0 < timedeltaSecondsLimit := by decide

/-- The least gap that a `timedelta` does not hold. -/
def beyondTimedelta : DevelopmentEpisodePolicy := ⟨timedeltaSecondsLimit, beyondTimedelta_positive⟩

example : (groupHits oneMinute 1767225600000 1767225660000 [laterHit, earlierHit]).toOption =
    some [⟨1767225605000, "k1", ["RUN-20260101-001-hit-3", "RUN-20260101-001-hit-2"]⟩] := by
  decide +kernel

/-- A coverage of one minute that binds the handoff. -/
def coverageFiles : CoverageFiles where
  coverage := {
    runId := "RUN-20260101-001"
    entityId := "host-a"
    observationStart := .utc 1767225600000000
    observationEnd := .utc 1767225660000000
    sourceSha256 := digest
    csvSha256 := digest
    configSha256 := digest }
  coverageSha256 := digest
  sourceSha256 := digest
  verifyScan _ := .ok ()

def inputs : EpisodeInputs where
  utcMillis := clock
  files := handoffFiles
  coverageFiles := coverageFiles
  selectionPolicy := policy
  episodePolicy := oneMinute
  coverageSha256 := digest
  runId := "RUN-20260101-001"
  entityId := "host-a"
  observationStart := .utc 1767225600000000
  observationEnd := .utc 1767225660000000

theorem inputs_selected :
    (selectFastHit clock handoffFiles policy "RUN-20260101-001" "host-a").toOption.map
      (fun selected => selected.2.inputCsvSha256) = some digest := by
  decide +kernel

theorem inputs_read :
    (readFastHitHandoff handoffFiles "RUN-20260101-001").toOption.map
      (fun handoff => (inputs.entityHits handoff).all fun h =>
        1767225600000 ≤ h.val.timestamp ∧ h.val.timestamp ≤ 1767225660000) = some true := by
  decide +kernel

end Sample

/-- Two hits of one alert key, and a gap that a `timedelta` does not hold. -/
theorem fastEpisodes_fails :
    0 < Sample.beyondTimedelta.inactivityGapSec ∧
    ([Sample.laterHit, Sample.earlierHit].map fun h => h.val.hitId).Nodup ∧
    (∀ h ∈ [Sample.laterHit, Sample.earlierHit],
      1767225600000 ≤ h.val.timestamp ∧ h.val.timestamp ≤ 1767225660000) ∧
    groupEpisodes Sample.beyondTimedelta 1767225600000 1767225660000
      [Sample.laterHit, Sample.earlierHit] =
        .error (.overflowError "days=1000000000; must have magnitude <= 999999999") := by
  refine ⟨Sample.beyondTimedelta.positive, by decide +kernel, ?_, by rfl⟩
  rw [List.forall_mem_cons, List.forall_mem_singleton]
  decide +kernel

theorem fastEpisodes_iff_oneMinute :
    (∃ gs version, IsEpisodes Sample.oneMinute [Sample.laterHit, Sample.earlierHit] gs ∧
      ∀ hits' : List FastHitRecord, hits'.Perm [Sample.laterHit, Sample.earlierHit] →
        groupEpisodes Sample.oneMinute 1767225600000 1767225660000 hits' =
          .ok (version, gs.map groupOf)) ∧
    ∃ handoff selection, Sample.inputs.Agrees handoff selection := by
  have hshort : Sample.oneMinute.inactivityGapSec < timedeltaSecondsLimit := by decide
  constructor
  · refine ((fastEpisodes_iff _).1 _ _ _ (by decide +kernel) ?_).mpr (.inl hshort)
    rw [List.forall_mem_cons, List.forall_mem_singleton]
    decide +kernel
  · have hselected := Sample.inputs_selected
    have hread := Sample.inputs_read
    cases hs : selectFastHit Sample.clock Sample.handoffFiles Sample.policy "RUN-20260101-001"
        "host-a" with
    | error e =>
      rw [hs] at hselected
      cases hselected
    | ok pair =>
      rw [hs] at hselected
      cases hr : readFastHitHandoff Sample.handoffFiles "RUN-20260101-001" with
      | error e =>
        rw [hr] at hread
        cases hread
      | ok handoff =>
        rw [hr] at hread
        have hinside : ∀ h ∈ Sample.inputs.entityHits handoff,
            1767225600000 ≤ h.val.timestamp ∧ h.val.timestamp ≤ 1767225660000 := fun h hh =>
          of_decide_eq_true (List.all_eq_true.mp (Option.some.inj hread) h hh)
        refine ⟨handoff, pair.1, ((fastEpisodes_iff Sample.oneMinute).2 Sample.inputs handoff 1767225600000
          1767225660000 pair.1 pair.2 ⟨by rfl, hs, ?_, by rfl, hr, hinside⟩).mpr (.inl hshort)⟩
        exact (Option.some.inj hselected).symm

end IncidentAwareness.Detection
