import Mathlib.Data.List.DropRight
import Mathlib.Data.List.Induction
import Mathlib.Order.Bounds.Defs
import Mathlib.Tactic.Common

/-!
# Hysteresis

A switch that turns on at the last of `k` signals in a row that are `on`, and turns off
at the first signal that is `off`, and the phases it goes through.

* `phases`: the phases of a list of signals, each with the proof of what it is; put
  together again they are the list (`toList_phases`);
* `isHolding_of_endsInRun`: the switch is on wherever a run ends;
* `starts_head?`: the first phase starts where the first run ends (`PassesAt`);
* `released_phases_append`: later signals leave the phases that have ended alone.
-/

namespace IncidentAwareness.Lib

/-- What turns a switch on and off. -/
structure Hysteresis (α : Type) where
  on : α → Bool
  off : α → Bool
  k : Nat
  k_pos : 0 < k
  off_of_on : ∀ a, on a = true → off a = false

namespace Hysteresis

variable {α : Type} (h : Hysteresis α)

/-! ## Runs -/

/-- The signals at the end of a list that are on. -/
def trailing (l : List α) : List α := l.rtakeWhile h.on

/-- A list ends in a run. -/
def EndsInRun (l : List α) : Prop :=
  ∃ earlier run, l = earlier ++ run ∧ run.length = h.k ∧ ∀ a ∈ run, h.on a = true

/-- A list in which no run ends. -/
def Quiet (l : List α) : Prop := ∀ l', l' <+: l → ¬ h.EndsInRun l'

variable {h} {l : List α} {a : α}

theorem trailing_concat : h.trailing (l ++ [a]) = if h.on a then h.trailing l ++ [a] else [] :=
  List.rtakeWhile_concat ..

/-- Signals at the end that are on belong to the signals there that are. -/
theorem length_le_trailing {earlier run : List α} (hl : l = earlier ++ run)
    (hon : ∀ a ∈ run, h.on a = true) : run.length ≤ (h.trailing l).length := by
  have hreverse : run.reverse.takeWhile h.on = run.reverse :=
    List.takeWhile_eq_self_iff.mpr fun a ha => hon a (List.mem_reverse.mp ha)
  have hlength : (h.trailing l).length =
      run.length + (earlier.reverse.takeWhile h.on).length := by
    rw [trailing, List.rtakeWhile, hl, List.length_reverse, List.reverse_append, List.takeWhile_append,
      if_pos (by rw [hreverse]), List.length_append, List.length_reverse]
  omega

theorem endsInRun_iff : h.EndsInRun l ↔ h.k ≤ (h.trailing l).length := by
  constructor
  · rintro ⟨earlier, run, hl, hlength, hon⟩
    rw [← hlength]
    exact length_le_trailing hl hon
  · intro hk
    obtain ⟨earlier, hearlier⟩ : h.trailing l <:+ l := List.rtakeWhile_suffix ..
    refine ⟨earlier ++ (h.trailing l).take ((h.trailing l).length - h.k),
      (h.trailing l).drop ((h.trailing l).length - h.k), ?_, ?_, fun a ha => ?_⟩
    · rw [List.append_assoc, List.take_append_drop, hearlier]
    · rw [List.length_drop]
      omega
    · exact List.mem_rtakeWhile_imp (List.mem_of_mem_drop ha)

instance (l : List α) : Decidable (h.EndsInRun l) := decidable_of_iff _ endsInRun_iff.symm

theorem not_endsInRun_nil : ¬ h.EndsInRun [] := by
  rintro ⟨earlier, run, hl, hlength, -⟩
  have hk := h.k_pos
  have hrun : run = [] := (List.append_eq_nil_iff.mp hl.symm).2
  rw [hrun, List.length_nil] at hlength
  omega

/-- The last signal of a run is on. -/
theorem on_of_endsInRun (hrun : h.EndsInRun (l ++ [a])) : h.on a = true := by
  by_contra hoff
  rw [endsInRun_iff, trailing_concat, if_neg hoff, List.length_nil] at hrun
  have := h.k_pos
  omega

theorem quiet_nil : h.Quiet [] := by
  intro l' hl'
  rw [List.prefix_nil.mp hl']
  exact not_endsInRun_nil

theorem Quiet.not_endsInRun (hq : h.Quiet l) : ¬ h.EndsInRun l := hq l (List.prefix_refl l)

theorem Quiet.concat (hq : h.Quiet l) (hrun : ¬ h.EndsInRun (l ++ [a])) : h.Quiet (l ++ [a]) := by
  intro l' hl'
  rcases List.prefix_concat_iff.mp hl' with rfl | hl'
  · exact hrun
  · exact hq l' hl'

/-- Nothing, or a list whose last signal is off. -/
def EndsOff (h : Hysteresis α) (l : List α) : Prop := ∀ a ∈ l.getLast?, h.off a = true

/-- A run does not reach back over a signal that is off. -/
theorem trailing_append {l' : List α} (hoff : h.EndsOff l') : h.trailing (l' ++ l) = h.trailing l := by
  induction l using List.reverseRecOn with
  | nil =>
    rcases List.eq_nil_or_concat' l' with rfl | ⟨init, last, rfl⟩
    · rfl
    · have hlast : h.off last = true := hoff last (by simp)
      have hnot : ¬ h.on last = true := fun hon => by simp [h.off_of_on last hon] at hlast
      rw [List.append_nil, trailing_concat, if_neg hnot]
      rfl
  | append_singleton l a ih =>
    rw [← List.append_assoc, trailing_concat, trailing_concat, ih]

/-! ## Phases -/

/-- A time when the switch is on: the signals before it, the one that turned it on, and
those that followed. -/
structure Phase (h : Hysteresis α) where
  quiet : List α
  start : α
  inside : List α
  quiet_quiet : h.Quiet quiet
  endsInRun : h.EndsInRun (quiet ++ [start])
  off_inside : ∀ a ∈ inside, h.off a = false

/-- A phase that has ended. -/
structure Released (h : Hysteresis α) extends Phase h where
  release : α
  off_release : h.off release = true

/-- Where the switch is. -/
inductive Current (h : Hysteresis α) where
  | waiting (quiet : List α) (quiet_quiet : h.Quiet quiet)
  | holding (phase : Phase h)

/-- The phases that have ended, and where the switch is. -/
structure Phases (h : Hysteresis α) where
  released : List (Released h)
  current : Current h

/-- The signals of a phase while the switch is on. -/
def Phase.points (p : Phase h) : List α := p.start :: p.inside

def Phase.toList (p : Phase h) : List α := p.quiet ++ p.points

def Released.toList (r : Released h) : List α := r.toPhase.toList ++ [r.release]

def Current.toList : Current h → List α
  | waiting quiet _ => quiet
  | holding phase => phase.toList

def Phases.toList (x : Phases h) : List α := x.released.flatMap Released.toList ++ x.current.toList

/-- The phase that has not ended. -/
def Current.phase? : Current h → Option (Phase h)
  | waiting _ _ => none
  | holding phase => some phase

/-- Whether the switch is on. -/
def Phases.isHolding (x : Phases h) : Bool := x.current.phase?.isSome

/-- All phases. -/
def Phases.all (x : Phases h) : List (Phase h) :=
  x.released.map Released.toPhase ++ x.current.phase?.toList

/-- The phase in which a signal turns the switch on. -/
def Phase.begin (quiet : List α) (hq : h.Quiet quiet) (a : α) (hrun : h.EndsInRun (quiet ++ [a])) :
    Phase h :=
  ⟨quiet, a, [], hq, hrun, fun _ ha => absurd ha List.not_mem_nil⟩

/-- A phase that goes on. -/
def Phase.extend (p : Phase h) (a : α) (ha : h.off a = false) : Phase h :=
  { p with
    inside := p.inside ++ [a]
    off_inside := fun b hb => by
      rcases List.mem_append.mp hb with hb | hb
      · exact p.off_inside b hb
      · rwa [List.mem_singleton.mp hb] }

/-- The next signal. -/
def Phases.step (x : Phases h) (a : α) : Phases h :=
  match x.current with
  | .waiting quiet hq =>
    if hrun : h.EndsInRun (quiet ++ [a]) then ⟨x.released, .holding (.begin quiet hq a hrun)⟩
    else ⟨x.released, .waiting (quiet ++ [a]) (hq.concat hrun)⟩
  | .holding phase =>
    if ha : h.off a = true then ⟨x.released ++ [⟨phase, a, ha⟩], .waiting [] quiet_nil⟩
    else ⟨x.released, .holding (phase.extend a (Bool.not_eq_true _ ▸ ha))⟩

section Step

variable {x : Phases h} {quiet : List α} {hq : h.Quiet quiet} {phase : Phase h}

theorem step_begin (hx : x.current = .waiting quiet hq) (hrun : h.EndsInRun (quiet ++ [a])) :
    x.step a = ⟨x.released, .holding (.begin quiet hq a hrun)⟩ := by
  rw [Phases.step, hx]
  exact dif_pos hrun

theorem step_wait (hx : x.current = .waiting quiet hq) (hrun : ¬ h.EndsInRun (quiet ++ [a])) :
    x.step a = ⟨x.released, .waiting (quiet ++ [a]) (hq.concat hrun)⟩ := by
  rw [Phases.step, hx]
  exact dif_neg hrun

theorem step_release (hx : x.current = .holding phase) (ha : h.off a = true) :
    x.step a = ⟨x.released ++ [⟨phase, a, ha⟩], .waiting [] quiet_nil⟩ := by
  rw [Phases.step, hx]
  exact dif_pos ha

theorem step_hold (hx : x.current = .holding phase) (ha : h.off a = false) :
    x.step a = ⟨x.released, .holding (phase.extend a ha)⟩ := by
  rw [Phases.step, hx]
  exact dif_neg (by simp [ha])

end Step

/-- The phases of a list. -/
def phases (h : Hysteresis α) (l : List α) : Phases h := l.foldl Phases.step ⟨[], .waiting [] quiet_nil⟩

theorem phases_concat : h.phases (l ++ [a]) = (h.phases l).step a := by
  rw [phases, List.foldl_append]
  rfl

theorem toList_step (x : Phases h) : (x.step a).toList = x.toList ++ [a] := by
  obtain ⟨rs, current⟩ := x
  cases current with
  | waiting quiet hq =>
    simp only [Phases.step]
    split
    · exact (List.append_assoc ..).symm
    · exact (List.append_assoc ..).symm
  | holding phase =>
    simp only [Phases.step]
    split
    · show (rs ++ [_]).flatMap Released.toList ++ [] = _ ++ phase.toList ++ [a]
      rw [List.flatMap_append, List.flatMap_singleton, List.append_nil, List.append_assoc]
      rfl
    · show _ ++ (phase.quiet ++ (phase.points ++ [a])) = _ ++ (phase.quiet ++ phase.points) ++ [a]
      simp only [List.append_assoc]

/-- The phases of a list are the list. -/
theorem toList_phases (l : List α) : (h.phases l).toList = l := by
  induction l using List.reverseRecOn with
  | nil => rfl
  | append_singleton l a ih => rw [phases_concat, toList_step, ih]

/-- Later signals leave the phases that have ended alone. -/
theorem released_phases_append (l more : List α) :
    (h.phases l).released <+: (h.phases (l ++ more)).released := by
  induction more using List.reverseRecOn with
  | nil => simp
  | append_singleton more a ih =>
    refine ih.trans ?_
    rw [← List.append_assoc, phases_concat]
    unfold Phases.step
    split
    · split
      · exact List.prefix_refl _
      · exact List.prefix_refl _
    · split
      · exact List.prefix_append _ _
      · exact List.prefix_refl _

/-- The signals before the last release end with it. -/
theorem endsOff_released (rs : List (Released h)) : h.EndsOff (rs.flatMap Released.toList) := by
  intro a ha
  rcases List.eq_nil_or_concat' rs with rfl | ⟨init, last, rfl⟩
  · cases ha
  · rw [List.flatMap_append, List.flatMap_singleton, Released.toList, ← List.append_assoc,
      List.getLast?_concat] at ha
    obtain rfl := Option.some.inj ha
    exact last.off_release

/-- Wherever a run ends, the switch is on. -/
theorem isHolding_of_endsInRun (hrun : h.EndsInRun l) : (h.phases l).isHolding = true := by
  have hlist : (h.phases l).toList = l := toList_phases l
  cases hcurrent : (h.phases l).current with
  | holding phase =>
    rw [Phases.isHolding, hcurrent]
    rfl
  | waiting quiet hq =>
    rw [Phases.toList, hcurrent] at hlist
    rw [← hlist, endsInRun_iff, trailing_append (endsOff_released _), ← endsInRun_iff] at hrun
    exact absurd hrun hq.not_endsInRun

/-! ## First passage -/

/-- The last `k` signals up to an index are on. -/
def PassesAt (h : Hysteresis α) (l : List α) (i : Nat) : Prop :=
  h.k ≤ i + 1 ∧ ∀ j, j ≤ i → i < j + h.k → ∃ a ∈ l[j]?, h.on a = true

theorem passesAt_iff {i : Nat} : h.PassesAt l i ↔ i < l.length ∧ h.EndsInRun (l.take (i + 1)) := by
  constructor
  · rintro ⟨hk, hon⟩
    have hpos := h.k_pos
    obtain ⟨a, ha, -⟩ := hon i le_rfl (by omega)
    have hi : i < l.length := (List.getElem?_eq_some_iff.mp ha).1
    refine ⟨hi, (l.take (i + 1)).take (i + 1 - h.k), (l.take (i + 1)).drop (i + 1 - h.k), ?_, ?_, ?_⟩
    · rw [List.take_append_drop]
    · rw [List.length_drop, List.length_take]
      omega
    · intro b hb
      obtain ⟨j, hj, rfl⟩ := List.mem_iff_getElem.mp hb
      rw [List.length_drop, List.length_take] at hj
      obtain ⟨c, hc, hcon⟩ := hon (i + 1 - h.k + j) (by omega) (by omega)
      obtain ⟨_, rfl⟩ := List.getElem?_eq_some_iff.mp hc
      rwa [List.getElem_drop, List.getElem_take]
  · rintro ⟨hi, earlier, run, hl, hlength, hon⟩
    have hsum : earlier.length + h.k = i + 1 := by
      have := congrArg List.length hl
      rw [List.length_take, List.length_append, hlength] at this
      omega
    refine ⟨by omega, fun j hj hjk => ?_⟩
    have hget : l[j]? = run[j - earlier.length]? := by
      rw [← List.getElem?_take_of_lt (show j < i + 1 by omega), hl,
        List.getElem?_append_right (by omega)]
    have hlt : j - earlier.length < run.length := by omega
    exact ⟨run[j - earlier.length], by rw [hget, List.getElem?_eq_getElem hlt]; rfl,
      hon _ (List.getElem_mem hlt)⟩

/-- The first phase begins the list. -/
theorem exists_toList_of_all {x : Phases h} {p : Phase h} {ps : List (Phase h)} (hall : x.all = p :: ps) :
    ∃ rest, x.toList = p.quiet ++ p.start :: rest := by
  obtain ⟨rs, current⟩ := x
  cases rs with
  | cons r rs =>
    obtain rfl : r.toPhase = p := (List.cons.inj hall).1
    refine ⟨r.inside ++ [r.release] ++ rs.flatMap Released.toList ++ current.toList, ?_⟩
    show (r.quiet ++ r.start :: r.inside ++ [r.release] ++ rs.flatMap Released.toList) ++ _ = _
    simp only [List.append_assoc, List.cons_append]
  | nil =>
    cases current with
    | waiting quiet hq => cases hall
    | holding phase =>
      obtain rfl : phase = p := (List.cons.inj hall).1
      exact ⟨phase.inside, rfl⟩

/-- The first phase starts where the first run ends. -/
theorem isLeast_of_all {p : Phase h} {ps : List (Phase h)} (hall : (h.phases l).all = p :: ps) :
    IsLeast {i | h.PassesAt l i} p.quiet.length ∧ l[p.quiet.length]? = some p.start := by
  obtain ⟨rest, hlist⟩ := exists_toList_of_all hall
  rw [toList_phases] at hlist
  have hstart : l[p.quiet.length]? = some p.start := by
    rw [hlist, List.getElem?_append_right le_rfl, Nat.sub_self]
    rfl
  refine ⟨⟨passesAt_iff.mpr ⟨(List.getElem?_eq_some_iff.mp hstart).1, ?_⟩, fun i hi => ?_⟩, hstart⟩
  · rw [hlist, List.take_append, List.take_of_length_le (by omega),
      show p.quiet.length + 1 - p.quiet.length = 1 by omega]
    exact p.endsInRun
  · by_contra hlt
    refine p.quiet_quiet (l.take (i + 1)) ?_ (passesAt_iff.mp hi).2
    rw [hlist, List.take_append_of_le_length (by omega)]
    exact List.take_prefix _ _

/-- Without a phase no run ends. -/
theorem not_passesAt_of_all (hall : (h.phases l).all = []) (i : Nat) : ¬ h.PassesAt l i := by
  intro hi
  have hlist : (h.phases l).toList = l := toList_phases l
  obtain ⟨hnone, hcurrent⟩ := List.append_eq_nil_iff.mp hall
  rw [List.map_eq_nil_iff] at hnone
  cases hc : (h.phases l).current with
  | holding phase =>
    rw [hc] at hcurrent
    cases hcurrent
  | waiting quiet hq =>
    rw [Phases.toList, hnone, hc] at hlist
    refine hq _ ?_ (passesAt_iff.mp hi).2
    rw [show quiet = l from hlist]
    exact List.take_prefix _ _

/-- Fewer signals that are on and longer runs pass later. -/
theorem PassesAt.mono {h' : Hysteresis α} {i : Nat} (hp : h'.PassesAt l i)
    (hon : ∀ a, h'.on a = true → h.on a = true) (hk : h.k ≤ h'.k) : h.PassesAt l i := by
  refine ⟨hk.trans hp.1, fun j hj hjk => ?_⟩
  obtain ⟨a, ha, hona⟩ := hp.2 j hj (by omega)
  exact ⟨a, ha, hon a hona⟩

end Hysteresis

end IncidentAwareness.Lib
