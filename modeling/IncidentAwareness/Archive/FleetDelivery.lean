import IncidentAwareness.Archive.FleetRuns
import IncidentAwareness.Archive.FleetSimulation

/-!
# Deliveries as runs of the fleet

What a delivery of a message does to the system of one Worker (`deliver`) is done by steps of one
Worker of the fleet and the snapshots of its tracker (`Fleet.reaches_deliver`), and a run of
deliveries is a run of the fleet (`exists_steps_of_run`). So what holds after every run of the fleet
holds after every run of deliveries (`after_of_afterSteps`).
-/

namespace IncidentAwareness.Archive

open IncidentAwareness.Common IncidentAwareness.Lib IncidentAwareness.Persistence

variable {ι : Type}

/-! ## Steps of one Worker -/

namespace Fleet

variable [DecidableEq ι] (sha256 : Sha256) (receiptLockKey : S3Object → Int) (i : ι)

/-- Steps of the Worker and snapshots of its tracker lead from one state of the fleet to another. -/
def Reaches (f f' : Fleet ι) : Prop :=
  ∃ steps : List (FleetStep ι),
    (∀ x ∈ steps, x.worker = some i ∨ ∃ status, x = .observe status) ∧
      after (step sha256 receiptLockKey) f steps = f'

/-- The Worker turns to something else, in a world. -/
def put (f : Fleet ι) (activity : Activity ι) (w : World ι) : Fleet ι :=
  { f.become i activity with world := w }

variable {sha256 receiptLockKey i} {f f' f'' : Fleet ι} {w w' : World ι}

theorem Reaches.refl (f : Fleet ι) : Reaches sha256 receiptLockKey i f f :=
  ⟨[], fun _ h => absurd h List.not_mem_nil, rfl⟩

theorem Reaches.trans (h : Reaches sha256 receiptLockKey i f f')
    (h' : Reaches sha256 receiptLockKey i f' f'') : Reaches sha256 receiptLockKey i f f'' := by
  obtain ⟨steps, hown, rfl⟩ := h
  obtain ⟨steps', hown', rfl⟩ := h'
  exact ⟨steps ++ steps', fun x hx => (List.mem_append.mp hx).elim (hown x) (hown' x),
    after_append ..⟩

theorem reaches_step (x : FleetStep ι) (hx : x.worker = some i ∨ ∃ status, x = .observe status)
    (h : (f.step sha256 receiptLockKey x).1 = f') : Reaches sha256 receiptLockKey i f f' :=
  ⟨[x], fun _ hy => List.mem_singleton.mp hy ▸ hx, h⟩

@[simp] theorem put_put (activity activity' : Activity ι) :
    (f.put i activity w).put i activity' w' = f.put i activity' w' := by
  simp only [put, become, Function.update_idem]

@[simp] theorem become_put (activity activity' : Activity ι) :
    (f.put i activity w).become i activity' = f.put i activity' w := by
  simp only [put, become, Function.update_idem]

@[simp] theorem activity_put (activity : Activity ι) : (f.put i activity w).activity i = activity :=
  Function.update_self ..

/-- What a call leaves of the input in work. -/
def resume (f : Fleet ι) (i : ι) (attempt : Attempt ι) (w : World ι) : Option (Job ι Unit) → Fleet ι
  | some job => f.put i (.processing { attempt with job := job }) w
  | none => f.put i .idle (w.rollback i)

/-- The next call of the input in work. -/
theorem reaches_call {α : Type} {site : Site} {body : World ι → Option (Except WorkerError α × World ι)}
    {next : Except WorkerError α → Job ι Unit} {result : Except (Stop WorkerError) α}
    (h : Answers observers body w result w') (f : Fleet ι) (attempt : Attempt ι) :
    Reaches sha256 receiptLockKey i
      (f.put i (.processing { attempt with job := .call site body next }) w)
      (f.resume i attempt w' (resumed next result)) := by
  obtain ⟨fault, applied, hfault, hadvance⟩ := exists_advance_of_answers h site next
  obtain ⟨fault, rfl⟩ : ∃ x : Fault ExternalError, fault = x.map .external := by
    rcases hfault with rfl | hfault
    · exact ⟨.none, rfl⟩
    · exact hfault
  refine reaches_step (.advance i fault) (.inl rfl) ?_
  simp only [step, advance, activity_put, advanceAttempt, advanceJob]
  have hworld : (f.put i (.processing { attempt with job := .call site body next }) w).world = w := rfl
  rw [hworld, hadvance]
  cases resumed next result with
  | some job => exact put_put ..
  | none => exact put_put ..

/-- What an input in work comes to. -/
def ended (f : Fleet ι) (i : ι) (attempt : Attempt ι) (w : World ι) :
    Except (Stop WorkerError) Unit → Fleet ι
  | .ok () => f.put i (.processing { attempt with job := .done (.ok ()) }) w
  | .error (.raised e) => f.put i (.processing { attempt with job := .done (.error e) }) w
  | .error .crashed => f.put i .idle (w.rollback i)

/-- A run of the input in work is made of steps of the Worker and of snapshots. -/
theorem reaches_of_runs {p : Job ι Unit} {r : Except (Stop WorkerError) Unit}
    (h : Runs observers p w r w') (f : Fleet ι) (attempt : Attempt ι) :
    Reaches sha256 receiptLockKey i (f.put i (.processing { attempt with job := p }) w)
      (f.ended i attempt w' r) := by
  induction h with
  | done r w =>
    cases r with
    | ok u => exact .refl _
    | error e => exact .refl _
  | other hother _ ih =>
    obtain ⟨status, rfl⟩ := hother
    exact (reaches_step (.observe status) (.inr ⟨status, rfl⟩) rfl).trans ih
  | @called γ site body next w w' w'' answer r h _ ih =>
    cases answer with
    | ok a => exact (reaches_call h f attempt).trans ih
    | error e => exact (reaches_call h f attempt).trans ih
  | crashed h => exact reaches_call h f attempt

/-! ## Deliveries -/

variable {s : System} {env : Environment} {message : Message}

/-- An input that is done, and the next. -/
theorem reaches_nextInput (f : Fleet ι) (attempt : Attempt ι) (w : World ι) :
    Reaches sha256 receiptLockKey i (f.ended i attempt w (.ok ()))
      (f.put i (nextInput sha256 receiptLockKey i attempt.message attempt.env attempt.remaining) w) := by
  refine reaches_step (.advance i .none) (.inl rfl) ?_
  simp only [step, advance, ended, activity_put, advanceAttempt, become_put]

theorem reaches_rolledBack (f : Fleet ι) (w : World ι) :
    Reaches sha256 receiptLockKey i (f.put i .rollingBack w) (f.put i .idle (w.rollback i)) := by
  refine reaches_step (.advance i .none) (.inl rfl) ?_
  simp only [step, advance, activity_put, Fleet.stop, become_put]
  rfl

/-- Where a Worker rolls back, or its process ended. -/
theorem reaches_stop (f : Fleet ι) (attempt : Attempt ι) (w : World ι) (stop : Stop WorkerError) :
    Reaches sha256 receiptLockKey i (f.ended i attempt w (.error stop))
      (f.put i .idle (w.rollback i)) := by
  cases stop with
  | crashed => exact .refl _
  | raised e =>
    have hfailed : Reaches sha256 receiptLockKey i (f.ended i attempt w (.error (.raised e)))
        (f.put i .rollingBack w) := by
      refine reaches_step (.advance i .none) (.inl rfl) ?_
      simp only [step, advance, ended, activity_put, advanceAttempt, become_put]
    exact hfailed.trans (reaches_rolledBack f w)

variable (receiptLockKey message) in
/-- The inputs of a message, by induction on what is left of them. -/
theorem reaches_inputs (hclock : env.OneClock) (objects : List S3Object) (h : AtRest i w s)
    (f : Fleet ι) :
    wp (objects.forM (processInput sha256 env))
      (fun _ s' => ∃ w', Reaches sha256 receiptLockKey i
        (f.put i (nextInput sha256 receiptLockKey i message env.fleet objects) w)
        (f.put i (.deleting message env.fleet) w') ∧ AtRest i w' s')
      (fun _ s' => ∃ w', Reaches sha256 receiptLockKey i
        (f.put i (nextInput sha256 receiptLockKey i message env.fleet objects) w)
        (f.put i .idle (w'.rollback i)) ∧ Shares i w' s') s := by
  induction objects generalizing w s with
  | nil => exact ⟨w, .refl _, h⟩
  | cons object objects ih =>
    show wp (processInput sha256 env object >>= fun _ => objects.forM (processInput sha256 env)) _ _ s
    let attempt : Attempt ι := ⟨message, env.fleet, object,
      processObject sha256 receiptLockKey i env.fleet object, objects⟩
    have hinput : ∀ {r w'}, Runs observers attempt.job w r w' → Reaches sha256 receiptLockKey i
        (f.put i (nextInput sha256 receiptLockKey i message env.fleet (object :: objects)) w)
        (f.ended i attempt w' r) := fun hrun => reaches_of_runs hrun f attempt
    refine wp_bind.mpr (wp_mono (follows_processInput receiptLockKey hclock object h) ?_ ?_)
    · rintro u s' ⟨u', w', hrun, hrest⟩
      have hnext := (hinput hrun).trans (reaches_nextInput f attempt w')
      refine wp_mono (ih hrest) ?_ ?_
      · rintro u s'' ⟨w'', hreaches, hrest'⟩
        exact ⟨w'', hnext.trans hreaches, hrest'⟩
      · rintro stop s'' ⟨w'', hreaches, hshares⟩
        exact ⟨w'', hnext.trans hreaches, hshares⟩
    · rintro stop s' ⟨w', hrun, hshares⟩
      exact ⟨w', (hinput hrun).trans (reaches_stop f attempt w' stop), hshares⟩

variable (receiptLockKey) in
/-- A message of the queue. -/
theorem reaches_message (hclock : env.OneClock) (hidle : f.activity i = .idle)
    (h : AtRest i f.world s) (hmessage : message ∈ s.queue) :
    wp (processMessage sha256 env message)
      (fun _ s' => ∃ w', Reaches sha256 receiptLockKey i f (f.put i (.deleting message env.fleet) w') ∧
        AtRest i w' s')
      (fun _ s' => ∃ w', Reaches sha256 receiptLockKey i f (f.put i .idle (w'.rollback i)) ∧
        Shares i w' s') s := by
  have hreceive : ∀ {f'}, (f.receive sha256 receiptLockKey i message env.fleet).1 = f' →
      Reaches sha256 receiptLockKey i f f' := by
    intro f' hf'
    refine reaches_step (.receive i message env.fleet) (.inl rfl) ?_
    simp only [step, hidle, h.1.queue, if_pos hmessage, hf']
  unfold processMessage
  unfold receive at hreceive
  cases hbody : message.body with
  | testEvent =>
    simp only [hbody] at hreceive
    exact ⟨f.world, hreceive rfl, h⟩
  | invalid text =>
    simp only [hbody] at hreceive
    have hinvalid : Reaches sha256 receiptLockKey i f (f.put i .rollingBack f.world) := hreceive rfl
    exact ⟨f.world, hinvalid.trans (reaches_rolledBack f f.world), h.1.toShares⟩
  | records inputs =>
    simp only [hbody] at hreceive
    refine wp_mono (reaches_inputs receiptLockKey message hclock inputs.eraseDups h f) ?_ ?_
    · rintro u s' ⟨w', hreaches, hrest⟩
      exact ⟨w', (hreceive rfl).trans hreaches, hrest⟩
    · rintro stop s' ⟨w', hreaches, hshares⟩
      exact ⟨w', (hreceive rfl).trans hreaches, hshares⟩

/-- `delete_message`. -/
theorem reaches_deleted (f : Fleet ι) (w : World ι) (message : Message) (env : FleetEnvironment) :
    Reaches sha256 receiptLockKey i (f.put i (.deleting message env) w)
      (f.put i .idle { w with queue := w.queue.filter (· ≠ message) }) := by
  refine reaches_step (.advance i .none) (.inl rfl) ?_
  simp only [step, advance, activity_put, delete]
  exact put_put ..

/-- A `delete_message` without effect. -/
theorem reaches_kept (f : Fleet ι) (w : World ι) (message : Message) (env : FleetEnvironment) :
    Reaches sha256 receiptLockKey i (f.put i (.deleting message env) w)
      (f.put i .idle (w.rollback i)) := by
  refine reaches_step (.advance i (.crash false)) (.inl rfl) ?_
  simp only [step, advance, activity_put, delete, Fleet.stop, become_put]
  rfl

variable (sha256 receiptLockKey) in
/-- `delete_message` and the end of the turn, with the faults that it can have. -/
theorem reaches_handled (hclock : env.OneClock) (hidle : f.activity i = .idle)
    (h : AtRest i f.world s) (hmessage : message ∈ s.queue) :
    wp (handleMessage sha256 env message)
      (fun _ s' => ∃ w', Reaches sha256 receiptLockKey i f (f.put i .idle w') ∧ AtRest i w' s'.rollback)
      (fun _ s' => ∃ w', Reaches sha256 receiptLockKey i f (f.put i .idle w') ∧
        AtRest i w' s'.rollback) s := by
  rw [handleMessage, wp_bind, wp_attempt]
  refine wp_mono (reaches_message receiptLockKey hclock hidle h hmessage) ?_ ?_
  · rintro u s' ⟨w', hreaches, hrest⟩
    have hkept : ∃ w'', Reaches sha256 receiptLockKey i f (f.put i .idle w'') ∧
        AtRest i w'' s'.rollback :=
      ⟨_, hreaches.trans (reaches_kept f w' message env.fleet), hrest.1.toShares.rollback⟩
    have hdeleted : ∃ w'', Reaches sha256 receiptLockKey i f (f.put i .idle w'') ∧
        AtRest i w'' { s'.rollback with queue := s'.queue.filter (· ≠ message) } :=
      ⟨_, hreaches.trans (reaches_deleted f w' message env.fleet), hrest.delete message⟩
    exact wp_call hdeleted (fun _ _ => hkept) fun _ _ => hdeleted
  · rintro stop s' ⟨w', hreaches, hshares⟩
    have hend : ∃ w', Reaches sha256 receiptLockKey i f (f.put i .idle w') ∧ AtRest i w' s'.rollback :=
      ⟨_, hreaches, hshares.rollback⟩
    exact ⟨fun _ _ => wp_call hend (fun _ _ => hend) fun _ _ => hend, fun _ => hend⟩

variable (receiptLockKey) in
/-- A delivery is made of steps of one Worker and of snapshots of its tracker. -/
theorem reaches_deliver (hclock : env.OneClock) (hidle : f.activity i = .idle)
    (h : AtRest i f.world s.rollback) (hmessage : message ∈ s.queue) :
    ∃ w', Reaches sha256 receiptLockKey i f { f with world := w' } ∧
      AtRest i w' (deliver sha256 env message s).rollback := by
  have hput : ∀ w', f.put i .idle w' = { f with world := w' } := by
    intro w'
    have hsame : Function.update f.activity i .idle = f.activity := hidle ▸ Function.update_eq_self i _
    simp only [put, become, hsame]
  have hhandled := reaches_handled sha256 receiptLockKey hclock hidle h hmessage
  simp only [hput] at hhandled
  unfold wp at hhandled
  unfold deliver System.after
  split
  · next hrun => rwa [hrun] at hhandled
  · next hrun => rwa [hrun] at hhandled

end Fleet

/-! ## Runs -/

/-- Messages that are in the queue are delivered, and nobody else writes to the archive. -/
def WorkerStep.Delivers (s : System) : WorkerStep → Prop
  | .send _ => True
  | .deliver message env => message ∈ s.queue ∧ env.OneClock
  | .writeArchive _ _ => False

section Runs

variable [DecidableEq ι] (sha256 : Sha256) (receiptLockKey : S3Object → Int) (i : ι)
  (runIds : List String) (runtimes : RuntimeTable) (queue : List Message)

open Fleet

/-- A run of deliveries is a run of the fleet in which one Worker works. -/
theorem exists_steps_of_run {steps : List WorkerStep}
    (hmeets : Meets (System.step sha256) WorkerStep.Delivers
      (System.initial runIds runtimes (fun _ => none) queue) steps) :
    ∃ xs : List (FleetStep ι),
      AtRest i (afterSteps sha256 receiptLockKey runIds runtimes queue xs).world
        (after (System.step sha256) (System.initial runIds runtimes (fun _ => none) queue)
          steps).rollback := by
  suffices h : ∃ xs : List (FleetStep ι),
      (∀ j, (afterSteps sha256 receiptLockKey runIds runtimes queue xs).activity j = .idle) ∧
        AtRest i (afterSteps sha256 receiptLockKey runIds runtimes queue xs).world
          (after (System.step sha256) (System.initial runIds runtimes (fun _ => none) queue)
            steps).rollback from h.imp fun _ h => h.2
  refine run_of_meets (System.step sha256) (P := fun s => ∃ xs : List (FleetStep ι),
    (∀ j, (afterSteps sha256 receiptLockKey runIds runtimes queue xs).activity j = .idle) ∧
      AtRest i (afterSteps sha256 receiptLockKey runIds runtimes queue xs).world s.rollback)
    ?_ ⟨[], fun _ => rfl, ?_⟩ hmeets
  · rintro s x ⟨xs, hidle, hrest⟩ hx
    cases x with
    | send message =>
      refine ⟨xs ++ [.send message], ?_, ?_⟩
      · simp only [afterSteps, after_append]
        exact hidle
      · simp only [afterSteps, after_append]
        exact hrest.send message
    | deliver message env =>
      obtain ⟨w', ⟨ys, -, hys⟩, hrest'⟩ := reaches_deliver receiptLockKey hx.2
        (hidle i) hrest hx.1
      refine ⟨xs ++ ys, ?_, ?_⟩
      · simp only [afterSteps, after_append] at hys ⊢
        rw [hys]
        exact hidle
      · simp only [afterSteps, after_append] at hys ⊢
        rw [hys]
        exact hrest'
    | writeArchive key content => exact hx.elim
  · exact ⟨⟨⟨rfl, rfl, rfl, fun _ => .inl rfl, fun _ => .inl rfl⟩, rfl⟩, rfl⟩

include i in
/-- What the tables, the objects and the queue are after every run of the fleet, they are after every
run of deliveries. -/
theorem after_of_afterSteps {P : Stores → (ObjectKey → Option Bytes) → List Message → Prop}
    (hP : ∀ xs : List (FleetStep ι),
      let w := (afterSteps sha256 receiptLockKey runIds runtimes queue xs).world
      P w.committed w.archive w.queue) {steps : List WorkerStep}
    (hmeets : Meets (System.step sha256) WorkerStep.Delivers
      (System.initial runIds runtimes (fun _ => none) queue) steps) :
    let s := after (System.step sha256) (System.initial runIds runtimes (fun _ => none) queue) steps
    P s.committed s.archive s.queue := by
  obtain ⟨xs, h⟩ := exists_steps_of_run sha256 receiptLockKey i runIds runtimes queue hmeets
  have hxs := hP xs
  simp only [h.1.committed, h.1.archive, h.1.queue] at hxs
  exact hxs

end Runs

end IncidentAwareness.Archive
