import ChassisAdmin.Proofs.Fabric.Binding
import ChassisAdmin.Proofs.Fabric.Plan
import ChassisAdmin.Proofs.Store.Transcript

/-!
# The courses that a reconciliation can take

Nothing is known here of the surroundings of a reconciliation, but that
CHASSIS_STATE_DB answers as a database does or refuses.  Any other call may get
any answer: the status may never be seen, a service may refuse or run on.

A transcript of a reconciliation is one of four (`course_of_transcript`).  The
first half waits for the status and looks up the ASICs, and may end it: late,
with a failed call or with no ASIC.  Otherwise the tasks of the plan are begun.
They are done in turn up to the first that fails (`done_of_transcript`).
-/

namespace ChassisAdmin.Fabric

open Service (unitOfAsic)
open Store (Memory)

/-! ## Exchanges of a reconciliation -/

/-- What becomes of CHASSIS_STATE_DB when a request is answered. -/
def Replies : (q : Request) → Memory → Answer q → Memory → Prop
  | .chassisState c, m, r, m' => Store.Reply (fun _ => True) c m r m'
  | .config _, m, _, m' | .observed _, m, _, m' | .service _, m, _, m' | .pause _, m, _, m' => m' = m

/-- Whether a request calls a service or writes CHASSIS_STATE_DB. -/
def Request.acts : Request → Bool
  | .service _ | .chassisState (.setEntry _ _ _) | .chassisState (.delete _) => true
  | .config _ | .observed _ | .pause _ | .chassisState (.getEntry _ _) | .chassisState (.keys _)
  | .chassisState (.hget _ _) => false

/-- The call has failed. -/
def Failed : Exchange Request Answer → Prop
  | ⟨.config _, r⟩ | ⟨.observed _, r⟩ | ⟨.chassisState _, r⟩ | ⟨.service _, r⟩ => ∃ e, r = .error e
  | ⟨.pause _, _⟩ => False

/-- The call has failed, or a service was found to run. -/
def Halts (x : Exchange Request Answer) : Prop :=
  Failed x ∨ ∃ unit, x = ⟨.service (.isActive unit), .ok true⟩

variable {m m' : Memory} {t t₁ t₂ : List (Exchange Request Answer)} {x : Exchange Request Answer}

theorem halts_iff_failed (h : x.request.acts = false) : Halts x ↔ Failed x := by
  refine or_iff_left ?_
  rintro ⟨unit, rfl⟩
  cases h

/-- A request that does not act leaves CHASSIS_STATE_DB as it is. -/
theorem eq_of_replies {q : Request} {r : Answer q} (h : Replies q m r m') (hq : q.acts = false) :
    m' = m := by
  cases q with
  | config | observed | service | pause => exact h
  | chassisState c =>
    cases c with
    | getEntry | keys | hget =>
      cases h with
      | answered | refused => rfl
    | setEntry | delete => cases hq

/-- Exchanges that do not act leave CHASSIS_STATE_DB as it is. -/
theorem eq_of_transcript_of_not_acts {α : Type} {p : Program Request Answer α} {a : α}
    (h : p.Transcript Replies m t a m') (ht : ∀ x ∈ t, x.request.acts = false) : m' = m := by
  refine h.invariant (P := (· = m)) ?_ rfl
  rintro x hx s s' hr rfl
  exact eq_of_replies hr (ht x hx)

/-- A run where CHASSIS_STATE_DB is kept in memory is one that a program can have here. -/
theorem exists_transcript_of_runWith {σ α : Type} {handle : (q : Request) → σ → Answer q × σ}
    (chassisState : σ → Memory)
    (hreply : ∀ q s, Replies q (chassisState s) (handle q s).1 (chassisState (handle q s).2))
    {p : Step α} {result : Except ChassisError α} {s s' : σ}
    (h : p.runWith handle s = (result, s')) :
    ∃ t, p.Transcript Replies (chassisState s) t result (chassisState s') := by
  obtain ⟨t, ht⟩ := Program.exists_transcript_run handle p.run s
  rw [show Program.run handle p.run s = (result, s') from h] at ht
  refine ⟨t, Program.Transcript.mono chassisState ?_ ht⟩
  intro q s r s' hr
  obtain ⟨rfl, rfl⟩ := Prod.mk.inj hr
  exact hreply q s

/-! ## Before the first task -/

theorem acts_of_reads {c : Store.Call} (h : Reads c) : (Request.chassisState c).acts = false := by
  cases c with
  | getEntry | keys | hget => rfl
  | setEntry | delete => exact h.elim

/-- Waiting for the status and looking up the ASICs act on nothing. -/
theorem asks_lookUp_not_acts (r : Reconciler) (module : ModuleName) (target : AdminStatus) :
    (lookUp r module target).Asks fun q => q.acts = false :=
  asks_lookUp (fun _ _ => rfl) (fun _ => rfl) (fun _ => acts_of_reads) r module target

theorem prompt_collect (card : String) (keys : List String) (found : List Nat) :
    (collect card keys found).Prompt := by
  induction keys generalizing found with
  | nil => exact Attempt.prompt_pure found
  | cons key keys ih =>
    refine Attempt.prompt_bind (Store.Client.prompt_hget _ _) ?_
    intro name
    split
    · split
      · exact ih _
      · exact ih _
    · exact ih _

theorem prompt_binding (card : String) : (binding card).Prompt :=
  Attempt.prompt_bind (Store.Client.prompt_keys _) fun keys => prompt_collect card keys []

theorem prompt_onChassisState {α : Type} {p : Store.Client α} (hp : p.Prompt) :
    (onChassisState p).Prompt Failed :=
  Attempt.prompt_mapError _ (Program.prompt_interpret hp)

theorem prompt_awaitStatus (r : Reconciler) (name : String) (expected : AdminStatus)
    (elapsed : Nat) : (awaitStatus r name expected elapsed).Prompt Failed := by
  induction elapsed using awaitStatus.induct r with
  | case1 elapsed ih =>
    have hread : (r.guard.currentAdminStatus name).Prompt :=
      Attempt.prompt_bind (Store.Client.prompt_getEntry _ _) fun _ => Attempt.prompt_pure _
    have hpause : (pause pollInterval).Prompt Failed := by
      refine Attempt.prompt_request fun _ => iff_of_false id ?_
      rintro ⟨_, he⟩
      cases he
    rw [awaitStatus]
    refine Attempt.prompt_bind (Attempt.prompt_mapError _ (Program.prompt_interpret hread)) ?_
    intro status
    split
    · exact Attempt.prompt_pure false
    · refine Attempt.prompt_bind hpause ?_
      intro _
      split
      · exact Attempt.prompt_pure true
      · next hlt => exact ih hlt

/-- Where no call fails, looking up the ASICs of a card comes to those that are bound to it. -/
theorem eq_of_transcript_binding {card : String} {asics asics' : List Nat}
    (hb : Bound m card asics)
    (h : (onChassisState (binding card)).Transcript Replies m t (.ok asics') m')
    (ht : ∀ x ∈ t, ¬Failed x) : asics' = asics := by
  obtain ⟨r, hr, hasics⟩ := Attempt.transcript_mapError_iff.1 h
  obtain ⟨t₀, ht₀, rfl⟩ := Program.exists_transcript_of_interpret hr
  have hrun : (binding card).onMemory m = (r, m') :=
    Store.Client.onMemory_of_transcript ht₀ fun x hx =>
      ht (x.lift .chassisState) (List.mem_map_of_mem hx)
  obtain rfl : .ok asics = r := congrArg Prod.fst (hb.symm.trans hrun)
  exact Except.ok.inj hasics

/-- What the first half of a reconciliation comes to. -/
inductive LookedUp (card : String) (target : AdminStatus) (asics : List Nat)
    (t : List (Exchange Request Answer)) : Except ChassisError (List Nat) → Prop where
  | found (h : ∀ x ∈ t, ¬Failed x) : LookedUp card target asics t (.ok asics)
  | late (h : ∀ x ∈ t, ¬Failed x) (waited : Nat) :
      LookedUp card target asics t (.error (.pollTimeout card target waited))
  | failed (h : ∃ x ∈ t, Failed x) (e : ChassisError) : LookedUp card target asics t (.error e)

theorem lookedUp_of_transcript {r : Reconciler} {module : ModuleName} {target : AdminStatus}
    {asics : List Nat} {result : Except ChassisError (List Nat)}
    (hb : Bound m module.name asics)
    (h : (lookUp r module target).Transcript Replies m t result m') :
    LookedUp module.name target asics t result := by
  rcases Attempt.transcript_bind_iff.1 h with ⟨e, hwait, rfl⟩ | ⟨late, t₁, m₁, t₂, hwait, hrest, rfl⟩
  · rcases Program.ok_or_error_of_prompt (prompt_awaitStatus r _ target 0) hwait with
      ⟨⟨_, he⟩, -⟩ | ⟨-, t₁, x, rfl, hx, -⟩
    · cases he
    · exact .failed ⟨x, List.mem_concat_self, hx⟩ e
  have hnone : ∀ x ∈ t₁, ¬Failed x := by
    rcases Program.ok_or_error_of_prompt (prompt_awaitStatus r _ target 0) hwait with
      ⟨-, hnone⟩ | ⟨⟨_, he⟩, -⟩
    · exact hnone
    · cases he
  cases late with
  | true =>
    obtain ⟨rfl, rfl, -⟩ := Attempt.transcript_throw_iff.1 hrest
    rw [List.append_nil]
    exact .late hnone r.pollTimeout
  | false =>
    obtain rfl : m₁ = m := eq_of_transcript_of_not_acts hwait
      (hwait.request_of_asks (P := fun q => q.acts = false)
        (asks_awaitStatus (fun _ _ => rfl) (fun _ => rfl) r _ target 0))
    change (onChassisState (binding module.name)).Transcript Replies m₁ t₂ result m' at hrest
    rcases Program.ok_or_error_of_prompt (prompt_onChassisState (prompt_binding _)) hrest with
      ⟨⟨asics', rfl⟩, hnone₂⟩ | ⟨⟨e, rfl⟩, t₃, x, rfl, hx, -⟩
    · obtain rfl := eq_of_transcript_binding hb hrest hnone₂
      exact .found fun x hx => (List.mem_append.1 hx).elim (hnone x) (hnone₂ x)
    · exact .failed ⟨x, List.mem_append_right _ List.mem_concat_self, hx⟩ e

/-! ## Tasks in turn -/

variable {card : String} {tasks : List Task}

theorem halts_iff_verdict (card : String) (task : Task) (r : Answer task.request) :
    Halts ⟨task.request, r⟩ ↔ ∃ e, task.verdict card r = .error e := by
  cases task with
  | check a =>
    match r with
    | .ok true => exact ⟨fun _ => ⟨_, rfl⟩, fun _ => .inr ⟨_, rfl⟩⟩
    | .ok false =>
      refine ⟨?_, fun ⟨_, he⟩ => nomatch he⟩
      rintro (⟨_, he⟩ | ⟨_, he⟩)
      · cases he
      · cases he
    | .error e => exact ⟨fun _ => ⟨_, rfl⟩, fun _ => .inl ⟨e, rfl⟩⟩
  | stop | deleteRow | resetFailed | start =>
    cases r with
    | ok =>
      refine ⟨?_, fun ⟨_, he⟩ => nomatch he⟩
      rintro (⟨_, he⟩ | ⟨_, he⟩)
      · cases he
      · cases he
    | error e => exact ⟨fun _ => ⟨_, rfl⟩, fun _ => .inl ⟨e, rfl⟩⟩

/-- What doing tasks in turn comes to. -/
inductive Done (card : String) (tasks : List Task) :
    List (Exchange Request Answer) → Except ChassisError Unit → Prop where
  | whole {t : List (Exchange Request Answer)} (hrequests : t.map (·.request) = tasks.map Task.request)
      (hnone : ∀ x ∈ t, ¬Halts x) : Done card tasks t (.ok ())
  | cut {t : List (Exchange Request Answer)} {x : Exchange Request Answer} {e : ChassisError}
      (hrequests : (t ++ [x]).map (·.request) <+: tasks.map Task.request)
      (hnone : ∀ y ∈ t, ¬Halts y) (hx : Halts x)
      (he : ∃ task ∈ tasks, ∃ r, task.verdict card r = .error e) :
      Done card tasks (t ++ [x]) (.error e)

theorem done_of_transcript {σ : Type} {reply : (q : Request) → σ → Answer q → σ → Prop} {s s' : σ}
    {result : Except ChassisError Unit}
    (h : (inTurn card tasks).Transcript reply s t result s') : Done card tasks t result := by
  -- A task that fails is the last one, and after one that does not the others go on.
  induction tasks generalizing s t with
  | nil =>
    obtain ⟨rfl, rfl, -⟩ := Attempt.transcript_pure_iff.1 h
    exact .whole rfl fun _ hx => absurd hx List.not_mem_nil
  | cons task tasks ih =>
    rw [inTurn, Task.step_eq] at h
    rcases Attempt.transcript_bind_iff.1 h with ⟨e, hstep, rfl⟩ | ⟨_, t₁, s₁, t₂, hstep, hrest, rfl⟩
    · obtain ⟨r, -, hr, rfl⟩ := Attempt.transcript_request_iff.1 hstep
      exact .cut (t := []) ⟨_, rfl⟩ (fun _ hy => absurd hy List.not_mem_nil)
        ((halts_iff_verdict card task r).2 ⟨e, hr.symm⟩) ⟨task, List.mem_cons_self, r, hr.symm⟩
    · obtain ⟨r, -, hr, rfl⟩ := Attempt.transcript_request_iff.1 hstep
      have hx : ¬Halts ⟨task.request, r⟩ := by
        rw [halts_iff_verdict card, ← hr]
        rintro ⟨_, he⟩
        cases he
      cases ih hrest with
      | whole hrequests hnone =>
        exact .whole (congrArg (_ :: ·) hrequests) (List.forall_mem_cons.2 ⟨hx, hnone⟩)
      | cut hrequests hnone hx' he =>
        obtain ⟨task', htask', he⟩ := he
        refine .cut (t := _ :: _) ((List.prefix_cons_inj _).2 hrequests)
          (List.forall_mem_cons.2 ⟨hx, hnone⟩) hx' ⟨task', List.mem_cons_of_mem _ htask', he⟩

namespace Done

variable {result : Except ChassisError Unit}

theorem upTo (h : Done card tasks t result) : t.map (·.request) <+: tasks.map Task.request := by
  cases h with
  | whole hrequests => exact hrequests ▸ List.prefix_rfl
  | cut hrequests => exact hrequests

theorem cut_of_dropLast (h : Done card tasks t result) : ∀ x ∈ t.dropLast, ¬Halts x := by
  cases h with
  | whole _ hnone => exact fun x hx => hnone x (List.dropLast_subset _ hx)
  | cut _ hnone =>
    rw [List.dropLast_concat]
    exact hnone

theorem requests_eq (h : Done card tasks t result) (hnone : ∀ x ∈ t, ¬Halts x) :
    t.map (·.request) = tasks.map Task.request := by
  cases h with
  | whole hrequests => exact hrequests
  | cut _ _ hx => exact absurd hx (hnone _ List.mem_concat_self)

theorem eq_ok_iff (h : Done card tasks t result) : result = .ok () ↔ ∀ x ∈ t, ¬Halts x := by
  cases h with
  | whole _ hnone => exact iff_of_true rfl hnone
  | cut _ _ hx => exact iff_of_false (fun h => nomatch h) fun h => h _ List.mem_concat_self hx

theorem ne_nil (h : Done card tasks t result) (htasks : tasks ≠ []) : t ≠ [] := by
  cases h with
  | whole hrequests =>
    rintro rfl
    exact htasks (List.map_eq_nil_iff.1 hrequests.symm)
  | cut => exact List.append_ne_nil_of_right_ne_nil _ (List.cons_ne_nil _ _)

end Done

theorem verdict_ne_pollTimeout {task : Task} {r : Answer task.request} {name : String}
    {target : AdminStatus} {waited : Nat} :
    task.verdict card r ≠ .error (.pollTimeout name target waited) := by
  intro h
  cases task with
  | check a =>
    match r with
    | .ok true | .ok false | .error _ => cases h
  | stop | deleteRow | resetFailed | start =>
    cases r with
    | ok | error => cases h

/-- The exchanges of tasks are for these tasks. -/
theorem exists_task_of_transcript {σ : Type} {reply : (q : Request) → σ → Answer q → σ → Prop}
    {s s' : σ} {result : Except ChassisError Unit}
    (h : (inTurn card tasks).Transcript reply s t result s') :
    ∀ x ∈ t, ∃ task ∈ tasks, x.request = task.request :=
  h.request_of_asks (P := fun q => ∃ task ∈ tasks, q = task.request)
    (asks_inTurn (fun task htask => ⟨task, htask, rfl⟩) card)

theorem Task.acts_request (task : Task) : task.request.acts = true := by
  cases task with
  | stop | check | deleteRow | resetFailed | start => rfl

theorem unit_of_request {task : Task} {c : Service.Call} (h : task.request = .service c) :
    c.unit = unitOfAsic task.asic := by
  cases task with
  | deleteRow => cases h
  | stop | check | resetFailed | start =>
    cases h
    rfl

/-! ## Courses of a reconciliation -/

variable {r : Reconciler} {module : ModuleName} {target : AdminStatus} {asics : List Nat}
  {result : Except ChassisError Outcome}

/-- The courses that reconciling a card can take on a database to which these ASICs are bound. -/
inductive Course (card : String) (target : AdminStatus) (asics : List Nat) (m : Memory) :
    List (Exchange Request Answer) → Except ChassisError Outcome → Memory → Prop where
  /-- The status is not seen in time. -/
  | late {t : List (Exchange Request Answer)} (hact : ∀ x ∈ t, x.request.acts = false)
      (hnone : ∀ x ∈ t, ¬Failed x) (waited : Nat) :
      Course card target asics m t (.error (.pollTimeout card target waited)) m
  /-- A call fails before the first task. -/
  | failed {t : List (Exchange Request Answer)} (hact : ∀ x ∈ t, x.request.acts = false)
      (hx : ∃ x ∈ t, Failed x) (e : ChassisError) : Course card target asics m t (.error e) m
  /-- No ASIC is bound. -/
  | idle {t : List (Exchange Request Answer)} (hact : ∀ x ∈ t, x.request.acts = false)
      (hnone : ∀ x ∈ t, ¬Failed x) (h : asics = []) : Course card target asics m t (.ok .noAsics) m
  /-- The tasks are begun. -/
  | begun {t₀ t₁ : List (Exchange Request Answer)} {r : Except ChassisError Unit} {m' : Memory}
      (hact : ∀ x ∈ t₀, x.request.acts = false) (hnone : ∀ x ∈ t₀, ¬Failed x) (h : asics ≠ [])
      (htasks : (inTurn card (plan target asics)).Transcript Replies m t₁ r m') :
      Course card target asics m (t₀ ++ t₁) (r.map fun _ => reconciled target asics) m'

theorem course_of_transcript (hb : Bound m module.name asics)
    (h : (reconcile r module target).Transcript Replies m t result m') :
    Course module.name target asics m t result m' := by
  have hact : ∀ {t : List (Exchange Request Answer)} {found m'},
      (lookUp r module target).Transcript Replies m t found m' →
        ∀ x ∈ t, x.request.acts = false := fun h =>
    h.request_of_asks (P := fun q => q.acts = false) (asks_lookUp_not_acts r module target)
  rw [reconcile_eq_lookUp_bind] at h
  rcases Attempt.transcript_bind_iff.1 h with ⟨e, hfound, rfl⟩ | ⟨asics', t₀, m₀, t₁, hfound, hrest, rfl⟩
  · obtain rfl := eq_of_transcript_of_not_acts hfound (hact hfound)
    cases lookedUp_of_transcript hb hfound with
    | late hnone waited => exact .late (hact hfound) hnone waited
    | failed hx => exact .failed (hact hfound) hx e
  · obtain rfl := eq_of_transcript_of_not_acts hfound (hact hfound)
    cases lookedUp_of_transcript hb hfound with
    | found hnone =>
      unfold carryOut at hrest
      split at hrest
      · next hempty =>
        obtain ⟨rfl, rfl, rfl⟩ := Attempt.transcript_pure_iff.1 hrest
        rw [List.append_nil]
        exact .idle (hact hfound) hnone (List.isEmpty_iff.1 hempty)
      · next hempty =>
        have hne : asics ≠ [] := fun h => hempty (List.isEmpty_iff.2 h)
        rcases Attempt.transcript_bind_iff.1 hrest with
          ⟨e, htasks, rfl⟩ | ⟨_, t₂, m₂, t₃, htasks, hpure, rfl⟩
        · exact .begun (hact hfound) hnone hne htasks
        · obtain ⟨rfl, rfl, rfl⟩ := Attempt.transcript_pure_iff.1 hpure
          rw [List.append_nil]
          exact .begun (hact hfound) hnone hne htasks

end ChassisAdmin.Fabric
