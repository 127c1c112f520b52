import ChassisAdmin.Fabric
import ChassisAdmin.Proofs.Program
import ChassisAdmin.Proofs.Text.Numerals

/-!
# The plan of a reconciliation

Reconciling a card has two halves.  The first waits for the status and looks up
the ASICs of the card, and acts on nothing (`lookUp`).  The second acts on the
services and rows of these ASICs (`carryOut`).  What it does is a list of tasks
that is known before the first of them: the `plan`.  The tasks are done in turn,
and the first that fails ends them.

`reconcile_eq_lookUp_bind` says that this is what reconciling is.  So what holds
of tasks that are done in turn holds of it.
-/

namespace ChassisAdmin.Fabric

open Service (unitOfAsic)

theorem unitOfAsic_injective {n k : Nat} (h : unitOfAsic n = unitOfAsic k) : n = k :=
  Text.eq_of_decimal_between h

/-! ## Tasks -/

/-- What is done for one ASIC. -/
inductive Task where
  /-- Its service is stopped. -/
  | stop (asic : Nat)
  /-- Its service is asked whether it still runs. -/
  | check (asic : Nat)
  /-- Its row is deleted. -/
  | deleteRow (asic : Nat)
  /-- The failures on record for its service are cleared. -/
  | resetFailed (asic : Nat)
  /-- Its service is started. -/
  | start (asic : Nat)
  deriving DecidableEq, Repr

namespace Task

/-- The ASIC of a task. -/
def asic : Task → Nat
  | stop a | check a | deleteRow a | resetFailed a | start a => a

/-- The request of a task. -/
def request : Task → Request
  | stop a => .service (.stop (unitOfAsic a))
  | check a => .service (.isActive (unitOfAsic a))
  | deleteRow a => .chassisState (.delete (rowRawKey a))
  | resetFailed a => .service (.resetFailed (unitOfAsic a))
  | start a => .service (.start (unitOfAsic a))

/-- What an answer to the request of a task comes to. -/
def verdict (card : String) : (task : Task) → Answer task.request → Except ChassisError Unit
  | check a, .ok true => .error (.serviceStopFailed card (unitOfAsic a))
  | check _, .ok false => .ok ()
  | check _, .error e => .error (.system e)
  | stop _, r | deleteRow _, r | resetFailed _, r | start _, r => r.mapError .system

/-- Does a task. -/
def step (card : String) : Task → Step Unit
  | stop a => onService (.stop (unitOfAsic a))
  | check a => do
      if ← onService (.isActive (unitOfAsic a)) then
        throw (.serviceStopFailed card (unitOfAsic a))
  | deleteRow a => onChassisState (Store.delete (rowRawKey a))
  | resetFailed a => onService (.resetFailed (unitOfAsic a))
  | start a => onService (.start (unitOfAsic a))

/-- A task is one request, and its answer says how it ends. -/
theorem step_eq (card : String) (task : Task) :
    task.step card = Attempt.request task.request (task.verdict card) := by
  cases task with
  | stop | deleteRow | resetFailed | start => rfl
  | check a =>
    refine congrArg (Program.ask _) (funext fun r => ?_)
    match r with
    | .ok true | .ok false | .error _ => rfl

end Task

/-- Does tasks one after the other. -/
def inTurn (card : String) : List Task → Step Unit
  | [] => return ()
  | task :: tasks => do
      task.step card
      inTurn card tasks

theorem inTurn_append (card : String) (l₁ l₂ : List Task) :
    inTurn card (l₁ ++ l₂) = (do inTurn card l₁; inTurn card l₂) := by
  induction l₁ with
  | nil => rfl
  | cons task l₁ ih =>
    rw [List.cons_append, inTurn, ih, inTurn, bind_assoc]

/-! ## The plan -/

/-- The tasks that bring the service of an ASIC back. -/
def restart (asic : Nat) : List Task := [.resetFailed asic, .start asic]

/-- The tasks for the ASICs of a card. -/
def plan : AdminStatus → List Nat → List Task
  | .up, asics => asics.map .start
  | .down, asics =>
      asics.map .stop ++ (asics.getLast?.toList.map .check ++
        (asics.map .deleteRow ++ asics.flatMap restart))

theorem plan_eq_nil_iff {target : AdminStatus} {asics : List Nat} :
    plan target asics = [] ↔ asics = [] := by
  cases target with
  | up => simp [plan]
  | down => cases asics <;> simp [plan]

/-- Every task of the plan is for one of the ASICs. -/
theorem asic_mem_of_mem_plan {target : AdminStatus} {asics : List Nat} {task : Task}
    (h : task ∈ plan target asics) : task.asic ∈ asics := by
  cases target with
  | up =>
    obtain ⟨a, ha, rfl⟩ := List.mem_map.1 h
    exact ha
  | down =>
    simp only [plan, restart, List.mem_append, List.mem_map, List.mem_flatMap, Option.mem_toList,
      List.mem_cons, List.not_mem_nil, or_false] at h
    rcases h with ⟨a, ha, rfl⟩ | ⟨a, ha, rfl⟩ | ⟨a, ha, rfl⟩ | ⟨a, ha, rfl | rfl⟩
    · exact ha
    · exact List.mem_of_getLast? ha
    · exact ha
    · exact ha
    · exact ha

/-- The last task for an ASIC is to start its service. -/
theorem exists_plan_eq_append_start {asics : List Nat} (h : asics.Pairwise (· < ·)) {a : Nat}
    (ha : a ∈ asics) (target : AdminStatus) :
    ∃ l₁ l₂, plan target asics = l₁ ++ .start a :: l₂ ∧ ∀ task ∈ l₂, task.asic ≠ a := by
  obtain ⟨as₁, as₂, rfl⟩ := List.append_of_mem ha
  have hlt : ∀ b ∈ as₂, b ≠ a := fun b hb =>
    Nat.ne_of_gt ((List.pairwise_cons.1 (List.pairwise_append.1 h).2.1).1 b hb)
  cases target with
  | up =>
    refine ⟨as₁.map .start, as₂.map .start, by simp [plan], ?_⟩
    intro task htask
    obtain ⟨b, hb, rfl⟩ := List.mem_map.1 htask
    exact hlt b hb
  | down =>
    refine ⟨(as₁ ++ a :: as₂).map .stop ++ ((as₁ ++ a :: as₂).getLast?.toList.map .check ++
      ((as₁ ++ a :: as₂).map .deleteRow ++ (as₁.flatMap restart ++ [.resetFailed a]))),
      as₂.flatMap restart, by simp [plan, restart], ?_⟩
    intro task htask
    obtain ⟨b, hb, htask⟩ := List.mem_flatMap.1 htask
    obtain rfl | rfl : task = .resetFailed b ∨ task = .start b := by simpa [restart] using htask
    · exact hlt b hb
    · exact hlt b hb

section Parts

variable (card : String) (asics : List Nat)

theorem startAll_eq : startAll asics = inTurn card (asics.map .start) := by
  induction asics with
  | nil => rfl
  | cons a asics ih => rw [startAll, ih]; rfl

theorem stopAll_eq : stopAll asics = inTurn card (asics.map .stop) := by
  induction asics with
  | nil => rfl
  | cons a asics ih => rw [stopAll, ih]; rfl

theorem deleteRows_eq : deleteRows asics = inTurn card (asics.map .deleteRow) := by
  induction asics with
  | nil => rfl
  | cons a asics ih => rw [deleteRows, ih]; rfl

theorem restartAll_eq : restartAll asics = inTurn card (asics.flatMap restart) := by
  induction asics with
  | nil => rfl
  | cons a asics ih => rw [restartAll, ih]; rfl

theorem checkStopped_eq :
    checkStopped card asics = inTurn card (asics.getLast?.toList.map .check) := by
  unfold checkStopped
  cases asics.getLast? with
  | none => rfl
  | some a => exact (bind_pure ((Task.check a).step card)).symm

end Parts

/-! ## Reconciling by the plan -/

/-- What reconciling does with the ASICs of a card that has some. -/
def reconciled : AdminStatus → List Nat → Outcome
  | .up => .started
  | .down => .restarted

/-- What reconciling does once the status has been seen. -/
def settle (card : String) (target : AdminStatus) : Step Outcome := do
  let asics ← onChassisState (binding card)
  if asics.isEmpty then
    return .noAsics
  match target with
  | .up =>
      startAll asics
      return .started asics
  | .down =>
      stopAll asics
      checkStopped card asics
      deleteRows asics
      restartAll asics
      return .restarted asics

theorem reconcile_eq (r : Reconciler) (module : ModuleName) (target : AdminStatus) :
    reconcile r module target = (do
      let late ← awaitStatus r module.name target 0
      if late then throw (.pollTimeout module.name target r.pollTimeout)
      else settle module.name target) := by
  cases target with
  | up => rfl
  | down => rfl

/-- Waits for the status of a card and looks up its ASICs. -/
def lookUp (r : Reconciler) (module : ModuleName) (target : AdminStatus) : Step (List Nat) := do
  let late ← awaitStatus r module.name target 0
  if late then throw (.pollTimeout module.name target r.pollTimeout)
  else onChassisState (binding module.name)

/-- Does the tasks for the ASICs of a card. -/
def carryOut (card : String) (target : AdminStatus) (asics : List Nat) : Step Outcome :=
  if asics.isEmpty then return .noAsics
  else do
    inTurn card (plan target asics)
    return reconciled target asics

theorem settle_eq (card : String) (target : AdminStatus) :
    settle card target = onChassisState (binding card) >>= carryOut card target := by
  cases target with
  | up =>
    refine bind_congr fun asics => ?_
    rw [startAll_eq card]
    rfl
  | down =>
    refine bind_congr fun asics => ?_
    rw [stopAll_eq card, checkStopped_eq, deleteRows_eq card, restartAll_eq card]
    simp only [carryOut, plan, inTurn_append, bind_assoc]
    rfl

/-- Reconciling looks up the ASICs of a card and does the tasks for them. -/
theorem reconcile_eq_lookUp_bind (r : Reconciler) (module : ModuleName) (target : AdminStatus) :
    reconcile r module target = lookUp r module target >>= carryOut module.name target := by
  rw [reconcile_eq, lookUp, bind_assoc]
  refine bind_congr fun late => ?_
  cases late with
  | true => rfl
  | false => exact settle_eq module.name target

/-- A status is read with one request. -/
theorem onObserved_currentAdminStatus (g : Guard) (name : String) :
    onObserved (g.currentAdminStatus name) =
      Attempt.request (.observed (.getEntry Module.table name)) fun record =>
        (record.map g.adminStatusOf).mapError .system := by
  refine congrArg (Program.ask (Request.observed (.getEntry Module.table name))) ?_
  funext record
  cases record with
  | ok fields => rfl
  | error e => rfl

section Runs

variable {σ : Type} {handle : (q : Request) → σ → Answer q × σ} {s : σ} {r : Reconciler}

/-- A status that is there is seen at once. -/
theorem runWith_awaitStatus {name : String} {expected : AdminStatus}
    (h : (onObserved (r.guard.currentAdminStatus name)).runWith handle s = (.ok expected, s))
    (elapsed : Nat) : (awaitStatus r name expected elapsed).runWith handle s = (.ok false, s) := by
  rw [awaitStatus, Attempt.runWith_bind_ok h, if_pos rfl]
  rfl

theorem runWith_lookUp {module : ModuleName} {target : AdminStatus} {asics : List Nat}
    (hseen : (onObserved (r.guard.currentAdminStatus module.name)).runWith handle s =
      (.ok target, s))
    (hbound : (onChassisState (binding module.name)).runWith handle s = (.ok asics, s)) :
    (lookUp r module target).runWith handle s = (.ok asics, s) :=
  (Attempt.runWith_bind_ok (runWith_awaitStatus hseen 0) _).trans hbound

end Runs

/-! ## Requests -/

/-- A call on a database that only reads. -/
def Reads : Store.Call → Prop
  | .getEntry _ _ | .keys _ | .hget _ _ => True
  | .setEntry _ _ _ | .delete _ => False

theorem asks_collect (card : String) (keys : List String) (found : List Nat) :
    (collect card keys found).Asks Reads := by
  induction keys generalizing found with
  | nil => exact Attempt.asks_pure found
  | cons key keys ih =>
    refine Attempt.asks_bind (Attempt.asks_request trivial _) ?_
    intro name
    split
    · split
      · exact ih _
      · exact ih _
    · exact ih _

theorem asks_binding (card : String) : (binding card).Asks Reads :=
  Attempt.asks_bind (Attempt.asks_request trivial _) fun keys => asks_collect card keys []

theorem asks_currentAdminStatus (g : Guard) (name : String) :
    (g.currentAdminStatus name).Asks Reads :=
  Attempt.asks_bind (Attempt.asks_request trivial _) fun _ => Attempt.asks_pure _

section Asks

variable {P : Request → Prop}

theorem asks_onObserved {α : Type} {Q : Store.Call → Prop} {p : Store.Client α} (hp : p.Asks Q)
    (h : ∀ c, Q c → P (.observed c)) : (onObserved p).Asks P :=
  Attempt.asks_mapError _ (Program.asks_interpret hp fun c hc => ⟨h c hc, fun _ => trivial⟩)

theorem asks_onChassisState {α : Type} {Q : Store.Call → Prop} {p : Store.Client α} (hp : p.Asks Q)
    (h : ∀ c, Q c → P (.chassisState c)) : (onChassisState p).Asks P :=
  Attempt.asks_mapError _ (Program.asks_interpret hp fun c hc => ⟨h c hc, fun _ => trivial⟩)

theorem asks_awaitStatus (ho : ∀ c, Reads c → P (.observed c)) (hp : ∀ time, P (.pause time))
    (r : Reconciler) (name : String) (expected : AdminStatus) (elapsed : Nat) :
    (awaitStatus r name expected elapsed).Asks P := by
  induction elapsed using awaitStatus.induct r with
  | case1 elapsed ih =>
    rw [awaitStatus]
    refine Attempt.asks_bind (asks_onObserved (asks_currentAdminStatus r.guard name) ho) ?_
    intro status
    split
    · exact Attempt.asks_pure false
    · refine Attempt.asks_bind (Attempt.asks_request (hp _) _) ?_
      intro _
      split
      · exact Attempt.asks_pure true
      · next hlt => exact ih hlt

theorem asks_lookUp (ho : ∀ c, Reads c → P (.observed c)) (hp : ∀ time, P (.pause time))
    (hs : ∀ c, Reads c → P (.chassisState c)) (r : Reconciler) (module : ModuleName)
    (target : AdminStatus) : (lookUp r module target).Asks P := by
  refine Attempt.asks_bind (asks_awaitStatus ho hp r _ target 0) ?_
  intro late
  split
  · exact Attempt.asks_throw _
  · exact asks_onChassisState (asks_binding _) hs

theorem asks_inTurn {tasks : List Task} (h : ∀ task ∈ tasks, P task.request) (card : String) :
    (inTurn card tasks).Asks P := by
  induction tasks with
  | nil => exact Attempt.asks_pure ()
  | cons task tasks ih =>
    obtain ⟨htask, htasks⟩ := List.forall_mem_cons.1 h
    rw [inTurn, Task.step_eq]
    exact Attempt.asks_bind (Attempt.asks_request htask _) fun _ => ih htasks

theorem asks_carryOut {asics : List Nat} {target : AdminStatus}
    (h : ∀ task ∈ plan target asics, P task.request) (card : String) :
    (carryOut card target asics).Asks P := by
  unfold carryOut
  split
  · exact Attempt.asks_pure _
  · exact Attempt.asks_bind (asks_inTurn h card) fun _ => Attempt.asks_pure _

end Asks

end ChassisAdmin.Fabric
