import ChassisAdmin.Proofs.Fabric.Course
import ChassisAdmin.Proofs.Fabric.Recovery

/-!
# The order in which a reconciliation acts

`inOrder_of_transcript` says that, whatever the surroundings answer, services and
rows are only acted on by the `plan` for the ASICs that are bound to the card,
from its first task on and up to the first task that fails.

Every clause of `InOrder` is shown by going through the courses that a
reconciliation can take.  On three of them nothing is acted on
(`inOrder_of_not_acts`), and on the fourth the tasks of the plan are done in turn
(`inOrder_of_tasks`).
-/

namespace ChassisAdmin.Fabric

open Service (unitOfAsic)
open Store (Memory)

/-- A request that is only made once the services have been stopped. -/
def Request.NeedsStopped : Request → Prop
  | .chassisState (.delete _) | .service (.resetFailed _) | .service (.start _) => True
  | _ => False

/-- The exchanges of a transcript that act. -/
def actions (t : List (Exchange Request Answer)) : List (Exchange Request Answer) :=
  t.filter (·.request.acts)

variable {m m' : Memory} {t t₁ t₂ : List (Exchange Request Answer)} {x : Exchange Request Answer}
  {r : Reconciler} {card : String} {module : ModuleName} {target : AdminStatus} {asics : List Nat}
  {result : Except ChassisError Outcome}

/-! ## The order of what is done -/

/-- Services and rows are acted on in the order of the plan for these ASICs. -/
structure InOrder (card : String) (target : AdminStatus) (asics : List Nat)
    (t : List (Exchange Request Answer)) (result : Except ChassisError Outcome) : Prop where
  /-- What acts are the requests of the plan, up to some point. -/
  upTo : (actions t).map (·.request) <+: (plan target asics).map Task.request
  /-- Nothing acts after a call has failed or a service was found to run. -/
  cut : ∀ x ∈ (actions t).dropLast, ¬Halts x
  /-- Once begun, the plan goes on to its end if no call fails and no service is found to run. -/
  whole : actions t ≠ [] → (∀ x ∈ actions t, ¬Halts x) →
    (actions t).map (·.request) = (plan target asics).map Task.request
  /-- In a shutdown no row is deleted and no service brought back before the last service was found
  not to run. -/
  stopped : target = .down → ∀ t₁ x t₂, t = t₁ ++ x :: t₂ → x.request.NeedsStopped →
    ∃ last, asics.getLast? = some last ∧
      ⟨.service (.isActive (unitOfAsic last)), .ok false⟩ ∈ t₁
  /-- Nothing is done at all just where no ASIC is bound, the status is not seen in time or a call
  fails before. -/
  inert : actions t = [] ↔ asics = [] ∨
    (∃ waited, result = .error (.pollTimeout card target waited)) ∨
    ∃ x ∈ t, x.request.acts = false ∧ Failed x
  /-- Success is reported just where the plan went on to its end. -/
  success : result = .ok (reconciled target asics) ↔
    asics ≠ [] ∧ (actions t).map (·.request) = (plan target asics).map Task.request ∧
      ∀ x ∈ t, ¬Halts x
  /-- What is reported is this success, or that no ASIC is bound. -/
  reported : ∀ o, result = .ok o → o = reconciled target asics ∨ o = .noAsics ∧ asics = []
  /-- No service is called but those of the ASICs. -/
  units : ∀ x ∈ t, ∀ c, x.request = .service c → ∃ asic ∈ asics, c.unit = unitOfAsic asic
  /-- After a success the last call for the service of an ASIC was to start it. -/
  startedLast : result = .ok (reconciled target asics) → ∀ asic ∈ asics, ∃ t₁ t₂,
    t = t₁ ++ ⟨.service (.start (unitOfAsic asic)), .ok ()⟩ :: t₂ ∧
      ∀ x ∈ t₂, ∀ c, x.request = .service c → c.unit ≠ unitOfAsic asic

theorem actions_eq_nil (h : ∀ x ∈ t, x.request.acts = false) : actions t = [] :=
  List.filter_eq_nil_iff.2 fun x hx => by rw [h x hx]; decide

theorem actions_append (h₁ : ∀ x ∈ t₁, x.request.acts = false)
    (h₂ : ∀ x ∈ t₂, x.request.acts = true) : actions (t₁ ++ t₂) = t₂ := by
  rw [actions, List.filter_append, List.filter_eq_self.2 h₂]
  exact congrArg (· ++ t₂) (actions_eq_nil h₁)

theorem reconciled_ne_noAsics (target : AdminStatus) (asics : List Nat) :
    reconciled target asics ≠ .noAsics := by
  cases target with
  | up | down => exact Outcome.noConfusion

theorem acts_of_needsStopped {q : Request} (h : q.NeedsStopped) : q.acts = true := by
  cases q with
  | config | observed | pause => exact h.elim
  | service c => rfl
  | chassisState c =>
    cases c with
    | delete => rfl
    | getEntry | setEntry | keys | hget => exact h.elim

/-- Exchanges none of which act are in order. -/
theorem inOrder_of_not_acts (hact : ∀ x ∈ t, x.request.acts = false)
    (hinert : asics = [] ∨ (∃ waited, result = .error (.pollTimeout card target waited)) ∨
      ∃ x ∈ t, Failed x)
    (hreported : ∀ o, result = .ok o → o = .noAsics ∧ asics = []) :
    InOrder card target asics t result := by
  have hnil : actions t = [] := actions_eq_nil hact
  have hfailure : result ≠ .ok (reconciled target asics) := fun h =>
    reconciled_ne_noAsics target asics (hreported _ h).1
  constructor
  case upTo =>
    rw [hnil]
    exact List.nil_prefix
  case cut =>
    rw [hnil]
    exact fun _ hx => nomatch hx
  case whole => exact fun hne => absurd hnil hne
  case stopped =>
    rintro - t₁ x t₂ rfl hx
    have := hact x (List.mem_append_right _ List.mem_cons_self)
    exact absurd ((acts_of_needsStopped hx).symm.trans this) (by decide)
  case inert =>
    refine iff_of_true hnil (hinert.imp_right (Or.imp_right ?_))
    exact fun ⟨x, hx, hfailed⟩ => ⟨x, hx, hact x hx, hfailed⟩
  case success =>
    refine iff_of_false hfailure ?_
    rintro ⟨hne, hplan, -⟩
    rw [hnil] at hplan
    exact hne (plan_eq_nil_iff.1 (List.map_eq_nil_iff.1 hplan.symm))
  case reported => exact fun o h => .inr (hreported o h)
  case units =>
    intro x hx c hc
    have := hact x hx
    rw [hc] at this
    cases this
  case startedLast => exact fun h => absurd h hfailure

theorem exists_append_of_append_eq {α : Type} {l₀ l l₁ l₂ : List α} {a : α}
    (h : l₀ ++ l = l₁ ++ a :: l₂) (ha : a ∉ l₀) : ∃ l', l₁ = l₀ ++ l' ∧ l = l' ++ a :: l₂ := by
  rcases List.append_eq_append_iff.1 h with ⟨l', hl₁, hl⟩ | ⟨l', hl₀, hl⟩
  · exact ⟨l', hl₁, hl⟩
  · cases l' with
    | nil => exact ⟨[], by simpa using hl₀.symm, by simpa using hl.symm⟩
    | cons b l' =>
      obtain ⟨rfl, -⟩ := List.cons.inj hl
      exact absurd (hl₀ ▸ List.mem_append_right _ List.mem_cons_self) ha

/-- In a shutdown the last service was found not to run before anything that needs it stopped. -/
theorem exists_inactive_of_needsStopped {σ : Type}
    {reply : (q : Request) → σ → Answer q → σ → Prop} {s s' : σ}
    {result : Except ChassisError Unit}
    (h : (inTurn card (plan .down asics)).Transcript reply s (t₁ ++ x :: t₂) result s')
    (hx : x.request.NeedsStopped) :
    ∃ last, asics.getLast? = some last ∧
      ⟨.service (.isActive (unitOfAsic last)), .ok false⟩ ∈ t₁ := by
  -- Tasks up to the check make no request that needs the services stopped.
  have hearly : ∀ task ∈ asics.map Task.stop ++ asics.getLast?.toList.map Task.check,
      ¬task.request.NeedsStopped := by
    intro task htask
    rcases List.mem_append.1 htask with htask | htask
    · obtain ⟨a, -, rfl⟩ := List.mem_map.1 htask
      exact id
    · obtain ⟨a, -, rfl⟩ := List.mem_map.1 htask
      exact id
  rw [plan, ← List.append_assoc, inTurn_append] at h
  rcases Attempt.transcript_bind_iff.1 h with ⟨e, hfirst, rfl⟩ | ⟨_, l₁, s₁, l₂, hfirst, hrest, ht⟩
  · obtain ⟨task, htask, hrequest⟩ := exists_task_of_transcript hfirst x
      (List.mem_append_right _ List.mem_cons_self)
    exact absurd (hrequest ▸ hx) (hearly task htask)
  · have hnot : x ∉ l₁ := by
      intro hmem
      obtain ⟨task, htask, hrequest⟩ := exists_task_of_transcript hfirst x hmem
      exact hearly task htask (hrequest ▸ hx)
    obtain ⟨l', rfl, rfl⟩ := exists_append_of_append_eq ht.symm hnot
    obtain ⟨last, hlast⟩ : ∃ last, asics.getLast? = some last := by
      obtain ⟨task, htask, -⟩ := exists_task_of_transcript hrest x
        (List.mem_append_right _ List.mem_cons_self)
      cases asics with
      | nil => cases htask
      | cons a asics => exact ⟨_, List.getLast?_cons⟩
    refine ⟨last, hlast, List.mem_append_left _ ?_⟩
    have hdone := done_of_transcript hfirst
    have hnone := hdone.eq_ok_iff.1 rfl
    have hasked : Task.request (.check last) ∈ l₁.map (·.request) := by
      rw [hdone.requests_eq hnone, hlast]
      exact List.mem_map_of_mem (List.mem_append_right _ List.mem_cons_self)
    obtain ⟨⟨_, answer⟩, hx, rfl⟩ := List.mem_map.1 hasked
    cases answer with
    | error e => exact absurd (.inl ⟨e, rfl⟩) (hnone _ hx)
    | ok active =>
      cases active with
      | true => exact absurd (.inr ⟨_, rfl⟩) (hnone _ hx)
      | false => exact hx

/-- After a success the last call for the service of an ASIC was to start it. -/
theorem exists_startedLast {σ : Type} {reply : (q : Request) → σ → Answer q → σ → Prop} {s s' : σ}
    (hsorted : asics.Pairwise (· < ·))
    (h : (inTurn card (plan target asics)).Transcript reply s t (.ok ()) s') {asic : Nat}
    (ha : asic ∈ asics) :
    ∃ t₁ t₂, t = t₁ ++ ⟨.service (.start (unitOfAsic asic)), .ok ()⟩ :: t₂ ∧
      ∀ x ∈ t₂, ∀ c, x.request = .service c → c.unit ≠ unitOfAsic asic := by
  have hdone := done_of_transcript h
  have hnone := hdone.eq_ok_iff.1 rfl
  obtain ⟨l₁, l₂, hplan, hlast⟩ := exists_plan_eq_append_start hsorted ha target
  have hrequests := hdone.requests_eq hnone
  rw [hplan, List.map_append, List.map_cons] at hrequests
  obtain ⟨t₁, t₂', rfl, -, ht₂'⟩ := List.map_eq_append_iff.1 hrequests
  obtain ⟨⟨_, answer⟩, t₂, rfl, hstart, ht₂⟩ := List.map_eq_cons_iff.1 ht₂'
  cases hstart
  refine ⟨t₁, t₂, ?_, ?_⟩
  · match answer with
    | .ok () => rfl
    | .error e => exact absurd (.inl ⟨e, rfl⟩) (hnone _ (List.mem_append_right _ List.mem_cons_self))
  · intro x hx c hc
    obtain ⟨task, htask, hrequest⟩ : ∃ task ∈ l₂, task.request = x.request :=
      List.mem_map.1 (ht₂ ▸ List.mem_map_of_mem hx)
    rw [unit_of_request (hrequest.trans hc)]
    exact fun h => hlast task htask (unitOfAsic_injective h)

theorem inOrder_of_tasks {ended : Except ChassisError Unit} (hsorted : asics.Pairwise (· < ·))
    (hact : ∀ x ∈ t₁, x.request.acts = false) (hnone : ∀ x ∈ t₁, ¬Failed x) (hne : asics ≠ [])
    (h : (inTurn card (plan target asics)).Transcript Replies m t₂ ended m') :
    InOrder card target asics (t₁ ++ t₂) (ended.map fun _ => reconciled target asics) := by
  have hdone := done_of_transcript h
  have hact₂ : ∀ x ∈ t₂, x.request.acts = true := by
    intro x hx
    obtain ⟨task, -, hrequest⟩ := exists_task_of_transcript h x hx
    rw [hrequest, Task.acts_request]
  have hactions : actions (t₁ ++ t₂) = t₂ := actions_append hact hact₂
  have hhalts : ∀ x ∈ t₁, ¬Halts x := fun x hx =>
    mt (halts_iff_failed (hact x hx)).1 (hnone x hx)
  have hne₂ : t₂ ≠ [] := hdone.ne_nil (mt plan_eq_nil_iff.1 hne)
  constructor
  case upTo => rw [hactions]; exact hdone.upTo
  case cut => rw [hactions]; exact hdone.cut_of_dropLast
  case whole => rw [hactions]; exact fun _ => hdone.requests_eq
  case stopped =>
    rintro rfl l₁ x l₂ ht hx
    have hmem : x ∉ t₁ := fun hmem =>
      absurd ((acts_of_needsStopped hx).symm.trans (hact x hmem)) (by decide)
    obtain ⟨l', rfl, rfl⟩ := exists_append_of_append_eq ht hmem
    obtain ⟨last, hlast, hinactive⟩ := exists_inactive_of_needsStopped h hx
    exact ⟨last, hlast, List.mem_append_right _ hinactive⟩
  case inert =>
    rw [hactions]
    refine iff_of_false hne₂ ?_
    rintro (hnil | ⟨waited, hlate⟩ | ⟨x, hx, hact', hfailed⟩)
    · exact hne hnil
    · cases hdone with
      | whole => cases hlate
      | cut _ _ _ he =>
        obtain ⟨task, -, answer, he⟩ := he
        cases hlate
        exact verdict_ne_pollTimeout he
    · rcases List.mem_append.1 hx with hx | hx
      · exact hnone x hx hfailed
      · exact absurd (hact'.symm.trans (hact₂ x hx)) (by decide)
  case success =>
    rw [hactions]
    have hended : (ended.map fun _ => reconciled target asics) = .ok (reconciled target asics) ↔
        ended = .ok () := by
      cases ended with
      | ok | error => simp [Except.map]
    rw [hended, hdone.eq_ok_iff]
    constructor
    · intro hnone₂
      exact ⟨hne, hdone.requests_eq hnone₂, fun x hx =>
        (List.mem_append.1 hx).elim (hhalts x) (hnone₂ x)⟩
    · rintro ⟨-, -, hall⟩ x hx
      exact hall x (List.mem_append_right _ hx)
  case reported =>
    intro o ho
    cases ended with
    | ok => exact .inl (Except.ok.inj ho).symm
    | error => cases ho
  case units =>
    intro x hx c hc
    rcases List.mem_append.1 hx with hx | hx
    · have hquiet := hact x hx
      rw [hc] at hquiet
      cases hquiet
    · obtain ⟨task, htask, hrequest⟩ := exists_task_of_transcript h x hx
      exact ⟨task.asic, asic_mem_of_mem_plan htask, unit_of_request (hrequest.symm.trans hc)⟩
  case startedLast =>
    intro hok asic ha
    obtain rfl : ended = .ok () := by
      cases ended with
      | ok => rfl
      | error => cases hok
    obtain ⟨l₁, l₂, rfl, hlast⟩ := exists_startedLast hsorted h ha
    exact ⟨t₁ ++ l₁, l₂, (List.append_assoc _ _ _).symm, hlast⟩

/-- Whatever the surroundings answer, reconciling a card acts on services and rows in the order of
the plan for the ASICs that are bound to it. -/
theorem inOrder_of_transcript (hb : Bound m module.name asics)
    (h : (reconcile r module target).Transcript Replies m t result m') :
    asics.Pairwise (· < ·) ∧ (∀ asic, asic ∈ asics ↔ ∃ key, Binds m module.name key asic) ∧
      InOrder module.name target asics t result := by
  obtain ⟨hsorted, hmem⟩ := sorted_and_mem_iff_of_bound hb
  refine ⟨hsorted, hmem, ?_⟩
  cases course_of_transcript hb h with
  | late hact _ waited =>
    exact inOrder_of_not_acts hact (.inr (.inl ⟨waited, rfl⟩)) fun _ h => nomatch h
  | failed hact hx e => exact inOrder_of_not_acts hact (.inr (.inr hx)) fun _ h => nomatch h
  | idle hact _ hnil =>
    exact inOrder_of_not_acts hact (.inl hnil) fun o ho => ⟨(Except.ok.inj ho).symm, hnil⟩
  | begun hact hnone hne htasks => exact inOrder_of_tasks hsorted hact hnone hne htasks

/-! ## A shutdown that stops short -/

open Chassis (card0 standardReconciler)

/-- Three rows, two of which name one card. -/
def threeRows : Memory := Memory.empty.seed
  [(table, rowKey 9, [(nameField, "FABRIC-CARD0")]), (table, rowKey 10, [(nameField, "FABRIC-CARD0")]),
    (table, rowKey 2, [(nameField, "FABRIC-CARD1")])]

theorem bound_threeRows : Bound threeRows card0.name [9, 10] := by
  unfold Bound
  rfl

/-- The exchanges of a shutdown that is refused the deletion of the second row. -/
def secondRowKept (e : SystemError) : List (Exchange Request Answer) :=
  [⟨.service (.stop (unitOfAsic 9)), .ok ()⟩, ⟨.service (.stop (unitOfAsic 10)), .ok ()⟩,
    ⟨.service (.isActive (unitOfAsic 10)), .ok false⟩,
    ⟨.chassisState (.delete (rowRawKey 9)), .ok ()⟩,
    ⟨.chassisState (.delete (rowRawKey 10)), .error e⟩]

theorem exists_transcript_secondRowKept (e : SystemError) :
    ∃ t m', (reconcile standardReconciler card0 .down).Transcript Replies threeRows
      (t ++ secondRowKept e) (.error (.system e)) m' := by
  have hwait : ∃ t, (awaitStatus standardReconciler card0.name .down 0).Transcript Replies
      threeRows t (.ok false) threeRows := by
    rw [awaitStatus]
    exact ⟨_, .ask (r := .ok (Guard.plainRecord .down)) rfl (.done _ _)⟩
  have hbinding : ∃ t, (onChassisState (binding card0.name)).Transcript Replies
      threeRows t (.ok [9, 10]) threeRows :=
    ⟨_, .ask (.answered _ _) (.ask (.answered _ _) (.ask (.answered _ _) (.ask (.answered _ _)
      (.done _ _))))⟩
  have htasks : ∃ m', (carryOut card0.name .down [9, 10]).Transcript Replies
      threeRows (secondRowKept e) (.error (.system e)) m' :=
    ⟨_, .ask rfl (.ask rfl (.ask rfl (.ask (.answered _ _) (.ask (.refused _ _ e trivial)
      (.done _ _)))))⟩
  obtain ⟨t₁, hwait⟩ := hwait
  obtain ⟨t₂, hbinding⟩ := hbinding
  obtain ⟨m', htasks⟩ := htasks
  refine ⟨t₁ ++ t₂, m', ?_⟩
  rw [reconcile_eq_lookUp_bind]
  refine Attempt.transcript_bind_iff.2 (.inr ⟨[9, 10], t₁ ++ t₂, threeRows, _, ?_, htasks, rfl⟩)
  exact Attempt.transcript_bind_iff.2 (.inr ⟨false, t₁, threeRows, t₂, hwait, hbinding, rfl⟩)

theorem inOrder_secondRowKept : ∃ t m',
    (reconcile standardReconciler card0 .down).Transcript Replies threeRows
      (t ++ secondRowKept (.internal "refused")) (.error (.system (.internal "refused"))) m' ∧
    InOrder card0.name .down [9, 10] (t ++ secondRowKept (.internal "refused"))
      (.error (.system (.internal "refused"))) := by
  obtain ⟨t, m', h⟩ := exists_transcript_secondRowKept (.internal "refused")
  exact ⟨t, m', h, (inOrder_of_transcript bound_threeRows h).2.2⟩

end ChassisAdmin.Fabric
