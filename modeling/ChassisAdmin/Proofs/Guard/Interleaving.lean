import ChassisAdmin.Proofs.Guard.Pairing

/-!
# Operations in any order

The guard reads, decides and writes in separate calls, so requests for one module
that overlap may all be applied.  What must not happen is that their records mix.
`paired_and_whole` says that they do not.

* However operations overlap and whatever calls are refused, all records stay
  paired.
* Where only requests run and no call is refused, the record of a module with an
  applied request is in the end the record of one applied request, with its
  status and its start.

The second rule holds since a request never ends on the clearing of a record: it
goes on to write its own.  So the record of the module is the one of an applied
request, or a request is still about to write (`Accounted`).
-/

namespace ChassisAdmin.Guard

open Store (Memory Call Pool Process Reply)
open ChassisAdmin.Module (withRecord)

/-! ## Requests through their stages -/

/-- The operation asks for a status. -/
def Asked.IsRequest (a : Asked) : Prop := ∃ module target, a.operation = .request module target

/-- The request has ended and was applied. -/
def Applied (x : Process Asked Stage) : Prop :=
  ∃ o, x.state = .returned (.ok (some o)) ∧ o.isApplied = true

/-- A request that is about to write will be applied with the status it asks for. -/
def Proper (x : Process Asked Stage) : Prop :=
  ∀ target o, x.state = .starting target o →
    (∃ module, x.label.operation = .request module target) ∧ o.isApplied = true

/-- The record of a module is due to a request: it is about to write the record, or it wrote the
one that stands there and was applied. -/
inductive Accounts (m : Memory) (x : Process Asked Stage) : Prop where
  | writes (target : AdminStatus) (o : TransitionOutcome) (hs : x.state = .starting target o)
  | wrote {module : ModuleName} {target : AdminStatus}
      (hop : x.label.operation = .request module target) (ha : Applied x)
      (hm : m.record Module.table x.label.name = some (x.label.guard.startedRecord target))

/-- Where a request for a module was applied, its record is due to some request. -/
structure Accounted (p : Pool Asked Stage) : Prop where
  request : ∀ x ∈ p.processes, x.label.IsRequest
  proper : ∀ x ∈ p.processes, Proper x
  due : ∀ x ∈ p.processes, Applied x →
    ∃ y ∈ p.processes, y.label.name = x.label.name ∧ Accounts p.memory y

theorem Accounts.of_record_eq {m m' : Memory} {x : Process Asked Stage} (h : Accounts m x)
    (hm : m'.record Module.table x.label.name = m.record Module.table x.label.name) :
    Accounts m' x := by
  cases h with
  | writes target o hs => exact .writes target o hs
  | wrote hop ha hr => exact .wrote hop ha (hm.trans hr)

/-! ## Moves of requests -/

/-- What one move of a request does to the accounts: it only reads and owes nothing before or
after, or it takes the record of its module on itself and leaves all others. -/
inductive Accounting (i : Asked) (s : Stage) (m : Memory) (s' : Stage) (m' : Memory) : Prop where
  | reads (hm : m' = m) (hs : ¬Accounts m ⟨i, s⟩) (hs' : ¬Applied ⟨i, s'⟩)
  | takes (hs' : Accounts m' ⟨i, s'⟩)
      (hm : ∀ j, i.name ≠ j → m'.record Module.table j = m.record Module.table j)

theorem not_accounts_of_ne {m : Memory} {i : Asked} {s : Stage}
    (hw : ∀ target o, s ≠ .starting target o) (hr : ∀ o, s ≠ .returned o) : ¬Accounts m ⟨i, s⟩ := by
  rintro (⟨target, o, hs⟩ | ⟨_, ⟨o, hs, _⟩, _⟩)
  · exact hw target o hs
  · exact hr _ hs

variable {i : Asked} {s s' : Stage} {m m' : Memory}

theorem proper_of_moves (h : s.Moves (fun _ => False) i m s' m') : Proper ⟨i, s'⟩ := by
  cases h with
  | failed | settled | abandoned | read | reread | cleared | started => exact fun _ _ h => nomatch h
  | free _ hop =>
    rintro _ _ ⟨⟩
    exact ⟨⟨_, hop⟩, rfl⟩
  | reclaimed _ _ hop =>
    rintro _ _ ⟨⟩
    exact ⟨⟨_, hop⟩, rfl⟩

theorem accounting_of_moves (hi : i.IsRequest) (hs : Proper ⟨i, s⟩)
    (h : s.Moves (fun _ => False) i m s' m') : Accounting i s m s' m' := by
  obtain ⟨_, _, hi⟩ := hi
  cases h with
  | failed _ _ e hf =>
    obtain ⟨_, hf⟩ := hf
    exact hf.elim
  | settled _ o hop ho =>
    refine .reads rfl (not_accounts_of_ne nofun nofun) ?_
    rintro ⟨_, ⟨⟩, ha⟩
    exact absurd (ho.symm.trans ha) (by decide)
  | free | abandoned | reread => exact .reads rfl (not_accounts_of_ne nofun nofun) nofun
  | read _ hop => cases hop.symm.trans hi
  | reclaimed _ _ hop =>
    refine .takes (.writes _ _ rfl) ?_
    intro j hj
    exact Memory.record_put_of_ne m Module.table _ hj
  | cleared _ _ hop => cases hop.symm.trans hi
  | started _ target o =>
    obtain ⟨⟨module, hop⟩, ho⟩ := hs _ _ rfl
    refine .takes (.wrote hop ⟨_, rfl, ho⟩ ?_) ?_
    · rw [Module.withRecord, Memory.record_put, if_pos rfl]
      rfl
    · intro j hj
      exact Memory.record_put_of_ne m Module.table _ hj

/-- While one request moves, the record of every applied request stays due to some request. -/
theorem Accounting.due {a b : List (Process Asked Stage)} (h : Accounting i s m s' m')
    (hdue : ∀ x ∈ a ++ ⟨i, s⟩ :: b, Applied x →
      ∃ y ∈ a ++ ⟨i, s⟩ :: b, y.label.name = x.label.name ∧ Accounts m y)
    {x : Process Asked Stage} (hx : x ∈ a ++ ⟨i, s'⟩ :: b) (ha : Applied x) :
    ∃ y ∈ a ++ ⟨i, s'⟩ :: b, y.label.name = x.label.name ∧ Accounts m' y := by
  have hx' := Pool.eq_or_mem_of_mem_moved hx ⟨i, s⟩
  cases h with
  | reads hm hs hs' =>
    subst hm
    have hxold : x ∈ a ++ ⟨i, s⟩ :: b := hx'.resolve_left fun he => hs' (he ▸ ha)
    obtain ⟨y, hy, hyx, hacc⟩ := hdue x hxold ha
    have hynew := Pool.eq_or_mem_of_mem_moved hy ⟨i, s'⟩
    exact ⟨y, hynew.resolve_left fun he => hs (he ▸ hacc), hyx, hacc⟩
  | takes hs' hm =>
    by_cases hname : i.name = x.label.name
    · exact ⟨⟨i, s'⟩, List.mem_append_right a List.mem_cons_self, hname, hs'⟩
    · have hxold : x ∈ a ++ ⟨i, s⟩ :: b := hx'.resolve_left fun he => hname (by rw [he])
      obtain ⟨y, hy, hyx, hacc⟩ := hdue x hxold ha
      have hyi : i.name ≠ y.label.name := by rwa [hyx]
      have hynew := Pool.eq_or_mem_of_mem_moved hy ⟨i, s'⟩
      exact ⟨y, hynew.resolve_left fun he => hyi (by rw [he]), hyx, hacc.of_record_eq (hm _ hyi)⟩

theorem Accounted.of_join {l : List (Process Asked Stage)} (h : Accounted ⟨m, l⟩)
    (hi : i.IsRequest) : Accounted ⟨m, ⟨i, .reading⟩ :: l⟩ := by
  refine ⟨?_, ?_, ?_⟩
  · intro x hx
    rcases List.mem_cons.1 hx with rfl | hx
    · exact hi
    · exact h.request x hx
  · intro x hx
    rcases List.mem_cons.1 hx with rfl | hx
    · exact fun _ _ h => nomatch h
    · exact h.proper x hx
  · intro x hx ha
    rcases List.mem_cons.1 hx with rfl | hx
    · obtain ⟨_, hs, _⟩ := ha
      cases hs
    · obtain ⟨y, hy, hxy⟩ := h.due x hx ha
      exact ⟨y, List.mem_cons_of_mem _ hy, hxy⟩

theorem Accounted.of_step {p q : Pool Asked Stage}
    (h : Pool.Step (stages Asked.IsRequest fun _ => False) p q) (hp : Accounted p) :
    Accounted q := by
  cases h with
  | join i hi m l => exact hp.of_join hi
  | @move i s s' m m' a b h =>
    have hmem : ⟨i, s⟩ ∈ a ++ ⟨i, s⟩ :: b := List.mem_append_right a List.mem_cons_self
    have hi : i.IsRequest := hp.request _ hmem
    refine ⟨?_, ?_, ?_⟩
    · intro x hx
      rcases Pool.eq_or_mem_of_mem_moved hx ⟨i, s⟩ with rfl | hx
      · exact hi
      · exact hp.request x hx
    · intro x hx
      rcases Pool.eq_or_mem_of_mem_moved hx ⟨i, s⟩ with rfl | hx
      · exact proper_of_moves h
      · exact hp.proper x hx
    · intro x hx ha
      exact (accounting_of_moves hi (hp.proper _ hmem) h).due hp.due hx ha

/-! ## The records in the end -/

/-- The operation was a request of a status for a module, it has returned and was applied. -/
def AppliedTo (x : Process Asked Rest) (name : String) (target : AdminStatus) : Prop :=
  ∃ module o, x.label.operation = .request module target ∧ module.name = name ∧
    x.state = .done (.ok (some o)) ∧ o.isApplied = true

/-- All operations of a pool have returned. -/
def Finished (p : Pool Asked Rest) : Prop := ∀ x ∈ p.processes, ∃ r, x.state = .done r

/-- In the end the record of a module is the one of an applied request. -/
theorem exists_record_of_finished {m : Memory} {q : Pool Asked Rest}
    (h : (Pool.onlyMemory m).Runs (Store.called Asked.program Asked.IsRequest fun _ => False) q)
    (hq : Finished q) {x : Process Asked Rest} (hx : x ∈ q.processes) {name : String}
    {target : AdminStatus} (ha : AppliedTo x name target) :
    ∃ y ∈ q.processes, ∃ target, AppliedTo y name target ∧
      q.memory.record Module.table name = some (y.label.guard.startedRecord target) := by
  obtain ⟨p, hp, rfl⟩ := exists_stages h
  have h₀ : Accounted (Pool.onlyMemory m) :=
    ⟨(fun _ hx => nomatch hx), (fun _ hx => nomatch hx), (fun _ hx => nomatch hx)⟩
  have hacc := hp.invariant Accounted Accounted.of_step h₀
  obtain ⟨z, hz, rfl⟩ := List.mem_map.1 hx
  obtain ⟨module, o, hop, rfl, hs, ho⟩ := ha
  have hname : z.label.name = module.name := by
    have hop' : z.label.operation = .request module target := hop
    rw [Asked.name, hop']
    rfl
  obtain ⟨y, hy, hyz, hown⟩ := hacc.due z hz ⟨o, Stage.eq_returned_of_rest hs, ho⟩
  have hy' : ⟨y.label, y.state.rest y.label⟩ ∈ (p.map fun a s => Stage.rest a s).processes :=
    List.mem_map_of_mem hy
  cases hown with
  | writes target o hs =>
    obtain ⟨r, hr⟩ := hq _ hy'
    cases hs.symm.trans (Stage.eq_returned_of_rest hr)
  | @wrote module' target' hop' ha hm =>
    obtain ⟨o', hs', ho'⟩ := ha
    have hmod : module'.name = module.name := by
      rw [← hname, ← hyz, Asked.name, hop']
      rfl
    rw [hyz, hname] at hm
    exact ⟨_, hy', target', ⟨module', o', hop', hmod, by rw [hs']; rfl, ho'⟩, hm⟩

/-- However operations on the guard of a smartswitch overlap and whatever calls are refused, all
records stay paired.  Where only requests run and none of their calls is refused, the record of
every module with an applied request is in the end the record of one applied request. -/
theorem paired_and_whole (m : Memory) :
    (PairedIn m → ∀ p : Pool Asked Rest,
      (Pool.onlyMemory m).Runs (Store.called Asked.program (fun _ => True) fun _ => True) p →
        PairedIn p.memory) ∧
    ∀ p : Pool Asked Rest,
      (Pool.onlyMemory m).Runs (Store.called Asked.program Asked.IsRequest fun _ => False) p →
      Finished p → ∀ name, (∃ x ∈ p.processes, ∃ target, AppliedTo x name target) →
        ∃ y ∈ p.processes, ∃ target, AppliedTo y name target ∧
          p.memory.record Module.table name =
            some [(Module.adminStatusField, target.text), (Module.inProgressField, "True"),
              (Module.startTimeField, Time.formatTimestamp y.label.now)] := by
  constructor
  · intro hm p hp
    exact hm.of_runs hp
  · rintro p hp hfin name ⟨x, hx, target, ha⟩
    exact exists_record_of_finished hp hfin hx ha

/-- A request for a data processing unit, a number of seconds after 1970-01-01T00:00:00. -/
def upAt (secs : Int) : Asked := ⟨.request .dpu0 .up, Time.DateTime.ofUnix secs⟩

/-- Two requests for a data processing unit have both found it free and both written. -/
def bothApplied : Pool Asked Rest where
  memory := withRecord (withRecord Memory.empty "DPU0" (some ((upAt 1).guard.startedRecord .up)))
    "DPU0" (some ((upAt 0).guard.startedRecord .up))
  processes := [⟨upAt 1, .done (.ok (some .applied))⟩, ⟨upAt 0, .done (.ok (some .applied))⟩]

theorem runs_bothApplied {mayJoin : Asked → Prop} {mayFail : Call → Prop}
    (hj : ∀ secs, mayJoin (upAt secs)) :
    (Pool.onlyMemory Memory.empty).Runs (Store.called Asked.program mayJoin mayFail)
      bothApplied := by
  have hr : ∀ c m, Reply mayFail c m _ _ := fun c m => .answered c m
  have h₀ : (Pool.onlyMemory Memory.empty).Runs (Store.called Asked.program mayJoin mayFail) _ :=
    .refl
  have h₁ := h₀.tail (.join (upAt 0) (hj 0) _ _)
  have h₂ := h₁.tail (.join (upAt 1) (hj 1) _ _)
  -- Both read before one of them writes.
  have h₃ := h₂.tail (.move [] _ (.call (hr (.getEntry Module.table "DPU0") _)))
  have h₄ := h₃.tail (.move [_] _ (.call (hr (.getEntry Module.table "DPU0") _)))
  have h₅ := h₄.tail (.move [] _ (.call (hr (.setEntry _ _ (some (startedRecord _ .up))) _)))
  have h₆ := h₅.tail (.move [_] _ (.call (hr (.setEntry _ _ (some (startedRecord _ .up))) _)))
  exact h₆

theorem paired_and_whole_bothApplied :
    PairedIn bothApplied.memory ∧
      ∃ y ∈ bothApplied.processes, ∃ target, AppliedTo y "DPU0" target ∧
        bothApplied.memory.record Module.table "DPU0" =
          some [(Module.adminStatusField, target.text), (Module.inProgressField, "True"),
            (Module.startTimeField, Time.formatTimestamp y.label.now)] := by
  obtain ⟨hpaired, hwhole⟩ := paired_and_whole Memory.empty
  have hfin : Finished bothApplied := by
    intro x hx
    rcases List.mem_cons.1 hx with rfl | hx
    · exact ⟨_, rfl⟩
    · rw [List.mem_singleton.1 hx]
      exact ⟨_, rfl⟩
  exact ⟨hpaired (fun _ _ h => nomatch h) _ (runs_bothApplied fun _ => trivial),
    hwhole _ (runs_bothApplied fun _ => ⟨_, _, rfl⟩) hfin "DPU0"
      ⟨_, List.mem_cons_self, .up, .dpu0, .applied, rfl, rfl, rfl, rfl⟩⟩

end ChassisAdmin.Guard
