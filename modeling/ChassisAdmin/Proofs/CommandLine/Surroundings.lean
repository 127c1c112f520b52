import ChassisAdmin.CommandLine.Run
import ChassisAdmin.Proofs.Store.Transcript
import Mathlib.Logic.Function.Basic

/-!
# The surroundings of a command

A command of the command line is seen from outside by its transcript, its exit
status and the databases it leaves.  Nothing is known of its surroundings but the
databases.  Each of them can be reached, and answers a call as a database does or
refuses it.  Files, the environment, the clock and services may answer anything.

Where an address leads is not known either: it may be that two addresses lead to
one database.  So the databases stand in places, and a call changes the database
in the place of its address (`Replies`).

Of a transcript two things are read off: the lines that were printed for the
operator and the calls on services.  The parts of a command are taken apart here
one by one.  What is done to prepare a command shows in neither and leaves the
databases alone (`quiet_of_prepares`).
-/

namespace ChassisAdmin

/-! ## Programs that are interpreted twice -/

namespace Program

variable {Op Op' Op'' : Type} {Ans : Op → Type} {Ans' : Op' → Type} {Ans'' : Op'' → Type}
  {α β : Type}

theorem interpret_bind (tr : (op : Op) → Program Op' Ans' (Ans op)) (p : Program Op Ans α)
    (f : α → Program Op Ans β) :
    (p.bind f).interpret tr = (p.interpret tr).bind fun a => (f a).interpret tr := by
  induction p with
  | done a => rfl
  | ask op k ih => simp only [bind, interpret, ih, bind_assoc]

theorem interpret_interpret (tr : (op : Op) → Program Op' Ans' (Ans op))
    (tr' : (op : Op') → Program Op'' Ans'' (Ans' op)) (p : Program Op Ans α) :
    (p.interpret tr).interpret tr' = p.interpret fun op => (tr op).interpret tr' := by
  induction p with
  | done a => rfl
  | ask op k ih => simp only [interpret, interpret_bind, ih]

end Program

namespace CommandLine

open Store (Address Memory)

variable {ι α : Type} [DecidableEq ι] {place : Address → ι} {w w' : ι → Memory}
  {t : List (Exchange Request Answer)}

/-! ## Replies -/

/-- What the surroundings may reply to a request, and what becomes of the databases. -/
def Replies (place : Address → ι) : (q : Request) → (ι → Memory) → Answer q → (ι → Memory) → Prop
  | .connect _, w, r, w' => r = .ok () ∧ w' = w
  | .store a c, w, r, w' =>
      ∃ m, Store.Reply (fun _ => True) c (w (place a)) r m ∧ w' = Function.update w (place a) m
  | .file _, w, _, w' | .environment _, w, _, w' | .clock, w, _, w' | .service _, w, _, w'
  | .shell _, w, _, w' | .execute .., w, _, w' | .pause _, w, _, w' | .print _, w, _, w'
  | .complain _, w, _, w' => w' = w

/-! ## What is read off a transcript -/

/-- The line that a request prints for the operator. -/
def Request.line? : Request → Option String
  | .print line => some line
  | _ => none

/-- The call on a service that a request makes. -/
def Request.serviceCall? : Request → Option Service.Call
  | .service c => some c
  | _ => none

/-- The lines that were printed for the operator. -/
def printed (t : List (Exchange Request Answer)) : List String := t.filterMap (·.request.line?)

/-- The calls on services. -/
def serviceCalls (t : List (Exchange Request Answer)) : List Service.Call :=
  t.filterMap (·.request.serviceCall?)

theorem printed_append (t₁ t₂ : List (Exchange Request Answer)) :
    printed (t₁ ++ t₂) = printed t₁ ++ printed t₂ := List.filterMap_append

theorem serviceCalls_append (t₁ t₂ : List (Exchange Request Answer)) :
    serviceCalls (t₁ ++ t₂) = serviceCalls t₁ ++ serviceCalls t₂ := List.filterMap_append

theorem printed_eq_nil (h : ∀ x ∈ t, x.request.line? = none) : printed t = [] :=
  List.filterMap_eq_nil_iff.2 h

theorem serviceCalls_eq_nil (h : ∀ x ∈ t, x.request.serviceCall? = none) : serviceCalls t = [] :=
  List.filterMap_eq_nil_iff.2 h

/-- A part of a command that printed nothing and called no service. -/
structure Quiet (t : List (Exchange Request Answer)) : Prop where
  printed : printed t = []
  serviceCalls : serviceCalls t = []

theorem Quiet.nil : Quiet [] := ⟨rfl, rfl⟩

theorem Quiet.append {t₁ t₂ : List (Exchange Request Answer)} (h₁ : Quiet t₁) (h₂ : Quiet t₂) :
    Quiet (t₁ ++ t₂) :=
  ⟨by rw [printed_append, h₁.printed, h₂.printed]; rfl,
    by rw [serviceCalls_append, h₁.serviceCalls, h₂.serviceCalls]; rfl⟩

/-! ## Preparations -/

/-- A request that is made to prepare a command. -/
def Request.Prepares : Request → Prop
  | .file _ | .environment _ | .clock | .connect _ => True
  | .store .. | .service _ | .shell _ | .execute .. | .pause _ | .print _ | .complain _ => False

theorem eq_of_replies_of_prepares {q : Request} {r : Answer q} (h : Replies place q w r w')
    (hq : q.Prepares) : w' = w := by
  cases q with
  | file | environment | clock => exact h
  | connect => exact h.2
  | store | service | shell | execute | pause | print | complain => exact hq.elim

theorem silent_of_prepares {q : Request} (hq : q.Prepares) :
    q.line? = none ∧ q.serviceCall? = none := by
  cases q with
  | file | environment | clock | connect => exact ⟨rfl, rfl⟩
  | store | service | shell | execute | pause | print | complain => exact hq.elim

/-- Preparations print nothing, call no service and leave the databases alone. -/
theorem quiet_of_prepares {p : Program Request Answer α} {a : α} (hp : p.Asks Request.Prepares)
    (h : p.Transcript (Replies place) w t a w') : Quiet t ∧ w' = w := by
  have hrequest := h.request_of_asks hp
  refine ⟨⟨printed_eq_nil fun x hx => ?_, serviceCalls_eq_nil fun x hx => ?_⟩, ?_⟩
  · exact (silent_of_prepares (hrequest x hx)).1
  · exact (silent_of_prepares (hrequest x hx)).2
  · refine h.invariant (P := (· = w)) ?_ rfl
    rintro x hx s s' hr rfl
    exact eq_of_replies_of_prepares hr (hrequest x hx)

theorem asks_onFiles {ε : Type} (failure : ε → Failure)
    (p : Attempt Files.Call Files.Answer ε α) : (onFiles failure p).Asks Request.Prepares :=
  Attempt.asks_mapError _ (Program.asks_interpret (Program.asks_of_forall (fun _ => trivial) p.run)
    fun _ (_ : True) => ⟨trivial, fun _ => trivial⟩)

theorem runWith_onFiles {ε σ : Type} (handle : (q : Request) → σ → Answer q × σ)
    (failure : ε → Failure) (p : Attempt Files.Call Files.Answer ε α) (s : σ) :
    (onFiles failure p).runWith handle s =
      ((p.runWith (fun call => handle (.file call)) s).1.mapError failure,
        (p.runWith (fun call => handle (.file call)) s).2) := by
  change Program.run handle (Program.bind (Program.interpret _ p.run) _) s = _
  rw [Program.run_bind, Program.run_interpret]
  rfl

theorem asks_loadConfig (path : String) : (loadConfig path).Asks Request.Prepares :=
  Attempt.asks_bind (Attempt.asks_request trivial _) fun _ => asks_onFiles _ _

theorem asks_detectPlatform (c : Config) : (detectPlatform c).Asks Request.Prepares :=
  Attempt.asks_bind (Attempt.asks_request trivial _) fun _ => asks_onFiles _ _

/-- A connection to a database always comes about. -/
theorem transcript_connect {c : Config} {d : Store.Database} {r : Except Failure Unit}
    (h : (connect c d).Transcript (Replies place) w t r w') : r = .ok () ∧ Quiet t ∧ w' = w := by
  obtain ⟨a, ⟨rfl, rfl⟩, rfl, rfl⟩ := Attempt.transcript_request_iff.1 h
  exact ⟨rfl, ⟨rfl, rfl⟩, rfl⟩

/-! ## Lines for the operator -/

theorem transcript_printAll {lines : List String} {r : Except Failure Unit}
    (h : (printAll lines).Transcript (Replies place) w t r w') :
    r = .ok () ∧ printed t = lines ∧ serviceCalls t = [] ∧ w' = w := by
  induction lines generalizing w t with
  | nil =>
    obtain ⟨rfl, rfl, rfl⟩ := Attempt.transcript_pure_iff.1 h
    exact ⟨rfl, rfl, rfl, rfl⟩
  | cons line lines ih =>
    rcases Attempt.transcript_bind_iff.1 h with ⟨e, hline, -⟩ | ⟨_, t₁, w₁, t₂, hline, hlines, rfl⟩
    · obtain ⟨_, -, he, -⟩ := Attempt.transcript_request_iff.1 hline
      cases he
    · obtain ⟨_, rfl, -, rfl⟩ := Attempt.transcript_request_iff.1 hline
      obtain ⟨rfl, hprinted, hcalls, rfl⟩ := ih hlines
      exact ⟨rfl, congrArg (line :: ·) hprinted, hcalls, rfl⟩

/-! ## Programs on CONFIG_DB -/

theorem onModules_onConfig (c : Config) (p : Store.Client α) :
    onModules c (Fabric.onConfig p) =
      (p.interpret fun call => ask (.store (c.address .config) call)).mapError
        fun e => Failure.module (.system e) := by
  refine ExceptT.ext ?_
  change (((Program.interpret _ p.run).bind _).interpret (askForModules c)).bind _ =
    (Program.interpret _ p.run).bind _
  rw [Program.interpret_bind, Program.interpret_interpret, Program.bind_assoc]
  refine congrArg (Program.bind _) (funext fun r => ?_)
  cases r with
  | error e => rfl
  | ok a => rfl

/-- Calls on a database, as a command makes them. -/
def callsOn (a : Address) (t : List (Exchange Store.Call Store.Answer)) :
    List (Exchange Request Answer) :=
  t.map (Exchange.lift (Request.store a))

theorem quiet_callsOn (a : Address) (t : List (Exchange Store.Call Store.Answer)) :
    Quiet (callsOn a t) := by
  refine ⟨printed_eq_nil fun x hx => ?_, serviceCalls_eq_nil fun x hx => ?_⟩
  · obtain ⟨y, -, rfl⟩ := List.mem_map.1 hx
    rfl
  · obtain ⟨y, -, rfl⟩ := List.mem_map.1 hx
    rfl

theorem transcript_of_store {a : Address} {p : Program Store.Call Store.Answer α} {x : α}
    {t : List (Exchange Store.Call Store.Answer)}
    (h : p.Transcript (fun call => Replies place (.store a call)) w t x w') :
    ∃ m, p.Transcript (Store.Reply fun _ => True) (w (place a)) t x m ∧
      w' = Function.update w (place a) m := by
  induction h with
  | done x w => exact ⟨_, .done x _, (Function.update_eq_self _ _).symm⟩
  | ask hr _ ih =>
    obtain ⟨m₁, hreply, rfl⟩ := hr
    obtain ⟨m, hcalls, rfl⟩ := ih
    rw [Function.update_self] at hcalls
    exact ⟨m, .ask hreply hcalls, Function.update_idem _ _ _⟩

/-- A program on CONFIG_DB goes as on any database that may refuse calls, and does nothing else. -/
theorem transcript_of_onConfig {c : Config} {p : Store.Client α} {r : Except Failure α}
    (h : (onModules c (Fabric.onConfig p)).Transcript (Replies place) w t r w') :
    ∃ calls r₀ m, t = callsOn (c.address .config) calls ∧
      p.Transcript (Store.Reply fun _ => True) (w (place (c.address .config))) calls r₀ m ∧
      r = r₀.mapError (fun e => .module (.system e)) ∧
      w' = Function.update w (place (c.address .config)) m := by
  rw [onModules_onConfig] at h
  obtain ⟨r₀, hinterpret, rfl⟩ := Attempt.transcript_mapError_iff.1 h
  obtain ⟨calls, hstore, rfl⟩ := Program.exists_transcript_of_interpret hinterpret
  obtain ⟨m, hcalls, rfl⟩ := transcript_of_store hstore
  exact ⟨calls, r₀, m, rfl, hcalls, rfl, rfl⟩

end CommandLine

end ChassisAdmin
