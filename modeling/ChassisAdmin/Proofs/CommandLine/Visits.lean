import ChassisAdmin.Proofs.CommandLine.Surroundings

/-!
# Visits to DPUs

A command that enables or disables passwordless login goes through all DPUs that
it was told of.  A DPU that fails keeps no other from its turn.  What passes is
therefore a sequence of visits, one for each DPU, each with what was done to the
DPU and the line on what came of it (`visited_of_changeEach`).

What is done is what the provisioner does to enable or to disable logins on the
DPU (`Turn`).  It writes no line itself, so the lines of a visit are the one at
its end (`Visited.lines`).
-/

namespace ChassisAdmin.CommandLine

variable {σ : Type} {reply : (q : Request) → σ → Answer q → σ → Prop} {s s' : σ}
  {t : List (Exchange Request Answer)} {c : Config} {change : LoginChange}

/-! ## Lines on what went wrong -/

/-- The line on something that went wrong which a request writes. -/
def Request.complaint? : Request → Option String
  | .complain line => some line
  | _ => none

/-- The lines that were written on what went wrong. -/
def complaints (t : List (Exchange Request Answer)) : List String :=
  t.filterMap (·.request.complaint?)

theorem complaints_append (t₁ t₂ : List (Exchange Request Answer)) :
    complaints (t₁ ++ t₂) = complaints t₁ ++ complaints t₂ := List.filterMap_append

/-- The exchange that writes a line on something that went wrong. -/
def complained (line : String) : Exchange Request Answer := ⟨.complain line, ()⟩

/-- A request that provisioning makes. -/
def Request.Provisions : Request → Prop
  | .file _ | .store .. | .shell _ | .execute .. => True
  | .environment _ | .clock | .connect _ | .service _ | .pause _ | .print _ | .complain _ => False

theorem asks_onRemote {α : Type} (c : Config) (p : Remote.Step α) :
    (onRemote c p).Asks Request.Provisions := by
  have hall : p.run.Asks fun _ => True := Program.asks_of_forall (fun _ => trivial) p.run
  refine Program.asks_interpret hall fun q _ => ?_
  cases q with
  | state | file | shell | execute => exact ⟨trivial, fun _ => trivial⟩

/-- Provisioning writes no line. -/
theorem lines_onRemote {α : Type} {p : Remote.Step α} {r : Except Remote.Error α}
    (h : (onRemote c p).Transcript reply s t r s') : printed t = [] ∧ complaints t = [] := by
  have hrequest := h.request_of_asks (asks_onRemote c p)
  have hsilent : ∀ q : Request, q.Provisions → q.line? = none ∧ q.complaint? = none := by
    intro q hq
    cases q with
    | file | store | shell | execute => exact ⟨rfl, rfl⟩
    | environment | clock | connect | service | pause | print | complain => exact hq.elim
  exact ⟨printed_eq_nil fun x hx => (hsilent _ (hrequest x hx)).1,
    List.filterMap_eq_nil_iff.2 fun x hx => (hsilent _ (hrequest x hx)).2⟩

/-! ## Visits -/

/-- What was done to a DPU in its turn, and what came of it. -/
structure Visit where
  /-- The DPU. -/
  dpu : String
  /-- What passed while it was provisioned. -/
  course : List (Exchange Request Answer)
  /-- What came of it. -/
  outcome : Except Remote.Error Remote.Provisioned

namespace Visit

/-- Whether the DPU could not be provisioned. -/
def failed (v : Visit) : Bool := v.outcome.toOption.isNone

/-- The line for the operator at the end of a visit. -/
def message? (v : Visit) : Option String :=
  match v.outcome with
  | .ok done => some (provisionedMessage v.dpu done)
  | .error _ => none

/-- The line on what went wrong in a visit. -/
def complaint? (v : Visit) : Option String :=
  match v.outcome with
  | .ok _ => none
  | .error e => some (v.dpu ++ ": " ++ e.message)

/-- How the operator is told of a visit. -/
def telling (v : Visit) : Exchange Request Answer :=
  match v.outcome with
  | .ok done => ⟨.print (provisionedMessage v.dpu done), ()⟩
  | .error e => complained (v.dpu ++ ": " ++ e.message)

/-- All that passes in a visit. -/
def transcript (v : Visit) : List (Exchange Request Answer) := v.course ++ [v.telling]

theorem printed_telling (v : Visit) : printed [v.telling] = v.message?.toList := by
  unfold telling message?
  cases v.outcome <;> rfl

theorem complaints_telling (v : Visit) : complaints [v.telling] = v.complaint?.toList := by
  unfold telling complaint?
  cases v.outcome <;> rfl

end Visit

/-- What is done in a visit: the key is installed on the DPU where logins are enabled, and removed
from it where they are disabled. -/
inductive Turn (reply : (q : Request) → σ → Answer q → σ → Prop) (c : Config) :
    LoginChange → σ → Visit → σ → Prop where
  | enabled {s s₁ : σ} {v : Visit}
      (hcourse : (onRemote c (c.provisioner.enable v.dpu)).Transcript reply s v.course v.outcome
        s₁) : Turn reply c .enable s v s₁
  | disabled {s s₁ : σ} {v : Visit}
      (hcourse : (onRemote c (c.provisioner.disable v.dpu)).Transcript reply s v.course v.outcome
        s₁) : Turn reply c .disable s v s₁

theorem turn_of_transcript {v : Visit}
    (h : (onRemote c (change.apply c.provisioner v.dpu)).Transcript reply s v.course v.outcome
      s') : Turn reply c change s v s' := by
  cases change with
  | enable => exact .enabled h
  | disable => exact .disabled h

/-- A visit writes no line before its end. -/
theorem Turn.lines {v : Visit} (h : Turn reply c change s v s') :
    printed v.course = [] ∧ complaints v.course = [] := by
  cases h with
  | enabled hcourse => exact lines_onRemote hcourse
  | disabled hcourse => exact lines_onRemote hcourse

/-- DPUs are visited one after the other, each in the state that the visit before it left. -/
inductive Visited (reply : (q : Request) → σ → Answer q → σ → Prop) (c : Config)
    (change : LoginChange) : σ → List Visit → σ → Prop where
  | nil (s : σ) : Visited reply c change s [] s
  | cons {s s₁ s₂ s₃ : σ} {v : Visit} {visits : List Visit}
      (hturn : Turn reply c change s v s₁)
      (htelling : reply v.telling.request s₁ v.telling.answer s₂)
      (hrest : Visited reply c change s₂ visits s₃) :
      Visited reply c change s (v :: visits) s₃

/-- The operator is told of each visit by one line, and of nothing else. -/
theorem Visited.lines {visits : List Visit} (h : Visited reply c change s visits s') :
    printed (visits.flatMap Visit.transcript) = visits.filterMap Visit.message? ∧
      complaints (visits.flatMap Visit.transcript) = visits.filterMap Visit.complaint? := by
  induction h with
  | nil s => exact ⟨rfl, rfl⟩
  | @cons s s₁ s₂ s₃ v visits hturn htelling hrest ih =>
    obtain ⟨hprinted, hcomplaints⟩ := hturn.lines
    rw [List.flatMap_cons, Visit.transcript, printed_append, printed_append, complaints_append,
      complaints_append, hprinted, hcomplaints, ih.1, ih.2, v.printed_telling,
      v.complaints_telling]
    simp only [List.filterMap_cons, List.nil_append]
    constructor
    · cases v.message? <;> rfl
    · cases v.complaint? <;> rfl

/-- Each DPU of a list has its turn, whatever became of those before it. -/
theorem visited_of_changeEach {dpus : List String} {r : Except Failure Nat}
    (h : (changeEach c change dpus).Transcript reply s t r s') :
    ∃ visits : List Visit, visits.map (·.dpu) = dpus ∧ Visited reply c change s visits s' ∧
      t = visits.flatMap Visit.transcript ∧ r = .ok (visits.countP Visit.failed) := by
  induction dpus generalizing s s' t r with
  | nil =>
    obtain ⟨rfl, rfl, rfl⟩ := Attempt.transcript_pure_iff.1 h
    exact ⟨[], rfl, .nil _, rfl, rfl⟩
  | cons dpu dpus ih =>
    rw [changeEach] at h
    obtain ⟨x, t₁, s₁, t₂, hcourse, hrest, rfl⟩ := Attempt.transcript_outcome_bind_iff.1 h
    cases x with
    | ok done =>
      obtain ⟨_, s₂, t₃, hreply, hothers, rfl⟩ := Attempt.transcript_request_bind_iff.1 hrest
      obtain ⟨visits, rfl, hvisits, rfl, rfl⟩ := ih hothers
      refine ⟨⟨dpu, t₁, .ok done⟩ :: visits, rfl,
        .cons (turn_of_transcript hcourse) hreply hvisits, ?_, rfl⟩
      rw [List.flatMap_cons, Visit.transcript, List.append_assoc]
      rfl
    | error e =>
      obtain ⟨_, s₂, t₃, hreply, hothers, rfl⟩ := Attempt.transcript_request_bind_iff.1 hrest
      rcases Attempt.transcript_bind_iff.1 hothers with
        ⟨e', hcount, -⟩ | ⟨n, t₄, s₃, t₅, hcount, hsum, rfl⟩
      · obtain ⟨_, _, _, _, he⟩ := ih hcount
        cases he
      obtain ⟨visits, rfl, hvisits, rfl, hn⟩ := ih hcount
      cases hn
      obtain ⟨rfl, rfl, rfl⟩ := Attempt.transcript_pure_iff.1 hsum
      refine ⟨⟨dpu, t₁, .error e⟩ :: visits, rfl,
        .cons (turn_of_transcript hcourse) hreply hvisits, ?_, ?_⟩
      · rw [List.flatMap_cons, Visit.transcript, List.append_assoc, List.append_nil]
        rfl
      · rw [List.countP_cons_of_pos rfl]

end ChassisAdmin.CommandLine
