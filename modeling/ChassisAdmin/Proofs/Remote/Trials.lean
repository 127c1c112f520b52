import ChassisAdmin.Proofs.Transcript
import ChassisAdmin.Remote.Provision

/-!
# Trying pairs in order

Keys are installed, checked and removed by one loop each.  All three run a
command with one pair after another until an outcome is accepted, and differ in
what they accept: an exit code of zero, any outcome of a pair that logs in, or an
empty standard error output.  So each is an instance of `firstAccepted`.

What a loop exchanges with the remote unit is a list of trials.  `Ends` says how
such a list fits the pairs: all trials but the last were rejected, one for each
pair in front of the accepted one, or every pair was tried and rejected
(`ends_of_transcript`).  So a loop does not get past a pair without trying it
(`Ends.front_or_tried`).
-/

namespace ChassisAdmin.Remote

variable {α σ : Type} {t : Target} {command : String}
  {accept : Credential → Except Error Shell.Result → Option α} {last : Except Error α}

/-- Runs a command with one pair after another until an outcome is accepted. -/
def firstAccepted (t : Target) (command : String)
    (accept : Credential → Except Error Shell.Result → Option α) (last : Except Error α) :
    List Credential → Step α
  | [] => ExceptT.mk (.done last)
  | c :: cs => do
      match accept c (← attempt t c command) with
      | some a => return a
      | none => firstAccepted t command accept last cs

/-! ## The three loops -/

/-- Whether an outcome installs a key, and for which user. -/
def installed (c : Credential) : Except Error Shell.Result → Option String
  | .ok r => if r.success then some c.username else none
  | .error _ => none

/-- Whether an outcome removes the keys. -/
def removed (_ : Credential) : Except Error Shell.Result → Option Unit
  | .ok r => if r.stderr = "" then some () else none
  | .error _ => none

/-- The state that an outcome reports. -/
def reported (_ : Credential) : Except Error Shell.Result → Option KeyState
  | .ok r => some (if r.stdout = keysPresent then .enabled else .disabled)
  | .error _ => none

variable {c : Credential} {r : Except Error Shell.Result}

theorem installed_eq_some_iff {user : String} :
    installed c r = some user ↔ ∃ out, r = .ok out ∧ out.success ∧ c.username = user := by
  cases r <;> simp [installed]

theorem removed_eq_some_iff {u : Unit} :
    removed c r = some u ↔ ∃ out, r = .ok out ∧ out.stderr = "" := by
  cases r <;> simp [removed]

theorem reported_eq_enabled_iff :
    reported c r = some .enabled ↔ ∃ out, r = .ok out ∧ out.stdout = keysPresent := by
  cases r <;> simp [reported]

theorem reported_eq_disabled_iff :
    reported c r = some .disabled ↔ ∃ out, r = .ok out ∧ out.stdout ≠ keysPresent := by
  cases r <;> simp [reported]

theorem installWith_eq (t : Target) (command : String) (pairs : List Credential) :
    Provisioner.installWith t command pairs =
      firstAccepted t command installed (.error (.allAttemptsFailed t.host)) pairs := by
  induction pairs with
  | nil => rfl
  | cons c pairs ih =>
    refine congrArg (attempt t c command >>= ·) (funext fun r => ?_)
    cases r with
    | error e => exact ih
    | ok r =>
      cases hr : r.success with
      | true => simp [installed, hr]
      | false => simpa [installed, hr] using ih

theorem removeWith_eq (t : Target) (pairs : List Credential) :
    Provisioner.removeWith t pairs =
      firstAccepted t removeCommand removed (.error (.allAttemptsFailed t.host)) pairs := by
  induction pairs with
  | nil => rfl
  | cons c pairs ih =>
    refine congrArg (attempt t c removeCommand >>= ·) (funext fun r => ?_)
    cases r with
    | error e => exact ih
    | ok r =>
      by_cases hr : r.stderr = ""
      · simp [removed, hr]
      · simpa [removed, hr] using ih

theorem stateWith_eq (t : Target) (pairs : List Credential) :
    Provisioner.stateWith t pairs =
      firstAccepted t checkCommand reported (.ok .disabled) pairs := by
  induction pairs with
  | nil => rfl
  | cons c pairs ih =>
    refine congrArg (attempt t c checkCommand >>= ·) (funext fun r => ?_)
    cases r with
    | error e => exact ih
    | ok r => rfl

/-! ## Their trials -/

/-- A pair and the outcome of a command that was run with it. -/
abbrev Trial : Type := Credential × Except Error Shell.Result

/-- What passes between this machine and a remote unit in trials of a command. -/
def exchanges (t : Target) (command : String) (trials : List Trial) :
    List (Exchange Request Request.Answer) :=
  trials.map fun x => ⟨.execute t x.1 command, x.2⟩

/-- How the trials of some pairs can end. -/
inductive Ends (accept : Credential → Except Error Shell.Result → Option α)
    (last : Except Error α) : List Credential → List Trial → Except Error α → Prop where
  | accepted (trials : List Trial) {c : Credential} {r : Except Error Shell.Result} {a : α}
      (after : List Credential) (hrejected : ∀ x ∈ trials, accept x.1 x.2 = none)
      (haccepted : accept c r = some a) :
      Ends accept last (trials.map Prod.fst ++ c :: after) (trials ++ [(c, r)]) (.ok a)
  | exhausted (trials : List Trial) (hrejected : ∀ x ∈ trials, accept x.1 x.2 = none) :
      Ends accept last (trials.map Prod.fst) trials last

theorem Ends.cons {c : Credential} {r : Except Error Shell.Result} (hr : accept c r = none)
    {pairs : List Credential} {trials : List Trial} {result : Except Error α}
    (h : Ends accept last pairs trials result) :
    Ends accept last (c :: pairs) ((c, r) :: trials) result := by
  cases h with
  | accepted trials after hrejected haccepted =>
    exact .accepted ((c, r) :: trials) after (List.forall_mem_cons.2 ⟨hr, hrejected⟩) haccepted
  | exhausted trials hrejected =>
    exact .exhausted ((c, r) :: trials) (List.forall_mem_cons.2 ⟨hr, hrejected⟩)

/-- A trial that was accepted is the last. -/
theorem Ends.result_of_accepted {pairs : List Credential} {trials : List Trial}
    {result : Except Error α} (h : Ends accept last pairs trials result) {c : Credential}
    {r : Except Error Shell.Result} {a : α} (hmem : (c, r) ∈ trials) (ha : accept c r = some a) :
    result = .ok a := by
  cases h with
  | accepted trials after hrejected haccepted =>
    obtain hmem | hmem := List.mem_append.1 hmem
    · cases (hrejected _ hmem).symm.trans ha
    · cases List.mem_singleton.1 hmem
      cases haccepted.symm.trans ha
      rfl
  | exhausted _ hrejected => cases (hrejected _ hmem).symm.trans ha

/-- Of two members of a list one comes first, or they stand in the same place. -/
theorem mem_or_eq_or_mem {l rest before after : List α} {d c : α}
    (h : l ++ d :: rest = before ++ c :: after) : d ∈ before ∨ d = c ∨ c ∈ l := by
  obtain ⟨m, rfl, hm⟩ | ⟨m, rfl, hm⟩ := List.append_eq_append_iff.1 h
  · cases m with
    | nil => exact .inr (.inl (List.cons.inj hm).1)
    | cons e m =>
      obtain ⟨rfl, -⟩ := List.cons.inj hm
      exact .inl (by simp)
  · cases m with
    | nil => exact .inr (.inl (List.cons.inj hm).1.symm)
    | cons e m =>
      obtain ⟨rfl, -⟩ := List.cons.inj hm
      exact .inr (.inr (by simp))

/-- Trials end with a pair in front of another, or the other was tried. -/
theorem Ends.front_or_tried {before after : List Credential} {c : Credential}
    {trials : List Trial} {result : Except Error α}
    (h : Ends accept last (before ++ c :: after) trials result) :
    (∃ d ∈ before, ∃ r a, (d, r) ∈ trials ∧ accept d r = some a ∧ result = .ok a) ∨
      ∃ r, (c, r) ∈ trials := by
  generalize hpairs : before ++ c :: after = pairs at h
  cases h with
  | @accepted trials d r a rest _ haccepted =>
    obtain hfirst | rfl | hc := mem_or_eq_or_mem hpairs.symm
    · exact .inl ⟨d, hfirst, r, a, by simp, haccepted, rfl⟩
    · exact .inr ⟨r, by simp⟩
    · obtain ⟨⟨_, r⟩, hr, rfl⟩ := List.mem_map.1 hc
      exact .inr ⟨r, List.mem_append_left _ hr⟩
  | exhausted trials =>
    have hc : c ∈ trials.map Prod.fst := hpairs ▸ List.mem_append_right _ List.mem_cons_self
    obtain ⟨⟨_, r⟩, hr, rfl⟩ := List.mem_map.1 hc
    exact .inr ⟨r, hr⟩

variable {reply : (q : Request) → σ → q.Answer → σ → Prop} {s s' : σ}
  {ex : List (Exchange Request Request.Answer)} {pairs : List Credential}

theorem ends_of_transcript {result : Except Error α}
    (h : (firstAccepted t command accept last pairs).Transcript reply s ex result s') :
    ∃ trials, ex = exchanges t command trials ∧ Ends accept last pairs trials result := by
  induction pairs generalizing s ex with
  | nil =>
    obtain ⟨rfl, rfl, rfl⟩ := Program.transcript_done_iff.1 h
    exact ⟨[], rfl, .exhausted [] (List.forall_mem_nil _)⟩
  | cons c pairs ih =>
    obtain ⟨e, hattempt, -⟩ | ⟨r, ex₁, s₁, ex₂, hattempt, hrest, rfl⟩ :=
      Attempt.transcript_bind_iff.1 h
    · obtain ⟨_, -, ⟨⟩, -⟩ := Attempt.transcript_request_iff.1 hattempt
    obtain ⟨r, -, ⟨⟩, rfl⟩ := Attempt.transcript_request_iff.1 hattempt
    cases hr : accept c r with
    | some a =>
      rw [hr] at hrest
      obtain ⟨rfl, rfl, -⟩ := Attempt.transcript_pure_iff.1 hrest
      exact ⟨[(c, r)], rfl, .accepted [] pairs (List.forall_mem_nil _) hr⟩
    | none =>
      rw [hr] at hrest
      obtain ⟨trials, rfl, hends⟩ := ih hrest
      exact ⟨(c, r) :: trials, rfl, hends.cons hr⟩

end ChassisAdmin.Remote
