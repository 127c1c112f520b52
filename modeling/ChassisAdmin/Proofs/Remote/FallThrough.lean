import ChassisAdmin.Proofs.Remote.Undo

/-!
# Falling through to the next pair

How far each of the three loops gets is settled by the answers of the remote unit.
A `Script` gives these beforehand, so the answers to all trials that there could
be are known (`trialsOf`), and the loop makes the trials up to the first whose
answer it accepts, once each and in order, or all of them (`FallsThrough`).  The
step is that a loop is at its end when an answer is accepted
(`fallsThrough_of_accepted`) and goes on with the answers that are left when it is
not (`FallsThrough.cons`).

`falls_through` says this of installing, removing and checking.  The first two
need a pair to begin with, and installing needs the local key.  A unit without an
address is asked nothing at all.
-/

namespace ChassisAdmin.Remote

variable {α : Type} {t : Target} {command : String}
  {accept : Credential → Except Error Shell.Result → Option α} {last : Except Error α}

/-- What passed between this machine and remote units, in order. -/
abbrev Log : Type := List (Exchange Request Request.Answer)

/-- Surroundings whose answers are given beforehand. -/
structure Script where
  /-- What STATE_DB answers. -/
  state : (c : Store.Call) → Store.Answer c
  /-- What local files answer. -/
  file : (c : Files.Call) → Files.Answer c
  /-- What local commands answer. -/
  shell : String → Except SystemError Shell.Result
  /-- What remote units answer, in order. -/
  remote : Nat → Except Error Shell.Result

namespace Script

/-- Answers a request.  What is asked of remote units goes into the log. -/
def answer (w : Script) : (q : Request) → Log → q.Answer × Log
  | .state c, log => (w.state c, log)
  | .file c, log => (w.file c, log)
  | .shell c, log => (w.shell c, log)
  | .execute t c command, log =>
      (w.remote log.length, log ++ [⟨.execute t c command, w.remote log.length⟩])

end Script

/-- The trials of some pairs, when the answers are given in order. -/
def trialsOf (remote : Nat → Except Error Shell.Result) (pairs : List Credential) : List Trial :=
  pairs.mapIdx fun i c => (c, remote i)

theorem trialsOf_cons (remote : Nat → Except Error Shell.Result) (c : Credential)
    (pairs : List Credential) :
    trialsOf remote (c :: pairs) = (c, remote 0) :: trialsOf (fun i => remote (i + 1)) pairs := by
  simp [trialsOf, List.mapIdx_cons]

/-- A command is tried with one pair after another, up to the first whose answer is accepted. -/
structure FallsThrough (accept : Credential → Except Error Shell.Result → Option α)
    (last : Except Error α) (t : Target) (command : String) (trials : List Trial) (log : Log)
    (outcome : Except Error α × Log) : Prop where
  /-- The pairs up to the first that is accepted are tried once each. -/
  accepted : ∀ before c r after a, trials = before ++ (c, r) :: after →
    (∀ x ∈ before, accept x.1 x.2 = none) → accept c r = some a →
      outcome = (.ok a, log ++ exchanges t command (before ++ [(c, r)]))
  /-- All pairs are tried once each if none is accepted. -/
  exhausted : (∀ x ∈ trials, accept x.1 x.2 = none) →
    outcome = (last, log ++ exchanges t command trials)

variable (w : Script) (p : Provisioner)

theorem runWith_firstAccepted_cons (c : Credential) (pairs : List Credential) (log : Log) :
    (firstAccepted t command accept last (c :: pairs)).runWith w.answer log =
      match accept c (w.remote log.length) with
      | some a => (.ok a, log ++ exchanges t command [(c, w.remote log.length)])
      | none => (firstAccepted t command accept last pairs).runWith w.answer
          (log ++ exchanges t command [(c, w.remote log.length)]) := by
  have hattempt : (attempt t c command).runWith w.answer log = (.ok (w.remote log.length),
      log ++ exchanges t command [(c, w.remote log.length)]) := rfl
  rw [firstAccepted, Attempt.runWith_bind_ok hattempt]
  cases accept c (w.remote log.length) <;> rfl

theorem fallsThrough_of_accepted {c : Credential} {r : Except Error Shell.Result} {a : α}
    (hr : accept c r = some a) (rest : List Trial) (log : Log) :
    FallsThrough accept last t command ((c, r) :: rest) log
      (.ok a, log ++ exchanges t command [(c, r)]) := by
  constructor
  · intro before c' r' after a' htrials hrejected haccepted
    cases before with
    | nil =>
      obtain ⟨⟨⟩, rfl⟩ := List.cons.inj htrials
      cases hr.symm.trans haccepted
      rfl
    | cons x before =>
      obtain ⟨rfl, -⟩ := List.cons.inj htrials
      cases hr.symm.trans (hrejected _ List.mem_cons_self)
  · intro hrejected
    cases hr.symm.trans (hrejected _ List.mem_cons_self)

theorem FallsThrough.cons {c : Credential} {r : Except Error Shell.Result} {trials : List Trial}
    {log : Log} {outcome : Except Error α × Log} (hr : accept c r = none)
    (h : FallsThrough accept last t command trials (log ++ exchanges t command [(c, r)]) outcome) :
    FallsThrough accept last t command ((c, r) :: trials) log outcome := by
  have hlog (later : List Trial) : log ++ exchanges t command [(c, r)] ++ exchanges t command later =
      log ++ exchanges t command ((c, r) :: later) := List.append_assoc ..
  constructor
  · intro before c' r' after a htrials hrejected haccepted
    cases before with
    | nil =>
      obtain ⟨⟨⟩, -⟩ := List.cons.inj htrials
      cases hr.symm.trans haccepted
    | cons x before =>
      obtain ⟨rfl, htail⟩ := List.cons.inj htrials
      obtain ⟨-, hrejected⟩ := List.forall_mem_cons.1 hrejected
      rw [h.accepted before c' r' after a htail hrejected haccepted, hlog]
      rfl
  · intro hrejected
    rw [h.exhausted (List.forall_mem_cons.1 hrejected).2, hlog]

theorem fallsThrough_firstAccepted (pairs : List Credential) (log : Log) :
    FallsThrough accept last t command (trialsOf (fun i => w.remote (log.length + i)) pairs) log
      ((firstAccepted t command accept last pairs).runWith w.answer log) := by
  induction pairs generalizing log with
  | nil =>
    constructor
    · intro before c r after a htrials
      exact absurd htrials (by simp [trialsOf])
    · intro _
      exact congrArg (last, ·) (List.append_nil log).symm
  | cons c pairs ih =>
    rw [trialsOf_cons, runWith_firstAccepted_cons]
    cases hr : accept c (w.remote log.length) with
    | some a => exact fallsThrough_of_accepted hr _ log
    | none =>
      have hlength (i : Nat) : log.length + (i + 1) =
          (log ++ exchanges t command [(c, w.remote log.length)]).length + i := by
        simp [exchanges]
        omega
      simp only [hlength]
      exact (ih _).cons hr

theorem fallsThrough_start (pairs : List Credential) :
    FallsThrough accept last t command (trialsOf w.remote pairs) []
      ((firstAccepted t command accept last pairs).runWith w.answer []) := by
  simpa only [List.length_nil, Nat.zero_add] using fallsThrough_firstAccepted w pairs []

/-! ## Installing, removing and checking -/

/-- The pairs in the credentials file. -/
def Script.pairs (w : Script) (p : Provisioner) : List Credential :=
  pairsIn (w.file (.read p.passwordFile))

/-- The local public key can be read. -/
structure Script.HasKey (w : Script) (p : Provisioner) (key : String) : Prop where
  present : w.file (.isPresent p.publicKeyFile) = .ok true
  readable : ∃ text, (w.file (.read p.publicKeyFile)).bind Files.textOf = .ok text ∧
    Text.trimmed text = key

theorem runWith_credentials_bind (f : List Credential → Step α) (log : Log) :
    (p.credentials >>= f).runWith w.answer log =
      if w.pairs p = [] then (.error (.noCredentials p.passwordFile), log)
      else (f (w.pairs p)).runWith w.answer log := by
  have hcredentials : p.credentials.runWith w.answer log =
      (if w.pairs p = [] then .error (.noCredentials p.passwordFile) else .ok (w.pairs p), log) := by
    have hread : (onFiles (Credentials.read p.passwordFile)).runWith w.answer log =
        (.ok (w.pairs p), log) := rfl
    rw [Provisioner.credentials, Attempt.runWith_bind_ok hread]
    cases w.pairs p <;> rfl
  split at hcredentials
  · next hpairs => rw [Attempt.runWith_bind_error hcredentials, if_pos hpairs]
  · next hpairs => rw [Attempt.runWith_bind_ok hcredentials, if_neg hpairs]

theorem runWith_localKey {key : String} (h : w.HasKey p key) (log : Log) :
    p.localKey.runWith w.answer log = (.ok key, log) := by
  obtain ⟨hpresent, text, hread, rfl⟩ := h
  have hfirst : (onFile (.isPresent p.publicKeyFile)).runWith w.answer log = (.ok true, log) :=
    congrArg (fun r => (r.mapError (Error.file p.publicKeyFile), log)) hpresent
  have hsecond : (Attempt.request (.file (.read p.publicKeyFile)) fun r =>
      (r.bind Files.textOf).mapError (Error.file p.publicKeyFile) : Step String).runWith
        w.answer log = (.ok text, log) :=
    congrArg (fun r => (r.mapError (Error.file p.publicKeyFile), log)) hread
  rw [Provisioner.localKey, Attempt.runWith_bind_ok hfirst]
  exact Attempt.runWith_bind_ok hsecond _

/-! ## Units that cannot be reached -/

/-- STATE_DB has no midplane address for a unit, or says that it is offline. -/
def Script.HidesUnit (w : Script) (module : String) : Prop :=
  w.state (.hget (Store.rawKey midplaneTable module) addressField) = .ok none ∨
    w.state (.hget (Store.rawKey moduleTable module) operStatusField) = .ok (some offline)

/-- What a program on STATE_DB ends with. -/
def Script.stateValue (w : Script) (m : Store.Client α) : Except SystemError α :=
  (m.runWith (fun c (_ : Unit) => (w.state c, ())) ()).1

theorem runWith_onState (m : Store.Client α) (log : Log) :
    (onState m).runWith w.answer log = ((w.stateValue m).mapError .system, log) := by
  have hrun : Program.run w.answer (m.interpret fun c => Program.request (.state c)).run log =
      (w.stateValue m, log) :=
    (Program.run_interpret w.answer _ m.run log).trans
      (Program.run_part (fun _ => ()) (fun log _ => log) (fun _ => rfl) (fun _ _ => rfl)
        (fun _ _ _ => rfl) (fun c _ => (w.state c, ())) m.run log)
  refine (Program.run_bind w.answer _ _ log).trans ?_
  rw [hrun]
  rfl

theorem stateValue_bind {β : Type} (m : Store.Client α) (f : α → Store.Client β) :
    w.stateValue (m >>= f) = (w.stateValue m).bind fun a => w.stateValue (f a) := by
  unfold Script.stateValue
  cases hm : m.runWith (fun c (_ : Unit) => (w.state c, ())) () with
  | mk r u =>
    cases r with
    | error e => rw [Attempt.runWith_bind_error hm, Except.bind]
    | ok a => rw [Attempt.runWith_bind_ok hm, Except.bind]

theorem stateValue_midplaneAddress (module : String) :
    w.stateValue (midplaneAddress module) =
      (w.state (.hget (Store.rawKey midplaneTable module) addressField)).bind fun ip =>
        (w.state (.hget (Store.rawKey moduleTable module) operStatusField)).bind fun status =>
          .ok (if status = some offline then none else ip) := by
  rw [midplaneAddress, stateValue_bind]
  simp only [stateValue_bind]
  rfl

theorem stateValue_ne_some {module : String} (h : w.HidesUnit module) (ip : String) :
    w.stateValue (midplaneAddress module) ≠ .ok (some ip) := by
  rw [stateValue_midplaneAddress]
  obtain h | h := h
  · rw [h]
    cases w.state (.hget (Store.rawKey moduleTable module) operStatusField) <;> simp [Except.bind]
  · rw [h]
    cases w.state (.hget (Store.rawKey midplaneTable module) addressField) <;> simp [Except.bind]

/-- A part of provisioning that looks up the address first asks nothing of a unit without one. -/
theorem runWith_of_hidden {module : String} (h : w.HidesUnit module)
    {f : Option String → Step α} {a : α} (log : Log) (hf : f none = pure a) :
    ((onState (midplaneAddress module) >>= f).runWith w.answer log).2 = log := by
  have haddress := runWith_onState w (midplaneAddress module) log
  cases hvalue : w.stateValue (midplaneAddress module) with
  | error e =>
    rw [hvalue] at haddress
    rw [Attempt.runWith_bind_error haddress]
  | ok found =>
    rw [hvalue] at haddress
    rw [Attempt.runWith_bind_ok haddress]
    cases found with
    | some ip => exact absurd hvalue (stateValue_ne_some w h ip)
    | none =>
      rw [hf]
      rfl

/-! ## The three loops -/

/-- Each of the three makes the trials up to the first that it accepts.  Without any pair the first
two end with an error and the third with a unit that is disabled, and a unit without an address is
asked nothing. -/
theorem falls_through (w : Script) (p : Provisioner) (ip : String) :
    (w.pairs p ≠ [] → ∀ key, w.HasKey p key →
      FallsThrough installed (.error (.allAttemptsFailed ip)) (p.target ip) (installCommand key)
        (trialsOf w.remote (w.pairs p)) [] ((p.install ip).runWith w.answer [])) ∧
    (w.pairs p ≠ [] →
      FallsThrough removed (.error (.allAttemptsFailed ip)) (p.target ip) removeCommand
        (trialsOf w.remote (w.pairs p)) [] ((p.remove ip).runWith w.answer [])) ∧
    (w.pairs p = [] →
      (p.install ip).runWith w.answer [] = (.error (.noCredentials p.passwordFile), []) ∧
      (p.remove ip).runWith w.answer [] = (.error (.noCredentials p.passwordFile), [])) ∧
    FallsThrough reported (.ok .disabled) (p.target ip) checkCommand
      (trialsOf w.remote (w.pairs p)) [] ((p.keyState ip).runWith w.answer []) ∧
    ∀ module log, w.HidesUnit module →
      ((p.enable module).runWith w.answer log).2 = log ∧
      ((p.disable module).runWith w.answer log).2 = log ∧
      ((p.unitState module).runWith w.answer log).2 = log := by
  refine ⟨fun hpairs key hkey => ?_, fun hpairs => ?_, fun hpairs => ⟨?_, ?_⟩, ?_,
    fun module log hhidden => ⟨?_, ?_, ?_⟩⟩
  · rw [Provisioner.install, runWith_credentials_bind, if_neg hpairs,
      Attempt.runWith_bind_ok (runWith_localKey w p hkey []), installWith_eq]
    exact fallsThrough_start w (w.pairs p)
  · rw [Provisioner.remove, runWith_credentials_bind, if_neg hpairs, removeWith_eq]
    exact fallsThrough_start w (w.pairs p)
  · rw [Provisioner.install, runWith_credentials_bind, if_pos hpairs]
  · rw [Provisioner.remove, runWith_credentials_bind, if_pos hpairs]
  · have hread : (onFiles (Credentials.read p.passwordFile)).runWith w.answer [] =
        (.ok (w.pairs p), []) := rfl
    rw [Provisioner.keyState, Attempt.runWith_bind_ok hread, stateWith_eq]
    exact fallsThrough_start w (w.pairs p)
  · rw [Provisioner.enable]
    exact runWith_of_hidden w hhidden log (by rfl)
  · rw [Provisioner.disable]
    exact runWith_of_hidden w hhidden log (by rfl)
  · rw [Provisioner.unitState]
    exact runWith_of_hidden w hhidden log (by rfl)

/-! ## Three accounts at one unit -/

open TwoAccounts

namespace ThreeAccounts

def guest : Credential := ⟨"guest", "pw3"⟩

/-- The first account cannot be logged in to, the second may not do anything and says so. -/
def remote : Nat → Except Error Shell.Result
  | 0 => .error (.authenticationFailed "169.254.200.1" "admin")
  | 1 => .ok ⟨1, "", "permission denied"⟩
  | _ => .ok ⟨0, "", ""⟩

/-- STATE_DB has no address for any unit. -/
def script : Script where
  state
    | .hget .. | .getEntry .. => .ok none
    | .setEntry .. | .delete _ => .ok ()
    | .keys _ => .ok []
  file
    | .read path =>
        .ok (Text.Utf8.encode
          (if path = provisioner.passwordFile then "admin\npw1\nroot\npw2\nguest\npw3\n"
          else "ssh-rsa AAAA admin@sonic\n"))
    | .isPresent _ => .ok true
    | .append .. | .replace .. | .remove _ => .ok ()
  shell _ := .ok ⟨0, "", ""⟩
  remote := remote

end ThreeAccounts

open ThreeAccounts

theorem falls_through_thirdAccount :
    (provisioner.install "169.254.200.1").runWith script.answer [] =
      (.ok "guest", exchanges (provisioner.target "169.254.200.1")
        (installCommand "ssh-rsa AAAA admin@sonic")
        [(admin, remote 0), (root, remote 1), (guest, remote 2)]) ∧
    (provisioner.remove "169.254.200.1").runWith script.answer [] =
      (.ok (), exchanges (provisioner.target "169.254.200.1") removeCommand
        [(admin, remote 0), (root, remote 1), (guest, remote 2)]) ∧
    (provisioner.keyState "169.254.200.1").runWith script.answer [] =
      (.ok .disabled, exchanges (provisioner.target "169.254.200.1") checkCommand
        [(admin, remote 0), (root, remote 1)]) ∧
    ((provisioner.enable "DPU0").runWith script.answer []).2 = [] := by
  obtain ⟨hinstall, hremove, -, hcheck, hhidden⟩ :=
    falls_through script provisioner "169.254.200.1"
  have hpairs : script.pairs provisioner ≠ [] :=
    (show script.pairs provisioner = [admin, root, guest] from rfl) ▸ List.cons_ne_nil _ _
  have hkey : script.HasKey provisioner "ssh-rsa AAAA admin@sonic" := ⟨rfl, _, rfl, by decide⟩
  refine ⟨?_, ?_, ?_, (hhidden "DPU0" [] (.inl rfl)).1⟩
  · exact (hinstall hpairs _ hkey).accepted [(admin, remote 0), (root, remote 1)] guest (remote 2)
      [] "guest" rfl (by simp [remote, installed, Shell.Result.success]) rfl
  · exact (hremove hpairs).accepted [(admin, remote 0), (root, remote 1)] guest (remote 2) [] ()
      rfl (by simp [remote, removed]) rfl
  · exact hcheck.accepted [(admin, remote 0)] root (remote 1) [(guest, remote 2)] .disabled rfl
      (by simp [remote, reported]) rfl

end ChassisAdmin.Remote
