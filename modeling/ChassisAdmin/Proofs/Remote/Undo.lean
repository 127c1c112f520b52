import ChassisAdmin.Proofs.Remote.Trials

/-!
# Disabling a unit after enabling it

Enabling a unit installs a key in the name of the first pair whose command
succeeds.  Disabling it looks for keys with the first pair that logs in, and
removes them with the first pair that does not complain.  These may be three
pairs.

All that is assumed of the surroundings is that STATE_DB and the credentials file
stay as they are (`Unchanged`); remote units may answer anything at any time.
What passes while a unit is enabled and while it is disabled consists of trials
(`installs_of_enable` and `disables_of_transcript`).  No loop gets past the pair
with the key without trying it, and that pair can log in.  So only a pair in front
of it can get in the way (`undone_of_enabled`).  `not_undone` shows both ways in
which one does.
-/

namespace ChassisAdmin.Remote

open Provisioner

variable {α σ : Type} {reply : (q : Request) → σ → q.Answer → σ → Prop} {s s' : σ}
  {ex : List (Exchange Request Request.Answer)} {p : Provisioner} {pairs : List Credential}

/-! ## What is asked of this machine -/

/-- A request that is not made to a remote unit. -/
def Request.IsLocal : Request → Prop
  | .execute .. => False
  | .state _ | .file _ | .shell _ => True

/-- A part of provisioning asked no remote unit anything. -/
def AllLocal (ex : List (Exchange Request Request.Answer)) : Prop := ∀ x ∈ ex, x.request.IsLocal

theorem AllLocal.append {ex ex' : List (Exchange Request Request.Answer)} (h : AllLocal ex)
    (h' : AllLocal ex') : AllLocal (ex ++ ex') := List.forall_mem_append.2 ⟨h, h'⟩

theorem asks_onState (m : Store.Client α) : (onState m).Asks fun q => ∃ c, q = .state c :=
  Attempt.asks_mapError _ (Program.asks_interpret (Program.asks_of_forall (fun _ => trivial) m.run)
    fun c (_ : True) => ⟨⟨c, rfl⟩, fun _ => trivial⟩)

theorem allLocal_onState {m : Store.Client α} {r : Except Error α}
    (h : (onState m).Transcript reply s ex r s') : AllLocal ex := by
  intro x hx
  obtain ⟨c, hc⟩ := h.request_of_asks (asks_onState m) x hx
  rw [hc]
  trivial

theorem asks_localKey (p : Provisioner) : p.localKey.Asks Request.IsLocal := by
  refine Attempt.asks_bind (Attempt.asks_request trivial _) fun present => ?_
  cases present with
  | true => exact Attempt.asks_bind (Attempt.asks_request trivial _) fun _ => Attempt.asks_pure _
  | false =>
    exact Attempt.asks_bind (Attempt.asks_request trivial _) fun _ =>
      Attempt.asks_bind (Attempt.asks_request trivial _) fun _ => Attempt.asks_pure _

/-- STATE_DB answers as it did before, and the credentials file holds these pairs all the time. -/
structure Unchanged (p : Provisioner) (pairs : List Credential)
    (reply : (q : Request) → σ → q.Answer → σ → Prop) : Prop where
  state : ∀ c s r s' u r' u', reply (.state c) s r s' → reply (.state c) u r' u' → r = r'
  credentials : ∀ s r s', reply (.file (.read p.passwordFile)) s r s' →
    Credentials.ofContent (r.bind Files.textOf) = pairs

theorem value_eq_of_onState (hsame : Unchanged p pairs reply) {m : Store.Client α}
    {ex' : List (Exchange Request Request.Answer)} {r r' : Except Error α} {u u' : σ}
    (h : (onState m).Transcript reply s ex r s') (h' : (onState m).Transcript reply u ex' r' u') :
    r = r' := by
  refine h.value_eq_of_alike ?_ (asks_onState m) h'
  rintro _ ⟨c, rfl⟩
  exact hsame.state c

/-- The pairs that an answer of the credentials file holds. -/
def pairsIn (answer : Except FileError (List UInt8)) : List Credential :=
  Credentials.ofContent (answer.bind Files.textOf)

/-- What is read of the credentials file. -/
theorem transcript_read {r : Except Error (List Credential)}
    (h : (onFiles (Credentials.read p.passwordFile)).Transcript reply s ex r s') :
    ∃ answer, reply (.file (.read p.passwordFile)) s answer s' ∧
      ex = [⟨.file (.read p.passwordFile), answer⟩] ∧ r = .ok (pairsIn answer) := by
  have hread : onFiles (Credentials.read p.passwordFile) =
      Attempt.request (.file (.read p.passwordFile)) fun r => .ok (pairsIn r) := rfl
  rw [hread] at h
  obtain ⟨answer, hreply, rfl, rfl⟩ := Attempt.transcript_request_iff.1 h
  exact ⟨answer, hreply, rfl, rfl⟩

theorem transcript_credentials {r : Except Error (List Credential)}
    (h : p.credentials.Transcript reply s ex r s') :
    ∃ answer, reply (.file (.read p.passwordFile)) s answer s' ∧
      ex = [⟨.file (.read p.passwordFile), answer⟩] ∧
      r = if (pairsIn answer).isEmpty then .error (.noCredentials p.passwordFile)
        else .ok (pairsIn answer) := by
  obtain ⟨e, hread, -⟩ | ⟨found, ex₁, s₁, ex₂, hread, hrest, rfl⟩ :=
    Attempt.transcript_bind_iff.1 h
  · obtain ⟨answer, -, -, ⟨⟩⟩ := transcript_read hread
  obtain ⟨answer, hreply, rfl, ⟨⟩⟩ := transcript_read hread
  cases hpairs : (pairsIn answer).isEmpty with
  | true =>
    rw [hpairs] at hrest
    obtain ⟨e, hthrow, rfl⟩ | ⟨_, _, _, _, hthrow, -⟩ := Attempt.transcript_bind_iff.1 hrest
    · obtain ⟨⟨⟩, rfl, rfl⟩ := Attempt.transcript_throw_iff.1 hthrow
      exact ⟨answer, hreply, List.append_nil _, by simp [hpairs]⟩
    · cases (Attempt.transcript_throw_iff.1 hthrow).1
  | false =>
    rw [hpairs] at hrest
    obtain ⟨rfl, rfl, rfl⟩ := Attempt.transcript_pure_iff.1 hrest
    exact ⟨answer, hreply, List.append_nil _, by simp [hpairs]⟩

theorem read_of_transcript (hsame : Unchanged p pairs reply) {r : Except Error (List Credential)}
    (h : (onFiles (Credentials.read p.passwordFile)).Transcript reply s ex r s') :
    AllLocal ex ∧ r = .ok pairs := by
  obtain ⟨answer, hreply, rfl, rfl⟩ := transcript_read h
  exact ⟨List.forall_mem_singleton.2 trivial, congrArg _ (hsame.credentials _ _ _ hreply)⟩

theorem credentials_of_transcript (hsame : Unchanged p pairs reply)
    {r : Except Error (List Credential)} (h : p.credentials.Transcript reply s ex r s') :
    AllLocal ex ∧
      r = if pairs.isEmpty then .error (.noCredentials p.passwordFile) else .ok pairs := by
  obtain ⟨answer, hreply, rfl, rfl⟩ := transcript_credentials h
  have hpairs : pairsIn answer = pairs := hsame.credentials _ _ _ hreply
  exact ⟨List.forall_mem_singleton.2 trivial, by rw [hpairs]⟩

/-! ## What is asked of the remote unit -/

/-- Pairs were tried to install a key, and it was installed in the name of a user. -/
theorem installs_of_enable (hsame : Unchanged p pairs reply) {module ip user : String}
    (h : (p.enable module).Transcript reply s ex (.ok (.keyInstalled ip user)) s') :
    (∃ ex₁ s₁, (onState (midplaneAddress module)).Transcript reply s ex₁ (.ok (some ip)) s₁) ∧
      ∃ start key trials, AllLocal start ∧
        ex = start ++ exchanges (p.target ip) (installCommand key) trials ∧
        Ends installed (.error (.allAttemptsFailed ip)) pairs trials (.ok user) := by
  obtain ⟨e, -, ⟨⟩⟩ | ⟨address, ex₁, s₁, ex₂, haddress, hrest, rfl⟩ :=
    Attempt.transcript_bind_iff.1 h
  cases address with
  | none => cases (Attempt.transcript_pure_iff.1 hrest).1
  | some found =>
    obtain ⟨e, -, ⟨⟩⟩ | ⟨name, ex₃, s₃, ex₄, hinstall, hend, rfl⟩ :=
      Attempt.transcript_bind_iff.1 hrest
    obtain ⟨⟨⟩, rfl, -⟩ := Attempt.transcript_pure_iff.1 hend
    refine ⟨⟨ex₁, s₁, haddress⟩, ?_⟩
    obtain ⟨e, -, ⟨⟩⟩ | ⟨found, ex₅, s₅, ex₆, hcredentials, hkeyed, rfl⟩ :=
      Attempt.transcript_bind_iff.1 hinstall
    obtain ⟨e, -, ⟨⟩⟩ | ⟨key, ex₇, s₇, ex₈, hkey, htry, rfl⟩ := Attempt.transcript_bind_iff.1 hkeyed
    rw [installWith_eq] at htry
    obtain ⟨trials, rfl, hends⟩ := ends_of_transcript htry
    obtain ⟨hread, hfound⟩ := credentials_of_transcript hsame hcredentials
    have hpairs : found = pairs := by
      split at hfound <;> cases hfound
      rfl
    subst hpairs
    have hlocal := (allLocal_onState haddress).append
      (hread.append (hkey.request_of_asks (asks_localKey p)))
    exact ⟨ex₁ ++ (ex₅ ++ ex₇), key, trials, hlocal, by simp, hends⟩

/-- What can pass while a unit at an address is disabled. -/
inductive Disables (p : Provisioner) (pairs : List Credential) (ip : String) :
    List (Exchange Request Request.Answer) → Except Error Provisioned → Prop where
  | alreadyDisabled {start : List (Exchange Request Request.Answer)} {checks : List Trial}
      (hstart : AllLocal start)
      (hchecks : Ends reported (.ok .disabled) pairs checks (.ok .disabled)) :
      Disables p pairs ip (start ++ exchanges (p.target ip) checkCommand checks)
        (.ok (.alreadyDisabled ip))
  | removal {start middle : List (Exchange Request Request.Answer)} {checks removals : List Trial}
      {outcome : Except Error Unit} (hstart : AllLocal start) (hmiddle : AllLocal middle)
      (hchecks : Ends reported (.ok .disabled) pairs checks (.ok .enabled))
      (hremovals : Ends removed (.error (.allAttemptsFailed ip)) pairs removals outcome) :
      Disables p pairs ip
        (start ++ exchanges (p.target ip) checkCommand checks ++
          (middle ++ exchanges (p.target ip) removeCommand removals))
        (outcome.map fun _ => .keyRemoved ip)

theorem ne_nil_of_ends_enabled {checks : List Trial}
    (h : Ends reported (.ok .disabled) pairs checks (.ok .enabled)) : pairs ≠ [] := by
  cases h with
  | accepted trials after => simp

/-- To remove keys, the credentials file is read, and then its pairs are tried, if there are any. -/
theorem exists_removals {ip : String} {outcome : Except Error Unit}
    (h : (p.remove ip).Transcript reply s ex outcome s') :
    ∃ answer s₁ removals, reply (.file (.read p.passwordFile)) s answer s₁ ∧
      ex = ⟨.file (.read p.passwordFile), answer⟩ ::
        exchanges (p.target ip) removeCommand removals ∧
      (pairsIn answer = [] ∧ outcome = .error (.noCredentials p.passwordFile) ∨
        Ends removed (.error (.allAttemptsFailed ip)) (pairsIn answer) removals outcome) := by
  obtain ⟨e, hread, rfl⟩ | ⟨found, ex₁, s₁, ex₂, hread, htry, rfl⟩ :=
    Attempt.transcript_bind_iff.1 h
  · obtain ⟨answer, hreply, rfl, heq⟩ := transcript_credentials hread
    split at heq
    · next hpairs =>
      cases heq
      exact ⟨answer, s', [], hreply, rfl, .inl ⟨List.isEmpty_iff.1 hpairs, rfl⟩⟩
    · cases heq
  · obtain ⟨answer, hreply, rfl, heq⟩ := transcript_credentials hread
    split at heq
    · cases heq
    · cases heq
      rw [removeWith_eq] at htry
      obtain ⟨removals, rfl, hends⟩ := ends_of_transcript htry
      exact ⟨answer, s₁, removals, hreply, rfl, .inr hends⟩

theorem removals_of_remove (hsame : Unchanged p pairs reply) (hne : pairs ≠ []) {ip : String}
    {outcome : Except Error Unit} (h : (p.remove ip).Transcript reply s ex outcome s') :
    ∃ middle removals, AllLocal middle ∧
      ex = middle ++ exchanges (p.target ip) removeCommand removals ∧
      Ends removed (.error (.allAttemptsFailed ip)) pairs removals outcome := by
  obtain ⟨answer, s₁, removals, hreply, rfl, hremovals⟩ := exists_removals h
  rw [show pairsIn answer = pairs from hsame.credentials _ _ _ hreply] at hremovals
  obtain ⟨hpairs, -⟩ | hends := hremovals
  · exact absurd hpairs hne
  · exact ⟨[⟨.file (.read p.passwordFile), answer⟩], removals,
      List.forall_mem_singleton.2 trivial, rfl, hends⟩

theorem checks_of_keyState (hsame : Unchanged p pairs reply) {ip : String}
    {outcome : Except Error KeyState} (h : (p.keyState ip).Transcript reply s ex outcome s') :
    ∃ start checks, AllLocal start ∧ ex = start ++ exchanges (p.target ip) checkCommand checks ∧
      Ends reported (.ok .disabled) pairs checks outcome := by
  obtain ⟨e, hread, -⟩ | ⟨found, ex₁, s₁, ex₂, hread, htry, rfl⟩ := Attempt.transcript_bind_iff.1 h
  · cases (read_of_transcript hsame hread).2
  obtain ⟨hstart, ⟨⟩⟩ := read_of_transcript hsame hread
  rw [stateWith_eq] at htry
  obtain ⟨checks, rfl, hends⟩ := ends_of_transcript htry
  exact ⟨ex₁, checks, hstart, rfl, hends⟩

theorem disables_of_transcript (hsame : Unchanged p pairs reply) {module ip : String}
    {ex₀ : List (Exchange Request Request.Answer)} {u u' : σ}
    (haddress : (onState (midplaneAddress module)).Transcript reply u ex₀ (.ok (some ip)) u')
    {result : Except Error Provisioned}
    (h : (p.disable module).Transcript reply s ex result s') : Disables p pairs ip ex result := by
  obtain ⟨e, hstate, -⟩ | ⟨address, ex₁, s₁, ex₂, hstate, hrest, rfl⟩ :=
    Attempt.transcript_bind_iff.1 h
  · cases value_eq_of_onState hsame haddress hstate
  have haddressed := allLocal_onState hstate
  cases value_eq_of_onState hsame haddress hstate
  obtain ⟨e, hcheck, -⟩ | ⟨state, ex₃, s₃, ex₄, hcheck, hend, rfl⟩ :=
    Attempt.transcript_bind_iff.1 hrest
  · obtain ⟨start, checks, -, -, hends⟩ := checks_of_keyState hsame hcheck
    cases hends
  obtain ⟨start, checks, hstart, rfl, hchecks⟩ := checks_of_keyState hsame hcheck
  rw [← List.append_assoc, ← List.append_assoc]
  cases state with
  | disabled =>
    obtain ⟨rfl, rfl, -⟩ := Attempt.transcript_pure_iff.1 hend
    rw [List.append_nil]
    exact .alreadyDisabled (haddressed.append hstart) hchecks
  | enabled =>
    have hne := ne_nil_of_ends_enabled hchecks
    obtain ⟨e, hremove, rfl⟩ | ⟨_, ex₅, s₅, ex₆, hremove, hdone, rfl⟩ :=
      Attempt.transcript_bind_iff.1 hend
    · obtain ⟨middle, removals, hmiddle, rfl, hremovals⟩ := removals_of_remove hsame hne hremove
      exact .removal (haddressed.append hstart) hmiddle hchecks hremovals
    · obtain ⟨middle, removals, hmiddle, rfl, hremovals⟩ := removals_of_remove hsame hne hremove
      obtain ⟨rfl, rfl, -⟩ := Attempt.transcript_pure_iff.1 hdone
      rw [List.append_nil]
      exact .removal (haddressed.append hstart) hmiddle hchecks hremovals

/-! ## The account with the key -/

/-- A pair logged in to run a command, which had a result. -/
def Ran (ex : List (Exchange Request Request.Answer)) (t : Target) (c : Credential)
    (command : String) (r : Shell.Result) : Prop :=
  ⟨.execute t c command, .ok r⟩ ∈ ex

/-- A pair can log in each time, and reports a file of keys. -/
structure Accessible (ex : List (Exchange Request Request.Answer)) (t : Target) (c : Credential) :
    Prop where
  login : ∀ command e, ⟨.execute t c command, .error e⟩ ∉ ex
  keys : ∀ r, Ran ex t c checkCommand r → r.stdout = keysPresent

/-- Some pairs in turn failed to install a key, and then another pair installed it. -/
def InstalledBy (ex : List (Exchange Request Request.Answer)) (t : Target)
    (before : List Credential) (c : Credential) : Prop :=
  ∃ start key trials r,
    AllLocal start ∧ ex = start ++ exchanges t (installCommand key) (trials ++ [(c, r)]) ∧
      trials.map Prod.fst = before ∧ (∀ x ∈ trials, installed x.1 x.2 = none) ∧
      installed c r = some c.username

theorem mem_exchanges_iff {t : Target} {command command' : String} {trials : List Trial}
    {c : Credential} {r : Except Error Shell.Result} :
    (⟨.execute t c command', r⟩ : Exchange Request Request.Answer) ∈ exchanges t command trials ↔
      command' = command ∧ (c, r) ∈ trials := by
  constructor
  · intro h
    obtain ⟨x, hx, ⟨⟩⟩ := List.mem_map.1 h
    exact ⟨rfl, hx⟩
  · rintro ⟨rfl, h⟩
    exact List.mem_map.2 ⟨_, h, rfl⟩

variable {t : Target} {before after : List Credential} {c : Credential} {trials : List Trial}

/-- A pair that can log in has a result when it is tried. -/
theorem Accessible.exists_result (h : Accessible ex t c) {command : String}
    (hsub : exchanges t command trials ⊆ ex) {r : Except Error Shell.Result}
    (hr : (c, r) ∈ trials) : ∃ out, r = .ok out ∧ Ran ex t c command out := by
  have hmem := hsub (mem_exchanges_iff.2 ⟨rfl, hr⟩)
  cases r with
  | error e => exact absurd hmem (h.login command e)
  | ok out => exact ⟨out, rfl, hmem⟩

/-- Where a unit counts as disabled, a pair in front of one with access reported no keys. -/
theorem exists_denial_of_disabled (h : Accessible ex t c)
    (hsub : exchanges t checkCommand trials ⊆ ex)
    (hends : Ends reported (.ok .disabled) (before ++ c :: after) trials (.ok .disabled)) :
    ∃ d ∈ before, ∃ r, Ran ex t d checkCommand r ∧ r.stdout ≠ keysPresent := by
  obtain ⟨d, hd, r, _, hr, haccepted, ⟨⟩⟩ | ⟨r, hr⟩ := hends.front_or_tried
  · obtain ⟨out, rfl, hdenied⟩ := reported_eq_disabled_iff.1 haccepted
    exact ⟨d, hd, out, hsub (mem_exchanges_iff.2 ⟨rfl, hr⟩), hdenied⟩
  · -- The pair with access would have reported its keys, and the check would have ended with it.
    obtain ⟨out, rfl, hran⟩ := h.exists_result hsub hr
    cases hends.result_of_accepted hr (reported_eq_enabled_iff.2 ⟨out, rfl, h.keys out hran⟩)

/-- Where keys were removed, a pair with access tried to, or one in front of it did. -/
theorem exists_removal_of_removed (h : Accessible ex t c)
    (hsub : exchanges t removeCommand trials ⊆ ex) {failure : Error} {u : Unit}
    (hends : Ends removed (.error failure) (before ++ c :: after) trials (.ok u)) :
    (∃ r, Ran ex t c removeCommand r) ∨
      ∃ d ∈ before, ∃ r, Ran ex t d removeCommand r ∧ r.stderr = "" := by
  obtain ⟨d, hd, r, _, hr, haccepted, -⟩ | ⟨r, hr⟩ := hends.front_or_tried
  · obtain ⟨out, rfl, hsilent⟩ := removed_eq_some_iff.1 haccepted
    exact .inr ⟨d, hd, out, hsub (mem_exchanges_iff.2 ⟨rfl, hr⟩), hsilent⟩
  · obtain ⟨out, -, hran⟩ := h.exists_result hsub hr
    exact .inl ⟨out, hran⟩

/-- Disabling a unit undoes enabling it, unless a pair in front of the one that installed the key
gets in its way.  Each of these failed to log in or to install the key.  The unit counts as disabled
already only if one of them logs in and reports no keys, and its keys are removed from another
account only if one of them does so without a complaint. -/
theorem undone_of_enabled (hsame : Unchanged p pairs reply) {module ip user : String}
    {s₀ s₁ s₂ : σ} {ex₁ ex₂ : List (Exchange Request Request.Answer)}
    {result : Except Error Provisioned}
    (henable : (p.enable module).Transcript reply s₀ ex₁ (.ok (.keyInstalled ip user)) s₁)
    (hdisable : (p.disable module).Transcript reply s₁ ex₂ result s₂) :
    ∃ before c after, pairs = before ++ c :: after ∧ c.username = user ∧
      InstalledBy ex₁ (p.target ip) before c ∧
      (Accessible ex₂ (p.target ip) c →
        ((∃ ip', result = .ok (.alreadyDisabled ip')) →
          ∃ d ∈ before, ∃ r, Ran ex₂ (p.target ip) d checkCommand r ∧ r.stdout ≠ keysPresent) ∧
        ((∃ ip', result = .ok (.keyRemoved ip')) →
          (∃ r, Ran ex₂ (p.target ip) c removeCommand r) ∨
            ∃ d ∈ before, ∃ r, Ran ex₂ (p.target ip) d removeCommand r ∧ r.stderr = "")) := by
  obtain ⟨⟨ex₀, s, haddress⟩, start, key, trials, hstart, hex, hends⟩ :=
    installs_of_enable hsame henable
  have hdisables := disables_of_transcript hsame haddress hdisable
  cases hends with
  | @accepted trials c r _ after hrejected haccepted =>
    obtain ⟨-, -, -, huser⟩ := installed_eq_some_iff.1 haccepted
    refine ⟨_, c, after, rfl, huser,
      ⟨start, key, trials, r, hstart, hex, rfl, hrejected, huser ▸ haccepted⟩,
      fun haccessible => ⟨?_, ?_⟩⟩
    · rintro ⟨_, hresult⟩
      cases hdisables with
      | alreadyDisabled _ hchecks =>
        exact exists_denial_of_disabled haccessible (List.subset_append_right _ _) hchecks
      | @removal _ _ _ _ outcome => cases outcome <;> cases hresult
    · rintro ⟨_, hresult⟩
      cases hdisables with
      | alreadyDisabled => cases hresult
      | @removal _ _ _ _ outcome _ _ _ hremovals =>
        cases outcome with
        | error e => cases hresult
        | ok u =>
          refine exists_removal_of_removed haccessible ?_ hremovals
          exact List.Subset.trans (List.subset_append_right _ _) (List.subset_append_right _ _)

/-! ## Two accounts at one unit -/

/-- Surroundings in which nothing changes but what was run on remote units.  What these answer
depends on the pair, the command and what was run before. -/
def answering (state : (c : Store.Call) → Store.Answer c) (file : (c : Files.Call) → Files.Answer c)
    (shell : List (Credential × String) → Credential → String → Except Error Shell.Result) :
    (q : Request) → List (Credential × String) → q.Answer × List (Credential × String)
  | .state c, ran => (state c, ran)
  | .file c, ran => (file c, ran)
  | .shell _, ran => (.ok ⟨0, "", ""⟩, ran)
  | .execute _ c command, ran => (shell ran c command, ran ++ [(c, command)])

namespace TwoAccounts

/-- A provisioner with the usual port and time. -/
def provisioner : Provisioner := ⟨"credentials", "id_rsa.pub", "id_rsa", 10000000000, 22⟩

def admin : Credential := ⟨"admin", "pw1"⟩

def root : Credential := ⟨"root", "pw2"⟩

/-- A STATE_DB in which every unit has one address. -/
def state : (c : Store.Call) → Store.Answer c
  | .hget _ field => .ok (if field = addressField then some "169.254.200.1" else none)
  | .getEntry .. => .ok none
  | .setEntry .. | .delete _ => .ok ()
  | .keys _ => .ok []

/-- The file of both pairs, and a key. -/
def files : (c : Files.Call) → Files.Answer c
  | .read path =>
      .ok (Text.Utf8.encode
        (if path = provisioner.passwordFile then "admin\npw1\nroot\npw2\n"
        else "ssh-rsa AAAA admin@sonic\n"))
  | .isPresent _ => .ok true
  | .append .. | .replace .. | .remove _ => .ok ()

/-- The second account can install, check and remove keys.  The first may do anything. -/
def shell (first : String → Except Error Shell.Result) (_ : List (Credential × String))
    (c : Credential) (command : String) : Except Error Shell.Result :=
  if c = admin then first command
  else .ok ⟨0, if command = checkCommand then keysPresent else "", ""⟩

def surroundings (first : String → Except Error Shell.Result) :
    (q : Request) → List (Credential × String) → q.Answer × List (Credential × String) :=
  answering state files (shell first)

/-- An account that cannot be logged in to. -/
def closed (_ : String) : Except Error Shell.Result :=
  .error (.authenticationFailed "169.254.200.1" "admin")

/-- An account in which no key can be installed. -/
def readOnly (check removal : Shell.Result) (command : String) : Except Error Shell.Result :=
  .ok (if command = checkCommand then check else if command = removeCommand then removal
    else ⟨1, "", "permission denied"⟩)

/-- What is run while the key is installed in the second account. -/
def installing : List (Credential × String) :=
  [(admin, installCommand "ssh-rsa AAAA admin@sonic"),
    (root, installCommand "ssh-rsa AAAA admin@sonic")]

theorem unchanged (first : String → Except Error Shell.Result) :
    Unchanged provisioner [admin, root] (Program.handled (surroundings first)) where
  state := by
    rintro c s r s' u r' u' ⟨⟩ ⟨⟩
    rfl
  credentials := by
    rintro s r s' ⟨⟩
    rfl

end TwoAccounts

open TwoAccounts

theorem undone_of_enabled_secondAccount :
    ∃ ex ran, (provisioner.disable "DPU0").Transcript (Program.handled (surroundings closed))
        installing ex (.ok (.keyRemoved "169.254.200.1")) ran ∧
      ∃ r, Ran ex (provisioner.target "169.254.200.1") root removeCommand r := by
  obtain ⟨ex₁, henable⟩ : ∃ ex, (provisioner.enable "DPU0").Transcript
      (Program.handled (surroundings closed)) [] ex (.ok (.keyInstalled "169.254.200.1" "root"))
      installing := Program.exists_transcript_run _ (provisioner.enable "DPU0").run []
  obtain ⟨ex₂, hdisable⟩ : ∃ ex, (provisioner.disable "DPU0").Transcript
      (Program.handled (surroundings closed)) installing ex (.ok (.keyRemoved "169.254.200.1")) _ :=
    Program.exists_transcript_run _ (provisioner.disable "DPU0").run installing
  have hadmin : ∀ out, ¬Ran ex₂ (provisioner.target "169.254.200.1") admin removeCommand out := by
    intro out h
    obtain ⟨_, _, ⟨⟩⟩ := hdisable.exists_reply _ h
  have hroot : Accessible ex₂ (provisioner.target "169.254.200.1") root := by
    constructor
    · intro command e h
      obtain ⟨_, _, ⟨⟩⟩ := hdisable.exists_reply _ h
    · intro out h
      obtain ⟨_, _, ⟨⟩⟩ := hdisable.exists_reply _ h
      rfl
  obtain ⟨before, c, after, hpairs, huser, -, hundone⟩ :=
    undone_of_enabled (unchanged closed) henable hdisable
  have hmem : ∀ d ∈ before ++ c :: after, d = admin ∨ d = root := by
    rw [← hpairs]
    simp
  have hc : c = root := by
    obtain rfl | hc := hmem c (by simp)
    · exact absurd huser (by decide)
    · exact hc
  subst hc
  refine ⟨ex₂, _, hdisable, ?_⟩
  obtain hran | ⟨d, hd, out, hran, -⟩ := (hundone hroot).2 ⟨_, rfl⟩
  · exact hran
  · obtain rfl | rfl := hmem d (List.mem_append_left _ hd)
    · exact absurd hran (hadmin out)
    · exact ⟨out, hran⟩

/-- The second account has the key and reports it.  The first account cannot install keys, but
either it reports that it has none, and the unit counts as disabled, or it has keys of its own, and
they are removed in place of the one that was installed. -/
theorem not_undone :
    (provisioner.enable "DPU0").runWith
        (surroundings (readOnly ⟨0, "not found", ""⟩ ⟨2, "", "can't read"⟩)) [] =
      (.ok (.keyInstalled "169.254.200.1" "root"), installing) ∧
    (provisioner.disable "DPU0").runWith
        (surroundings (readOnly ⟨0, "not found", ""⟩ ⟨2, "", "can't read"⟩)) installing =
      (.ok (.alreadyDisabled "169.254.200.1"), installing ++ [(admin, checkCommand)]) ∧
    (provisioner.enable "DPU0").runWith
        (surroundings (readOnly ⟨0, "exists", ""⟩ ⟨0, "", ""⟩)) [] =
      (.ok (.keyInstalled "169.254.200.1" "root"), installing) ∧
    (provisioner.disable "DPU0").runWith
        (surroundings (readOnly ⟨0, "exists", ""⟩ ⟨0, "", ""⟩)) installing =
      (.ok (.keyRemoved "169.254.200.1"),
        installing ++ [(admin, checkCommand), (admin, removeCommand)]) ∧
    (root, removeCommand) ∉ installing ++ [(admin, checkCommand), (admin, removeCommand)] ∧
    ∀ first ran, shell first ran root checkCommand = .ok ⟨0, "exists", ""⟩ :=
  ⟨rfl, rfl, rfl, rfl, by decide, fun _ _ => rfl⟩

end ChassisAdmin.Remote
