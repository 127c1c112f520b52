import ChassisAdmin.Proofs.CommandLine.Account
import ChassisAdmin.Proofs.CommandLine.Visits
import ChassisAdmin.Proofs.Platform.Detected

/-!
# Changing the logins of many DPUs

A command that enables or disables passwordless login rejects an argument that
selects no DPU, connects to STATE_DB and then visits every DPU that the argument
selects.  At the end it fails if any of them did.

`loginAccount_of_run` says how the exit status, the lines of the two kinds and
the visits belong together, whatever answers the requests of the command.
-/

namespace ChassisAdmin.CommandLine

open Store (Memory)

variable {σ : Type} {reply : (q : Request) → σ → Answer q → σ → Prop} {s s' : σ}
  {t : List (Exchange Request Answer)} {c : Config} {p : Platform} {change : LoginChange}
  {arg : String}

/-! ## The command on a platform -/

/-- How a command ends after its visits. -/
def endOf (visits : List Visit) : Except Failure Unit :=
  if 0 < visits.countP Visit.failed then
    .error (.unfinished (visits.countP Visit.failed) visits.length)
  else
    .ok ()

/-- The ways that a change of logins can go. -/
inductive LoginsChanged (reply : (q : Request) → σ → Answer q → σ → Prop) (c : Config)
    (p : Platform) (change : LoginChange) (arg : String) (s : σ) :
    List (Exchange Request Answer) → Except Failure Unit → σ → Prop where
  /-- The argument selects no DPU. -/
  | rejected {e : ChassisError} (hselect : p.selectDpus arg = .error e) :
      LoginsChanged reply c p change arg s [] (.error (.module e)) s
  /-- STATE_DB cannot be reached. -/
  | unconnected {dpus : List String} {e : SystemError} {s' : σ}
      (hselect : p.selectDpus arg = .ok dpus)
      (hconnect : reply (.connect (c.address .state)) s (.error e) s') :
      LoginsChanged reply c p change arg s [⟨.connect (c.address .state), .error e⟩]
        (.error (.unprepared (.database .state) e)) s'
  /-- Every DPU had its turn. -/
  | visited {visits : List Visit} {s₁ s' : σ}
      (hselect : p.selectDpus arg = .ok (visits.map (·.dpu)))
      (hconnect : reply (.connect (c.address .state)) s (.ok ()) s₁)
      (hvisited : Visited reply c change s₁ visits s') :
      LoginsChanged reply c p change arg s
        (⟨.connect (c.address .state), .ok ()⟩ :: visits.flatMap Visit.transcript)
        (endOf visits) s'

theorem changeLogin_of_error {e : ChassisError} (h : p.selectDpus arg = .error e) :
    changeLogin c p change arg = throw (.module e) := by
  unfold changeLogin chooseDpus
  rw [h]
  rfl

theorem changeLogin_of_ok {dpus : List String} (h : p.selectDpus arg = .ok dpus) :
    changeLogin c p change arg = (do
      connect c .state
      let failed ← changeEach c change dpus
      if 0 < failed then
        throw (.unfinished failed dpus.length)) := by
  unfold changeLogin chooseDpus
  rw [h]
  simp only [bind_assoc, pure_bind]
  rfl

theorem loginsChanged_of_transcript {r : Except Failure Unit}
    (h : (changeLogin c p change arg).Transcript reply s t r s') :
    LoginsChanged reply c p change arg s t r s' := by
  cases hselect : p.selectDpus arg with
  | error e =>
    rw [changeLogin_of_error hselect] at h
    obtain ⟨rfl, rfl, rfl⟩ := Attempt.transcript_throw_iff.1 h
    exact .rejected hselect
  | ok dpus =>
    rw [changeLogin_of_ok hselect] at h
    rcases Attempt.transcript_bind_iff.1 h with
      ⟨e, hconnect, rfl⟩ | ⟨_, t₁, s₁, t₂, hconnect, hrest, rfl⟩
    · obtain ⟨answer, hreply, he, rfl⟩ := Attempt.transcript_request_iff.1 hconnect
      cases answer with
      | ok => cases he
      | error cause =>
        cases he
        exact .unconnected hselect hreply
    obtain ⟨answer, hreply, hok, rfl⟩ := Attempt.transcript_request_iff.1 hconnect
    cases answer with
    | error cause => cases hok
    | ok =>
      rcases Attempt.transcript_bind_iff.1 hrest with
        ⟨e, heach, -⟩ | ⟨failed, t₃, s₂, t₄, heach, hend, rfl⟩
      · obtain ⟨_, _, _, _, he⟩ := visited_of_changeEach heach
        cases he
      obtain ⟨visits, rfl, hvisited, rfl, hfailed⟩ := visited_of_changeEach heach
      cases hfailed
      have hend' : r = endOf visits ∧ t₄ = [] ∧ s' = s₂ := by
        unfold endOf
        split at hend
        · next hsome =>
          rw [List.length_map] at hend
          rw [if_pos hsome]
          exact Attempt.transcript_throw_iff.1 hend
        · next hnone =>
          rw [if_neg hnone]
          exact Attempt.transcript_pure_iff.1 hend
      obtain ⟨rfl, rfl, rfl⟩ := hend'
      rw [List.append_nil]
      exact .visited hselect hreply hvisited

/-! ## What belongs together -/

/-- The line that ends a command of whose visits some failed. -/
def summary (visits : List Visit) : List String :=
  if 0 < visits.countP Visit.failed then
    ["Error: " ++ (Text.decimal (visits.countP Visit.failed) ++ " of " ++
      Text.decimal visits.length ++ " DPUs failed")]
  else []

/-- How the lines and the exit status of a command tell of its visits. -/
structure TellsOf (visits : List Visit) (t : List (Exchange Request Answer)) (exit : Nat) :
    Prop where
  /-- There is one line for each DPU that did not fail. -/
  printed : printed t = visits.filterMap Visit.message?
  /-- There is one line for each DPU that failed, and one more if there are any. -/
  complaints : complaints t = visits.filterMap Visit.complaint? ++ summary visits
  exit_eq_zero_iff : exit = 0 ↔ ∀ v ∈ visits, v.failed = false
  exit_eq_one_iff : exit = 1 ↔ ∃ v ∈ visits, v.failed = true

/-- What a change of logins comes to for the DPUs that were selected. -/
inductive Attended (reply : (q : Request) → σ → Answer q → σ → Prop) (c : Config)
    (change : LoginChange) (dpus : List String) (s : σ) (t : List (Exchange Request Answer))
    (exit : Nat) : Prop where
  /-- STATE_DB cannot be reached, and nothing else is tried. -/
  | unconnected {e : SystemError} {s₁ : σ}
      (hconnect : reply (.connect (c.address .state)) s (.error e) s₁)
      (ht : t = [⟨.connect (c.address .state), .error e⟩,
        complained (Failure.unprepared (.database .state) e).message])
      (hexit : exit = 1) : Attended reply c change dpus s t exit
  /-- Each DPU has its turn. -/
  | visited {visits : List Visit} {s₁ s₂ : σ}
      (hconnect : reply (.connect (c.address .state)) s (.ok ()) s₁)
      (hdpus : visits.map (·.dpu) = dpus) (hvisited : Visited reply c change s₁ visits s₂)
      (ht : t = ⟨.connect (c.address .state), .ok ()⟩ ::
        (visits.flatMap Visit.transcript ++ (summary visits).map complained))
      (htells : TellsOf visits t exit) : Attended reply c change dpus s t exit

/-- How the exit status of a change of logins and its transcript belong together. -/
structure LoginAgreement (reply : (q : Request) → σ → Answer q → σ → Prop) (c : Config)
    (p : Platform) (change : LoginChange) (arg : String) (s : σ)
    (t : List (Exchange Request Answer)) (exit : Nat) : Prop where
  /-- The exit status is 2 exactly if the argument selects no DPU. -/
  exit_eq_two_iff : exit = 2 ↔ ∃ e, p.selectDpus arg = .error e
  /-- Then the operator is told so, and nothing else is done. -/
  rejected : ∀ e, p.selectDpus arg = .error e → t = [complained (Failure.module e).message]
  /-- Otherwise the DPUs that are selected are attended to. -/
  selected : ∀ dpus, p.selectDpus arg = .ok dpus → Attended reply c change dpus s t exit

theorem isUsage_of_selectDpus {e : ChassisError} (h : p.selectDpus arg = .error e) :
    e.isUsage = true := by
  unfold Platform.selectDpus at h
  split at h
  · cases h
  · split at h
    · cases h
    · cases h
      rfl

/-- What is told of the end of a command. -/
def lastWords : Except Failure Unit → List (Exchange Request Answer)
  | .ok _ => []
  | .error f => [complained f.message]

theorem lastWords_endOf (visits : List Visit) :
    lastWords (endOf visits) = (summary visits).map complained := by
  unfold endOf summary
  split <;> rfl

theorem exitOf_endOf (visits : List Visit) :
    exitOf (endOf visits) = if 0 < visits.countP Visit.failed then 1 else 0 := by
  unfold endOf
  split <;> rfl

theorem tellsOf_of_visited {visits : List Visit} {address : Store.Address}
    (h : Visited reply c change s visits s') :
    TellsOf visits (⟨.connect address, .ok ()⟩ ::
      (visits.flatMap Visit.transcript ++ (summary visits).map complained))
      (exitOf (endOf visits)) := by
  obtain ⟨hprinted, hcomplaints⟩ := h.lines
  have hsummary : printed ((summary visits).map complained) = [] ∧
      complaints ((summary visits).map complained) = summary visits := by
    unfold summary
    split <;> exact ⟨rfl, rfl⟩
  have hfailed : 0 < visits.countP Visit.failed ↔ ∃ v ∈ visits, v.failed = true :=
    List.countP_pos_iff
  have hnone : (∀ v ∈ visits, v.failed = false) ↔ ¬0 < visits.countP Visit.failed := by
    rw [hfailed]
    simp
  constructor
  · change printed (_ ++ _) = _
    rw [printed_append, hprinted, hsummary.1, List.append_nil]
  · change complaints (_ ++ _) = _
    rw [complaints_append, hcomplaints, hsummary.2]
  · rw [hnone, exitOf_endOf]
    split <;> omega
  · rw [← hfailed, exitOf_endOf]
    split <;> omega

/-- A change of logins that goes one of the three ways keeps its exit status and its transcript
together. -/
theorem LoginsChanged.agreement {r : Except Failure Unit}
    (h : LoginsChanged reply c p change arg s t r s') :
    LoginAgreement reply c p change arg s (t ++ lastWords r) (exitOf r) := by
  -- Only an argument that selects nothing is the operator's fault, so 2 stays for that.
  have htwo : ∀ dpus, p.selectDpus arg = .ok dpus → exitOf r ≠ 2 →
      (exitOf r = 2 ↔ ∃ e, p.selectDpus arg = .error e) := fun dpus hselect hexit =>
    iff_of_false hexit fun ⟨_, he⟩ => nomatch hselect.symm.trans he
  cases h with
  | @rejected e hselect =>
    have hexit : exitOf (.error (.module e)) = 2 := if_pos (isUsage_of_selectDpus hselect)
    refine ⟨iff_of_true hexit ⟨e, hselect⟩, fun e' he' => ?_, fun dpus hdpus => ?_⟩
    · cases hselect.symm.trans he'
      rfl
    · cases hselect.symm.trans hdpus
  | @unconnected dpus e s' hselect hconnect =>
    refine ⟨htwo _ hselect (by decide : 1 ≠ 2), fun e' he' => ?_, fun dpus' _ => ?_⟩
    · cases hselect.symm.trans he'
    · exact .unconnected hconnect rfl rfl
  | @visited visits s₁ s' hselect hconnect hvisited =>
    have hexit : exitOf (endOf visits) ≠ 2 := by
      rw [exitOf_endOf]
      split <;> decide
    refine ⟨htwo _ hselect hexit, fun e' he' => ?_, fun dpus hdpus => ?_⟩
    · cases hselect.symm.trans he'
    · cases hselect.symm.trans hdpus
      rw [lastWords_endOf, List.cons_append]
      exact .visited hconnect rfl hvisited rfl (tellsOf_of_visited hvisited)

/-! ## The whole command -/

/-- The command that makes a change of logins. -/
def LoginChange.command (arg : String) : LoginChange → Command
  | enable => .enableLogin arg
  | disable => .disableLogin arg

/-- What a command that changes logins comes to. -/
inductive LoginAccount (reply : (q : Request) → σ → Answer q → σ → Prop) (i : Invocation)
    (change : LoginChange) (arg : String) (s : σ) (t : List (Exchange Request Answer))
    (exit : Nat) : Prop where
  /-- The configuration or the platform is not to be had: that is told, and nothing else done. -/
  | unprepared {t₀ : List (Exchange Request Answer)} {e : Failure} {s₁ : σ}
      (hprepare : i.prepare.Transcript reply s t₀ (.error e) s₁)
      (hbefore : ∀ x ∈ t₀, x.request.Prepares) (ht : t = t₀ ++ [complained e.message])
      (hexit : exit = 1) : LoginAccount reply i change arg s t exit
  /-- The exit status and the transcript belong together. -/
  | prepared {t₀ t₁ : List (Exchange Request Answer)} {c : Config} {p : Platform} {s₁ : σ}
      (hprepare : i.prepare.Transcript reply s t₀ (.ok (c, p)) s₁)
      (hbefore : ∀ x ∈ t₀, x.request.Prepares) (ht : t = t₀ ++ t₁)
      (hlines : printed t = printed t₁ ∧ complaints t = complaints t₁)
      (h : LoginAgreement reply c p change arg s₁ t₁ exit) :
      LoginAccount reply i change arg s t exit

theorem told_of_exitStatusOf {r : Except Failure Unit} {exit : Nat}
    (h : (exitStatusOf r).Transcript reply s t exit s') : exit = exitOf r ∧ t = lastWords r := by
  cases r with
  | ok a =>
    obtain ⟨rfl, rfl, -⟩ := Program.transcript_done_iff.1 h
    exact ⟨rfl, rfl⟩
  | error f =>
    cases h with
    | ask hr hk =>
      obtain ⟨rfl, rfl, -⟩ := Program.transcript_done_iff.1 hk
      exact ⟨rfl, rfl⟩

/-- Preparations write no line. -/
theorem lines_append_of_prepares {t₀ : List (Exchange Request Answer)}
    (h : ∀ x ∈ t₀, x.request.Prepares) (t₁ : List (Exchange Request Answer)) :
    printed (t₀ ++ t₁) = printed t₁ ∧ complaints (t₀ ++ t₁) = complaints t₁ := by
  have hsilent : ∀ q : Request, q.Prepares → q.complaint? = none := by
    intro q hq
    cases q with
    | file | environment | clock | connect => rfl
    | store | service | shell | execute | pause | print | complain => exact hq.elim
  have hprinted : printed t₀ = [] := printed_eq_nil fun x hx => (silent_of_prepares (h x hx)).1
  have hcomplaints : complaints t₀ = [] :=
    List.filterMap_eq_nil_iff.2 fun x hx => hsilent _ (h x hx)
  rw [printed_append, complaints_append, hprinted, hcomplaints]
  exact ⟨rfl, rfl⟩

theorem run_command (c : Config) (p : Platform) (change : LoginChange) (arg : String) :
    (change.command arg).run c p = changeLogin c p change arg := by
  cases change with
  | enable => rfl
  | disable => rfl

/-- A command that could be prepared runs from there, and its end is told. -/
theorem run_main_of_prepare {handle : (q : Request) → σ → Answer q × σ} {i : Invocation}
    (h : i.prepare.runWith handle s = (.ok (c, p), s')) :
    i.main.run handle s = (Program.bind (i.command.run c p).run exitStatusOf).run handle s' := by
  have hrun := Attempt.runWith_bind_ok h fun x => i.command.run x.1 x.2
  rw [← Invocation.run_eq] at hrun
  rw [Invocation.main, Program.run_bind, Program.run_bind]
  exact congrArg (fun r => (exitStatusOf r.1).run handle r.2) hrun

theorem loginAccount_of_transcript {configPath : Option String} {verbose : Bool} {exit : Nat}
    (h : (Invocation.main ⟨configPath, verbose, change.command arg⟩).Transcript reply s t exit s') :
    LoginAccount reply ⟨configPath, verbose, change.command arg⟩ change arg s t exit := by
  obtain ⟨r, t₁, s₁, t₂, hrun, hexit, rfl⟩ := Program.transcript_bind_iff.1 h
  obtain ⟨rfl, rfl⟩ := told_of_exitStatusOf hexit
  rw [Invocation.run_eq] at hrun
  rcases Attempt.transcript_bind_iff.1 hrun with
    ⟨e, hprepare, rfl⟩ | ⟨⟨c, p⟩, t₀, s₀, t₃, hprepare, hchange, rfl⟩
  · exact .unprepared hprepare (hprepare.request_of_asks (asks_prepare _)) rfl
      (hprepare.value_of_yields (raises_prepare _) e rfl)
  · change ((change.command arg).run c p).Transcript reply _ _ _ _ at hchange
    rw [run_command] at hchange
    have hbefore := hprepare.request_of_asks (asks_prepare _)
    rw [List.append_assoc]
    exact .prepared hprepare hbefore rfl (lines_append_of_prepares hbefore _)
      (loginsChanged_of_transcript hchange).agreement

/-- Whatever answers the requests of a command that enables or disables logins, its exit status and
the lines it writes tell of every DPU that was selected. -/
theorem loginAccount_of_run (handle : (q : Request) → σ → Answer q × σ) (s : σ)
    (configPath : Option String) (verbose : Bool) (change : LoginChange) (arg : String) :
    let i : Invocation := ⟨configPath, verbose, change.command arg⟩
    ∃ t, i.main.Transcript (Program.handled handle) s t (i.main.run handle s).1
        (i.main.run handle s).2 ∧
      LoginAccount (Program.handled handle) i change arg s t (i.main.run handle s).1 := by
  intro i
  obtain ⟨t, ht⟩ := Program.exists_transcript_run handle i.main s
  exact ⟨t, ht, loginAccount_of_transcript ht⟩

/-- The platform that `twoUnits` describes. -/
def twoUnitsDescription : String :=
  "\x7b\x22DPUS\x22: \x7b\x22dpu0\x22: null, \x22dpu1\x22: null\x7d\x7d"

/-- The files of a machine that may log in to its DPUs. -/
def twoUnitsFile (path : String) : Except FileError String :=
  if path = "/usr/share/sonic/device/two/platform.json" then .ok twoUnitsDescription
  else if path = (Config.usualRemote none).passwordFile then .ok "admin\nsecret\n"
  else if path = (Config.usualRemote none).publicKeyFile then .ok "ssh-rsa AAAA\n"
  else .error .notFound

/-- STATE_DB with the addresses of two DPUs. -/
def twoUnitsState : Memory :=
  (Memory.empty.put Remote.midplaneTable "DPU0" (some [(Remote.addressField, "10.0.0.1")])).put
    Remote.midplaneTable "DPU1" (some [(Remote.addressField, "10.0.0.2")])

/-- A machine with two DPUs, of which the first does not answer. -/
def twoUnits : (q : Request) → Answer q
  | .environment name => if name = platformName then some (Text.Utf8.encode "two") else none
  | .file (.read path) => (twoUnitsFile path).map Text.Utf8.encode
  | .file (.isPresent path) => .ok (twoUnitsFile path).toOption.isSome
  | .file (.append ..) | .file (.replace ..) | .file (.remove _) => .ok ()
  | .clock => Time.DateTime.ofUnix 0
  | .connect _ => .ok ()
  | .store _ c => (Memory.answer c twoUnitsState).1
  | .service c => Service.answerOf c (.ok ⟨0, "", ""⟩)
  | .shell _ => .ok ⟨0, "", ""⟩
  | .execute target .. =>
      if target.host = "10.0.0.1" then .error (.ssh target.host "Connection refused")
      else .ok ⟨0, "", ""⟩
  | .pause _ | .print _ | .complain _ => ()

/-- What a command reads there before it is carried out. -/
def twoUnitsPrepared : List (Exchange Request Answer) :=
  [⟨.environment homeName, none⟩, ⟨.file (.read Config.usualPath), .error .notFound⟩,
    ⟨.environment platformName, some (Text.Utf8.encode "two")⟩,
    ⟨.file (.read "/usr/share/sonic/device/two/platform.json"),
      .ok (Text.Utf8.encode twoUnitsDescription)⟩,
    ⟨.file (.read "/usr/share/sonic/device/two/chassisdb.conf"), .error .notFound⟩]

theorem exists_described_twoUnits : ∃ v, Json.parse twoUnitsDescription = some v ∧
    (Platform.described (some "two") v).dpus = ["DPU0", "DPU1"] := by
  obtain ⟨v, hv, hmembers⟩ : ∃ v, Json.parse twoUnitsDescription = some v ∧
      (((v.member? "DPUS").bind (·.members?)).getD []).map (·.1) = ["dpu0", "dpu1"] :=
    Option.map_eq_some_iff.1 (by decide +kernel)
  have hnames : (Keyed.ofList (["dpu0", "dpu1"].map fun s => (s, ()))).keys.map Text.upperCase =
      ["DPU0", "DPU1"] := by decide +kernel
  refine ⟨v, hv, ?_⟩
  rw [Platform.dpus_described, hmembers, Platform.orderedNames, hnames]
  exact List.mergeSort_of_pairwise (by decide)

theorem runWith_detect_twoUnits {v : Json.Value} (hv : Json.parse twoUnitsDescription = some v) :
    (Platform.detect (Config.usual none).platform (some (Text.Utf8.encode "two"))).runWith
        (fun call => Program.recorded twoUnits (.file call)) (twoUnitsPrepared.take 3) =
      (.ok (Platform.described (some "two") v), twoUnitsPrepared) := by
  have hname : Platform.nameInEnvironment (some (Text.Utf8.encode "two")) = some "two" := by
    decide +kernel
  have hfound : Platform.detectName (Config.usual none).platform
      (some (Text.Utf8.encode "two")) = pure (some "two") := by
    unfold Platform.detectName
    rw [hname]
    rfl
  have hfile : Program.recorded twoUnits (.file (.read "/usr/share/sonic/device/two/platform.json"))
      (twoUnitsPrepared.take 3) =
        (.ok (Text.Utf8.encode twoUnitsDescription), twoUnitsPrepared.take 4) := rfl
  have hmissing : (Platform.readOptional "/usr/share/sonic/device/two/chassisdb.conf").runWith
      (fun call => Program.recorded twoUnits (.file call)) (twoUnitsPrepared.take 4) =
        (.ok none, twoUnitsPrepared) := rfl
  have hread : (Platform.readOptional "/usr/share/sonic/device/two/platform.json").runWith
      (fun call => Program.recorded twoUnits (.file call)) (twoUnitsPrepared.take 3) =
        (.ok (some twoUnitsDescription), twoUnitsPrepared.take 4) :=
    Platform.runWith_readOptional hfile
  rw [Platform.detect, hfound, pure_bind]
  refine (Attempt.runWith_bind_ok hread _).trans ?_
  simp only [hv, pure_bind]
  exact Attempt.runWith_bind_ok hmissing _

theorem runWith_prepare_twoUnits (command : Command) : ∃ p : Platform,
    p.dpus = ["DPU0", "DPU1"] ∧
      (Invocation.prepare ⟨none, false, command⟩).runWith (Program.recorded twoUnits) [] =
        (.ok (Config.usual none, p), twoUnitsPrepared) := by
  obtain ⟨v, hv, hdpus⟩ := exists_described_twoUnits
  have hload : (loadConfig Config.usualPath).runWith (Program.recorded twoUnits) [] =
      (.ok (Config.usual none), twoUnitsPrepared.take 2) := rfl
  have henvironment : (get (.environment platformName)).runWith (Program.recorded twoUnits)
      (twoUnitsPrepared.take 2) =
        (.ok (some (Text.Utf8.encode "two")), twoUnitsPrepared.take 3) := rfl
  have hdetect : (detectPlatform (Config.usual none)).runWith (Program.recorded twoUnits)
      (twoUnitsPrepared.take 2) = (.ok (Platform.described (some "two") v), twoUnitsPrepared) := by
    refine (Attempt.runWith_bind_ok henvironment _).trans ?_
    rw [runWith_onFiles, runWith_detect_twoUnits hv]
    rfl
  exact ⟨_, hdpus, (Attempt.runWith_bind_ok hload _).trans (Attempt.runWith_bind_ok hdetect _)⟩

/-- Logins are to be enabled on all DPUs. -/
def enableAll : Invocation := ⟨none, false, LoginChange.enable.command "all"⟩

theorem run_enableAll :
    let r := enableAll.main.run (Program.recorded twoUnits) []
    r.1 = 1 ∧ printed r.2 = ["SSH key successfully copied to DPU1 (10.0.0.2) using admin."] ∧
      complaints r.2 =
        ["DPU0: All authentication attempts failed for 10.0.0.1", "Error: 1 of 2 DPUs failed"] := by
  obtain ⟨p, hdpus, hprepare⟩ := runWith_prepare_twoUnits enableAll.command
  have hselect : p.selectDpus "all" = .ok ["DPU0", "DPU1"] := by
    rw [← hdpus]
    exact if_pos (by decide)
  rw [run_main_of_prepare (i := enableAll) hprepare, enableAll, run_command,
    changeLogin_of_ok hselect]
  decide +kernel

/-- The first DPU does not answer, and the second has its turn all the same. -/
theorem loginAccount_of_run_twoUnits : ∃ t,
    LoginAccount (Program.handled (Program.recorded twoUnits)) enableAll .enable "all" [] t 1 ∧
      printed t = ["SSH key successfully copied to DPU1 (10.0.0.2) using admin."] ∧
      complaints t =
        ["DPU0: All authentication attempts failed for 10.0.0.1", "Error: 1 of 2 DPUs failed"] := by
  obtain ⟨hexit, hprinted, hcomplaints⟩ := run_enableAll
  obtain ⟨t, ht, haccount⟩ :=
    loginAccount_of_run (Program.recorded twoUnits) [] none false .enable "all"
  have hpassed : (enableAll.main.run (Program.recorded twoUnits) []).2 = t :=
    ht.eq_append_of_recorded
  exact ⟨t, hexit ▸ haccount, hpassed ▸ hprinted, hpassed ▸ hcomplaints⟩

end ChassisAdmin.CommandLine
