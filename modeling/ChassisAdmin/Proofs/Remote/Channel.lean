import ChassisAdmin.Proofs.Transcript
import ChassisAdmin.Remote.Session
import Mathlib.Data.List.Induction

/-!
# What a channel carries

The messages of a channel come one at a time, in pieces that the other side
chooses.  `Collected.foldl_add` says that what is collected of them in the end is
the bytes of each stream put together and the last exit status, and `resultOf_eq`
what result that makes.

So a session ends with a result that depends on nothing else
(`result_of_streams`): not on where the pieces were cut, even inside a character,
and not on how the two streams were mixed or on what else came.  It is a success
only if the last exit status was zero.
-/

namespace ChassisAdmin.Remote

/-! ## One message after the other -/

/-- The bytes of the standard output in a message. -/
def Message.output : Message → List UInt8
  | data bytes => bytes
  | _ => []

/-- The bytes of the standard error output in a message. -/
def Message.errorOutput : Message → List UInt8
  | extended stream bytes => if stream = errorStream then bytes else []
  | _ => []

/-- The exit status in a message. -/
def Message.status : Message → Option Nat
  | exitStatus status => some status
  | _ => none

namespace Collected

/-- What messages hold all together. -/
def ofMessages (messages : List Message) : Collected :=
  ⟨messages.flatMap Message.output, messages.flatMap Message.errorOutput,
    (messages.filterMap Message.status).getLast?⟩

theorem ofMessages_concat (messages : List Message) (m : Message) :
    ofMessages (messages ++ [m]) = (ofMessages messages).add m := by
  cases m with
  | data bytes => simp [ofMessages, add, Message.output, Message.errorOutput, Message.status]
  | extended stream bytes =>
    by_cases h : stream = errorStream <;>
      simp [ofMessages, add, Message.output, Message.errorOutput, Message.status, h]
  | exitStatus status =>
    simp [ofMessages, add, Message.output, Message.errorOutput, Message.status]
  | other => simp [ofMessages, add, Message.output, Message.errorOutput, Message.status]

theorem foldl_add (messages : List Message) :
    messages.foldl add nothing = ofMessages messages := by
  induction messages using List.reverseRecOn with
  | nil => rfl
  | append_singleton messages m ih =>
    rw [List.foldl_append, ih, ofMessages_concat, List.foldl_cons, List.foldl_nil]

end Collected

/-- The result is made of the bytes of each stream put together, and of the last exit status. -/
theorem resultOf_eq (messages : List Message) : resultOf messages =
    .ofBytes (exitCodeOf (messages.filterMap Message.status).getLast?)
      (messages.flatMap Message.output) (messages.flatMap Message.errorOutput) := by
  rw [resultOf, Collected.foldl_add]
  rfl

/-! ## What the result depends on -/

/-- Messages hold the same bytes of both outputs, and the same exit status last or none. -/
structure SameStreams (messages messages' : List Message) : Prop where
  output : messages.flatMap Message.output = messages'.flatMap Message.output
  errors : messages.flatMap Message.errorOutput = messages'.flatMap Message.errorOutput
  status : (messages.filterMap Message.status).getLast? =
    (messages'.filterMap Message.status).getLast?

variable {messages messages' : List Message}

theorem resultOf_eq_of_same (h : SameStreams messages messages') :
    resultOf messages = resultOf messages' := by
  rw [resultOf_eq, h.output, h.errors, h.status, resultOf_eq]

theorem exitCodeOf_eq_zero_iff {status : Option Nat} : exitCodeOf status = 0 ↔ status = some 0 := by
  cases status with
  | none => simp [exitCodeOf]
  | some status =>
    simp only [exitCodeOf, maxExitCode, Option.some.injEq]
    omega

theorem success_resultOf_iff :
    (resultOf messages).success ↔ (messages.filterMap Message.status).getLast? = some 0 := by
  rw [← exitCodeOf_eq_zero_iff, resultOf_eq, Shell.Result.success, beq_iff_eq]
  rfl

/-! ## Sessions -/

/-- A session up to the open channel. -/
def openChannel (target : Target) (credential : Credential) : Session Unit := do
  login target credential
  Attempt.request .openChannel fun r => r.mapError (Error.ssh target.host)

/-- The rest of a session. -/
def runToEnd (host command : String) : Session Shell.Result := do
  let messages ← Attempt.request (.run command) fun r => r.mapError (Error.ssh host)
  Attempt.request .disconnect fun _ => .ok ()
  return resultOf messages

theorem execute_eq (target : Target) (credential : Credential) (command : String) :
    execute target credential command =
      openChannel target credential >>= fun _ => runToEnd target.host command := by
  rw [openChannel, bind_assoc]
  rfl

variable {σ τ : Type} {reply : (c : Call) → σ → c.Answer → σ → Prop}
  {reply' : (c : Call) → τ → c.Answer → τ → Prop} {s s' : σ}
  {ex : List (Exchange Call Call.Answer)} {target : Target} {credential : Credential}
  {host command : String} {result : Except Error Shell.Result}

/-- The channel of a command carried these messages to its end. -/
def Carried (ex : List (Exchange Call Call.Answer)) (command : String)
    (messages : List Message) : Prop :=
  ⟨.run command, .ok messages⟩ ∈ ex

theorem asks_openChannel :
    (openChannel target credential).Asks fun c => ∀ command, c ≠ .run command := by
  refine Attempt.asks_bind (Attempt.asks_bind ?_ fun _ => Attempt.asks_bind ?_ ?_) fun _ => ?_
  · exact Attempt.asks_request (fun _ => Call.noConfusion) _
  · exact Attempt.asks_request (fun _ => Call.noConfusion) _
  · rintro (_ | _)
    · exact Attempt.asks_throw _
    · exact Attempt.asks_pure _
  · exact Attempt.asks_request (fun _ => Call.noConfusion) _

/-- Nothing runs before the channel is open. -/
theorem not_carried_of_openChannel {r : Except Error Unit}
    (h : (openChannel target credential).Transcript reply s ex r s') (messages : List Message) :
    ¬Carried ex command messages :=
  fun hmem => Program.Transcript.request_of_asks h asks_openChannel _ hmem command rfl

theorem transcript_runToEnd (h : (runToEnd host command).Transcript reply s ex result s') :
    (∃ messages farewell, result = .ok (resultOf messages) ∧
        ex = [⟨.run command, .ok messages⟩, ⟨.disconnect, farewell⟩]) ∨
      ∃ cause, result = .error (.ssh host cause) ∧ ex = [⟨.run command, .error cause⟩] := by
  obtain ⟨e, hrun, rfl⟩ | ⟨messages, ex₁, s₁, ex₂, hrun, hend, rfl⟩ :=
    Attempt.transcript_bind_iff.1 h
  · obtain ⟨answer | messages, -, ⟨⟩, rfl⟩ := Attempt.transcript_request_iff.1 hrun
    exact .inr ⟨answer, rfl, rfl⟩
  · obtain ⟨answer | messages, -, ⟨⟩, rfl⟩ := Attempt.transcript_request_iff.1 hrun
    obtain ⟨e, hlast, -⟩ | ⟨_, ex₃, s₃, ex₄, hlast, hdone, rfl⟩ :=
      Attempt.transcript_bind_iff.1 hend
    · obtain ⟨_, -, ⟨⟩, -⟩ := Attempt.transcript_request_iff.1 hlast
    · obtain ⟨farewell, -, -, rfl⟩ := Attempt.transcript_request_iff.1 hlast
      obtain ⟨rfl, rfl, -⟩ := Attempt.transcript_pure_iff.1 hdone
      exact .inl ⟨messages, farewell, rfl, rfl⟩

/-- A session ends with the result that the messages on its channel make, or with an error and no
messages. -/
theorem carried_or_error (h : (execute target credential command).Transcript reply s ex result s') :
    (∃ messages, result = .ok (resultOf messages) ∧
        ∀ messages', Carried ex command messages' ↔ messages' = messages) ∨
      ((∃ e, result = .error e) ∧ ∀ messages, ¬Carried ex command messages) := by
  rw [execute_eq] at h
  obtain ⟨e, hopen, rfl⟩ | ⟨_, ex₁, s₁, ex₂, hopen, hrun, rfl⟩ := Attempt.transcript_bind_iff.1 h
  · exact .inr ⟨⟨e, rfl⟩, not_carried_of_openChannel hopen⟩
  · have hbefore (messages : List Message) : ¬Carried ex₁ command messages :=
      not_carried_of_openChannel hopen messages
    obtain ⟨messages, farewell, rfl, rfl⟩ | ⟨cause, rfl, rfl⟩ := transcript_runToEnd hrun
    · refine .inl ⟨messages, rfl, fun messages' => ?_⟩
      simpa [Carried] using fun h' => absurd h' (hbefore messages')
    · exact .inr ⟨⟨_, rfl⟩, by simpa [Carried] using hbefore⟩

theorem eq_of_carried (h : (execute target credential command).Transcript reply s ex result s')
    (hcarried : Carried ex command messages) : result = .ok (resultOf messages) := by
  obtain ⟨messages', rfl, hiff⟩ | ⟨-, hnone⟩ := carried_or_error h
  · rw [(hiff messages).1 hcarried]
  · exact absurd hcarried (hnone messages)

theorem exists_carried {r : Shell.Result}
    (h : (execute target credential command).Transcript reply s ex (.ok r) s') :
    ∃ messages, Carried ex command messages := by
  obtain ⟨messages, -, hiff⟩ | ⟨⟨e, ⟨⟩⟩, -⟩ := carried_or_error h
  exact ⟨messages, (hiff messages).2 rfl⟩

/-- A session on whose channel messages came ends with the result of taking them in one after the
other: each stream put together, and a success exactly if the last exit status is zero.  Sessions
end alike if their messages hold the same streams and the same exit status last.  No result comes
without messages. -/
theorem result_of_streams (reply : (c : Call) → σ → c.Answer → σ → Prop)
    (reply' : (c : Call) → τ → c.Answer → τ → Prop) :
    ∀ target credential command s ex result s',
      (execute target credential command).Transcript reply s ex result s' →
      (∀ messages, Carried ex command messages →
        ∃ r, result = .ok r ∧ r = (messages.foldl Collected.add .nothing).result ∧
          r = .ofBytes (exitCodeOf (messages.filterMap Message.status).getLast?)
            (messages.flatMap Message.output) (messages.flatMap Message.errorOutput) ∧
          (r.success ↔ (messages.filterMap Message.status).getLast? = some 0)) ∧
      (∀ messages target' credential' command' u ex' result' u' messages',
        (execute target' credential' command').Transcript reply' u ex' result' u' →
        Carried ex command messages → Carried ex' command' messages' →
        SameStreams messages messages' → result = result') ∧
      ((∃ r, result = .ok r) → ∃ messages, Carried ex command messages) := by
  intro target credential command s ex result s' h
  refine ⟨?_, ?_, ?_⟩
  · intro messages hcarried
    exact ⟨resultOf messages, eq_of_carried h hcarried, rfl, resultOf_eq messages,
      success_resultOf_iff⟩
  · intro messages target' credential' command' u ex' result' u' messages' h' hc hc' hsame
    rw [eq_of_carried h hc, eq_of_carried h' hc', resultOf_eq_of_same hsame]
  · rintro ⟨r, rfl⟩
    exact exists_carried h

/-! ## A character cut in two -/

/-- A server that knows everyone and sends these messages back. -/
def serving (messages : List Message) : (c : Call) → Unit → c.Answer × Unit
  | .connect _, s | .openChannel, s | .disconnect, s => (.ok (), s)
  | .authenticate _, s => (.ok true, s)
  | .run _, s => (.ok messages, s)

theorem exists_carried_serving (target : Target) (credential : Credential) (command : String)
    (messages : List Message) :
    ∃ ex result, (execute target credential command).Transcript
        (Program.handled (serving messages)) () ex result () ∧ Carried ex command messages :=
  ⟨[⟨.connect target, .ok ()⟩, ⟨.authenticate credential, .ok true⟩, ⟨.openChannel, .ok ()⟩,
      ⟨.run command, .ok messages⟩, ⟨.disconnect, .ok ()⟩], .ok (resultOf messages),
    .ask rfl (.ask rfl (.ask rfl (.ask rfl (.ask rfl (.done _ _))))), by simp [Carried]⟩

/-- The bytes of a character in two messages with an error between them, an exit status that does
not stay the last, bytes of a third stream, and more output after the last exit status. -/
def inPieces : List Message :=
  [.data [0xC3], .extended 1 [0x65], .exitStatus 4294967295, .data [0xA9], .extended 2 [0x7A],
    .exitStatus 0, .other, .data [0x21]]

/-- The same streams in a message each, after the exit status. -/
def atOnce : List Message := [.exitStatus 0, .data [0xC3, 0xA9, 0x21], .extended 1 [0x65]]

theorem result_of_streams_inPieces :
    ∃ ex ex' result, (execute ⟨"169.254.200.1", 22, 0⟩ ⟨"admin", "pw"⟩ "uptime").Transcript
        (Program.handled (serving inPieces)) () ex result () ∧ Carried ex "uptime" inPieces ∧
      (execute ⟨"169.254.200.1", 22, 0⟩ ⟨"admin", "pw"⟩ "uptime").Transcript
        (Program.handled (serving atOnce)) () ex' result () ∧ Carried ex' "uptime" atOnce ∧
      SameStreams inPieces atOnce ∧ ∃ r, result = .ok r ∧ r.success := by
  obtain ⟨ex, result, h, hcarried⟩ :=
    exists_carried_serving ⟨"169.254.200.1", 22, 0⟩ ⟨"admin", "pw"⟩ "uptime" inPieces
  obtain ⟨ex', result', h', hcarried'⟩ :=
    exists_carried_serving ⟨"169.254.200.1", 22, 0⟩ ⟨"admin", "pw"⟩ "uptime" atOnce
  have hsame : SameStreams inPieces atOnce := ⟨rfl, rfl, rfl⟩
  obtain ⟨hresult, halike, -⟩ := result_of_streams _ (Program.handled (serving atOnce))
    _ _ _ _ _ _ _ h
  obtain ⟨r, hr, -, -, hsuccess⟩ := hresult _ hcarried
  cases halike _ _ _ _ _ _ _ _ _ h' hcarried hcarried' hsame
  exact ⟨ex, ex', result, h, hcarried, h', hcarried', hsame, r, hr, hsuccess.2 rfl⟩

end ChassisAdmin.Remote
