import ChassisAdmin.Proofs.Program

/-!
# Transcripts

A transcript is all that passes between a program and its surroundings: the
requests in order, each with its answer.  What the surroundings may answer, and
what becomes of them, is a relation `reply`, so a program has many transcripts.
They are taken apart along the program (`Attempt.transcript_bind_iff` and its
companions).

Some programs are prompt.  Such a program ends with an error right after the
first exchange that counts as a failure, and it ends with no error otherwise.
`ok_or_error_of_prompt` says what that means for its transcripts: either it ends
with a value and no exchange failed, or the last exchange failed and no other.
-/

namespace ChassisAdmin

variable {Op Op' : Type} {Ans : Op → Type} {Ans' : Op' → Type} {ε ε' α β σ τ : Type}

/-- A request with its answer. -/
structure Exchange (Op : Type) (Ans : Op → Type) where
  request : Op
  answer : Ans request

/-- An exchange as one of other surroundings. -/
def Exchange.lift (f : Op' → Op) (x : Exchange Op' fun op => Ans (f op)) : Exchange Op Ans :=
  ⟨f x.request, x.answer⟩

namespace Program

/-- A program can end with a value after these exchanges, where `reply` says which answers a
request can get in a state and which state they leave. -/
inductive Transcript (reply : (op : Op) → σ → Ans op → σ → Prop) :
    Program Op Ans α → σ → List (Exchange Op Ans) → α → σ → Prop where
  | done (a : α) (s : σ) : Transcript reply (.done a) s [] a s
  | ask {op : Op} {k : Ans op → Program Op Ans α} {s s₁ s₂ : σ} {r : Ans op}
      {t : List (Exchange Op Ans)} {a : α} (hr : reply op s r s₁)
      (hk : Transcript reply (k r) s₁ t a s₂) :
      Transcript reply (.ask op k) s (⟨op, r⟩ :: t) a s₂

variable {reply : (op : Op) → σ → Ans op → σ → Prop} {s s' : σ} {t : List (Exchange Op Ans)}

theorem transcript_done_iff {a b : α} :
    Transcript reply (.done a : Program Op Ans α) s t b s' ↔ b = a ∧ t = [] ∧ s' = s := by
  constructor
  · intro h
    cases h
    exact ⟨rfl, rfl, rfl⟩
  · rintro ⟨rfl, rfl, rfl⟩
    exact .done _ _

theorem transcript_bind_iff {p : Program Op Ans α} {f : α → Program Op Ans β} {b : β} :
    Transcript reply (p.bind f) s t b s' ↔
      ∃ a t₁ s₁ t₂, Transcript reply p s t₁ a s₁ ∧ Transcript reply (f a) s₁ t₂ b s' ∧
        t = t₁ ++ t₂ := by
  constructor
  · intro h
    induction p generalizing s t with
    | done a => exact ⟨a, [], s, t, .done a s, h, rfl⟩
    | ask op k ih =>
      cases h with
      | ask hr hk =>
        obtain ⟨a, t₁, s₁, t₂, hp, hf, rfl⟩ := ih _ hk
        exact ⟨a, _, s₁, t₂, .ask hr hp, hf, rfl⟩
  · rintro ⟨a, t₁, s₁, t₂, hp, hf, rfl⟩
    induction hp with
    | done a s => exact hf
    | ask hr _ ih => exact .ask hr (ih hf)

/-- A program whose requests are passed on has the transcripts of the program. -/
theorem exists_transcript_of_interpret {f : Op' → Op} {p : Program Op' (fun op => Ans (f op)) α}
    {a : α} (h : Transcript reply (p.interpret fun op => .request (f op)) s t a s') :
    ∃ t₀, Transcript (fun op => reply (f op)) p s t₀ a s' ∧ t = t₀.map (Exchange.lift f) := by
  induction p generalizing s t with
  | done b =>
    obtain ⟨rfl, rfl, rfl⟩ := transcript_done_iff.1 h
    exact ⟨[], .done _ _, rfl⟩
  | ask op k ih =>
    cases h with
    | ask hr hk =>
      obtain ⟨t₀, ht, rfl⟩ := ih _ hk
      exact ⟨_, .ask hr ht, rfl⟩

/-- Surroundings that allow more, seen through a part of their state, have every transcript. -/
theorem Transcript.mono {reply' : (op : Op) → τ → Ans op → τ → Prop} (view : σ → τ)
    (hreply : ∀ op s r s', reply op s r s' → reply' op (view s) r (view s'))
    {p : Program Op Ans α} {a : α} (h : Transcript reply p s t a s') :
    Transcript reply' p (view s) t a (view s') := by
  induction h with
  | done a s => exact .done a _
  | ask hr _ ih => exact .ask (hreply _ _ _ _ hr) ih

/-- The requests of a transcript are requests of the program. -/
theorem Transcript.request_of_asks {P : Op → Prop} {p : Program Op Ans α} {a : α}
    (h : Transcript reply p s t a s') (hp : p.Asks P) : ∀ x ∈ t, P x.request := by
  induction h with
  | done a s => exact fun _ hx => nomatch hx
  | @ask _ _ _ _ _ r _ _ _ _ ih =>
    intro x hx
    rcases List.mem_cons.1 hx with rfl | hx
    · exact hp.1
    · exact ih (hp.2 r) x hx

/-- The value of a transcript is one that the program can end with. -/
theorem Transcript.value_of_yields {P : α → Prop} {p : Program Op Ans α} {a : α}
    (h : Transcript reply p s t a s') (hp : p.Yields P) : P a := by
  induction h with
  | done a s => exact hp
  | ask _ _ ih => exact ih (hp _)

/-- What every exchange of a transcript keeps, the whole transcript keeps. -/
theorem Transcript.invariant {P : σ → Prop} {p : Program Op Ans α} {a : α}
    (h : Transcript reply p s t a s')
    (hkeep : ∀ x ∈ t, ∀ s s', reply x.request s x.answer s' → P s → P s') (hs : P s) : P s' := by
  induction h with
  | done a s => exact hs
  | ask hr _ ih =>
    exact ih (fun x hx => hkeep x (List.mem_cons_of_mem _ hx))
      (hkeep _ List.mem_cons_self _ _ hr hs)

/-- Every answer of a transcript is a reply to its request. -/
theorem Transcript.exists_reply {p : Program Op Ans α} {a : α} (h : Transcript reply p s t a s') :
    ∀ x ∈ t, ∃ s s', reply x.request s x.answer s' := by
  induction h with
  | done a s => exact fun _ hx => nomatch hx
  | ask hr _ ih => exact List.forall_mem_cons.2 ⟨⟨_, _, hr⟩, ih⟩

/-- A program whose requests are answered alike in all states ends with one value. -/
theorem Transcript.value_eq_of_alike {P : Op → Prop} (halike : ∀ op, P op → ∀ s r s' u r' u',
      reply op s r s' → reply op u r' u' → r = r')
    {p : Program Op Ans α} (hp : p.Asks P) {a b : α} {u u' : σ} {t' : List (Exchange Op Ans)}
    (h : Transcript reply p s t a s') (h' : Transcript reply p u t' b u') : a = b := by
  induction h generalizing u t' with
  | done a s =>
    cases h'
    rfl
  | ask hr _ ih =>
    cases h' with
    | ask hr' hk' =>
      obtain rfl := halike _ hp.1 _ _ _ _ _ _ hr hr'
      exact ih (hp.2 _) hk'

/-! ## Surroundings with a handler -/

/-- The only reply of a handler. -/
def handled (handle : (op : Op) → σ → Ans op × σ) (op : Op) (s : σ) (r : Ans op) (s' : σ) : Prop :=
  handle op s = (r, s')

theorem exists_transcript_run (handle : (op : Op) → σ → Ans op × σ) (p : Program Op Ans α) (s : σ) :
    ∃ t, Transcript (handled handle) p s t (p.run handle s).1 (p.run handle s).2 := by
  induction p generalizing s with
  | done a => exact ⟨[], .done a s⟩
  | ask op k ih =>
    obtain ⟨t, ht⟩ := ih (handle op s).1 (handle op s).2
    exact ⟨_, .ask rfl ht⟩

/-- Answers each request alike in every state, and keeps what has passed. -/
def recorded (answer : (op : Op) → Ans op) (op : Op) (passed : List (Exchange Op Ans)) :
    Ans op × List (Exchange Op Ans) :=
  (answer op, passed ++ [⟨op, answer op⟩])

theorem Transcript.eq_append_of_recorded {answer : (op : Op) → Ans op} {p : Program Op Ans α}
    {a : α} {passed passed' : List (Exchange Op Ans)}
    (h : Transcript (handled (recorded answer)) p passed t a passed') : passed' = passed ++ t := by
  induction h with
  | done a s => exact (List.append_nil s).symm
  | ask hr _ ih =>
    cases hr
    rw [ih, List.append_assoc]
    rfl

/-! ## Prompt programs -/

/-- A program that ends with an error right after the first exchange that fails, and with a value
if none fails. -/
def Prompt (Fails : Exchange Op Ans → Prop) : Program Op Ans (Except ε α) → Prop
  | done r => ∃ a, r = .ok a
  | ask op k =>
      ∀ r, (Fails ⟨op, r⟩ ∧ ∃ e, k r = done (.error e)) ∨ (¬Fails ⟨op, r⟩ ∧ (k r).Prompt Fails)

variable {Fails : Exchange Op Ans → Prop}

/-- A prompt program ends with a value and no exchange failed, or its last exchange failed and no
other. -/
theorem ok_or_error_of_prompt {p : Program Op Ans (Except ε α)} (hp : p.Prompt Fails)
    {r : Except ε α} (h : Transcript reply p s t r s') :
    ((∃ a, r = .ok a) ∧ ∀ x ∈ t, ¬Fails x) ∨
      ((∃ e, r = .error e) ∧ ∃ t₁ x, t = t₁ ++ [x] ∧ Fails x ∧ ∀ y ∈ t₁, ¬Fails y) := by
  induction p generalizing s t with
  | done r₁ =>
    obtain ⟨rfl, rfl, rfl⟩ := transcript_done_iff.1 h
    exact .inl ⟨hp, fun _ hx => nomatch hx⟩
  | ask op k ih =>
    cases h with
    | @ask _ _ _ s₁ _ r₁ t₁ _ _ hk =>
      rcases hp r₁ with ⟨hx, e, he⟩ | ⟨hx, hp'⟩
      · rw [he] at hk
        obtain ⟨rfl, rfl, rfl⟩ := transcript_done_iff.1 hk
        exact .inr ⟨⟨e, rfl⟩, [], _, rfl, hx, fun _ hy => nomatch hy⟩
      · have hcons : ∀ {l : List (Exchange Op Ans)}, (∀ y ∈ l, ¬Fails y) →
            ∀ y ∈ ⟨op, r₁⟩ :: l, ¬Fails y := fun hl =>
          List.forall_mem_cons.2 ⟨hx, hl⟩
        rcases ih r₁ hp' hk with ⟨hr, hnone⟩ | ⟨hr, t₂, x, rfl, hfail, hnone⟩
        · exact .inl ⟨hr, hcons hnone⟩
        · exact .inr ⟨hr, _ :: t₂, x, rfl, hfail, hcons hnone⟩

theorem prompt_bind {p : Program Op Ans (Except ε α)}
    {f : Except ε α → Program Op Ans (Except ε' β)} (hp : p.Prompt Fails)
    (hok : ∀ a, (f (.ok a)).Prompt Fails) (herror : ∀ e, ∃ e', f (.error e) = done (.error e')) :
    (p.bind f).Prompt Fails := by
  induction p with
  | done r =>
    obtain ⟨a, rfl⟩ := hp
    exact hok a
  | ask op k ih =>
    intro r
    rcases hp r with ⟨hx, e, he⟩ | ⟨hx, hp'⟩
    · obtain ⟨e', he'⟩ := herror e
      exact .inl ⟨hx, e', (congrArg (·.bind f) he).trans he'⟩
    · exact .inr ⟨hx, ih r hp'⟩

theorem prompt_interpret {f : Op' → Op}
    {p : Program Op' (fun op => Ans (f op)) (Except ε α)}
    (hp : p.Prompt fun x => Fails (x.lift f)) :
    (p.interpret fun op => .request (f op)).Prompt Fails := by
  induction p with
  | done r => exact hp
  | ask op k ih =>
    intro r
    rcases hp r with ⟨hx, e, he⟩ | ⟨hx, hp'⟩
    · exact .inl ⟨hx, e, congrArg (Program.interpret _) he⟩
    · exact .inr ⟨hx, ih r hp'⟩

end Program

namespace Attempt

/-- The transcripts of an attempt. -/
abbrev Transcript (reply : (op : Op) → σ → Ans op → σ → Prop) (p : Attempt Op Ans ε α) (s : σ)
    (t : List (Exchange Op Ans)) (r : Except ε α) (s' : σ) : Prop :=
  Program.Transcript reply p.run s t r s'

variable {reply : (op : Op) → σ → Ans op → σ → Prop} {s s' : σ} {t : List (Exchange Op Ans)}

theorem transcript_pure_iff {a : α} {r : Except ε α} :
    (pure a : Attempt Op Ans ε α).Transcript reply s t r s' ↔ r = .ok a ∧ t = [] ∧ s' = s :=
  Program.transcript_done_iff

theorem transcript_throw_iff {e : ε} {r : Except ε α} :
    (throw e : Attempt Op Ans ε α).Transcript reply s t r s' ↔ r = .error e ∧ t = [] ∧ s' = s :=
  Program.transcript_done_iff

theorem transcript_request_iff {op : Op} {answer : Ans op → Except ε α} {r : Except ε α} :
    (request op answer : Attempt Op Ans ε α).Transcript reply s t r s' ↔
      ∃ a, reply op s a s' ∧ r = answer a ∧ t = [⟨op, a⟩] := by
  constructor
  · intro h
    cases h with
    | ask hr hk =>
      obtain ⟨rfl, rfl, rfl⟩ := Program.transcript_done_iff.1 hk
      exact ⟨_, hr, rfl, rfl⟩
  · rintro ⟨a, hr, rfl, rfl⟩
    exact .ask hr (.done _ _)

/-- A sequence ends with the error of its first part, or goes on with its second part. -/
theorem transcript_bind_iff {p : Attempt Op Ans ε α} {f : α → Attempt Op Ans ε β}
    {r : Except ε β} :
    (p >>= f).Transcript reply s t r s' ↔
      (∃ e, p.Transcript reply s t (.error e) s' ∧ r = .error e) ∨
        ∃ a t₁ s₁ t₂, p.Transcript reply s t₁ (.ok a) s₁ ∧ (f a).Transcript reply s₁ t₂ r s' ∧
          t = t₁ ++ t₂ := by
  refine Program.transcript_bind_iff.trans ⟨?_, ?_⟩
  · rintro ⟨x, t₁, s₁, t₂, hp, hf, rfl⟩
    cases x with
    | error e =>
      obtain ⟨rfl, rfl, rfl⟩ := Program.transcript_done_iff.1 hf
      exact .inl ⟨e, by rwa [List.append_nil], rfl⟩
    | ok a => exact .inr ⟨a, t₁, s₁, t₂, hp, hf, rfl⟩
  · rintro (⟨e, hp, rfl⟩ | ⟨a, t₁, s₁, t₂, hp, hf, rfl⟩)
    · exact ⟨.error e, t, s', [], hp, .done _ _, (List.append_nil t).symm⟩
    · exact ⟨.ok a, t₁, s₁, t₂, hp, hf, rfl⟩

/-- A request that cannot fail is answered, and then its sequence goes on. -/
theorem transcript_request_bind_iff {op : Op} {f : Ans op → Attempt Op Ans ε β} {r : Except ε β} :
    (request op .ok >>= f).Transcript reply s t r s' ↔
      ∃ a s₁ t₂, reply op s a s₁ ∧ (f a).Transcript reply s₁ t₂ r s' ∧ t = ⟨op, a⟩ :: t₂ := by
  refine transcript_bind_iff.trans ⟨?_, ?_⟩
  · rintro (⟨e, hop, -⟩ | ⟨a, t₁, s₁, t₂, hop, hf, rfl⟩)
    · obtain ⟨_, -, he, -⟩ := transcript_request_iff.1 hop
      cases he
    · obtain ⟨_, hreply, ha, rfl⟩ := transcript_request_iff.1 hop
      cases ha
      exact ⟨a, s₁, t₂, hreply, hf, rfl⟩
  · rintro ⟨a, s₁, t₂, hreply, hf, rfl⟩
    exact .inr ⟨a, _, s₁, t₂, transcript_request_iff.2 ⟨a, hreply, rfl, rfl⟩, hf, rfl⟩

theorem transcript_mapError_iff {p : Attempt Op Ans ε α} {f : ε → ε'} {r : Except ε' α} :
    (p.mapError f).Transcript reply s t r s' ↔
      ∃ r₀, p.Transcript reply s t r₀ s' ∧ r = r₀.mapError f := by
  refine Program.transcript_bind_iff.trans ⟨?_, ?_⟩
  · rintro ⟨r₀, t₁, s₁, t₂, hp, hf, rfl⟩
    obtain ⟨rfl, rfl, rfl⟩ := Program.transcript_done_iff.1 hf
    exact ⟨r₀, by rwa [List.append_nil], rfl⟩
  · rintro ⟨r₀, hp, rfl⟩
    exact ⟨r₀, t, s', [], hp, .done _ _, (List.append_nil t).symm⟩

/-- What follows an outcome goes on from where the attempt ended, whether it failed or not. -/
theorem transcript_outcome_bind_iff {p : Attempt Op Ans ε α}
    {f : Except ε α → Attempt Op Ans ε' β} {r : Except ε' β} :
    (p.outcome >>= f).Transcript reply s t r s' ↔
      ∃ r₀ t₁ s₁ t₂, p.Transcript reply s t₁ r₀ s₁ ∧ (f r₀).Transcript reply s₁ t₂ r s' ∧
        t = t₁ ++ t₂ := by
  have hrun : (p.outcome >>= f).run = p.run.bind fun r₀ => (f r₀).run :=
    Program.bind_assoc _ _ _
  change Program.Transcript reply (p.outcome >>= f).run s t r s' ↔ _
  rw [hrun]
  exact Program.transcript_bind_iff

/-! ## Prompt attempts -/

variable {Fails : Exchange Op Ans → Prop}

/-- An attempt that ends with an error right after the first exchange that fails, and only then. -/
abbrev Prompt (Fails : Exchange Op Ans → Prop) (p : Attempt Op Ans ε α) : Prop :=
  Program.Prompt Fails p.run

theorem prompt_pure (a : α) : (pure a : Attempt Op Ans ε α).Prompt Fails := ⟨a, rfl⟩

theorem prompt_request {op : Op} {answer : Ans op → Except ε α}
    (h : ∀ r, Fails ⟨op, r⟩ ↔ ∃ e, answer r = .error e) :
    (request op answer : Attempt Op Ans ε α).Prompt Fails := by
  intro r
  by_cases hr : Fails ⟨op, r⟩
  · obtain ⟨e, he⟩ := (h r).1 hr
    exact .inl ⟨hr, e, congrArg Program.done he⟩
  · refine .inr ⟨hr, ?_⟩
    cases ha : answer r with
    | error e => exact absurd ((h r).2 ⟨e, ha⟩) hr
    | ok a => exact ⟨a, ha⟩

theorem prompt_bind {p : Attempt Op Ans ε α} {f : α → Attempt Op Ans ε β} (hp : p.Prompt Fails)
    (hf : ∀ a, (f a).Prompt Fails) : (p >>= f).Prompt Fails :=
  Program.prompt_bind hp hf fun e => ⟨e, rfl⟩

theorem prompt_mapError {p : Attempt Op Ans ε α} (f : ε → ε') (hp : p.Prompt Fails) :
    (p.mapError f).Prompt Fails :=
  Program.prompt_bind hp (fun a => ⟨a, rfl⟩) fun e => ⟨f e, rfl⟩

end Attempt

end ChassisAdmin
