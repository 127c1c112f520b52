import ChassisAdmin.Proofs.Fields
import ChassisAdmin.Proofs.Text.BytePattern
import ChassisAdmin.Simulation.RedisServer

/-!
# What is relied on of a server

A server of one database is a program of its own that is not part of this
library.  `Server` is all that is seen of one: its replies to commands, and the
hash that stands under each key.  `Server.Usual` lists what its commands are
documented to do.  Reading a hash tells its fields, replacing it is one step that
leaves the fields that were given, the later of two with one name, and a hash
without fields does not exist.  Keys are listed in any order.

A pattern may hold classes and escapes that a server knows and this library does
not.  A plain pattern, one without them, is matched with the bytes of each key.

`usual_simulated` says so of the simulated server, whose matcher finds what a
pattern stands for (`matchesBytes_iff`).
-/

namespace ChassisAdmin

namespace Store

open Store.Redis (Hash)

/-! ## Servers -/

/-- The server of a database: how it replies to commands, and what stands under its keys. -/
structure Server (σ : Type) where
  reply : (c : Redis.Command) → σ → Redis.Reply c × σ
  hash? : σ → String → Option Hash

/-- What stands under the keys after a command. -/
def Redis.Command.after : Redis.Command → (String → Option Hash) → String → Option Hash
  | replace key fields, h, k =>
      if key = k then if fields.isEmpty then none else some (Keyed.ofList fields) else h k
  | del key, h, k => if key = k then none else h k
  | hgetall _, h, k | keys _, h, k | hget _ _, h, k => h k

/-- The commands of a server do what they are documented to do. -/
structure Server.Usual {σ : Type} (S : Server σ) : Prop where
  after : ∀ c s, S.hash? (S.reply c s).2 = c.after (S.hash? s)
  hgetall : ∀ key s, (S.reply (.hgetall key) s).1 = .ok ((S.hash? s key).getD .empty)
  hget : ∀ key field s,
    (S.reply (.hget key field) s).1 = .ok ((S.hash? s key).bind (·.get? field))
  replace : ∀ key fields s, (S.reply (.replace key fields) s).1 = .ok ()
  del : ∀ key s, (S.reply (.del key) s).1 = .ok ()
  keys : ∀ pattern s, Text.Glob.Plain pattern →
    ∃ l, (S.reply (.keys pattern) s).1 = .ok l ∧ l.Nodup ∧
      ∀ key, key ∈ l ↔ (S.hash? s key).isSome = true ∧ Text.Glob.Stands pattern key

/-- Answers a call on the database of a server. -/
def Server.answer {σ : Type} (S : Server σ) (c : Call) (s : σ) : Answer c × σ :=
  Program.run S.reply (Redis.client c) s

/-! ## The simulated server -/

theorem someRest_iff {passes : List UInt8 → Bool} {text : List UInt8} :
    Simulation.someRest passes text = true ↔
      ∃ piece rest, text = piece ++ rest ∧ passes rest = true := by
  induction text with
  | nil => simp [Simulation.someRest]
  | cons b bs ih =>
    rw [Simulation.someRest, Bool.or_eq_true, ih]
    constructor
    · rintro (h | ⟨piece, rest, rfl, h⟩)
      · exact ⟨[], _, rfl, h⟩
      · exact ⟨b :: piece, rest, rfl, h⟩
    · rintro ⟨piece, rest, htext, h⟩
      cases piece with
      | nil => exact .inl (htext ▸ h)
      | cons p piece => exact .inr ⟨piece, rest, (List.cons.inj htext).2, h⟩

/-- The simulated server matches what the bytes of a pattern cover. -/
theorem matchesBytes_iff {pattern text : List UInt8} :
    Simulation.matchesBytes pattern text = true ↔
      Text.Glob.Cut Text.Glob.Covers pattern text := by
  induction pattern generalizing text with
  | nil => rw [Simulation.matchesBytes, List.isEmpty_iff, Text.Glob.cut_nil_iff]
  | cons p pattern ih =>
    rw [Simulation.matchesBytes, Text.Glob.cut_cons_iff]
    by_cases hstar : p = '*'.toUInt8
    · simp only [if_pos hstar, someRest_iff, ih, Text.Glob.Covers, true_and]
    simp only [if_neg hstar, Bool.and_eq_true, Option.any_eq_true, Bool.or_eq_true,
      decide_eq_true_eq, ih, Text.Glob.covers_iff_of_ne_star hstar]
    constructor
    · rintro ⟨⟨b, hb, hpb⟩, hcut⟩
      exact ⟨[b], text.tail, (List.cons_head?_tail hb).symm, ⟨b, rfl, hpb⟩, hcut⟩
    · rintro ⟨_, rest, rfl, ⟨b, rfl, hpb⟩, hcut⟩
      exact ⟨⟨b, rfl, hpb⟩, hcut⟩

/-- A database of the simulated server. -/
def Server.simulated : Server Simulation.Hashes where
  reply c h :=
    let r := Simulation.RedisServer.answer 0 c (Simulation.RedisServer.empty.withDatabase 0 h)
    (r.1, r.2.database 0)
  hash? h k := h.get? k

theorem Server.usual_simulated : Server.simulated.Usual where
  after c h := by
    funext k
    cases c with
    | hgetall | keys | hget => rfl
    | replace key fields =>
      cases fields with
      | nil => exact Keyed.get?_erase h key k
      | cons e fields => exact Keyed.get?_insert h key (Keyed.ofList (e :: fields)) k
    | del key => exact Keyed.get?_erase h key k
  hgetall key h := rfl
  hget key field h := rfl
  replace key fields h := by cases fields <;> rfl
  del key h := rfl
  keys pattern h _ := by
    refine ⟨_, rfl, h.nodup_keys.filter _, fun key => ?_⟩
    rw [List.mem_filter, Keyed.mem_keys_iff, Simulation.matchesKey, matchesBytes_iff]
    rfl

end Store

end ChassisAdmin
