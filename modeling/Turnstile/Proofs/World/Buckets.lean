import Turnstile.Proofs.Limiter.Wait
import Turnstile.Proofs.World.Deeds
namespace Turnstile

variable {ν : Type} [Quantity ν]

structure Visit.Metered (v : Visit ν) : Prop where
  stays : v.move.isRestart = false
  forward : v.world.gate.now ≤ v.after.gate.now
  rate : v.after.gate.limiter.rate = v.world.gate.limiter.rate
  burst : v.after.gate.limiter.burst = v.world.gate.limiter.burst

instance (v : Visit Rat) : Decidable v.Metered :=
  decidable_of_iff (v.move.isRestart = false ∧ v.world.gate.now ≤ v.after.gate.now ∧
      v.after.gate.limiter.rate = v.world.gate.limiter.rate ∧ v.after.gate.limiter.burst = v.world.gate.limiter.burst)
    ⟨fun ⟨stays, forward, rate, burst⟩ => ⟨stays, forward, rate, burst⟩,
      fun ⟨stays, forward, rate, burst⟩ => ⟨stays, forward, rate, burst⟩⟩

def Move.token? : Move → Option String
  | .command (.acquire client) _ => some client
  | _ => none

-- A token of the client is asked for. A client that is banned is not asked about.
def Visit.AsksToken (client : String) (v : Visit ν) : Prop :=
  v.move.token? = some client ∨ v.move.entry? = some client ∧ v.world.gate.activeBan client = none

instance (client : String) (v : Visit ν) : Decidable (v.AsksToken client) := inferInstanceAs (Decidable (_ ∨ _ ∧ _))

def Gate.asked (g : Gate ν) (client : String) : Limiter ν :=
  match g.activeBan client with
  | some _ => g.limiter
  | none => (g.limiter.acquire g.now client).2

-- Calls at one reading lead from one limiter to the other, and the client is only asked about if it may be.
def Limiter.Drawn (client : String) (may : Prop) (now : Nat) (l l' : Limiter ν) : Prop :=
  ∃ calls : List Limiter.Call, l' = l.after (calls.map (now, ·)) ∧ ∀ call ∈ calls, call.isBy client = true → may

namespace Limiter.Drawn

variable {client : String} {may : Prop} {now : Nat} {l l' l'' : Limiter ν}

theorem refl (l : Limiter ν) : Drawn client may now l l := ⟨[], rfl, nofun⟩

theorem of_eq (same : l' = l) : Drawn client may now l l' := same.symm ▸ refl l

theorem trans (first : Drawn client may now l l') (rest : Drawn client may now l' l'') : Drawn client may now l l'' := by
  obtain ⟨calls, rfl, asked⟩ := first
  obtain ⟨more, rfl, later⟩ := rest
  refine ⟨calls ++ more, ?_, fun call within => ?_⟩
  · rw [List.map_append, after_append]
  · rcases List.mem_append.1 within with here | there
    · exact asked call here
    · exact later call there

theorem acquire (l : Limiter ν) (asking : String) (allowed : asking = client → may) :
    Drawn client may now l (l.acquire now asking).2 := by
  refine ⟨[.acquire asking], rfl, fun call within by_client => ?_⟩
  cases List.mem_singleton.1 within
  exact allowed (by simpa [Call.isBy] using by_client)

theorem evict (l : Limiter ν) (idle : Nat) : Drawn client may now l (l.evictIdle now idle).2 := by
  refine ⟨[.evict idle], rfl, fun call within by_client => ?_⟩
  cases List.mem_singleton.1 within
  cases by_client

end Limiter.Drawn

namespace Limiter

variable {client : String} {may : Prop} {now reading later : Nat} {first : List (Nat × Call)}

theorem ordered_nil (now : Nat) : Ordered now [] := List.pairwise_singleton _ _

theorem Ordered.append (onward : Ordered now first) (le : ∀ call ∈ first, call.1 ≤ reading) (start : now ≤ reading)
    (calls : List Call) : Ordered now (first ++ calls.map (reading, ·)) := by
  unfold Ordered
  rw [List.map_append, ← List.cons_append, List.pairwise_append]
  refine ⟨onward, ?_, fun before earlier after there => ?_⟩
  · rw [List.map_map]
    exact List.pairwise_map.2 (List.pairwise_of_forall fun _ _ => Nat.le_refl reading)
  · rw [List.map_map] at there
    obtain ⟨call, _, rfl⟩ := List.mem_map.1 there
    rcases List.mem_cons.1 earlier with rfl | within
    · exact start
    · obtain ⟨call, member, rfl⟩ := List.mem_map.1 within
      exact le call member

theorem Drawn.sound {l l' : Limiter Rat} (drawn : Drawn client may now l l') (sound : l.Sound now) : l'.Sound now := by
  obtain ⟨calls, rfl, _⟩ := drawn
  have onward : Ordered now (calls.map (now, ·)) := (ordered_nil now).append nofun (Nat.le_refl now) calls
  refine sound_after sound onward (fun call within => ?_) (Nat.le_refl now)
  obtain ⟨_, _, rfl⟩ := List.mem_map.1 within
  exact Nat.le_refl now

-- Calls from one reading to another lead from one limiter to the other, and the client is not asked about.
def Passed (client : String) (now reading : Nat) (l l' : Limiter ν) : Prop :=
  now ≤ reading ∧ ∃ calls, Ordered now calls ∧ (∀ call ∈ calls, call.1 ≤ reading) ∧
    (∀ call ∈ calls, call.2.isBy client = false) ∧ l' = l.after calls

theorem Passed.refl (client : String) (now : Nat) (l : Limiter ν) : Passed client now now l l :=
  ⟨Nat.le_refl now, [], ordered_nil now, nofun, nofun, rfl⟩

theorem Passed.extend {l l' l'' : Limiter ν} (passed : Passed client now reading l l') (silent : ¬may)
    (drawn : Drawn client may reading l' l'') (le : reading ≤ later) : Passed client now later l l'' := by
  obtain ⟨start, first, onward, before, others, rfl⟩ := passed
  obtain ⟨calls, rfl, asked⟩ := drawn
  refine ⟨Nat.le_trans start le, first ++ calls.map (reading, ·), onward.append before start calls, ?_, ?_, ?_⟩
  · intro call within
    rcases List.mem_append.1 within with earlier | now
    · exact Nat.le_trans (before call earlier) le
    · obtain ⟨_, _, rfl⟩ := List.mem_map.1 now
      exact le
  · intro call within
    rcases List.mem_append.1 within with earlier | now
    · exact others call earlier
    · obtain ⟨call, member, rfl⟩ := List.mem_map.1 now
      exact Bool.eq_false_iff.2 fun own => silent (asked call member own)
  · rw [after_append]

end Limiter

namespace Command

-- A command that does not ask the store leaves the buckets alone, unless it is about them.
theorem limiter_update {c : Command} (direct : ∀ client, c ≠ .acquire client) (fixed : ∀ config, c ≠ .reconfigure config)
    (g : Gate ν) : (c.update g).limiter = g.limiter := by
  cases c with
  | acquire client => exact absurd rfl (direct client)
  | reconfigure config => exact absurd rfl (fixed config)
  | clock => rfl
  | _ => exact (basis_update rfl g).limiter

end Command

namespace Gate

theorem limiter_screen (g : Gate ν) (client endpoint : String) (critical : Bool) :
    (g.screen client endpoint critical).2.limiter = g.asked client := by
  unfold asked
  cases free : g.activeBan client with
  | some b => rw [screen_of_active free]
  | none =>
    rw [screen_of_free free]
    split
    · rfl
    · split <;> rfl

end Gate

namespace World

variable {w u : World ν} {client : String} {may : Prop} {now : Nat}

theorem Deed.drawn {xs : List Exchange} (deed : Deed w xs u) :
    Limiter.Drawn client may w.gate.now w.gate.limiter u.gate.limiter := by
  cases deed with
  | deliver =>
    rw [gate_deliver w]
    exact .refl _
  | evict idle => exact .evict _ idle
  | _ => exact .refl _

theorem Deeds.drawn {xs : List Exchange} (deeds : Deeds w xs u) :
    Limiter.Drawn client may w.gate.now w.gate.limiter u.gate.limiter := by
  induction deeds with
  | nil w => exact .refl _
  | cons deed _ ih => exact deed.drawn.trans (deed.now ▸ ih)

theorem Entered.limiter {asking endpoint : String} {critical : Bool} {a : Admission}
    (entered : Entered w asking endpoint critical (.ok a, u)) : u.gate.limiter = w.gate.asked asking := by
  rcases entered.basis with ⟨_, refused, _⟩ | basis
  · cases refused
  · rw [basis.limiter, Gate.limiter_screen]

theorem Entered.drawn {asking endpoint : String} {critical : Bool} {answer : Except GateError Admission}
    (entered : Entered w asking endpoint critical (answer, u))
    (allowed : asking = client → w.gate.activeBan asking = none → may) :
    Limiter.Drawn client may w.gate.now w.gate.limiter u.gate.limiter := by
  rcases toList_of_answer entered with ⟨_, same⟩ | ⟨a, _, entered⟩
  · rw [same]
    exact .refl _
  · rw [entered.limiter, Gate.asked]
    cases free : w.gate.activeBan asking with
    | some b => exact .refl _
    | none => exact .acquire _ asking fun own => allowed own free

-- A new configuration with the limits that are in force leaves the limiter as it is.
theorem limiter_reconfigure (g : Gate ν) (config : Config) (rate : (g.reconfigure config).2.limiter.rate = g.limiter.rate)
    (burst : (g.reconfigure config).2.limiter.burst = g.limiter.burst) : (g.reconfigure config).2.limiter = g.limiter := by
  have buckets : (g.reconfigure config).2.limiter.buckets = g.limiter.buckets := by
    rw [Gate.reconfigure_eq]
    cases config.fault? with
    | some fault => rfl
    | none => cases Policy.ofConfig config <;> rfl
  cases after : (g.reconfigure config).2.limiter
  cases before : g.limiter
  rw [after, before] at rate burst buckets
  cases rate
  cases burst
  cases buckets
  rfl

theorem Course.drawn {m : Move} (course : Course w m u) (rate : u.gate.limiter.rate = w.gate.limiter.rate)
    (burst : u.gate.limiter.burst = w.gate.limiter.burst) :
    Limiter.Drawn client (Visit.AsksToken client ⟨w, m⟩) w.gate.now w.gate.limiter u.gate.limiter := by
  have delivered (n : Nat) : (deliverMany n w).gate.limiter = w.gate.limiter := by
    rw [gate_deliverMany]
    rfl
  cases course with
  | @plain c meanwhile plain =>
    cases c with
    | acquire asking => exact .acquire _ asking fun own => .inl (congrArg some own)
    | reconfigure config => exact .of_eq (limiter_reconfigure w.gate config rate burst)
    | _ =>
      refine .of_eq (Command.limiter_update ?_ ?_ w.gate)
      · exact fun _ => nofun
      · exact fun _ => nofun
  | entered asks entered => exact entered.drawn fun own free => .inr ⟨own ▸ asks, own ▸ free⟩
  | deeds _ deeds => exact deeds.drawn
  | deliver => exact .of_eq (delivered 1)
  | flush => exact .of_eq (delivered _)
  | idle | handOver | call | faults | reach | slow => exact .refl _

end World

theorem Visit.drawn {v : Visit ν} {client : String} (metered : v.Metered) :
    Limiter.Drawn client (v.AsksToken client) v.world.gate.now v.world.gate.limiter v.after.gate.limiter :=
  (World.course metered.stays v.world).drawn metered.rate metered.burst

end Turnstile
