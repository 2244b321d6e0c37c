import Turnstile.Proofs.Gate.Pairs
import Turnstile.Proofs.World.History
-- The argument is one about two runs: the full one, and the one from which the moves of others are deleted. Their wholes stay
-- the same to the client.
namespace Turnstile

variable {ν : Type} {client other : String}

namespace Outbox

variable {o p : Outbox}

theorem settle_pending {α : Type} (result : Except StoreError α) (o : Outbox) :
    (settle result o).pending = o.pending ∧ (settle result o).capacity = o.capacity := by
  cases result <;> exact ⟨rfl, rfl⟩

end Outbox

namespace World

variable {w u : World ν}

structure SameFor (client : String) (w u : World ν) : Prop where
  gate : w.gate.SameFor client u.gate
  backend : w.backend.SameFor client u.backend

theorem SameFor.pending (same : SameFor client w u) : u.pending = w.pending.filter (·.client == client) :=
  same.gate.outbox.pending

-- What is first in the queue and the client's own is first in its own queue too.
theorem SameFor.pending_cons (same : SameFor client w u) {first : Write} {rest : List Write}
    (queued : w.pending = first :: rest) (own : first.client = client) :
    u.pending = first :: rest.filter (·.client == client) := by
  have found : (first.client == client) = true := beq_iff_eq.2 own
  rw [same.pending, queued, List.filter_cons, found]
  rfl

theorem SameFor.deliver_own (same : SameFor client w u) (healthy : w.backend.Healthy) {first : Write} {rest : List Write}
    (queued : w.pending = first :: rest) (own : first.client = client) : SameFor client w.deliver u.deliver := by
  have queued' := same.pending_cons queued own
  rw [deliver_once healthy queued, deliver_once (same.backend.healthy healthy) queued']
  refine ⟨same.gate.setOutbox ⟨?_, ?_⟩, same.backend.call healthy ?_ none⟩
  · rw [(Outbox.settle_pending ..).2, (Outbox.settle_pending ..).2]
    exact same.gate.outbox.capacity
  · rw [(Outbox.settle_pending ..).1, (Outbox.settle_pending ..).1]
  · intro named found
    rw [first.client_call] at found
    exact (Option.some.inj found).symm.trans own

theorem SameFor.deliver_other (same : SameFor client w u) (healthy : w.backend.Healthy) {first : Write} {rest : List Write}
    (queued : w.pending = first :: rest) (away : first.client ≠ client) : SameFor client w.deliver u := by
  rw [deliver_once healthy queued]
  refine ⟨same.gate.setOutbox (p := u.gate.tally.outbox) ⟨?_, ?_⟩,
    same.backend.call_other healthy first.client_call away none⟩
  · rw [(Outbox.settle_pending ..).2]
    exact same.gate.outbox.capacity
  · have missing : (first.client == client) = false := beq_eq_false_iff_ne.2 away
    have shorter := same.pending
    rw [queued, List.filter_cons, missing] at shorter
    rw [(Outbox.settle_pending ..).1]
    exact shorter

theorem SameFor.deliverAll (same : SameFor client w u) (healthy : w.backend.Healthy) :
    SameFor client (deliverMany w.pending.length w) (deliverMany u.pending.length u) := by
  generalize queue : w.pending = writes
  induction writes generalizing w u with
  | nil =>
    have queue' : u.pending = [] := by rw [same.pending, queue, List.filter_nil]
    rw [queue']
    exact same
  | cons first rest ih =>
    have later := healthy_deliver healthy
    have left := pending_deliver queue
    by_cases own : first.client = client
    · have next := ih (same.deliver_own healthy queue own) later left
      have queue' := same.pending_cons queue own
      rw [pending_deliver queue'] at next
      rw [queue']
      exact next
    · exact ih (same.deliver_other healthy queue own) later left

end World

namespace Move

-- A move of the gate or its surroundings, during which nothing is delivered but by flushes.
def isWhole : Move → Bool
  | .command _ meanwhile => meanwhile.isEmpty
  | .call _ | .deliver | .restart _ => false
  | .faults _ | .reach _ | .slow _ | .handOver | .flush => true

def asks : Move → Bool
  | .command c _ => c.asks
  | .flush => true
  | _ => false

def client? : Move → Option String
  | .command c _ => c.client?
  | _ => none

def concerns (client : String) (m : Move) : Bool := m.client?.all (· == client)

theorem whole_command {c : Command} {meanwhile : List Nat} (whole : (Move.command c meanwhile).isWhole = true) :
    meanwhile = [] :=
  List.isEmpty_iff.1 whole

end Move

variable [Quantity ν]

structure Visit.Smooth (v : Visit ν) : Prop where
  whole : v.move.isWhole = true
  healthy : v.move.asks = true → v.world.backend.Healthy
  lossless : v.world.gate.Lossless v.after.gate

instance (v : Visit ν) : Decidable v.Smooth :=
  decidable_of_iff (v.move.isWhole = true ∧ (v.move.asks = true → v.world.backend.Healthy) ∧
      v.after.gate.tally.outbox.dropped = v.world.gate.tally.outbox.dropped)
    ⟨fun ⟨whole, healthy, lossless⟩ => ⟨whole, healthy, lossless⟩, fun ⟨whole, healthy, lossless⟩ => ⟨whole, healthy, lossless⟩⟩

namespace World

variable {w u : World ν} {m : Move}

-- A move of somebody else leaves what the client had.
theorem SameFor.step_other (same : SameFor client w u) (smooth : (⟨w, m⟩ : Visit ν).Smooth) (named : m.client? = some other)
    (away : other ≠ client) : SameFor client (w.step m).2 u := by
  cases m with
  | command c meanwhile =>
    cases Move.whole_command smooth.whole
    have kept := smooth.lossless
    unfold Visit.after at kept
    rw [step_command] at kept ⊢
    obtain ⟨gate, backend⟩ := c.run_other same.gate same.backend smooth.healthy named away kept
    exact ⟨gate, backend⟩
  | _ => cases named

-- A move of the client is answered as if nobody else had been there.
theorem SameFor.step_own (same : SameFor client w u) (smooth : (⟨w, m⟩ : Visit ν).Smooth) (named : m.client? = some client) :
    (u.step m).1 = (w.step m).1 ∧ SameFor client (w.step m).2 (u.step m).2 := by
  cases m with
  | command c meanwhile =>
    cases Move.whole_command smooth.whole
    have kept := smooth.lossless
    unfold Visit.after at kept
    rw [step_command] at kept ⊢
    rw [step_command]
    obtain ⟨answer, gate, backend⟩ := c.run_own same.gate same.backend smooth.healthy named kept
    exact ⟨answer, gate, backend⟩
  | _ => cases named

theorem SameFor.step_common (same : SameFor client w u) (smooth : (⟨w, m⟩ : Visit ν).Smooth) (nobody : m.client? = none) :
    SameFor client (w.step m).2 (u.step m).2 := by
  have backend := same.backend
  cases m with
  | command c meanwhile =>
    cases Move.whole_command smooth.whole
    rw [step_command, step_command]
    obtain ⟨gate, backend⟩ := c.run_common same.gate same.backend smooth.healthy nobody
    exact ⟨gate, backend⟩
  | faults script =>
    refine ⟨same.gate, backend.reachable, backend.latency, ?_, backend.store⟩
    intro clear fault member
    rcases List.mem_append.1 member with old | new
    · exact backend.clear (fun earlier there => clear earlier (List.mem_append_left _ there)) fault old
    · exact clear fault (List.mem_append_right _ new)
  | reach on => exact ⟨same.gate, rfl, backend.latency, backend.clear, backend.store⟩
  | slow latency => exact ⟨same.gate, backend.reachable, rfl, backend.clear, backend.store⟩
  | handOver => exact ⟨same.gate.withTrail _ _, backend⟩
  | flush =>
    have delivered := same.deliverAll (smooth.healthy rfl)
    exact ⟨delivered.gate.withTrail _ _, delivered.backend⟩
  | call | deliver | restart => cases smooth.whole

def answersTo (client : String) (w : World ν) : List Move → List Reply
  | [] => []
  | m :: rest =>
    if m.client? = some client then (w.step m).1 :: answersTo client (w.step m).2 rest
    else answersTo client (w.step m).2 rest

theorem SameFor.run {moves : List Move} (same : SameFor client w u) (smooth : ∀ v ∈ w.visits moves, v.Smooth) :
    u.answersTo client (moves.filter (·.concerns client)) = w.answersTo client moves ∧
      SameFor client (w.run moves) (u.run (moves.filter (·.concerns client))) := by
  induction moves generalizing w u with
  | nil => exact ⟨rfl, same⟩
  | cons m rest ih =>
    have here := smooth ⟨w, m⟩ List.mem_cons_self
    have later := fun v member => smooth v (List.mem_cons_of_mem _ member)
    cases named : m.client? with
    | none =>
      have concerned : m.concerns client = true := by rw [Move.concerns, named]; rfl
      have told := ih (same.step_common here named) later
      simp only [List.filter_cons, concerned, if_true, answersTo, named, World.run, reduceCtorEq, if_false]
      exact told
    | some asking =>
      by_cases own : asking = client
      · subst own
        have concerned : m.concerns asking = true := by
          rw [Move.concerns, named]
          exact beq_self_eq_true asking
        obtain ⟨answer, next⟩ := same.step_own here named
        have told := ih next later
        simp only [List.filter_cons, concerned, if_true, answersTo, named, World.run]
        exact ⟨by rw [answer, told.1], told.2⟩
      · have spared : m.concerns client = false := by
          rw [Move.concerns, named]
          exact beq_eq_false_iff_ne.2 own
        have told := ih (same.step_other here named own) later
        have silent : ¬some asking = some client := fun equal => own (Option.some.inj equal)
        simp only [List.filter_cons, spared, Bool.false_eq_true, if_false, answersTo, named, World.run, silent]
        exact told

omit [Quantity ν] in
theorem SameFor.built {b : Blueprint} {start : Nat} {backend : Backend} (fresh : Built b start backend w) (client : String) :
    SameFor client w w := by
  have addressed : w.gate.bans.Addressed := by
    rw [fresh.bans]
    exact Registry.addressed_empty
  have pending : w.gate.tally.outbox.pending = w.gate.tally.outbox.pending.filter (·.client == client) := by
    rw [show w.gate.tally.outbox.pending = [] from fresh.pending]
    rfl
  exact ⟨⟨rfl, rfl, rfl, rfl, rfl, ⟨rfl, rfl, rfl⟩, ⟨rfl, pending⟩, rfl, addressed⟩, ⟨rfl, rfl, id, rfl⟩⟩

-- Deleting from a run what is done on behalf of others changes nothing that a client is told: neither the answers to its own
-- moves nor, at any time, its ban, its floor, its tokens or its counts. Runs are cut off anywhere, so that the end of one is any time.
theorem clients_independent {b : Blueprint} {start : Nat} {backend : Backend} {sink : Sink}
    (made : World.build b start backend sink = .ok w) (client : String) (moves : List Move)
    (smooth : ∀ v ∈ w.visits moves, v.Smooth) :
    let alone := moves.filter (·.concerns client)
    w.answersTo client alone = w.answersTo client moves ∧
    (w.run alone).gate.now = (w.run moves).gate.now ∧
    (w.run alone).gate.activeBan client = (w.run moves).gate.activeBan client ∧
    (w.run alone).gate.bans.floor client = (w.run moves).gate.bans.floor client ∧
    (w.run alone).gate.available client = (w.run moves).gate.available client ∧
    ∀ endpoint since, ((w.run alone).backend.store.answer (.count client endpoint since)).1 =
      ((w.run moves).backend.store.answer (.count client endpoint since)).1 := by
  obtain ⟨answers, same⟩ := (SameFor.built (built made) client).run smooth
  refine ⟨answers, same.gate.now, same.gate.activeBan, same.gate.floor, ?_, ?_⟩
  · unfold Gate.available
    rw [same.gate.now]
    exact same.gate.limiter.available _
  · intro endpoint since
    rw [← Store.count_of (w.run (moves.filter (·.concerns client))).backend.store, same.backend.store]
    exact Store.count_of ..

def crowd : List Move :=
  [.command (.login "b" "login" "root" false none) [], .command (.login "a" "login" "root" false none) [],
    .command (.outcome "b" "login" false) [], .flush, .command (.enter "b" "login" true) [], .command (.clock 1000) [],
    .command (.outcome "a" "login" false) [], .command (.release "b" "admin" "mistake") [], .flush,
    .command (.maintain true) [], .command (.enter "a" "login" true) []]

theorem crowd_unnoticed : (∀ v ∈ strict.visits crowd, v.Smooth) ∧
    (strict.run crowd).gate.activeBan "a" ≠ none ∧
    (strict.run (crowd.filter (·.concerns "a"))).gate.activeBan "a" = (strict.run crowd).gate.activeBan "a" := by
  have smooth : ∀ v ∈ strict.visits crowd, v.Smooth := by decide +kernel
  exact ⟨smooth, by decide +kernel, (clients_independent build_strict "a" crowd smooth).2.2.1⟩

end World

end Turnstile
