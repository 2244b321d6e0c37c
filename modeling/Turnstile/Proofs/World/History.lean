import Mathlib.Data.List.Induction
import Turnstile.Proofs.World.Steps
namespace Turnstile

variable {ν : Type}

structure Visit (ν : Type) where
  world : World ν
  move : Move

section
variable [Quantity ν]

namespace Visit

def after (v : Visit ν) : World ν := (v.world.step v.move).2

structure Onward (v : Visit ν) : Prop where
  own : v.move.isOwn
  forward : v.world.gate.now ≤ v.after.gate.now

instance (v : Visit ν) : Decidable v.Onward :=
  decidable_of_iff (v.move.isOwn ∧ v.world.gate.now ≤ v.after.gate.now)
    ⟨fun ⟨own, forward⟩ => ⟨own, forward⟩, fun ⟨own, forward⟩ => ⟨own, forward⟩⟩

structure Intact (v : Visit ν) : Prop where
  healthy : v.world.backend.Healthy
  lossless : v.after.gate.tally.outbox.dropped = v.world.gate.tally.outbox.dropped

instance (v : Visit ν) : Decidable v.Intact :=
  decidable_of_iff (v.world.backend.Healthy ∧
      v.after.gate.tally.outbox.dropped = v.world.gate.tally.outbox.dropped)
    ⟨fun ⟨healthy, lossless⟩ => ⟨healthy, lossless⟩, fun ⟨healthy, lossless⟩ => ⟨healthy, lossless⟩⟩

end Visit

namespace World

def visits (w : World ν) : List Move → List (Visit ν)
  | [] => []
  | m :: rest => ⟨w, m⟩ :: (w.step m).2.visits rest

theorem visits_append (w : World ν) (first second : List Move) :
    w.visits (first ++ second) = w.visits first ++ (w.run first).visits second := by
  induction first generalizing w with
  | nil => rfl
  | cons m rest ih => exact congrArg _ (ih _)

theorem visits_snoc (w : World ν) (first : List Move) (m : Move) :
    w.visits (first ++ [m]) = w.visits first ++ [⟨w.run first, m⟩] := visits_append w first [m]

theorem map_move_visits (w : World ν) (moves : List Move) : (w.visits moves).map Visit.move = moves := by
  induction moves generalizing w with
  | nil => rfl
  | cons m rest ih => exact congrArg (m :: ·) (ih _)

theorem run_snoc (w : World ν) (first : List Move) (m : Move) :
    w.run (first ++ [m]) = ((w.run first).step m).2 := run_append w first [m]

-- What holds at first and is kept by each move holds in the end.
theorem run_keeps {I : List (Visit ν) → World ν → Prop} {allowed : Visit ν → Prop} {w : World ν}
    (first : I [] w)
    (kept : ∀ past u m, I past u → allowed ⟨u, m⟩ → I (past ++ [⟨u, m⟩]) (u.step m).2) (moves : List Move)
    (all : ∀ v ∈ w.visits moves, allowed v) : I (w.visits moves) (w.run moves) := by
  induction moves using List.reverseRecOn with
  | nil => exact first
  | append_singleton moves m ih =>
    rw [visits_snoc] at all ⊢
    rw [run_snoc]
    have before := ih fun v member => all v (List.mem_append_left _ member)
    exact kept _ _ m before (all _ (List.mem_append_right _ List.mem_cons_self))

theorem visits_keep {I : World ν → Prop} {allowed : Visit ν → Prop} {w : World ν} (first : I w)
    (kept : ∀ v, I v.world → allowed v → I v.after) (moves : List Move) (all : ∀ v ∈ w.visits moves, allowed v) :
    ∀ v ∈ w.visits moves, I v.world ∧ I v.after := by
  induction moves generalizing w with
  | nil => exact fun v member => absurd member List.not_mem_nil
  | cons m rest ih =>
    have after := kept ⟨w, m⟩ first (all _ List.mem_cons_self)
    intro v member
    rcases List.mem_cons.1 member with rfl | later
    · exact ⟨first, after⟩
    · exact ih after (fun v there => all v (List.mem_cons_of_mem _ there)) v later

end World

end

structure Failure where
  client : String
  endpoint : String
  reading : Nat
deriving DecidableEq

def Command.failures (now : Nat) : Command → List Failure
  | .login client endpoint _ false _ | .outcome client endpoint false =>
    if Client.Valid client then [⟨client, endpoint, now⟩] else []
  | _ => []

namespace Visit

def failures (v : Visit ν) : List Failure :=
  match v.move with
  | .command c _ => c.failures v.world.gate.now
  | _ => []

-- Where the ban of a client ends, as far as can be seen after a move: at its deadline while it blocks, and
-- at the reading at which it was seen to be gone if that is sooner.
def banEnd [Quantity ν] (client : String) (ended : Option Nat) (v : Visit ν) : Option Nat :=
  match v.after.gate.activeBan client with
  | some b => some b.bannedUntil
  | none => ended.map (min v.after.gate.now)

end Visit

def failures (past : List (Visit ν)) : List Failure := past.flatMap Visit.failures

def latestEnd [Quantity ν] (client : String) (past : List (Visit ν)) : Option Nat := past.foldl (Visit.banEnd client) none

theorem failures_snoc (past : List (Visit ν)) (v : Visit ν) :
    failures (past ++ [v]) = failures past ++ v.failures := by
  simp only [failures, List.flatMap_append, List.flatMap_cons, List.flatMap_nil, List.append_nil]

theorem latestEnd_snoc [Quantity ν] (client : String) (past : List (Visit ν)) (v : Visit ν) :
    latestEnd client (past ++ [v]) = v.banEnd client (latestEnd client past) := by
  simp only [latestEnd, List.foldl_append, List.foldl_cons, List.foldl_nil]

theorem reading_of_failure {c : Command} {now : Nat} {f : Failure} (member : f ∈ c.failures now) :
    f.reading = now := by
  unfold Command.failures at member
  split at member
  · split at member
    · rw [List.mem_singleton.1 member]
    · cases member
  · split at member
    · rw [List.mem_singleton.1 member]
    · cases member
  · cases member

def Policy.strict : Policy := ⟨[⟨2, .ofSecs 300⟩], .ofSecs 300, Policy.loginReason⟩

namespace World

variable [Quantity ν]

-- As long as the clock does not go back, nothing happened later than now.
theorem forward_run {w : World ν} (moves : List Move)
    (forward : ∀ v ∈ w.visits moves, v.world.gate.now ≤ v.after.gate.now) :
    (∀ v ∈ w.visits moves, v.world.gate.now ≤ (w.run moves).gate.now) ∧
      ∀ f ∈ failures (w.visits moves), f.reading ≤ (w.run moves).gate.now := by
  refine run_keeps (I := fun past u => (∀ v ∈ past, v.world.gate.now ≤ u.gate.now) ∧
    ∀ f ∈ failures past, f.reading ≤ u.gate.now) ⟨?_, ?_⟩ ?_ moves forward
  · exact fun v member => absurd member List.not_mem_nil
  · exact fun f member => absurd member List.not_mem_nil
  · rintro past u m ⟨seen, reported⟩ forward
    change u.gate.now ≤ (u.step m).2.gate.now at forward
    refine ⟨fun v member => ?_, fun f member => ?_⟩
    · rcases List.mem_append.1 member with old | new
      · exact Nat.le_trans (seen v old) forward
      · rw [List.mem_singleton.1 new]
        exact forward
    · rw [failures_snoc] at member
      rcases List.mem_append.1 member with old | new
      · exact Nat.le_trans (reported f old) forward
      · unfold Visit.failures at new
        split at new
        · rw [reading_of_failure new]
          exact forward
        · cases new

structure Built (b : Blueprint) (start : Nat) (backend : Backend) (w : World ν) : Prop where
  config : b.config.fault? = none
  now : w.gate.now = start
  bans : w.gate.bans = .empty
  granularity : w.gate.tally.granularity = b.config.windowGranularity
  pending : w.pending = []
  dropped : w.gate.tally.outbox.dropped = 0
  backend : w.backend = backend

-- The whole around a gate that was built from a valid configuration.
def fresh (b : Blueprint) (policy : Policy) (start : Nat) (backend : Backend) (sink : Sink) : World ν where
  gate :=
    { now := start
      config := b.config
      policy
      limiter := .start (Quantity.ofDouble b.config.rate) b.config.burst
      tally := ⟨b.config.windowGranularity, .make b.config.writeQueueCapacity b.chooseRetry⟩
      bans := .empty
      trail := .make b.config.auditQueueCapacity
      upkeep := .start }
  backend
  sink
  blueprint := b

theorem build_fresh {b : Blueprint} {policy : Policy} (valid : b.config.Valid) (chosen : b.choosePolicy = .ok policy)
    (start : Nat) (backend : Backend) (sink : Sink) :
    World.build b start backend sink = .ok (fresh b policy start backend sink : World ν) := by
  have faultless := (Config.fault?_eq_none_iff b.config).2 valid
  unfold World.build Gate.build
  dsimp only
  rw [faultless, chosen]
  rfl

theorem fresh_of_build {b : Blueprint} {start : Nat} {backend : Backend} {sink : Sink} {w : World ν}
    (made : World.build b start backend sink = .ok w) :
    b.config.fault? = none ∧ ∃ policy, b.choosePolicy = .ok policy ∧ w = fresh b policy start backend sink := by
  unfold World.build Gate.build at made
  dsimp only at made
  split at made
  · cases made
  · rename_i faultless
    split at made
    · cases made
    · rename_i policy chosen
      cases made
      exact ⟨faultless, policy, chosen, rfl⟩

theorem built {b : Blueprint} {start : Nat} {backend : Backend} {sink : Sink} {w : World ν}
    (made : World.build b start backend sink = .ok w) : Built b start backend w := by
  obtain ⟨faultless, policy, _, rfl⟩ := fresh_of_build made
  exact ⟨faultless, rfl, rfl, rfl, rfl, rfl, rfl⟩

theorem rebuild_of_ok {b : Blueprint} {w : World ν} {gate : Gate ν} (made : Gate.build b w.gate.now = .ok gate) :
    Built b w.gate.now w.backend (w.rebuild b) := by
  have whole : World.build b w.gate.now w.backend w.sink = .ok (w.rebuild b) := by
    unfold World.build rebuild
    rw [made]
    rfl
  exact built whole

theorem rebuild_cases (b : Blueprint) (w : World ν) : w.rebuild b = w ∨ Built b w.gate.now w.backend (w.rebuild b) := by
  cases made : (Gate.build b w.gate.now : Except GateError (Gate ν)) with
  | error e =>
    left
    unfold rebuild
    rw [made]
  | ok gate => exact .inr (rebuild_of_ok made)

-- What could be built once can be built again, whatever the clock shows.
theorem rebuild_built {b : Blueprint} {start : Nat} {backend : Backend} {sink : Sink} {first : World ν}
    (made : World.build b start backend sink = .ok first) (w : World ν) :
    Built b w.gate.now w.backend (w.rebuild b) := by
  obtain ⟨faultless, policy, chosen, _⟩ := fresh_of_build made
  have again : World.build b w.gate.now w.backend w.sink = .ok (fresh b policy w.gate.now w.backend w.sink : World ν) :=
    build_fresh ((Config.fault?_eq_none_iff _).1 faultless) chosen ..
  cases gate : (Gate.build b w.gate.now : Except GateError (Gate ν)) with
  | error e =>
    unfold World.build at again
    rw [gate] at again
    cases again
  | ok gate => exact rebuild_of_ok ‹_›

omit [Quantity ν] in
theorem Built.width {b : Blueprint} {start : Nat} {backend : Backend} {w : World ν} (fresh : Built b start backend w) :
    ∃ secs, 0 < secs ∧ w.gate.tally.granularity = .ofSecs secs := by
  have valid := (Config.fault?_eq_none_iff _).1 fresh.config
  refine ⟨b.config.windowGranularitySecs, valid.2 ("windowGranularitySecs", _) ?_, fresh.granularity⟩
  unfold Config.positiveFields
  simp only [List.mem_cons, true_or, or_true]

def strict : World Rat :=
  fresh ⟨.standard, some .strict, none⟩ .strict 0 .memory (.ofMedium .log)

theorem build_strict : World.build ⟨.standard, some .strict, none⟩ 0 .memory (.ofMedium .log) = .ok strict :=
  build_fresh ⟨by decide +kernel, by decide +kernel⟩ rfl 0 .memory (.ofMedium .log)

end World

end Turnstile
