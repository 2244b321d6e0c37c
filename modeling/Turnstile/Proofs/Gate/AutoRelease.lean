import Turnstile.Proofs.Gate.FailOpen
import Turnstile.Proofs.World.Closing
namespace Turnstile

variable {ν : Type}

def Move.expires : Move → Bool
  | .call (.releaseExpired _) => true
  | _ => false

variable [Quantity ν]

namespace Visit

def exchanges (v : Visit ν) : List Exchange :=
  match v.move with
  | .command c meanwhile => World.exchanges meanwhile c.routine v.world
  | .call c => [⟨⟨c, (v.world.backend.call c none).1⟩, v.world.backend.store, (v.world.backend.call c none).2.store⟩]
  | _ => []

def ended (v : Visit ν) : List Ban := v.exchanges.flatMap Exchange.ended

def purges (b : Ban) (v : Visit ν) : Bool := v.exchanges.any (·.purges b)

end Visit

namespace World

variable {w u : World ν} {m : Move} {client : String}

theorem exchanges_serve {inner : Gate.Inner} (ready : inner ≠ .notReady) (client endpoint : String) (critical : Bool)
    (meanwhile : List Nat) (w : World ν) : exchanges meanwhile (Gate.serve client endpoint critical inner) w =
      exchanges meanwhile (Gate.enter client endpoint critical) w := by
  rw [Gate.serve_eq ready]
  exact exchanges_map ..

theorem exchanges_plain {c : Command} (plain : c.asks = false) (meanwhile : List Nat) (w : World ν) :
    exchanges meanwhile c.routine w = [] := by
  cases c <;> first | rfl | cases plain

theorem exchanges_enter (client endpoint : String) (critical : Bool) (meanwhile : List Nat) (w : World ν) :
    ∀ x ∈ exchanges meanwhile (Gate.enter client endpoint critical) w, x.ended = [] := by
  intro x member
  have heard : x.toHeard ∈ Visit.heard ⟨w, .command (.enter client endpoint critical) meanwhile⟩ := by
    have told : Visit.heard ⟨w, .command (.enter client endpoint critical) meanwhile⟩ = _ :=
      heard_map Reply.admission (Gate.enter client endpoint critical) meanwhile w
    rw [told, ← heard_exchanges]
    exact List.mem_map_of_mem member
  obtain ⟨_, _, _, same, _⟩ := (answered w client endpoint critical meanwhile).asked heard
  refine Exchange.ended_plain fun reading release => ?_
  cases (congrArg Heard.call same).symm.trans release

theorem exchanges_entry (asks : m.entry? = some client) (w : World ν) : ∀ x ∈ Visit.exchanges ⟨w, m⟩, x.ended = [] := by
  unfold Move.entry? at asks
  split at asks
  · rename_i asking endpoint critical meanwhile
    change ∀ x ∈ exchanges meanwhile (Reply.admission <$> Gate.enter asking endpoint critical) w, x.ended = []
    rw [exchanges_map]
    exact exchanges_enter asking endpoint critical meanwhile w
  · rename_i asking endpoint critical inner meanwhile
    have ready : inner ≠ .notReady := by
      rintro rfl
      cases asks
    change ∀ x ∈ exchanges meanwhile (Reply.served <$> Gate.serve asking endpoint critical inner) w, x.ended = []
    rw [exchanges_map, exchanges_serve ready]
    exact exchanges_enter asking endpoint critical meanwhile w
  · cases asks

omit [Quantity ν] in
theorem closes_deliverMany (tables : InMemory w) (n : Nat) : Closes w [] (deliverMany n w) := by
  have kept := deliverMany_keeps (P := fun u => Closes w [] u ∧ u.gate.now = w.gate.now)
    (fun v ⟨closes, now⟩ => ⟨closes.trans (closes_deliver closes.tables) now, (frame_deliver v).now.trans now⟩) n
    ⟨.still tables rfl rfl rfl, rfl⟩
  exact kept.1

omit [Quantity ν] in
theorem closes_handOver (tables : InMemory w) : Closes w [] w.handOver where
  tables := tables
  retained := .refl _ _
  ended := nofun
  recording := fun recording => (recording.drain w.gate.trail).1
  heard := Nat.le_refl _
  told := by
    intro recording _
    unfold releases
    rw [audited_handOver recording]
    exact (List.append_nil _).symm

theorem closes_call (tables : InMemory w) {c : Call} (other : (Move.call c).expires = false) :
    Closes w (Visit.exchanges ⟨w, .call c⟩) { w with backend := (w.backend.call c none).2 } := by
  have plain (reading : Nat) : c ≠ .releaseExpired reading := by
    rintro rfl
    cases other
  unfold Visit.exchanges
  dsimp only
  cases called : w.backend.call c none with
  | mk answer backend =>
    cases answer with
    | ok a => exact closes_answered tables (Backend.call_ok called) plain rfl
    | error e =>
      have still : Closes w [] { w with backend } := .still tables (Backend.call_error called) rfl rfl
      refine still.idle fun x member => ?_
      cases List.mem_singleton.1 member
      exact Exchange.ended_plain plain

theorem Course.closes (course : Course w m u) (tables : InMemory w) (other : m.expires = false) :
    Closes w (Visit.exchanges ⟨w, m⟩) u := by
  cases course with
  | plain meanwhile plain =>
    refine (closes_update plain tables).idle fun x member => ?_
    change x ∈ exchanges meanwhile _ w at member
    rw [exchanges_plain plain] at member
    cases member
  | idle => exact .still tables rfl rfl rfl
  | entered asks entered => exact (entered.closes tables).idle (exchanges_entry asks w)
  | deeds meanwhile deeds => exact deeds.closes tables
  | deliver => exact closes_deliver tables
  | handOver => exact closes_handOver tables
  | flush =>
    have delivered := closes_deliverMany tables w.gate.tally.outbox.pending.length
    refine delivered.trans (closes_handOver delivered.tables) ?_
    rw [gate_deliverMany]
    rfl
  | call c => exact closes_call tables other
  | faults | reach | slow => exact .still tables rfl rfl rfl

theorem retained_run {moves : List Move} (tables : InMemory w) (alone : ∀ m ∈ moves, m.isRestart = false ∧ m.expires = false) :
    Retained (fun b => (w.visits moves).any (·.purges b)) w.backend.store.bans (w.run moves).backend.store.bans := by
  induction moves generalizing w with
  | nil => exact .refl _ _
  | cons m rest ih =>
    obtain ⟨stays, other⟩ := alone m List.mem_cons_self
    have first := (course stays w).closes tables other
    exact first.retained.trans (ih first.tables fun m later => alone m (List.mem_cons_of_mem _ later))

-- What a run reports is what its visits have had released, as long as no event is dropped.
theorem releases_run {moves : List Move} (tables : InMemory w) (recording : w.sink.Recording)
    (alone : ∀ m ∈ moves, m.isRestart = false ∧ m.expires = false) :
    InMemory (w.run moves) ∧ w.gate.trail.dropped ≤ (w.run moves).gate.trail.dropped ∧
      ((w.run moves).gate.trail.dropped = w.gate.trail.dropped →
        (w.run moves).releases = w.releases ++ (w.visits moves).flatMap fun v => v.ended.map (Event.autoReleased · v.world.gate.now)) := by
  induction moves generalizing w with
  | nil => exact ⟨tables, Nat.le_refl _, fun _ => (List.append_nil _).symm⟩
  | cons m rest ih =>
    obtain ⟨stays, other⟩ := alone m List.mem_cons_self
    have first := (course stays w).closes tables other
    obtain ⟨last, later, told⟩ := ih first.tables (first.recording recording) fun m after => alone m (List.mem_cons_of_mem _ after)
    have sooner := first.heard
    refine ⟨last, Nat.le_trans sooner later, fun heard => ?_⟩
    change ((w.step m).2.run rest).gate.trail.dropped = w.gate.trail.dropped at heard
    have here := first.told recording (by omega)
    calc ((w.step m).2.run rest).releases
        = (w.step m).2.releases ++ ((w.step m).2.visits rest).flatMap fun v => v.ended.map (Event.autoReleased · v.world.gate.now) :=
          told (by omega)
      _ = w.releases ++ (Visit.ended ⟨w, m⟩).map (Event.autoReleased · w.gate.now) ++
            ((w.step m).2.visits rest).flatMap fun v => v.ended.map (Event.autoReleased · v.world.gate.now) :=
          congrArg (· ++ _) here
      _ = w.releases ++ (w.visits (m :: rest)).flatMap fun v => v.ended.map (Event.autoReleased · v.world.gate.now) :=
          List.append_assoc ..

-- Whatever fails, and however often a sweep comes again: the releases that were audited are those of the rows that the store has released
-- for being past their deadline, one for each, in their order. Such a row tells that it was released then by the system, and like every
-- row that was released it stays as it is.
theorem autoReleases_told_once {b : Blueprint} {start : Nat} {w : World ν}
    (built : World.build b start .memory (.ofMedium (.memory [])) = .ok w) {moves : List Move}
    (alone : ∀ m ∈ moves, m.isRestart = false ∧ m.expires = false) (heard : (w.run moves).gate.trail.dropped = 0) :
    (w.run moves).audited.filter (·.action == Event.autoReleasedAction) =
        (w.visits moves).flatMap (fun v => v.ended.map (Event.autoReleased · v.world.gate.now)) ∧
      (∀ v ∈ w.visits moves, ∀ row ∈ v.ended,
        row.Ended v.world.gate.now ∧ (v.purges row = false → row ∈ v.after.backend.store.bans)) ∧
      ∀ first rest, moves = first ++ rest →
        Retained (fun row => ((w.run first).visits rest).any (·.purges row)) (w.run first).backend.store.bans
          (w.run moves).backend.store.bans := by
  have tables : InMemory w := ⟨.empty, by rw [(World.built built).backend]; rfl⟩
  obtain ⟨logged, told⟩ := logged_built built
  have silent : w.audited = [] := congrArg Chronicle.events told
  have none : w.releases = [] := congrArg (List.filter _) silent
  have visited : ∀ v ∈ w.visits moves, v.move.isRestart = false ∧ v.move.expires = false := by
    intro v member
    refine alone v.move ?_
    rw [← map_move_visits w moves]
    exact List.mem_map_of_mem member
  refine ⟨?_, fun v member => ?_, ?_⟩
  · obtain ⟨_, kept, reported⟩ := releases_run tables logged.recording alone
    rw [heard] at kept reported
    have all := reported (Nat.le_zero.1 kept).symm
    rw [none] at all
    exact all
  · have seen := visits_keep tables (fun v before own => ((course own.1 v.world).closes before own.2).tables) moves visited v member
    obtain ⟨stays, other⟩ := visited v member
    exact ((course stays v.world).closes seen.1 other).ended
  · rintro first rest rfl
    have reached := (releases_run tables logged.recording fun m member => alone m (List.mem_append_left _ member)).1
    rw [run_append]
    exact retained_run reached fun m later => alone m (List.mem_append_right _ later)

-- A ban runs out. The first sweep after that does not reach the store, the second one fails once the store has released the ban.
def shaky : List Move :=
  [.command (.ban "a" "abuse" (.ofMillis 100) 0 "admin") [], .flush, .command (.clock 200) [],
    .faults [some (.unavailable "injected")], .command (.maintain true) [],
    .faults [none, some (.unavailable "injected")], .command (.maintain true) []]

def lapsed : Ban := ⟨"a", 0, 100, "abuse", 0, "admin", some 200, some "system", true⟩

-- A third sweep has nothing left to do.
theorem shaky_told_once : (recorder.visits (shaky ++ [.command (.maintain true) []])).flatMap Visit.ended = [lapsed] ∧
    ((recorder.run (shaky ++ [.command (.maintain true) []])).audited.filter (·.action == Event.autoReleasedAction)).map
      (fun e => (e.actor, e.entity, e.reading)) = [("system", "a", 200)] ∧
    lapsed ∈ (recorder.run (shaky ++ [.command (.maintain true) []])).backend.store.bans := by
  obtain ⟨told, _, kept⟩ := autoReleases_told_once build_recorder
    (show ∀ m ∈ shaky ++ [.command (.maintain true) []], m.isRestart = false ∧ m.expires = false by decide) (by decide +kernel)
  refine ⟨by decide +kernel, ?_, (kept shaky _ rfl).mem (b := lapsed) (by decide +kernel) rfl (by decide +kernel)⟩
  rw [told]
  decide +kernel

end World

end Turnstile
