import Turnstile.Proofs.Outbox.Queue
import Turnstile.Proofs.World.Acts
namespace Turnstile

namespace Gate

def served (inner : Inner) (endpoint : String) : Except GateError Admission → Except ServiceError String
  | .error e => .error (.gate e)
  | .ok a =>
    if a.allowed then if inner = .fails then .error (.inner ("failed " ++ endpoint)) else .ok endpoint
    else .error (.denied a)

theorem serve_eq {ν : Type} [Quantity ν] {inner : Inner} (ready : inner ≠ .notReady) (client endpoint : String) (critical : Bool) :
    (serve client endpoint critical inner : Routine (Gate ν) _) = served inner endpoint <$> enter client endpoint critical := by
  unfold serve
  rw [if_neg ready]
  refine congrArg (enter client endpoint critical).andThen (funext fun answer => ?_)
  cases answer with
  | error e => rfl
  | ok a =>
    show _ = (pure (served inner endpoint (.ok a)) : Routine (Gate ν) _)
    dsimp only [served]
    split
    · split <;> rfl
    · rfl

end Gate

namespace Command

variable {ν : Type} [Quantity ν]

def asks : Command → Bool
  | .enter .. | .serve .. | .restore | .maintain _ | .counts .. => true
  | _ => false

def sweeps : Command → Prop
  | .maintain _ => True
  | _ => False

instance : (c : Command) → Decidable c.sweeps
  | .maintain _ => .isTrue trivial
  | .enter .. | .serve .. | .login .. | .refused .. | .outcome .. | .ban .. | .unban .. | .release .. | .restore
  | .expire | .prune _ | .reconfigure _ | .acquire _ | .record .. | .append _ | .counts .. | .clock _ => .isFalse id

def update (g : Gate ν) : Command → Gate ν
  | .login client endpoint username success why => (g.reportLogin client endpoint username success why).2
  | .refused client username admission => (g.reportRefused client username admission).2
  | .outcome client endpoint success => (g.reportOutcome client endpoint success).2
  | .ban client reason length failures actor => (g.ban client reason length failures actor).2
  | .unban client actor note => (g.unban client actor note).2
  | .release client actor reason => (g.release client actor reason).2
  | .expire => g.expire.2
  | .prune before => (g.pruneFloors before).2
  | .reconfigure config => (g.reconfigure config).2
  | .acquire client => (g.acquire client).2
  | .record client endpoint kind => g.count client endpoint kind
  | .append attempt => g.appendAttempt attempt
  | .clock reading => { g with now := reading }
  | _ => g

-- What is asked for a client with an unsound identifier queues nothing.
def sound (client : String) (writes : List Write) : List Write :=
  match Client.fault? client with
  | some _ => []
  | none => writes

def writes (g : Gate ν) : Command → List Write
  | .login client endpoint username success why =>
    sound client
      [.window client endpoint (windowStart g.now g.tally.granularity) (.ofSuccess success),
        .attempt
          { username
            address := client
            success
            failureReason := if success then none else why
            rateLimited := false
            timestamp := g.now }]
  | .refused client username admission =>
    sound client
      [.attempt
        { username
          address := client
          success := false
          failureReason := some admission.reason
          rateLimited := admission.reason == Admission.limitedReason
          timestamp := g.now }]
  | .outcome client endpoint success =>
    sound client
      [.window client endpoint (windowStart g.now g.tally.granularity) (.ofSuccess success)]
  | .ban client reason length failures actor =>
    match (g.ban client reason length failures actor).1 with
    | .ok made => [.ban made]
    | .error _ => []
  | .unban client actor _ | .release client actor _ =>
    match (g.unban client actor none).1 with
    | .ok (some _) => [.release client g.now actor false]
    | _ => []
  | .record client endpoint kind =>
    [.window client endpoint (windowStart g.now g.tally.granularity) kind]
  | .append attempt => [.attempt attempt]
  | _ => []

theorem step_plain {c : Command} (plain : c.asks = false) (meanwhile : List Nat) (w : World ν) :
    (w.step (.command c meanwhile)).2 = { w with gate := c.update w.gate } := by
  cases c <;> first | rfl | cases plain

def reports : Command → Bool
  | .login .. | .refused .. | .outcome .. | .record .. | .append _ => true
  | _ => false

theorem update_reports {c : Command} (reports : c.reports = true) (g : Gate ν) :
    c.update g = g.setOutbox (g.tally.outbox.sendAll (c.writes g)) := by
  cases c with
  | login client endpoint username success why =>
    simp only [update, writes, Gate.reportLogin, Gate.forClient, sound]
    cases Client.fault? client <;> rfl
  | refused client username admission =>
    simp only [update, writes, Gate.reportRefused, Gate.forClient, sound]
    cases Client.fault? client <;> rfl
  | outcome client endpoint success =>
    simp only [update, writes, Gate.reportOutcome, Gate.forClient, sound]
    cases Client.fault? client <;> rfl
  | record | append => rfl
  | _ => cases reports

-- A configuration that is refused changes nothing, and one that is taken changes settings and limits only.
theorem reconfigure_keeps (config : Config) (g : Gate ν) : ∃ settings policy limiter,
    (Command.reconfigure config).update g = { g with config := settings, policy, limiter } := by
  simp only [update, Gate.reconfigure_eq]
  cases config.fault? with
  | some fault => exact ⟨g.config, g.policy, g.limiter, rfl⟩
  | none => cases Policy.ofConfig config <;> exact ⟨_, _, _, rfl⟩

-- The queue is the only part of the counting that a command touches.
theorem tally_update {c : Command} (plain : c.asks = false) (g : Gate ν) :
    (c.update g).tally = { g.tally with outbox := g.tally.outbox.sendAll (c.writes g) } := by
  cases c with
  | login | refused | outcome | record | append =>
    rw [update_reports rfl]
    rfl
  | ban client reason length failures actor =>
    simp only [update, writes, Gate.ban]
    cases Gate.banFault? client reason length <;> rfl
  | unban client actor note =>
    simp only [update, writes, Gate.unban]
    cases Client.fault? client with
    | some fault => rfl
    | none => cases found : g.bans.unban g.now client with
      | mk before bans => cases before <;> rfl
  | release client actor reason =>
    simp only [update, writes, Gate.release, Gate.unban]
    cases Client.fault? client with
    | some fault => rfl
    | none => cases found : g.bans.unban g.now client with
      | mk before bans => cases before <;> rfl
  | reconfigure config =>
    obtain ⟨_, _, _, same⟩ := reconfigure_keeps config g
    rw [same]
    rfl
  | expire => rfl
  | prune before => rfl
  | acquire client => rfl
  | clock reading => rfl
  | enter | serve | restore | maintain | counts => cases plain

def isQuiet : Command → Bool
  | .ban .. | .unban .. | .release .. | .expire | .prune _ | .clock _ => false
  | _ => true

theorem quiet_update {c : Command} (quiet : c.isQuiet) (g : Gate ν) :
    (c.update g).bans = g.bans ∧ (c.update g).now = g.now := by
  cases c with
  | login | refused | outcome | record | append =>
    rw [update_reports rfl]
    exact ⟨rfl, rfl⟩
  | reconfigure config =>
    obtain ⟨_, _, _, same⟩ := reconfigure_keeps config g
    rw [same]
    exact ⟨rfl, rfl⟩
  | ban | unban | release | expire | prune | clock => cases quiet
  | _ => exact ⟨rfl, rfl⟩

theorem quiet_trail {c : Command} (quiet : c.isQuiet) (g : Gate ν) : (c.update g).trail = g.trail := by
  cases c with
  | login | refused | outcome | record | append =>
    rw [update_reports rfl]
    rfl
  | reconfigure config =>
    obtain ⟨_, _, _, same⟩ := reconfigure_keeps config g
    rw [same]
  | ban | unban | release | expire | prune | clock => cases quiet
  | _ => rfl

omit [Quantity ν] in
theorem plain_writes {c : Command} (quiet : c.isQuiet) (g : Gate ν) : ∀ write ∈ c.writes g, write.isPlain := by
  have tell {client : String} {writes : List Write} (plain : ∀ write ∈ writes, write.isPlain) :
      ∀ write ∈ sound client writes, write.isPlain := by
    unfold Command.sound
    split
    · exact fun write member => absurd member List.not_mem_nil
    · exact plain
  have single {write : Write} (plain : write.isPlain) : ∀ other ∈ [write], other.isPlain := fun other member => by
    rwa [List.mem_singleton.1 member]
  cases c with
  | login =>
    refine tell fun write member => ?_
    rcases List.mem_cons.1 member with rfl | rest
    · rfl
    · exact single rfl write rest
  | refused => exact tell (single rfl)
  | outcome => exact tell (single rfl)
  | record => exact single rfl
  | append => exact single rfl
  | ban | unban | release | expire | prune | clock => cases quiet
  | _ => exact fun write member => absurd member List.not_mem_nil

end Command

namespace Move

def isOwn : Move → Bool
  | .call _ | .restart _ => false
  | _ => true

-- Neither another user of the store nor another gate, and the parts of the gate are left to the gate: no floor
-- is forgotten before its time, and no failure is counted that was not reported.
def isOrdinary : Move → Bool
  | .call _ | .restart _ | .command (.prune _) _ | .command (.record ..) _ => false
  | _ => true

theorem isOwn_of_isOrdinary {m : Move} (ordinary : m.isOrdinary) : m.isOwn := by
  cases m <;> first | rfl | cases ordinary

def plain? : Move → Option Command
  | .command c _ => if c.asks then none else some c
  | _ => none

theorem plain_asks {m : Move} {c : Command} (same : m.plain? = some c) :
    c.asks = false ∧ ∃ meanwhile, m = .command c meanwhile := by
  cases m with
  | command d meanwhile =>
    rw [plain?] at same
    split at same
    · cases same
    · rename_i plain
      cases same
      exact ⟨Bool.eq_false_iff.2 plain, meanwhile, rfl⟩
  | _ => cases same

def enters : Move → Bool
  | .command (.enter ..) _ | .command (.serve ..) _ => true
  | _ => false

def sweeps : Move → Prop
  | .command c _ => c.sweeps
  | _ => False

instance : (m : Move) → Decidable m.sweeps
  | .command c _ => inferInstanceAs (Decidable c.sweeps)
  | .call _ | .faults _ | .reach _ | .slow _ | .deliver | .handOver | .flush | .restart _ => .isFalse id

end Move

namespace World

variable {ν : Type}

theorem gate_deliver (w : World ν) : w.deliver.gate = w.gate.setOutbox w.deliver.gate.tally.outbox := by
  rw [deliver_eq]
  rfl

theorem gate_deliverMany (n : Nat) (w : World ν) :
    (deliverMany n w).gate = w.gate.setOutbox (deliverMany n w).gate.tally.outbox := by
  induction n generalizing w with
  | zero => rfl
  | succ n ih =>
    show (deliverMany n w.deliver).gate = w.gate.setOutbox (deliverMany n w.deliver).gate.tally.outbox
    rw [ih w.deliver, gate_deliver w]
    rfl

-- The store is asked for a client's failures, from where they count, and says something or fails.
def Reads (w : World ν) (client endpoint : String) (reading : Except StoreError Counts) : Prop :=
  w.backend.finish (.count client endpoint (windowStart (w.gate.lookback client) w.gate.tally.granularity))
    (some w.gate.config.criticalReadTimeout) = (reading, w.backend)

theorem lookback_setOutbox (o : Outbox) (g : Gate ν) (client : String) :
    (g.setOutbox o).lookback client = g.lookback client := by
  unfold Gate.lookback
  rfl

-- The question looks at nothing that a delivery changes.
theorem reads_of_gate {w : World ν} {g : Gate ν} {o : Outbox} (kept : w.gate = g.setOutbox o)
    {client endpoint : String} {reading : Except StoreError Counts}
    (finished : w.backend.finish (.count client endpoint (windowStart (g.lookback client) g.tally.granularity))
      (some g.config.criticalReadTimeout) = (reading, w.backend)) : w.Reads client endpoint reading := by
  unfold Reads
  rw [kept, lookback_setOutbox]
  exact finished

variable [Quantity ν]

theorem pending_update {c : Command} (plain : c.asks = false) {w : World ν}
    (lossless : (c.update w.gate).tally.outbox.dropped = w.gate.tally.outbox.dropped) :
    ({ w with gate := c.update w.gate } : World ν).pending = w.pending ++ c.writes w.gate := by
  have queue := congrArg Tally.outbox (Command.tally_update plain w.gate)
  rw [queue] at lossless
  unfold World.pending
  rw [queue, Outbox.sendAll_kept lossless]

-- The answer to a request and the whole afterwards. A request that is judged has waited for the store,
-- and is judged by what the store says then; a fault of the call says nothing.
inductive Entered (w : World ν) (client endpoint : String) (critical : Bool) :
    Except GateError Admission × World ν → Prop where
  | unsound {fault : ClientFault} (faulty : Client.fault? client = some fault) :
      Entered w client endpoint critical (.error (.client fault), w)
  | answered {a : Admission} {gate : Gate ν} (sound : Client.Valid client)
      (screened : w.gate.screen client endpoint critical = (.answered a, gate)) :
      Entered w client endpoint critical (.ok a, { w with gate })
  | judged {gate : Gate ν} {n : Nat} {u : World ν} {reading : Except StoreError Counts}
      (sound : Client.Valid client) (screened : w.gate.screen client endpoint critical = (.undecided, gate))
      (waited : u = deliverMany n { w with gate, backend := w.backend.arrive.2 })
      (read : (w.backend.arrive.1 = none ∧ u.Reads client endpoint reading) ∨
        ∃ e, w.backend.arrive.1 = some e ∧ reading = .error e) :
      Entered w client endpoint critical (.ok (u.gate.judge client endpoint reading).1,
        { u with gate := (u.gate.judge client endpoint reading).2 })

theorem judged_cases {w : World ν} {client endpoint : String} {critical : Bool} {gate : Gate ν}
    (sound : Client.Valid client) (screened : w.gate.screen client endpoint critical = (.undecided, gate))
    (meanwhile : List Nat) : Entered w client endpoint critical
      (perform meanwhile (do
        let reading ← Routine.callWithin gate.config.criticalReadTimeout
          (gate.tally.since client endpoint (gate.lookback client))
        let a ← Routine.update fun g => g.judge client endpoint reading
        pure (.ok a)) { w with gate }) := by
  obtain ⟨n, u, reading, _, waited, read, _, done⟩ := perform_lookup
    (some gate.config.criticalReadTimeout)
    (Store.answer_count client endpoint (windowStart (gate.lookback client) gate.tally.granularity))
    (fun answer g => g.judge client endpoint answer) Except.ok meanwhile ({ w with gate } : World ν)
  have kept := gate_deliverMany n { w with gate, backend := w.backend.arrive.2 }
  rw [← waited] at kept
  have entered : Entered w client endpoint critical _ := .judged sound screened waited
    (read.imp_left fun known => ⟨known.1, reads_of_gate kept known.2⟩)
  rw [← done] at entered
  exact entered

theorem enter_cases (client endpoint : String) (critical : Bool) (meanwhile : List Nat) (w : World ν) :
    Entered w client endpoint critical (perform meanwhile (Gate.enter client endpoint critical) w) := by
  unfold Gate.enter
  cases sound : Client.fault? client with
  | some fault => exact .unsound sound
  | none =>
    dsimp only
    rw [perform_update]
    cases screened : w.gate.screen client endpoint critical with
    | mk screening gate =>
      cases screening with
      | answered a => exact .answered sound screened
      | undecided =>
        dsimp only
        rw [perform_state]
        exact judged_cases sound screened meanwhile

theorem serve_cases (client endpoint : String) (critical : Bool) (inner : Gate.Inner) (meanwhile : List Nat)
    (w : World ν) :
    (perform meanwhile (Gate.serve client endpoint critical inner) w).2 = w ∨
      ∃ answer, Entered w client endpoint critical
        (answer, (perform meanwhile (Gate.serve client endpoint critical inner) w).2) := by
  by_cases ready : inner = .notReady
  · left
    unfold Gate.serve
    rw [if_pos ready]
    rfl
  · refine .inr ⟨(perform meanwhile (Gate.enter client endpoint critical) w).1, ?_⟩
    rw [Gate.serve_eq ready, perform_map]
    exact enter_cases client endpoint critical meanwhile w

theorem step_enter (client endpoint : String) (critical : Bool) (meanwhile : List Nat) (w : World ν) :
    ∃ answer, (w.step (.command (.enter client endpoint critical) meanwhile)).1 = .admission answer ∧
      Entered w client endpoint critical
        (answer, (w.step (.command (.enter client endpoint critical) meanwhile)).2) := by
  have mapped := perform_map Reply.admission (Gate.enter client endpoint critical) meanwhile w
  refine ⟨(perform meanwhile (Gate.enter client endpoint critical) w).1, congrArg Prod.fst mapped, ?_⟩
  have entered := enter_cases client endpoint critical meanwhile w
  have same : (w.step (.command (.enter client endpoint critical) meanwhile)).2 =
    (perform meanwhile (Gate.enter client endpoint critical) w).2 := congrArg Prod.snd mapped
  rw [same]
  exact entered

theorem step_serve (client endpoint : String) (critical : Bool) (inner : Gate.Inner) (meanwhile : List Nat)
    (w : World ν) : (w.step (.command (.serve client endpoint critical inner) meanwhile)).2 = w ∨
      ∃ answer, Entered w client endpoint critical
        (answer, (w.step (.command (.serve client endpoint critical inner) meanwhile)).2) := by
  have mapped := perform_map Reply.served (Gate.serve client endpoint critical inner) meanwhile w
  have same : (w.step (.command (.serve client endpoint critical inner) meanwhile)).2 =
    (perform meanwhile (Gate.serve client endpoint critical inner) w).2 := congrArg Prod.snd mapped
  rw [same]
  exact serve_cases client endpoint critical inner meanwhile w

theorem step_restore (meanwhile : List Nat) (w : World ν) :
    Acts False w (w.step (.command .restore meanwhile)).2 :=
  (from_reloads False w).restore.map (R := fun _ => Acts False w) (fun _ _ acts => acts) meanwhile w .refl

theorem step_maintain (force : Bool) (meanwhile : List Nat) (w : World ν) :
    Acts True w (w.step (.command (.maintain force) meanwhile)).2 :=
  ((from_withstands w trivial).maintain force).map (R := fun _ => Acts True w) (fun _ _ acts => acts) meanwhile w .refl

theorem step_counts (client endpoint : String) (since : Nat) (meanwhile : List Nat) (w : World ν) :
    Acts False w (w.step (.command (.counts client endpoint since) meanwhile)).2 := by
  have leads : Leads (Acts False w) (Command.routine (.counts client endpoint since))
      (fun _ => Acts False w) :=
    .read fun u _ => ((from_reloads False w).readings u.gate.tally client endpoint since).map fun _ _ acts => acts
  exact leads meanwhile w .refl

-- What one move does to a gate that is alone with its store. Only calls of others and another gate in
-- place of this one are left out.
inductive Moved (w : World ν) (m : Move) : World ν → Prop where
  | plain {c : Command} (same : m.plain? = some c) : Moved w m { w with gate := c.update w.gate }
  | idle (other : m.plain? = none) : Moved w m w
  | entered {client endpoint : String} {critical : Bool} {answer : Except GateError Admission} {u : World ν}
      (other : m.plain? = none) (enters : m.enters = true)
      (entered : Entered w client endpoint critical (answer, u)) : Moved w m u
  | acted {u : World ν} (other : m.plain? = none) (enters : m.enters = false) (acts : Acts m.sweeps w u) :
      Moved w m u
  | flushed (other : m.plain? = none) (n : Nat) : Moved w m (deliverMany n w).handOver
  | weather {backend : Backend} (other : m.plain? = none) (kept : backend.store = w.backend.store) :
      Moved w m { w with backend }

theorem moved_command (c : Command) (meanwhile : List Nat) (w : World ν) :
    Moved w (.command c meanwhile) (w.step (.command c meanwhile)).2 := by
  cases asks : c.asks with
  | false =>
    have same : (Move.command c meanwhile).plain? = some c := by rw [Move.plain?, asks]; rfl
    rw [Command.step_plain asks]
    exact .plain same
  | true =>
    cases c with
    | enter client endpoint critical =>
      obtain ⟨answer, _, entered⟩ := step_enter client endpoint critical meanwhile w
      exact .entered rfl rfl entered
    | serve client endpoint critical inner =>
      rcases step_serve client endpoint critical inner meanwhile w with same | ⟨answer, entered⟩
      · rw [same]
        exact .idle rfl
      · exact .entered rfl rfl entered
    | restore => exact .acted rfl rfl (step_restore meanwhile w)
    | maintain force => exact .acted rfl rfl (step_maintain force meanwhile w)
    | counts client endpoint since => exact .acted rfl rfl (step_counts client endpoint since meanwhile w)
    | _ => cases asks

theorem moved (w : World ν) {m : Move} (own : m.isOwn) : Moved w m (w.step m).2 := by
  cases m with
  | command c meanwhile => exact moved_command c meanwhile w
  | faults script => exact .weather rfl rfl
  | reach on => exact .weather rfl rfl
  | slow latency => exact .weather rfl rfl
  | deliver => exact .acted rfl rfl (.tail .refl (.deliver w))
  | handOver => exact .flushed rfl 0
  | flush => exact .flushed rfl _
  | call => cases own
  | restart => cases own

end World

end Turnstile
