import Turnstile.Proofs.Gate.Effects
namespace Turnstile

variable {ν : Type}

namespace Routine

variable {α β : Type}

theorem run_map (f : α → β) (r : Routine (Gate ν) α) (g : Gate ν) (b : Backend) :
    (f <$> r).run g b = (f (r.run g b).1, (r.run g b).2.1, (r.run g b).2.2) := run_andThen r (fun a => .done (f a)) g b

end Routine

namespace Gate

section
variable (reason : String) (d : Duration) (failures : Nat) (actor : String)

theorem ban_of_sound {g : Gate ν} {client : String} (sound : banFault? client reason d = none) :
    ∃ event, g.ban client reason d failures actor =
      (.ok (g.bans.ban g.now client reason d failures actor).2.1,
        (({ g with bans := (g.bans.ban g.now client reason d failures actor).2.2 } : Gate ν).send
          (.ban (g.bans.ban g.now client reason d failures actor).2.1)).report event) := by
  have banned := g.ban_cases client reason d failures actor
  generalize g.ban client reason d failures actor = result at banned
  cases banned with
  | refused faulty => cases sound.symm.trans faulty
  | made _ event => exact ⟨event, rfl⟩

theorem ban_of_fault {g : Gate ν} {client : String} {fault : GateError} (faulty : banFault? client reason d = some fault) :
    g.ban client reason d failures actor = (.error fault, g) := by
  unfold ban
  rw [faulty]

end

section
variable (actor : String) (note : Option String)

theorem unban_of_fault {g : Gate ν} {client : String} {fault : ClientFault} (faulty : Client.fault? client = some fault) :
    g.unban client actor note = (.error (.client fault), g) := by
  unfold unban
  rw [faulty]

theorem unban_of_sound {g : Gate ν} {client : String} (sound : Client.fault? client = none) :
    g.activeBan client = none ∧
        g.unban client actor note = (.ok none, { g with bans := (g.bans.unban g.now client).2 }) ∨
      ∃ before event, g.activeBan client = some before ∧
        g.unban client actor note = (.ok (some (before.release g.now actor false)),
          (({ g with bans := (g.bans.unban g.now client).2 } : Gate ν).send
            (.release client g.now actor false)).report event) := by
  have unbanned := g.unban_cases client actor note
  generalize g.unban client actor note = result at unbanned
  cases unbanned with
  | refused faulty => cases sound.symm.trans faulty
  | idle free => exact .inl ⟨free, rfl⟩
  | ended active event => exact .inr ⟨_, event, active, rfl⟩

end

def horizon (g : Gate ν) (client : String) : Nat := windowStart (g.lookback client) g.tally.granularity

variable {g : Gate ν} {client : String}

variable [Quantity ν]

theorem screen_of_active {b : Ban} (active : g.activeBan client = some b) (endpoint : String) (critical : Bool) :
    g.screen client endpoint critical = (.answered (.banned (b.timeLeft g.now) b.reason), g) := by
  rw [Gate.screen, active]

-- What the bucket says to a request of a client that is free.
theorem screen_of_free (free : g.activeBan client = none) (endpoint : String) (critical : Bool) :
    g.screen client endpoint critical = match (g.acquire client).1 with
      | .denied wait => (.answered (.rateLimited wait), (g.acquire client).2.count client endpoint .throttled)
      | .allowed _ => if critical then (.undecided, (g.acquire client).2)
        else (.answered .admitted, (g.acquire client).2.count client endpoint .succeeded) := by
  rw [Gate.screen, free]
  cases g.acquire client with
  | mk decision after => cases decision <;> rfl

theorem screen_of_token (free : g.activeBan client = none) (token : (g.acquire client).1.isAllowed = true)
    (endpoint : String) : g.screen client endpoint true = (.undecided, (g.acquire client).2) := by
  rw [screen_of_free free]
  cases taken : (g.acquire client).1 with
  | allowed left => rfl
  | denied wait =>
    rw [taken] at token
    cases token

-- Only a critical request with a token is left undecided, and only a ban or an empty bucket refuses one at once.
theorem screen_undecided {g' : Gate ν} {endpoint : String} {critical : Bool}
    (screened : g.screen client endpoint critical = (.undecided, g')) :
    critical = true ∧ g' = (g.acquire client).2 := by
  cases free : g.activeBan client with
  | some b =>
    rw [screen_of_active free] at screened
    cases screened
  | none =>
    rw [screen_of_free free] at screened
    split at screened
    · cases screened
    · split at screened
      · rename_i severe
        exact ⟨severe, (Prod.mk.inj screened).2.symm⟩
      · cases screened

theorem screen_refused {g' : Gate ν} {endpoint : String} {critical : Bool} {a : Admission}
    (screened : g.screen client endpoint critical = (.answered a, g')) (refused : a.allowed = false) :
    (∃ wait, (g.acquire client).1 = .denied wait ∧ a = .rateLimited wait) ∨
      ∃ b, g.activeBan client = some b ∧ a = .banned (b.timeLeft g.now) b.reason := by
  cases free : g.activeBan client with
  | some b =>
    rw [screen_of_active free] at screened
    cases screened
    exact .inr ⟨b, rfl, rfl⟩
  | none =>
    rw [screen_of_free free] at screened
    split at screened
    · rename_i wait denied
      cases screened
      exact .inl ⟨wait, denied, rfl⟩
    · split at screened
      · cases screened
      · cases screened
        cases refused

-- A request step by step: it is screened, and judged if that does not decide it.
theorem enter_of_fault {fault : ClientFault} (faulty : Client.fault? client = some fault) (endpoint : String)
    (critical : Bool) (g : Gate ν) (b : Backend) :
    (enter client endpoint critical).run g b = (.error (.client fault), g, b) := by
  unfold enter
  rw [faulty]
  rfl

theorem enter_of_answered (sound : Client.fault? client = none) {endpoint : String} {critical : Bool} {g g' : Gate ν}
    {a : Admission} (screened : g.screen client endpoint critical = (.answered a, g')) (b : Backend) :
    (enter client endpoint critical).run g b = (.ok a, g', b) := by
  unfold enter
  rw [sound]
  simp only [Routine.run_bind, Routine.run_update, screened, Routine.run_pure]

theorem enter_of_undecided (sound : Client.fault? client = none) {endpoint : String} {critical : Bool} {g g' : Gate ν}
    (screened : g.screen client endpoint critical = (.undecided, g')) (b : Backend) :
    (enter client endpoint critical).run g b =
      let heard := b.call (.count client endpoint (g'.horizon client)) (some g'.config.criticalReadTimeout)
      (.ok (g'.judge client endpoint heard.1).1, (g'.judge client endpoint heard.1).2, heard.2) := by
  unfold enter
  rw [sound]
  simp only [Routine.run_bind, Routine.run_update, screened, Routine.run_state, Routine.run_callWithin, Routine.run_pure]
  rfl

theorem serve_run {inner : Inner} (ready : inner ≠ .notReady) (client endpoint : String) (critical : Bool) (g : Gate ν)
    (b : Backend) : (serve client endpoint critical inner).run g b =
      (served inner endpoint ((enter client endpoint critical).run g b).1,
        ((enter client endpoint critical).run g b).2.1, ((enter client endpoint critical).run g b).2.2) := by
  rw [serve_eq ready]
  exact Routine.run_map ..

omit [Quantity ν] in
theorem ban_room (room : g.tally.outbox.pending.length < g.tally.outbox.capacity) (client reason : String) (d : Duration)
    (failures : Nat) (actor : String) :
    (g.ban client reason d failures actor).2.tally.outbox.dropped = g.tally.outbox.dropped := by
  have banned := g.ban_cases client reason d failures actor
  generalize g.ban client reason d failures actor = result at banned
  cases banned with
  | refused => rfl
  | made _ event => exact Outbox.dropped_send_room room _

theorem enter_room (room : g.tally.outbox.pending.length < g.tally.outbox.capacity) (client endpoint : String)
    (critical : Bool) (b : Backend) :
    ((enter client endpoint critical).run g b).2.1.tally.outbox.dropped = g.tally.outbox.dropped := by
  cases sound : Client.fault? client with
  | some fault => rw [enter_of_fault sound]
  | none =>
    have screening := g.screen_cases client endpoint critical
    cases screened : g.screen client endpoint critical with
    | mk first after =>
      rw [screened] at screening
      cases screening with
      | banned => rw [enter_of_answered sound screened]
      | limited | admitted =>
        rw [enter_of_answered sound screened]
        exact Outbox.dropped_send_room room _
      | undecided limiter free severe =>
        rw [enter_of_undecided sound screened]
        dsimp only
        generalize (b.call _ _).1 = reading
        have judged := Gate.judge_cases { g with limiter } client endpoint reading
        generalize Gate.judge { g with limiter } client endpoint reading = result at judged
        cases judged with
        | admitted => rfl
        | @banned counts tier made g' reached banned event =>
          have kept := ban_room (g := { g with limiter }) room client g.policy.reason tier.duration (toHalf counts.failures) systemActor
          rw [banned] at kept
          exact kept

omit [Quantity ν] in
theorem readings_congr {t s : Tally} (width : t.granularity = s.granularity) (client endpoint : String) (since : Nat) :
    (t.readings client endpoint since : Routine (Gate ν) _) = s.readings client endpoint since := by
  cases t
  cases s
  cases width
  rfl

end Gate

namespace Command

variable [Quantity ν] {c : Command} {g h : Gate ν}

-- What asks the store no more than once.
def isSingle : Command → Bool
  | .maintain _ | .counts .. => false
  | _ => true

omit [Quantity ν] in
theorem writes_reports (reports : c.reports = true) (now : h.now = g.now)
    (granularity : h.tally.granularity = g.tally.granularity) : c.writes h = c.writes g := by
  cases c with
  | login | refused | outcome | record | append => simp only [writes, now, granularity]
  | _ => cases reports

def config? : Command → Option Config
  | .reconfigure config => some config
  | _ => none

theorem settings_update (kept : c.config? = none) (g : Gate ν) :
    (c.update g).config = g.config ∧ (c.update g).policy = g.policy := by
  cases c with
  | reconfigure => cases kept
  | acquire | clock => exact ⟨rfl, rfl⟩
  | _ => exact ⟨(basis_update rfl g).config, (basis_update rfl g).policy⟩

theorem run_enter (client endpoint : String) (critical : Bool) (g : Gate ν) (b : Backend) :
    (Command.enter client endpoint critical).routine.run g b =
      (.admission ((Gate.enter client endpoint critical).run g b).1,
        ((Gate.enter client endpoint critical).run g b).2.1, ((Gate.enter client endpoint critical).run g b).2.2) :=
  Routine.run_map ..

theorem run_serve {inner : Gate.Inner} (ready : inner ≠ .notReady) (client endpoint : String) (critical : Bool)
    (g : Gate ν) (b : Backend) : (Command.serve client endpoint critical inner).routine.run g b =
      (.served (Gate.served inner endpoint ((Gate.enter client endpoint critical).run g b).1),
        ((Gate.enter client endpoint critical).run g b).2.1, ((Gate.enter client endpoint critical).run g b).2.2) := by
  have mapped := Routine.run_map Reply.served (Gate.serve client endpoint critical inner) g b
  rw [Gate.serve_run ready] at mapped
  exact mapped

theorem run_counts (client endpoint : String) (since : Nat) (g : Gate ν) (b : Backend) :
    (Command.counts client endpoint since).routine.run g b =
      (.counted ((g.tally.readings client endpoint since).run g b).1,
        ((g.tally.readings client endpoint since).run g b).2.1, ((g.tally.readings client endpoint since).run g b).2.2) :=
  Routine.run_map ..

theorem run_restore (g : Gate ν) (b : Backend) : Command.restore.routine.run g b =
    (.restored (Gate.restore.run g b).1, (Gate.restore.run g b).2.1, (Gate.restore.run g b).2.2) :=
  Routine.run_map ..

theorem run_maintain (force : Bool) (g : Gate ν) (b : Backend) : (Command.maintain force).routine.run g b =
    (.report ((Gate.maintain force).run g b).1, ((Gate.maintain force).run g b).2.1, ((Gate.maintain force).run g b).2.2) :=
  Routine.run_map ..

theorem run_reports (reports : c.reports = true) :
    ∃ reply, ∀ (g : Gate ν) (b : Backend), c.routine.run g b = (reply, c.update g, b) := by
  have told (client : String) (f : Gate ν → Gate ν) (g : Gate ν) : (g.forClient client f).1 =
      (Client.fault? client).elim (.ok ()) fun fault => .error (.client fault) := by
    unfold Gate.forClient
    cases Client.fault? client <;> rfl
  cases c with
  | login client | refused client | outcome client =>
    refine ⟨.reported ((Client.fault? client).elim (.ok ()) fun fault => .error (.client fault)), fun g b => ?_⟩
    exact Prod.ext (congrArg Reply.reported (told client _ g)) rfl
  | record | append => exact ⟨.nothing, fun g b => rfl⟩
  | _ => cases reports

end Command

def Move.config? : Move → Option Config
  | .command c _ => c.config?
  | _ => none

namespace World

variable [Quantity ν]

theorem step_command (c : Command) (w : World ν) : w.step (.command c []) =
    ((c.routine.run w.gate w.backend).1, { w with
      gate := (c.routine.run w.gate w.backend).2.1
      backend := (c.routine.run w.gate w.backend).2.2 }) :=
  perform_nil c.routine w

theorem settings_step {m : Move} (own : m.isOwn) (kept : m.config? = none) (w : World ν) :
    (w.step m).2.gate.config = w.gate.config ∧ (w.step m).2.gate.policy = w.gate.policy := by
  have told := moved w own
  generalize (w.step m).2 = u at told
  cases told with
  | plain same =>
    obtain ⟨_, meanwhile, rfl⟩ := Move.plain_asks same
    exact Command.settings_update kept w.gate
  | idle => exact ⟨rfl, rfl⟩
  | entered other enters entered => exact ⟨entered.frame.config, entered.frame.policy⟩
  | acted other enters acts => exact ⟨acts.frame.config, acts.frame.policy⟩
  | flushed other n => exact ⟨(frame_deliverMany n w).config, (frame_deliverMany n w).policy⟩
  | weather => exact ⟨rfl, rfl⟩

section
variable {w : World ν} (drained : w.pending = [])
include drained

omit [Quantity ν] in
-- A single question that finds the queue empty is answered before anything can be delivered.
theorem perform_ask_drained {α : Type} {c : Call} {limit : Option Duration} {next : Except StoreError c.Answer → Routine (Gate ν) α}
    (last : ∀ answer later v, perform later (next answer) v = perform [] (next answer) v) (meanwhile : List Nat) :
    perform meanwhile (.ask c limit next) w = perform [] (.ask c limit next) w := by
  cases met : w.backend.arrive.1 with
  | some e =>
    rw [perform_ask_failed met, perform_ask_failed met]
    exact last _ _ _
  | none =>
    have waited (n : Nat) : ({ w with backend := w.backend.arrive.2 } : World ν) =
        deliverMany n { w with backend := w.backend.arrive.2 } :=
      (deliverMany_of_nil (w := { w with backend := w.backend.arrive.2 }) drained n).symm
    rw [perform_ask_arrived met (waited _), perform_ask_arrived met (waited _)]
    exact last _ _ _

-- A request queues nothing before it has asked.
theorem perform_enter (client endpoint : String) (critical : Bool) (meanwhile : List Nat) :
    perform meanwhile (Gate.enter client endpoint critical) w = perform [] (Gate.enter client endpoint critical) w := by
  unfold Gate.enter
  cases Client.fault? client with
  | some fault => rfl
  | none =>
    have screening := w.gate.screen_cases client endpoint critical
    dsimp only
    rw [perform_update, perform_update]
    generalize w.gate.screen client endpoint critical = result at screening
    cases screening with
    | banned | limited | admitted => rfl
    | undecided limiter free severe =>
      dsimp only
      rw [perform_state, perform_state]
      exact perform_ask_drained (w := { w with gate := { w.gate with limiter } }) drained (fun _ _ _ => rfl) meanwhile

theorem perform_serve (client endpoint : String) (critical : Bool) (inner : Gate.Inner) (meanwhile : List Nat) :
    perform meanwhile (Gate.serve client endpoint critical inner) w =
      perform [] (Gate.serve client endpoint critical inner) w := by
  by_cases ready : inner = .notReady
  · subst ready
    rfl
  · rw [Gate.serve_eq ready, perform_map, perform_map, perform_enter drained]

theorem step_drained {c : Command} (single : c.isSingle = true) (meanwhile : List Nat) :
    w.step (.command c meanwhile) = w.step (.command c []) := by
  have mapped {α : Type} {r : Routine (Gate ν) α} (f : α → Reply) (same : perform meanwhile r w = perform [] r w) :
      perform meanwhile (f <$> r) w = perform [] (f <$> r) w := by
    rw [perform_map, perform_map, same]
  cases c with
  | enter client endpoint critical => exact mapped _ (perform_enter drained client endpoint critical meanwhile)
  | serve client endpoint critical inner => exact mapped _ (perform_serve drained client endpoint critical inner meanwhile)
  | restore =>
    refine mapped _ (perform_ask_drained drained ?_ meanwhile)
    intro answer later v
    cases answer <;> rfl
  | maintain | counts => cases single
  | _ => rfl

end

end World

end Turnstile
