import Turnstile.Proofs.Gate.Outage
import Turnstile.Proofs.World.Exchanges
import Turnstile.Proofs.World.Requests
namespace Turnstile

variable {ν α β : Type}

namespace World

variable [Quantity ν]

inductive Deed : World ν → List Exchange → World ν → Prop where
  | arrive (w) : Deed w [] { w with backend := w.backend.arrive.2 }
  | deliver (w) : Deed w [] w.deliver
  | expire (w) : Deed w [] { w with gate := w.gate.expire.2 }
  | prune (w) (cutoff : Nat) : Deed w [] { w with gate := (w.gate.pruneFloors cutoff).2 }
  | evict (w) (idle : Nat) :
      Deed w [] { w with gate := { w.gate with limiter := (w.gate.limiter.evictIdle w.gate.now idle).2 } }
  | upkeep (w) (u : Upkeep) : Deed w [] { w with gate := { w.gate with upkeep := u } }
  | fail (w) (c : Call) (e : StoreError) : Deed w [⟨⟨c, .error e⟩, w.backend.store, w.backend.store⟩] w
  | ask (w) {c : Call} {a : c.Answer} {backend : Backend} (plain : ∀ reading, c ≠ .releaseExpired reading)
      (answered : w.backend.finish c none = (.ok a, backend)) :
      Deed w [⟨⟨c, .ok a⟩, w.backend.store, backend.store⟩] { w with backend }
  | reload (w) {rows : List Ban} {backend : Backend}
      (answered : w.backend.finish (.active w.gate.now) none = (.ok rows, backend)) :
      Deed w [⟨⟨.active w.gate.now, .ok rows⟩, w.backend.store, backend.store⟩]
        { w with backend, gate := (w.gate.merge w.gate.now rows).2 }
  | release (w) {released : List Ban} {backend : Backend}
      (answered : w.backend.finish (.releaseExpired w.gate.now) none = (.ok released, backend)) :
      Deed w [⟨⟨.releaseExpired w.gate.now, .ok released⟩, w.backend.store, backend.store⟩]
        { w with backend, gate := w.gate.reportReleased released }

inductive Deeds : World ν → List Exchange → World ν → Prop where
  | nil (w) : Deeds w [] w
  | cons {w v u : World ν} {xs ys : List Exchange} (deed : Deed w xs v) (rest : Deeds v ys u) : Deeds w (xs ++ ys) u

variable {w v u : World ν} {xs ys : List Exchange}

theorem Deeds.trans (first : Deeds w xs v) (rest : Deeds v ys u) : Deeds w (xs ++ ys) u := by
  induction first with
  | nil => exact rest
  | cons deed _ ih =>
    rw [List.append_assoc]
    exact .cons deed (ih rest)

theorem Deeds.single (deed : Deed w xs u) : Deeds w xs u := List.append_nil xs ▸ .cons deed (.nil u)

theorem deeds_deliverMany (n : Nat) (w : World ν) : Deeds w [] (deliverMany n w) :=
  deliverMany_keeps (P := fun u => Deeds w [] u) (fun u deeds => deeds.trans (.single (.deliver u))) n (.nil w)

theorem Deed.now (deed : Deed w xs u) : u.gate.now = w.gate.now := by
  cases deed with
  | deliver => exact (frame_deliver w).now
  | _ => rfl

theorem Deeds.now (deeds : Deeds w xs u) : u.gate.now = w.gate.now := by
  induction deeds with
  | nil => rfl
  | cons deed _ ih => exact ih.trans deed.now

variable {now : Nat}

-- Work that consists of deeds, whatever is delivered meanwhile.
def Does (now : Nat) (r : Routine (Gate ν) α) : Prop :=
  ∀ meanwhile w, w.gate.now = now → Deeds w (exchanges meanwhile r w) (perform meanwhile r w).2

namespace Does

variable {r : Routine (Gate ν) α}

theorem pure (a : α) : Does now (Pure.pure a : Routine (Gate ν) α) := fun _ w _ => .nil w

theorem bind {f : α → Routine (Gate ν) β} (first : Does now r) (rest : ∀ a, Does now (f a)) : Does now (r >>= f) := by
  intro meanwhile w reading
  obtain ⟨later, listed, performed⟩ := exchanges_andThen r f meanwhile w
  have before := first meanwhile w reading
  change Deeds w (exchanges meanwhile (r.andThen f) w) (perform meanwhile (r.andThen f) w).2
  rw [listed, performed]
  exact before.trans (rest _ later _ (before.now.trans reading))

theorem map {f : α → β} (first : Does now r) : Does now (f <$> r) := first.bind fun a => pure (f a)

theorem read {f : Gate ν → Routine (Gate ν) β} (rest : ∀ g : Gate ν, g.now = now → Does now (f g)) :
    Does now (Routine.state >>= f) :=
  fun meanwhile w reading => rest w.gate reading meanwhile w reading

theorem update {f : Gate ν → α × Gate ν} (deed : ∀ w : World ν, Deed w [] { w with gate := (f w.gate).2 }) :
    Does now (.update f) :=
  fun _ w _ => .single (deed w)

theorem change {f : Gate ν → Gate ν} (deed : ∀ w : World ν, Deed w [] { w with gate := f w.gate }) : Does now (.change f) :=
  fun _ w _ => .single (deed w)

theorem ask {asked : Call} {next : Except StoreError asked.Answer → Routine (Gate ν) β} (failed : ∀ e, Does now (next (.error e)))
    (answered : ∀ (v : World ν) a backend, v.gate.now = now → v.backend.finish asked none = (.ok a, backend) → ∀ later,
      Deeds v (⟨⟨asked, .ok a⟩, v.backend.store, backend.store⟩ :: exchanges later (next (.ok a)) { v with backend })
        (perform later (next (.ok a)) { v with backend }).2) : Does now (Routine.call asked >>= next) := by
  intro meanwhile w reading
  change Deeds w (exchanges meanwhile (.ask asked none next) w) (perform meanwhile (.ask asked none next) w).2
  have arrived := Deeds.single (.arrive w)
  have kept := Backend.store_arrive w.backend
  unfold exchanges perform
  cases met : w.backend.arrive with
  | mk fault backend =>
    rw [met] at arrived kept
    cases fault with
    | some e =>
      have refused : Deeds { w with backend } [⟨⟨asked, .error e⟩, backend.store, backend.store⟩] { w with backend } :=
        .single (.fail _ asked e)
      dsimp only at kept ⊢
      rw [kept] at refused ⊢
      exact arrived.trans (refused.trans (failed e meanwhile.tail { w with backend } reading))
    | none =>
      have waited := arrived.trans (deeds_deliverMany (meanwhile.headD 0) _)
      dsimp only
      generalize deliverMany (meanwhile.headD 0) { w with backend } = v at waited
      have still := waited.now.trans reading
      cases finished : v.backend.finish asked none with
      | mk answer backend' =>
        cases answer with
        | ok a => exact waited.trans (answered v a backend' still finished meanwhile.tail)
        | error e =>
          rw [Backend.finish_error finished]
          exact waited.trans ((Deeds.single (.fail v asked e)).trans (failed e meanwhile.tail v still))

theorem call {asked : Call} (plain : ∀ reading, asked ≠ .releaseExpired reading)
    {next : Except StoreError asked.Answer → Routine (Gate ν) β} (rest : ∀ answer, Does now (next answer)) :
    Does now (Routine.call asked >>= next) := by
  refine ask (fun e => rest _) fun v a backend reading finished later => ?_
  exact .cons (.ask v plain finished) (rest (.ok a) later { v with backend } reading)

theorem restore : Does now (Gate.restore (ν := ν)) := by
  unfold Gate.restore
  refine read fun g reading => ?_
  rw [reading]
  refine ask (fun e => pure _) fun v rows backend still finished later => ?_
  subst still
  exact .single (.reload v finished)

-- The rows that the store has released are reported before anything else happens.
theorem release {next : Except StoreError (Call.releaseExpired now).Answer → Routine (Gate ν) β}
    {rest : List Ban → Routine (Gate ν) β} (failed : ∀ e, Does now (next (.error e)))
    (reported : ∀ rows, next (.ok rows) = Routine.change (·.reportReleased rows) >>= fun _ => rest rows)
    (going : ∀ rows, Does now (rest rows)) : Does now (Routine.call (.releaseExpired now) >>= next) := by
  refine ask failed fun v rows backend still finished later => ?_
  rw [reported rows]
  subst still
  exact .cons (.release v finished) (going rows later _ rfl)

theorem sweepBans (c : Config) : Does now (Gate.sweepBans (ν := ν) c now) := by
  unfold Gate.sweepBans
  refine (update Deed.expire).bind fun _ => ?_
  refine release (fun e => pure _) (fun rows => rfl) fun rows => ?_
  refine restore.bind fun restored => ?_
  cases restored with
  | error e => exact pure _
  | ok n => exact (update fun w => .prune w _).bind fun _ => pure _

theorem sweepBuckets (c : Config) : Does now (Gate.sweepBuckets (ν := ν) c) :=
  (update fun w => .evict w c.bucketIdle.millis).bind fun _ => pure _

theorem sweepHistory (c : Config) : Does now (Gate.sweepHistory (ν := ν) c now) := by
  unfold Gate.sweepHistory
  refine call ?_ fun attempts => ?_
  · exact fun _ => nofun
  cases attempts with
  | error e => exact pure _
  | ok attempts =>
    refine call ?_ fun bans => ?_
    · exact fun _ => nofun
    cases bans with
    | error e => exact pure _
    | ok bans => exact pure _

theorem work (c : Config) (s : Sweep) : Does now (Gate.work (ν := ν) c now s) := by
  cases s with
  | banExpiry => exact sweepBans c
  | bucketEvict => exact sweepBuckets c
  | windowArchive =>
    refine call ?_ fun _ => pure _
    exact fun _ => nofun
  | historyPurge => exact sweepHistory c

theorem sweep (force : Bool) (s : Sweep) : Does now (Gate.sweep (ν := ν) force s) := by
  unfold Gate.sweep
  refine read fun g reading => ?_
  rw [reading]
  split
  · refine (work g.config s).bind fun answer => ?_
    cases answer with
    | error e => exact pure _
    | ok n => exact (change fun w => .upkeep w _).bind fun _ => pure _
  · exact pure _

theorem sweeps (force : Bool) (all : List Sweep) : Does now (Gate.sweeps (ν := ν) force all) := by
  induction all with
  | nil => exact pure _
  | cons s rest ih => exact (sweep force s).bind fun _ => ih.bind fun _ => pure _

theorem maintain (force : Bool) : Does now (Gate.maintain (ν := ν) force) := by
  unfold Gate.maintain
  refine read fun g _ => ?_
  split
  · exact pure _
  · refine (change fun w => .upkeep w _).bind fun _ => ?_
    exact (sweeps force Sweep.all).bind fun _ => (change fun w => .upkeep w _).bind fun _ => pure _

theorem readings (t : Tally) (client endpoint : String) (since : Nat) :
    Does now (t.readings client endpoint since : Routine (Gate ν) CountReadings) := by
  unfold Tally.readings
  refine call ?_ fun total => call ?_ fun failures => call ?_ fun throttled => pure _
  · exact fun _ => nofun
  · exact fun _ => nofun
  · exact fun _ => nofun

theorem command {c : Command} (asks : c.asks = true) {meanwhile : List Nat} (waits : (Move.command c meanwhile).enters = false) :
    Does now (c.routine (ν := ν)) := by
  cases c with
  | restore => exact restore.map
  | maintain force => exact (maintain force).map
  | counts client endpoint since => exact read fun g _ => (readings g.tally client endpoint since).map
  | enter | serve => cases waits
  | _ => cases asks

end Does

end World

-- Who asks to enter. A service that takes no requests does not ask the gate.
def Move.entry? : Move → Option String
  | .command (.enter client ..) _ => some client
  | .command (.serve client _ _ inner) _ => if inner = .notReady then none else some client
  | _ => none

theorem Move.enters_of_entry {m : Move} {client : String} (asks : m.entry? = some client) : m.enters = true := by
  unfold entry? at asks
  split at asks
  · rfl
  · rfl
  · cases asks

namespace World

variable [Quantity ν] {w : World ν}

-- What a move does as long as the gate stays.
inductive Course (w : World ν) : Move → World ν → Prop where
  | plain {c : Command} (meanwhile : List Nat) (plain : c.asks = false) :
      Course w (.command c meanwhile) { w with gate := c.update w.gate }
  | idle (client endpoint : String) (critical : Bool) (meanwhile : List Nat) :
      Course w (.command (.serve client endpoint critical .notReady) meanwhile) w
  | entered {m : Move} {client endpoint : String} {critical : Bool} {answer : Except GateError Admission} {u : World ν}
      (asks : m.entry? = some client) (entered : Entered w client endpoint critical (answer, u)) : Course w m u
  | deeds {c : Command} {u : World ν} (meanwhile : List Nat) (deeds : Deeds w (exchanges meanwhile c.routine w) u) :
      Course w (.command c meanwhile) u
  | deliver : Course w .deliver w.deliver
  | handOver : Course w .handOver w.handOver
  | flush : Course w .flush w.flush
  | call (c : Call) : Course w (.call c) { w with backend := (w.backend.call c none).2 }
  | faults (script : List Fault) : Course w (.faults script) { w with backend := w.backend.addFaults script }
  | reach (on : Bool) : Course w (.reach on) { w with backend := w.backend.setReachable on }
  | slow (latency : Duration) : Course w (.slow latency) { w with backend := w.backend.setLatency latency }

theorem course_command (c : Command) (meanwhile : List Nat) (w : World ν) :
    Course w (.command c meanwhile) (w.step (.command c meanwhile)).2 := by
  cases asks : c.asks with
  | false =>
    rw [Command.step_plain asks]
    exact .plain meanwhile asks
  | true =>
    have deeds (waits : (Move.command c meanwhile).enters = false) :
        Course w (.command c meanwhile) (w.step (.command c meanwhile)).2 :=
      .deeds meanwhile (Does.command asks waits meanwhile w rfl)
    cases c with
    | enter client endpoint critical =>
      obtain ⟨answer, _, entered⟩ := step_enter client endpoint critical meanwhile w
      exact .entered rfl entered
    | serve client endpoint critical inner =>
      by_cases ready : inner = .notReady
      · subst ready
        exact .idle client endpoint critical meanwhile
      · have told := perform_map Reply.served (Gate.serve client endpoint critical inner) meanwhile w
        rw [perform_served ready] at told
        change w.step (.command (.serve client endpoint critical inner) meanwhile) = _ at told
        rw [told]
        exact .entered (if_neg ready) (enter_cases client endpoint critical meanwhile w)
    | restore | maintain | counts => exact deeds rfl
    | _ => cases asks

theorem course {m : Move} (stays : m.isRestart = false) (w : World ν) : Course w m (w.step m).2 := by
  cases m with
  | command c meanwhile => exact course_command c meanwhile w
  | call c => exact .call c
  | faults script => exact .faults script
  | reach on => exact .reach on
  | slow latency => exact .slow latency
  | deliver => exact .deliver
  | handOver => exact .handOver
  | flush => exact .flush
  | restart => cases stays

end World

end Turnstile
