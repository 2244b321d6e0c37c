import Turnstile.Proofs.World.History
import Turnstile.Proofs.World.Lingering
import Turnstile.Proofs.World.Reasons
-- What is queued and stored of bans changes in few ways. A law that deliveries and answered calls keep holds wherever something
-- is delivered, and whatever brings a ban about does nothing else after it.
namespace Turnstile

open World (queuedBans)

variable {ν α β : Type}

namespace World

-- The wholes from which so many deliveries start.
def delivering : Nat → World ν → List (World ν)
  | 0, _ => []
  | n + 1, w => w :: delivering n w.deliver

-- Those from which writes are delivered while work waits for the store.
def deliveries (meanwhile : List Nat) : Routine (Gate ν) α → World ν → List (World ν)
  | .done _, _ => []
  | .get next, w => deliveries meanwhile (next w.gate) w
  | .put gate next, w => deliveries meanwhile next { w with gate }
  | .ask c limit next, w =>
    match w.backend.arrive with
    | (some e, backend) => deliveries meanwhile.tail (next (.error e)) { w with backend }
    | (none, backend) =>
      let u := deliverMany (meanwhile.headD 0) { w with backend }
      let (answer, after) := u.backend.finish c limit
      delivering (meanwhile.headD 0) { w with backend } ++
        deliveries meanwhile.tail (next answer) { u with backend := after }

theorem deliveries_andThen (r : Routine (Gate ν) α) (f : α → Routine (Gate ν) β) (meanwhile : List Nat) (w : World ν) :
    ∃ later, deliveries meanwhile (r.andThen f) w =
      deliveries meanwhile r w ++ deliveries later (f (perform meanwhile r w).1) (perform meanwhile r w).2 := by
  induction r generalizing meanwhile w with
  | done a => exact ⟨meanwhile, rfl⟩
  | get next ih => exact ih w.gate meanwhile w
  | put gate next ih => exact ih meanwhile { w with gate }
  | ask c limit next ih =>
    simp only [Routine.andThen, deliveries, perform]
    cases w.backend.arrive with
    | mk fault backend =>
      cases fault with
      | some e => exact ih _ _ _
      | none =>
        dsimp only
        generalize deliverMany (meanwhile.headD 0) _ = u
        obtain ⟨later, split⟩ := ih (u.backend.finish c limit).1 meanwhile.tail { u with backend := (u.backend.finish c limit).2 }
        exact ⟨later, (congrArg (_ ++ ·) split).trans (List.append_assoc ..).symm⟩

theorem deliveries_update (f : Gate ν → α × Gate ν) (next : α → Routine (Gate ν) β) (meanwhile : List Nat) (w : World ν) :
    deliveries meanwhile (.update f >>= next) w = deliveries meanwhile (next (f w.gate).1) { w with gate := (f w.gate).2 } := rfl

theorem deliveries_state (next : Gate ν → Routine (Gate ν) β) (meanwhile : List Nat) (w : World ν) :
    deliveries meanwhile (Routine.state >>= next) w = deliveries meanwhile (next w.gate) w := rfl

theorem deliveries_silent {r : Routine (Gate ν) α} {f : α → Routine (Gate ν) β}
    (silent : ∀ a later u, deliveries later (f a) u = []) (meanwhile : List Nat) (w : World ν) :
    deliveries meanwhile (r >>= f) w = deliveries meanwhile r w := by
  obtain ⟨later, split⟩ := deliveries_andThen r f meanwhile w
  rw [silent, List.append_nil] at split
  exact split

theorem deliveries_map (f : α → β) (r : Routine (Gate ν) α) (meanwhile : List Nat) (w : World ν) :
    deliveries meanwhile (f <$> r) w = deliveries meanwhile r w :=
  deliveries_silent (fun _ _ _ => rfl) meanwhile w

theorem queuedBans_append (first rest : List Write) : queuedBans (first ++ rest) = queuedBans first ++ queuedBans rest :=
  List.filterMap_append

theorem queuedBans_sendAll {writes : List Write} (none : queuedBans writes = []) (o : Outbox) :
    queuedBans (o.sendAll writes).pending = queuedBans o.pending := by
  obtain ⟨taken, short, pending⟩ := Outbox.pending_sendAll o writes
  have nothing : queuedBans taken = [] := List.sublist_nil.1 (none ▸ short.filterMap _)
  rw [pending, queuedBans_append, nothing, List.append_nil]

theorem queuedBans_send {write : Write} (none : queuedBans [write] = []) (o : Outbox) :
    queuedBans (o.send write).pending = queuedBans o.pending := queuedBans_sendAll none o

-- A law about tables, queued bans and clock that outlasts calls that store no ban, deliveries and the passing of time.
structure Durable (I : World ν → Prop) : Prop where
  same : ∀ w u, u.backend.store = w.backend.store → queuedBans u.pending = queuedBans w.pending →
    u.gate.now = w.gate.now → I w → I u
  called : ∀ w c limit, (∀ b, c ≠ .upsert b) → I w → I { w with backend := (w.backend.finish c limit).2 }
  deliver : ∀ w, I w → I w.deliver
  later : ∀ w reading, w.gate.now ≤ reading → I w → I { w with gate := { w.gate with now := reading } }

end World

namespace Routine

-- Work that queues and stores no ban and leaves the clock alone, whatever it hears.
def Steady : Routine (Gate ν) α → Gate ν → Prop
  | .done _, _ => True
  | .get next, g => (next g).Steady g
  | .put s next, g => queuedBans s.tally.outbox.pending = queuedBans g.tally.outbox.pending ∧ s.now = g.now ∧ next.Steady s
  | .ask c _ next, g => (∀ b, c ≠ .upsert b) ∧ ∀ answer o, (next answer).Steady (g.setOutbox o)

theorem Steady.bind {r : Routine (Gate ν) α} {f : α → Routine (Gate ν) β} {g : Gate ν} (first : r.Steady g)
    (rest : ∀ a h, (f a).Steady h) : (r >>= f).Steady g := by
  show (r.andThen f).Steady g
  induction r generalizing g with
  | done a => exact rest a g
  | get next ih => exact ih g first
  | put s next ih => exact ⟨first.1, first.2.1, ih first.2.2⟩
  | ask c limit next ih => exact ⟨first.1, fun answer o => ih answer (first.2 answer o)⟩

theorem Steady.update {f : Gate ν → α × Gate ν} (g : Gate ν)
    (queued : queuedBans (f g).2.tally.outbox.pending = queuedBans g.tally.outbox.pending) (now : (f g).2.now = g.now) :
    (Routine.update f).Steady g := ⟨queued, now, trivial⟩

theorem Steady.change {f : Gate ν → Gate ν} (g : Gate ν)
    (queued : queuedBans (f g).tally.outbox.pending = queuedBans g.tally.outbox.pending) (now : (f g).now = g.now) :
    (Routine.change f).Steady g := ⟨queued, now, trivial⟩

theorem Steady.call {c : Call} (g : Gate ν) (plain : ∀ b, c ≠ .upsert b) : (Routine.call c).Steady g := ⟨plain, fun _ _ => trivial⟩

theorem Steady.callWithin {limit : Duration} {c : Call} (g : Gate ν) (plain : ∀ b, c ≠ .upsert b) :
    (Routine.callWithin limit c).Steady g := ⟨plain, fun _ _ => trivial⟩

end Routine

namespace Gate

open Routine (Steady)

theorem steady_restore (g : Gate ν) : restore.Steady g := by
  unfold restore
  refine Steady.bind (r := Routine.state) trivial fun h g => ?_
  refine Steady.bind (.call g fun _ => nofun) fun answer g => ?_
  cases answer with
  | error e => trivial
  | ok rows => exact Steady.bind (.update g rfl rfl) fun _ _ => trivial

theorem steady_sweepBans (c : Config) (now : Nat) (g : Gate ν) : (sweepBans c now).Steady g := by
  unfold sweepBans
  refine Steady.bind (.update g rfl rfl) fun _ g => ?_
  refine Steady.bind (.call g fun _ => nofun) fun answer g => ?_
  cases answer with
  | error e => trivial
  | ok released =>
    refine Steady.bind (.change g rfl rfl) fun _ g => ?_
    refine Steady.bind (steady_restore g) fun restored g => ?_
    cases restored with
    | error e => trivial
    | ok n => exact Steady.bind (.update g rfl rfl) fun _ _ => trivial

theorem steady_sweepHistory (c : Config) (now : Nat) (g : Gate ν) : (sweepHistory c now).Steady g := by
  unfold sweepHistory
  refine Steady.bind (.call g fun _ => nofun) fun attempts g => ?_
  cases attempts with
  | error e => trivial
  | ok attempts =>
    refine Steady.bind (.call g fun _ => nofun) fun bans g => ?_
    cases bans with
    | error e => trivial
    | ok bans => trivial

variable [Quantity ν]

theorem steady_work (c : Config) (now : Nat) (s : Sweep) (g : Gate ν) : (work c now s).Steady g := by
  cases s with
  | banExpiry => exact steady_sweepBans c now g
  | bucketEvict => exact Steady.bind (.update g rfl rfl) fun _ _ => trivial
  | windowArchive => exact .call g fun _ => nofun
  | historyPurge => exact steady_sweepHistory c now g

theorem steady_sweep (force : Bool) (s : Sweep) (g : Gate ν) : (sweep force s).Steady g := by
  unfold sweep
  refine Steady.bind (r := Routine.state) trivial fun h g => ?_
  split
  · refine Steady.bind (steady_work _ _ s g) fun answer g => ?_
    cases answer with
    | error e => trivial
    | ok n => exact Steady.bind (.change g rfl rfl) fun _ _ => trivial
  · trivial

theorem steady_sweeps (force : Bool) (all : List Sweep) (g : Gate ν) : (sweeps force all).Steady g := by
  induction all generalizing g with
  | nil => trivial
  | cons s rest ih => exact Steady.bind (steady_sweep force s g) fun _ g => Steady.bind (ih g) fun _ _ => trivial

theorem steady_maintain (force : Bool) (g : Gate ν) : (maintain force).Steady g := by
  unfold maintain
  refine Steady.bind (r := Routine.state) trivial fun h g => ?_
  split
  · trivial
  · refine Steady.bind (.change g rfl rfl) fun _ g => ?_
    refine Steady.bind (steady_sweeps force Sweep.all g) fun report g => ?_
    exact Steady.bind (.change g rfl rfl) fun _ _ => trivial

omit [Quantity ν] in
theorem steady_readings (t : Tally) (client endpoint : String) (since : Nat) (g : Gate ν) :
    (t.readings client endpoint since).Steady g := by
  unfold Tally.readings
  refine Steady.bind (.call g fun _ => nofun) fun _ g => ?_
  refine Steady.bind (.call g fun _ => nofun) fun _ g => ?_
  exact Steady.bind (.call g fun _ => nofun) fun _ _ => trivial

end Gate

namespace World.Durable

variable {I : World ν → Prop} {w u : World ν}

theorem arrive (durable : Durable I) (before : I w) : I { w with backend := w.backend.arrive.2 } :=
  durable.same w _ (Backend.store_arrive w.backend) rfl rfl before

theorem call (durable : Durable I) {c : Call} (plain : ∀ b, c ≠ .upsert b) (before : I w) :
    I { w with backend := (w.backend.call c none).2 } := by
  have arrived := durable.arrive before
  unfold Backend.call
  cases met : w.backend.arrive with
  | mk fault backend =>
    rw [met] at arrived
    cases fault with
    | some e => exact arrived
    | none => exact durable.called _ c none plain arrived

theorem deliverMany (durable : Durable I) (n : Nat) (before : I w) : I (deliverMany n w) :=
  deliverMany_keeps durable.deliver n before

theorem delivering (durable : Durable I) (n : Nat) (before : I w) : ∀ u ∈ delivering n w, I u := by
  induction n generalizing w with
  | zero => exact fun u member => absurd member List.not_mem_nil
  | succ n ih =>
    intro u member
    rcases List.mem_cons.1 member with rfl | later
    · exact before
    · exact ih (durable.deliver w before) u later

theorem steady (durable : Durable I) {r : Routine (Gate ν) α} (steady : r.Steady w.gate) (meanwhile : List Nat) (before : I w) :
    ∀ u ∈ deliveries meanwhile r w, I u := by
  induction r generalizing meanwhile w with
  | done a => exact fun u member => absurd member List.not_mem_nil
  | get next ih => exact ih w.gate steady meanwhile before
  | put s next ih =>
    exact ih (w := { w with gate := s }) steady.2.2 meanwhile (durable.same w { w with gate := s } rfl steady.1 steady.2.1 before)
  | ask c limit next ih =>
    have arrived := durable.arrive before
    unfold World.deliveries
    cases met : w.backend.arrive with
    | mk fault backend =>
      rw [met] at arrived
      cases fault with
      | some e => exact ih (.error e) (w := { w with backend }) (steady.2 _ w.gate.tally.outbox) meanwhile.tail arrived
      | none =>
        intro u member
        rcases List.mem_append.1 member with here | later
        · exact durable.delivering _ arrived u here
        · have kept := gate_deliverMany (meanwhile.headD 0) ({ w with backend } : World ν)
          have waited := durable.deliverMany (meanwhile.headD 0) arrived
          generalize World.deliverMany (meanwhile.headD 0) { w with backend } = v at later kept waited
          refine ih _ (w := { v with backend := (v.backend.finish c limit).2 }) ?_ meanwhile.tail
            (durable.called v c limit steady.1 waited) u later
          show (next _).Steady v.gate
          rw [kept]
          exact steady.2 _ _

variable [Quantity ν]

-- A request is screened, which queues no ban, and asks once before it is judged.
theorem enter (durable : Durable I) (client endpoint : String) (critical : Bool) (meanwhile : List Nat) (before : I w) :
    ∀ u ∈ deliveries meanwhile (Gate.enter client endpoint critical) w, I u := by
  unfold Gate.enter
  cases Client.fault? client with
  | some fault => exact fun u member => absurd member List.not_mem_nil
  | none =>
    have screening := w.gate.screen_cases client endpoint critical
    dsimp only
    rw [deliveries_update]
    generalize w.gate.screen client endpoint critical = result at screening
    cases screening with
    | banned | limited | admitted => exact fun u member => absurd member List.not_mem_nil
    | undecided limiter =>
      have screened := durable.same w { w with gate := { w.gate with limiter } } rfl rfl rfl before
      dsimp only
      rw [deliveries_state, deliveries_silent fun _ _ _ => rfl]
      refine durable.steady (.callWithin _ ?_) meanwhile screened
      exact fun _ => nofun

theorem serve (durable : Durable I) (client endpoint : String) (critical : Bool) (inner : Gate.Inner) (meanwhile : List Nat)
    (before : I w) : ∀ u ∈ deliveries meanwhile (Gate.serve client endpoint critical inner) w, I u := by
  by_cases ready : inner = .notReady
  · subst ready
    exact fun u member => absurd member List.not_mem_nil
  · rw [Gate.serve_eq ready, deliveries_map]
    exact durable.enter client endpoint critical meanwhile before

theorem command (durable : Durable I) (c : Command) (meanwhile : List Nat) (before : I w) :
    ∀ u ∈ deliveries meanwhile c.routine w, I u := by
  cases asks : c.asks with
  | false => cases c <;> first | exact fun u member => absurd member List.not_mem_nil | cases asks
  | true =>
    have mapped {α : Type} {r : Routine (Gate ν) α} (f : α → Reply) (kept : ∀ u ∈ deliveries meanwhile r w, I u) :
        ∀ u ∈ deliveries meanwhile (f <$> r) w, I u := by
      rw [deliveries_map]
      exact kept
    cases c with
    | enter client endpoint critical => exact mapped _ (durable.enter client endpoint critical meanwhile before)
    | serve client endpoint critical inner => exact mapped _ (durable.serve client endpoint critical inner meanwhile before)
    | restore => exact mapped _ (durable.steady (Gate.steady_restore w.gate) meanwhile before)
    | maintain force => exact mapped _ (durable.steady (Gate.steady_maintain force w.gate) meanwhile before)
    | counts client endpoint since =>
      exact mapped _ (durable.steady (Gate.steady_readings w.gate.tally client endpoint since w.gate) meanwhile before)
    | _ => cases asks

end World.Durable

section
variable [Quantity ν]

namespace Command

theorem queuedBans_update {c : Command} (plain : c.asks = false) (harmless : ∀ a b d n e, c ≠ .ban a b d n e) (g : Gate ν) :
    queuedBans (c.update g).tally.outbox.pending = queuedBans g.tally.outbox.pending := by
  have none : queuedBans (c.writes g) = [] := by
    cases quiet : c.isQuiet with
    | true =>
      refine List.eq_nil_iff_forall_not_mem.2 fun b member => ?_
      cases Command.plain_writes quiet g _ (World.mem_queuedBans.1 member)
    | false =>
      cases c with
      | ban a b d n e => exact absurd rfl (harmless a b d n e)
      | unban | release =>
        unfold Command.writes
        dsimp only
        split <;> rfl
      | expire | prune | clock => rfl
      | _ => cases quiet
  rw [Command.tally_update plain]
  exact World.queuedBans_sendAll none _

theorem now_update {c : Command} (still : ∀ reading, c ≠ .clock reading) (g : Gate ν) : (c.update g).now = g.now := by
  cases c with
  | clock reading => exact absurd rfl (still reading)
  | reconfigure config => exact (quiet_update rfl g).2
  | acquire => rfl
  | _ => exact (basis_update rfl g).now

end Command

def Move.bans? : Move → Option String
  | .command (.ban c reason length _ _) _ => if Gate.banFault? c reason length = none then some c else none
  | _ => none

omit [Quantity ν] in
theorem Move.bans_of_other {m : Move} (other : m.plain? = none) : m.bans? = none := by
  unfold Move.bans?
  split
  · cases other
  · rfl

-- The ban of a client that a move brings about: by hand, or because of what it did where it had to be free.
def Visit.made? (client : String) (v : Visit ν) : Option Ban :=
  if v.move.bans? = some client ∨ v.move.enters = true ∧ v.world.gate.activeBan client = none then v.after.gate.activeBan client
  else none

theorem Visit.unmade_of_waits {v : Visit ν} (unasked : v.move.bans? = none) (waits : v.move.enters = false) (client : String) :
    v.made? client = none := by
  unfold Visit.made?
  rw [unasked, waits]
  exact if_neg (by simp only [reduceCtorEq, Bool.false_eq_true, false_and, or_self, not_false_eq_true])

theorem Visit.unmade {v : Visit ν} (unasked : v.move.bans? = none)
    (still : v.after.gate.activeBan = v.world.gate.activeBan) (client : String) : v.made? client = none := by
  unfold Visit.made?
  rw [unasked, still]
  simp only [reduceCtorEq, false_or, ite_eq_right_iff, and_imp]
  exact fun _ free => free

def Visit.deliveries (v : Visit ν) : List (World ν) :=
  match v.move with
  | .command c meanwhile => World.deliveries meanwhile c.routine v.world
  | .deliver => [v.world]
  | .flush | .restart _ => World.delivering v.world.pending.length v.world
  | _ => []

end

namespace World

variable [Quantity ν] {I : World ν → Prop} {w u : World ν}

theorem Durable.deliveries (durable : Durable I) {v : Visit ν} (before : I v.world) : ∀ u ∈ v.deliveries, I u := by
  obtain ⟨w, m⟩ := v
  cases m with
  | command c meanwhile => exact durable.command c meanwhile before
  | deliver => exact fun u member => List.mem_singleton.1 member ▸ before
  | flush | restart => exact durable.delivering _ before
  | _ => exact fun u member => absurd member List.not_mem_nil

theorem Durable.act (durable : Durable I) {sweeping : Prop} (act : Act sweeping w u) (before : I w) : I u := by
  cases act with
  | arrive => exact durable.arrive before
  | deliver => exact durable.deliver w before
  | reload | expire | prune | limit | upkeep => exact durable.same w _ rfl rfl rfl before
  | count client endpoint quiet => exact durable.same w _ rfl (queuedBans_send rfl _) rfl before
  | @releaseExpired released backend _ answered =>
    have called := durable.called w (.releaseExpired w.gate.now) none (fun _ => nofun) before
    rw [answered] at called
    exact durable.same ({ w with backend } : World ν) { w with backend, gate := w.gate.reportReleased released } rfl rfl rfl called
  | archive | purgeAttempts | purgeBans => exact durable.called w _ none (fun _ => nofun) before

-- What a move does: nothing that the law forbids, or that and then a ban.
inductive Turned (I : World ν → Prop) (v : Visit ν) : Prop where
  | kept (after : I v.after) (unmade : ∀ client, v.made? client = none)
  | banned {x : World ν} {g' : Gate ν} {made : Ban} {c reason actor : String} {d : Duration} {failures : Nat} (before : I x)
      (known : x.gate.activeBan = v.world.gate.activeBan) (ban : x.gate.ban c reason d failures actor = (.ok made, g'))
      (told : v.made? c = some made) (only : ∀ client b, v.made? client = some b → client = c ∧ b = made)
      (store : v.after.backend.store = x.backend.store)
      (queued : queuedBans v.after.pending = queuedBans g'.tally.outbox.pending) (now : v.after.gate.now = x.gate.now)

theorem Durable.restart (durable : Durable I) (b : Blueprint) (before : I w) : I (w.flush.rebuild b) := by
  have flushed : I w.flush :=
    durable.same (World.deliverMany w.pending.length w) w.flush rfl rfl rfl (durable.deliverMany w.pending.length before)
  rcases rebuild_cases b w.flush with same | fresh
  · rw [same]
    exact flushed
  · refine durable.same w.flush _ (by rw [fresh.backend]) ?_ fresh.now flushed
    rw [fresh.pending, pending_flush]

theorem Durable.quiet (durable : Durable I) {c : Command} (plain : c.asks = false) (harmless : ∀ a b d n e, c ≠ .ban a b d n e)
    (still : ∀ reading, c ≠ .clock reading) (before : I w) : I { w with gate := c.update w.gate } := by
  apply durable.same w { w with gate := c.update w.gate } rfl
  · exact Command.queuedBans_update plain harmless w.gate
  · exact Command.now_update still w.gate
  · exact before

theorem Durable.update (durable : Durable I) {v : Visit ν} {c : Command} (same : v.move.plain? = some c)
    (forward : v.world.gate.now ≤ v.after.gate.now) (before : I v.world) : Turned I v := by
  obtain ⟨plain, meanwhile, move⟩ := Move.plain_asks same
  obtain ⟨w, m⟩ := v
  cases move
  have after : Visit.after ⟨w, .command c meanwhile⟩ = { w with gate := c.update w.gate } := Command.step_plain plain meanwhile w
  cases c with
  | ban c reason d failures actor =>
    cases ban : w.gate.ban c reason d failures actor with
    | mk answer g' =>
      have done : Visit.after ⟨w, .command (.ban c reason d failures actor) meanwhile⟩ = { w with gate := g' } :=
        after.trans (congrArg (fun told : Except GateError Ban × Gate ν => ({ w with gate := told.2 } : World ν)) ban)
      have told := w.gate.ban_cases c reason d failures actor
      rw [ban] at told
      cases told with
      | refused faulty => exact .kept (done ▸ before) (Visit.unmade_of_waits (if_neg (by rw [faulty]; exact nofun)) rfl)
      | made sound event =>
        obtain ⟨blocks, now⟩ := ban_blocks ban
        have asked : (Move.command (.ban c reason d failures actor) meanwhile).bans? = some c := if_pos sound
        refine .banned before rfl ban ?_ ?_ (by rw [done]) (by rw [done]; rfl) (by rw [done]; exact now)
        · refine (if_pos (.inl asked)).trans ?_
          rw [done]
          exact blocks
        · intro client b found
          unfold Visit.made? at found
          split at found
          · rename_i asks
            have by_hand := asks.resolve_right fun entering => absurd entering.1 Bool.false_ne_true
            cases Option.some.inj (asked.symm.trans by_hand)
            rw [done] at found
            exact ⟨rfl, Option.some.inj (found.symm.trans blocks)⟩
          · cases found
  | clock reading =>
    rw [after] at forward
    exact .kept (after ▸ durable.later w reading forward before) (Visit.unmade_of_waits rfl rfl)
  | _ =>
    refine .kept (after ▸ durable.quiet plain (fun _ _ _ _ _ => nofun) (fun _ => nofun) before) ?_
    first | exact Visit.unmade_of_waits rfl rfl | cases plain

theorem Durable.entered (durable : Durable I) {v : Visit ν} {client endpoint : String} {critical : Bool}
    {answer : Except GateError Admission} (other : v.move.plain? = none) (enters : v.move.enters = true)
    (entered : Entered v.world client endpoint critical (answer, v.after)) (before : I v.world) : Turned I v := by
  obtain ⟨x, acts, bans, done⟩ := entered.split
  have known : x.gate.activeBan = v.world.gate.activeBan := by
    funext address
    unfold Gate.activeBan
    rw [bans, acts.frame.now]
  have kept := acts.keeps (fun _ _ act => durable.act act) before
  rcases done with same | ⟨reason, d, failures, made, g', event, free, ban, same⟩
  · exact .kept (same ▸ kept) (Visit.unmade (Move.bans_of_other other) (same ▸ known))
  · obtain ⟨blocks, now⟩ := ban_blocks ban
    have still : v.world.gate.activeBan client = none := known ▸ free
    refine .banned kept known ban ?_ ?_ (by rw [same]) (by rw [same]; rfl) (by rw [same]; exact now)
    · refine (if_pos (.inr ⟨enters, still⟩)).trans ?_
      rw [same]
      exact blocks
    · intro address b found
      unfold Visit.made? at found
      rw [Move.bans_of_other other, same] at found
      split at found
      · rename_i asks
        have entering := asks.resolve_left nofun
        obtain ⟨own, this, _⟩ := fresh_ban ban (known ▸ entering.2) found
        exact ⟨own, this⟩
      · cases found

theorem Durable.step (durable : Durable I) {v : Visit ν} (forward : v.world.gate.now ≤ v.after.gate.now)
    (alone : v.move.stores? = none) (before : I v.world) : Turned I v := by
  cases own : v.move.isOwn with
  | false =>
    obtain ⟨w, m⟩ := v
    cases m with
    | call c =>
      refine .kept (durable.call ?_ before) (Visit.unmade_of_waits rfl rfl)
      rintro b rfl
      cases alone
    | restart b => exact .kept (durable.restart b before) (Visit.unmade_of_waits rfl rfl)
    | _ => cases own
  | true =>
    have told := moved v.world own
    change Moved v.world v.move v.after at told
    generalize same : v.after = u at told
    cases told with
    | plain plain => exact durable.update plain forward before
    | idle other => exact .kept (same ▸ before) (Visit.unmade (Move.bans_of_other other) (by rw [same]))
    | entered other enters entered => exact durable.entered other enters (same ▸ entered) before
    | acted other waits acts =>
      exact .kept (same ▸ acts.keeps (fun _ _ act => durable.act act) before)
        (Visit.unmade_of_waits (Move.bans_of_other other) waits)
    | flushed other n =>
      refine .kept (same ▸ durable.same (World.deliverMany n v.world) _ rfl rfl rfl (durable.deliverMany n before))
        (Visit.unmade (Move.bans_of_other other) ?_)
      rw [same]
      show (World.deliverMany n v.world).gate.activeBan = v.world.gate.activeBan
      rw [gate_deliverMany]
      rfl
    | weather other kept =>
      refine .kept (same ▸ durable.same v.world _ kept rfl rfl before) (Visit.unmade (Move.bans_of_other other) ?_)
      rw [same]

end World

end Turnstile
