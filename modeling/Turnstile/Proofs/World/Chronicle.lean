import Mathlib.Logic.Function.Basic
import Turnstile.Proofs.Audit.Trail
import Turnstile.Proofs.Gate.Reload
-- While nothing fails and nothing is dropped, each move turns one page of a history. What a gate knows, what its store holds
-- once the queue is applied, and what the audit tells are laws of these pages alone.
namespace Turnstile

structure Chronicle where
  now : Nat
  active : String → Option Ban
  rows : List Ban
  events : List Event

namespace Chronicle

section
variable (s : Chronicle) (client reason actor : String) (d : Duration) (failures : Nat)

def made : Ban := Registry.banned (s.active client) s.now client reason d failures actor

def ban : Chronicle where
  now := s.now
  active := Function.update s.active client (some (s.made client reason actor d failures))
  rows := Memory.putBan (s.made client reason actor d failures) s.rows
  events := s.events ++ [.banned (s.active client) (s.made client reason actor d failures) actor s.now]

def unban (note : Option String) (before : Ban) : Chronicle where
  now := s.now
  active := Function.update s.active client none
  rows := (Memory.releaseFirst client s.now actor false s.rows).2
  events := s.events ++ [.unbanned before (before.release s.now actor false) actor note s.now]

end

def note (s : Chronicle) (e : Event) : Chronicle := { s with events := s.events ++ [e] }

def later (s : Chronicle) (reading : Nat) : Chronicle :=
  { s with now := reading, active := fun client => (s.active client).filter (reading < ·.bannedUntil) }

-- What a sweep does to the records, and what it reports of it.
def release (s : Chronicle) : Chronicle :=
  { s with
    rows := s.rows.map (Memory.expire s.now)
    events := s.events ++ ((s.rows.filter (·.isOverdue s.now)).map (Memory.expire s.now)).map (.autoReleased · s.now) }

def purge (s : Chronicle) (cutoff : Nat) : Chronicle :=
  { s with rows := s.rows.filter fun b => !Memory.releasedBefore cutoff b }

inductive Drift (sweeping : Prop) (s : Chronicle) : Chronicle → Prop where
  | still : Drift sweeping s s
  | released (under : sweeping) : Drift sweeping s s.release
  | purged (under : sweeping) (cutoff : Nat) : Drift sweeping s (s.purge cutoff)

abbrev Drifts (sweeping : Prop) : Chronicle → Chronicle → Prop := Relation.ReflTransGen (Drift sweeping)

theorem Drift.of_eq {sweeping : Prop} {s t : Chronicle} (same : t = s) : Drift sweeping s t := same ▸ .still

theorem Drifts.still {s t : Chronicle} (drifts : Drifts False s t) : t = s := by
  induction drifts with
  | refl => rfl
  | tail _ drift ih =>
    cases drift with
    | still => exact ih
    | released under => cases under
    | purged under => cases under

-- What one move comes to. A refusal is reported together with the ban that it comes from.
inductive OneMove (sweeping : Prop) (s : Chronicle) : Chronicle → Prop where
  | drifted {t : Chronicle} (drifts : Drifts sweeping s t) : OneMove sweeping s t
  | passed {reading : Nat} (forward : s.now ≤ reading) : OneMove sweeping s (s.later reading)
  | banned (client reason actor : String) (d : Duration) (failures : Nat) : OneMove sweeping s (s.ban client reason actor d failures)
  | unbanned {client actor : String} {note : Option String} {before : Ban} (active : s.active client = some before) :
      OneMove sweeping s (s.unban client actor note before)
  | denied {client : String} (endpoint reason actor : String) (d : Duration) (failures : Nat) (free : s.active client = none) :
      OneMove sweeping s ((s.ban client reason actor d failures).note
        (.accessDenied client endpoint (s.made client reason actor d failures).reason s.now))

theorem OneMove.grows {sweeping : Prop} {s t : Chronicle} (turn : OneMove sweeping s t) : s.events <+: t.events := by
  cases turn with
  | drifted drifts =>
    induction drifts with
    | refl => exact List.prefix_rfl
    | tail _ drift ih =>
      cases drift with
      | still => exact ih
      | released => exact ih.trans (List.prefix_append ..)
      | purged => exact ih
  | passed => exact List.prefix_rfl
  | banned => exact List.prefix_append ..
  | unbanned => exact List.prefix_append ..
  | denied => exact (List.prefix_append ..).trans (List.prefix_append ..)

end Chronicle

namespace World

variable {ν : Type} {w u : World ν} {m : Memory}

def audited (w : World ν) : List Event := w.sink.events ++ w.gate.trail.pending

-- The records of bans once the queue is applied.
def banRecords (w : World ν) : List Ban :=
  match w.backend.store with
  | .memory m => (m.applyAll w.pending).bans
  | .relational _ => []

def chronicle (w : World ν) : Chronicle := ⟨w.gate.now, w.gate.activeBan, w.banRecords, w.audited⟩

theorem banRecords_of (tables : w.backend.store = .memory m) : w.banRecords = (m.applyAll w.pending).bans := by
  unfold banRecords
  rw [tables]

theorem Undisturbed.banRecords (calm : Undisturbed m w) : w.banRecords = m.bans := by
  rw [banRecords_of calm.agreement.tables, Memory.bans_applyAll calm.plain]

theorem audited_handOver (recording : w.sink.Recording) : w.handOver.audited = w.audited := by
  obtain ⟨_, taken⟩ := recording.drain w.gate.trail
  show (w.sink.drain w.gate.trail).1.events ++ [] = _
  rw [taken, List.append_nil]
  rfl

theorem banRecords_deliver (agreement : Agreement m w) (healthy : w.backend.Healthy) : w.deliver.banRecords = w.banRecords := by
  cases queued : w.pending with
  | nil => rw [deliver_of_nil queued]
  | cons first rest =>
    obtain ⟨backend, delivered, stays, changed⟩ := deliver_healthy healthy queued
      (agreement.tables ▸ Store.answer_memory first.call m)
    rw [delivered, banRecords_of agreement.tables, queued]
    exact banRecords_of changed

theorem chronicle_deliver (agreement : Agreement m w) (healthy : w.backend.Healthy) : w.deliver.chronicle = w.chronicle := by
  have gate := gate_deliver w
  have sink : w.deliver.sink = w.sink := by rw [deliver_eq]
  unfold chronicle audited
  rw [banRecords_deliver agreement healthy, gate, sink]
  rfl

theorem chronicle_deliverMany (agreement : Agreement m w) (healthy : w.backend.Healthy) (n : Nat) :
    (deliverMany n w).sink = w.sink ∧ (deliverMany n w).chronicle = w.chronicle := by
  have kept := deliverMany_keeps
    (P := fun u => (∃ m, Agreement m u) ∧ u.backend.Healthy ∧ u.sink = w.sink ∧ u.chronicle = w.chronicle) ?_ n ⟨⟨m, agreement⟩, healthy, rfl, rfl⟩
  · exact ⟨kept.2.2.1, kept.2.2.2⟩
  · rintro u ⟨⟨t, there⟩, well, sink, chronicle⟩
    obtain ⟨t', after, still⟩ := there.deliver well
    refine ⟨⟨t', after⟩, still, ?_, (chronicle_deliver there well).trans chronicle⟩
    rw [deliver_eq]
    exact sink

-- Time ends the bans whose deadline it passes.
theorem chronicle_clock {reading : Nat} (forward : w.gate.now ≤ reading) :
    ({ w with gate := { w.gate with now := reading } } : World ν).chronicle = w.chronicle.later reading := by
  have active : ({ w.gate with now := reading } : Gate ν).activeBan =
      fun client => (w.gate.activeBan client).filter (reading < ·.bannedUntil) :=
    funext fun client => (w.gate.bans.standing client).activeBan_later forward
  unfold chronicle Chronicle.later
  rw [active]
  rfl

-- A call that changes the tables changes the records alike, since what is queued is not about bans.
theorem Undisturbed.banRecords_call (calm : Undisturbed m w) {g : Gate ν} (outbox : g.tally.outbox = w.gate.tally.outbox)
    (c : Call) :
    ({ w with gate := g, backend := (w.backend.finish c none).2 } : World ν).banRecords = (m.answer c).2.bans := by
  have plain : ∀ write ∈ g.tally.outbox.pending, write.isPlain := by
    rw [outbox]
    exact calm.plain
  rw [calm.healthy.finish (calm.agreement.tables ▸ Store.answer_memory c m), banRecords_of rfl]
  exact Memory.bans_applyAll plain _

theorem chronicle_of {v : World ν} (now : v.gate.now = w.gate.now)
    (active : ∀ client, v.gate.activeBan client = w.gate.activeBan client)
    (records : v.banRecords = w.banRecords) (audited : v.audited = w.audited) : v.chronicle = w.chronicle := by
  unfold chronicle
  rw [now, show v.gate.activeBan = w.gate.activeBan from funext active, records, audited]

section

variable [Quantity ν] {sweeping : Prop}

theorem Act.unheard (act : Act sweeping w u) : w.gate.trail.dropped ≤ u.gate.trail.dropped := by
  cases act with
  | deliver =>
    rw [gate_deliver w]
    exact Nat.le_refl _
  | releaseExpired => exact Trail.dropped_emitAll ..
  | _ => exact Nat.le_refl _

theorem Acts.unheard (acts : Acts sweeping w u) : w.gate.trail.dropped ≤ u.gate.trail.dropped :=
  acts.keeps (I := fun v => w.gate.trail.dropped ≤ v.gate.trail.dropped) (fun _ _ act before => Nat.le_trans before act.unheard)
    (Nat.le_refl _)

omit [Quantity ν] in
theorem Undisturbed.chronicle_released (calm : Undisturbed m w) {released : List Ban} {backend : Backend}
    (answered : w.backend.finish (.releaseExpired w.gate.now) none = (.ok released, backend))
    (heard : (w.gate.reportReleased released).trail.dropped = w.gate.trail.dropped) :
    ({ w with backend, gate := w.gate.reportReleased released } : World ν).chronicle = w.chronicle.release := by
  have told := Backend.finish_ok answered
  rw [calm.agreement.tables, Store.answer_memory] at told
  have listed : (m.bans.filter (·.isOverdue w.gate.now)).map (Memory.expire w.gate.now) = released :=
    Except.ok.inj (Prod.mk.inj told).1
  have after : backend = (w.backend.finish (.releaseExpired w.gate.now) none).2 := by rw [answered]
  have audited : (w.gate.reportReleased released).trail.pending =
      w.gate.trail.pending ++ released.map (Event.autoReleased · w.gate.now) :=
    Trail.emitAll_kept heard
  unfold World.chronicle World.audited Chronicle.release
  rw [audited, after, calm.banRecords_call (g := w.gate.reportReleased released) rfl, calm.banRecords, listed, List.append_assoc]
  rfl

theorem Act.chronicle (act : Act sweeping w u) (calm : Undisturbed m w) (heard : u.gate.trail.dropped = w.gate.trail.dropped) :
    Chronicle.Drift sweeping w.chronicle u.chronicle ∧ u.sink = w.sink := by
  cases act with
  | arrive =>
    refine ⟨.of_eq (chronicle_of rfl (fun _ => rfl) ?_ rfl), rfl⟩
    rw [banRecords_of calm.agreement.tables]
    exact banRecords_of ((Backend.store_arrive w.backend).trans calm.agreement.tables)
  | deliver => exact ⟨.of_eq (chronicle_deliver calm.agreement calm.healthy), by rw [deliver_eq]⟩
  | @reload rows backend answered =>
    refine ⟨.of_eq (chronicle_of rfl (fun client => ?_) rfl rfl), rfl⟩
    show (w.gate.bans.merge w.gate.now rows).2.activeBan w.gate.now client = _
    rw [Registry.activeBan_standing, Registry.standing_merge, calm.listed answered]
    exact Standing.takes_known _ _
  | expire => exact ⟨.of_eq (chronicle_of rfl (w.gate.bans.activeBan_expire w.gate.now) rfl rfl), rfl⟩
  | prune => exact ⟨.of_eq (chronicle_of rfl (w.gate.bans.activeBan_pruneFloors _ w.gate.now) rfl rfl), rfl⟩
  | limit | upkeep => exact ⟨.still, rfl⟩
  | @count client endpoint outcome quiet =>
    have simple : (Write.window client endpoint (windowStart w.gate.now w.gate.tally.granularity) outcome).isPlain := rfl
    have after := calm.send (g := w.gate.count client endpoint outcome) rfl rfl simple rfl
    exact ⟨.of_eq (chronicle_of rfl (fun _ => rfl) (after.banRecords.trans calm.banRecords.symm) rfl), rfl⟩
  | @releaseExpired released backend under answered =>
    rw [calm.chronicle_released answered heard]
    exact ⟨.released under, rfl⟩
  | archive =>
    refine ⟨.of_eq (chronicle_of rfl (fun _ => rfl) ?_ rfl), rfl⟩
    exact (calm.banRecords_call (g := w.gate) rfl _).trans calm.banRecords.symm
  | purgeAttempts cutoff =>
    refine ⟨.of_eq (chronicle_of rfl (fun _ => rfl) ?_ rfl), rfl⟩
    exact (calm.banRecords_call (g := w.gate) rfl _).trans calm.banRecords.symm
  | purgeBans cutoff under =>
    have page : ({ w with backend := (w.backend.finish (.purgeBans cutoff) none).2 } : World ν).chronicle =
        w.chronicle.purge cutoff := by
      unfold World.chronicle Chronicle.purge
      rw [calm.banRecords_call (g := w.gate) rfl, calm.banRecords]
      rfl
    rw [page]
    exact ⟨.purged under cutoff, rfl⟩

theorem Acts.chronicle (acts : Acts sweeping w u) (calm : ∃ m, Undisturbed m w)
    (heard : u.gate.trail.dropped = w.gate.trail.dropped) :
    Chronicle.Drifts sweeping w.chronicle u.chronicle ∧ u.sink = w.sink := by
  induction acts with
  | refl => exact ⟨.refl, rfl⟩
  | tail acts act ih =>
    have first := Acts.unheard acts
    have last := act.unheard
    obtain ⟨drifts, kept⟩ := ih (by omega)
    obtain ⟨m, still⟩ := Acts.undisturbed acts calm
    obtain ⟨drift, same⟩ := act.chronicle still (by omega)
    exact ⟨drifts.tail drift, same.trans kept⟩

end

section

variable {client reason actor : String} {d : Duration} {failures : Nat} {note : Option String}

theorem unheard_ban (g : Gate ν) (client reason : String) (d : Duration) (failures : Nat) (actor : String) :
    g.trail.dropped ≤ (g.ban client reason d failures actor).2.trail.dropped := by
  unfold Gate.ban
  cases Gate.banFault? client reason d with
  | some fault => exact Nat.le_refl _
  | none => exact Trail.dropped_emit ..

theorem ban_dropped (g : Gate ν) (client reason : String) (d : Duration) (failures : Nat) (actor : String) :
    g.tally.outbox.dropped ≤ (g.ban client reason d failures actor).2.tally.outbox.dropped := by
  have banned := g.ban_cases client reason d failures actor
  generalize g.ban client reason d failures actor = result at banned
  cases banned with
  | refused => exact Nat.le_refl _
  | made => exact Outbox.dropped_send ..

theorem unheard_unban (g : Gate ν) (client actor : String) (note : Option String) :
    g.trail.dropped ≤ (g.unban client actor note).2.trail.dropped := by
  unfold Gate.unban
  cases Client.fault? client with
  | some fault => exact Nat.le_refl _
  | none =>
    cases g.bans.unban g.now client with
    | mk found bans =>
      cases found with
      | none => exact Nat.le_refl _
      | some before => exact Trail.dropped_emit ..

theorem banRecords_queued (agreement : Agreement m w) {g : Gate ν} {write : Write}
    (outbox : g.tally.outbox = w.gate.tally.outbox.send write)
    (queued : g.tally.outbox.dropped = w.gate.tally.outbox.dropped) :
    ({ w with gate := g } : World ν).banRecords = ((m.applyAll w.pending).answer write.call).2.bans := by
  have pending : ({ w with gate := g } : World ν).pending = w.pending ++ [write] := by
    rw [outbox] at queued
    unfold World.pending
    rw [outbox, Outbox.send_kept queued]
  rw [banRecords_of (w := { w with gate := g }) agreement.tables, pending, Memory.applyAll_append]
  rfl

-- What is told of a ban that is made: to the store, and to the audit with the ban there was.
theorem ban_told {g g' : Gate ν} {made : Ban} (ban : g.ban client reason d failures actor = (.ok made, g')) :
    made = Registry.banned (g.activeBan client) g.now client reason d failures actor ∧ g'.now = g.now ∧
      g'.tally.outbox = g.tally.outbox.send (.ban made) ∧
      g'.trail = g.trail.emit (.banned (g.activeBan client) made actor g.now) := by
  unfold Gate.ban at ban
  cases sound : Gate.banFault? client reason d with
  | some fault =>
    rw [sound] at ban
    cases ban
  | none =>
    rw [sound] at ban
    cases ban
    exact ⟨rfl, rfl, rfl, rfl⟩

theorem chronicle_ban (agreement : Agreement m w) {made : Ban} {g : Gate ν}
    (ban : w.gate.ban client reason d failures actor = (.ok made, g))
    (queued : g.tally.outbox.dropped = w.gate.tally.outbox.dropped)
    (heard : g.trail.dropped = w.gate.trail.dropped) :
    made = w.chronicle.made client reason actor d failures ∧
      ({ w with gate := g } : World ν).chronicle = w.chronicle.ban client reason actor d failures := by
  obtain ⟨told, now, outbox, trail⟩ := ban_told ban
  have active : g.activeBan = Function.update w.gate.activeBan client (some made) := by
    funext other
    by_cases same : other = client
    · rw [same, Function.update_self]
      exact (ban_blocks ban).1
    · rw [Function.update_of_ne same, ← ban_other same w.gate reason d failures actor, ban]
  have records : ({ w with gate := g } : World ν).banRecords = Memory.putBan made w.banRecords := by
    rw [banRecords_queued agreement outbox queued, banRecords_of agreement.tables]
    rfl
  have audited : ({ w with gate := g } : World ν).audited =
      w.audited ++ [.banned (w.gate.activeBan client) made actor w.gate.now] := by
    rw [trail] at heard
    unfold World.audited
    rw [trail, Trail.emit_kept heard, List.append_assoc]
  refine ⟨told, ?_⟩
  unfold chronicle
  rw [now, active, records, audited, told]
  rfl

-- A release by hand ends the ban there is; if there is none, nothing is told.
theorem unban_told (g : Gate ν) (client actor : String) (note : Option String) :
    ((g.unban client actor note).2.tally.outbox = g.tally.outbox ∧ (g.unban client actor note).2.trail = g.trail ∧
        (g.unban client actor note).2.now = g.now ∧
        ∀ other, (g.unban client actor note).2.activeBan other = g.activeBan other) ∨
      ∃ before, g.activeBan client = some before ∧ (g.unban client actor note).2.now = g.now ∧
        (g.unban client actor note).2.activeBan = Function.update g.activeBan client none ∧
        (g.unban client actor note).2.tally.outbox = g.tally.outbox.send (.release client g.now actor false) ∧
        (g.unban client actor note).2.trail =
          g.trail.emit (.unbanned before (before.release g.now actor false) actor note g.now) := by
  have standing (other : String) := Registry.standing_unban g.bans g.now client other
  have found := Registry.unban_found g.bans g.now client
  unfold Gate.unban
  cases Client.fault? client with
  | some fault => exact .inl ⟨rfl, rfl, rfl, fun _ => rfl⟩
  | none =>
    cases ended : g.bans.unban g.now client with
    | mk before bans =>
      rw [ended] at standing found
      dsimp only at standing found
      have after (other : String) : bans.activeBan g.now other = if other = client then none else g.activeBan other := by
        rw [Registry.activeBan_standing, standing]
        split
        · split <;> rfl
        · rfl
      cases before with
      | none =>
        refine .inl ⟨rfl, rfl, rfl, fun other => (after other).trans ?_⟩
        split
        · rename_i same
          rw [same]
          exact found
        · rfl
      | some before =>
        refine .inr ⟨before, found.symm, rfl, funext fun other => (after other).trans ?_, rfl, rfl⟩
        rw [Function.update_apply]

theorem chronicle_unban (agreement : Agreement m w) {g : Gate ν} (unban : (w.gate.unban client actor note).2 = g)
    (queued : g.tally.outbox.dropped = w.gate.tally.outbox.dropped) (heard : g.trail.dropped = w.gate.trail.dropped) :
    ({ w with gate := g } : World ν).chronicle = w.chronicle ∨ ∃ before, w.chronicle.active client = some before ∧
      ({ w with gate := g } : World ν).chronicle = w.chronicle.unban client actor note before := by
  rcases unban_told w.gate client actor note with ⟨outbox, trail, now, active⟩ | ⟨before, found, now, active, outbox, trail⟩
  · rw [unban] at outbox trail now active
    refine .inl (chronicle_of now active ?_ ?_)
    · rw [banRecords_of agreement.tables, banRecords_of (w := { w with gate := g }) agreement.tables]
      unfold World.pending
      rw [outbox]
    · unfold World.audited
      rw [trail]
  · rw [unban] at outbox trail now active
    refine .inr ⟨before, found, ?_⟩
    have records : ({ w with gate := g } : World ν).banRecords =
        (Memory.releaseFirst client w.gate.now actor false w.banRecords).2 := by
      rw [banRecords_queued agreement outbox queued, banRecords_of agreement.tables]
      rfl
    have audited : ({ w with gate := g } : World ν).audited =
        w.audited ++ [.unbanned before (before.release w.gate.now actor false) actor note w.gate.now] := by
      rw [trail] at heard
      unfold World.audited
      rw [trail, Trail.emit_kept heard, List.append_assoc]
    unfold chronicle
    rw [now, active, records, audited]
    rfl

end

variable [Quantity ν]

theorem chronicle_update (agreement : Agreement m w) {c : Command} {sweeping : Prop} (plain : c.asks = false)
    (forward : w.gate.now ≤ (c.update w.gate).now)
    (lossless : (c.update w.gate).tally.outbox.dropped = w.gate.tally.outbox.dropped)
    (heard : (c.update w.gate).trail.dropped = w.gate.trail.dropped) :
    Chronicle.OneMove sweeping w.chronicle ({ w with gate := c.update w.gate } : World ν).chronicle := by
  have same {t : Chronicle} (equal : t = w.chronicle) : Chronicle.OneMove sweeping w.chronicle t := equal ▸ .drifted .refl
  cases quiet : c.isQuiet with
  | true =>
    obtain ⟨bans, now⟩ := Command.quiet_update quiet w.gate
    refine same (chronicle_of now (fun client => ?_) ?_ ?_)
    · unfold Gate.activeBan
      rw [bans, now]
    · rw [banRecords_of agreement.tables, banRecords_of (w := { w with gate := c.update w.gate }) agreement.tables,
        pending_update plain lossless, Memory.applyAll_append, Memory.bans_applyAll (Command.plain_writes quiet w.gate)]
    · unfold World.audited
      rw [Command.quiet_trail quiet]
  | false =>
    cases c with
    | ban client reason d failures actor =>
      cases ban : w.gate.ban client reason d failures actor with
      | mk answer g =>
        change (w.gate.ban client reason d failures actor).2.tally.outbox.dropped = _ at lossless
        change (w.gate.ban client reason d failures actor).2.trail.dropped = _ at heard
        show Chronicle.OneMove sweeping w.chronicle
          ({ w with gate := (w.gate.ban client reason d failures actor).2 } : World ν).chronicle
        rw [ban] at lossless heard ⊢
        cases answer with
        | error e => exact same (by rw [Gate.ban_error ban])
        | ok made =>
          rw [(chronicle_ban agreement ban lossless heard).2]
          exact .banned client reason actor d failures
    | unban client actor note =>
      have unban : (w.gate.unban client actor note).2 = (Command.unban client actor note).update w.gate := rfl
      rcases chronicle_unban agreement unban lossless heard with free | ⟨before, active, done⟩
      · exact same free
      · exact done ▸ .unbanned active
    | release client actor reason =>
      have unban : (w.gate.unban client actor (some reason)).2 = (Command.release client actor reason).update w.gate := rfl
      rcases chronicle_unban agreement unban lossless heard with free | ⟨before, active, done⟩
      · exact same free
      · exact done ▸ .unbanned active
    | expire => exact same (chronicle_of rfl (w.gate.bans.activeBan_expire w.gate.now) rfl rfl)
    | prune before => exact same (chronicle_of rfl (w.gate.bans.activeBan_pruneFloors before w.gate.now) rfl rfl)
    | clock reading =>
      have page : ({ w with gate := { w.gate with now := reading } } : World ν).chronicle = w.chronicle.later reading :=
        chronicle_clock forward
      exact page ▸ .passed forward
    | _ => cases quiet

theorem chronicle_entered {client endpoint : String} {critical : Bool} {answer : Except GateError Admission} {sweeping : Prop}
    (entered : Entered w client endpoint critical (answer, u)) (calm : ∃ m, Undisturbed m w)
    (lossless : u.gate.tally.outbox.dropped = w.gate.tally.outbox.dropped) (heard : u.gate.trail.dropped = w.gate.trail.dropped) :
    u.sink = w.sink ∧ Chronicle.OneMove sweeping w.chronicle u.chronicle := by
  obtain ⟨v, acts, _, same⟩ := entered.denied
  have sooner := Acts.dropped acts
  have unheard := Acts.unheard acts
  obtain ⟨m, after⟩ := Acts.undisturbed acts calm
  rcases same with rfl | ⟨reason, d, failures, made, g', free, ban, rfl⟩
  · obtain ⟨drifts, kept⟩ := Acts.chronicle acts calm heard
    exact ⟨kept, drifts.still ▸ .drifted .refl⟩
  · have queued := ban_dropped v.gate client reason d failures systemActor
    have told := unheard_ban v.gate client reason d failures systemActor
    rw [ban] at queued told
    dsimp only at queued told
    change g'.tally.outbox.dropped = _ at lossless
    have reported := Trail.dropped_emit g'.trail (.accessDenied client endpoint made.reason g'.now)
    change (g'.trail.emit _).dropped = _ at heard
    obtain ⟨drifts, kept⟩ := Acts.chronicle acts calm (by omega)
    obtain ⟨known, page⟩ := chronicle_ban after.agreement ban (by omega) (by omega)
    have audited : ({ v with gate := g'.report (.accessDenied client endpoint made.reason g'.now) } : World ν).audited =
        ({ v with gate := g' } : World ν).audited ++ [.accessDenied client endpoint made.reason g'.now] := by
      unfold World.audited Gate.report
      rw [Trail.emit_kept (t := g'.trail) (by omega), List.append_assoc]
    refine ⟨kept, ?_⟩
    have whole : ({ v with gate := g'.report (.accessDenied client endpoint made.reason g'.now) } : World ν).chronicle =
        ({ v with gate := g' } : World ν).chronicle.note (.accessDenied client endpoint made.reason g'.now) := by
      unfold chronicle Chronicle.note
      rw [audited]
      rfl
    rw [whole, page, known, (ban_told ban).2.1, show v.gate.now = v.chronicle.now from rfl, drifts.still]
    refine .denied endpoint reason systemActor d failures ?_
    rw [← drifts.still]
    exact free

-- What a move does to the history of bans, as long as nothing fails and nothing is dropped.
theorem chronicle_step {move : Move} (applied : (⟨w, move⟩ : Visit ν).Applied) (before : ∃ m, Agreement m w)
    (recording : w.sink.Recording) (heard : (w.step move).2.gate.trail.dropped = w.gate.trail.dropped) :
    (w.step move).2.sink.Recording ∧ Chronicle.OneMove move.sweeps w.chronicle (w.step move).2.chronicle := by
  obtain ⟨⟨own, forward⟩, ⟨healthy, lossless⟩, drained⟩ := applied
  change w.gate.now ≤ (w.step move).2.gate.now at forward
  change (w.step move).2.gate.tally.outbox.dropped = w.gate.tally.outbox.dropped at lossless
  obtain ⟨m, agreement⟩ := before
  have same {u : World ν} (equal : u.chronicle = w.chronicle) : Chronicle.OneMove move.sweeps w.chronicle u.chronicle :=
    equal ▸ .drifted .refl
  have delivered (n : Nat) := chronicle_deliverMany agreement healthy n
  have handed {u : World ν} (sink : u.sink = w.sink) (chronicle : u.chronicle = w.chronicle) :
      u.handOver.sink.Recording ∧ Chronicle.OneMove move.sweeps w.chronicle u.handOver.chronicle := by
    have recorded : u.sink.Recording := sink ▸ recording
    refine ⟨(recorded.drain u.gate.trail).1, same ?_⟩
    rw [← chronicle]
    exact chronicle_of rfl (fun _ => rfl) rfl (audited_handOver recorded)
  have weathered {backend : Backend} (kept : backend.store = w.backend.store) :
      w.sink.Recording ∧ Chronicle.OneMove move.sweeps w.chronicle ({ w with backend } : World ν).chronicle := by
    refine ⟨recording, same (chronicle_of rfl (fun _ => rfl) ?_ rfl)⟩
    rw [banRecords_of agreement.tables]
    exact banRecords_of (kept.trans agreement.tables)
  cases move with
  | command c meanwhile =>
    have calm : Undisturbed m w := ⟨agreement, healthy, by rw [drained rfl]; exact nofun⟩
    have told := moved_command c meanwhile w
    generalize (w.step (.command c meanwhile)).2 = u at told forward lossless heard
    cases told with
    | plain command => exact ⟨recording, chronicle_update agreement (Move.plain_asks command).1 forward lossless heard⟩
    | idle => exact ⟨recording, same rfl⟩
    | entered other enters entered =>
      obtain ⟨sink, turn⟩ := chronicle_entered entered ⟨m, calm⟩ lossless heard
      exact ⟨sink ▸ recording, turn⟩
    | acted other enters acts =>
      obtain ⟨drifts, sink⟩ := Acts.chronicle acts ⟨m, calm⟩ heard
      exact ⟨sink ▸ recording, .drifted drifts⟩
    | flushed other n => exact handed (delivered n).1 (delivered n).2
    | weather other kept => exact weathered kept
  | deliver => exact ⟨(delivered 1).1 ▸ recording, same (delivered 1).2⟩
  | handOver => exact handed rfl rfl
  | flush => exact handed (delivered _).1 (delivered _).2
  | faults | reach | slow => exact weathered rfl
  | call => cases own
  | restart => cases own

-- Gate and store agree, and the sink takes every event.
structure Logged (w : World ν) : Prop where
  agreement : ∃ m, Agreement m w
  recording : w.sink.Recording

end World

variable {ν : Type} [Quantity ν]

-- Nothing fails and nothing is dropped, neither a write nor an event.
structure Visit.Recorded (v : Visit ν) : Prop where
  applied : v.Applied
  heard : v.after.gate.trail.dropped = v.world.gate.trail.dropped

instance (v : Visit ν) : Decidable v.Recorded :=
  decidable_of_iff (v.Applied ∧ v.after.gate.trail.dropped = v.world.gate.trail.dropped)
    ⟨fun ⟨applied, heard⟩ => ⟨applied, heard⟩, fun ⟨applied, heard⟩ => ⟨applied, heard⟩⟩

def Visit.told (v : Visit ν) : List Event := v.after.audited.drop v.world.audited.length

namespace World

variable {w : World ν}

theorem Logged.step {v : Visit ν} (logged : v.world.Logged) (recorded : v.Recorded) :
    v.after.Logged ∧ Chronicle.OneMove v.move.sweeps v.world.chronicle v.after.chronicle := by
  obtain ⟨recording, turn⟩ := @chronicle_step ν v.world _ v.move recorded.applied logged.agreement logged.recording recorded.heard
  exact ⟨⟨agreement_step (m := v.move) recorded.applied logged.agreement, recording⟩, turn⟩

theorem Logged.audited {v : Visit ν} (logged : v.world.Logged) (recorded : v.Recorded) :
    v.after.audited = v.world.audited ++ v.told :=
  List.prefix_iff_eq_append.1 (logged.step recorded).2.grows |>.symm

theorem audited_run (logged : w.Logged) (moves : List Move) (recorded : ∀ v ∈ w.visits moves, v.Recorded) :
    (w.run moves).Logged ∧ (w.run moves).audited = w.audited ++ (w.visits moves).flatMap Visit.told := by
  refine run_keeps (I := fun past u => u.Logged ∧ u.audited = w.audited ++ past.flatMap Visit.told)
    ⟨logged, (List.append_nil _).symm⟩ (fun past u m ⟨before, told⟩ allowed => ?_) moves recorded
  refine ⟨(before.step (v := ⟨u, m⟩) allowed).1, ?_⟩
  rw [List.flatMap_append, List.flatMap_singleton, ← List.append_assoc, ← told]
  exact before.audited allowed

theorem logged_visits (logged : w.Logged) (moves : List Move) (recorded : ∀ v ∈ w.visits moves, v.Recorded) :
    ∀ v ∈ w.visits moves, v.world.Logged :=
  fun v member => (visits_keep logged (fun _ before allowed => (before.step allowed).1) moves recorded v member).1

theorem logged_built {b : Blueprint} {start : Nat} (built : World.build b start .memory (.ofMedium (.memory [])) = .ok w) :
    w.Logged ∧ w.chronicle = ⟨start, fun _ => none, [], []⟩ := by
  have first := World.built built
  have told : w.sink = .ofMedium (.memory []) ∧ w.gate.trail.pending = [] := by
    obtain ⟨_, policy, _, rfl⟩ := fresh_of_build built
    exact ⟨rfl, rfl⟩
  have tables : w.backend.store = .memory .empty := by
    rw [first.backend]
    rfl
  have agreement : ∃ m, Agreement m w :=
    agreement_run first.bans first.pending tables [] fun _ member => absurd member List.not_mem_nil
  refine ⟨⟨agreement, ?_⟩, ?_⟩
  · rw [told.1]
    exact ⟨rfl, rfl⟩
  · have active : w.gate.activeBan = fun _ => none := by
      funext client
      unfold Gate.activeBan
      rw [first.bans]
      rfl
    unfold chronicle audited
    rw [first.now, active, banRecords_of tables, first.pending, told.1, told.2]
    rfl

def recorder : World Rat := fresh ⟨.standard, some .strict, none⟩ .strict 0 .memory (.ofMedium (.memory []))

theorem build_recorder : World.build ⟨.standard, some .strict, none⟩ 0 .memory (.ofMedium (.memory [])) = .ok recorder :=
  build_fresh ⟨by decide +kernel, by decide +kernel⟩ rfl 0 .memory (.ofMedium (.memory []))

end World

end Turnstile
