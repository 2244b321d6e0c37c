import Turnstile.Proofs.Gate.Effects
import Turnstile.Proofs.Store.Counted
import Turnstile.Proofs.World.History
namespace Turnstile

variable {ν : Type}

def Failure.counts (client endpoint : String) (granularity : Duration) (since : Nat) (f : Failure) : Bool :=
  f.client == client && f.endpoint == endpoint && since ≤ windowStart f.reading granularity

def reported (past : List (Visit ν)) (client endpoint : String) (granularity : Duration) (since : Nat) : Nat :=
  (failures past).countP (Failure.counts client endpoint granularity since)

theorem reported_snoc (past : List (Visit ν)) (v : Visit ν) (client endpoint : String) (granularity : Duration)
    (since : Nat) : reported (past ++ [v]) client endpoint granularity since =
      reported past client endpoint granularity since +
        v.failures.countP (Failure.counts client endpoint granularity since) := by
  unfold reported
  rw [failures_snoc, List.countP_append]

theorem Visit.failures_of_other {v : Visit ν} (other : v.move.plain? = none) : v.failures = [] := by
  unfold Visit.failures
  split
  · rename_i c meanwhile command
    rw [command, Move.plain?] at other
    cases c <;> first | rfl | cases other
  · rfl

theorem Move.record_free {m : Move} {c : Command} (ordinary : m.isOrdinary) (same : m.plain? = some c) (a b : String) (o : Outcome) :
    c ≠ .record a b o := by
  obtain ⟨_, meanwhile, command⟩ := Move.plain_asks same
  rintro rfl
  rw [command] at ordinary
  cases ordinary

theorem Visit.failures_of_plain {v : Visit ν} {c : Command} (same : v.move.plain? = some c) :
    v.failures = c.failures v.world.gate.now := by
  obtain ⟨_, meanwhile, command⟩ := Move.plain_asks same
  unfold Visit.failures
  rw [command]

-- A visit at which no failure from this window on is lost: the store is healthy, no write is dropped, and the
-- archive takes only earlier windows.
structure Visit.Faithful [Quantity ν] (since : Nat) (v : Visit ν) : Prop where
  ordinary : v.move.isOrdinary
  healthy : v.world.backend.Healthy
  lossless : v.after.gate.tally.outbox.dropped = v.world.gate.tally.outbox.dropped
  early : v.move.sweeps → v.world.gate.now - v.world.gate.config.archiveAfter.millis ≤ since

variable {client endpoint : String} {since : Nat}

theorem hits_sound (client' : String) (writes : List Write) :
    (Command.sound client' writes).countP (Write.hits client endpoint since) =
      if Client.Valid client' then writes.countP (Write.hits client endpoint since) else 0 := by
  unfold Command.sound
  split
  · rename_i fault found
    rw [if_neg (by rw [Client.Valid, found]; exact Option.some_ne_none fault)]
    rfl
  · rename_i found
    exact (if_pos found).symm

theorem hits_writes {c : Command} (recorded : ∀ a b o, c ≠ .record a b o) (g : Gate ν) :
    (c.writes g).countP (Write.hits client endpoint since) =
      (c.failures g.now).countP (Failure.counts client endpoint g.tally.granularity since) := by
  cases c with
  | login client' endpoint' username success why =>
    rw [Command.writes, hits_sound]
    cases success with
    | true => exact ite_self 0
    | false =>
      simp only [Command.failures]
      split
      · rfl
      · rfl
  | outcome client' endpoint' success =>
    rw [Command.writes, hits_sound]
    cases success with
    | true => exact ite_self 0
    | false =>
      simp only [Command.failures]
      split
      · rfl
      · rfl
  | refused client' username admission =>
    rw [Command.writes, hits_sound]
    exact ite_self 0
  | ban client' reason length failures actor =>
    rw [Command.writes]
    split <;> rfl
  | unban client' actor note =>
    rw [Command.writes]
    split <;> rfl
  | release client' actor reason =>
    rw [Command.writes]
    split <;> rfl
  | record a b o => exact absurd rfl (recorded a b o)
  | _ => rfl

namespace World

def counted (m : Memory) (pending : List Write) (client endpoint : String) (since : Nat) : Nat :=
  Memory.failures m.windows client endpoint since + pending.countP (Write.hits client endpoint since)

theorem counted_append (m : Memory) (pending taken : List Write) (client endpoint : String) (since : Nat) :
    counted m (pending ++ taken) client endpoint since =
      counted m pending client endpoint since + taken.countP (Write.hits client endpoint since) := by
  unfold counted
  rw [List.countP_append]
  omega

theorem counted_cons (m : Memory) (first : Write) (rest : List Write) (client endpoint : String) (since : Nat) :
    counted m (first :: rest) client endpoint since =
      counted m rest client endpoint since + (first.hits client endpoint since).toNat := by
  unfold counted
  rw [List.countP_cons]
  cases first.hits client endpoint since <;> rfl

-- No more is counted or queued than a bound says, from any window on.
def Bounded (client endpoint : String) (bound : Nat → Nat) (w : World ν) : Prop :=
  ∃ m, w.backend.store = .memory m ∧ ∀ since, counted m w.pending client endpoint since ≤ bound since

variable {bound : Nat → Nat} {w u : World ν}

theorem Bounded.queue {more : Nat → Nat} (before : Bounded client endpoint bound w) (writes : List Write)
    (store : u.backend.store = w.backend.store)
    (queued : u.gate.tally.outbox = w.gate.tally.outbox.sendAll writes)
    (grown : ∀ since, bound since + writes.countP (Write.hits client endpoint since) ≤ more since) :
    Bounded client endpoint more u := by
  obtain ⟨m, tables, within⟩ := before
  obtain ⟨taken, short, pending⟩ := Outbox.pending_sendAll w.gate.tally.outbox writes
  refine ⟨m, store.trans tables, fun since => ?_⟩
  have fewer := short.countP_le (p := Write.hits client endpoint since)
  have least := within since
  have most := grown since
  have now : u.pending = w.pending ++ taken := by unfold World.pending; rw [queued, pending]
  rw [now, counted_append]
  omega

theorem Bounded.send {write : Write} (before : Bounded client endpoint bound w)
    (store : u.backend.store = w.backend.store) (queued : u.gate.tally.outbox = w.gate.tally.outbox.send write)
    (quiet : ∀ since, write.hits client endpoint since = false) : Bounded client endpoint bound u := by
  refine before.queue [write] store queued fun since => ?_
  rw [List.countP_cons, quiet since]
  exact Nat.le_refl _

theorem Bounded.deliver (before : Bounded client endpoint bound w) : Bounded client endpoint bound w.deliver := by
  obtain ⟨m, tables, within⟩ := before
  have told := deliver_cases w
  generalize w.deliver = after at told
  cases told with
  | idle _ => exact ⟨m, tables, within⟩
  | @applied first rest a backend queued answered =>
    rw [tables, Store.answer_memory] at answered
    refine ⟨_, (Prod.mk.inj answered).2.symm, fun since => ?_⟩
    have added := Memory.failures_applied_le client endpoint since first m
    have least := within since
    rw [queued, counted_cons] at least
    change counted (m.answer first.call).2 rest client endpoint since ≤ _
    unfold counted at least ⊢
    omega
  | @lost first rest backend queued untouched =>
    refine ⟨m, untouched.trans tables, fun since => ?_⟩
    have least := within since
    rw [queued, counted_cons] at least
    exact Nat.le_trans (Nat.le_add_right ..) least

-- Calls other than writes take rows away, or leave them.
theorem Bounded.finish {c : Call} {limit : Option Duration} {g : Gate ν} (before : Bounded client endpoint bound w)
    (queue : g.tally.outbox = w.gate.tally.outbox) (fewer : ∀ m : Memory, ∀ since,
      Memory.failures (m.answer c).2.windows client endpoint since ≤ Memory.failures m.windows client endpoint since) :
    Bounded client endpoint bound { w with gate := g, backend := (w.backend.finish c limit).2 } := by
  obtain ⟨m, tables, within⟩ := before
  have pending : ({ w with gate := g, backend := (w.backend.finish c limit).2 } : World ν).pending = w.pending := by
    unfold World.pending
    rw [queue]
  rcases Backend.finish_memory tables c limit with same | changed
  · exact ⟨m, same, fun since => by rw [pending]; exact within since⟩
  · refine ⟨_, changed, fun since => ?_⟩
    have least := within since
    have gone := fewer m since
    rw [pending]
    unfold counted at least ⊢
    omega

theorem Bounded.ban (before : Bounded client endpoint bound w) (c reason : String) (d : Duration) (failures : Nat)
    (actor : String) : Bounded client endpoint bound { w with gate := (w.gate.ban c reason d failures actor).2 } := by
  have banned := w.gate.ban_cases c reason d failures actor
  generalize w.gate.ban c reason d failures actor = result at banned
  cases banned with
  | refused => exact before
  | made => exact before.send rfl rfl fun since => rfl

theorem hits_quiet {outcome : Outcome} (quiet : outcome ≠ .failed) (c e : String) (start : Nat) :
    (Write.window c e start outcome).hits client endpoint since = false := by
  cases outcome with
  | failed => exact absurd rfl quiet
  | succeeded | throttled => rfl

variable [Quantity ν]

theorem Act.bounded {sweeping : Prop} (act : Act sweeping w u) (before : Bounded client endpoint bound w) :
    Bounded client endpoint bound u := by
  cases act with
  | arrive =>
    obtain ⟨m, tables, within⟩ := before
    exact ⟨m, (Backend.store_arrive w.backend).trans tables, within⟩
  | deliver => exact before.deliver
  | reload | limit | expire | prune | upkeep => exact before
  | count c e quiet => exact before.send rfl rfl fun since => hits_quiet quiet ..
  | @releaseExpired released backend _ answered =>
    have after : backend = (w.backend.finish (.releaseExpired w.gate.now) none).2 := by rw [answered]
    rw [after]
    exact before.finish rfl fun m since => Nat.le_refl _
  | archive => exact before.finish rfl fun m since => Memory.failures_filter_le ..
  | purgeAttempts => exact before.finish rfl fun m since => Nat.le_refl _
  | purgeBans => exact before.finish rfl fun m since => Nat.le_refl _

theorem Acts.bounded {sweeping : Prop} (acts : Acts sweeping w u) (before : Bounded client endpoint bound w) :
    Bounded client endpoint bound u :=
  acts.keeps (fun _ _ act => act.bounded) before

theorem Bounded.entered {c e : String} {critical : Bool} {answer : Except GateError Admission}
    (entered : Entered w c e critical (answer, u)) (before : Bounded client endpoint bound w) :
    Bounded client endpoint bound u := by
  refine entered.keeps (fun _ _ act => act.bounded) ?_ (fun _ _ so => so) before
  exact fun _ c reason d failures actor so => so.ban c reason d failures actor

theorem bounded_step {past : List (Visit ν)} {m : Move} (ordinary : m.isOrdinary)
    (before : Bounded client endpoint (reported past client endpoint w.gate.tally.granularity) w) :
    Bounded client endpoint (reported (past ++ [⟨w, m⟩]) client endpoint w.gate.tally.granularity)
      (w.step m).2 := by
  have told := moved w (Move.isOwn_of_isOrdinary ordinary)
  generalize (w.step m).2 = u at told
  have later : Bounded client endpoint (reported past client endpoint w.gate.tally.granularity) u →
      Bounded client endpoint (reported (past ++ [⟨w, m⟩]) client endpoint w.gate.tally.granularity) u := by
    rintro ⟨tables, there, within⟩
    refine ⟨tables, there, fun since => Nat.le_trans (within since) ?_⟩
    rw [reported_snoc]
    exact Nat.le_add_right ..
  cases told with
  | @plain c same =>
    have plain := (Move.plain_asks same).1
    refine before.queue (c.writes w.gate) rfl ?_ fun since => ?_
    · show (c.update w.gate).tally.outbox = _
      rw [Command.tally_update plain]
    · refine Nat.le_of_eq ?_
      rw [reported_snoc, hits_writes (Move.record_free ordinary same), Visit.failures_of_plain (v := ⟨w, m⟩) same]
  | idle => exact later before
  | entered other enters entered => exact later (before.entered entered)
  | acted other enters acts => exact later (acts.bounded before)
  | flushed other n => exact later ((acts_deliverMany False n w).bounded before)
  | weather other kept =>
    refine later ?_
    obtain ⟨tables, there, within⟩ := before
    exact ⟨tables, kept.trans there, within⟩

theorem granularity_run (moves : List Move) (own : ∀ v ∈ w.visits moves, v.move.isOwn) :
    (w.run moves).gate.tally.granularity = w.gate.tally.granularity :=
  run_keeps (I := fun _ u => u.gate.tally.granularity = w.gate.tally.granularity) rfl
    (fun _ u _ same own => (granularity_step own u).trans same) moves own

-- However the store fares, it counts no failure twice and none that was not reported.
theorem bounded_run (empty : w.backend.store = .memory .empty) (idle : w.pending = []) (moves : List Move)
    (ordinary : ∀ v ∈ w.visits moves, v.move.isOrdinary) (client endpoint : String) :
    (w.run moves).gate.tally.granularity = w.gate.tally.granularity ∧
      Bounded client endpoint (reported (w.visits moves) client endpoint w.gate.tally.granularity)
        (w.run moves) := by
  refine run_keeps (I := fun past u => u.gate.tally.granularity = w.gate.tally.granularity ∧
    Bounded client endpoint (reported past client endpoint w.gate.tally.granularity) u)
    ⟨rfl, .empty, empty, fun since => ?_⟩ ?_ moves ordinary
  · rw [idle]
    exact Nat.zero_le _
  · rintro past u m ⟨same, within⟩ ordinary
    rw [← same] at within ⊢
    exact ⟨granularity_step (Move.isOwn_of_isOrdinary ordinary) u, bounded_step ordinary within⟩

-- The store is healthy, and so many failures are counted or queued, or as many as a word holds.
structure Complete (client endpoint : String) (since least : Nat) (w : World ν) : Prop where
  healthy : w.backend.Healthy
  recorded : ∃ m, w.backend.store = .memory m ∧ min least wordMax ≤ counted m w.pending client endpoint since

namespace Complete

variable {least : Nat}

omit [Quantity ν] in
theorem withGate {g : Gate ν} (before : Complete client endpoint since least w)
    (queue : g.tally.outbox = w.gate.tally.outbox) : Complete client endpoint since least { w with gate := g } := by
  obtain ⟨healthy, m, tables, enough⟩ := before
  refine ⟨healthy, m, tables, ?_⟩
  unfold World.pending
  rw [queue]
  exact enough

omit [Quantity ν] in
theorem send {g : Gate ν} {write : Write} (before : Complete client endpoint since least w)
    (queued : g.tally.outbox = w.gate.tally.outbox.send write) :
    Complete client endpoint since least { w with gate := g } := by
  obtain ⟨healthy, m, tables, enough⟩ := before
  obtain ⟨taken, short, pending⟩ := Outbox.pending_send w.gate.tally.outbox write
  refine ⟨healthy, m, tables, ?_⟩
  have now : ({ w with gate := g } : World ν).pending = w.pending ++ taken := by
    unfold World.pending
    rw [queued, pending]
  rw [now, counted_append]
  exact Nat.le_trans enough (Nat.le_add_right ..)

omit [Quantity ν] in
theorem deliver (before : Complete client endpoint since least w) :
    Complete client endpoint since least w.deliver := by
  obtain ⟨healthy, m, tables, enough⟩ := before
  cases queued : w.pending with
  | nil =>
    rw [deliver_of_nil queued]
    exact ⟨healthy, m, tables, enough⟩
  | cons first rest =>
    obtain ⟨backend, delivered, stays, changed⟩ := deliver_healthy healthy queued (tables ▸ Store.answer_memory first.call m)
    rw [delivered]
    refine ⟨stays, _, changed, ?_⟩
    have added := Memory.le_failures_applied client endpoint since first m
    rw [queued, counted_cons] at enough
    change _ ≤ counted (m.answer first.call).2 rest client endpoint since
    unfold counted at enough ⊢
    omega

omit [Quantity ν] in
theorem finish {c : Call} (before : Complete client endpoint since least w) (same : ∀ m : Memory,
      Memory.failures (m.answer c).2.windows client endpoint since = Memory.failures m.windows client endpoint since) :
    Complete client endpoint since least { w with backend := (w.backend.finish c none).2 } := by
  obtain ⟨healthy, m, tables, enough⟩ := before
  rw [healthy.finish (tables ▸ Store.answer_memory c m)]
  refine ⟨healthy.withStore _, _, rfl, ?_⟩
  unfold counted at enough ⊢
  rw [same m]
  exact enough

omit [Quantity ν] in
theorem ban (before : Complete client endpoint since least w) (c reason : String) (d : Duration) (failures : Nat)
    (actor : String) :
    Complete client endpoint since least { w with gate := (w.gate.ban c reason d failures actor).2 } := by
  have banned := w.gate.ban_cases c reason d failures actor
  generalize w.gate.ban c reason d failures actor = result at banned
  cases banned with
  | refused => exact before
  | made => exact before.send rfl

-- The archive is no danger if it takes only windows that begin earlier.
theorem act {sweeping : Prop} (act : Act sweeping w u)
    (early : sweeping → w.gate.now - w.gate.config.archiveAfter.millis ≤ since)
    (before : Complete client endpoint since least w) : Complete client endpoint since least u := by
  cases act with
  | arrive =>
    obtain ⟨healthy, m, tables, enough⟩ := before
    exact ⟨healthy.arrive.2, m, (Backend.store_arrive w.backend).trans tables, enough⟩
  | deliver => exact before.deliver
  | reload | limit | expire | prune | upkeep => exact before.withGate rfl
  | count c e quiet => exact before.send rfl
  | @releaseExpired released backend _ answered =>
    have after : backend = (w.backend.finish (.releaseExpired w.gate.now) none).2 := by rw [answered]
    rw [after]
    exact (before.finish fun m => rfl).withGate rfl
  | archive under => exact before.finish fun m => Memory.failures_archived (early under) m.windows
  | purgeAttempts => exact before.finish fun m => rfl
  | purgeBans => exact before.finish fun m => rfl

theorem acts {sweeping : Prop} (acts : Acts sweeping w u)
    (early : sweeping → w.gate.now - w.gate.config.archiveAfter.millis ≤ since)
    (before : Complete client endpoint since least w) : Complete client endpoint since least u := by
  have both := acts.keeps (I := fun v => SameFrame w v ∧ Complete client endpoint since least v)
    (fun v v' act so => ⟨so.1.trans act.frame, so.2.act act fun under => by
      rw [so.1.now, so.1.config]
      exact early under⟩) ⟨.refl w, before⟩
  exact both.2

theorem entered {c e : String} {critical : Bool} {answer : Except GateError Admission}
    (entered : Entered w c e critical (answer, u)) (before : Complete client endpoint since least w) :
    Complete client endpoint since least u := by
  refine entered.keeps (fun _ _ act so => so.act act False.elim) ?_ (fun _ _ so => so.withGate rfl) before
  exact fun _ c reason d failures actor so => so.ban c reason d failures actor

end Complete

theorem complete_step {past : List (Visit ν)} {m : Move} (faithful : Visit.Faithful since ⟨w, m⟩)
    (before : ∃ tables, w.backend.store = .memory tables ∧
      min (reported past client endpoint w.gate.tally.granularity since) wordMax ≤
        counted tables w.pending client endpoint since) :
    ∃ tables, (w.step m).2.backend.store = .memory tables ∧
      min (reported (past ++ [⟨w, m⟩]) client endpoint w.gate.tally.granularity since) wordMax ≤
        counted tables (w.step m).2.pending client endpoint since := by
  obtain ⟨ordinary, healthy, lossless, early⟩ := faithful
  replace before : Complete client endpoint since _ w := ⟨healthy, before⟩
  change (w.step m).2.gate.tally.outbox.dropped = _ at lossless
  have told := moved w (Move.isOwn_of_isOrdinary ordinary)
  generalize (w.step m).2 = u at told lossless
  rw [reported_snoc]
  have silent (other : m.plain? = none) : (⟨w, m⟩ : Visit ν).failures = [] := Visit.failures_of_other other
  cases told with
  | @plain c same =>
    have plain := (Move.plain_asks same).1
    obtain ⟨healthy, tables, there, enough⟩ := before
    refine ⟨tables, there, ?_⟩
    rw [pending_update plain lossless, counted_append, Visit.failures_of_plain same,
      hits_writes (Move.record_free ordinary same)]
    show min (_ + (c.failures w.gate.now).countP _) _ ≤ _
    omega
  | idle other => rw [silent other]; exact before.recorded
  | entered other enters entered => rw [silent other]; exact (before.entered entered).recorded
  | acted other enters acts => rw [silent other]; exact (before.acts acts early).recorded
  | flushed other n =>
    rw [silent other]
    have delivered := before.acts (acts_deliverMany False n w) False.elim
    exact delivered.recorded
  | weather other kept =>
    rw [silent other]
    obtain ⟨healthy, tables, there, enough⟩ := before
    exact ⟨tables, kept.trans there, enough⟩

-- On a healthy store no failure goes missing, if none is dropped and the archive takes only windows that
-- begin before those looked at.
theorem complete_run (empty : w.backend.store = .memory .empty) (moves : List Move)
    (faithful : ∀ v ∈ w.visits moves, v.Faithful since) :
    ∃ tables, (w.run moves).backend.store = .memory tables ∧
      min (reported (w.visits moves) client endpoint w.gate.tally.granularity since) wordMax ≤
        counted tables (w.run moves).pending client endpoint since := by
  have both := run_keeps (I := fun past u => u.gate.tally.granularity = w.gate.tally.granularity ∧
      ∃ tables, u.backend.store = .memory tables ∧
        min (reported past client endpoint w.gate.tally.granularity since) wordMax ≤
          counted tables u.pending client endpoint since)
    ⟨rfl, .empty, empty, Nat.le_trans (Nat.min_le_left ..) (Nat.zero_le _)⟩ ?_ moves faithful
  · exact both.2
  · rintro past u m ⟨same, recorded⟩ faithful
    rw [← same] at recorded ⊢
    exact ⟨granularity_step (Move.isOwn_of_isOrdinary faithful.ordinary) u, complete_step faithful recorded⟩

end World

end Turnstile
