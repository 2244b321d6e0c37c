import Turnstile.Proofs.Gate.Clients
namespace Turnstile

variable {ν : Type} {client other : String}

namespace Store

-- Only to store a ban may be refused.
theorem answer_ok {c : Call} (listed : ∀ ban, c ≠ .upsert ban) (s : Store) : ∃ a, (s.answer c).1 = .ok a := by
  cases s with
  | memory m => exact ⟨_, rfl⟩
  | relational r =>
    cases c with
    | upsert ban => exact absurd rfl (listed ban)
    | _ => exact ⟨_, rfl⟩

end Store

namespace Routine

variable {α β : Type}

-- Two pieces of work, each on a gate and a store of its own; these are the same to a client, and stay so.
def Pairs (client : String) (r r' : Routine (Gate ν) α) (Q : α → α → Prop) : Prop :=
  ∀ ⦃g h : Gate ν⦄ ⦃b d : Backend⦄, g.SameFor client h → b.SameFor client d → b.Healthy →
    Q (r.run g b).1 (r'.run h d).1 ∧ (r.run g b).2.1.SameFor client (r'.run h d).2.1 ∧
      (r.run g b).2.2.SameFor client (r'.run h d).2.2

namespace Pairs

variable {r r' : Routine (Gate ν) α} {Q : α → α → Prop} {R : β → β → Prop}

theorem pure {a a' : α} (fit : Q a a') : Pairs client (Pure.pure a : Routine (Gate ν) α) (Pure.pure a') Q :=
  fun _ _ _ _ gates stores _ => ⟨fit, gates, stores⟩

theorem bind {f f' : α → Routine (Gate ν) β} (first : Pairs client r r' Q)
    (rest : ∀ a a', Q a a' → Pairs client (f a) (f' a') R) : Pairs client (r >>= f) (r' >>= f') R := by
  intro g h b d gates stores healthy
  obtain ⟨fit, gates', stores'⟩ := first gates stores healthy
  rw [run_bind, run_bind]
  exact rest _ _ fit gates' stores' (healthy_run r g healthy)

theorem read {f f' : Gate ν → Routine (Gate ν) β}
    (rest : ∀ g h : Gate ν, g.SameFor client h → Pairs client (f g) (f' h) R) :
    Pairs client (Routine.state >>= f) (Routine.state >>= f') R :=
  fun g h _ _ gates stores healthy => rest g h gates gates stores healthy

theorem update {f f' : Gate ν → α × Gate ν} (changed : ∀ g h : Gate ν, g.SameFor client h →
    Q (f g).1 (f' h).1 ∧ (f g).2.SameFor client (f' h).2) : Pairs client (.update f) (.update f') Q :=
  fun g h _ _ gates stores _ => ⟨(changed g h gates).1, (changed g h gates).2, stores⟩

theorem change {f f' : Gate ν → Gate ν} {Q : Unit → Unit → Prop} (fit : Q () ())
    (changed : ∀ g h : Gate ν, g.SameFor client h → (f g).SameFor client (f' h)) :
    Pairs client (.change f) (.change f') Q :=
  fun g h _ _ gates stores _ => ⟨fit, changed g h gates, stores⟩

-- A call of the client, or of nobody, changes the same on both sides.
theorem call {c : Call} {Q : Except StoreError c.Answer → Except StoreError c.Answer → Prop}
    (own : ∀ named, c.client? = some named → named = client)
    (answered : ∀ b d : Backend, b.SameFor client d → b.Healthy → Q (b.call c none).1 (d.call c none).1) :
    Pairs client (Routine.call c : Routine (Gate ν) _) (Routine.call c) Q :=
  fun _ _ b d gates stores healthy => ⟨answered b d stores healthy, gates, stores.call healthy own none⟩

end Pairs

-- Both sides were answered.
def BothOk (x y : Except StoreError α) : Prop := ∃ a a', x = .ok a ∧ y = .ok a'

theorem Pairs.call_ok {c : Call} (nobody : c.client? = none) :
    Pairs (ν := ν) client (Routine.call c) (Routine.call c) BothOk := by
  have listed : ∀ ban, c ≠ .upsert ban := fun ban same => by rw [same] at nobody; cases nobody
  apply Pairs.call
  · intro named found
    rw [nobody] at found
    cases found
  · intro b d stores healthy
    obtain ⟨a, answered⟩ := b.store.answer_ok listed
    obtain ⟨a', answered'⟩ := d.store.answer_ok listed
    have heard := (healthy.call_eq c none).1
    have heard' := ((stores.healthy healthy).call_eq c none).1
    exact ⟨a, a', heard.trans answered, heard'.trans answered'⟩

end Routine

namespace Gate

open Routine (Pairs BothOk)

theorem pairs_restore : Pairs (ν := ν) client restore restore BothOk := by
  unfold restore
  refine .read fun g h same => ?_
  rw [same.now]
  refine .bind (Q := fun x y => ∃ all own : List Ban, x = .ok all ∧ y = .ok own ∧
    all.filter (·.isOf client) = own.filter (·.isOf client)) (.call nofun ?_) ?_
  · exact fun b d stores healthy => stores.active_eq healthy g.now
  · rintro x y ⟨all, own, rfl, rfl, rows⟩
    refine .bind (Q := fun _ _ => True) (.update fun g' h' same' => ⟨trivial, same'.merge g.now rows⟩) ?_
    exact fun n n' _ => .pure ⟨n, n', rfl, rfl⟩

theorem pairs_sweepBans (c : Config) (now : Nat) : Pairs (ν := ν) client (sweepBans c now) (sweepBans c now) BothOk := by
  unfold sweepBans
  refine .bind (Q := fun _ _ => True) (.update fun g h same => ⟨trivial, same.expire⟩) fun _ _ _ => ?_
  refine (Pairs.call_ok rfl).bind ?_
  rintro x y ⟨released, released', rfl, rfl⟩
  refine .bind (Q := fun _ _ => True) (.change trivial fun g h same => same.withTrail _ _) fun _ _ _ => ?_
  refine pairs_restore.bind ?_
  rintro x y ⟨n, n', rfl, rfl⟩
  refine .bind (Q := fun _ _ => True) (.update fun g h same => ⟨trivial, same.pruneFloors _⟩) fun _ _ _ => ?_
  exact .pure ⟨_, _, rfl, rfl⟩

theorem pairs_sweepHistory (c : Config) (now : Nat) :
    Pairs (ν := ν) client (sweepHistory c now) (sweepHistory c now) BothOk := by
  unfold sweepHistory
  refine (Pairs.call_ok rfl).bind ?_
  rintro x y ⟨attempts, attempts', rfl, rfl⟩
  refine (Pairs.call_ok rfl).bind ?_
  rintro x y ⟨bans, bans', rfl, rfl⟩
  exact .pure ⟨_, _, rfl, rfl⟩

variable [Quantity ν]

theorem pairs_sweepBuckets (c : Config) : Pairs (ν := ν) client (sweepBuckets c) (sweepBuckets c) BothOk := by
  unfold sweepBuckets
  refine .bind (Q := fun _ _ => True) (.update fun g h same => ⟨trivial, ?_⟩) fun n n' _ => .pure ⟨n, n', rfl, rfl⟩
  have evicted := same.limiter.evict g.now c.bucketIdle.millis
  have here : h.limiter.evictIdle h.now c.bucketIdle.millis = h.limiter.evictIdle g.now c.bucketIdle.millis := by
    rw [same.now]
  rw [← here] at evicted
  exact same.withLimiter evicted

theorem pairs_work (c : Config) (now : Nat) (s : Sweep) : Pairs (ν := ν) client (work c now s) (work c now s) BothOk := by
  cases s with
  | banExpiry => exact pairs_sweepBans c now
  | bucketEvict => exact pairs_sweepBuckets c
  | windowArchive => exact Pairs.call_ok rfl
  | historyPurge => exact pairs_sweepHistory c now

-- The same sweeps are due, and none fails.
theorem pairs_sweep (force : Bool) (s : Sweep) :
    Pairs (ν := ν) client (sweep force s) (sweep force s) fun _ _ => True := by
  unfold sweep
  refine .read fun g h same => ?_
  rw [same.upkeep, same.config, same.now]
  split
  · refine (pairs_work g.config g.now s).bind ?_
    rintro x y ⟨n, n', rfl, rfl⟩
    refine .bind (Q := fun _ _ => True) (.change trivial fun g' h' same' => ?_) fun _ _ _ => .pure trivial
    exact same'.withUpkeep (congrArg (·.succeed s g.now) same'.upkeep)
  · exact .pure trivial

theorem pairs_sweeps (force : Bool) (all : List Sweep) :
    Pairs (ν := ν) client (sweeps force all) (sweeps force all) fun _ _ => True := by
  induction all with
  | nil => exact .pure trivial
  | cons s rest ih => exact (pairs_sweep force s).bind fun _ _ _ => ih.bind fun _ _ _ => .pure trivial

theorem pairs_maintain (force : Bool) :
    Pairs (ν := ν) client (maintain force) (maintain force) fun _ _ => True := by
  unfold maintain
  refine .read fun g h same => ?_
  rw [same.upkeep]
  split
  · exact .pure trivial
  · refine .bind (Q := fun _ _ => True) (.change trivial fun g' h' same' => ?_) fun _ _ _ => ?_
    · exact same'.withUpkeep (congrArg (fun u : Upkeep => { u with running := true }) same'.upkeep)
    · refine (pairs_sweeps force Sweep.all).bind fun _ _ _ => ?_
      refine .bind (Q := fun _ _ => True) (.change trivial fun g' h' same' => ?_) fun _ _ _ => .pure trivial
      exact same'.withUpkeep (congrArg (fun u : Upkeep => { u with running := false, runs := u.runs + 1 }) same'.upkeep)

omit [Quantity ν] in
theorem SameFor.horizon {g h : Gate ν} (same : g.SameFor client h) : h.horizon client = g.horizon client := by
  unfold Gate.horizon
  rw [same.lookback, same.granularity]

section
variable {g h : Gate ν} {b d : Backend} (same : g.SameFor client h) (stores : b.SameFor client d) (healthy : b.Healthy)
  {endpoint : String} {critical : Bool}
include same stores healthy

theorem enter_own (kept : g.Lossless ((enter client endpoint critical).run g b).2.1) :
    ((enter client endpoint critical).run h d).1 = ((enter client endpoint critical).run g b).1 ∧
      ((enter client endpoint critical).run g b).2.1.SameFor client ((enter client endpoint critical).run h d).2.1 ∧
      ((enter client endpoint critical).run g b).2.2.SameFor client ((enter client endpoint critical).run h d).2.2 := by
  cases sound : Client.fault? client with
  | some fault =>
    rw [enter_of_fault sound, enter_of_fault sound]
    exact ⟨rfl, same, stores⟩
  | none =>
    have both := same.screen endpoint critical
    cases screened : g.screen client endpoint critical with
    | mk screening g' =>
      cases screened' : h.screen client endpoint critical with
      | mk screening' h' =>
        rw [screened, screened'] at both
        cases screening with
        | answered a =>
          rw [enter_of_answered sound screened] at kept ⊢
          obtain ⟨equal, after⟩ := both kept
          cases equal
          rw [enter_of_answered sound screened']
          exact ⟨rfl, after, stores⟩
        | undecided =>
          obtain ⟨equal, after⟩ := both (lossless_undecided screened)
          cases equal
          rw [enter_of_undecided sound screened] at kept ⊢
          have config : h'.config = g'.config := after.config
          have horizon : h'.horizon client = g'.horizon client := after.horizon
          have heard := stores.count_eq healthy endpoint (g'.horizon client) (some g'.config.criticalReadTimeout)
          have judged := after.judge endpoint (kept.trans (lossless_undecided screened).symm)
          have called := stores.call healthy (c := .count client endpoint (g'.horizon client))
            (fun _ found => (Option.some.inj found).symm) (some g'.config.criticalReadTimeout)
          rw [enter_of_undecided sound screened', config, horizon]
          dsimp only
          rw [heard]
          exact ⟨congrArg Except.ok judged.1, judged.2, called⟩

theorem enter_other (away : other ≠ client) (kept : g.Lossless ((enter other endpoint critical).run g b).2.1) :
    ((enter other endpoint critical).run g b).2.1.SameFor client h ∧
      ((enter other endpoint critical).run g b).2.2.SameFor client d := by
  cases sound : Client.fault? other with
  | some fault =>
    rw [enter_of_fault sound]
    exact ⟨same, stores⟩
  | none =>
    have after := same.screen_other away endpoint critical
    cases screened : g.screen other endpoint critical with
    | mk screening g' =>
      rw [screened] at after
      cases screening with
      | answered a =>
        rw [enter_of_answered sound screened] at kept ⊢
        exact ⟨after kept, stores⟩
      | undecided =>
        rw [enter_of_undecided sound screened] at kept ⊢
        have quiet := lossless_undecided screened
        exact ⟨(after quiet).judge_other away (kept.trans quiet.symm), stores.call_other healthy rfl away _⟩

end

omit [Quantity ν] in
theorem pairs_readings {g h : Gate ν} (same : g.SameFor client h) (endpoint : String) (since : Nat) :
    Pairs (ν := ν) client (g.tally.readings client endpoint since) (h.tally.readings client endpoint since) Eq := by
  have count : Pairs (ν := ν) client (Routine.call (g.tally.since client endpoint since))
      (Routine.call (g.tally.since client endpoint since)) Eq := by
    apply Pairs.call
    · exact fun named found => (Option.some.inj found).symm
    · exact fun b d stores healthy => (stores.count_eq healthy endpoint _ none).symm
  rw [readings_congr same.granularity]
  unfold Tally.readings
  refine count.bind fun all all' equal => ?_
  refine count.bind fun requests requests' equal' => ?_
  refine count.bind fun failures failures' equal'' => ?_
  exact .pure (by rw [equal, equal', equal''])

omit [Quantity ν] in
theorem readings_other {g h : Gate ν} {b d : Backend} (same : g.SameFor client h) (stores : b.SameFor client d)
    (healthy : b.Healthy) (away : other ≠ client) (endpoint : String) (since : Nat) :
    ((g.tally.readings other endpoint since).run g b).2.1.SameFor client h ∧
      ((g.tally.readings other endpoint since).run g b).2.2.SameFor client d := by
  have first := stores.call_other healthy (c := g.tally.since other endpoint since) rfl away none
  have second := first.call_other (healthy.after_call _ none) (c := g.tally.since other endpoint since) rfl away none
  have third := second.call_other ((healthy.after_call _ none).after_call _ none)
    (c := g.tally.since other endpoint since) rfl away none
  exact ⟨same, third⟩

end Gate

namespace Command

variable [Quantity ν] {c : Command} {g h : Gate ν} {b d : Backend}

theorem reports_own (reports : c.reports = true) (named : c.client? = some client) (same : g.SameFor client h)
    (kept : g.Lossless (c.update g)) : (c.update g).SameFor client (c.update h) := by
  rw [update_reports reports] at kept ⊢
  rw [update_reports reports, writes_reports reports same.now same.granularity]
  refine same.setOutbox (same.outbox.sendAll _ kept fun w member => ?_)
  have told := client_writes reports g w member
  rw [named] at told
  exact (Option.some.inj told).symm

theorem reports_other (reports : c.reports = true) (named : c.client? = some other) (away : other ≠ client)
    (same : g.SameFor client h) (kept : g.Lossless (c.update g)) : (c.update g).SameFor client h := by
  rw [update_reports reports] at kept ⊢
  refine same.setOutbox (p := h.tally.outbox) (same.outbox.sendAll_other _ kept fun w member => ?_)
  have told := client_writes reports g w member
  rw [named] at told
  exact Option.some.inj told ▸ away

section
variable (same : g.SameFor client h) (stores : b.SameFor client d) (healthy : c.asks = true → b.Healthy)
include same stores healthy

-- A command of the client has the same answer, and leaves gates and stores that are the same to it.
theorem run_own (named : c.client? = some client) (kept : g.Lossless (c.routine.run g b).2.1) :
    (c.routine.run h d).1 = (c.routine.run g b).1 ∧
      (c.routine.run g b).2.1.SameFor client (c.routine.run h d).2.1 ∧
      (c.routine.run g b).2.2.SameFor client (c.routine.run h d).2.2 := by
  cases reports : c.reports with
  | true =>
    obtain ⟨reply, ran⟩ := run_reports (ν := ν) reports
    rw [ran] at kept ⊢
    rw [ran]
    exact ⟨rfl, reports_own reports named same kept, stores⟩
  | false =>
    cases c with
    | enter asking endpoint critical =>
      cases named
      rw [run_enter] at kept ⊢
      rw [run_enter]
      obtain ⟨answer, gates, stores⟩ := Gate.enter_own same stores (healthy rfl) kept
      exact ⟨congrArg Reply.admission answer, gates, stores⟩
    | serve asking endpoint critical inner =>
      cases named
      by_cases ready : inner = .notReady
      · subst ready
        exact ⟨rfl, same, stores⟩
      · rw [run_serve ready] at kept ⊢
        rw [run_serve ready]
        obtain ⟨answer, gates, stores⟩ := Gate.enter_own same stores (healthy rfl) kept
        exact ⟨congrArg (fun entered => Reply.served (Gate.served inner endpoint entered)) answer, gates, stores⟩
    | ban asking reason length failures actor =>
      cases named
      obtain ⟨answer, gates⟩ := same.ban reason length failures actor kept
      exact ⟨congrArg Reply.banned answer, gates, stores⟩
    | unban asking actor note =>
      cases named
      obtain ⟨answer, gates⟩ := same.unban actor note kept
      exact ⟨congrArg Reply.unbanned answer, gates, stores⟩
    | release asking actor reason =>
      cases named
      obtain ⟨answer, gates⟩ := same.unban actor (some reason) kept
      exact ⟨congrArg (fun result : Except GateError (Option Ban) => Reply.reported (result.map fun _ => ())) answer,
        gates, stores⟩
    | acquire asking =>
      cases named
      obtain ⟨answer, gates⟩ := same.acquire
      exact ⟨congrArg Reply.decision answer, gates, stores⟩
    | counts asking endpoint since =>
      cases named
      rw [run_counts, run_counts]
      obtain ⟨answer, gates, stores⟩ := Gate.pairs_readings same endpoint since same stores (healthy rfl)
      exact ⟨congrArg Reply.counted answer.symm, gates, stores⟩
    | login | refused | outcome | record | append => cases reports
    | restore | expire | prune | reconfigure | maintain | clock => cases named

-- A command of somebody else leaves what it had.
theorem run_other (named : c.client? = some other) (away : other ≠ client) (kept : g.Lossless (c.routine.run g b).2.1) :
    (c.routine.run g b).2.1.SameFor client h ∧ (c.routine.run g b).2.2.SameFor client d := by
  cases reports : c.reports with
  | true =>
    obtain ⟨reply, ran⟩ := run_reports (ν := ν) reports
    rw [ran] at kept ⊢
    exact ⟨reports_other reports named away same kept, stores⟩
  | false =>
    cases c with
    | enter asking endpoint critical =>
      cases named
      rw [run_enter] at kept ⊢
      exact Gate.enter_other same stores (healthy rfl) away kept
    | serve asking endpoint critical inner =>
      cases named
      by_cases ready : inner = .notReady
      · subst ready
        exact ⟨same, stores⟩
      · rw [run_serve ready] at kept ⊢
        exact Gate.enter_other same stores (healthy rfl) away kept
    | ban asking reason length failures actor =>
      cases named
      exact ⟨same.ban_other reason length failures actor away kept, stores⟩
    | unban asking actor note =>
      cases named
      exact ⟨same.unban_other actor note away kept, stores⟩
    | release asking actor reason =>
      cases named
      exact ⟨same.unban_other actor (some reason) away kept, stores⟩
    | acquire asking =>
      cases named
      exact ⟨same.acquire_other away, stores⟩
    | counts asking endpoint since =>
      cases named
      rw [run_counts]
      exact Gate.readings_other same stores (healthy rfl) away endpoint since
    | login | refused | outcome | record | append => cases reports
    | restore | expire | prune | reconfigure | maintain | clock => cases named

theorem run_common (nobody : c.client? = none) :
    (c.routine.run g b).2.1.SameFor client (c.routine.run h d).2.1 ∧
      (c.routine.run g b).2.2.SameFor client (c.routine.run h d).2.2 := by
  cases c with
  | restore =>
    rw [run_restore, run_restore]
    exact (Gate.pairs_restore same stores (healthy rfl)).2
  | maintain force =>
    rw [run_maintain, run_maintain]
    exact (Gate.pairs_maintain force same stores (healthy rfl)).2
  | expire => exact ⟨same.expire, stores⟩
  | prune before => exact ⟨same.pruneFloors before, stores⟩
  | reconfigure config => exact ⟨same.reconfigure config, stores⟩
  | clock reading => exact ⟨same.clock reading, stores⟩
  | enter | serve | login | refused | outcome | ban | unban | release | acquire | record | append | counts => cases nobody

end

end Command

end Turnstile
