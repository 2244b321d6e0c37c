import Turnstile.Proofs.World.Perform
namespace Turnstile.World

variable {ν : Type} {P : World ν → Prop} {c : Config} {now : Nat}

structure Waits (P : World ν → Prop) : Prop where
  arrive : ∀ w, P w → P { w with backend := w.backend.arrive.2 }
  deliver : ∀ w, P w → P w.deliver

structure Reloads (now : Nat) (P : World ν → Prop) : Prop extends Waits P where
  clock : ∀ w, P w → w.gate.now = now
  reload : ∀ w rows backend, w.backend.finish (.active now) none = (.ok rows, backend) → P w →
    P { w with gate := (w.gate.merge now rows).2 }

structure Toils [Quantity ν] (c : Config) (now : Nat) (P : World ν → Prop) : Prop extends Reloads now P where
  config : ∀ w, P w → w.gate.config = c
  expire : ∀ w, P w → P { w with gate := w.gate.expire.2 }
  releaseExpired : ∀ w released backend, w.backend.finish (.releaseExpired now) none = (.ok released, backend) → P w →
    P { w with backend, gate := w.gate.reportReleased released }
  prune : ∀ w, P w → P { w with gate := (w.gate.pruneFloors (now - c.archiveAfter.millis)).2 }
  evict : ∀ w, P w →
    P { w with gate := { w.gate with limiter := (w.gate.limiter.evictIdle now c.bucketIdle.millis).2 } }
  archive : ∀ w, P w → P { w with backend := (w.backend.finish (.archive (now - c.archiveAfter.millis)) none).2 }
  purgeAttempts : ∀ w cutoff, P w → P { w with backend := (w.backend.finish (.purgeAttempts cutoff) none).2 }
  purgeBans : ∀ w cutoff, P w → P { w with backend := (w.backend.finish (.purgeBans cutoff) none).2 }

structure Works [Quantity ν] (c : Config) (now : Nat) (P : World ν → Prop) : Prop extends Toils c now P where
  succeed : ∀ w s, P w → P { w with gate := { w.gate with upkeep := w.gate.upkeep.succeed s now } }

structure Withstands [Quantity ν] (c : Config) (now : Nat) (P : World ν → Prop) : Prop extends Works c now P where
  upkeep : ∀ w u, P w → P { w with gate := { w.gate with upkeep := u } }
  succeed := fun w _ so => upkeep w _ so

-- Calls that only look.
theorem Waits.reading (waits : Waits P) {asked : Call} (limit : Option Duration) (reads : ∀ s : Store, (s.answer asked).2 = s) :
    Leads P (.ask asked limit .done) (fun _ => P) := by
  refine .ask waits.arrive waits.deliver ?_ (fun _ _ so => so)
  intro w so
  rw [Backend.finish_reading reads]
  exact so

theorem Waits.readings (waits : Waits P) (t : Tally) (client endpoint : String) (since : Nat) :
    Leads P (t.readings client endpoint since) (fun _ => P) := by
  have reads := Store.answer_count client endpoint (windowStart since t.granularity)
  unfold Tally.readings
  refine (waits.reading none reads).bind fun _ => ?_
  refine (waits.reading none reads).bind fun _ => ?_
  exact (waits.reading none reads).bind fun _ => .pure _ fun _ so => so

theorem Reloads.restore (reloads : Reloads now P) : Leads P Gate.restore (fun _ => P) := by
  unfold Gate.restore
  refine .read fun v reached => ?_
  rw [reloads.clock v reached]
  have asked : Leads P (Routine.call (.active now)) (fun answer w => P w ∧ ∀ rows, answer = .ok rows →
      ∃ backend, w.backend.finish (.active now) none = (.ok rows, backend)) := by
    refine .ask reloads.arrive reloads.deliver ?_ ?_
    · intro u so
      rw [Backend.finish_reading (Store.answer_active _)]
      refine ⟨so, fun rows answered => ⟨u.backend, ?_⟩⟩
      rw [← answered]
      exact Prod.ext rfl (Backend.finish_reading (Store.answer_active _) ..)
    · intro u e so
      exact ⟨so, fun rows answered => nomatch answered⟩
  refine asked.bind fun answer => ?_
  cases answer with
  | error e => exact .pure _ fun _ known => known.1
  | ok rows =>
    refine .bind (.update (Q := fun _ => P) ?_) fun n => .pure _ fun _ so => so
    rintro u ⟨so, answered⟩
    obtain ⟨backend, listed⟩ := answered rows rfl
    exact reloads.reload u rows backend listed so

namespace Toils

variable [Quantity ν]

theorem call (toils : Toils c now P) {asked : Call}
    (answered : ∀ w, P w → P { w with backend := (w.backend.finish asked none).2 }) :
    Leads P (Routine.call asked) (fun _ => P) :=
  .ask toils.arrive toils.deliver answered (fun _ _ so => so)

theorem sweepBans (toils : Toils c now P) : Leads P (Gate.sweepBans c now) (fun _ => P) := by
  unfold Gate.sweepBans
  refine .bind (.update (Q := fun _ => P) toils.expire) fun _ => ?_
  -- Between the answer and its report the rows are closed and nobody was told.
  have asked : Leads P (Routine.call (.releaseExpired now)) (fun answer w => (∀ e, answer = .error e → P w) ∧
      ∀ released, answer = .ok released → P { w with gate := w.gate.reportReleased released }) := by
    refine .ask toils.arrive toils.deliver ?_ (fun _ _ so => ⟨fun _ _ => so, nofun⟩)
    intro u so
    cases finished : u.backend.finish (.releaseExpired now) none with
    | mk answer backend =>
      cases answer with
      | error e =>
        rw [Backend.finish_error finished]
        exact ⟨fun _ _ => so, nofun⟩
      | ok released =>
        refine ⟨nofun, fun other same => ?_⟩
        cases same
        exact toils.releaseExpired u released backend finished so
  refine asked.bind fun answer => ?_
  cases answer with
  | error e => exact .pure _ fun _ known => known.1 e rfl
  | ok released =>
    refine .bind (.change (Q := fun _ => P) fun u known => known.2 released rfl) fun _ => ?_
    refine toils.restore.bind fun restored => ?_
    cases restored with
    | error e => exact .pure _ fun _ so => so
    | ok n => exact .bind (.update (Q := fun _ => P) toils.prune) fun _ => .pure _ fun _ so => so

theorem sweepBuckets (toils : Toils c now P) : Leads P (Gate.sweepBuckets c) (fun _ => P) := by
  unfold Gate.sweepBuckets
  refine .bind (.update (Q := fun _ => P) fun u so => ?_) fun n => .pure _ fun _ so => so
  have evicted := toils.evict u so
  rw [← toils.clock u so] at evicted
  exact evicted

theorem sweepHistory (toils : Toils c now P) : Leads P (Gate.sweepHistory c now) (fun _ => P) := by
  unfold Gate.sweepHistory
  refine (toils.call fun u so => toils.purgeAttempts u _ so).bind fun attempts => ?_
  cases attempts with
  | error e => exact .pure _ fun _ so => so
  | ok attempts =>
    refine (toils.call fun u so => toils.purgeBans u _ so).bind fun bans => ?_
    cases bans with
    | error e => exact .pure _ fun _ so => so
    | ok bans => exact .pure _ fun _ so => so

theorem work (toils : Toils c now P) (s : Sweep) : Leads P (Gate.work c now s) (fun _ => P) := by
  cases s with
  | banExpiry => exact toils.sweepBans
  | bucketEvict => exact toils.sweepBuckets
  | windowArchive => exact toils.call toils.archive
  | historyPurge => exact toils.sweepHistory

end Toils

namespace Works

variable [Quantity ν]

theorem sweep (works : Works c now P) (force : Bool) (s : Sweep) :
    Leads P (Gate.sweep force s) (fun _ => P) := by
  unfold Gate.sweep
  refine .read fun v reached => ?_
  split
  · rw [works.clock v reached, works.config v reached]
    refine (works.work s).bind fun answer => ?_
    cases answer with
    | error e => exact .pure _ fun _ so => so
    | ok n =>
      exact .bind (.change (Q := fun _ => P) fun u so => works.succeed u s so) fun _ => .pure _ fun _ so => so
  · exact .pure _ fun _ so => so

theorem sweeps (works : Works c now P) (force : Bool) (all : List Sweep) :
    Leads P (Gate.sweeps force all) (fun _ => P) := by
  induction all with
  | nil => exact .pure _ fun _ so => so
  | cons s rest ih => exact (works.sweep force s).bind fun _ => ih.bind fun _ => .pure _ fun _ so => so

end Works

namespace Withstands

variable [Quantity ν]

theorem maintain (withstands : Withstands c now P) (force : Bool) : Leads P (Gate.maintain force) (fun _ => P) := by
  unfold Gate.maintain
  refine .read fun v _ => ?_
  split
  · exact .pure _ fun _ so => so
  · refine .bind (.change (Q := fun _ => P) fun u so => withstands.upkeep u _ so) fun _ => ?_
    refine (withstands.sweeps force Sweep.all).bind fun report => ?_
    refine .bind (.change (Q := fun _ => P) fun u so => withstands.upkeep u _ so) fun _ => ?_
    exact .pure _ fun _ so => so

end Withstands

end Turnstile.World
