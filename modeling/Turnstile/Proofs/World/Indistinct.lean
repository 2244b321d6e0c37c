import Turnstile.Proofs.Gate.Matching
import Turnstile.Proofs.Gate.Reload
import Turnstile.Proofs.Store.Archive
import Turnstile.Proofs.World.Floors
-- Two runs are compared, one maintained at any points and one not at all. What maintenance forgets at one time lies before the
-- windows that a policy looks back to at that time, as long as windows are kept for as long as that.
namespace Turnstile

namespace World

variable {w u v : World Rat}

structure Indistinct (w u : World Rat) : Prop where
  gate : w.gate.Matches u.gate
  backend : w.backend.SameService w.gate.cutoff u.backend

theorem Indistinct.symm (indistinct : w.Indistinct u) : u.Indistinct w := by
  refine ⟨indistinct.gate.symm, ?_⟩
  rw [indistinct.gate.cutoff]
  exact indistinct.backend.symm

-- What a whole has to itself while a command runs: the store lists the bans that the gate knows, floors follow the ends of bans,
-- and nothing waits in the queue.
structure Calm (w : World Rat) : Prop where
  undisturbed : ∃ m, Undisturbed m w
  tracks : ∀ client, ∃ ended, (w.standingOf client).Tracks 0 w.gate.now ended
  drained : w.pending = []

theorem Calm.healthy (calm : w.Calm) : w.backend.Healthy := by
  obtain ⟨m, undisturbed⟩ := calm.undisturbed
  exact undisturbed.healthy

theorem Calm.act (calm : w.Calm) (act : Act True w v) (drained : v.pending = []) : v.Calm := by
  refine ⟨act.undisturbed calm.undisturbed, fun client => ?_, drained⟩
  obtain ⟨m, undisturbed⟩ := calm.undisturbed
  obtain ⟨ended, tracks⟩ := calm.tracks client
  exact ⟨ended, act.tracks ⟨m, undisturbed.agreement.tables⟩ (fun _ => Nat.sub_le_sub_left (Nat.zero_le _) _) tracks⟩

-- One of the two is maintained while the other one stays as it is.
structure Beside (u : World Rat) (c : Config) (now : Nat) (w : World Rat) : Prop where
  clock : w.gate.now = now
  config : w.gate.config = c
  indistinct : w.Indistinct u
  calm : w.Calm

theorem Beside.cutoff {c : Config} {now : Nat} (beside : Beside u c now w) : w.gate.cutoff = now - c.archiveAfter.millis := by
  unfold Gate.cutoff
  rw [beside.clock, beside.config]

theorem Indistinct.finish (indistinct : w.Indistinct u) (calm : w.Calm) {c : Call} (spares : Memory.LeavesRecent w.gate.cutoff c) :
    Indistinct { w with backend := (w.backend.finish c none).2 } u :=
  ⟨indistinct.gate, indistinct.backend.finish calm.healthy spares none⟩

theorem beside_withstands (u : World Rat) (c : Config) (now : Nat) : Withstands c now (Beside u c now) where
  clock _ beside := beside.clock
  config _ beside := beside.config
  arrive w beside := ⟨beside.clock, beside.config, ⟨beside.indistinct.gate, beside.indistinct.backend.arrive beside.calm.healthy⟩,
    beside.calm.act (.arrive w) beside.calm.drained⟩
  deliver w beside := by
    rw [deliver_of_nil beside.calm.drained]
    exact beside
  reload w rows backend answered beside := by
    obtain ⟨m, undisturbed⟩ := beside.calm.undisturbed
    rw [← beside.clock] at answered ⊢
    have merged := beside.indistinct.gate.merge (undisturbed.listed answered) fun client b active => by
      obtain ⟨ended, tracks⟩ := beside.calm.tracks client
      exact tracks.active b active
    exact ⟨rfl, beside.config, ⟨merged, beside.indistinct.backend⟩, beside.calm.act (.reload w answered) beside.calm.drained⟩
  expire w beside := ⟨beside.clock, beside.config, ⟨beside.indistinct.gate.expire, beside.indistinct.backend⟩,
    beside.calm.act (.expire w trivial) beside.calm.drained⟩
  releaseExpired w released backend answered beside := by
    have finished := beside.indistinct.backend.finish beside.calm.healthy (c := .releaseExpired now) trivial none
    rw [answered] at finished
    rw [← beside.clock] at answered
    exact ⟨beside.clock, beside.config, ⟨beside.indistinct.gate.withTrail _ u.gate.trail, finished⟩,
      beside.calm.act (.releaseExpired w trivial answered) beside.calm.drained⟩
  prune w beside := by
    rw [← beside.cutoff]
    exact ⟨beside.clock, beside.config, ⟨beside.indistinct.gate.forgetFloors, beside.indistinct.backend⟩,
      beside.calm.act (.prune w trivial) beside.calm.drained⟩
  evict w beside := by
    rw [← beside.clock]
    exact ⟨rfl, beside.config, ⟨beside.indistinct.gate.evict c.bucketIdle.millis, beside.indistinct.backend⟩,
      beside.calm.act (.limit w _) beside.calm.drained⟩
  archive w beside := by
    rw [← beside.cutoff]
    exact ⟨beside.clock, beside.config, beside.indistinct.finish beside.calm (Nat.le_refl _),
      beside.calm.act (.archive w trivial) beside.calm.drained⟩
  purgeAttempts w cutoff beside := ⟨beside.clock, beside.config, beside.indistinct.finish beside.calm trivial,
    beside.calm.act (.purgeAttempts w cutoff trivial) beside.calm.drained⟩
  purgeBans w cutoff beside := ⟨beside.clock, beside.config, beside.indistinct.finish beside.calm trivial,
    beside.calm.act (.purgeBans w cutoff trivial) beside.calm.drained⟩
  upkeep w new beside := ⟨beside.clock, beside.config, ⟨beside.indistinct.gate.withUpkeep new, beside.indistinct.backend⟩,
    beside.calm.act (.upkeep w new trivial) beside.calm.drained⟩

section
variable (indistinct : w.Indistinct u) (calm : w.Calm)
include indistinct calm

-- Commands that are noticed neither if they are given to one of the two, nor if they are given to both.
theorem Indistinct.maintain (force : Bool) (meanwhile : List Nat) : (w.step (.command (.maintain force) meanwhile)).2.Indistinct u :=
  (((beside_withstands u w.gate.config w.gate.now).maintain force).map
    (R := fun _ => Beside u w.gate.config w.gate.now) (fun _ _ beside => beside) meanwhile w ⟨rfl, rfl, indistinct, calm⟩).indistinct

theorem Indistinct.restore (meanwhile : List Nat) : (w.step (.command .restore meanwhile)).2.Indistinct u :=
  ((beside_withstands u w.gate.config w.gate.now).restore.map
    (R := fun _ => Beside u w.gate.config w.gate.now) (fun _ _ beside => beside) meanwhile w ⟨rfl, rfl, indistinct, calm⟩).indistinct

theorem Indistinct.counts (client endpoint : String) (since : Nat) (meanwhile : List Nat) :
    (w.step (.command (.counts client endpoint since) meanwhile)).2.Indistinct u := by
  have leads : Leads (Beside u w.gate.config w.gate.now) (Command.routine (.counts client endpoint since))
      (fun _ => Beside u w.gate.config w.gate.now) :=
    .read fun v _ => ((beside_withstands u w.gate.config w.gate.now).readings v.gate.tally client endpoint since).map
      fun _ _ beside => beside
  exact (leads meanwhile w ⟨rfl, rfl, indistinct, calm⟩).indistinct

end

-- What may be done to one of the two may be done to both.
theorem Indistinct.both {f : World Rat → World Rat} (one : ∀ w u : World Rat, w.Indistinct u → w.Calm → (f w).Indistinct u) (indistinct : w.Indistinct u)
    (calm : w.Calm) (calm' : u.Calm) : (f w).Indistinct (f u) :=
  (one u (f w) (one w u indistinct calm).symm calm').symm

theorem Indistinct.enter (indistinct : w.Indistinct u) (healthy : w.backend.Healthy) (retains : w.gate.Retains) (fits : w.gate.now ≤ wordMax)
    (client endpoint : String) (critical : Bool) :
    ((Gate.enter client endpoint critical).run u.gate u.backend).1 = ((Gate.enter client endpoint critical).run w.gate w.backend).1 ∧
      ((Gate.enter client endpoint critical).run w.gate w.backend).2.1.Matches
        ((Gate.enter client endpoint critical).run u.gate u.backend).2.1 ∧
      ((Gate.enter client endpoint critical).run w.gate w.backend).2.2.SameService w.gate.cutoff
        ((Gate.enter client endpoint critical).run u.gate u.backend).2.2 := by
  cases sound : Client.fault? client with
  | some fault =>
    rw [Gate.enter_of_fault sound, Gate.enter_of_fault sound]
    exact ⟨rfl, indistinct.gate, indistinct.backend⟩
  | none =>
    obtain ⟨screening, after⟩ := indistinct.gate.screen client endpoint critical
    have cases := w.gate.screen_cases client endpoint critical
    cases screened : w.gate.screen client endpoint critical with
    | mk first g =>
      cases screened' : u.gate.screen client endpoint critical with
      | mk first' h =>
        rw [screened] at cases
        rw [screened, screened'] at screening after
        cases screening
        cases first with
        | answered a =>
          rw [Gate.enter_of_answered sound screened, Gate.enter_of_answered sound screened']
          exact ⟨rfl, after, indistinct.backend⟩
        | undecided =>
          cases cases with
          | undecided limiter free severe =>
            have kept : Gate.Retains { w.gate with limiter } := retains
            have early := Gate.cutoff_le_horizon kept fits client
            have horizon := after.horizon kept fits client
            have config : h.config = w.gate.config := after.config
            have heard := indistinct.backend.count_eq healthy early client endpoint (some w.gate.config.criticalReadTimeout)
            rw [Gate.enter_of_undecided sound screened, Gate.enter_of_undecided sound screened', config, horizon]
            dsimp only
            rw [heard]
            obtain ⟨answer, judged⟩ := after.judge client endpoint (w.backend.call (.count client endpoint
              (Gate.horizon { w.gate with limiter } client)) (some w.gate.config.criticalReadTimeout)).1
            exact ⟨congrArg Except.ok answer, judged, indistinct.backend.call healthy _ _⟩

theorem Indistinct.deliver (indistinct : w.Indistinct u) (healthy : w.backend.Healthy) : w.deliver.Indistinct u.deliver := by
  have queue : u.pending = w.pending := congrArg (fun t : Tally => t.outbox.pending) indistinct.gate.tally
  cases queued : w.pending with
  | nil =>
    rw [deliver_of_nil queued, deliver_of_nil (queue.trans queued)]
    exact indistinct
  | cons first rest =>
    rw [deliver_once healthy queued, deliver_once (indistinct.backend.healthy.1 healthy) (queue.trans queued), indistinct.gate.tally,
      ← indistinct.backend.settle healthy]
    exact ⟨indistinct.gate.setOutbox _, indistinct.backend.call healthy _ _⟩

theorem Indistinct.deliverMany (indistinct : w.Indistinct u) (healthy : w.backend.Healthy) (n : Nat) :
    (deliverMany n w).Indistinct (deliverMany n u) := by
  induction n generalizing w u with
  | zero => exact indistinct
  | succ n ih => exact ih (indistinct.deliver healthy) (healthy_deliver healthy)

end World

end Turnstile
