import Mathlib.Logic.Relation
import Turnstile.Proofs.World.Upkeep
-- A law that every act keeps is kept by every run of maintenance, whatever fails in it and whatever is delivered meanwhile.
namespace Turnstile.World

variable {ν : Type}

-- Only maintenance forgets floors and moves or deletes rows; `sweeping` tells whether it may be under way.
inductive Act [Quantity ν] (sweeping : Prop) : World ν → World ν → Prop where
  | arrive (w) : Act sweeping w { w with backend := w.backend.arrive.2 }
  | deliver (w) : Act sweeping w w.deliver
  | reload (w) {rows : List Ban} {backend : Backend}
      (answered : w.backend.finish (.active w.gate.now) none = (.ok rows, backend)) :
      Act sweeping w { w with gate := (w.gate.merge w.gate.now rows).2 }
  | expire (w) : sweeping → Act sweeping w { w with gate := w.gate.expire.2 }
  | releaseExpired (w) {released : List Ban} {backend : Backend} : sweeping →
      w.backend.finish (.releaseExpired w.gate.now) none = (.ok released, backend) →
      Act sweeping w { w with backend, gate := w.gate.reportReleased released }
  | prune (w) : sweeping →
      Act sweeping w
        { w with gate := (w.gate.pruneFloors (w.gate.now - w.gate.config.archiveAfter.millis)).2 }
  | limit (w) (limiter : Limiter ν) : Act sweeping w { w with gate := { w.gate with limiter } }
  | count (w) (client endpoint : String) {outcome : Outcome} (quiet : outcome ≠ .failed) :
      Act sweeping w { w with gate := w.gate.count client endpoint outcome }
  | archive (w) : sweeping →
      Act sweeping w { w with
        backend := (w.backend.finish (.archive (w.gate.now - w.gate.config.archiveAfter.millis)) none).2 }
  | purgeAttempts (w) (cutoff : Nat) : sweeping →
      Act sweeping w { w with backend := (w.backend.finish (.purgeAttempts cutoff) none).2 }
  | purgeBans (w) (cutoff : Nat) : sweeping →
      Act sweeping w { w with backend := (w.backend.finish (.purgeBans cutoff) none).2 }
  | upkeep (w) (u : Upkeep) : sweeping → Act sweeping w { w with gate := { w.gate with upkeep := u } }

abbrev Acts [Quantity ν] (sweeping : Prop) : World ν → World ν → Prop := Relation.ReflTransGen (Act sweeping)

variable {sweeping : Prop} {w u : World ν}

-- What no act touches. Queue, bans, buckets, trail and store are what acts are about.
structure SameFrame (w u : World ν) : Prop where
  now : u.gate.now = w.gate.now
  config : u.gate.config = w.gate.config
  policy : u.gate.policy = w.gate.policy
  granularity : u.gate.tally.granularity = w.gate.tally.granularity

theorem SameFrame.refl (w : World ν) : SameFrame w w := ⟨rfl, rfl, rfl, rfl⟩

theorem SameFrame.trans {v : World ν} (first : SameFrame w u) (rest : SameFrame u v) : SameFrame w v :=
  ⟨rest.now.trans first.now, rest.config.trans first.config, rest.policy.trans first.policy,
    rest.granularity.trans first.granularity⟩

theorem frame_deliver (w : World ν) : SameFrame w w.deliver := by
  rw [deliver_eq]
  exact ⟨rfl, rfl, rfl, rfl⟩

variable [Quantity ν]

theorem Act.frame (act : Act sweeping w u) : SameFrame w u := by
  cases act with
  | deliver => exact frame_deliver w
  | _ => exact ⟨rfl, rfl, rfl, rfl⟩

theorem Acts.frame (acts : Acts sweeping w u) : SameFrame w u := by
  induction acts with
  | refl => exact .refl w
  | tail _ act ih => exact ih.trans act.frame

theorem Acts.keeps {I : World ν → Prop} (kept : ∀ w u, Act sweeping w u → I w → I u)
    (acts : Acts sweeping w u) (before : I w) : I u := by
  induction acts with
  | refl => exact before
  | tail _ act ih => exact kept _ _ act ih

theorem acts_deliverMany (sweeping : Prop) (n : Nat) (w : World ν) : Acts sweeping w (deliverMany n w) :=
  deliverMany_keeps (fun _ acts => acts.tail (.deliver _)) n .refl

section Decomposition

variable (sweeping) (origin : World ν)

-- The assertion that all work below starts from and comes back to.
abbrev From : World ν → Prop := Acts sweeping origin

theorem from_reloads : Reloads origin.gate.now (From sweeping origin) where
  clock w reached := reached.frame.now
  arrive w reached := reached.tail (.arrive _)
  deliver w reached := reached.tail (.deliver _)
  reload w rows backend answered reached := by
    rw [← reached.frame.now] at answered
    have merged := reached.tail (Act.reload w answered)
    rw [reached.frame.now] at merged
    exact merged

variable {sweeping}

theorem from_withstands (under : sweeping) :
    Withstands origin.gate.config origin.gate.now (From sweeping origin) where
  toReloads := from_reloads sweeping origin
  config w reached := reached.frame.config
  expire w reached := reached.tail (.expire _ under)
  releaseExpired w released backend answered reached := by
    rw [← reached.frame.now] at answered
    exact reached.tail (.releaseExpired _ under answered)
  prune w reached := by
    have pruned := reached.tail (Act.prune w under)
    rw [reached.frame.now, reached.frame.config] at pruned
    exact pruned
  evict w reached := reached.tail (.limit _ _)
  archive w reached := by
    have archived := reached.tail (Act.archive w under)
    rw [reached.frame.now, reached.frame.config] at archived
    exact archived
  purgeAttempts w cutoff reached := reached.tail (.purgeAttempts _ _ under)
  purgeBans w cutoff reached := reached.tail (.purgeBans _ _ under)
  upkeep w u reached := reached.tail (.upkeep _ _ under)

end Decomposition

end Turnstile.World
