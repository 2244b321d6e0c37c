import Turnstile.Proofs.World.Buckets
import Turnstile.Proofs.World.Chronicle
import Turnstile.Proofs.World.Deliveries
namespace Turnstile

variable {ν : Type}

def Move.releases? : Move → Option String
  | .command (.unban client ..) _ | .command (.release client ..) _ => some client
  | _ => none

-- A list of bans that names the client.
def Heard.lists (client : String) : Heard → Bool
  | ⟨.active _, .ok rows⟩ => List.any rows (·.address == client)
  | _ => false

variable [Quantity ν]

-- The ban of the client is neither extended nor released nor loaded again, and the clock does not go back.
structure Visit.Abiding (client : String) (v : Visit ν) : Prop where
  stays : v.move.isRestart = false
  forward : v.world.gate.now ≤ v.after.gate.now
  unmade : v.made? client = none
  unreleased : v.move.releases? = some client → v.world.gate.activeBan client = none
  unloaded : ∀ h ∈ v.heard, h.lists client = false

instance (client : String) (v : Visit ν) : Decidable (v.Abiding client) :=
  decidable_of_iff (v.move.isRestart = false ∧ v.world.gate.now ≤ v.after.gate.now ∧ v.made? client = none ∧
      (v.move.releases? = some client → v.world.gate.activeBan client = none) ∧ ∀ h ∈ v.heard, h.lists client = false)
    ⟨fun ⟨stays, forward, unmade, unreleased, unloaded⟩ => ⟨stays, forward, unmade, unreleased, unloaded⟩,
      fun ⟨stays, forward, unmade, unreleased, unloaded⟩ => ⟨stays, forward, unmade, unreleased, unloaded⟩⟩

namespace World

variable {w u : World ν} {client : String} {xs : List Exchange}

omit [Quantity ν] in
theorem activeBan_merge (g : Gate ν) {rows : List Ban} (others : rows.any (·.address == client) = false) :
    (g.merge g.now rows).2.activeBan client = g.activeBan client := by
  have none : rows.filter (·.address == client) = [] :=
    List.filter_eq_nil_iff.2 fun row member => by simpa using List.any_eq_false.1 others row member
  show ((g.bans.merge g.now rows).2.standing client).activeBan g.now = _
  rw [Registry.standing_merge, none]
  rfl

theorem Deed.activeBan (deed : Deed w xs u) (unloaded : ∀ x ∈ xs, x.toHeard.lists client = false) :
    u.gate.activeBan client = w.gate.activeBan client := by
  cases deed with
  | deliver =>
    rw [gate_deliver w]
    rfl
  | expire => exact w.gate.bans.activeBan_expire w.gate.now client
  | prune cutoff => exact w.gate.bans.activeBan_pruneFloors cutoff w.gate.now client
  | reload answered => exact activeBan_merge w.gate (unloaded _ List.mem_cons_self)
  | _ => rfl

theorem Deeds.activeBan (deeds : Deeds w xs u) (unloaded : ∀ x ∈ xs, x.toHeard.lists client = false) :
    u.gate.activeBan client = w.gate.activeBan client := by
  induction deeds with
  | nil => rfl
  | cons deed _ ih =>
    have first := deed.activeBan fun x member => unloaded x (List.mem_append_left _ member)
    exact (ih fun x member => unloaded x (List.mem_append_right _ member)).trans first

-- What a request does to its client can be seen, and it does nothing to any other one.
theorem Entered.activeBan {asking endpoint : String} {critical : Bool} {answer : Except GateError Admission}
    (entered : Entered w asking endpoint critical (answer, u))
    (unmade : w.gate.activeBan client = none → u.gate.activeBan client = none) :
    u.gate.activeBan client = w.gate.activeBan client ∧ u.gate.now = w.gate.now := by
  obtain ⟨v, acts, bans, done⟩ := entered.split
  have now := acts.frame.now
  have known : v.gate.activeBan client = w.gate.activeBan client := by
    unfold Gate.activeBan
    rw [bans, now]
  rcases done with same | ⟨reason, d, failures, made, g', event, free, ban, same⟩
  · rw [same]
    exact ⟨known, now⟩
  · obtain ⟨blocks, later⟩ := ban_blocks ban
    rw [same] at unmade ⊢
    refine ⟨?_, later.trans now⟩
    by_cases own : client = asking
    · subst own
      have gone := unmade (known ▸ free)
      cases gone.symm.trans blocks
    · have others := ban_other own v.gate reason d failures systemActor
      rw [ban] at others
      exact others.trans known

end World

namespace Visit

open World

variable {v : Visit ν} {client : String}

theorem Abiding.exchanged {w : World ν} {c : Command} {meanwhile : List Nat} (abiding : Abiding client ⟨w, .command c meanwhile⟩) :
    ∀ x ∈ World.exchanges meanwhile c.routine w, x.toHeard.lists client = false := by
  intro x member
  refine abiding.unloaded x.toHeard ?_
  change x.toHeard ∈ World.heard meanwhile c.routine w
  rw [← heard_exchanges]
  exact List.mem_map_of_mem member

theorem activeBan_kept (v : Visit ν) (client : String) (now : v.after.gate.now = v.world.gate.now)
    (same : v.after.gate.activeBan client = v.world.gate.activeBan client) :
    v.after.gate.activeBan client = (v.world.gate.activeBan client).filter (v.after.gate.now < ·.bannedUntil) := by
  rw [same, now]
  exact (v.world.gate.bans.standing client).activeBan_later (Nat.le_refl _)

theorem Abiding.unban {w : World ν} {m : Move} (abiding : Abiding client ⟨w, m⟩) {address : String}
    (told : m.releases? = some address) (actor : String) (note : Option String) :
    (w.gate.unban address actor note).2.now = w.gate.now ∧
      (w.gate.unban address actor note).2.activeBan client = w.gate.activeBan client := by
  rcases unban_told w.gate address actor note with ⟨_, _, now, still⟩ | ⟨before, active, now, still, _⟩
  · exact ⟨now, still client⟩
  · refine ⟨now, ?_⟩
    rw [still]
    refine Function.update_of_ne (fun own => ?_) ..
    subst own
    cases (abiding.unreleased told).symm.trans active

theorem Abiding.ban {w : World ν} {address reason actor : String} {d : Duration} {failures : Nat} {meanwhile : List Nat}
    (abiding : Abiding client ⟨w, .command (.ban address reason d failures actor) meanwhile⟩) :
    (w.gate.ban address reason d failures actor).2.now = w.gate.now ∧
      (w.gate.ban address reason d failures actor).2.activeBan client = w.gate.activeBan client := by
  have told := w.gate.ban_cases address reason d failures actor
  have unmade := abiding.unmade
  unfold Visit.made? at unmade
  change (if _ then (w.gate.ban address reason d failures actor).2.activeBan client else none) = none at unmade
  cases ban : w.gate.ban address reason d failures actor with
  | mk answer g =>
    rw [ban] at told unmade
    cases told with
    | refused => exact ⟨rfl, rfl⟩
    | made sound event =>
      refine ⟨rfl, ?_⟩
      obtain ⟨blocks, _⟩ := ban_blocks ban
      by_cases own : client = address
      · subst own
        rw [if_pos (.inl (if_pos sound))] at unmade
        cases unmade.symm.trans blocks
      · have others := ban_other own w.gate reason d failures actor
        rw [ban] at others
        exact others

theorem Abiding.update {w : World ν} {c : Command} {meanwhile : List Nat} (abiding : Abiding client ⟨w, .command c meanwhile⟩)
    (plain : c.asks = false) :
    (c.update w.gate).activeBan client = (w.gate.activeBan client).filter ((c.update w.gate).now < ·.bannedUntil) := by
  have after : Visit.after ⟨w, .command c meanwhile⟩ = { w with gate := c.update w.gate } := Command.step_plain plain meanwhile w
  have kept := activeBan_kept ⟨w, .command c meanwhile⟩ client
  rw [after] at kept
  cases quiet : c.isQuiet with
  | true =>
    obtain ⟨bans, now⟩ := Command.quiet_update quiet w.gate
    refine kept now ?_
    change (c.update w.gate).activeBan client = w.gate.activeBan client
    unfold Gate.activeBan
    rw [bans, now]
  | false =>
    cases c with
    | ban => exact kept abiding.ban.1 abiding.ban.2
    | unban address actor note =>
      obtain ⟨now, same⟩ := abiding.unban rfl actor note
      exact kept now same
    | release address actor reason =>
      obtain ⟨now, same⟩ := abiding.unban rfl actor (some reason)
      exact kept now same
    | expire => exact kept rfl (w.gate.bans.activeBan_expire w.gate.now client)
    | prune cutoff => exact kept rfl (w.gate.bans.activeBan_pruneFloors cutoff w.gate.now client)
    | clock reading =>
      have forward := abiding.forward
      rw [after] at forward
      exact (w.gate.bans.standing client).activeBan_later forward
    | _ => cases quiet

-- Of the ban that is left alone only time ends anything.
theorem Abiding.activeBan (abiding : v.Abiding client) :
    v.after.gate.activeBan client = (v.world.gate.activeBan client).filter (v.after.gate.now < ·.bannedUntil) := by
  have kept := activeBan_kept v client
  have made := abiding.unmade
  unfold Visit.made? at made
  obtain ⟨w, m⟩ := v
  have delivered (n : Nat) : (deliverMany n w).gate.activeBan client = w.gate.activeBan client ∧
      (deliverMany n w).gate.now = w.gate.now := by
    rw [gate_deliverMany]
    exact ⟨rfl, rfl⟩
  have course : Course w m (Visit.after ⟨w, m⟩) := World.course abiding.stays w
  generalize Visit.after ⟨w, m⟩ = u at course kept made ⊢
  cases course with
  | plain meanwhile plain => exact abiding.update plain
  | entered asks entered =>
    have unmade (free : w.gate.activeBan client = none) : u.gate.activeBan client = none := by
      rw [if_pos (.inr ⟨Move.enters_of_entry asks, free⟩)] at made
      exact made
    obtain ⟨same, now⟩ := entered.activeBan unmade
    exact kept now same
  | deeds meanwhile deeds => exact kept deeds.now (deeds.activeBan abiding.exchanged)
  | deliver => exact kept (delivered 1).2 (delivered 1).1
  | flush => exact kept (delivered _).2 (delivered _).1
  | idle | handOver | call | faults | reach | slow => exact kept rfl rfl

end Visit

-- Whatever happens around a ban that is left alone, it blocks up to its deadline and not beyond.
theorem World.activeBan_run {w : World ν} {client : String} (moves : List Move) (abiding : ∀ v ∈ w.visits moves, v.Abiding client) :
    w.gate.now ≤ (w.run moves).gate.now ∧
      (w.run moves).gate.activeBan client = (w.gate.activeBan client).filter ((w.run moves).gate.now < ·.bannedUntil) := by
  refine run_keeps (I := fun _ u => w.gate.now ≤ u.gate.now ∧
    u.gate.activeBan client = (w.gate.activeBan client).filter (u.gate.now < ·.bannedUntil)) ⟨Nat.le_refl _, ?_⟩ ?_ moves abiding
  · exact (w.gate.bans.standing client).activeBan_later (Nat.le_refl _)
  · rintro past u m ⟨passed, left⟩ next
    have forward := next.forward
    have step := next.activeBan
    change u.gate.now ≤ (u.step m).2.gate.now at forward
    change (u.step m).2.gate.activeBan client = (u.gate.activeBan client).filter ((u.step m).2.gate.now < ·.bannedUntil) at step
    refine ⟨Nat.le_trans passed forward, ?_⟩
    rw [step, left, Option.filter_filter]
    refine congrArg (Option.filter · (w.gate.activeBan client)) (funext fun b => ?_)
    rw [Bool.eq_iff_iff, Bool.and_eq_true, decide_eq_true_eq, decide_eq_true_eq]
    omega

end Turnstile
