import Turnstile.Proofs.Gate.Effects
import Turnstile.Proofs.Registry.Coherent
import Turnstile.Proofs.Store.Columns
import Turnstile.Proofs.World.History
namespace Turnstile

namespace Move

def prunes? : Move → Option Nat
  | .command (.prune before) _ => some before
  | _ => none

end Move

-- A visit at which the clock does not go back, and no floor is forgotten that lies ahead.
structure Visit.Prudent {ν : Type} [Quantity ν] (v : Visit ν) : Prop where
  forward : v.world.gate.now ≤ v.after.gate.now
  prunes : ∀ before ∈ v.move.prunes?, before ≤ v.world.gate.now

instance {ν : Type} [Quantity ν] (v : Visit ν) : Decidable v.Prudent :=
  decidable_of_iff (v.world.gate.now ≤ v.after.gate.now ∧ ∀ before ∈ v.move.prunes?, before ≤ v.world.gate.now)
    ⟨fun ⟨forward, prunes⟩ => ⟨forward, prunes⟩, fun ⟨forward, prunes⟩ => ⟨forward, prunes⟩⟩

namespace World

variable {ν : Type} {w u : World ν}

structure Coherent (w : World ν) : Prop where
  bans : w.gate.bans.Coherent w.gate.now
  fits : w.backend.store.Fits

theorem Coherent.deliver (before : w.Coherent) : w.deliver.Coherent := by
  have told := deliver_cases w
  generalize w.deliver = after at told
  cases told with
  | idle => exact before
  | @applied first rest a backend queued answered =>
    have kept := before.fits.answer first.call
    rw [answered] at kept
    exact ⟨before.bans, kept⟩
  | lost queued untouched =>
    refine ⟨before.bans, ?_⟩
    rw [untouched]
    exact before.fits

theorem Coherent.deliverMany (before : w.Coherent) (n : Nat) : (deliverMany n w).Coherent :=
  deliverMany_keeps (fun _ so => so.deliver) n before

theorem Coherent.flush (before : w.Coherent) : w.flush.Coherent :=
  ⟨(before.deliverMany _).bans, (before.deliverMany _).fits⟩

theorem Coherent.banned (before : w.Coherent) (c reason : String) (d : Duration) (failures : Nat) (actor : String) :
    Coherent { w with gate := (w.gate.ban c reason d failures actor).2 } := by
  have banned := w.gate.ban_cases c reason d failures actor
  generalize w.gate.ban c reason d failures actor = result at banned
  cases banned with
  | refused => exact before
  | made => exact ⟨before.bans.ban c reason d failures actor, before.fits⟩

theorem Coherent.unbanned (before : w.Coherent) (c actor : String) (note : Option String) :
    Coherent { w with gate := (w.gate.unban c actor note).2 } := by
  have unbanned := w.gate.unban_cases c actor note
  generalize w.gate.unban c actor note = result at unbanned
  cases unbanned with
  | refused => exact before
  | idle => exact ⟨before.bans.unban c, before.fits⟩
  | ended => exact ⟨before.bans.unban c, before.fits⟩

variable [Quantity ν]

theorem Act.coherent {sweeping : Prop} (act : Act sweeping w u) (before : w.Coherent) : u.Coherent := by
  cases act with
  | arrive => exact ⟨before.bans, Backend.store_arrive w.backend ▸ before.fits⟩
  | deliver => exact before.deliver
  | reload answered => exact ⟨before.bans.merge (before.fits.live (Backend.finish_ok answered)), before.fits⟩
  | expire => exact ⟨before.bans.expire, before.fits⟩
  | @releaseExpired released backend _ answered =>
    have kept := Backend.finish_fits before.fits (.releaseExpired w.gate.now) none
    rw [answered] at kept
    exact ⟨before.bans, kept⟩
  | prune => exact ⟨before.bans.pruneFloors (Nat.sub_le ..), before.fits⟩
  | limit | count | upkeep => exact ⟨before.bans, before.fits⟩
  | archive | purgeAttempts | purgeBans => exact ⟨before.bans, Backend.finish_fits before.fits _ _⟩

theorem Coherent.entered {c e : String} {critical : Bool} {answer : Except GateError Admission}
    (entered : Entered w c e critical (answer, u)) (before : w.Coherent) : u.Coherent :=
  entered.keeps (fun _ _ act => act.coherent) (fun _ c reason d failures actor so => so.banned c reason d failures actor)
    (fun _ _ so => ⟨so.bans, so.fits⟩) before

theorem Coherent.update {c : Command} (before : w.Coherent) (forward : w.gate.now ≤ (c.update w.gate).now)
    (early : ∀ cutoff, c = .prune cutoff → cutoff ≤ w.gate.now) : Coherent { w with gate := c.update w.gate } := by
  cases quiet : c.isQuiet with
  | true =>
    obtain ⟨bans, now⟩ := Command.quiet_update quiet w.gate
    refine ⟨?_, before.fits⟩
    show (c.update w.gate).bans.Coherent (c.update w.gate).now
    rw [bans, now]
    exact before.bans
  | false =>
    cases c with
    | ban c reason length failures actor => exact before.banned c reason length failures actor
    | unban c actor note => exact before.unbanned c actor note
    | release c actor reason => exact before.unbanned c actor (some reason)
    | expire => exact ⟨before.bans.expire, before.fits⟩
    | prune cutoff => exact ⟨before.bans.pruneFloors (early cutoff rfl), before.fits⟩
    | clock reading => exact ⟨before.bans.later forward, before.fits⟩
    | _ => cases quiet

theorem Coherent.restart (before : w.Coherent) (b : Blueprint) : (w.flush.rebuild b).Coherent := by
  rcases rebuild_cases b w.flush with same | fresh
  · rw [same]
    exact before.flush
  · refine ⟨?_, by rw [fresh.backend]; exact before.flush.fits⟩
    rw [fresh.bans]
    exact Registry.coherent_empty _

theorem Coherent.step {m : Move} (before : w.Coherent) (prudent : Visit.Prudent ⟨w, m⟩) : (w.step m).2.Coherent := by
  cases own : m.isOwn with
  | false =>
    cases m with
    | call c => exact ⟨before.bans, Backend.call_fits before.fits c none⟩
    | restart b => exact before.restart b
    | _ => cases own
  | true =>
    have forward : w.gate.now ≤ (w.step m).2.gate.now := prudent.forward
    have told := moved w own
    generalize (w.step m).2 = u at told forward
    cases told with
    | @plain c same =>
      refine before.update forward ?_
      rintro cutoff rfl
      obtain ⟨_, _, command⟩ := Move.plain_asks same
      have early := prudent.prunes
      rw [command] at early
      exact early cutoff rfl
    | idle => exact before
    | entered other enters entered => exact before.entered entered
    | acted other enters acts => exact acts.keeps (fun _ _ act => act.coherent) before
    | flushed other n => exact ⟨(before.deliverMany n).bans, (before.deliverMany n).fits⟩
    | weather other kept => exact ⟨before.bans, kept ▸ before.fits⟩

theorem Coherent.run (before : w.Coherent) (moves : List Move) (prudent : ∀ v ∈ w.visits moves, v.Prudent) :
    (w.run moves).Coherent :=
  run_keeps (I := fun _ u => u.Coherent) before (fun _ _ _ so => so.step) moves prudent

-- Bans stay filed under their own addresses, however the clock goes and whatever is forgotten.
theorem Act.addressed {sweeping : Prop} (act : Act sweeping w u) (before : w.gate.bans.Addressed) : u.gate.bans.Addressed := by
  cases act with
  | deliver =>
    rw [gate_deliver]
    exact before
  | reload => exact before.merge _ _
  | expire => exact before.expire _
  | prune => exact before.pruneFloors _
  | _ => exact before

omit [Quantity ν] in
theorem addressed_ban {g : Gate ν} (before : g.bans.Addressed) (c reason : String) (d : Duration) (failures : Nat) (actor : String) :
    (g.ban c reason d failures actor).2.bans.Addressed := by
  have banned := g.ban_cases c reason d failures actor
  generalize g.ban c reason d failures actor = result at banned
  cases banned with
  | refused => exact before
  | made => exact before.ban _ c reason d failures actor

omit [Quantity ν] in
theorem addressed_unban {g : Gate ν} (before : g.bans.Addressed) (c actor : String) (note : Option String) :
    (g.unban c actor note).2.bans.Addressed := by
  have unbanned := g.unban_cases c actor note
  generalize g.unban c actor note = result at unbanned
  cases unbanned with
  | refused => exact before
  | idle | ended => exact before.unban _ c

theorem addressed_update (c : Command) {g : Gate ν} (before : g.bans.Addressed) : (c.update g).bans.Addressed := by
  cases quiet : c.isQuiet with
  | true =>
    rw [(Command.quiet_update quiet g).1]
    exact before
  | false =>
    cases c with
    | ban c reason length failures actor => exact addressed_ban before c reason length failures actor
    | unban c actor note => exact addressed_unban before c actor note
    | release c actor reason => exact addressed_unban before c actor (some reason)
    | expire => exact before.expire _
    | prune cutoff => exact before.pruneFloors _
    | clock reading => exact before
    | _ => cases quiet

theorem addressed_step (before : w.gate.bans.Addressed) (m : Move) : (w.step m).2.gate.bans.Addressed := by
  cases own : m.isOwn with
  | false =>
    cases m with
    | call c => exact before
    | restart b =>
      show (w.flush.rebuild b).gate.bans.Addressed
      rcases rebuild_cases b w.flush with same | fresh
      · rw [same]
        show (World.deliverMany w.pending.length w).gate.bans.Addressed
        rw [gate_deliverMany]
        exact before
      · rw [fresh.bans]
        exact Registry.addressed_empty
    | _ => cases own
  | true =>
    have told := moved w own
    generalize (w.step m).2 = u at told
    cases told with
    | plain => exact addressed_update _ before
    | idle => exact before
    | entered _ _ entered =>
      exact entered.keeps (I := fun u => u.gate.bans.Addressed) (fun _ _ act => act.addressed)
        (fun _ c reason d failures actor so => addressed_ban so c reason d failures actor) (fun _ _ so => so) before
    | acted _ _ acts => exact acts.keeps (I := fun u => u.gate.bans.Addressed) (fun _ _ act => act.addressed) before
    | flushed _ n =>
      show (World.deliverMany n w).gate.bans.Addressed
      rw [gate_deliverMany]
      exact before
    | weather => exact before

-- Whom a gate takes for banned, and until when, in every state that it can reach.
theorem bans_coherent {b : Blueprint} {start : Nat} {backend : Backend} {sink : Sink}
    (made : World.build b start backend sink = .ok w) (fits : backend.store.Fits) (moves : List Move)
    (prudent : ∀ v ∈ w.visits moves, v.Prudent) :
    (∀ address b, (w.run moves).gate.bans.active.get? address = some b → b.address = address ∧ b.releasedAt = none) ∧
      (∀ client b, (w.run moves).gate.activeBan client = some b →
        (w.run moves).gate.bans.floor client = some b.bannedUntil) ∧
      (∀ client, (w.run moves).gate.activeBan client = none →
        ∀ floor, (w.run moves).gate.bans.floor client = some floor → floor ≤ (w.run moves).gate.now) ∧
      (∀ client, ((w.run moves).gate.activeBan client).isSome ↔
        ∃ b ∈ (w.run moves).gate.bannedClients, b.address = client) ∧
      (w.run moves).gate.bannedClients.Pairwise (·.address < ·.address) ∧
      ∀ b ∈ (w.run moves).gate.bannedClients, (w.run moves).gate.activeBan b.address = some b ∧
        b.timeLeft (w.run moves).gate.now = .ofMillis (b.bannedUntil - (w.run moves).gate.now) := by
  have fresh := World.built made
  have first : w.Coherent := by
    refine ⟨?_, by rw [fresh.backend]; exact fits⟩
    rw [fresh.bans]
    exact Registry.coherent_empty _
  obtain ⟨addressed, each⟩ := (first.run moves prudent).bans
  refine ⟨fun address b found => ⟨addressed address b found, (each address).unreleased b found⟩,
    fun client b active => (each client).active b active, fun client free => (each client).past free,
    Registry.banned_iff_listed addressed, Registry.list_ascending addressed _, fun b listed => ?_⟩
  have active := (Registry.mem_list addressed).1 listed
  have unreleased := (Standing.activeBan_eq_some (s := (w.run moves).gate.bans.standing b.address).1 active).2.1
  refine ⟨active, ?_⟩
  unfold Ban.timeLeft Ban.isUnreleased
  rw [unreleased]
  rfl

-- One ban is written by somebody else and reloaded, a second one runs out and a third one is released; then the store fails.
def sharedStore : List Move :=
  [.call (.upsert (Registry.fresh "b" 0 100000 "abuse" 3 "operator")), .command (.ban "c" "manual" (.ofSecs 100) 0 "admin") [],
    .command (.ban "a" "manual" (.ofSecs 1) 0 "admin") [], .command .restore [], .command (.clock 1000) [],
    .command (.unban "c" "admin" none) [], .faults [some (.backend "disk full")], .command (.maintain true) []]

theorem shared_store_coherent :
    (strict.run sharedStore).gate.bannedClients = [Registry.fresh "b" 0 100000 "abuse" 3 "operator"] ∧
      (strict.run sharedStore).gate.bans.floor "b" = some 100000 ∧
      (∀ floor, (strict.run sharedStore).gate.bans.floor "a" = some floor → floor ≤ 1000) ∧
      ∀ floor, (strict.run sharedStore).gate.bans.floor "c" = some floor → floor ≤ 1000 := by
  have listed : (strict.run sharedStore).gate.bannedClients = [Registry.fresh "b" 0 100000 "abuse" 3 "operator"] := by
    decide +kernel
  have now : (strict.run sharedStore).gate.now = 1000 := by decide +kernel
  have ran_out : (strict.run sharedStore).gate.activeBan "a" = none := by decide +kernel
  have released : (strict.run sharedStore).gate.activeBan "c" = none := by decide +kernel
  have told := bans_coherent build_strict (Store.fits_memory .empty) sharedStore (by decide +kernel)
  generalize strict.run sharedStore = u at listed now ran_out released told
  obtain ⟨_, active, past, _, _, named⟩ := told
  rw [now] at past
  exact ⟨listed, active "b" _ (named _ (by rw [listed]; exact List.mem_cons_self)).1, past "a" ran_out, past "c" released⟩

end World

end Turnstile
