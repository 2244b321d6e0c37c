import Turnstile.Proofs.Gate.Effects
import Turnstile.Proofs.Registry.Floor
import Turnstile.Proofs.Store.Columns
import Turnstile.Proofs.World.History
namespace Turnstile

namespace World

variable {ν : Type} {w u : World ν} {client : String} {reach : Nat} {ended : Option Nat}

def standingOf (w : World ν) (client : String) : Standing := w.gate.bans.standing client

def InMemory (w : World ν) : Prop := ∃ m, w.backend.store = .memory m

theorem InMemory.finish (before : InMemory w) {g : Gate ν} (c : Call) (limit : Option Duration) :
    InMemory { w with gate := g, backend := (w.backend.finish c limit).2 } := by
  obtain ⟨m, tables⟩ := before
  rcases Backend.finish_memory tables c limit with same | changed
  · exact ⟨m, same⟩
  · exact ⟨_, changed⟩

theorem InMemory.deliver (before : InMemory w) : InMemory w.deliver := by
  obtain ⟨m, tables⟩ := before
  have told := deliver_cases w
  generalize w.deliver = after at told
  cases told with
  | idle _ => exact ⟨m, tables⟩
  | applied queued answered =>
    rw [tables, Store.answer_memory] at answered
    exact ⟨_, (Prod.mk.inj answered).2.symm⟩
  | lost queued untouched => exact ⟨m, untouched.trans tables⟩

theorem bans_deliver (w : World ν) : w.deliver.gate.bans = w.gate.bans := by
  rw [gate_deliver]
  rfl

variable [Quantity ν]

theorem Act.inMemory {sweeping : Prop} (act : Act sweeping w u) (before : InMemory w) : InMemory u := by
  cases act with
  | arrive =>
    obtain ⟨m, tables⟩ := before
    exact ⟨m, (Backend.store_arrive w.backend).trans tables⟩
  | deliver => exact before.deliver
  | reload | limit | count | expire | prune | upkeep => exact before
  | @releaseExpired released backend _ answered =>
    have after : backend = (w.backend.finish (.releaseExpired w.gate.now) none).2 := by rw [answered]
    rw [after]
    exact before.finish _ _
  | archive => exact before.finish _ _
  | purgeAttempts => exact before.finish _ _
  | purgeBans => exact before.finish _ _

omit [Quantity ν] in
theorem live_rows {rows : List Ban} {backend : Backend} (before : InMemory w)
    (answered : w.backend.finish (.active w.gate.now) none = (.ok rows, backend)) :
    ∀ row ∈ rows, row.isActive w.gate.now = true := by
  obtain ⟨m, tables⟩ := before
  have fits : w.backend.store.Fits := tables ▸ Store.fits_memory m
  exact fits.live (Backend.finish_ok answered)

theorem Act.tracks {sweeping : Prop} (act : Act sweeping w u) (tables : InMemory w)
    (late : sweeping → w.gate.now - w.gate.config.archiveAfter.millis ≤ w.gate.now - reach)
    (before : (w.standingOf client).Tracks reach w.gate.now ended) :
    (u.standingOf client).Tracks reach u.gate.now ended := by
  cases act with
  | deliver =>
    unfold standingOf
    rw [bans_deliver, (frame_deliver w).now]
    exact before
  | @reload rows backend answered =>
    show ((w.gate.bans.merge w.gate.now rows).2.standing client).Tracks reach w.gate.now ended
    rw [Registry.standing_merge]
    have unmarked : (((w.standingOf client).dropMark w.gate.now).Tracks reach w.gate.now ended) :=
      before.same rfl rfl
    refine unmarked.takes _ fun row member => ?_
    exact live_rows tables answered row (List.mem_filter.1 member).1
  | expire under =>
    show ((w.gate.bans.expire w.gate.now).2.standing client).Tracks reach w.gate.now ended
    rw [Registry.standing_expire]
    exact before.same (Standing.activeBan_activeBan _ _) rfl
  | prune under =>
    show ((w.gate.bans.pruneFloors _).2.standing client).Tracks reach w.gate.now ended
    rw [Registry.standing_pruneFloors]
    exact before.prune (late under)
  | arrive | limit | count | releaseExpired | archive | purgeAttempts | purgeBans | upkeep => exact before

omit [Quantity ν] in
theorem tracks_banned (before : (w.standingOf client).Tracks reach w.gate.now ended) (c reason : String) (d : Duration)
    (failures : Nat) (actor : String) :
    ((w.gate.ban c reason d failures actor).2.bans.standing client).Tracks reach
      (w.gate.ban c reason d failures actor).2.now ended := by
  have banned := w.gate.ban_cases c reason d failures actor
  generalize w.gate.ban c reason d failures actor = result at banned
  cases banned with
  | refused => exact before
  | made => exact Registry.tracks_ban before c reason d failures actor

-- What is kept during a move; the end of the latest ban is still told as of its beginning.
structure Upheld (client : String) (reach : Nat) (ended : Option Nat) (w u : World ν) : Prop where
  frame : SameFrame w u
  tables : InMemory u
  tracks : (u.standingOf client).Tracks reach u.gate.now ended

theorem Upheld.act {sweeping : Prop} {v : World ν} (act : Act sweeping u v)
    (late : sweeping → w.gate.now - w.gate.config.archiveAfter.millis ≤ w.gate.now - reach)
    (before : Upheld client reach ended w u) : Upheld client reach ended w v := by
  obtain ⟨frame, tables, tracks⟩ := before
  refine ⟨frame.trans act.frame, act.inMemory tables, act.tracks tables (fun under => ?_) tracks⟩
  rw [frame.now, frame.config]
  exact late under

theorem Upheld.acts {sweeping : Prop} (acts : Acts sweeping w u)
    (late : sweeping → w.gate.now - w.gate.config.archiveAfter.millis ≤ w.gate.now - reach)
    (before : Upheld client reach ended w w) : Upheld client reach ended w u :=
  acts.keeps (fun _ _ act so => so.act act late) before

theorem Upheld.entered {c e : String} {critical : Bool} {answer : Except GateError Admission}
    (entered : Entered w c e critical (answer, u)) (before : Upheld client reach ended w w) :
    Upheld client reach ended w u := by
  refine entered.keeps (I := Upheld client reach ended w) (fun _ _ act so => so.act act False.elim) ?_ ?_ before
  · exact fun v c reason d failures actor so =>
      ⟨so.frame.trans (frame_ban v c reason d failures actor), so.tables,
        tracks_banned so.tracks c reason d failures actor⟩
  · exact fun v event so => ⟨so.frame.trans ⟨rfl, rfl, rfl, rfl⟩, so.tables, so.tracks⟩

omit [Quantity ν] in
theorem follows_unban (before : (w.standingOf client).Follows reach w.gate.now ended) (c actor : String)
    (note : Option String) :
    ((w.gate.unban c actor note).2.bans.standing client).Follows reach (w.gate.unban c actor note).2.now
      (Standing.endAfter (w.gate.unban c actor note).2.now ended
        ((w.gate.unban c actor note).2.bans.standing client)) := by
  have unbanned := w.gate.unban_cases c actor note
  generalize w.gate.unban c actor note = result at unbanned
  cases unbanned with
  | refused => exact before.tracks.follows
  | idle free =>
    refine Standing.Tracks.follows (s := (w.gate.bans.unban w.gate.now c).2.standing client) ?_
    rw [Registry.standing_unban]
    split
    · rename_i same
      subst same
      replace free : (w.standingOf client).activeBan w.gate.now = none := free
      rw [show (w.gate.bans.standing client).activeBan w.gate.now = none from free]
      exact before.tracks.same free.symm rfl
    · exact before.tracks
  | @ended b active event =>
    show Standing.Follows reach w.gate.now (Standing.endAfter w.gate.now ended
      ((w.gate.bans.unban w.gate.now c).2.standing client)) ((w.gate.bans.unban w.gate.now c).2.standing client)
    rw [Registry.standing_unban]
    split
    · rename_i same
      subst same
      rw [show (w.gate.bans.standing client).activeBan w.gate.now = some b from active]
      have live := (Standing.activeBan_eq_some (s := w.standingOf client).1 active).2.2
      exact Standing.follows_released (before.current b active) (Nat.le_of_lt live) _
    · exact before.tracks.follows

-- The commands that do not ask the store, one by one; most of them leave bans and the clock alone.
theorem follows_update {c : Command} (early : ∀ cutoff, c = .prune cutoff → cutoff ≤ w.gate.now - reach)
    (forward : w.gate.now ≤ (c.update w.gate).now)
    (before : (w.standingOf client).Follows reach w.gate.now ended) :
    ((c.update w.gate).bans.standing client).Follows reach (c.update w.gate).now
      (Standing.endAfter (c.update w.gate).now ended ((c.update w.gate).bans.standing client)) := by
  cases quiet : c.isQuiet with
  | true =>
    obtain ⟨bans, now⟩ := Command.quiet_update quiet w.gate
    rw [bans, now]
    exact before.tracks.follows
  | false =>
    cases c with
    | ban c reason length failures actor =>
      exact (tracks_banned before.tracks c reason length failures actor).follows
    | unban c actor note => exact follows_unban before c actor note
    | release c actor reason => exact follows_unban before c actor (some reason)
    | expire =>
      refine Standing.Tracks.follows (s := (w.gate.bans.expire w.gate.now).2.standing client) ?_
      rw [Registry.standing_expire]
      exact before.tracks.same (Standing.activeBan_activeBan _ _) rfl
    | prune cutoff =>
      refine Standing.Tracks.follows (s := (w.gate.bans.pruneFloors cutoff).2.standing client) ?_
      rw [Registry.standing_pruneFloors]
      exact before.tracks.prune (early cutoff rfl)
    | clock reading => exact (before.tracks.later before.current forward).follows
    | _ => cases quiet

theorem follows_step {m : Move} (own : m.isOwn)
    (early : ∀ cutoff, m.plain? = some (.prune cutoff) → cutoff ≤ w.gate.now - reach)
    (forward : w.gate.now ≤ (w.step m).2.gate.now)
    (late : m.sweeps → w.gate.now - w.gate.config.archiveAfter.millis ≤ w.gate.now - reach)
    (tables : InMemory w) (before : (w.standingOf client).Follows reach w.gate.now ended) :
    InMemory (w.step m).2 ∧ ((w.step m).2.standingOf client).Follows reach (w.step m).2.gate.now
      (Visit.banEnd client ended ⟨w, m⟩) := by
  show _ ∧ Standing.Follows _ _ (Standing.endAfter (w.step m).2.gate.now ended ((w.step m).2.standingOf client)) _
  have told := moved w own
  generalize (w.step m).2 = u at told forward
  have still : Upheld client reach ended w w := ⟨.refl w, tables, before.tracks⟩
  cases told with
  | @plain c same =>
    refine ⟨tables, follows_update ?_ forward before⟩
    rintro cutoff rfl
    exact early cutoff same
  | idle => exact ⟨tables, before.tracks.follows⟩
  | entered other enters entered =>
    have after := still.entered entered
    exact ⟨after.tables, after.tracks.follows⟩
  | acted other enters acts =>
    have after := still.acts acts late
    exact ⟨after.tables, after.tracks.follows⟩
  | flushed other n =>
    have after := still.acts (acts_deliverMany False n w) False.elim
    exact ⟨after.tables, after.tracks.follows⟩
  | weather other kept =>
    obtain ⟨m, there⟩ := tables
    exact ⟨⟨m, kept.trans there⟩, before.tracks.follows⟩

end World

variable {ν : Type} [Quantity ν]

-- A visit at which the clock does not go back, and only floors out of reach are forgotten.
structure Visit.Timely (reach : Nat) (v : Visit ν) : Prop where
  ordinary : v.move.isOrdinary
  forward : v.world.gate.now ≤ v.after.gate.now
  late : v.move.sweeps →
    v.world.gate.now - v.world.gate.config.archiveAfter.millis ≤ v.world.gate.now - reach

theorem World.follows_timely {w : World ν} {m : Move} {reach : Nat} {client : String} {ended : Option Nat}
    (timely : Visit.Timely reach ⟨w, m⟩) (tables : InMemory w)
    (before : (w.standingOf client).Follows reach w.gate.now ended) :
    InMemory (w.step m).2 ∧ ((w.step m).2.standingOf client).Follows reach (w.step m).2.gate.now
      (Visit.banEnd client ended ⟨w, m⟩) := by
  refine follows_step (Move.isOwn_of_isOrdinary timely.ordinary) ?_ timely.forward timely.late tables before
  intro cutoff prunes
  obtain ⟨_, _, command⟩ := Move.plain_asks prunes
  have ordinary := timely.ordinary
  rw [command] at ordinary
  cases ordinary

theorem World.follows_run {w : World ν} {reach : Nat} (bans : w.gate.bans = .empty) (tables : InMemory w)
    (moves : List Move) (timely : ∀ v ∈ w.visits moves, v.Timely reach) (client : String) :
    ((w.run moves).standingOf client).Follows reach (w.run moves).gate.now
      (latestEnd client (w.visits moves)) := by
  have both := run_keeps (I := fun past u => InMemory u ∧
    (u.standingOf client).Follows reach u.gate.now (latestEnd client past)) ⟨tables, ?_⟩ ?_ moves timely
  · exact both.2
  · unfold standingOf
    rw [bans]
    exact ⟨Standing.tracks_empty reach _, nofun⟩
  · intro past u m before timely
    rw [latestEnd_snoc]
    exact follows_timely timely before.1 before.2

end Turnstile
