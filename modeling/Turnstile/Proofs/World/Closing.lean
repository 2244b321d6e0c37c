import Turnstile.Proofs.Store.Closed
import Turnstile.Proofs.World.Chronicle
import Turnstile.Proofs.World.Deeds
namespace Turnstile

variable {ν : Type}

namespace Exchange

def ended (x : Exchange) : List Ban :=
  match x.call with
  | .releaseExpired _ => changed x.before.bans x.after.bans
  | _ => []

def purges (b : Ban) (x : Exchange) : Bool :=
  match x.answer with
  | .ok _ => x.call.purges b
  | .error _ => false

theorem ended_plain {x : Exchange} (plain : ∀ reading, x.call ≠ .releaseExpired reading) : x.ended = [] := by
  unfold ended
  split
  · rename_i reading same
    exact absurd same (plain reading)
  · rfl

end Exchange

namespace Trail

-- An event of another kind is nothing to those of one kind, whether there is room for it or not.
theorem filter_emit (t : Trail) {e : Event} {kind : String} (other : e.action ≠ kind) :
    (t.emit e).pending.filter (·.action == kind) = t.pending.filter (·.action == kind) := by
  unfold emit
  split
  · rw [List.filter_append, List.filter_singleton, beq_eq_false_iff_ne.2 other]
    exact List.append_nil _
  · rfl

end Trail

namespace World

def releases (w : World ν) : List Event := w.audited.filter (·.action == Event.autoReleasedAction)

-- What work does about releases, with what it exchanges for it: as long as no event is dropped, just the rows that the store has released
-- are reported, as they are then, and rows that were released stay.
structure Closes (w : World ν) (xs : List Exchange) (u : World ν) : Prop where
  tables : InMemory u
  retained : Retained (fun b => xs.any (·.purges b)) w.backend.store.bans u.backend.store.bans
  ended : ∀ b ∈ xs.flatMap Exchange.ended, b.Ended w.gate.now ∧
    (xs.any (·.purges b) = false → b ∈ u.backend.store.bans)
  recording : w.sink.Recording → u.sink.Recording
  heard : w.gate.trail.dropped ≤ u.gate.trail.dropped
  told : w.sink.Recording → u.gate.trail.dropped = w.gate.trail.dropped →
    u.releases = w.releases ++ (xs.flatMap Exchange.ended).map (Event.autoReleased · w.gate.now)

namespace Closes

variable {w v u : World ν} {xs ys : List Exchange}

theorem trans (first : Closes w xs v) (rest : Closes v ys u) (now : v.gate.now = w.gate.now) : Closes w (xs ++ ys) u where
  tables := rest.tables
  retained := (first.retained.trans rest.retained).weaken fun b gone => by rw [List.any_append]; exact gone
  ended := by
    intro b member
    rw [List.any_append, Bool.or_eq_false_iff]
    rw [List.flatMap_append] at member
    rcases List.mem_append.1 member with here | there
    · obtain ⟨ended, stored⟩ := first.ended b here
      refine ⟨ended, fun spared => ?_⟩
      exact rest.retained.mem (stored spared.1) ended.closed spared.2
    · obtain ⟨ended, stored⟩ := rest.ended b there
      exact ⟨now ▸ ended, fun spared => stored spared.2⟩
  recording := fun before => rest.recording (first.recording before)
  heard := Nat.le_trans first.heard rest.heard
  told := by
    intro recording heard
    have sooner := first.heard
    have later := rest.heard
    rw [rest.told (first.recording recording) (by omega), first.told recording (by omega), now, List.flatMap_append, List.map_append,
      List.append_assoc]

-- Nothing is exchanged with the store, and no release is reported.
theorem quiet (tables : InMemory w) (store : u.backend.store = w.backend.store) (sink : u.sink = w.sink)
    (heard : w.gate.trail.dropped ≤ u.gate.trail.dropped)
    (silent : u.gate.trail.pending.filter (·.action == Event.autoReleasedAction) =
      w.gate.trail.pending.filter (·.action == Event.autoReleasedAction)) : Closes w [] u where
  tables := by
    obtain ⟨m, same⟩ := tables
    exact ⟨m, store.trans same⟩
  retained := .of_eq (congrArg Store.bans store)
  ended := nofun
  recording := fun before => sink ▸ before
  heard := heard
  told := by
    intro _ _
    unfold releases audited
    rw [List.filter_append, List.filter_append, sink, silent]
    exact (List.append_nil _).symm

theorem still (tables : InMemory w) (store : u.backend.store = w.backend.store) (sink : u.sink = w.sink)
    (trail : u.gate.trail = w.gate.trail) : Closes w [] u :=
  quiet tables store sink (Nat.le_of_eq (congrArg Trail.dropped trail.symm)) (by rw [trail])

theorem idle (closes : Closes w [] u) (ended : ∀ x ∈ xs, x.ended = []) : Closes w xs u := by
  have none : xs.flatMap Exchange.ended = [] := List.flatMap_eq_nil_iff.2 ended
  refine ⟨closes.tables, closes.retained.weaken fun b gone => absurd gone Bool.false_ne_true, ?_, closes.recording, closes.heard, ?_⟩
  · rw [none]
    exact nofun
  · rw [none]
    exact closes.told

end Closes

variable {w v u : World ν} {xs : List Exchange}

theorem closes_deliver (tables : InMemory w) : Closes w [] w.deliver := by
  have sink : w.deliver.sink = w.sink := by rw [deliver_eq]
  have trail : w.deliver.gate.trail = w.gate.trail := by
    rw [gate_deliver]
    rfl
  obtain ⟨m, same⟩ := tables
  have told := deliver_cases w
  generalize w.deliver = after at told sink trail
  cases told with
  | idle => exact .still ⟨m, same⟩ rfl rfl rfl
  | lost queued untouched => exact .still ⟨m, same⟩ untouched sink trail
  | @applied first rest a backend queued answered =>
    rw [same, Store.answer_memory] at answered
    have stored : backend.store = .memory (m.answer first.call).2 := (Prod.mk.inj answered).2.symm
    have spared : ∀ b, first.call.purges b = true → false = true := by cases first <;> exact fun _ => id
    refine ⟨⟨_, stored⟩, ?_, nofun, id, Nat.le_refl _, fun _ _ => (List.append_nil _).symm⟩
    show Retained _ w.backend.store.bans backend.store.bans
    rw [same, stored]
    exact (Memory.retained_answer first.call m).weaken spared

theorem closes_answered {c : Call} {a : c.Answer} {backend : Backend} {g : Gate ν} (tables : InMemory w)
    (answered : w.backend.store.answer c = (.ok a, backend.store)) (plain : ∀ reading, c ≠ .releaseExpired reading)
    (trail : g.trail = w.gate.trail) :
    Closes w [⟨⟨c, .ok a⟩, w.backend.store, backend.store⟩] { w with backend, gate := g } := by
  obtain ⟨m, same⟩ := tables
  have kept := Memory.retained_answer c m
  have none : Exchange.ended ⟨⟨c, .ok a⟩, w.backend.store, backend.store⟩ = [] := Exchange.ended_plain plain
  have told := answered
  rw [same, Store.answer_memory] at told
  have stored : backend.store = .memory (m.answer c).2 := (Prod.mk.inj told).2.symm
  refine ⟨⟨_, stored⟩, ?_, ?_, id, Nat.le_of_eq (congrArg Trail.dropped trail.symm), fun _ _ => ?_⟩
  · rw [same, stored]
    exact kept.weaken fun b gone => List.any_eq_true.2 ⟨_, List.mem_cons_self, gone⟩
  · rw [List.flatMap_singleton, none]
    exact nofun
  · rw [List.flatMap_singleton, none]
    unfold releases audited
    rw [trail]
    exact (List.append_nil _).symm

-- The rows that the store was asked to release are those that it has changed.
theorem closes_released {released : List Ban} {backend : Backend} (tables : InMemory w)
    (answered : w.backend.store.answer (.releaseExpired w.gate.now) = (.ok released, backend.store)) :
    Closes w [⟨⟨.releaseExpired w.gate.now, .ok released⟩, w.backend.store, backend.store⟩]
      { w with backend, gate := w.gate.reportReleased released } := by
  obtain ⟨m, same⟩ := tables
  have kept := Memory.retained_answer (.releaseExpired w.gate.now) m
  have told := answered
  rw [same, Store.answer_memory] at told
  have stored : backend.store = .memory (m.answer (.releaseExpired w.gate.now)).2 := (Prod.mk.inj told).2.symm
  have rows : released = (m.bans.filter (·.isOverdue w.gate.now)).map (Memory.expire w.gate.now) :=
    (Except.ok.inj (Prod.mk.inj told).1).symm
  have ended : Exchange.ended ⟨⟨.releaseExpired w.gate.now, .ok released⟩, w.backend.store, backend.store⟩ = released := by
    rw [same, stored, rows]
    exact Memory.changed_expire w.gate.now m.bans
  refine ⟨⟨_, stored⟩, ?_, ?_, id, Trail.dropped_emitAll .., fun _ heard => ?_⟩
  · rw [same, stored]
    exact kept.weaken fun _ => nofun
  · rw [List.flatMap_singleton, ended]
    intro b member
    rw [rows] at member
    obtain ⟨old, there, rfl⟩ := List.mem_map.1 member
    obtain ⟨before, overdue⟩ := List.mem_filter.1 there
    refine ⟨(Memory.expire_of_overdue overdue).1, fun _ => ?_⟩
    show _ ∈ backend.store.bans
    rw [stored]
    exact List.mem_map_of_mem before
  · rw [List.flatMap_singleton, ended]
    have queued : (w.gate.reportReleased released).trail.pending =
        w.gate.trail.pending ++ released.map (Event.autoReleased · w.gate.now) := Trail.emitAll_kept heard
    have own : (released.map (Event.autoReleased · w.gate.now)).filter (·.action == Event.autoReleasedAction) =
        released.map (Event.autoReleased · w.gate.now) :=
      List.filter_eq_self.2 fun e member => by
        obtain ⟨b, _, rfl⟩ := List.mem_map.1 member
        rfl
    unfold releases audited
    rw [queued, ← List.append_assoc, List.filter_append, own]

theorem closes_failed (tables : InMemory w) (c : Call) (e : StoreError) :
    Closes w [⟨⟨c, .error e⟩, w.backend.store, w.backend.store⟩] w := by
  refine (Closes.still tables rfl rfl rfl).idle fun x member => ?_
  cases List.mem_singleton.1 member
  unfold Exchange.ended
  split
  · exact changed_self _
  · rfl

theorem closes_ban (tables : InMemory w) (client reason : String) (d : Duration) (failures : Nat) (actor : String) :
    Closes w [] { w with gate := (w.gate.ban client reason d failures actor).2 } := by
  refine .quiet tables rfl rfl (unheard_ban w.gate client reason d failures actor) ?_
  unfold Gate.ban
  cases Gate.banFault? client reason d with
  | some fault => rfl
  | none => exact Trail.filter_emit _ (by decide : Event.bannedAction ≠ Event.autoReleasedAction)

theorem closes_unban (tables : InMemory w) (client actor : String) (note : Option String) :
    Closes w [] { w with gate := (w.gate.unban client actor note).2 } := by
  refine .quiet tables rfl rfl (unheard_unban w.gate client actor note) ?_
  rcases unban_told w.gate client actor note with ⟨_, trail, _⟩ | ⟨before, _, _, _, _, trail⟩
  · exact congrArg (fun t : Trail => t.pending.filter (·.action == Event.autoReleasedAction)) trail
  · exact (congrArg (fun t : Trail => t.pending.filter (·.action == Event.autoReleasedAction)) trail).trans
      (Trail.filter_emit _ (by decide : Event.unbannedAction ≠ Event.autoReleasedAction))

variable [Quantity ν]

theorem Deed.closes (deed : Deed w xs u) (tables : InMemory w) : Closes w xs u := by
  cases deed with
  | arrive => exact .still tables (Backend.store_arrive w.backend) rfl rfl
  | deliver => exact closes_deliver tables
  | expire | prune | evict | upkeep => exact .still tables rfl rfl rfl
  | fail c e => exact closes_failed tables c e
  | ask plain answered => exact closes_answered tables (Backend.finish_ok answered) plain rfl
  | reload answered => exact closes_answered tables (Backend.finish_ok answered) nofun rfl
  | release answered => exact closes_released tables (Backend.finish_ok answered)

theorem Deeds.closes (deeds : Deeds w xs u) (tables : InMemory w) : Closes w xs u := by
  induction deeds with
  | nil => exact .still tables rfl rfl rfl
  | cons deed _ ih =>
    have first := deed.closes tables
    exact first.trans (ih first.tables) deed.now

-- A request asks the store for failures only, and what it reports is no release.
theorem Act.closes (act : Act False w u) (tables : InMemory w) : Closes w [] u := by
  cases act with
  | arrive => exact .still tables (Backend.store_arrive w.backend) rfl rfl
  | deliver => exact closes_deliver tables
  | reload | limit | count => exact .still tables rfl rfl rfl
  | expire under | releaseExpired under | prune under | archive under => cases under
  | purgeAttempts _ under | purgeBans _ under | upkeep _ under => cases under

theorem Acts.closes (acts : Acts False w u) (tables : InMemory w) : Closes w [] u := by
  induction acts with
  | refl => exact .still tables rfl rfl rfl
  | tail acts act ih => exact ih.trans (act.closes ih.tables) (Acts.frame acts).now

theorem Entered.closes {client endpoint : String} {critical : Bool} {answer : Except GateError Admission}
    (entered : Entered w client endpoint critical (answer, u)) (tables : InMemory w) : Closes w [] u := by
  obtain ⟨v, acts, _, same | ⟨reason, d, failures, made, g', free, ban, same⟩⟩ := entered.denied
  · exact same ▸ Acts.closes acts tables
  · have before := Acts.closes acts tables
    have banned := closes_ban before.tables client reason d failures systemActor
    rw [ban] at banned
    have reported : Closes ({ v with gate := g' } : World ν) []
        { v with gate := g'.report (.accessDenied client endpoint made.reason g'.now) } :=
      .quiet banned.tables rfl rfl (Trail.dropped_emit ..) (Trail.filter_emit _ (by decide : Event.deniedAction ≠ Event.autoReleasedAction))
    rw [same]
    exact (before.trans banned (Acts.frame acts).now).trans reported ((ban_told ban).2.1.trans (Acts.frame acts).now)

theorem closes_update {c : Command} (plain : c.asks = false) (tables : InMemory w) :
    Closes w [] { w with gate := c.update w.gate } := by
  cases quiet : c.isQuiet with
  | true => exact .still tables rfl rfl (Command.quiet_trail quiet w.gate)
  | false =>
    cases c with
    | ban client reason d failures actor => exact closes_ban tables client reason d failures actor
    | unban client actor note => exact closes_unban tables client actor note
    | release client actor reason => exact closes_unban tables client actor (some reason)
    | expire | prune | clock => exact .still tables rfl rfl rfl
    | _ => cases quiet

end World

end Turnstile
