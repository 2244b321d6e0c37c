import Turnstile.Proofs.Gate.Effects
import Turnstile.Proofs.World.History
namespace Turnstile

instance : (c : Call) → DecidableEq c.Answer
  | .increment .. | .append _ | .upsert _ => inferInstanceAs (DecidableEq Unit)
  | .count .. => inferInstanceAs (DecidableEq Counts)
  | .release .. => inferInstanceAs (DecidableEq (Option Ban))
  | .active _ | .releaseExpired _ => inferInstanceAs (DecidableEq (List Ban))
  | .archive _ | .purgeAttempts _ | .purgeBans _ => inferInstanceAs (DecidableEq Nat)

deriving instance DecidableEq for Heard

namespace Routine

variable {σ α β : Type} {P : σ → Prop}

-- Work that keeps an assertion on the state as long as every answer is a failure.
def Spares (P : σ → Prop) : Routine σ α → Prop
  | .done _ => True
  | .get next => ∀ s, P s → (next s).Spares P
  | .put s next => P s ∧ next.Spares P
  | .ask _ _ next => ∀ e, (next (.error e)).Spares P

theorem Spares.bind {r : Routine σ α} {f : α → Routine σ β} (first : r.Spares P) (rest : ∀ a, (f a).Spares P) :
    (r >>= f).Spares P := by
  show (r.andThen f).Spares P
  induction r with
  | done a => exact rest a
  | get next ih => exact fun s so => ih s (first s so)
  | put s next ih => exact ⟨first.1, ih first.2⟩
  | ask c limit next ih => exact fun e => ih (.error e) (first e)

theorem Spares.map {r : Routine σ α} (f : α → β) (first : r.Spares P) : (f <$> r).Spares P := first.bind fun _ => trivial

theorem Spares.update {f : σ → α × σ} (kept : ∀ s, P s → P (f s).2) : (Routine.update f).Spares P :=
  fun s so => ⟨kept s so, trivial⟩

theorem Spares.change {f : σ → σ} (kept : ∀ s, P s → P (f s)) : (Routine.change f).Spares P :=
  fun s so => ⟨kept s so, trivial⟩

end Routine

namespace World

variable {ν α : Type} {w : World ν} {meanwhile : List Nat}

-- Deliveries are no harm to what is asserted of the gate without its queue.
theorem spared {P : Gate ν → Prop} {r : Routine (Gate ν) α} (spares : r.Spares P)
    (queue : ∀ g o, P g → P (g.setOutbox o)) (failures : ∀ h ∈ heard meanwhile r w, h.isFailure = true) (before : P w.gate) :
    P (perform meanwhile r w).2.gate := by
  induction r generalizing meanwhile w with
  | done a => exact before
  | get next ih => exact ih _ (spares _ before) failures before
  | put gate next ih => exact ih spares.2 failures spares.1
  | ask c limit next ih =>
    simp only [heard, perform] at failures ⊢
    cases met : w.backend.arrive with
    | mk fault backend =>
      rw [met] at failures
      cases fault with
      | some e => exact ih _ (spares e) (fun h member => failures h (List.mem_cons_of_mem _ member)) before
      | none =>
        have later : P (deliverMany (meanwhile.headD 0) { w with backend }).gate := by
          rw [gate_deliverMany]
          exact queue w.gate _ before
        dsimp only at failures ⊢
        generalize deliverMany (meanwhile.headD 0) { w with backend } = u at failures later
        cases answered : u.backend.finish c limit with
        | mk answer after =>
          rw [answered] at failures
          have failed := failures _ List.mem_cons_self
          cases answer with
          | ok a => cases failed
          | error e => exact ih _ (spares e) (fun h member => failures h (List.mem_cons_of_mem _ member)) later

end World

namespace Registry

-- No ban is there that was not there before.
def Fewer (r s : Registry) : Prop := ∀ client b, s.active.get? client = some b → r.active.get? client = some b

variable {r s : Registry}

theorem Fewer.refl (r : Registry) : r.Fewer r := fun _ _ => id

theorem Fewer.expire (fewer : r.Fewer s) (now : Nat) : r.Fewer (s.expire now).2 := by
  intro client b found
  have there : ((s.expire now).2.standing client).ban = some b := found
  rw [standing_expire] at there
  exact fewer client b (Option.eq_some_of_filter_eq_some there)

theorem Fewer.unban (fewer : r.Fewer s) (now : Nat) (address : String) : r.Fewer (s.unban now address).2 := by
  intro client b found
  have there : ((s.unban now address).2.standing client).ban = some b := found
  rw [standing_unban] at there
  split at there
  · split at there
    · cases there
    · cases there
  · exact fewer client b there

end Registry

namespace Gate

variable {ν : Type} {r : Registry}

abbrev Loses (r : Registry) (g : Gate ν) : Prop := r.Fewer g.bans

theorem spares_restore : (restore : Routine (Gate ν) _).Spares (Loses r) := fun _ _ _ => trivial

theorem spares_sweepBans (c : Config) (now : Nat) : (sweepBans c now : Routine (Gate ν) _).Spares (Loses r) := by
  unfold sweepBans
  -- What would be done with an answer is never reached.
  exact Routine.Spares.bind (.update fun g so => so.expire g.now) fun _ _ => trivial

theorem fewer_unban (g : Gate ν) (client actor : String) (note : Option String) :
    g.bans.Fewer (g.unban client actor note).2.bans := by
  have unbanned := g.unban_cases client actor note
  generalize g.unban client actor note = result at unbanned
  cases unbanned with
  | refused => exact .refl _
  | idle => exact (Registry.Fewer.refl _).unban g.now client
  | ended => exact (Registry.Fewer.refl _).unban g.now client

variable [Quantity ν]

theorem spares_work (c : Config) (now : Nat) (s : Sweep) : (work c now s : Routine (Gate ν) _).Spares (Loses r) := by
  cases s with
  | banExpiry => exact spares_sweepBans c now
  | bucketEvict => exact Routine.Spares.bind (.update fun _ so => so) fun _ => trivial
  | windowArchive => exact fun _ => trivial
  | historyPurge => exact fun _ => trivial

theorem spares_sweep (force : Bool) (s : Sweep) : (sweep force s : Routine (Gate ν) _).Spares (Loses r) := by
  unfold sweep
  intro g so
  show Routine.Spares (Loses r) (ite ..)
  split
  · refine (spares_work g.config g.now s).bind fun answer => ?_
    cases answer with
    | error e => trivial
    | ok n => exact Routine.Spares.bind (.change fun _ so => so) fun _ => trivial
  · trivial

theorem spares_sweeps (force : Bool) (all : List Sweep) : (sweeps force all : Routine (Gate ν) _).Spares (Loses r) := by
  induction all with
  | nil => trivial
  | cons s rest ih => exact (spares_sweep force s).bind fun _ => ih.bind fun _ => trivial

theorem spares_maintain (force : Bool) : (maintain force : Routine (Gate ν) _).Spares (Loses r) := by
  unfold maintain
  intro g so
  show Routine.Spares (Loses r) (ite ..)
  split
  · trivial
  · refine Routine.Spares.bind (.change fun _ so => so) fun _ => ?_
    refine (spares_sweeps force Sweep.all).bind fun _ => ?_
    exact Routine.Spares.bind (.change fun _ so => so) fun _ => trivial

theorem bans_screen (g : Gate ν) (client endpoint : String) (critical : Bool) :
    (g.screen client endpoint critical).2.bans = g.bans := by
  have screening := g.screen_cases client endpoint critical
  generalize g.screen client endpoint critical = result at screening
  cases screening <;> rfl

theorem spares_enter (client endpoint : String) (critical : Bool) :
    (enter client endpoint critical : Routine (Gate ν) _).Spares (Loses r) := by
  unfold enter
  cases Client.fault? client with
  | some fault => trivial
  | none =>
    refine Routine.Spares.bind (.update fun g so => ?_) fun screening => ?_
    · show r.Fewer (g.screen client endpoint critical).2.bans
      rw [bans_screen]
      exact so
    · cases screening with
      | answered a => trivial
      | undecided => exact fun _ _ _ h kept => ⟨kept, trivial⟩

theorem spares_serve (client endpoint : String) (critical : Bool) (inner : Inner) :
    (serve client endpoint critical inner : Routine (Gate ν) _).Spares (Loses r) := by
  unfold serve
  split
  · trivial
  · refine (spares_enter client endpoint critical).bind fun answer => ?_
    cases answer with
    | error e => trivial
    | ok a =>
      dsimp only
      split
      · split <;> trivial
      · trivial

end Gate

variable {ν : Type} [Quantity ν]

namespace Command

theorem spares_asks {c : Command} (asks : c.asks = true) (r : Registry) :
    (c.routine : Routine (Gate ν) Reply).Spares (Gate.Loses r) := by
  cases c with
  | enter client endpoint critical => exact (Gate.spares_enter client endpoint critical).map _
  | serve client endpoint critical inner => exact (Gate.spares_serve client endpoint critical inner).map _
  | restore => exact Gate.spares_restore.map _
  | maintain force => exact (Gate.spares_maintain force).map _
  | counts client endpoint since => exact fun _ _ _ _ _ => trivial
  | _ => cases asks

def isBan : Command → Bool
  | .ban .. => true
  | _ => false

-- Only a call for a ban brings one.
theorem fewer_update {c : Command} (other : c.isBan = false) (g : Gate ν) : g.bans.Fewer (c.update g).bans := by
  cases c with
  | ban => cases other
  | unban client actor note => exact g.fewer_unban client actor note
  | release client actor reason => exact g.fewer_unban client actor (some reason)
  | expire => exact (Registry.Fewer.refl _).expire g.now
  | prune | clock => exact .refl _
  | _ =>
    rw [(quiet_update rfl g).1]
    exact .refl _

end Command

def Move.isRestart : Move → Bool
  | .restart _ => true
  | _ => false

namespace Visit

def heard (v : Visit ν) : List Heard :=
  match v.move with
  | .command c meanwhile => World.heard meanwhile c.routine v.world
  | _ => []

structure Unanswered (v : Visit ν) : Prop where
  stays : v.move.isRestart = false
  failures : ∀ h ∈ v.heard, h.isFailure = true

instance (v : Visit ν) : Decidable v.Unanswered :=
  decidable_of_iff (v.move.isRestart = false ∧ ∀ h ∈ v.heard, h.isFailure = true)
    ⟨fun ⟨stays, failures⟩ => ⟨stays, failures⟩, fun ⟨stays, failures⟩ => ⟨stays, failures⟩⟩

end Visit

def Explicit (past : List (Visit ν)) (client : String) (b : Ban) : Prop :=
  ∃ v ∈ past, ∃ reason length failures actor meanwhile,
    v.move = .command (.ban client reason length failures actor) meanwhile ∧
      (v.world.step v.move).1 = .banned (.ok b)

def Warranted (past : List (Visit ν)) (g : Gate ν) : Prop :=
  ∀ client b, g.bans.active.get? client = some b → Explicit past client b

section
variable {past : List (Visit ν)} {u : World ν} {g : Gate ν} {m : Move}

theorem Explicit.later {client : String} {b : Ban} (explicit : Explicit past client b) (v : Visit ν) :
    Explicit (past ++ [v]) client b := by
  obtain ⟨asked, member, told⟩ := explicit
  exact ⟨asked, List.mem_append_left _ member, told⟩

theorem Warranted.fewer (warranted : Warranted past u.gate) (fewer : u.gate.bans.Fewer g.bans) (v : Visit ν) :
    Warranted (past ++ [v]) g :=
  fun client b found => (warranted client b (fewer client b found)).later v

theorem warranted_ban (warranted : Warranted past u.gate) (client reason : String) (d : Duration) (failures : Nat)
    (actor : String) (meanwhile : List Nat) :
    Warranted (past ++ [⟨u, .command (.ban client reason d failures actor) meanwhile⟩])
      (u.gate.ban client reason d failures actor).2 := by
  have banned := u.gate.ban_cases client reason d failures actor
  have told : (u.step (.command (.ban client reason d failures actor) meanwhile)).1 =
    .banned (u.gate.ban client reason d failures actor).1 := rfl
  generalize u.gate.ban client reason d failures actor = result at banned told
  cases banned with
  | refused => exact warranted.fewer (.refl _) _
  | made sound event =>
    intro other b found
    by_cases same : other = client
    · subst same
      cases Option.some.inj ((Table.get?_insert_self ..).symm.trans found)
      exact ⟨_, List.mem_append_right _ List.mem_cons_self, reason, d, failures, actor, meanwhile, rfl, told⟩
    · have there := (Table.get?_insert_ne _ _ same).symm.trans found
      exact (warranted other b there).later _

theorem warranted_step (warranted : Warranted past u.gate) (unanswered : Visit.Unanswered ⟨u, m⟩) :
    Warranted (past ++ [⟨u, m⟩]) (u.step m).2.gate := by
  cases m with
  | command c meanwhile =>
    cases asks : c.asks with
    | true =>
      refine warranted.fewer ?_ _
      exact World.spared (P := Gate.Loses u.gate.bans) (Command.spares_asks asks _) (fun _ _ => id) unanswered.failures (.refl _)
    | false =>
      rw [Command.step_plain asks]
      cases c with
      | ban client reason d failures actor => exact warranted_ban warranted client reason d failures actor meanwhile
      | _ => exact warranted.fewer (Command.fewer_update rfl u.gate) _
  | deliver =>
    refine warranted.fewer ?_ _
    show u.gate.bans.Fewer u.deliver.gate.bans
    rw [World.gate_deliver]
    exact .refl _
  | flush =>
    refine warranted.fewer ?_ _
    show u.gate.bans.Fewer (u.deliverMany _).gate.bans
    rw [World.gate_deliverMany]
    exact .refl _
  | restart => cases unanswered.stays
  | call | faults | reach | slow | handOver => exact warranted.fewer (.refl _) _

theorem warranted_run {b : Blueprint} {start : Nat} {backend : Backend} {w : World ν} (fresh : World.Built b start backend w)
    (moves : List Move) (unanswered : ∀ v ∈ w.visits moves, v.Unanswered) :
    Warranted (w.visits moves) (w.run moves).gate := by
  refine World.run_keeps (I := fun past u => Warranted past u.gate) ?_ (fun past u m => warranted_step) moves unanswered
  intro client b found
  rw [fresh.bans] at found
  cases found

end

end Turnstile
