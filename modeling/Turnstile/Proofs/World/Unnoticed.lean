import Turnstile.Proofs.World.Indistinct
namespace Turnstile

namespace Command

-- What only says how much was forgotten, or how much is left of old windows, depends on maintenance.
def tells : Command → Bool
  | .maintain _ | .expire | .prune _ | .counts .. => false
  | _ => true

-- Puts no other configuration in force, and forgets no floor of a ban that may still block.
def isConstant (now : Nat) : Command → Bool
  | .reconfigure _ => false
  | .prune before => before ≤ now
  | _ => true

end Command

namespace Move

def tells : Move → Bool
  | .command c _ => c.tells
  | _ => false

def maintains : Move → Bool
  | .command (.maintain _) _ => true
  | _ => false

def isConstant (now : Nat) : Move → Bool
  | .command c _ => c.isConstant now
  | _ => true

end Move

section
variable {ν : Type} [Quantity ν]

-- Nothing fails, what was queued has been applied before the next command, and the settings stay as they are.
structure Visit.Constant (v : Visit ν) : Prop where
  applied : v.Applied
  constant : v.move.isConstant v.world.gate.now = true
  fits : v.world.gate.now ≤ wordMax

instance (v : Visit ν) : Decidable v.Constant :=
  decidable_of_iff (v.Applied ∧ v.move.isConstant v.world.gate.now = true ∧ v.world.gate.now ≤ wordMax)
    ⟨fun ⟨applied, constant, fits⟩ => ⟨applied, constant, fits⟩, fun ⟨applied, constant, fits⟩ => ⟨applied, constant, fits⟩⟩

theorem Move.config_of_constant {m : Move} {now : Nat} (constant : m.isConstant now = true) : m.config? = none := by
  cases m with
  | command c meanwhile =>
    cases c with
    | reconfigure => cases constant
    | _ => rfl
  | _ => rfl

end

namespace World

variable {w u : World Rat} {m : Move} {moves moves' : List Move}

structure Sane (w : World Rat) : Prop where
  agreement : ∃ m, Agreement m w
  floors : ∀ client, ∃ ended, (w.standingOf client).Follows 0 w.gate.now ended

theorem Sane.calm (sane : w.Sane) (healthy : w.backend.Healthy) (drained : w.pending = []) : w.Calm := by
  obtain ⟨m, agreement⟩ := sane.agreement
  refine ⟨⟨m, agreement, healthy, by rw [drained]; exact nofun⟩, fun client => ?_, drained⟩
  obtain ⟨ended, follows⟩ := sane.floors client
  exact ⟨_, follows.tracks⟩

theorem Sane.step (sane : w.Sane) (constant : (⟨w, m⟩ : Visit Rat).Constant) : (w.step m).2.Sane := by
  have applied := constant.applied
  refine ⟨agreement_step applied sane.agreement, fun client => ?_⟩
  obtain ⟨ended, follows⟩ := sane.floors client
  obtain ⟨t, agreement⟩ := sane.agreement
  refine ⟨_, (follows_step applied.onward.own ?_ applied.onward.forward
    (fun _ => Nat.sub_le_sub_left (Nat.zero_le _) _) ⟨t, agreement.tables⟩ follows).2⟩
  intro cutoff prunes
  obtain ⟨_, meanwhile, rfl⟩ := Move.plain_asks prunes
  exact of_decide_eq_true constant.constant

theorem Sane.built {b : Blueprint} {start : Nat} (fresh : Built b start .memory w) : w.Sane := by
  refine ⟨⟨.empty, by rw [fresh.backend]; rfl, ?_, fun client => ?_⟩, fun client => ⟨none, ?_⟩⟩
  · rw [fresh.bans]
    exact Registry.addressed_empty
  · rw [fresh.pending]
    unfold Gate.activeBan
    rw [fresh.bans]
    exact ⟨Nat.zero_le _, rfl⟩
  · unfold World.standingOf
    rw [fresh.bans]
    exact ⟨Standing.tracks_empty 0 _, nofun⟩

theorem retains_step (constant : (⟨w, m⟩ : Visit Rat).Constant) (retains : w.gate.Retains) : (w.step m).2.gate.Retains := by
  have own := constant.applied.onward.own
  obtain ⟨config, policy⟩ := settings_step own (Move.config_of_constant constant.constant) w
  unfold Gate.Retains
  rw [config, policy, granularity_step own]
  exact retains

-- Of two wholes that the clock is not set back for, the stores are alike from a later cutoff on as well.
theorem Indistinct.next {w' u' : World Rat} (gate : w'.gate.Matches u'.gate) (backend : w'.backend.SameService w.gate.cutoff u'.backend)
    (forward : w.gate.now ≤ w'.gate.now) (config : w'.gate.config = w.gate.config) : w'.Indistinct u' := by
  refine ⟨gate, backend.later ?_⟩
  unfold Gate.cutoff
  rw [config]
  exact Nat.sub_le_sub_right forward _

-- What asks the store at most once is answered the same by both.
theorem Indistinct.run (indistinct : w.Indistinct u) (healthy : w.backend.Healthy) (retains : w.gate.Retains) (fits : w.gate.now ≤ wordMax)
    {c : Command} (single : c.isSingle = true) (reloads : c ≠ .restore) (constant : c.isConstant w.gate.now = true)
    (forward : w.gate.now ≤ (c.routine.run w.gate w.backend).2.1.now) :
    (c.tells = true → (c.routine.run u.gate u.backend).1 = (c.routine.run w.gate w.backend).1) ∧
      (c.routine.run w.gate w.backend).2.1.Matches (c.routine.run u.gate u.backend).2.1 ∧
      (c.routine.run w.gate w.backend).2.2.SameService w.gate.cutoff (c.routine.run u.gate u.backend).2.2 := by
  have backend := indistinct.backend
  cases reports : c.reports with
  | true =>
    obtain ⟨reply, ran⟩ := Command.run_reports (ν := Rat) reports
    rw [ran, ran]
    exact ⟨fun _ => rfl, indistinct.gate.update_reports reports, backend⟩
  | false =>
    cases c with
    | enter client endpoint critical =>
      obtain ⟨answer, gate, backend⟩ := indistinct.enter healthy retains fits client endpoint critical
      rw [Command.run_enter, Command.run_enter]
      exact ⟨fun _ => congrArg Reply.admission answer, gate, backend⟩
    | serve client endpoint critical inner =>
      by_cases ready : inner = .notReady
      · subst ready
        exact ⟨fun _ => rfl, indistinct.gate, backend⟩
      · obtain ⟨answer, gate, backend⟩ := indistinct.enter healthy retains fits client endpoint critical
        rw [Command.run_serve ready, Command.run_serve ready]
        exact ⟨fun _ => congrArg (fun entered => Reply.served (Gate.served inner endpoint entered)) answer, gate, backend⟩
    | ban client reason d failures actor =>
      obtain ⟨answer, gate⟩ := indistinct.gate.ban reason d failures actor client
      exact ⟨fun _ => congrArg Reply.banned answer, gate, backend⟩
    | unban client actor note =>
      obtain ⟨answer, gate⟩ := indistinct.gate.unban client actor note
      exact ⟨fun _ => congrArg Reply.unbanned answer, gate, backend⟩
    | release client actor reason =>
      obtain ⟨answer, gate⟩ := indistinct.gate.unban client actor (some reason)
      exact ⟨fun _ => congrArg (fun result : Except GateError (Option Ban) => Reply.reported (result.map fun _ => ())) answer,
        gate, backend⟩
    | acquire client =>
      obtain ⟨answer, gate⟩ := indistinct.gate.acquire client
      exact ⟨fun _ => congrArg Reply.decision answer, gate, backend⟩
    | expire => exact ⟨nofun, indistinct.gate.expire.symm.expire.symm, backend⟩
    | prune before => exact ⟨nofun, indistinct.gate.pruneFloors before, backend⟩
    | clock reading => exact ⟨fun _ => rfl, indistinct.gate.clock forward, backend⟩
    | reconfigure => cases constant
    | restore => exact absurd rfl reloads
    | maintain | counts => cases single
    | login | refused | outcome | record | append => cases reports

theorem Indistinct.command (indistinct : w.Indistinct u) (sane : w.Sane) (sane' : u.Sane) (retains : w.gate.Retains) {c : Command} {meanwhile : List Nat}
    (constant : (⟨w, .command c meanwhile⟩ : Visit Rat).Constant) (kept : ∀ force, c ≠ .maintain force) :
    (c.tells = true → (u.step (.command c meanwhile)).1 = (w.step (.command c meanwhile)).1) ∧
      (w.step (.command c meanwhile)).2.Indistinct (u.step (.command c meanwhile)).2 := by
  have healthy := constant.applied.intact.healthy
  have drained := constant.applied.drained rfl
  have drained' : u.pending = [] := (congrArg (fun t : Tally => t.outbox.pending) indistinct.gate.tally).trans drained
  have calm := sane.calm healthy drained
  have calm' := sane'.calm (indistinct.backend.healthy.1 healthy) drained'
  have forward := constant.applied.onward.forward
  have config := (settings_step constant.applied.onward.own (Move.config_of_constant constant.constant) w).1
  change w.gate.now ≤ (w.step (.command c meanwhile)).2.gate.now at forward
  have single (once : c.isSingle = true) (reloads : c ≠ .restore) :
      (c.tells = true → (u.step (.command c meanwhile)).1 = (w.step (.command c meanwhile)).1) ∧
        (w.step (.command c meanwhile)).2.Indistinct (u.step (.command c meanwhile)).2 := by
    rw [step_drained drained once, step_command] at forward config ⊢
    rw [step_drained drained' once, step_command]
    obtain ⟨answer, gate, backend⟩ := indistinct.run healthy retains constant.fits once reloads constant.constant forward
    exact ⟨answer, Indistinct.next gate backend forward config⟩
  cases c with
  | maintain force => exact absurd rfl (kept force)
  | counts client endpoint since =>
    exact ⟨nofun, Indistinct.both (fun _ _ indistinct calm => indistinct.counts calm client endpoint since meanwhile) indistinct calm calm'⟩
  | restore =>
    refine ⟨fun _ => ?_, Indistinct.both (fun _ _ indistinct calm => indistinct.restore calm meanwhile) indistinct calm calm'⟩
    obtain ⟨m, undisturbed⟩ := calm.undisturbed
    obtain ⟨m', undisturbed'⟩ := calm'.undisturbed
    rw [(undisturbed.reload drained meanwhile).1, (undisturbed'.reload drained' meanwhile).1]
  | _ => exact single rfl nofun

theorem Indistinct.step (indistinct : w.Indistinct u) (sane : w.Sane) (sane' : u.Sane) (retains : w.gate.Retains)
    (constant : (⟨w, m⟩ : Visit Rat).Constant) (kept : m.maintains = false) :
    (m.tells = true → (u.step m).1 = (w.step m).1) ∧ (w.step m).2.Indistinct (u.step m).2 := by
  have own := constant.applied.onward.own
  have healthy := constant.applied.intact.healthy
  have healthy' := indistinct.backend.healthy.1 healthy
  have latency := indistinct.backend.latency
  have tables := indistinct.backend.tables
  cases m with
  | command c meanwhile =>
    refine indistinct.command sane sane' retains constant fun force maintains => ?_
    rw [maintains] at kept
    cases kept
  | faults script =>
    refine ⟨nofun, indistinct.gate, ⟨?_, latency, tables⟩⟩
    exact (healthy.addFaults_iff script).trans (healthy'.addFaults_iff script).symm
  | reach on => exact ⟨nofun, indistinct.gate, ⟨(healthy.reach_iff on).trans (healthy'.reach_iff on).symm, latency, tables⟩⟩
  | slow d => exact ⟨nofun, indistinct.gate, ⟨⟨fun _ => ⟨healthy'.reachable, healthy'.clear⟩, fun _ => ⟨healthy.reachable, healthy.clear⟩⟩,
      rfl, tables⟩⟩
  | deliver => exact ⟨nofun, indistinct.deliver healthy⟩
  | handOver => exact ⟨nofun, indistinct.gate.withTrail _ _, indistinct.backend⟩
  | flush =>
    have delivered := indistinct.deliverMany healthy w.gate.tally.outbox.pending.length
    refine ⟨nofun, ?_⟩
    show (w.deliverMany _).handOver.Indistinct (u.deliverMany _).handOver
    rw [indistinct.gate.tally]
    exact ⟨delivered.gate.withTrail _ _, delivered.backend⟩
  | call | restart => cases own

theorem Indistinct.constant (indistinct : w.Indistinct u) (after : (w.step m).2.Indistinct (u.step m).2)
    (constant : (⟨w, m⟩ : Visit Rat).Constant) : (⟨u, m⟩ : Visit Rat).Constant := by
  obtain ⟨⟨⟨own, forward⟩, ⟨healthy, lossless⟩, drained⟩, constant, fits⟩ := constant
  have queue : u.pending = w.pending := congrArg (fun t : Tally => t.outbox.pending) indistinct.gate.tally
  have now := indistinct.gate.now
  refine ⟨⟨⟨own, ?_⟩, ⟨indistinct.backend.healthy.1 healthy, ?_⟩, fun command => queue.trans (drained command)⟩, ?_, ?_⟩
  · show u.gate.now ≤ (u.step m).2.gate.now
    rw [now, after.gate.now]
    exact forward
  · show (u.step m).2.gate.tally.outbox.dropped = u.gate.tally.outbox.dropped
    rw [indistinct.gate.tally, after.gate.tally]
    exact lossless
  · show m.isConstant u.gate.now = true
    rw [now]
    exact constant
  · show u.gate.now ≤ wordMax
    rw [now]
    exact fits

-- What is answered to moves made one after the other, but for what depends on maintenance.
def visible (w : World Rat) : List Move → List Reply
  | [] => []
  | m :: rest => if m.tells then (w.step m).1 :: visible (w.step m).2 rest else visible (w.step m).2 rest

theorem visible_append (w : World Rat) (first second : List Move) :
    w.visible (first ++ second) = w.visible first ++ (w.run first).visible second := by
  induction first generalizing w with
  | nil => rfl
  | cons m rest ih =>
    simp only [List.cons_append, visible, World.run, ih]
    split
    · rfl
    · rfl

theorem Indistinct.unmaintained (indistinct : w.Indistinct u) (sane : w.Sane) (sane' : u.Sane) (retains : w.gate.Retains)
    (constant : ∀ v ∈ w.visits moves, v.Constant) :
    u.visible (moves.filter (!·.maintains)) = w.visible moves ∧ (w.run moves).Indistinct (u.run (moves.filter (!·.maintains))) ∧
      (w.run moves).Sane ∧ (u.run (moves.filter (!·.maintains))).Sane := by
  induction moves generalizing w u with
  | nil => exact ⟨rfl, indistinct, sane, sane'⟩
  | cons m rest ih =>
    have here := constant ⟨w, m⟩ List.mem_cons_self
    have later := fun v member => constant v (List.mem_cons_of_mem _ member)
    have next := sane.step here
    have kept := retains_step here retains
    cases maintains : m.maintains with
    | true =>
      have silent : m.tells = false := by
        cases m with
        | command c meanwhile => cases c <;> first | rfl | cases maintains
        | _ => cases maintains
      have same : (w.step m).2.Indistinct u := by
        cases m with
        | command c meanwhile =>
          cases c with
          | maintain force =>
            exact indistinct.maintain (sane.calm here.applied.intact.healthy (here.applied.drained rfl)) force meanwhile
          | _ => cases maintains
        | _ => cases maintains
      have followed := ih same next sane' kept later
      rw [List.filter_cons_of_neg (by simp [maintains])]
      simp only [visible, silent, World.run, Bool.false_eq_true, if_false]
      exact followed
    | false =>
      obtain ⟨answer, after⟩ := indistinct.step sane sane' retains here maintains
      have next' := sane'.step (indistinct.constant after here)
      obtain ⟨answers, followed⟩ := ih after next next' kept later
      rw [List.filter_cons_of_pos (by simp [maintains])]
      refine ⟨?_, followed⟩
      simp only [visible]
      split
      · rename_i tells
        rw [answer tells, answers]
      · exact answers

-- Runs that differ only in maintenance are answered the same, and the same bans are in force at their ends. Runs are cut off
-- anywhere, so that the end of one is any time.
def Unnoticed (w : World Rat) : Prop :=
  ∀ moves moves' : List Move, moves'.filter (!·.maintains) = moves.filter (!·.maintains) →
    (∀ v ∈ w.visits moves, v.Constant) → (∀ v ∈ w.visits moves', v.Constant) →
    w.visible moves' = w.visible moves ∧ (w.run moves').gate.bannedClients = (w.run moves).gate.bannedClients

theorem Indistinct.bannedClients (indistinct : w.Indistinct u) (sane : w.Sane) (sane' : u.Sane) :
    u.gate.bannedClients = w.gate.bannedClients := by
  obtain ⟨m, agreement⟩ := sane.agreement
  obtain ⟨m', agreement'⟩ := sane'.agreement
  have known := indistinct.gate.activeBan
  unfold Gate.activeBan at known
  unfold Gate.bannedClients
  rw [indistinct.gate.now] at known ⊢
  exact Registry.list_congr agreement'.addressed agreement.addressed known

theorem Indistinct.unnoticed (indistinct : w.Indistinct w) (sane : w.Sane) (retains : w.gate.Retains) : w.Unnoticed := by
  intro moves moves' same constant constant'
  obtain ⟨told, alike_end, sane_end, bare⟩ := indistinct.unmaintained sane sane retains constant
  obtain ⟨told', alike_end', sane_end', _⟩ := indistinct.unmaintained sane sane retains constant'
  rw [same] at told' alike_end'
  exact ⟨told'.symm.trans told, (alike_end'.bannedClients sane_end' bare).symm.trans (alike_end.bannedClients sane_end bare)⟩

end World

end Turnstile
