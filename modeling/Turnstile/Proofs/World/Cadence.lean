import Mathlib.Data.List.Nodup
import Turnstile.Proofs.Gate.Outage
namespace Turnstile

variable {ν : Type}

def SweepOutcome.isCompleted : SweepOutcome → Bool
  | .completed _ => true
  | _ => false

def Report.completes (s : Sweep) (report : Report) : Bool :=
  report.any fun entry => entry.1 == s && entry.2.isCompleted

namespace Upkeep

variable {u : Upkeep} {c : Config} {now : Nat} {s t : Sweep}

def note (now : Nat) (u : Upkeep) (entry : Sweep × SweepOutcome) : Upkeep :=
  match entry.2 with
  | .completed _ => u.succeed entry.1 now
  | _ => u

theorem lastSuccess_note (entry : Sweep × SweepOutcome) : (u.note now entry).lastSuccess t =
    if entry.1 == t && entry.2.isCompleted then some now else u.lastSuccess t := by
  obtain ⟨s, outcome⟩ := entry
  cases outcome with
  | completed n => cases s <;> cases t <;> rfl
  | notDue | failed => simp [note, SweepOutcome.isCompleted]

theorem lastSuccess_notes (u : Upkeep) (now : Nat) (report : Report) (s : Sweep) : (report.foldl (note now) u).lastSuccess s =
    if report.completes s then some now else u.lastSuccess s := by
  induction report generalizing u with
  | nil => rfl
  | cons entry rest ih =>
    rw [List.foldl_cons, ih, lastSuccess_note]
    unfold Report.completes
    rw [List.any_cons]
    cases entry.1 == s && entry.2.isCompleted with
    | true => exact ite_self _
    | false => rfl

theorem runs_notes (report : Report) : (report.foldl (note now) u).runs = u.runs := by
  induction report generalizing u with
  | nil => rfl
  | cons entry rest ih =>
    obtain ⟨s, outcome⟩ := entry
    rw [List.foldl_cons, ih]
    cases outcome <;> cases s <;> rfl

theorem isDue_eq_false : u.isDue c now s = false ↔ ∃ last, u.lastSuccess s = some last ∧ now - last < (s.cadence c).millis := by
  unfold isDue
  cases u.lastSuccess s with
  | none => simp
  | some last => simp

theorem isDue_note (u : Upkeep) (c : Config) (now : Nat) {entry : Sweep × SweepOutcome} (other : t ≠ entry.1) :
    (u.note now entry).isDue c now t = u.isDue c now t := by
  unfold isDue
  rw [lastSuccess_note]
  simp [other.symm]

end Upkeep

-- Cadences are whole seconds. A wait that fills the clock's whole range counts as long enough.
theorem Sweep.lt_cadence (s : Sweep) (c : Config) (span : Nat) : span < (s.cadence c).millis ↔
    (Duration.ofMillis span).nanos < (s.cadence c).nanos ∧ span < wordMax := by
  have whole (secs : Nat) : span < (Duration.ofSecs secs).millis ↔
      (Duration.ofMillis span).nanos < (Duration.ofSecs secs).nanos ∧ span < wordMax := by
    rw [Duration.millis_ofSecs, Nat.lt_min]
    unfold Duration.ofMillis Duration.ofSecs
    dsimp only
    omega
  cases s <;> exact whole _

-- All sweeps are reported in their order, and held back are those that are not due, unless the run is forced.
structure Report.Decided (force : Bool) (c : Config) (now : Nat) (u : Upkeep) (all : List Sweep) (report : Report) : Prop where
  order : report.map Prod.fst = all
  held : ∀ s ∈ all, (s, .notDue) ∈ report ↔ force = false ∧ u.isDue c now s = false

theorem Report.Decided.cons {force : Bool} {c : Config} {now : Nat} {u : Upkeep} {rest : List Sweep} {report : Report} {s : Sweep}
    {outcome : SweepOutcome} (fresh : s ∉ rest) (first : outcome = .notDue ↔ force = false ∧ u.isDue c now s = false)
    (decided : Decided force c now (u.note now (s, outcome)) rest report) :
    Decided force c now u (s :: rest) ((s, outcome) :: report) := by
  refine ⟨congrArg (s :: ·) decided.order, fun t member => ?_⟩
  rcases List.mem_cons.1 member with rfl | later
  · have once : (t, .notDue) ∉ report := by
      intro again
      rw [← decided.order] at fresh
      exact fresh (List.mem_map_of_mem again)
    rw [← first]
    simp [once, eq_comm]
  · have other : t ≠ s := fun same => fresh (same ▸ later)
    have kept : (u.note now (s, outcome)).isDue c now t = u.isDue c now t := u.isDue_note c now other
    rw [← kept, ← decided.held t later]
    simp [other]

namespace World

variable [Quantity ν] {c : Config} {now : Nat} {u : Upkeep}

structure Working (c : Config) (now : Nat) (u : Upkeep) (w : World ν) : Prop where
  clock : w.gate.now = now
  config : w.gate.config = c
  upkeep : w.gate.upkeep = u

theorem working_toils : Toils c now (Working (ν := ν) c now u) where
  arrive _ working := ⟨working.clock, working.config, working.upkeep⟩
  deliver w working := by
    have kept := gate_deliver w
    exact ⟨by rw [kept]; exact working.clock, by rw [kept]; exact working.config, by rw [kept]; exact working.upkeep⟩
  clock _ working := working.clock
  config _ working := working.config
  reload _ _ _ _ working := ⟨working.clock, working.config, working.upkeep⟩
  expire _ working := ⟨working.clock, working.config, working.upkeep⟩
  releaseExpired _ _ _ _ working := ⟨working.clock, working.config, working.upkeep⟩
  prune _ working := ⟨working.clock, working.config, working.upkeep⟩
  evict _ working := ⟨working.clock, working.config, working.upkeep⟩
  archive _ working := ⟨working.clock, working.config, working.upkeep⟩
  purgeAttempts _ _ working := ⟨working.clock, working.config, working.upkeep⟩
  purgeBans _ _ working := ⟨working.clock, working.config, working.upkeep⟩

theorem working_sweep (force : Bool) (s : Sweep) : Leads (Working (ν := ν) c now u) (Gate.sweep force s) (fun outcome w =>
    (outcome = .notDue ↔ force = false ∧ u.isDue c now s = false) ∧ Working c now (u.note now (s, outcome)) w) := by
  unfold Gate.sweep
  refine .read fun v working => ?_
  rw [working.clock, working.config, working.upkeep]
  split
  · rename_i due
    have tried {outcome : SweepOutcome} (other : outcome ≠ .notDue) :
        outcome = .notDue ↔ force = false ∧ u.isDue c now s = false := by
      refine ⟨fun same => absurd same other, fun ⟨free, early⟩ => ?_⟩
      rw [free, early] at due
      cases due
    refine (working_toils.work s).bind fun answer => ?_
    cases answer with
    | error e => exact .pure _ fun w so => ⟨tried nofun, so⟩
    | ok n =>
      refine .bind (.change (Q := fun _ => Working c now (u.succeed s now)) fun w so => ?_) fun _ =>
        .pure _ fun w so => ⟨tried nofun, so⟩
      exact ⟨so.clock, so.config, congrArg (·.succeed s now) so.upkeep⟩
  · rename_i early
    refine .pure _ fun w so => ⟨⟨fun _ => ?_, fun _ => rfl⟩, so⟩
    simpa using early

theorem working_sweeps (force : Bool) {all : List Sweep} (distinct : all.Nodup) :
    Leads (Working (ν := ν) c now u) (Gate.sweeps force all) (fun report w =>
      report.Decided force c now u all ∧ Working c now (report.foldl (Upkeep.note now) u) w) := by
  induction all generalizing u with
  | nil => exact .pure _ fun w so => ⟨⟨rfl, nofun⟩, so⟩
  | cons s rest ih =>
    obtain ⟨fresh, distinct⟩ := List.nodup_cons.1 distinct
    refine (working_sweep force s).bind fun outcome => ?_
    rintro meanwhile w ⟨first, working⟩
    have later : Leads (Working (ν := ν) c now (u.note now (s, outcome)))
        (Gate.sweeps force rest >>= fun report => pure ((s, outcome) :: report)) (fun report v =>
          Report.Decided force c now u (s :: rest) report ∧ Working c now (report.foldl (Upkeep.note now) u) v) :=
      (ih distinct).bind fun report => .pure _ fun v ⟨decided, so⟩ => ⟨decided.cons fresh first, so⟩
    exact later meanwhile w working

-- A run is over when it ends, is counted, and leaves behind what it has reported.
structure Maintained (force : Bool) (c : Config) (now : Nat) (u : Upkeep) (report : Report) (w : World ν) : Prop where
  decided : report.Decided force c now u Sweep.all
  running : w.gate.upkeep.running = false
  runs : w.gate.upkeep.runs = u.runs + 1
  noted : ∀ s, w.gate.upkeep.lastSuccess s = if report.completes s then some now else u.lastSuccess s

theorem working_maintain (idle : u.running = false) (force : Bool) : Leads (Working (ν := ν) c now u) (Gate.maintain force)
    (fun answer w => ∃ report, answer = some report ∧ Maintained force c now u report w) := by
  unfold Gate.maintain
  refine .read fun v working => ?_
  rw [working.upkeep, idle]
  refine .bind (.change (Q := fun _ => Working c now { u with running := true }) fun w so =>
    ⟨so.clock, so.config, congrArg (fun u : Upkeep => { u with running := true }) so.upkeep⟩) fun _ => ?_
  refine (working_sweeps force (by decide)).bind fun report => ?_
  refine .bind (.change (Q := fun _ => Maintained force c now u report) fun w ⟨decided, so⟩ => ?_) fun _ =>
    .pure _ fun w so => ⟨report, rfl, so⟩
  have same (s : Sweep) : Upkeep.isDue { u with running := true } c now s = u.isDue c now s := by cases s <;> rfl
  refine ⟨⟨decided.order, fun s member => by rw [decided.held s member, same]⟩, rfl, ?_, fun s => ?_⟩
  · show w.gate.upkeep.runs + 1 = u.runs + 1
    rw [so.upkeep, Upkeep.runs_notes]
  · have noted := Upkeep.lastSuccess_notes { u with running := true } now report s
    rw [← so.upkeep] at noted
    cases s <;> exact noted

theorem step_maintain_report {w : World ν} (idle : w.gate.upkeep.running = false) (force : Bool) (meanwhile : List Nat) :
    ∃ report, (w.step (.command (.maintain force) meanwhile)).1 = .report (some report) ∧
      Maintained force w.gate.config w.gate.now w.gate.upkeep report (w.step (.command (.maintain force) meanwhile)).2 := by
  have mapped := perform_map Reply.report (Gate.maintain force) meanwhile w
  obtain ⟨report, answered, maintained⟩ := working_maintain idle force meanwhile w ⟨rfl, rfl, rfl⟩
  refine ⟨report, ?_, ?_⟩
  · rw [← answered]
    exact congrArg Prod.fst mapped
  · have same : (w.step (.command (.maintain force) meanwhile)).2 = (perform meanwhile (Gate.maintain force) w).2 :=
      congrArg Prod.snd mapped
    rw [same]
    exact maintained

end World

structure Round where
  reading : Nat
  config : Config
  force : Bool
  report : Report

def Visit.round? [Quantity ν] (v : Visit ν) : Option Round :=
  match v.move, (v.world.step v.move).1 with
  | .command (.maintain force) _, .report (some report) => some ⟨v.world.gate.now, v.world.gate.config, force, report⟩
  | _, _ => none

def rounds [Quantity ν] (past : List (Visit ν)) : List Round := past.filterMap Visit.round?

theorem rounds_snoc [Quantity ν] (past : List (Visit ν)) (v : Visit ν) : rounds (past ++ [v]) = rounds past ++ v.round?.toList := by
  unfold rounds
  rw [List.filterMap_append]
  cases found : v.round? <;> simp [found]

theorem Move.of_sweeps {m : Move} (sweeps : m.sweeps) : ∃ force meanwhile, m = .command (.maintain force) meanwhile := by
  cases m with
  | command c meanwhile =>
    cases c with
    | maintain force => exact ⟨force, meanwhile, rfl⟩
    | _ => cases sweeps
  | _ => cases sweeps

namespace Visit

variable [Quantity ν] {w : World ν}

theorem round_of_report {force : Bool} {meanwhile : List Nat} {report : Report}
    (answered : (w.step (.command (.maintain force) meanwhile)).1 = .report (some report)) :
    round? ⟨w, .command (.maintain force) meanwhile⟩ = some ⟨w.gate.now, w.gate.config, force, report⟩ := by
  unfold round?
  dsimp only
  rw [answered]

theorem round_of_idle {m : Move} (idle : ¬m.sweeps) : round? ⟨w, m⟩ = none := by
  unfold round?
  split
  · rename_i maintains answered
    change m = _ at maintains
    exact absurd (maintains ▸ trivial) idle
  · rfl

end Visit

def lastCompleted (s : Sweep) (past : List Round) : Option Nat :=
  (past.filter (·.report.completes s)).getLast?.map Round.reading

-- What a run does after others: all sweeps in their order, and not those whose cadence has not passed since they were completed,
-- unless it is forced. A wait as long as the clock's whole range is long enough for any cadence.
structure Round.OnTime (past : List Round) (r : Round) : Prop where
  order : r.report.map Prod.fst = [.banExpiry, .bucketEvict, .windowArchive, .historyPurge]
  forced : r.force = true → ∀ s, (s, .notDue) ∉ r.report
  held : r.force = false → ∀ s, (s, .notDue) ∈ r.report ↔ ∃ last, lastCompleted s past = some last ∧
    (Duration.ofMillis (r.reading - last)).nanos < (s.cadence r.config).nanos ∧ r.reading - last < wordMax

section
variable {past : List Round} {r : Round} {s : Sweep}

theorem lastCompleted_snoc (s : Sweep) (past : List Round) (r : Round) : lastCompleted s (past ++ [r]) =
    if r.report.completes s then some r.reading else lastCompleted s past := by
  unfold lastCompleted
  cases done : r.report.completes s <;> simp [done]

theorem lastCompleted_append {later : List Round} (vain : ∀ q ∈ later, q.report.completes s = false) :
    lastCompleted s (past ++ later) = lastCompleted s past := by
  have none : later.filter (·.report.completes s) = [] := by
    rw [List.filter_eq_nil_iff]
    intro q member
    simp [vain q member]
  unfold lastCompleted
  rw [List.filter_append, none, List.append_nil]

theorem Round.OnTime.once (lawful : r.OnTime past) {a b : SweepOutcome} (first : (s, a) ∈ r.report) (second : (s, b) ∈ r.report) :
    a = b := by
  have distinct : (r.report.map Prod.fst).Nodup := by
    rw [lawful.order]
    decide
  exact (Prod.mk.inj (List.inj_on_of_nodup_map distinct first second rfl)).2

theorem Round.OnTime.completes_of_failed {e : StoreError} (lawful : r.OnTime past) (failed : (s, .failed e) ∈ r.report) :
    r.report.completes s = false := by
  unfold Report.completes
  rw [List.any_eq_false]
  rintro ⟨t, outcome⟩ member completed
  simp only [Bool.and_eq_true, beq_iff_eq] at completed
  obtain ⟨rfl, completed⟩ := completed
  rw [lawful.once member failed] at completed
  cases completed

-- What was tried in vain when it was due stays due.
theorem Round.OnTime.stays_due {before between : List Round} {q : Round} {e : StoreError} (lawful : r.OnTime before)
    (later : q.OnTime (before ++ r :: between)) (free : r.force = false) (failed : (s, .failed e) ∈ r.report)
    (vain : ∀ p ∈ between, p.report.completes s = false) (onward : r.reading ≤ q.reading)
    (cadence : (s.cadence q.config).nanos ≤ (s.cadence r.config).nanos) : (s, .notDue) ∉ q.report := by
  intro held
  cases forced : q.force with
  | true => exact later.forced forced s held
  | false =>
    obtain ⟨last, completed, short, within⟩ := (later.held forced s).1 held
    have same : lastCompleted s (before ++ r :: between) = lastCompleted s before := by
      refine lastCompleted_append fun p member => ?_
      rcases List.mem_cons.1 member with rfl | member
      · exact lawful.completes_of_failed failed
      · exact vain p member
    rw [same] at completed
    have waited : r.reading - last ≤ q.reading - last := Nat.sub_le_sub_right onward last
    have earlier : (s, .notDue) ∈ r.report := by
      refine (lawful.held free s).2 ⟨last, completed, ?_, Nat.lt_of_le_of_lt waited within⟩
      exact Nat.lt_of_le_of_lt (Nat.mul_le_mul_right _ waited) (Nat.lt_of_lt_of_le short cadence)
    cases lawful.once earlier failed

end

namespace Command

theorem upkeep_update [Quantity ν] (c : Command) (g : Gate ν) : (c.update g).upkeep = g.upkeep := by
  cases c with
  | reconfigure config =>
    obtain ⟨_, _, _, same⟩ := reconfigure_keeps config g
    rw [same]
  | acquire | clock => rfl
  | _ => exact (basis_update rfl g).upkeep

end Command

namespace Gate

theorem upkeep_screen [Quantity ν] (g : Gate ν) (client endpoint : String) (critical : Bool) :
    (g.screen client endpoint critical).2.upkeep = g.upkeep := by
  have told := g.screen_cases client endpoint critical
  generalize g.screen client endpoint critical = result at told
  cases told <;> rfl

end Gate

namespace World

variable [Quantity ν] {w u : World ν} {m : Move}

theorem Act.upkeep_kept (act : Act False w u) : u.gate.upkeep = w.gate.upkeep := by
  cases act with
  | deliver =>
    rw [gate_deliver w]
    rfl
  | upkeep _ under => cases under
  | _ => rfl

theorem Entered.upkeep {client endpoint : String} {critical : Bool} {answer : Except GateError Admission}
    (entered : Entered w client endpoint critical (answer, u)) : u.gate.upkeep = w.gate.upkeep := by
  rcases entered.basis with ⟨_, _, same⟩ | basis
  · rw [same]
  · rw [basis.upkeep, Gate.upkeep_screen]

theorem Moved.upkeep (moved : Moved w m u) (idle : ¬m.sweeps) : u.gate.upkeep = w.gate.upkeep := by
  cases moved with
  | @plain c same => exact c.upkeep_update w.gate
  | idle | weather => rfl
  | entered other enters entered => exact entered.upkeep
  | acted other enters acts =>
    rw [eq_false idle] at acts
    exact acts.keeps (I := fun v => v.gate.upkeep = w.gate.upkeep) (fun v v' act same => act.upkeep_kept.trans same) rfl
  | flushed other n =>
    change (deliverMany n w).gate.upkeep = _
    rw [gate_deliverMany]
    rfl

theorem upkeep_step (stays : m.isRestart = false) (idle : ¬m.sweeps) (w : World ν) : (w.step m).2.gate.upkeep = w.gate.upkeep := by
  cases own : m.isOwn with
  | true => exact (moved w own).upkeep idle
  | false =>
    cases m with
    | call c => rfl
    | restart b => cases stays
    | _ => cases own

-- What the books of maintenance say is what its reports have said.
structure Timed (past : List Round) (w : World ν) : Prop where
  running : w.gate.upkeep.running = false
  runs : w.gate.upkeep.runs = past.length
  last : ∀ s, w.gate.upkeep.lastSuccess s = lastCompleted s past
  onTime : ∀ before r after, past = before ++ r :: after → r.OnTime before

variable {past : List Round}

omit [Quantity ν] in
theorem Timed.onTime_round {force : Bool} {report : Report} (timed : Timed past w)
    (maintained : Maintained force w.gate.config w.gate.now w.gate.upkeep report u) :
    (Round.mk w.gate.now w.gate.config force report).OnTime past := by
  have held (s : Sweep) := maintained.decided.held s s.mem_all
  refine ⟨maintained.decided.order, fun forced s none => ?_, fun free s => ?_⟩
  · have unforced := ((held s).1 none).1
    cases forced.symm.trans unforced
  · have unforced : force = false := free
    rw [held s, and_iff_right unforced, Upkeep.isDue_eq_false, timed.last]
    simp only [Sweep.lt_cadence]

omit [Quantity ν] in
theorem Timed.round {r : Round} (timed : Timed past w) (lawful : r.OnTime past) (running : u.gate.upkeep.running = false)
    (runs : u.gate.upkeep.runs = w.gate.upkeep.runs + 1)
    (noted : ∀ s, u.gate.upkeep.lastSuccess s = if r.report.completes s then some r.reading else w.gate.upkeep.lastSuccess s) :
    Timed (past ++ [r]) u := by
  refine ⟨running, ?_, fun s => ?_, fun before q after split => ?_⟩
  · rw [runs, timed.runs, List.length_append, List.length_singleton]
  · rw [noted, lastCompleted_snoc, timed.last]
  · rcases List.eq_nil_or_concat after with rfl | ⟨rest, last, rfl⟩
    · obtain ⟨rfl, same⟩ := List.append_inj' split rfl
      cases same
      exact lawful
    · rw [List.concat_eq_append, ← List.cons_append, ← List.append_assoc] at split
      obtain ⟨earlier, -⟩ := List.append_inj' split rfl
      exact timed.onTime before q rest earlier

theorem Timed.step (timed : Timed past w) (stays : m.isRestart = false) :
    Timed (past ++ (Visit.round? ⟨w, m⟩).toList) (w.step m).2 := by
  by_cases sweeps : m.sweeps
  · obtain ⟨force, meanwhile, rfl⟩ := Move.of_sweeps sweeps
    obtain ⟨report, answered, maintained⟩ := step_maintain_report timed.running force meanwhile
    rw [Visit.round_of_report answered]
    exact timed.round (timed.onTime_round maintained) maintained.running maintained.runs maintained.noted
  · rw [Visit.round_of_idle sweeps, Option.toList_none, List.append_nil]
    have same := upkeep_step stays sweeps w
    exact ⟨same ▸ timed.running, same ▸ timed.runs, fun s => same ▸ timed.last s, timed.onTime⟩

omit [Quantity ν] in
theorem timed_start (fresh : w.gate.upkeep = .start) : Timed [] w := by
  refine ⟨?_, ?_, fun s => ?_, fun before r after split => ?_⟩
  · rw [fresh]
    rfl
  · rw [fresh]
    rfl
  · rw [fresh]
    cases s <;> rfl
  · cases before <;> cases split

theorem timed_run (fresh : w.gate.upkeep = .start) (moves : List Move) (stays : ∀ v ∈ w.visits moves, v.move.isRestart = false) :
    Timed (rounds (w.visits moves)) (w.run moves) := by
  refine run_keeps (I := fun past u => Timed (rounds past) u) (timed_start fresh) ?_ moves stays
  intro past u m timed stays
  rw [rounds_snoc]
  exact timed.step stays

theorem upkeep_built {b : Blueprint} {start : Nat} {backend : Backend} {sink : Sink} (made : World.build b start backend sink = .ok w) :
    w.gate.upkeep = .start := by
  obtain ⟨_, policy, _, rfl⟩ := fresh_of_build made
  rfl

-- Every run ends with a report and is counted, and what it holds back is told by the completions before it alone.
theorem sweeps_keep_cadence {b : Blueprint} {start : Nat} {backend : Backend} {sink : Sink}
    (made : World.build b start backend sink = .ok w) (moves : List Move) (stays : ∀ m ∈ moves, m.isRestart = false) :
    let past := rounds (w.visits moves)
    (w.run moves).gate.upkeep.runs = past.length ∧
      (∀ v ∈ w.visits moves, v.move.sweeps → v.round? ≠ none) ∧
      (∀ before r after, past = before ++ r :: after → r.OnTime before) ∧
      ∀ before r between q after s e, past = before ++ r :: (between ++ q :: after) → r.force = false →
        (s, .failed e) ∈ r.report → (∀ p ∈ between, p.report.completes s = false) → r.reading ≤ q.reading →
        (s.cadence q.config).nanos ≤ (s.cadence r.config).nanos → (s, .notDue) ∉ q.report := by
  have fresh := upkeep_built made
  have staying : ∀ v ∈ w.visits moves, v.move.isRestart = false := by
    intro v member
    apply stays
    rw [← map_move_visits w moves]
    exact List.mem_map_of_mem member
  have timed := timed_run fresh moves staying
  refine ⟨timed.runs, fun v member sweeps => ?_, timed.onTime, ?_⟩
  · have reached := visits_keep (I := fun u => ∃ past, Timed past u) ⟨[], timed_start fresh⟩
      (fun u ⟨past, timed⟩ stays => ⟨_, timed.step stays⟩) moves staying v member
    obtain ⟨⟨past, timed⟩, -⟩ := reached
    obtain ⟨world, move⟩ := v
    obtain ⟨force, meanwhile, rfl⟩ := Move.of_sweeps sweeps
    obtain ⟨report, answered, -⟩ := step_maintain_report timed.running force meanwhile
    rw [Visit.round_of_report answered]
    exact nofun
  · intro before r between q after s e split free failed vain onward cadence
    have earlier := timed.onTime before r _ split
    have later := timed.onTime (before ++ r :: between) q after (by simpa using split)
    exact earlier.stays_due later free failed vain onward cadence

omit [Quantity ν] in
theorem rounds_pair {α : Type} {f : Round → α} {all : List Round} {x y : α} (seen : all.map f = [x, y]) :
    ∃ first second, all = [first, second] ∧ f first = x ∧ f second = y := by
  obtain ⟨first, rest, rfl, one, later⟩ := List.map_eq_cons_iff.1 seen
  obtain ⟨second, none, rfl, two, nothing⟩ := List.map_eq_cons_iff.1 later
  cases List.map_eq_nil_iff.1 nothing
  exact ⟨first, second, rfl, one, two⟩

-- The store is out of reach at first: what it was needed for stays due, the rest waits for its cadence.
def repaired : List Move :=
  [.reach false, .command (.maintain false) [], .reach true, .command (.clock 1000) [], .command (.maintain false) []]

theorem outage_keeps_cadence : (strict.run repaired).gate.upkeep.runs = 2 ∧
    ∃ first second, rounds (strict.visits repaired) = [first, second] ∧ second.OnTime [first] ∧
      (.bucketEvict, .notDue) ∈ second.report ∧ (.banExpiry, .notDue) ∉ second.report := by
  have seen : (rounds (strict.visits repaired)).map (fun r => (r.reading, (Sweep.banExpiry.cadence r.config).nanos, r.force,
      r.report.contains (.banExpiry, .failed (.unavailable "in-memory store switched off")),
      r.report.contains (.bucketEvict, .notDue))) =
      [(0, 30000000000, false, true, false), (1000, 30000000000, false, false, true)] := by
    decide +kernel
  obtain ⟨first, second, both, before, after⟩ := rounds_pair seen
  simp only [Prod.mk.injEq] at before after
  obtain ⟨began, cadence, free, failed, -⟩ := before
  obtain ⟨ended, same, -, -, held⟩ := after
  obtain ⟨runs, -, lawful, due⟩ := sweeps_keep_cadence build_strict repaired (by decide)
  rw [both] at runs lawful due
  refine ⟨runs, first, second, both, lawful [first] second [] rfl, List.contains_iff_mem.1 held, ?_⟩
  exact due [] first [] second [] .banExpiry _ rfl free (List.contains_iff_mem.1 failed) nofun (by omega) (by omega)

-- The longest cadence that can be configured is longer than the clock's range, and over once the clock has gone through that.
def patient : World Rat :=
  fresh ⟨{ Config.standard with banSweepSecs := wordMax }, some .strict, none⟩ .strict 0 .memory (.ofMedium .log)

def wholeRange : List Move :=
  [.command (.maintain false) [], .command (.clock wordMax) [], .command (.maintain false) []]

theorem whole_range_is_due :
    World.build ⟨{ Config.standard with banSweepSecs := wordMax }, some .strict, none⟩ 0 .memory (.ofMedium .log) = .ok patient ∧
      ∃ first second, rounds (patient.visits wholeRange) = [first, second] ∧ second.force = false ∧
        ¬((.banExpiry, .notDue) ∈ second.report ↔ ∃ last, lastCompleted .banExpiry [first] = some last ∧
          (Duration.ofMillis (second.reading - last)).nanos < (Sweep.banExpiry.cadence second.config).nanos) := by
  refine ⟨build_fresh ⟨by decide +kernel, by decide +kernel⟩ rfl 0 .memory (.ofMedium .log), ?_⟩
  have seen : (rounds (patient.visits wholeRange)).map (fun r =>
      (r.reading, (Sweep.banExpiry.cadence r.config).nanos, r.force, r.report.completes .banExpiry, r.report.contains (.banExpiry, .notDue))) =
      [(0, wordMax * 1000000000, false, true, false), (wordMax, wordMax * 1000000000, false, true, false)] := by
    decide +kernel
  obtain ⟨first, second, both, before, after⟩ := rounds_pair seen
  simp only [Prod.mk.injEq] at before after
  obtain ⟨began, -, -, completed, -⟩ := before
  obtain ⟨ended, cadence, free, -, held⟩ := after
  refine ⟨first, second, both, free, fun law => ?_⟩
  have last : lastCompleted .banExpiry [first] = some 0 := by simp [lastCompleted, completed, began]
  have short : (Duration.ofMillis (second.reading - 0)).nanos < (Sweep.banExpiry.cadence second.config).nanos := by
    rw [ended, cadence]
    decide
  have none := law.2 ⟨0, last, short⟩
  rw [← List.contains_iff_mem, held] at none
  cases none

end World

end Turnstile
