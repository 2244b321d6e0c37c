import Turnstile.Proofs.World.Upkeep
import Turnstile.Session.Prompt
-- Over a store that answers at once nobody waits, so that a run of maintenance is over within the turn in which it begins.
namespace Turnstile

namespace Backend

theorem latency_finish (b : Backend) (c : Call) (limit : Option Duration) : (b.finish c limit).2.latency = b.latency := by
  unfold finish
  split
  · rfl
  · exact latency_serve b c

end Backend

namespace World

variable {ν : Type} {w : World ν} {c : Config} {now runs : Nat} {running : Bool}

-- Nothing is queued and the store answers at once; so many runs of maintenance are over, and another may be under way.
structure Prompt (c : Config) (now runs : Nat) (running : Bool) (w : World ν) : Prop where
  latency : w.backend.latency = 0
  queued : w.pending = []
  config : w.gate.config = c
  clock : w.gate.now = now
  runs : w.gate.upkeep.runs = runs
  running : w.gate.upkeep.running = running

theorem Prompt.ran {α : Type} {r : Routine (Gate ν) α} {runs' : Nat} (prompt : Prompt c now runs running w)
    (leads : Leads (Prompt c now runs running) r (fun _ => Prompt c now runs' false)) :
    Prompt c now runs' false { w with gate := (r.run w.gate w.backend).2.1, backend := (r.run w.gate w.backend).2.2 } := by
  have reached := leads [] w prompt
  rw [perform_nil] at reached
  exact reached

variable [Quantity ν]

theorem prompt_works : Works c now (Prompt (ν := ν) c now runs running) where
  arrive w prompt := ⟨(Backend.latency_arrive _).trans prompt.latency, prompt.queued, prompt.config, prompt.clock, prompt.runs,
    prompt.running⟩
  deliver w prompt := by
    rw [deliver_of_nil prompt.queued]
    exact prompt
  clock w prompt := prompt.clock
  config w prompt := prompt.config
  reload w rows backend answered prompt := ⟨prompt.latency, prompt.queued, prompt.config, prompt.clock, prompt.runs, prompt.running⟩
  expire w prompt := ⟨prompt.latency, prompt.queued, prompt.config, prompt.clock, prompt.runs, prompt.running⟩
  releaseExpired w released backend answered prompt := by
    have latency := Backend.latency_finish w.backend (.releaseExpired now) none
    rw [answered] at latency
    exact ⟨latency.trans prompt.latency, prompt.queued, prompt.config, prompt.clock, prompt.runs, prompt.running⟩
  prune w prompt := ⟨prompt.latency, prompt.queued, prompt.config, prompt.clock, prompt.runs, prompt.running⟩
  evict w prompt := ⟨prompt.latency, prompt.queued, prompt.config, prompt.clock, prompt.runs, prompt.running⟩
  archive w prompt := ⟨(Backend.latency_finish ..).trans prompt.latency, prompt.queued, prompt.config, prompt.clock, prompt.runs,
    prompt.running⟩
  purgeAttempts w cutoff prompt := ⟨(Backend.latency_finish ..).trans prompt.latency, prompt.queued, prompt.config, prompt.clock,
    prompt.runs, prompt.running⟩
  purgeBans w cutoff prompt := ⟨(Backend.latency_finish ..).trans prompt.latency, prompt.queued, prompt.config, prompt.clock,
    prompt.runs, prompt.running⟩
  succeed w s prompt := by
    cases s <;> exact ⟨prompt.latency, prompt.queued, prompt.config, prompt.clock, prompt.runs, prompt.running⟩

theorem prompt_maintain (force : Bool) : Leads (Prompt (ν := ν) c now runs false) (Gate.maintain force)
    (fun _ => Prompt c now (runs + 1) false) := by
  unfold Gate.maintain
  refine .read fun v prompt => ?_
  rw [prompt.running]
  refine .bind (.change (Q := fun _ => Prompt c now runs true) fun w before =>
    ⟨before.latency, before.queued, before.config, before.clock, before.runs, rfl⟩) fun _ => ?_
  refine (prompt_works.sweeps force Sweep.all).bind fun report => ?_
  refine .bind (.change (Q := fun _ => Prompt c now (runs + 1) false) fun w before =>
    ⟨before.latency, before.queued, before.config, before.clock, congrArg (· + 1) before.runs, rfl⟩) fun _ => ?_
  exact .pure _ fun _ so => so

end World

namespace Ticker

variable {t : Ticker} {time : Nat}

-- One turn of the ticker, if a run takes no time: how often maintenance runs, and the loop afterwards.
def turn (t : Ticker) (time : Nat) : Nat × Ticker :=
  match t.poll time with
  | (true, t) => (1, t.afterRun)
  | (false, t) => (0, t)

-- A period that is not within the tolerance for runs that are late.
def Paced (t : Ticker) : Prop := ∀ l, t.loop = some l → tolerance < l.period

theorem lt_dueAfter {period : Nat} (paced : tolerance < period) (due time : Nat) : time < dueAfter period due time := by
  have rest := Nat.mod_lt (time - due) (Nat.lt_of_le_of_lt (Nat.zero_le _) paced)
  unfold dueAfter
  split <;> omega

-- A loop that lives runs when it is due, and ends with that run if the flag is raised.
theorem turn_live (stopped : Bool) (period : Nat) (due : Option Nat) (time : Nat) :
    turn ⟨stopped, some ⟨period, due, false, false⟩⟩ time =
      if due.getD time ≤ time then (1, ⟨stopped, some ⟨period, some (dueAfter period (due.getD time) time), false, stopped⟩⟩)
      else (0, ⟨stopped, some ⟨period, due, false, false⟩⟩) := by
  have polled : poll ⟨stopped, some ⟨period, due, false, false⟩⟩ time =
      if due.getD time ≤ time then (true, ⟨stopped, some ⟨period, some (dueAfter period (due.getD time) time), false, false⟩⟩)
      else (false, ⟨stopped, some ⟨period, due, false, false⟩⟩) := rfl
  unfold turn
  rw [polled]
  by_cases reached : due.getD time ≤ time
  · rw [if_pos reached, if_pos reached]
    cases stopped <;> rfl
  · rw [if_neg reached, if_neg reached]

theorem Paced.turn (paced : t.Paced) : (t.turn time).2.Paced := by
  obtain ⟨stopped, loop⟩ := t
  cases loop with
  | none => exact paced
  | some l =>
    obtain ⟨period, due, told, ended⟩ := l
    have same {u : TickLoop} (own : u.period = period) {stopped : Bool} : Paced ⟨stopped, some u⟩ := by
      rintro v ⟨⟩
      exact own ▸ paced _ rfl
    cases ended with
    | true => exact paced
    | false =>
      cases told with
      | true => exact same rfl
      | false =>
        rw [turn_live]
        split <;> exact same rfl

theorem poll_turn (paced : t.Paced) (time : Nat) : (t.turn time).2.poll time = (false, (t.turn time).2) := by
  obtain ⟨stopped, loop⟩ := t
  cases loop with
  | none => rfl
  | some l =>
    obtain ⟨period, due, told, ended⟩ := l
    cases ended with
    | true => rfl
    | false =>
      cases told with
      | true => rfl
      | false =>
        have later := lt_dueAfter (paced _ rfl) (due.getD time) time
        rw [turn_live]
        split
        · cases stopped with
          | true => rfl
          | false => exact if_neg (Nat.not_le_of_lt later)
        · rename_i early
          exact if_neg early

end Ticker

namespace Session

variable {ν α : Type} {s : Session ν} {c : Config} {now time runs : Nat} {t : Ticker} {called : Bool}

-- Nobody waits; so it stands with the ticker, whose turn comes if it was called.
structure Posed (c : Config) (now time runs : Nat) (t : Ticker) (called : Bool) (s : Session ν) : Prop where
  prompt : s.toWorld.Prompt c now runs false
  time : s.time = time
  writing : s.writing = none
  sweeping : s.sweeping = none
  ticker : s.ticker = t
  called : s.ready.contains .ticker = called

theorem proceed_of_prompt (r : Routine (Gate ν) α) (s : Session ν) (prompt : s.backend.latency = 0) :
    proceed r s = (.finished (r.run s.gate s.backend).1,
      { s with gate := (r.run s.gate s.backend).2.1, backend := (r.run s.gate s.backend).2.2 }) := by
  induction r generalizing s with
  | done a => rfl
  | get next ih => exact ih s.gate s prompt
  | put g next ih => exact ih { s with gate := g } prompt
  | ask c limit next ih =>
    have later := (Backend.latency_arrive s.backend).trans prompt
    rw [proceed, Routine.run, Backend.call_of_prompt prompt]
    revert later
    obtain ⟨fault, b⟩ := s.backend.arrive
    intro later
    cases fault with
    | some e => exact ih _ { s with backend := b } later
    | none =>
      have served := (Backend.latency_serve b c).trans later
      simp only [Backend.patience_of_prompt later, if_true, finishCall]
      exact ih _ { s with backend := (b.serve c).2 } served

theorem wait_idle [Quantity ν] {busy : Session ν → Bool} (deadline : Nat) (idle : busy s.settle = false) :
    s.wait busy deadline = s.settle := by
  rw [wait, idle]
  rfl

namespace Posed

theorem call_other (posed : Posed c now time runs t called s) {h : Hand} (other : h ≠ .ticker) :
    Posed c now time runs t called (s.call h) := by
  unfold call
  split
  · exact posed
  · refine ⟨posed.prompt, posed.time, posed.writing, posed.sweeping, posed.ticker, ?_⟩
    show (s.ready ++ [h]).contains .ticker = called
    rw [← posed.called, List.contains_append]
    cases h with
    | ticker => exact absurd rfl other
    | writer => exact Bool.or_false _
    | auditor => exact Bool.or_false _

theorem call_ticker (posed : Posed c now time runs t called s) : Posed c now time runs t true (s.call .ticker) := by
  unfold call
  split
  · rename_i there
    exact ⟨posed.prompt, posed.time, posed.writing, posed.sweeping, posed.ticker, there⟩
  · refine ⟨posed.prompt, posed.time, posed.writing, posed.sweeping, posed.ticker, ?_⟩
    show (s.ready ++ [Hand.ticker]).contains .ticker = true
    rw [List.contains_append]
    exact Bool.or_true _

theorem either {p : Prop} [Decidable p] {s' : Session ν} (posed : Posed c now time runs t called s)
    (other : Posed c now time runs t called s') : Posed c now time runs t called (if p then s else s') := by
  split
  · exact posed
  · exact other

theorem noticed (posed : Posed c now time runs t called s) : Posed c now time runs t called s.notice := by
  have written : Posed c now time runs t called (if s.pendingWrites.isEmpty || s.writing.isSome then s else s.call .writer) :=
    posed.either (posed.call_other nofun)
  exact written.either (written.call_other nofun)

theorem audited (posed : Posed c now time runs t called s) : Posed c now time runs t called s.runAuditor :=
  ⟨⟨posed.prompt.latency, posed.prompt.queued, posed.prompt.config, posed.prompt.clock, posed.prompt.runs, posed.prompt.running⟩,
    posed.time, posed.writing, posed.sweeping, posed.ticker, posed.called⟩

theorem ticks (posed : Posed c now time runs t called s) (u : Ticker) : Posed c now time runs u called { s with ticker := u } :=
  ⟨posed.prompt, posed.time, posed.writing, posed.sweeping, rfl, posed.called⟩

theorem timed (posed : Posed c now time runs t false s) (later : Nat) :
    Posed c now later runs t (t.wake?.any (· ≤ later)) (s.setTime later) := by
  have moved : Posed c now later runs t false { s with time := later } :=
    ⟨posed.prompt, rfl, posed.writing, posed.sweeping, posed.ticker, posed.called⟩
  have turned : s.setTime later = if t.wake?.any (· ≤ later) then ({ s with time := later } : Session ν).call .ticker else
      { s with time := later } := by
    obtain ⟨w, before, ready, writing, sweeping, ticker⟩ := s
    obtain rfl : writing = none := posed.writing
    obtain rfl : sweeping = none := posed.sweeping
    obtain rfl : ticker = t := posed.ticker
    unfold setTime tickerWake?
    simp only [Option.map_none, Bool.false_eq_true, if_false]
    cases ticker.wake? <;> rfl
  rw [turned]
  cases due : t.wake?.any (· ≤ later) with
  | true => exact moved.call_ticker
  | false => exact moved

variable [Quantity ν]

theorem handed (posed : Posed c now time runs t called s) {h : Hand} (other : h ≠ .ticker) :
    Posed c now time runs t called (s.runHand h) := by
  cases h with
  | writer =>
    have empty : s.pendingWrites = [] := posed.prompt.queued
    unfold runHand runWriter
    rw [posed.writing, empty]
    exact posed
  | auditor => exact posed.audited
  | ticker => exact absurd rfl other

theorem ticked (posed : Posed c now time runs t called s) (paced : t.Paced) :
    Posed c now time (runs + (t.turn time).1) (t.turn time).2 called s.runTicker := by
  obtain rfl := posed.ticker
  obtain rfl := posed.time
  have quiet := Ticker.poll_turn paced s.time
  unfold runTicker
  rw [posed.sweeping]
  dsimp only
  rw [tick]
  unfold Ticker.turn at quiet ⊢
  cases polled : s.ticker.poll s.time with
  | mk due u =>
    rw [polled] at quiet
    cases due with
    | false => exact posed.ticks u
    | true =>
      have ticking := posed.ticks u
      have ran := ticking.prompt.ran (World.prompt_maintain false)
      dsimp only at quiet ⊢
      rw [if_pos rfl, proceed_of_prompt _ _ ticking.prompt.latency]
      dsimp only
      rw [tick]
      dsimp only
      rw [quiet]
      exact ⟨ran, rfl, posed.writing, posed.sweeping, rfl, posed.called⟩

theorem worked_quiet (posed : Posed c now time runs t called s) (paced : t.Paced) (quiet : t.poll time = (false, t))
    (hands : List Hand) : Posed c now time runs t called (hands.foldl runHand s) := by
  induction hands generalizing s with
  | nil => exact posed
  | cons h rest ih =>
    refine ih (s := s.runHand h) ?_
    by_cases own : h = .ticker
    · have turned : t.turn time = (0, t) := by
        unfold Ticker.turn
        rw [quiet]
      have ticked := posed.ticked paced
      rw [turned] at ticked
      exact own ▸ ticked
    · exact posed.handed own

theorem worked (posed : Posed c now time runs t called s) (paced : t.Paced) {hands : List Hand} (there : .ticker ∈ hands) :
    Posed c now time (runs + (t.turn time).1) (t.turn time).2 called (hands.foldl runHand s) := by
  induction hands generalizing s with
  | nil => cases there
  | cons h rest ih =>
    by_cases own : h = .ticker
    · subst own
      exact (posed.ticked paced).worked_quiet paced.turn (t.poll_turn paced time) rest
    · exact ih (posed.handed own) (List.mem_of_ne_of_mem (Ne.symm own) there)

omit [Quantity ν] in
theorem taken (posed : Posed c now time runs t called s) : Posed c now time runs t false { s with ready := [] } :=
  ⟨posed.prompt, posed.time, posed.writing, posed.sweeping, posed.ticker, rfl⟩

theorem settle_quiet (posed : Posed c now time runs t called s) (paced : t.Paced) (quiet : t.poll time = (false, t)) :
    Posed c now time runs t false s.settle :=
  (posed.noticed.taken.worked_quiet paced quiet _).audited

theorem settle (posed : Posed c now time runs t true s) (paced : t.Paced) :
    Posed c now time (runs + (t.turn time).1) (t.turn time).2 false s.settle :=
  (posed.noticed.taken.worked paced (List.contains_iff_mem.1 posed.noticed.called)).audited

-- No write is ever queued, so that nobody waits for the queues.
theorem flush_of_settle (posed : Posed c now time runs t called s.settle) : s.flush = s.settle.settle := by
  have idle : s.settle.isWriting = false := by
    have empty : s.settle.pendingWrites = [] := posed.prompt.queued
    unfold isWriting
    rw [posed.writing, empty]
    rfl
  unfold flush
  rw [wait_idle _ idle]

theorem flushed_quiet (posed : Posed c now time runs t called s) (paced : t.Paced) (quiet : t.poll time = (false, t)) :
    Posed c now time runs t false s.flush := by
  have settled := posed.settle_quiet paced quiet
  rw [flush_of_settle settled]
  exact settled.settle_quiet paced quiet

theorem flushed (posed : Posed c now time runs t true s) (paced : t.Paced) :
    Posed c now time (runs + (t.turn time).1) (t.turn time).2 false s.flush := by
  have settled := posed.settle paced
  rw [flush_of_settle settled]
  exact settled.settle_quiet paced.turn (t.poll_turn paced time)

end Posed

end Session

end Turnstile
