import Mathlib.Algebra.GroupWithZero.Nat
import Turnstile.Proofs.Session.Turns
import Turnstile.Proofs.World.History
namespace Turnstile

namespace Session

variable {ν : Type} {s : Session ν} {c : Config} {now time runs : Nat} {t : Ticker} {called : Bool}

inductive Control where
  | start
  | stop
  | pass (millis : Nat)
deriving DecidableEq

-- After each of them the hands have their turns.
def operate [Quantity ν] (s : Session ν) : Control → Session ν
  | .start => s.start.flush
  | .stop => s.shutdown.flush
  | .pass millis => (s.pass millis).flush

-- The spells from a start to the next stop: how long those lasted that are over, and how long the current one has lasted.
structure Spells where
  past : List Nat
  current : Option Nat

namespace Spells

def next (p : Spells) : Control → Spells
  | .start => { p with current := some (p.current.getD 0) }
  | .stop => ⟨p.past ++ p.current.toList, none⟩
  | .pass millis => { p with current := p.current.map (· + millis) }

def all (p : Spells) : List Nat := p.past ++ p.current.toList

end Spells

def spells (controls : List Control) : List Nat := (controls.foldl Spells.next ⟨[], none⟩).all

-- How often maintenance runs: in the first spell at once and with every period, and in each later one once.
def runsOf (period : Nat) : List Nat → Nat
  | [] => 0
  | first :: later => 1 + first / period + later.length

theorem runsOf_snoc {period : Nat} {past : List Nat} (some : past ≠ []) (length : Nat) :
    runsOf period (past ++ [length]) = runsOf period past + 1 := by
  cases past with
  | nil => exact absurd rfl some
  | cons first later =>
    show 1 + first / period + (later ++ [length]).length = _
    rw [List.length_append]
    rfl

namespace Posed

variable [Quantity ν]

theorem restored (posed : Posed c now time runs t called s) : Posed c now time runs t called (s.command .restore).2 := by
  have ran := posed.prompt.ran (r := Command.routine .restore) (World.prompt_works.restore.map fun _ _ so => so)
  unfold command
  rw [perform_of_prompt _ _ posed.prompt.latency]
  exact noticed ⟨ran, posed.time, posed.writing, posed.sweeping, posed.ticker, posed.called⟩

theorem started {stopped : Bool} (posed : Posed c now time runs ⟨stopped, none⟩ called s) :
    Posed c now time runs ⟨stopped, some ⟨c.cleanupInterval.millisUp, none, false, false⟩⟩ true s.start := by
  have restored := posed.restored
  unfold start
  dsimp only
  rw [restored.ticker, restored.prompt.config]
  exact (restored.ticks _).call_ticker

theorem started_again {stopped : Bool} {l : TickLoop} (posed : Posed c now time runs ⟨stopped, some l⟩ called s) :
    Posed c now time runs ⟨stopped, some l⟩ called s.start := by
  have restored := posed.restored
  unfold start
  dsimp only
  rw [restored.ticker]
  exact restored.ticks _

theorem stopped_idle (posed : Posed c now time runs t called s) (dead : t.isLive = false) :
    Posed c now time runs t.forget false s.shutdown := by
  unfold shutdown
  rw [posed.ticker, dead]
  dsimp only
  rw [if_neg Bool.false_ne_true, posed.ticker]
  exact (posed.ticks t.forget).flushed_quiet nofun rfl

theorem stopped_live {stopped : Bool} {period due : Nat}
    (posed : Posed c now time runs ⟨stopped, some ⟨period, some due, false, false⟩⟩ called s) (paced : Ticker.tolerance < period) :
    Posed c now time runs ⟨true, none⟩ false s.shutdown := by
  obtain ⟨u, told⟩ : ∃ u, u = ({ s with ticker := s.ticker.tell } : Session ν).call .ticker := ⟨_, rfl⟩
  have live : s.ticker.isLive = true := by
    rw [posed.ticker]
    rfl
  have free : s.sweeping.isSome = false := by
    rw [posed.sweeping]
    rfl
  have halted : s.shutdown = ({ u.wait (·.ticker.isLive) u.sweptBy with
      ticker := (u.wait (·.ticker.isLive) u.sweptBy).ticker.forget } : Session ν).flush := by
    unfold shutdown
    simp only [live, free, if_true, Bool.false_eq_true, if_false]
    rw [told]
  have called : Posed c now time runs ⟨true, some ⟨period, some due, true, false⟩⟩ true u := by
    rw [told, posed.ticker]
    exact (posed.ticks _).call_ticker
  have ended : Posed c now time runs ⟨true, some ⟨period, some due, true, true⟩⟩ false u.settle :=
    called.settle (by rintro l ⟨⟩; exact paced)
  have idle : u.settle.ticker.isLive = false := by
    rw [ended.ticker]
    rfl
  rw [halted, wait_idle _ idle, ended.ticker]
  exact (ended.ticks _).flushed_quiet nofun rfl

theorem waited {deadline : Nat} {busy : Session ν → Bool} (posed : Posed c now time runs t called s)
    (always : ∀ s, busy s = true) (early : time ≤ deadline) (paced : t.Paced) (quiet : ∀ time, t.poll time = (false, t))
    (asleep : t.wake? = none) : Posed c now deadline runs t false (s.wait busy deadline) := by
  fun_induction wait busy deadline s generalizing time called with
  | case1 s settled more wake =>
    rename_i sooner ih
    have after := (posed.settle_quiet paced (quiet time)).timed wake
    rw [asleep] at after
    exact ih after (Nat.le_of_lt sooner)
  | case2 s settled more =>
    have after := (posed.settle_quiet paced (quiet time)).timed deadline
    rw [asleep] at after
    exact after
  | case3 s settled =>
    rename_i finished
    have reached : time = deadline := by
      rw [always, Bool.true_and, decide_eq_true_iff, posed.time] at finished
      omega
    exact reached ▸ posed.settle_quiet paced (quiet time)

theorem passed (posed : Posed c now time runs t false s) (millis : Nat) (paced : t.Paced)
    (quiet : ∀ time, t.poll time = (false, t)) (asleep : t.wake? = none) :
    Posed c now (time + millis) runs t false (s.pass millis).flush := by
  have after : Posed c now (time + millis) runs t false (s.pass millis) := by
    unfold pass
    split
    · rename_i none
      exact none ▸ posed
    · rw [posed.time]
      exact posed.waited (fun _ => rfl) (Nat.le_add_right ..) paced quiet asleep
  exact after.flushed_quiet paced (quiet _)

end Posed

-- A loop that ran for the first time at some time, and then with every period; `k` runs so far.
structure Grid (c : Config) (now period since time k : Nat) (s : Session ν) : Prop where
  posed : Posed c now time k ⟨false, some ⟨period, some (since + k * period), false, false⟩⟩
    (decide (since + k * period ≤ time)) s
  reached : since + k * period ≤ time + period
  ahead : time ≤ since + k * period

namespace Grid

variable [Quantity ν] {period since deadline k : Nat}

omit [Quantity ν] in
theorem runs_eq (grid : Grid c now period since time k s) (begun : since ≤ time) (next : time < since + k * period) :
    k = 1 + (time - since) / period := by
  have reached := grid.reached
  cases k with
  | zero => omega
  | succ k =>
    rw [Nat.add_mul, Nat.one_mul] at next reached
    have count : (time - since) / period = k := by
      refine Nat.div_eq_of_lt_le ?_ ?_
      · omega
      · rw [Nat.add_mul, Nat.one_mul]
        omega
    omega

theorem settle (grid : Grid c now period since time k s) (paced : Ticker.tolerance < period) :
    ∃ k', Grid c now period since time k' s.settle ∧ time < since + k' * period := by
  have pace : Ticker.Paced ⟨false, some ⟨period, some (since + k * period), false, false⟩⟩ := by
    rintro l ⟨⟩
    exact paced
  have posed := grid.posed
  by_cases due : since + k * period ≤ time
  · rw [decide_eq_true due] at posed
    have same : time = since + k * period := Nat.le_antisymm grid.ahead due
    have ticked := posed.settle pace
    have after : Ticker.dueAfter period (since + k * period) time = since + (k + 1) * period := by
      unfold Ticker.dueAfter
      rw [if_neg (by omega), Nat.add_mul, Nat.one_mul, Nat.add_assoc]
    have next : time < since + (k + 1) * period := by
      rw [Nat.add_mul, Nat.one_mul]
      omega
    rw [Ticker.turn_live, Option.getD_some, if_pos due] at ticked
    change Posed c now time (k + 1) ⟨false, some ⟨period, some (Ticker.dueAfter period (since + k * period) time), false, false⟩⟩
      false s.settle at ticked
    rw [after] at ticked
    refine ⟨k + 1, ⟨?_, ?_, Nat.le_of_lt next⟩, next⟩
    · rw [decide_eq_false (Nat.not_le_of_lt next)]
      exact ticked
    · rw [Nat.add_mul, Nat.one_mul]
      omega
  · have next := Nat.lt_of_not_le due
    refine ⟨k, ⟨?_, grid.reached, grid.ahead⟩, next⟩
    rw [decide_eq_false due]
    exact posed.settle_quiet pace (if_neg due)

-- Waiting leads from one due run to the next.
theorem waited {busy : Session ν → Bool} (grid : Grid c now period since time k s) (paced : Ticker.tolerance < period)
    (always : ∀ s, busy s = true) (early : time ≤ deadline) :
    ∃ k', Grid c now period since deadline k' (s.wait busy deadline) := by
  have timed {s : Session ν} {time k later : Nat} (grid : Grid c now period since time k s) (next : time < since + k * period)
      (forward : time ≤ later) (ahead : later ≤ since + k * period) : Grid c now period since later k (s.setTime later) := by
    have posed := grid.posed
    rw [decide_eq_false (Nat.not_le_of_lt next)] at posed
    have reached := grid.reached
    exact ⟨posed.timed later, by omega, ahead⟩
  have due {s : Session ν} {time k k' : Nat} (after : Grid c now period since time k' s.settle) (next : time < since + k' * period)
      (before : Grid c now period since time k s) :
      max (s.settle.nextWake?.getD deadline) (s.time + 1) = since + k' * period := by
    have asked : s.settle.nextWake? = some (since + k' * period) := by
      unfold nextWake? tickerWake?
      rw [after.posed.writing, after.posed.sweeping, after.posed.ticker]
      rfl
    rw [asked, before.posed.time, Option.getD_some]
    omega
  fun_induction wait busy deadline s generalizing time k with
  | case1 s settled more wake =>
    rename_i sooner ih
    obtain ⟨k', after, next⟩ := grid.settle paced
    have known : wake = since + k' * period := due after next grid
    rw [known] at sooner ih ⊢
    exact ih (timed after next (Nat.le_of_lt next) (Nat.le_refl _)) (Nat.le_of_lt sooner)
  | case2 s settled more =>
    rename_i wake last
    obtain ⟨k', after, next⟩ := grid.settle paced
    have known : wake = since + k' * period := due after next grid
    rw [known] at last
    exact ⟨k', timed after next early (Nat.le_of_not_lt last)⟩
  | case3 s settled =>
    rename_i finished
    obtain ⟨k', after, next⟩ := grid.settle paced
    have reached : time = deadline := by
      rw [always, Bool.true_and, decide_eq_true_iff, grid.posed.time] at finished
      omega
    exact ⟨k', reached ▸ after⟩

theorem flushed (grid : Grid c now period since time k s) (paced : Ticker.tolerance < period) :
    ∃ k', Grid c now period since time k' s.flush ∧ time < since + k' * period := by
  obtain ⟨k', after, _⟩ := grid.settle paced
  rw [Posed.flush_of_settle after.posed]
  exact after.settle paced

theorem passed (grid : Grid c now period since time k s) (paced : Ticker.tolerance < period) (millis : Nat) :
    ∃ k', Grid c now period since (time + millis) k' (s.pass millis).flush ∧ time + millis < since + k' * period := by
  obtain ⟨k', after⟩ : ∃ k', Grid c now period since (time + millis) k' (s.pass millis) := by
    unfold pass
    split
    · rename_i none
      exact ⟨k, none ▸ grid⟩
    · rw [grid.posed.time]
      exact grid.waited paced (fun _ => rfl) (Nat.le_add_right ..)
  exact after.flushed paced

end Grid

-- Where the spells so far have led to. The flag is raised by the end of the first of them.
inductive Stage (c : Config) (now period : Nat) : Spells → Session ν → Prop where
  | down {past : List Nat} {s : Session ν} {time : Nat}
      (posed : Posed c now time (runsOf period past) ⟨!past.isEmpty, none⟩ false s) : Stage c now period ⟨past, none⟩ s
  | first {length since k : Nat} {s : Session ν} (grid : Grid c now period since (since + length) k s)
      (next : since + length < since + k * period) : Stage c now period ⟨[], some length⟩ s
  | later {first : Nat} {rest : List Nat} {length time due : Nat} {s : Session ν}
      (posed : Posed c now time (runsOf period (first :: rest) + 1) ⟨true, some ⟨period, some due, false, true⟩⟩ false s) :
      Stage c now period ⟨first :: rest, some length⟩ s

namespace Stage

variable {p : Spells} {period : Nat}

theorem runs_eq (stage : Stage c now period p s) : s.gate.upkeep.runs = runsOf period p.all := by
  cases stage with
  | @down past _ _ posed =>
    unfold Spells.all
    rw [posed.prompt.runs, Option.toList_none, List.append_nil]
  | @first length since k _ grid next =>
    have count := grid.runs_eq (Nat.le_add_right ..) next
    rw [Nat.add_sub_cancel_left] at count
    exact grid.posed.prompt.runs.trans count
  | @later first rest length _ _ _ posed =>
    rw [posed.prompt.runs]
    exact (runsOf_snoc (List.cons_ne_nil first rest) length).symm

variable [Quantity ν]

theorem started (stage : Stage c now period p s) (known : c.cleanupInterval.millisUp = period)
    (paced : Ticker.tolerance < period) :
    Stage c now period (p.next .start) (s.operate .start) := by
  cases stage with
  | @down past _ time posed =>
    have began := posed.started
    rw [known] at began
    have ran := began.flushed (by rintro l ⟨⟩; exact paced)
    rw [Ticker.turn_live, Option.getD_none, if_pos (Nat.le_refl _)] at ran
    have due : Ticker.dueAfter period time time = time + 1 * period := by
      unfold Ticker.dueAfter
      rw [if_neg (by omega), Nat.one_mul]
    rw [due] at ran
    cases past with
    | nil =>
      have next : time < time + 1 * period := by omega
      have grid : Grid c now period time (time + 0) 1 (s.operate .start) := by
        refine ⟨?_, Nat.le_of_eq (congrArg (time + ·) (Nat.one_mul period)), Nat.le_of_lt next⟩
        rw [decide_eq_false (show ¬time + 1 * period ≤ time + 0 from Nat.not_le_of_lt next)]
        exact ran
      exact .first grid next
    | cons first rest => exact .later ran
  | @first length since k _ grid next =>
    obtain ⟨k', after, next⟩ := Grid.flushed ⟨grid.posed.started_again, grid.reached, grid.ahead⟩ paced
    exact .first after next
  | later posed => exact .later (posed.started_again.flushed_quiet (by rintro l ⟨⟩; exact paced) rfl)

theorem stopped (stage : Stage c now period p s) (paced : Ticker.tolerance < period) :
    Stage c now period (p.next .stop) (s.operate .stop) := by
  cases stage with
  | @down past _ time posed =>
    have ended := (posed.stopped_idle rfl).flushed_quiet nofun rfl
    show Stage c now period ⟨past ++ [], none⟩ _
    rw [List.append_nil]
    exact .down ended
  | @first length since k _ grid next =>
    have ended := (grid.posed.stopped_live paced).flushed_quiet nofun rfl
    have count := grid.runs_eq (Nat.le_add_right ..) next
    rw [Nat.add_sub_cancel_left] at count
    rw [show k = runsOf period [length] from count] at ended
    exact .down ended
  | @later first rest length time due _ posed =>
    have ended := (posed.stopped_idle rfl).flushed_quiet nofun rfl
    rw [← runsOf_snoc (List.cons_ne_nil first rest) length] at ended
    exact .down ended

theorem passed (stage : Stage c now period p s) (paced : Ticker.tolerance < period) (millis : Nat) :
    Stage c now period (p.next (.pass millis)) (s.operate (.pass millis)) := by
  cases stage with
  | down posed => exact .down (posed.passed millis nofun (fun _ => rfl) rfl)
  | @first length since k _ grid next =>
    obtain ⟨k', after, next⟩ := grid.passed paced millis
    rw [Nat.add_assoc] at after next
    exact .first after next
  | later posed => exact .later (posed.passed millis (by rintro l ⟨⟩; exact paced) (fun _ => rfl) rfl)

theorem operated (stage : Stage c now period p s) (known : c.cleanupInterval.millisUp = period) (paced : Ticker.tolerance < period)
    (controls : List Control) : Stage c now period (controls.foldl Spells.next p) (controls.foldl operate s) := by
  induction controls generalizing p s with
  | nil => exact stage
  | cons first rest ih =>
    refine ih ?_
    cases first with
    | start => exact stage.started known paced
    | stop => exact stage.stopped paced
    | pass millis => exact stage.passed paced millis

end Stage

def promised (period : Nat) (lengths : List Nat) : Nat := (lengths.map fun length => 1 + length / period).sum

theorem promised_eq_length {period : Nat} (positive : 0 < period) (lengths : List Nat) :
    lengths.length ≤ promised period lengths ∧
      (lengths.length = promised period lengths ↔ ∀ length ∈ lengths, length < period) := by
  induction lengths with
  | nil => exact ⟨Nat.le_refl _, fun _ => nofun, fun _ => rfl⟩
  | cons length rest ih =>
    obtain ⟨least, same⟩ := ih
    have sum : promised period (length :: rest) = 1 + length / period + promised period rest := rfl
    have short : length / period = 0 ↔ length < period := Nat.div_eq_zero_iff_lt positive
    rw [List.forall_mem_cons, ← same, ← short, sum, List.length_cons]
    generalize length / period = more
    omega

-- The first spell goes as promised, and a later one only if it is shorter than a period.
theorem runsOf_eq_promised {period : Nat} (positive : 0 < period) (lengths : List Nat) :
    runsOf period lengths = promised period lengths ↔ ∀ length ∈ lengths.tail, length < period := by
  cases lengths with
  | nil => exact ⟨fun _ => nofun, fun _ => rfl⟩
  | cons first later =>
    rw [List.tail_cons, ← (promised_eq_length positive later).2]
    exact Nat.add_right_inj

variable [Quantity ν] {b : Blueprint} {start : Nat} {backend : Backend} {sink : Sink} {w : World ν}

theorem period_positive (built : World.build b start backend sink = .ok w) :
    Ticker.tolerance < b.config.cleanupInterval.millisUp := by
  have valid := (Config.fault?_eq_none_iff _).1 (World.built built).config
  have positive : 0 < b.config.cleanupIntervalSecs := by
    refine valid.2 ("cleanupIntervalSecs", _) ?_
    unfold Config.positiveFields
    simp only [List.mem_cons, true_or, or_true]
  show 5 < (b.config.cleanupIntervalSecs * 1000000000 + 999999) / 1000000
  omega

theorem runs_operated (built : World.build b start backend sink = .ok w) (prompt : backend.latency = 0)
    (controls : List Control) :
    (controls.foldl operate (ofWorld w)).gate.upkeep.runs = runsOf b.config.cleanupInterval.millisUp (spells controls) := by
  have paced := period_positive built
  have first : Posed b.config start 0 0 .idle false (ofWorld w) := by
    obtain ⟨_, policy, _, rfl⟩ := World.fresh_of_build built
    exact ⟨⟨prompt, rfl, rfl, rfl, rfl, rfl⟩, rfl, rfl, rfl, rfl, rfl⟩
  have stage : Stage b.config start b.config.cleanupInterval.millisUp ⟨[], none⟩ (ofWorld w) := .down first
  exact (stage.operated rfl paced controls).runs_eq

-- Over a store that answers at once maintenance runs as often as the spells of its loop say, and that is what was promised exactly if
-- no spell but the first lasts for a period.
theorem upkeep_by_spells (built : World.build b start backend sink = .ok w) (prompt : backend.latency = 0)
    (controls : List Control) :
    (controls.foldl operate (ofWorld w)).gate.upkeep.runs = runsOf b.config.cleanupInterval.millisUp (spells controls) ∧
      ((controls.foldl operate (ofWorld w)).gate.upkeep.runs = promised b.config.cleanupInterval.millisUp (spells controls) ↔
        ∀ length ∈ (spells controls).tail, length < b.config.cleanupInterval.millisUp) := by
  have runs := runs_operated built prompt controls
  have positive := Nat.lt_of_le_of_lt (Nat.zero_le _) (period_positive built)
  exact ⟨runs, runs ▸ runsOf_eq_promised positive _⟩

def oneSpell : List Control := [.pass 10000, .start, .pass 65000, .start, .pass 30000, .stop, .pass 100000]

theorem one_spell_runs : (oneSpell.foldl operate (ofWorld World.strict)).gate.upkeep.runs = 4 :=
  (upkeep_by_spells World.build_strict rfl oneSpell).1

def twoSpells : List Control := [.start, .pass 95000, .stop, .start, .pass 95000]

theorem second_spell_runs_once : (twoSpells.foldl operate (ofWorld World.strict)).gate.upkeep.runs = 5 ∧
    promised Config.standard.cleanupInterval.millisUp (spells twoSpells) = 8 :=
  ⟨runs_operated World.build_strict rfl twoSpells, by decide⟩

end Session

end Turnstile
