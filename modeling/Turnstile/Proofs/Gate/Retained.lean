import Mathlib.Data.List.Forall2
import Turnstile.Proofs.Store.Removals
import Turnstile.Proofs.World.Exchanges
namespace Turnstile

-- A call of maintenance as others see it: nothing was changed, or all rows of a kind were taken that are to be.
inductive Exchange.Took (c : Config) (now : Nat) (x : Exchange) : Removal → Prop where
  | nothing {m : Memory} (before : x.before = .memory m) (after : x.after = .memory m) : Took c now x .nothing
  | rows {m : Memory} (k : Kind) (before : x.before = .memory m) (after : x.after = .memory (m.answer (k.call c now)).2) :
      Took c now x (m.taken c now k)

theorem Exchange.Took.due {c : Config} {now : Nat} {x : Exchange} {r : Removal} (took : x.Took c now r) : r.Due c now := by
  cases took with
  | nothing => exact .nothing
  | rows k => exact Memory.taken_due k

theorem Exchange.Took.tables {c : Config} {now : Nat} {x : Exchange} {r : Removal} (took : x.Took c now r) :
    ∃ m m', x.before = .memory m ∧ x.after = .memory m' ∧ r.Takes now m m' ∧ ∀ k, m.Rid c now k → m'.Rid c now k := by
  cases took with
  | @nothing m before after => exact ⟨m, m, before, after, .nothing now m, fun _ => id⟩
  | @rows m k before after => exact ⟨m, _, before, after, Memory.taken_takes k, fun _ rid => rid.answer k⟩

theorem due_of_took {c : Config} {now : Nat} {xs : List Exchange} {rs : List Removal}
    (took : List.Forall₂ (Exchange.Took c now) xs rs) : ∀ r ∈ rs, r.Due c now := by
  induction took with
  | nil => exact nofun
  | cons first rest ih =>
    intro r member
    rcases List.mem_cons.1 member with rfl | later
    · exact first.due
    · exact ih r later

-- Calls that each find what the one before has left take together what each has taken.
theorem takes_of_joined {c : Config} {now : Nat} {xs : List Exchange} {rs : List Removal}
    (took : List.Forall₂ (Exchange.Took c now) xs rs) {m : Memory} {last : Store} (joined : Exchange.Joined (.memory m) xs last) :
    ∃ m', last = .memory m' ∧ (Removal.total rs).Takes now m m' ∧
      ∀ k, (m.Rid c now k ∨ ∃ x ∈ xs, ∃ t, x.after = .memory t ∧ t.Rid c now k) → m'.Rid c now k := by
  induction took generalizing m with
  | nil =>
    refine ⟨m, joined, .nothing now m, ?_⟩
    rintro k (rid | ⟨x, member, _⟩)
    · exact rid
    · exact absurd member List.not_mem_nil
  | @cons x r xs rs first rest ih =>
    obtain ⟨found, joined⟩ := joined
    obtain ⟨t, t', before, after, takes, kept⟩ := first.tables
    rw [found] at before
    cases before
    rw [after] at joined
    obtain ⟨m', left, more, ridden⟩ := ih joined
    refine ⟨m', left, takes.append more first.due (.total (due_of_took rest)), ?_⟩
    rintro k (rid | ⟨y, member, s, there, rid⟩)
    · exact ridden k (.inl (kept k rid))
    · rcases List.mem_cons.1 member with rfl | later
      · rw [after] at there
        cases there
        exact ridden k (.inl rid)
      · exact ridden k (.inr ⟨y, later, s, there, rid⟩)

def Sweep.affected (r : Removal) (before after : Nat) (s : Sweep) : Nat :=
  (s.kinds.map r.size).sum + if s = .bucketEvict then before - after else 0

theorem Sweep.affected_congr {r r' : Removal} {before before' after after' : Nat} {s : Sweep}
    (same : ∀ k ∈ s.kinds, r.size k = r'.size k) (buckets : s = .bucketEvict → before - after = before' - after') :
    s.affected r before after = s.affected r' before' after' := by
  unfold Sweep.affected
  rw [List.map_congr_left same]
  split
  · rename_i evicts
    rw [buckets evicts]
  · rfl

theorem Sweep.kinds_apart {s t : Sweep} {k : Kind} (here : k ∈ s.kinds) (there : k ∈ t.kinds) : s = t := by
  cases s <;> cases t <;> first | rfl | (cases k <;> simp [Sweep.kinds] at here there)

def Reply.outcomes : Reply → Report
  | .report (some outcomes) => outcomes
  | _ => []

namespace World

variable {ν : Type} {c : Config} {now : Nat} {l : Limiter ν}

structure Fixed (c : Config) (now : Nat) (l : Limiter ν) (w : World ν) : Prop where
  tables : InMemory w
  now : w.gate.now = now
  config : w.gate.config = c
  limiter : w.gate.limiter = l

theorem fixed_waits : Waits (Fixed c now l) where
  arrive w fixed := by
    obtain ⟨m, tables⟩ := fixed.tables
    exact ⟨⟨m, (Backend.store_arrive w.backend).trans tables⟩, fixed.now, fixed.config, fixed.limiter⟩
  deliver w fixed := by
    have gate := gate_deliver w
    refine ⟨fixed.tables.deliver, ?_, ?_, ?_⟩
    · rw [gate]
      exact fixed.now
    · rw [gate]
      exact fixed.config
    · rw [gate]
      exact fixed.limiter

theorem Fixed.finish {w : World ν} (fixed : Fixed c now l w) (asked : Call) :
    Fixed c now l { w with backend := (w.backend.finish asked none).2 } :=
  ⟨fixed.tables.finish asked none, fixed.now, fixed.config, fixed.limiter⟩

theorem trades_call (asked : Call) : Trades (Fixed c now l) (Routine.call asked) fun xs answer w =>
    Fixed c now l w ∧ ∃ m after, xs = [⟨⟨asked, answer⟩, .memory m, after⟩] ∧
      (⟨⟨asked, answer⟩, .memory m, after⟩ : Exchange).Genuine := by
  intro meanwhile w before
  obtain ⟨fixed, u, there, after, listed, sound⟩ :=
    Trades.call asked fixed_waits (fun w before => before.finish asked) meanwhile w before
  obtain ⟨m, tables⟩ := there.tables
  rw [tables] at listed sound
  exact ⟨fixed, m, after, listed, sound⟩

theorem trades_take (k : Kind) : Trades (Fixed c now l) (Routine.call (k.call c now)) fun xs answer w =>
    Fixed c now l w ∧ ∃ x r, xs = [x] ∧ x.Took c now r ∧ (∀ other, other ≠ k → r.size other = 0) ∧
      ∀ a, answer = .ok a → r.size k = k.count c now a ∧ ∃ m, x.after = .memory m ∧ m.Rid c now k := by
  intro meanwhile w before
  obtain ⟨fixed, m, after, listed, sound⟩ := trades_call (k.call c now) meanwhile w before
  refine ⟨fixed, ?_⟩
  generalize (perform meanwhile (Routine.call (k.call c now)) w).1 = answer at listed sound
  cases answer with
  | error e =>
    have same : after = .memory m := sound
    exact ⟨_, .nothing, listed, .nothing rfl same, fun other _ => by cases other <;> rfl, nofun⟩
  | ok a =>
    have answered : (.ok (m.answer (k.call c now)).1, .memory (m.answer (k.call c now)).2) =
      ((.ok a, after) : Except StoreError _ × Store) := sound
    obtain ⟨told, tables⟩ := Prod.mk.inj answered
    refine ⟨_, m.taken c now k, listed, .rows k rfl tables.symm, fun other away => ?_, ?_⟩
    · rw [Memory.size_taken, if_neg away]
    · rintro _ ⟨⟩
      refine ⟨?_, _, tables.symm, Memory.rid_answer k⟩
      rw [Memory.size_taken, if_pos rfl]
      exact congrArg _ (Except.ok.inj told)

theorem trades_restore : Trades (Fixed c now l) Gate.restore fun xs _ w =>
    Fixed c now l w ∧ ∃ x : Exchange, xs = [x] ∧ x.Took c now .nothing := by
  unfold Gate.restore
  refine .read fun v fixed => ?_
  rw [fixed.now]
  refine (trades_call (.active now)).bind fun xs answer => ?_
  rintro meanwhile w ⟨fixed, m, after, rfl, sound⟩
  cases answer with
  | error e => exact ⟨fixed, _, rfl, .nothing rfl sound⟩
  | ok rows =>
    have same : after = .memory m := (Prod.mk.inj sound).2.symm
    exact ⟨⟨fixed.tables, fixed.now, fixed.config, fixed.limiter⟩, _, rfl, .nothing rfl same⟩

-- What sweeps have come to, each told by how it ended.
structure Swept (c : Config) (now : Nat) (l : Limiter ν) (all : List Sweep) (completed : Sweep → Nat → Prop)
    (xs : List Exchange) (rs : List Removal) (w : World ν) : Prop where
  fixed : Fixed c now w.gate.limiter w
  took : List.Forall₂ (Exchange.Took c now) xs rs
  others : ∀ s, s ∉ all → (∀ k ∈ s.kinds, (Removal.total rs).size k = 0) ∧ (s = .bucketEvict → w.gate.limiter = l)
  done : ∀ s n, completed s n → s ∈ all ∧ n = s.affected (Removal.total rs) l.tracked w.gate.limiter.tracked ∧
    ∀ k ∈ s.kinds, ∃ x ∈ xs, ∃ m, x.after = .memory m ∧ m.Rid c now k

variable {all rest : List Sweep} {completed completed' : Sweep → Nat → Prop} {xs ys : List Exchange} {rs ss : List Removal}
  {w u : World ν} {s : Sweep} {result : Except StoreError Nat}

theorem Swept.append (first : Swept c now l all completed xs rs u) (second : Swept c now u.gate.limiter rest completed' ys ss w)
    (apart : ∀ s ∈ all, s ∉ rest) :
    Swept c now l (all ++ rest) (fun s n => completed s n ∨ completed' s n) (xs ++ ys) (rs ++ ss) w where
  fixed := second.fixed
  took := List.rel_append first.took second.took
  others s absent := by
    obtain ⟨none, same⟩ := first.others s fun member => absent (List.mem_append_left _ member)
    obtain ⟨none', same'⟩ := second.others s fun member => absent (List.mem_append_right _ member)
    refine ⟨fun k member => ?_, fun buckets => (same' buckets).trans (same buckets)⟩
    rw [Removal.size_total_append, none k member, none' k member]
  done s n := by
    rintro (done | done)
    · obtain ⟨member, told, rid⟩ := first.done s n done
      obtain ⟨none, same⟩ := second.others s (apart s member)
      refine ⟨List.mem_append_left _ member,
        told.trans (Sweep.affected_congr (fun k of => ?_) fun buckets => by rw [same buckets]),
        fun k of => (rid k of).imp fun x there => there.imp_left (List.mem_append_left _)⟩
      rw [Removal.size_total_append, none k of, Nat.add_zero]
    · obtain ⟨member, told, rid⟩ := second.done s n done
      obtain ⟨none, same⟩ := first.others s fun here => apart s here member
      refine ⟨List.mem_append_right _ member,
        told.trans (Sweep.affected_congr (fun k of => ?_) fun buckets => by rw [same buckets]),
        fun k of => (rid k of).imp fun x there => there.imp_left (List.mem_append_right _)⟩
      rw [Removal.size_total_append, none k of, Nat.zero_add]

theorem Swept.single (fixed : Fixed c now w.gate.limiter w) (took : List.Forall₂ (Exchange.Took c now) xs rs)
    (others : ∀ k, k ∉ s.kinds → (Removal.total rs).size k = 0) (limiter : s ≠ .bucketEvict → w.gate.limiter = l)
    (done : ∀ n, result = .ok n → n = s.affected (Removal.total rs) l.tracked w.gate.limiter.tracked ∧
      ∀ k ∈ s.kinds, ∃ x ∈ xs, ∃ m, x.after = .memory m ∧ m.Rid c now k) :
    Swept c now l [s] (fun t n => t = s ∧ result = .ok n) xs rs w where
  fixed := fixed
  took := took
  others t absent := by
    have other : t ≠ s := fun same => absent (same ▸ List.mem_cons_self)
    exact ⟨fun k of => others k fun member => other (Sweep.kinds_apart of member), fun buckets => limiter (buckets ▸ other.symm)⟩
  done t n := by
    rintro ⟨rfl, told⟩
    exact ⟨List.mem_cons_self, done n told⟩

theorem Fixed.again (fixed : Fixed c now l w) : Fixed c now w.gate.limiter w := ⟨fixed.tables, fixed.now, fixed.config, rfl⟩

theorem Swept.noted (swept : Swept c now l all completed xs rs w) (u : Upkeep) :
    Swept c now l all completed xs rs { w with gate := { w.gate with upkeep := u } } where
  fixed := ⟨swept.fixed.tables, swept.fixed.now, swept.fixed.config, rfl⟩
  took := swept.took
  others := swept.others
  done := swept.done

-- Where nothing was asked, nothing was taken.
theorem Swept.idle (fixed : Fixed c now l w) (none : ∀ s n, ¬completed s n) : Swept c now l all completed [] [] w where
  fixed := fixed.again
  took := .nil
  others _ _ := ⟨fun k _ => Removal.size_nothing k, fun _ => fixed.limiter⟩
  done s n told := absurd told (none s n)

-- What a sweep has come to that takes no buckets, once it has failed.
theorem Swept.failed {e : StoreError} (fixed : Fixed c now l w) (took : List.Forall₂ (Exchange.Took c now) xs rs)
    (others : ∀ k, k ∉ s.kinds → (Removal.total rs).size k = 0) :
    Swept c now l [s] (fun t n => t = s ∧ (.error e : Except StoreError Nat) = .ok n) xs rs w :=
  .single fixed.again took others (fun _ => fixed.limiter) nofun

theorem trades_sweepBans : Trades (Fixed c now l) (Gate.sweepBans c now) fun xs result w =>
    ∃ rs, Swept c now l [.banExpiry] (fun t n => t = .banExpiry ∧ result = .ok n) xs rs w := by
  unfold Gate.sweepBans
  refine .update (S := Fixed c now l) (fun w before => ⟨before.tables, before.now, before.config, before.limiter⟩) fun _ => ?_
  refine (trades_take (c := c) .overdue).bind fun xs answer => .given ?_
  rintro ⟨x, r, rfl, took, others, told⟩
  have only (k : Kind) (absent : k ∉ Sweep.banExpiry.kinds) : r.size k = 0 :=
    others k fun same => absent (same ▸ List.mem_cons_self)
  have one (k : Kind) (absent : k ∉ Sweep.banExpiry.kinds) : (Removal.total [r]).size k = 0 := by
    rw [Removal.size_total_one, only k absent]
  have two (k : Kind) (absent : k ∉ Sweep.banExpiry.kinds) : (Removal.total [r, .nothing]).size k = 0 := by
    rw [Removal.size_total_two, only k absent, Removal.size_nothing]
  cases answer with
  | error e => exact .pure _ fun w fixed => ⟨[r], .failed fixed (.cons took .nil) one⟩
  | ok released =>
    refine .change (S := Fixed c now l) (fun w before => ⟨before.tables, before.now, before.config, before.limiter⟩) ?_
    refine trades_restore.bind fun ys restored => .given ?_
    rintro ⟨y, rfl, looked⟩
    have both : List.Forall₂ (Exchange.Took c now) [x, y] [r, .nothing] := .cons took (.cons looked .nil)
    cases restored with
    | error e => exact .pure _ fun w fixed => ⟨_, .failed fixed both two⟩
    | ok n =>
      refine .update (S := Fixed c now l) (fun w before => ⟨before.tables, before.now, before.config, before.limiter⟩) fun _ => ?_
      refine .pure _ fun w fixed => ⟨_, .single fixed.again both two (fun _ => fixed.limiter) ?_⟩
      rintro _ ⟨⟩
      obtain ⟨count, m, after, rid⟩ := told released rfl
      refine ⟨?_, fun k of => ⟨x, List.mem_cons_self, m, after, ?_⟩⟩
      · show released.length = (Removal.total [r, .nothing]).size .overdue + 0 + 0
        rw [Removal.size_total_two, count]
        rfl
      · rw [List.mem_singleton.1 of]
        exact rid

theorem trades_sweepHistory : Trades (Fixed c now l) (Gate.sweepHistory c now) fun xs result w =>
    ∃ rs, Swept c now l [.historyPurge] (fun t n => t = .historyPurge ∧ result = .ok n) xs rs w := by
  unfold Gate.sweepHistory
  refine (trades_take (c := c) .attempts).bind fun xs answer => .given ?_
  rintro ⟨x, r, rfl, took, others, told⟩
  have first (k : Kind) (absent : k ∉ Sweep.historyPurge.kinds) : r.size k = 0 :=
    others k fun same => absent (same ▸ List.mem_cons_self)
  cases answer with
  | error e =>
    refine .pure _ fun w fixed => ⟨[r], .failed fixed (.cons took .nil) fun k absent => ?_⟩
    rw [Removal.size_total_one, first k absent]
  | ok attempts =>
    refine (trades_take (c := c) .released).bind fun ys answer => .given ?_
    rintro ⟨y, r', rfl, took', others', told'⟩
    have both : List.Forall₂ (Exchange.Took c now) [x, y] [r, r'] := .cons took (.cons took' .nil)
    have two (k : Kind) (absent : k ∉ Sweep.historyPurge.kinds) : (Removal.total [r, r']).size k = 0 := by
      rw [Removal.size_total_two, first k absent, others' k fun same => absent (same ▸ List.mem_cons_of_mem _ List.mem_cons_self)]
    cases answer with
    | error e => exact .pure _ fun w fixed => ⟨_, .failed fixed both two⟩
    | ok bans =>
      refine .pure _ fun w fixed => ⟨_, .single fixed.again both two (fun _ => fixed.limiter) ?_⟩
      rintro _ ⟨⟩
      obtain ⟨count, m, after, rid⟩ := told attempts rfl
      obtain ⟨count', m', after', rid'⟩ := told' bans rfl
      have sizes : (Sweep.historyPurge.kinds.map (Removal.total [r, r']).size).sum = r.size .attempts + r'.size .released := by
        show (Removal.total [r, r']).size .attempts + ((Removal.total [r, r']).size .released + 0) = _
        rw [Removal.size_total_two, Removal.size_total_two, others .released nofun, others' .attempts nofun]
        omega
      refine ⟨?_, fun k of => ?_⟩
      · rw [Sweep.affected, sizes, count, count']
        rfl
      · rcases List.mem_pair.1 of with rfl | rfl
        · exact ⟨x, List.mem_cons_self, m, after, rid⟩
        · exact ⟨y, List.mem_cons_of_mem _ List.mem_cons_self, m', after', rid'⟩

theorem trades_sweepWindows : Trades (Fixed c now l) (Gate.sweepWindows c now) fun xs result w =>
    ∃ rs, Swept c now l [.windowArchive] (fun t n => t = .windowArchive ∧ result = .ok n) xs rs w := by
  refine (trades_take (c := c) .windows).weaken ?_
  rintro xs answer w ⟨fixed, x, r, rfl, took, others, told⟩
  refine ⟨[r], .single fixed.again (.cons took .nil) (fun k absent => ?_) (fun _ => fixed.limiter) fun n answered => ?_⟩
  · rw [Removal.size_total_one, others k fun same => absent (same ▸ List.mem_cons_self)]
  · obtain ⟨count, m, after, rid⟩ := told n answered
    refine ⟨?_, fun k of => ⟨x, List.mem_cons_self, m, after, ?_⟩⟩
    · show n = (Removal.total [r]).size .windows + 0 + 0
      rw [Removal.size_total_one, count]
      rfl
    · rw [List.mem_singleton.1 of]
      exact rid

variable [Quantity ν]

theorem trades_sweepBuckets : Trades (Fixed c now l) (Gate.sweepBuckets c) fun xs result w =>
    ∃ rs, Swept c now l [.bucketEvict] (fun t n => t = .bucketEvict ∧ result = .ok n) xs rs w := by
  intro meanwhile w before
  refine ⟨[], .single ⟨before.tables, before.now, before.config, rfl⟩ .nil (fun k _ => Removal.size_nothing k)
    (fun other => absurd rfl other) fun n answered => ?_⟩
  refine ⟨?_, fun k of => absurd of List.not_mem_nil⟩
  have told := Except.ok.inj answered
  rw [← told, ← before.limiter]
  show _ = 0 + _
  rw [Nat.zero_add]
  rfl

theorem trades_work (s : Sweep) : Trades (Fixed c now l) (Gate.work c now s) fun xs result w =>
    ∃ rs, Swept c now l [s] (fun t n => t = s ∧ result = .ok n) xs rs w := by
  cases s with
  | banExpiry => exact trades_sweepBans
  | bucketEvict => exact trades_sweepBuckets
  | windowArchive => exact trades_sweepWindows
  | historyPurge => exact trades_sweepHistory

theorem trades_sweep (force : Bool) (s : Sweep) : Trades (Fixed c now l) (Gate.sweep force s) fun xs outcome w =>
    ∃ rs, Swept c now l [s] (fun t n => t = s ∧ outcome = .completed n) xs rs w := by
  unfold Gate.sweep
  refine .read fun v before => ?_
  split
  · rw [before.now, before.config]
    refine (trades_work s).bind fun xs result => ?_
    cases result with
    | error e =>
      refine .pure _ fun w ⟨rs, swept⟩ => ⟨rs, ?_⟩
      rw [List.append_nil]
      exact { swept with done := nofun }
    | ok n =>
      refine .change (S := fun w => ∃ rs,
        Swept c now l [s] (fun t k => t = s ∧ (.ok n : Except StoreError Nat) = .ok k) xs rs w) ?_ ?_
      · rintro w ⟨rs, swept⟩
        exact ⟨rs, swept.noted _⟩
      · refine .pure _ fun w ⟨rs, swept⟩ => ⟨rs, ?_⟩
        rw [List.append_nil]
        refine { swept with done := ?_ }
        rintro t k ⟨rfl, ⟨⟩⟩
        exact swept.done t n ⟨rfl, rfl⟩
  · exact .pure _ fun w fixed => ⟨[], .idle fixed nofun⟩

theorem trades_sweeps (force : Bool) {all : List Sweep} (once : all.Nodup) :
    Trades (Fixed c now l) (Gate.sweeps force all) fun xs report w =>
      ∃ rs, Swept c now l all (fun s n => (s, .completed n) ∈ report) xs rs w := by
  induction all generalizing l with
  | nil =>
    exact .pure _ fun w fixed => ⟨[], .idle fixed fun _ _ => List.not_mem_nil⟩
  | cons s rest ih =>
    obtain ⟨absent, others⟩ := List.nodup_cons.1 once
    refine (trades_sweep force s).bind fun xs outcome => ?_
    rintro meanwhile u ⟨rs, first⟩
    have later : Trades (Fixed c now u.gate.limiter) (Gate.sweeps force rest >>= fun report => pure ((s, outcome) :: report))
        fun ys report w => ∃ rs, Swept c now l (s :: rest) (fun t n => (t, SweepOutcome.completed n) ∈ report) (xs ++ ys) rs w := by
      refine (ih others).bind fun ys report => .pure _ ?_
      rintro w ⟨ss, second⟩
      have both := first.append second fun t here there => absent (List.mem_singleton.1 here ▸ there)
      rw [List.append_nil]
      refine ⟨rs ++ ss, { both with done := fun t n told => both.done t n ?_ }⟩
      rcases List.mem_cons.1 told with own | other
      · exact .inl ⟨(Prod.mk.inj own).1, (Prod.mk.inj own).2.symm⟩
      · exact .inr other
    exact later meanwhile u first.fixed

theorem trades_maintain (force : Bool) : Trades (Fixed c now l) (Gate.maintain force) fun xs told w =>
    ∃ rs, Swept c now l Sweep.all (fun s n => ∃ report, told = some report ∧ (s, .completed n) ∈ report) xs rs w := by
  unfold Gate.maintain
  refine .read fun v before => ?_
  split
  · refine .pure _ fun w fixed => ⟨[], .idle fixed ?_⟩
    rintro s n ⟨_, ⟨⟩, _⟩
  · refine .change (S := Fixed c now l) (fun w before => ⟨before.tables, before.now, before.config, before.limiter⟩) ?_
    refine (trades_sweeps force (by decide)).bind fun xs report => ?_
    refine .change (S := fun w => ∃ rs, Swept c now l Sweep.all (fun s n => (s, .completed n) ∈ report) xs rs w) ?_ ?_
    · rintro w ⟨rs, swept⟩
      exact ⟨rs, swept.noted _⟩
    · refine .pure _ fun w ⟨rs, swept⟩ => ⟨rs, ?_⟩
      rw [List.append_nil]
      refine { swept with done := ?_ }
      rintro s n ⟨_, ⟨⟩, member⟩
      exact swept.done s n member

-- Maintenance takes only rows that have outlasted the days of their kind, bans that are past their deadline, and no ban that was not
-- released, whatever it finds, whatever fails and whatever is delivered meanwhile. A sweep that completes tells how much it took, and
-- has left nothing of its kinds that is to be taken; if nothing is delivered meanwhile, nothing is there when the run is over.
theorem upkeep_retains {m : Memory} {told : Reply × World ν} (tables : w.backend.store = .memory m) (force : Bool)
    (meanwhile : List Nat) (ran : w.step (.command (.maintain force) meanwhile) = told) :
    ∃ taken : List Removal,
      List.Forall₂ (fun x r => r.Due w.gate.config w.gate.now ∧
          ∃ before after, x.before = .memory before ∧ x.after = .memory after ∧ r.Takes w.gate.now before after)
        (exchanges meanwhile (Gate.maintain force) w) taken ∧
      (∀ s n, (s, .completed n) ∈ told.1.outcomes →
        n = s.affected (Removal.total taken) w.gate.limiter.tracked told.2.gate.limiter.tracked ∧
          ∀ k ∈ s.kinds, ∃ x ∈ exchanges meanwhile (Gate.maintain force) w, ∃ after, x.after = .memory after ∧
            after.Rid w.gate.config w.gate.now k) ∧
      (meanwhile = [] → ∃ m', told.2.backend.store = .memory m' ∧ (Removal.total taken).Due w.gate.config w.gate.now ∧
        (Removal.total taken).Takes w.gate.now m m' ∧
          ∀ s n, (s, .completed n) ∈ told.1.outcomes → ∀ k ∈ s.kinds, m'.Rid w.gate.config w.gate.now k) := by
  have performed : w.step (.command (.maintain force) meanwhile) =
      (.report (perform meanwhile (Gate.maintain force) w).1, (perform meanwhile (Gate.maintain force) w).2) := perform_map ..
  subst ran
  rw [performed]
  obtain ⟨taken, swept⟩ := trades_maintain force meanwhile w ⟨⟨m, tables⟩, rfl, rfl, rfl⟩
  have ended {s : Sweep} {n : Nat}
      (told : (s, .completed n) ∈ (Reply.report (perform meanwhile (Gate.maintain force) w).1).outcomes) :
      ∃ report, (perform meanwhile (Gate.maintain force) w).1 = some report ∧ (s, .completed n) ∈ report := by
    generalize (perform meanwhile (Gate.maintain force) w).1 = result at told
    cases result with
    | none => exact absurd told List.not_mem_nil
    | some report => exact ⟨report, rfl, told⟩
  refine ⟨taken, swept.took.imp ?_, fun s n told => (swept.done s n (ended told)).2, ?_⟩
  · intro x r took
    obtain ⟨before, after, at_first, at_last, takes, _⟩ := took.tables
    exact ⟨took.due, before, after, at_first, at_last, takes⟩
  · rintro rfl
    have joined := exchanges_joined (Gate.maintain force) w
    rw [tables] at joined
    obtain ⟨m', left, takes, rid⟩ := takes_of_joined swept.took joined
    exact ⟨m', left, .total (due_of_took swept.took), takes,
      fun s n told k of => rid k (.inr ((swept.done s n (ended told)).2.2 k of))⟩

-- Of each kind one row is to be taken on the hundredth day, and one is to be kept for a millisecond more.
def hoard : Memory where
  windows := [⟨"a", "login", 8035199999, 3, 3, 0⟩, ⟨"a", "login", 8035200000, 1, 0, 0⟩]
  archived := []
  attempts := [⟨"root", "a", false, none, false, 863999999⟩, ⟨"root", "a", false, none, false, 864000000⟩]
  bans := [⟨"a", 0, 300000, "abuse", 0, "admin", some 6047999999, some "admin", false⟩,
    ⟨"b", 0, 300000, "abuse", 0, "admin", some 6048000000, some "admin", false⟩,
    ⟨"a", 8000000000, 8640000000, "abuse", 0, "admin", none, none, false⟩,
    ⟨"b", 8000000000, 8640000001, "abuse", 0, "admin", none, none, false⟩]

def hoarder : World Rat :=
  { strict with gate := { strict.gate with now := 8640000000 }, backend := .ofStore (.memory hoard) }

theorem hoard_cleared : ∃ (taken : Removal) (m' : Memory),
    (hoarder.step (.command (.maintain false) [])).2.backend.store = .memory m' ∧
      taken.Due .standard 8640000000 ∧ taken.Takes 8640000000 hoard m' ∧
      taken.size .overdue = 1 ∧ taken.size .windows = 1 ∧ taken.size .attempts + taken.size .released = 2 ∧
      ∀ k, m'.Rid .standard 8640000000 k := by
  obtain ⟨taken, _, told, quiet⟩ := upkeep_retains (w := hoarder) (m := hoard) rfl false [] rfl
  obtain ⟨m', left, due, takes, rid⟩ := quiet rfl
  have bans : (.banExpiry, .completed 1) ∈ (hoarder.step (.command (.maintain false) [])).1.outcomes := by decide +kernel
  have windows : (.windowArchive, .completed 1) ∈ (hoarder.step (.command (.maintain false) [])).1.outcomes := by decide +kernel
  have history : (.historyPurge, .completed 2) ∈ (hoarder.step (.command (.maintain false) [])).1.outcomes := by decide +kernel
  refine ⟨Removal.total taken, m', left, due, takes, (told _ _ bans).1.symm, (told _ _ windows).1.symm, (told _ _ history).1.symm, ?_⟩
  intro k
  cases k with
  | overdue => exact rid _ _ bans _ (by decide)
  | windows => exact rid _ _ windows _ (by decide)
  | attempts => exact rid _ _ history _ (by decide)
  | released => exact rid _ _ history _ (by decide)

end World

end Turnstile
