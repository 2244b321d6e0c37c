import Turnstile.Proofs.Store.Calls
import Turnstile.Proofs.Store.Rows
namespace Turnstile

namespace Memory

variable {cutoff late since : Nat} {m n : Memory} {rows : List WindowRow}

def recent (cutoff : Nat) (rows : List WindowRow) : List WindowRow := rows.filter (cutoff ≤ ·.start)

theorem recent_zero (rows : List WindowRow) : recent 0 rows = rows :=
  List.filter_eq_self.2 fun row _ => decide_eq_true (Nat.zero_le row.start)

theorem recent_recent (rising : cutoff ≤ late) (rows : List WindowRow) : recent late (recent cutoff rows) = recent late rows := by
  unfold recent
  rw [List.filter_filter]
  refine List.filter_congr fun row _ => ?_
  rw [Bool.eq_iff_iff]
  simp only [Bool.and_eq_true, decide_eq_true_eq]
  omega

theorem total_recent (early : cutoff ≤ since) (rows : List WindowRow) (client endpoint : String) :
    total (recent cutoff rows) client endpoint since = total rows client endpoint since := by
  unfold total recent
  rw [WindowRow.filter_isSince early]

theorem start_count (row : WindowRow) (outcome : Outcome) : (row.count outcome).start = row.start := by
  cases outcome <;> rfl

-- Counted is within one window, and that one is either looked at or not.
theorem recent_tally {other : List WindowRow} (same : recent cutoff rows = recent cutoff other) (client endpoint : String)
    (start : Nat) (outcome : Outcome) :
    recent cutoff (tally client endpoint start outcome rows) = recent cutoff (tally client endpoint start outcome other) := by
  have found (row : WindowRow) (at_start : row.isAt client endpoint start = true) : row.start = start := by
    simp only [WindowRow.isAt, Bool.and_eq_true, beq_iff_eq] at at_start
    exact at_start.2
  have new : ((WindowRow.fresh client endpoint start).count outcome).start = start := start_count ..
  rw [tally_eq]
  unfold recent at same ⊢
  by_cases looked : cutoff ≤ start
  · have own : Rows.Local (fun row : WindowRow => decide (cutoff ≤ row.start)) (Rows.updateFirst
        (·.isAt client endpoint start) (·.count outcome) ((WindowRow.fresh client endpoint start).count outcome)) :=
      Rows.local_updateFirst fun row there => by rw [found row there]; exact decide_eq_true looked
    rw [own rows, own other, same]
  · have away : Rows.Foreign (fun row : WindowRow => decide (cutoff ≤ row.start)) (Rows.updateFirst
        (·.isAt client endpoint start) (·.count outcome) ((WindowRow.fresh client endpoint start).count outcome)) := by
      refine Rows.foreign_updateFirst (fun row there => ?_) ?_
      · rw [start_count, found row there]
        exact ⟨decide_eq_false looked, decide_eq_false looked⟩
      · rw [new]
        exact decide_eq_false looked
    rw [away rows, away other, same]

def SameRecent (cutoff : Nat) (m n : Memory) : Prop := recent cutoff m.windows = recent cutoff n.windows

theorem SameRecent.later (agree : SameRecent cutoff m n) (rising : cutoff ≤ late) : SameRecent late m n := by
  unfold SameRecent
  rw [← recent_recent rising m.windows, agree, recent_recent rising]

theorem SameRecent.total (agree : SameRecent cutoff m n) (early : cutoff ≤ since) (client endpoint : String) :
    total n.windows client endpoint since = total m.windows client endpoint since := by
  rw [← total_recent early n.windows, ← agree, total_recent early]

theorem SameRecent.answer (agree : SameRecent cutoff m n) (c : Call) : SameRecent cutoff (m.answer c).2 (n.answer c).2 := by
  cases c with
  | increment client endpoint start outcome => exact recent_tally agree client endpoint start outcome
  | archive before =>
    show recent cutoff (m.windows.filter _) = recent cutoff (n.windows.filter _)
    have swap (rows : List WindowRow) : recent cutoff (rows.filter (before ≤ ·.start)) =
        (recent cutoff rows).filter (before ≤ ·.start) := by
      unfold recent
      rw [List.filter_filter, List.filter_filter]
      simp only [Bool.and_comm]
    rw [swap, swap, agree]
  | _ => exact agree

-- A call that neither counts nor archives what is looked at may be made of one of them only.
def LeavesRecent (cutoff : Nat) : Call → Prop
  | .increment .. => False
  | .archive before => before ≤ cutoff
  | _ => True

theorem SameRecent.answer_left (agree : SameRecent cutoff m n) {c : Call} (spares : LeavesRecent cutoff c) : SameRecent cutoff (m.answer c).2 n := by
  cases c with
  | increment => cases spares
  | archive before => exact (recent_recent spares m.windows).trans agree
  | _ => exact agree

end Memory

namespace Backend

variable {cutoff late since : Nat} {b d : Backend}

-- Stores that nothing ails or something ails both, with tables that are the same from a cutoff on.
structure SameService (cutoff : Nat) (b d : Backend) : Prop where
  healthy : b.Healthy ↔ d.Healthy
  latency : b.latency = d.latency
  tables : ∃ m n, b.store = .memory m ∧ d.store = .memory n ∧ Memory.SameRecent cutoff m n

theorem SameService.symm (agree : SameService cutoff b d) : SameService cutoff d b := by
  obtain ⟨m, n, here, there, same⟩ := agree.tables
  exact ⟨agree.healthy.symm, agree.latency.symm, n, m, there, here, same.symm⟩

theorem SameService.later (agree : SameService cutoff b d) (rising : cutoff ≤ late) : SameService late b d := by
  obtain ⟨m, n, here, there, same⟩ := agree.tables
  exact ⟨agree.healthy, agree.latency, m, n, here, there, same.later rising⟩

theorem SameService.patience (agree : SameService cutoff b d) (limit : Option Duration) : b.patience limit = d.patience limit := by
  unfold Backend.patience
  rw [agree.latency]

section
variable (agree : SameService cutoff b d) (healthy : b.Healthy)
include agree healthy

theorem SameService.arrive : SameService cutoff b.arrive.2 d := by
  obtain ⟨m, n, here, there, same⟩ := agree.tables
  refine ⟨⟨fun _ => agree.healthy.1 healthy, fun _ => healthy.arrive.2⟩, ?_, m, n, ?_, there, same⟩
  · rw [← agree.latency]
    unfold Backend.arrive
    split <;> rfl
  · rw [store_arrive, here]

theorem SameService.finish {c : Call} (spares : Memory.LeavesRecent cutoff c) (limit : Option Duration) :
    SameService cutoff (b.finish c limit).2 d := by
  obtain ⟨m, n, here, there, same⟩ := agree.tables
  unfold Backend.finish Backend.serve
  rw [if_pos healthy.reachable, here, Store.answer_memory]
  split
  · exact agree
  · exact ⟨⟨fun _ => agree.healthy.1 healthy, fun _ => healthy.withStore _⟩, agree.latency, _, n, rfl, there,
      same.answer_left spares⟩

theorem SameService.count_eq (early : cutoff ≤ since) (client endpoint : String) (limit : Option Duration) :
    (d.call (.count client endpoint since) limit).1 = (b.call (.count client endpoint since) limit).1 := by
  obtain ⟨m, n, here, there, same⟩ := agree.tables
  rw [(healthy.call_eq _ limit).1, ((agree.healthy.1 healthy).call_eq _ limit).1, agree.patience, here, there]
  split
  · rfl
  · exact congrArg Except.ok (same.total early client endpoint)

theorem SameService.call (c : Call) (limit : Option Duration) : SameService cutoff (b.call c limit).2 (d.call c limit).2 := by
  obtain ⟨m, n, here, there, same⟩ := agree.tables
  have well := agree.healthy.1 healthy
  obtain ⟨_, store, latency⟩ := healthy.call_eq c limit
  obtain ⟨_, store', latency'⟩ := well.call_eq c limit
  refine ⟨⟨fun _ => well.after_call c limit, fun _ => healthy.after_call c limit⟩, latency.trans (agree.latency.trans latency'.symm), ?_⟩
  rw [store, store', agree.patience, here, there]
  split
  · exact ⟨m, n, rfl, rfl, same⟩
  · exact ⟨_, _, rfl, rfl, same.answer c⟩

-- On tables in memory, both calls are answered or neither is.
theorem SameService.settle (w : Write) (o : Outbox) :
    Outbox.settle (b.call w.call none).1 o = Outbox.settle (d.call w.call none).1 o := by
  obtain ⟨m, n, here, there, _⟩ := agree.tables
  rw [(healthy.call_eq _ none).1, ((agree.healthy.1 healthy).call_eq _ none).1, here, there]
  rfl

end

end Backend

end Turnstile
