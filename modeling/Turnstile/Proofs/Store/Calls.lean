import Turnstile.World
namespace Turnstile

-- Windows before a cutoff are not looked at by a count that begins no earlier.
theorem WindowRow.filter_isSince {cutoff since : Nat} {client endpoint : String} (early : cutoff ≤ since) (rows : List WindowRow) :
    (rows.filter (cutoff ≤ ·.start)).filter (·.isSince client endpoint since) = rows.filter (·.isSince client endpoint since) := by
  rw [List.filter_filter]
  refine List.filter_congr fun row _ => ?_
  rw [Bool.eq_iff_iff]
  simp only [isSince, Bool.and_eq_true, decide_eq_true_eq]
  exact ⟨fun both => both.1, fun counted => ⟨counted, Nat.le_trans early counted.2⟩⟩

namespace Store

-- Only a check of the relational tables refuses, and it does so before a row is written.
theorem answer_error {s s' : Store} {c : Call} {e : StoreError} (refused : s.answer c = (.error e, s')) :
    s' = s := by
  cases s with
  | memory m =>
    simp only [answer, Prod.mk.injEq, reduceCtorEq, false_and] at refused
  | relational r =>
    cases c with
    | upsert ban =>
      simp only [answer, Relational.answer] at refused
      split at refused
      · simp only [Prod.mk.injEq, reduceCtorEq, false_and] at refused
      · exact (Prod.mk.inj refused).2.symm
    | _ => simp only [answer, Relational.answer, Prod.mk.injEq, reduceCtorEq, false_and] at refused

theorem answer_lasting {c : Call} {s s' : Store} {e : StoreError} (refused : s.answer c = (.error e, s')) :
    e.isTransient = false := by
  cases s with
  | memory m => cases refused
  | relational r =>
    cases c with
    | upsert ban =>
      simp only [answer, Relational.answer] at refused
      split at refused
      · cases refused
      · cases refused
        rfl
    | _ => cases refused

theorem answer_memory (c : Call) (m : Memory) :
    (Store.memory m).answer c = (.ok (m.answer c).1, .memory (m.answer c).2) := rfl

theorem answer_active (now : Nat) (s : Store) : (s.answer (.active now)).2 = s := by
  cases s <;> rfl

theorem answer_count (client endpoint : String) (since : Nat) (s : Store) :
    (s.answer (.count client endpoint since)).2 = s := by
  cases s <;> rfl

end Store

namespace Backend

variable {b b' : Backend} {c : Call} {limit : Option Duration}

theorem store_arrive (b : Backend) : b.arrive.2.store = b.store := by
  unfold arrive; split <;> rfl

theorem serve_ok {a : c.Answer} (served : b.serve c = (.ok a, b')) :
    b.store.answer c = (.ok a, b'.store) := by
  unfold serve at served
  split at served
  · cases answered : b.store.answer c with
    | mk result store =>
      simp only [answered, Prod.mk.injEq] at served
      obtain ⟨rfl, rfl⟩ := served
      rfl
  · simp only [Prod.mk.injEq, reduceCtorEq, false_and] at served

theorem serve_error {e : StoreError} (failed : b.serve c = (.error e, b')) : b' = b := by
  unfold serve at failed
  split at failed
  · cases answered : b.store.answer c with
    | mk result store =>
      simp only [answered, Prod.mk.injEq] at failed
      obtain ⟨rfl, rfl⟩ := failed
      rw [Store.answer_error answered]
  · exact (Prod.mk.inj failed).2.symm

theorem finish_ok {a : c.Answer} (answered : b.finish c limit = (.ok a, b')) :
    b.store.answer c = (.ok a, b'.store) := by
  unfold finish at answered
  split at answered
  · simp only [Prod.mk.injEq, reduceCtorEq, false_and] at answered
  · exact serve_ok answered

theorem finish_error {e : StoreError} (failed : b.finish c limit = (.error e, b')) : b' = b := by
  unfold finish at failed
  split at failed
  · exact (Prod.mk.inj failed).2.symm
  · exact serve_error failed

theorem finish_reading (reads : ∀ s : Store, (s.answer c).2 = s) (b : Backend) (limit : Option Duration) :
    (b.finish c limit).2 = b := by
  unfold finish serve
  split
  · rfl
  · split
    · simp only [reads]
    · rfl

theorem call_reading (reads : ∀ s : Store, (s.answer c).2 = s) (b : Backend) (limit : Option Duration) :
    (b.call c limit).2 = b.arrive.2 := by
  unfold call
  cases b.arrive with
  | mk fault arrived =>
    cases fault with
    | some e => rfl
    | none => exact finish_reading reads arrived limit

theorem script_arrive (b : Backend) : b.arrive.2.script = b.script.tail ∧ b.arrive.2.reachable = b.reachable := by
  unfold arrive
  split
  · rename_i script
    exact ⟨by rw [script]; rfl, rfl⟩
  · rename_i script
    exact ⟨by rw [script]; rfl, rfl⟩

theorem finish_memory {m : Memory} (tables : b.store = .memory m) (c : Call) (limit : Option Duration) :
    (b.finish c limit).2.store = .memory m ∨ (b.finish c limit).2.store = .memory (m.answer c).2 := by
  cases finished : b.finish c limit with
  | mk result after =>
    cases result with
    | error e => rw [finish_error finished]; exact .inl tables
    | ok a =>
      have answered := finish_ok finished
      rw [tables, Store.answer_memory] at answered
      exact .inr (Prod.mk.inj answered).2.symm

theorem call_ok {a : c.Answer} (called : b.call c limit = (.ok a, b')) :
    b.store.answer c = (.ok a, b'.store) := by
  have kept := store_arrive b
  unfold call at called
  cases met : b.arrive with
  | mk fault arrived =>
    rw [met] at called kept
    cases fault with
    | some e => simp only [Prod.mk.injEq, reduceCtorEq, false_and] at called
    | none => rw [← kept]; exact finish_ok called

theorem call_error {e : StoreError} (failed : b.call c limit = (.error e, b')) : b'.store = b.store := by
  have kept := store_arrive b
  unfold call at failed
  cases met : b.arrive with
  | mk fault arrived =>
    rw [met] at failed kept
    cases fault with
    | some e => rw [← (Prod.mk.inj failed).2]; exact kept
    | none => rw [finish_error failed]; exact kept

-- What the answer to a call keeps of the tables is kept whatever the call meets.
theorem finish_keeps {P : Store → Prop} (answered : ∀ s : Store, P s → P (s.answer c).2) (before : P b.store)
    (limit : Option Duration) : P (b.finish c limit).2.store := by
  have kept := answered b.store before
  cases finished : b.finish c limit with
  | mk result after =>
    cases result with
    | ok a =>
      rw [finish_ok finished] at kept
      exact kept
    | error e =>
      rw [finish_error finished]
      exact before

theorem call_keeps {P : Store → Prop} (answered : ∀ s : Store, P s → P (s.answer c).2) (before : P b.store)
    (limit : Option Duration) : P (b.call c limit).2.store := by
  have kept := answered b.store before
  cases called : b.call c limit with
  | mk result after =>
    cases result with
    | ok a =>
      rw [call_ok called] at kept
      exact kept
    | error e =>
      show P after.store
      rw [call_error called]
      exact before

-- Latency is no ailment by itself: it hurts only a reader that does not wait for the answer.
structure Healthy (b : Backend) : Prop where
  reachable : b.reachable = true
  clear : ∀ fault ∈ b.script, fault = none

instance (b : Backend) : Decidable b.Healthy :=
  decidable_of_iff (b.reachable = true ∧ ∀ fault ∈ b.script, fault = none)
    ⟨fun ⟨reachable, clear⟩ => ⟨reachable, clear⟩, fun ⟨reachable, clear⟩ => ⟨reachable, clear⟩⟩

theorem Healthy.arrive (healthy : b.Healthy) : b.arrive.1 = none ∧ b.arrive.2.Healthy := by
  unfold Backend.arrive
  split
  · exact ⟨rfl, healthy.reachable, healthy.clear⟩
  · rename_i fault rest script
    have clear := healthy.clear
    rw [script] at clear
    exact ⟨clear fault List.mem_cons_self, healthy.reachable,
      fun later member => clear later (List.mem_cons_of_mem _ member)⟩

theorem Healthy.withStore (healthy : b.Healthy) (store : Store) : ({ b with store } : Backend).Healthy :=
  ⟨healthy.reachable, healthy.clear⟩

theorem Healthy.addFaults_iff (healthy : b.Healthy) (script : List Fault) :
    (b.addFaults script).Healthy ↔ ∀ fault ∈ script, fault = none := by
  constructor
  · exact fun after fault member => after.clear fault (List.mem_append_right _ member)
  · refine fun clear => ⟨healthy.reachable, fun fault member => ?_⟩
    rcases List.mem_append.1 member with old | new
    · exact healthy.clear fault old
    · exact clear fault new

theorem Healthy.reach_iff (healthy : b.Healthy) (on : Bool) : (b.setReachable on).Healthy ↔ on = true :=
  ⟨fun after => after.reachable, fun reachable => ⟨reachable, healthy.clear⟩⟩

theorem Healthy.serve {a : c.Answer} {store : Store} (healthy : b.Healthy) (answered : b.store.answer c = (.ok a, store)) :
    b.serve c = (.ok a, { b with store }) := by
  unfold Backend.serve
  rw [if_pos healthy.reachable, answered]

theorem patience_arrive (b : Backend) (limit : Option Duration) : b.arrive.2.patience limit = b.patience limit := by
  unfold arrive
  split <;> rfl

theorem Healthy.finish_patient {m : Memory} (healthy : b.Healthy) (tables : b.store = .memory m)
    (patient : (b.patience limit).2 = false) (c : Call) :
    b.finish c limit = (.ok (m.answer c).1, { b with store := .memory (m.answer c).2 }) := by
  unfold Backend.finish
  rw [if_neg (by rw [patient]; exact Bool.false_ne_true)]
  exact healthy.serve (tables ▸ Store.answer_memory c m)

-- A caller without a limit never gives up.
theorem Healthy.finish {a : c.Answer} {store : Store} (healthy : b.Healthy)
    (answered : b.store.answer c = (.ok a, store)) : b.finish c none = (.ok a, { b with store }) :=
  healthy.serve answered

theorem Healthy.call {a : c.Answer} {store : Store} (healthy : b.Healthy)
    (answered : b.store.answer c = (.ok a, store)) :
    ∃ b', b.call c none = (.ok a, b') ∧ b'.Healthy ∧ b'.store = store := by
  obtain ⟨clear, later⟩ := healthy.arrive
  have kept := store_arrive b
  unfold Backend.call
  cases met : b.arrive with
  | mk fault arrived =>
    rw [met] at clear later kept
    cases clear
    exact ⟨_, later.finish (kept ▸ answered), later.withStore _, rfl⟩

theorem Healthy.after_call (healthy : b.Healthy) (c : Call) (limit : Option Duration) : (b.call c limit).2.Healthy := by
  obtain ⟨clear, later⟩ := healthy.arrive
  unfold Backend.call
  cases met : b.arrive with
  | mk fault arrived =>
    rw [met] at clear later
    cases clear
    show (arrived.finish c limit).2.Healthy
    unfold Backend.finish Backend.serve
    split
    · exact later
    · rw [if_pos later.reachable]
      exact later.withStore _

-- A store that nothing ails either answers in time or is given up, and then it has done nothing.
theorem Healthy.call_eq (healthy : b.Healthy) (c : Call) (limit : Option Duration) :
    (b.call c limit).1 =
        (if (b.patience limit).2 then .error (.timeout (limit.getD .zero)) else (b.store.answer c).1) ∧
      (b.call c limit).2.store = (if (b.patience limit).2 then b.store else (b.store.answer c).2) ∧
      (b.call c limit).2.latency = b.latency := by
  have kept := store_arrive b
  have patience := patience_arrive b limit
  have latency : b.arrive.2.latency = b.latency := by
    unfold Backend.arrive
    split <;> rfl
  obtain ⟨clear, later⟩ := healthy.arrive
  unfold Backend.call
  cases met : b.arrive with
  | mk fault arrived =>
    rw [met] at kept patience latency clear later
    dsimp only at kept patience latency clear
    have reachable : arrived.reachable = true := later.reachable
    subst clear
    dsimp only
    unfold Backend.finish Backend.serve
    rw [patience, reachable, kept]
    split
    · exact ⟨rfl, kept, latency⟩
    · exact ⟨rfl, rfl, latency⟩

end Backend

namespace Routine

variable {σ α : Type}

theorem healthy_run (r : Routine σ α) (s : σ) {b : Backend} (healthy : b.Healthy) : (r.run s b).2.2.Healthy := by
  induction r generalizing s b with
  | done a => exact healthy
  | get next ih => exact ih s s healthy
  | put s' next ih => exact ih s' healthy
  | ask c limit next ih => exact ih _ s (healthy.after_call c limit)

end Routine

end Turnstile
