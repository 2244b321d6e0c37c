import Mathlib.Algebra.GroupWithZero.Nat
import Turnstile.Proofs.Outbox.Delivery
namespace Turnstile

namespace Outbox

-- What became of a write: how often the store was called for it, and why it was given up if it was.
structure Delivered where
  write : Write
  tries : Nat
  fault : Option StoreError

def Delivered.isApplied (d : Delivered) : Bool := d.fault.isNone

def Delivered.apply (s : Store) (d : Delivered) : Store := if d.isApplied then (s.answer d.write.call).2 else s

-- Tried at least once and no more often than allowed; less often only if it went through or another try is of no use.
structure Delivered.Within (most : Nat) (d : Delivered) : Prop where
  least : 1 ≤ d.tries
  bounded : d.tries ≤ most
  spent : ∀ e, d.fault = some e → e.isTransient = true → d.tries = most

def fault? {α : Type} : Except StoreError α → Option StoreError
  | .ok _ => none
  | .error e => some e

-- The write that is delivered next, if there is one, told from its tries.
def next (o : Outbox) (b : Backend) : List Delivered :=
  match o.pending with
  | [] => []
  | w :: rest =>
    let (result, _, after) := (attempt o.retry w).run { o with pending := rest } b
    [⟨w, after.calls - b.calls, fault? result⟩]

def nextMany : Nat → Outbox → Backend → List Delivered
  | 0, _, _ => []
  | n + 1, o, b => next o b ++ nextMany n (deliver.run o b).2.1 (deliver.run o b).2.2

structure Ledger where
  outbox : Outbox
  backend : Backend
  handedIn : List (Write × Bool)
  delivered : List Delivered

inductive Errand where
  | submit (w : Write)
  | deliver
  | flush
  | faults (script : List Fault)
  | reach (on : Bool)

namespace Ledger

def start (o : Outbox) (b : Backend) : Ledger := ⟨o, b, [], []⟩

def step (l : Ledger) : Errand → Ledger
  | .submit w =>
    { l with outbox := (l.outbox.submit w).2, handedIn := l.handedIn ++ [(w, (l.outbox.submit w).1)] }
  | .deliver =>
    { l with
      outbox := (deliver.run l.outbox l.backend).2.1
      backend := (deliver.run l.outbox l.backend).2.2
      delivered := l.delivered ++ next l.outbox l.backend }
  | .flush =>
    { l with
      outbox := (l.outbox.flush l.backend).1
      backend := (l.outbox.flush l.backend).2
      delivered := l.delivered ++ nextMany l.outbox.pending.length l.outbox l.backend }
  | .faults script => { l with backend := l.backend.addFaults script }
  | .reach on => { l with backend := l.backend.setReachable on }

def run (l : Ledger) (errands : List Errand) : Ledger := errands.foldl step l

def taken (l : Ledger) : List Write := (l.handedIn.filter (·.2)).map Prod.fst

end Ledger

variable {o : Outbox} {b : Backend} {w : Write} {rest : List Write}

theorem calls_call (c : Call) (limit : Option Duration) (b : Backend) : (b.call c limit).2.calls = b.calls + 1 := by
  have arrived : b.arrive.2.calls = b.calls + 1 := by
    unfold Backend.arrive
    split <;> rfl
  unfold Backend.call
  cases met : b.arrive with
  | mk fault after =>
    rw [met] at arrived
    cases fault with
    | some e => exact arrived
    | none =>
      refine Eq.trans ?_ arrived
      show (after.finish c limit).2.calls = after.calls
      unfold Backend.finish Backend.serve
      split
      · rfl
      · split <;> rfl

theorem tries_executeFrom {σ : Type} (r : Retry) (w : Write) (left n : Nat) (s : σ) (b : Backend) :
    ∃ result after tries, (Retry.executeFrom r (Routine.call w.call : Routine σ _) (fun _ => pure ()) left n).run s b =
      (result, s, after) ∧ after.calls = b.calls + tries ∧ Delivered.Within (left + 1) ⟨w, tries, fault? result⟩ := by
  induction left generalizing n b with
  | zero => exact ⟨_, _, 1, rfl, calls_call w.call none b, Nat.le_refl _, Nat.le_refl _, fun _ _ _ => rfl⟩
  | succ left ih =>
    have once := calls_call w.call none b
    simp only [Retry.executeFrom, Routine.run_bind, Routine.run_call]
    cases called : b.call w.call none with
    | mk answer after =>
      rw [called] at once
      cases answer with
      | ok a =>
        refine ⟨.ok a, after, 1, rfl, once, Nat.le_refl _, Nat.le_add_left .., fun x failed => ?_⟩
        cases failed
      | error e =>
        by_cases again : e.isTransient = true
        · obtain ⟨result, last, tries, ran, calls, least, most, spent⟩ := ih (n + 1) after
          simp only [again, if_true, Routine.run_bind, Routine.run_pure]
          change after.calls = b.calls + 1 at once
          refine ⟨result, last, tries + 1, ran, by omega, Nat.le_add_left .., Nat.succ_le_succ most, ?_⟩
          exact fun x failed transient => congrArg Nat.succ (spent x failed transient)
        · simp only [again, Bool.false_eq_true, if_false, Routine.run_pure]
          refine ⟨.error e, after, 1, rfl, once, Nat.le_refl _, Nat.le_add_left .., fun x failed transient => ?_⟩
          cases failed
          exact absurd transient again

theorem tries_attempt {σ : Type} (r : Retry) (w : Write) (s : σ) (b : Backend) :
    ∃ result after tries, (attempt r w).run s b = (result, s, after) ∧ after.calls = b.calls + tries ∧
      Delivered.Within (max r.attempts 1) ⟨w, tries, fault? result⟩ := by
  have allowed : max r.attempts 1 = r.attempts - 1 + 1 := by omega
  rw [allowed]
  exact tries_executeFrom r w _ 1 s b

-- What one delivery does to a queue and its store, and what is entered for it.
inductive Served (o : Outbox) (b : Backend) : Outbox → Backend → List Delivered → Prop where
  | idle (empty : o.pending = []) : Served o b o b []
  | left {d : Delivered} {rest : List Write} {after : Backend} (queued : o.pending = d.write :: rest)
      (store : after.store = d.apply b.store) (calls : after.calls = b.calls + d.tries)
      (within : d.Within (max o.retry.attempts 1)) :
      Served o b
        { o with
          pending := rest
          applied := o.applied + d.isApplied.toNat
          failed := o.failed + (!d.isApplied).toNat }
        after [d]

theorem next_of_cons (queued : o.pending = w :: rest) :
    next o b = [⟨w, ((attempt o.retry w).run { o with pending := rest } b).2.2.calls - b.calls,
      fault? ((attempt o.retry w).run { o with pending := rest } b).1⟩] := by
  unfold next
  rw [queued]

theorem served (o : Outbox) (b : Backend) :
    Served o b (deliver.run o b).2.1 (deliver.run o b).2.2 (next o b) := by
  cases queued : o.pending with
  | nil =>
    have none : next o b = [] := by
      unfold next
      rw [queued]
    rw [run_deliver_of_nil queued, none]
    exact .idle queued
  | cons w rest =>
    obtain ⟨⟨result, after⟩, ran, tried⟩ := tried_attempt o.retry w { o with pending := rest } b
    obtain ⟨_, _, tries, same, calls, within⟩ := tries_attempt o.retry w { o with pending := rest } b
    cases ran.symm.trans same
    have counted : after.calls - b.calls = tries := by
      rw [calls]
      exact Nat.add_sub_cancel_left ..
    rw [run_deliver_of_cons queued, next_of_cons queued, ran, counted]
    cases tried with
    | applied answered =>
      refine .left (d := ⟨w, tries, none⟩) queued ?_ calls within
      show after.store = (b.store.answer w.call).2
      rw [answered]
    | @gaveUp e _ untouched => exact .left (d := ⟨w, tries, some e⟩) queued untouched calls within

structure Exact (room : Nat) (retry : Retry) (b : Backend) (l : Ledger) : Prop where
  capacity : l.outbox.capacity = room
  retries : l.outbox.retry = retry
  fifo : l.taken = l.delivered.map Delivered.write ++ l.outbox.pending
  store : l.backend.store = l.delivered.foldl Delivered.apply b.store
  within : ∀ d ∈ l.delivered, d.Within (max retry.attempts 1)
  calls : l.backend.calls = b.calls + (l.delivered.map Delivered.tries).sum
  applied : l.outbox.applied = l.delivered.countP Delivered.isApplied
  failed : l.outbox.failed = l.delivered.countP (!·.isApplied)
  dropped : l.outbox.dropped = l.handedIn.countP (!·.2)

theorem countP_single {α : Type} (p : α → Bool) (a : α) : [a].countP p = (p a).toNat := by
  rw [List.countP_cons, List.countP_nil, Nat.zero_add]
  cases p a <;> rfl

variable {room : Nat} {retry : Retry} {l : Ledger}

theorem exact_start (capacity : Nat) (retry : Retry) (b : Backend) :
    Exact (max capacity 1) retry b (.start (.make capacity retry) b) where
  capacity := rfl
  retries := rfl
  fifo := rfl
  store := rfl
  within _ member := absurd member List.not_mem_nil
  calls := rfl
  applied := rfl
  failed := rfl
  dropped := rfl

theorem Exact.submit (exact : Exact room retry b l) (w : Write) : Exact room retry b (l.step (.submit w)) := by
  have fifo := exact.fifo
  have dropped := exact.dropped
  unfold Ledger.taken at fifo
  simp only [Ledger.step, Outbox.submit]
  split
  · refine { exact with fifo := ?_, dropped := ?_ }
    · simp only [Ledger.taken, List.filter_append, List.map_append, fifo]
      rw [List.append_assoc]
      rfl
    · simp only [List.countP_append, dropped]
      rfl
  · refine { exact with fifo := ?_, dropped := ?_ }
    · simp only [Ledger.taken, List.filter_append, List.map_append, fifo]
      exact List.append_nil _
    · simp only [List.countP_append, dropped]
      rfl

theorem Exact.served {o : Outbox} {after : Backend} {entry : List Delivered} (exact : Exact room retry b l)
    (served : Served l.outbox l.backend o after entry) :
    Exact room retry b { l with outbox := o, backend := after, delivered := l.delivered ++ entry } := by
  have fifo := exact.fifo
  cases served with
  | idle empty =>
    rw [List.append_nil]
    exact exact
  | @left d rest after queued store calls within =>
    rw [queued] at fifo
    rw [exact.retries] at within
    refine { exact with fifo := ?_, store := ?_, within := ?_, calls := ?_, applied := ?_, failed := ?_ }
    · rw [List.map_append, List.append_assoc]
      exact fifo
    · rw [List.foldl_append, ← exact.store]
      exact store
    · intro other member
      rcases List.mem_append.1 member with old | new
      · exact exact.within other old
      · rw [List.mem_singleton.1 new]
        exact within
    · rw [calls, exact.calls, List.map_append, List.sum_append, Nat.add_assoc]
      rfl
    · rw [List.countP_append, ← exact.applied, countP_single]
    · rw [List.countP_append, ← exact.failed, countP_single]

theorem Exact.deliverMany (exact : Exact room retry b l) (n : Nat) :
    Exact room retry b { l with
      outbox := (Outbox.deliverMany n l.outbox l.backend).1
      backend := (Outbox.deliverMany n l.outbox l.backend).2
      delivered := l.delivered ++ nextMany n l.outbox l.backend } := by
  induction n generalizing l with
  | zero =>
    show Exact room retry b { l with delivered := l.delivered ++ [] }
    rw [List.append_nil]
    exact exact
  | succ n ih =>
    have later := ih (exact.served (Outbox.served l.outbox l.backend))
    dsimp only at later
    rw [List.append_assoc] at later
    exact later

theorem Exact.step (exact : Exact room retry b l) (errand : Errand) : Exact room retry b (l.step errand) := by
  cases errand with
  | submit w => exact exact.submit w
  | deliver => exact exact.served (Outbox.served l.outbox l.backend)
  | flush => exact exact.deliverMany l.outbox.pending.length
  | faults script => exact { exact with }
  | reach on => exact { exact with }

theorem Exact.run (exact : Exact room retry b l) (errands : List Errand) : Exact room retry b (l.run errands) := by
  induction errands generalizing l with
  | nil => exact exact
  | cons errand rest ih => exact ih (exact.step errand)

theorem pending_deliverMany (n : Nat) (o : Outbox) (b : Backend) :
    (Outbox.deliverMany n o b).1.pending = o.pending.drop n := by
  induction n generalizing o b with
  | zero => rfl
  | succ n ih =>
    show (Outbox.deliverMany n (deliver.run o b).2.1 (deliver.run o b).2.2).1.pending = _
    rw [ih]
    have told := served o b
    generalize (deliver.run o b).2.1 = later, (deliver.run o b).2.2 = after, next o b = entry at told
    cases told with
    | idle empty => rw [empty, List.drop_nil, List.drop_nil]
    | left queued => rw [queued]; rfl

theorem pending_flush (o : Outbox) (b : Backend) : (o.flush b).1.pending = [] := by
  unfold Outbox.flush
  rw [pending_deliverMany, List.drop_length]

-- Every write that was handed in has been applied, given up or dropped, or still waits.
theorem Exact.total (exact : Exact room retry b l) :
    l.handedIn.length = l.outbox.applied + l.outbox.failed + l.outbox.dropped + l.outbox.pending.length := by
  have taken : l.handedIn.countP (·.2) = l.delivered.length + l.outbox.pending.length := by
    have lengths := congrArg List.length exact.fifo
    simp only [Ledger.taken, List.length_map, List.length_append] at lengths
    rw [List.countP_eq_length_filter, lengths]
  have handed := List.length_eq_countP_add_countP (fun entry : Write × Bool => entry.2) (l := l.handedIn)
  have left := List.length_eq_countP_add_countP Delivered.isApplied (l := l.delivered)
  simp only [Bool.not_eq_true, Bool.decide_eq_false] at handed left
  rw [exact.applied, exact.failed, exact.dropped]
  omega

-- The queue takes what it has room for, and is drained in order; the tables show exactly what went through.
theorem ledger_exact (capacity : Nat) (retry : Retry) (b : Backend) (errands : List Errand) :
    let l := (Ledger.start (.make capacity retry) b).run errands
    (∀ w, (l.outbox.submit w).1 = true ↔ l.outbox.pending.length < max capacity 1) ∧
      l.taken = l.delivered.map Delivered.write ++ l.outbox.pending ∧
      l.backend.store = l.delivered.foldl Delivered.apply b.store ∧
      (∀ d ∈ l.delivered, d.Within (max retry.attempts 1)) ∧
      l.backend.calls = b.calls + (l.delivered.map Delivered.tries).sum ∧
      (l.outbox.applied = l.delivered.countP Delivered.isApplied ∧
        l.outbox.failed = l.delivered.countP (!·.isApplied) ∧ l.outbox.dropped = l.handedIn.countP (!·.2)) ∧
      l.handedIn.length = l.outbox.applied + l.outbox.failed + l.outbox.dropped + l.outbox.pending.length ∧
      (l.step .flush).outbox.pending = [] ∧ (l.step .flush).delivered.map Delivered.write = l.taken := by
  intro l
  have exact : Exact (max capacity 1) retry b l := (exact_start capacity retry b).run errands
  have drained : (l.step .flush).outbox.pending = [] := pending_flush l.outbox l.backend
  have after := (exact.step .flush).fifo
  rw [drained, List.append_nil] at after
  refine ⟨fun w => ?_, exact.fifo, exact.store, exact.within, exact.calls, ⟨exact.applied, exact.failed, exact.dropped⟩,
    exact.total, drained, after.symm⟩
  unfold submit
  rw [exact.capacity]
  split
  · rename_i room
    exact iff_of_true rfl room
  · rename_i full
    exact iff_of_false Bool.false_ne_true full

-- A write that needs two tries does not hold up the one behind it; a third one finds the queue full.
example :
    let l := (Ledger.start (.make 2 (.make 3 (.ofMillis 10) none)) .memory).run
      [.faults [some (.timeout .zero)], .submit (.window "a" "login" 0 .failed), .submit (.window "b" "login" 0 .failed),
        .submit (.window "c" "login" 0 .failed), .flush]
    l.delivered.map Delivered.tries = [2, 1] ∧ l.outbox.applied = 2 ∧ l.outbox.dropped = 1 := by decide

end Outbox

end Turnstile
