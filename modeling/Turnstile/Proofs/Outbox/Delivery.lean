import Turnstile.Proofs.Store.Calls
namespace Turnstile

namespace Outbox

variable {σ : Type} {o : Outbox} {b : Backend} {w : Write} {rest : List Write}

inductive Tried (w : Write) (before : Backend) : Except StoreError w.call.Answer × Backend → Prop where
  | applied {a : w.call.Answer} {after : Backend}
      (answered : before.store.answer w.call = (.ok a, after.store)) : Tried w before (.ok a, after)
  | gaveUp {e : StoreError} {after : Backend} (untouched : after.store = before.store) :
      Tried w before (.error e, after)

theorem Tried.call (w : Write) (b : Backend) : Tried w b (b.call w.call none) := by
  cases called : b.call w.call none with
  | mk result after =>
    cases result with
    | ok a => exact .applied (Backend.call_ok called)
    | error e => exact .gaveUp (Backend.call_error called)

-- A failed try changes nothing, so that what follows it may be told from where it began.
theorem Tried.after_failure {w : Write} {b middle : Backend} {r : Except StoreError w.call.Answer × Backend}
    (same : middle.store = b.store) (later : Tried w middle r) : Tried w b r := by
  cases later with
  | applied answered => exact .applied (same ▸ answered)
  | gaveUp untouched => exact .gaveUp (untouched.trans same)

theorem tried_executeFrom (r : Retry) (w : Write) (left n : Nat) (s : σ) (b : Backend) :
    ∃ result, (Retry.executeFrom r (Routine.call w.call : Routine σ _) (fun _ => pure ()) left n).run s b =
      (result.1, s, result.2) ∧ Tried w b result := by
  induction left generalizing n b with
  | zero => exact ⟨_, Routine.run_call .., Tried.call w b⟩
  | succ left ih =>
    have first := Tried.call w b
    simp only [Retry.executeFrom, Routine.run_bind, Routine.run_call]
    cases called : b.call w.call none with
    | mk answer after =>
      rw [called] at first
      cases answer with
      | ok a => exact ⟨(.ok a, after), rfl, first⟩
      | error e =>
        cases first with
        | gaveUp untouched =>
          by_cases again : e.isTransient = true
          · obtain ⟨result, ran, tried⟩ := ih (n + 1) after
            refine ⟨result, ?_, tried.after_failure untouched⟩
            simpa only [again, if_true, Routine.run_bind, Routine.run_pure] using ran
          · refine ⟨(.error e, after), ?_, .gaveUp untouched⟩
            simp only [again, Bool.false_eq_true, if_false, Routine.run_pure]

theorem tried_attempt (r : Retry) (w : Write) (s : σ) (b : Backend) :
    ∃ result, (attempt r w).run s b = (result.1, s, result.2) ∧ Tried w b result :=
  tried_executeFrom r w _ _ s b

theorem attempt_healthy {b : Backend} {w : Write} {a : w.call.Answer} {store : Store} (healthy : b.Healthy)
    (answered : b.store.answer w.call = (.ok a, store)) (r : Retry) (s : σ) :
    ∃ after, (attempt r w).run s b = (.ok a, s, after) ∧ after.Healthy ∧ after.store = store := by
  obtain ⟨after, called, stays, changed⟩ := healthy.call answered
  refine ⟨after, ?_, stays, changed⟩
  unfold attempt Retry.execute
  cases r.attempts - 1 with
  | zero => rw [Retry.executeFrom, Routine.run_call, called]
  | succ left =>
    rw [Retry.executeFrom, Routine.run_bind, Routine.run_call, called]
    rfl

theorem attempt_once {σ : Type} {b : Backend} (healthy : b.Healthy) (r : Retry) (w : Write) (s : σ) :
    (attempt r w).run s b = ((b.call w.call none).1, s, (b.call w.call none).2) := by
  unfold attempt Retry.execute
  cases r.attempts - 1 with
  | zero => rfl
  | succ left =>
    rw [Retry.executeFrom, Routine.run_bind, Routine.run_call]
    cases answered : (b.call w.call none).1 with
    | ok a => rfl
    | error e =>
      have heard := (healthy.call_eq w.call none).1
      rw [answered] at heard
      have lasting : e.isTransient = false := Store.answer_lasting (Prod.ext heard.symm rfl)
      simp only [lasting, Bool.false_eq_true, if_false]
      rfl

theorem run_deliver_of_nil (empty : o.pending = []) : deliver.run o b = ((), o, b) := by
  have none : takeNext o = (none, o) := by
    unfold takeNext
    rw [empty]
  simp only [deliver, Routine.run_bind, Routine.run_update, none, Routine.run_pure]

theorem run_deliver_of_cons (queued : o.pending = w :: rest) :
    deliver.run o b = ((),
      settle ((attempt o.retry w).run { o with pending := rest } b).1
        ((attempt o.retry w).run { o with pending := rest } b).2.1,
      ((attempt o.retry w).run { o with pending := rest } b).2.2) := by
  have taken : takeNext o = (some w, { o with pending := rest }) := by
    unfold takeNext
    rw [queued]
  simp only [deliver, Routine.run_bind, Routine.run_update, taken, Routine.run_state, Routine.run_change]

end Outbox

namespace World

variable {ν : Type}

def pending (w : World ν) : List Write := w.gate.tally.outbox.pending

-- The queue and the store once the first write is out of the queue, and what became of it.
inductive Delivery (w : World ν) : World ν → Prop where
  | idle (empty : w.pending = []) : Delivery w w
  | applied {first : Write} {rest : List Write} {a : first.call.Answer} {backend : Backend}
      (queued : w.pending = first :: rest)
      (answered : w.backend.store.answer first.call = (.ok a, backend.store)) :
      Delivery w { w with
        gate := w.gate.setOutbox
          { w.gate.tally.outbox with pending := rest, applied := w.gate.tally.outbox.applied + 1 }
        backend }
  | lost {first : Write} {rest : List Write} {backend : Backend}
      (queued : w.pending = first :: rest) (untouched : backend.store = w.backend.store) :
      Delivery w { w with
        gate := w.gate.setOutbox
          { w.gate.tally.outbox with pending := rest, failed := w.gate.tally.outbox.failed + 1 }
        backend }

theorem deliver_eq (w : World ν) : w.deliver = { w with
    gate := w.gate.setOutbox (Outbox.deliver.run w.gate.tally.outbox w.backend).2.1
    backend := (Outbox.deliver.run w.gate.tally.outbox w.backend).2.2 } := by
  have focused := Routine.run_focus (fun g : Gate ν => g.tally.outbox) Gate.setOutbox
    (fun _ _ => rfl) (fun _ => rfl) (fun _ _ _ => rfl) Outbox.deliver w.gate w.backend
  unfold deliver Gate.deliver
  rw [focused]

theorem deliver_of_nil {w : World ν} (empty : w.pending = []) : w.deliver = w := by
  rw [deliver_eq, Outbox.run_deliver_of_nil empty]
  rfl

theorem deliver_of_cons {w : World ν} {first : Write} {rest : List Write} (queued : w.pending = first :: rest) :
    w.deliver = { w with
      gate := w.gate.setOutbox (Outbox.settle
        ((Outbox.attempt w.gate.tally.outbox.retry first).run { w.gate.tally.outbox with pending := rest }
          w.backend).1
        ((Outbox.attempt w.gate.tally.outbox.retry first).run { w.gate.tally.outbox with pending := rest }
          w.backend).2.1)
      backend := ((Outbox.attempt w.gate.tally.outbox.retry first).run
        { w.gate.tally.outbox with pending := rest } w.backend).2.2 } := by
  rw [deliver_eq, Outbox.run_deliver_of_cons queued]

theorem deliver_cases (w : World ν) : Delivery w w.deliver := by
  cases queued : w.pending with
  | nil => rw [deliver_of_nil queued]; exact .idle queued
  | cons first rest =>
    obtain ⟨result, ran, tried⟩ := Outbox.tried_attempt w.gate.tally.outbox.retry first
      { w.gate.tally.outbox with pending := rest } w.backend
    rw [deliver_of_cons queued, ran]
    cases tried with
    | applied answered => exact .applied queued answered
    | gaveUp untouched => exact .lost queued untouched

theorem deliver_healthy {w : World ν} {first : Write} {rest : List Write} {a : first.call.Answer} {store : Store}
    (healthy : w.backend.Healthy) (queued : w.pending = first :: rest)
    (answered : w.backend.store.answer first.call = (.ok a, store)) :
    ∃ backend, w.deliver = { w with
        gate := w.gate.setOutbox
          { w.gate.tally.outbox with pending := rest, applied := w.gate.tally.outbox.applied + 1 }
        backend } ∧ backend.Healthy ∧ backend.store = store := by
  obtain ⟨backend, ran, stays, changed⟩ := Outbox.attempt_healthy healthy answered
    w.gate.tally.outbox.retry { w.gate.tally.outbox with pending := rest }
  exact ⟨backend, by rw [deliver_of_cons queued, ran]; rfl, stays, changed⟩

theorem deliver_once {w : World ν} {first : Write} {rest : List Write} (healthy : w.backend.Healthy) (queued : w.pending = first :: rest) :
    w.deliver = { w with
      gate := w.gate.setOutbox (Outbox.settle (w.backend.call first.call none).1
        { w.gate.tally.outbox with pending := rest })
      backend := (w.backend.call first.call none).2 } := by
  rw [deliver_of_cons queued, Outbox.attempt_once healthy]

theorem pending_deliver {w : World ν} {first : Write} {rest : List Write} (queued : w.pending = first :: rest) :
    w.deliver.pending = rest := by
  have told := deliver_cases w
  generalize w.deliver = after at told
  cases told with
  | idle empty => rw [queued] at empty; cases empty
  | applied same answered => rw [queued] at same; cases same; rfl
  | lost same untouched => rw [queued] at same; cases same; rfl

theorem pending_deliverMany (n : Nat) (w : World ν) : (deliverMany n w).pending = w.pending.drop n := by
  induction n generalizing w with
  | zero => rfl
  | succ n ih =>
    show (deliverMany n w.deliver).pending = _
    rw [ih]
    cases queued : w.pending with
    | nil => rw [deliver_of_nil queued, queued, List.drop_nil, List.drop_nil]
    | cons first rest => rw [pending_deliver queued, List.drop_succ_cons]

theorem pending_flush (w : World ν) : w.flush.pending = [] := by
  show (deliverMany w.pending.length w).pending = []
  rw [pending_deliverMany, List.drop_length]

theorem healthy_deliver {w : World ν} (healthy : w.backend.Healthy) : w.deliver.backend.Healthy := by
  rw [deliver_eq]
  exact Routine.healthy_run _ _ healthy

end World

end Turnstile
