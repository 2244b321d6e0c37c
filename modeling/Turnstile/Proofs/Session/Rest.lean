import Turnstile.Proofs.World.Perform
import Turnstile.Session.Prompt
namespace Turnstile.Session

variable {ν : Type} {w : World ν} {s : Session ν}

-- The gate and the store are as they were, up to events that wait to be handed over.
structure Resting (w : World ν) (s : Session ν) : Prop where
  gate : ∃ trail, s.gate = { w.gate with trail }
  backend : s.backend = w.backend
  queued : w.pending = []
  writing : s.writing = none
  sweeping : s.sweeping = none
  ticker : s.ticker = .idle

namespace Resting

theorem ofWorld (queued : w.pending = []) : Resting w (ofWorld w) := ⟨⟨w.gate.trail, rfl⟩, rfl, queued, rfl, rfl, rfl⟩

theorem called (resting : Resting w s) (h : Hand) : Resting w (s.call h) := by
  unfold call
  split
  · exact resting
  · exact ⟨resting.gate, resting.backend, resting.queued, resting.writing, resting.sweeping, resting.ticker⟩

theorem either {c : Prop} [Decidable c] {s' : Session ν} (resting : Resting w s) (other : Resting w s') :
    Resting w (if c then s else s') := by
  split
  · exact resting
  · exact other

theorem noticed (resting : Resting w s) : Resting w s.notice := by
  have written : Resting w (if s.pendingWrites.isEmpty || s.writing.isSome then s else s.call .writer) :=
    resting.either (resting.called .writer)
  exact written.either (written.called .auditor)

theorem timed (resting : Resting w s) (time : Nat) : Resting w (s.setTime time) := by
  have later : Resting w { s with time } :=
    ⟨resting.gate, resting.backend, resting.queued, resting.writing, resting.sweeping, resting.ticker⟩
  have written (c : Prop) [Decidable c] : Resting w (if c then ({ s with time } : Session ν).call .writer else { s with time }) :=
    (later.called .writer).either later
  exact ((written _).called .ticker).either (written _)

theorem audited (resting : Resting w s) : Resting w s.runAuditor := by
  obtain ⟨trail, gate⟩ := resting.gate
  refine ⟨⟨(s.sink.drain s.gate.trail).2, ?_⟩, resting.backend, resting.queued, resting.writing, resting.sweeping,
    resting.ticker⟩
  show ({ s.gate with trail := (s.sink.drain s.gate.trail).2 } : Gate ν) = _
  rw [gate]

variable [Quantity ν]

theorem handed (resting : Resting w s) (h : Hand) : Resting w (s.runHand h) := by
  cases h with
  | writer =>
    obtain ⟨trail, gate⟩ := resting.gate
    have queued : s.pendingWrites = [] := by
      unfold pendingWrites
      rw [gate]
      exact resting.queued
    unfold runHand runWriter
    rw [resting.writing, queued]
    exact resting
  | auditor => exact resting.audited
  | ticker =>
    unfold runHand runTicker
    rw [resting.sweeping]
    unfold tick
    rw [resting.ticker]
    exact ⟨resting.gate, resting.backend, resting.queued, resting.writing, resting.sweeping, rfl⟩

theorem worked (resting : Resting w s) (hands : List Hand) : Resting w (hands.foldl runHand s) := by
  induction hands generalizing s with
  | nil => exact resting
  | cons h hands ih => exact ih (resting.handed h)

theorem settle (resting : Resting w s) : Resting w s.settle := by
  have noticed := resting.noticed
  have taken : Resting w { s.notice with ready := [] } :=
    ⟨noticed.gate, noticed.backend, noticed.queued, noticed.writing, noticed.sweeping, noticed.ticker⟩
  exact (taken.worked s.notice.ready).audited

theorem waited (resting : Resting w s) (busy : Session ν → Bool) (deadline : Nat) : Resting w (s.wait busy deadline) := by
  fun_induction wait busy deadline s with
  | case1 s settled more wake early ih => exact ih (resting.settle.timed wake)
  | case2 s settled more wake late => exact resting.settle.timed deadline
  | case3 s settled finished => exact resting.settle

theorem passed (resting : Resting w s) (millis : Nat) : Resting w (s.pass millis) := by
  unfold pass
  split
  · exact resting
  · exact resting.waited _ _

end Resting

theorem perform_andThen [Quantity ν] {α β : Type} (r : Routine (Gate ν) α) (f : α → Routine (Gate ν) β)
    (s : Session ν) : perform (r.andThen f) s = perform (f (perform r s).1) (perform r s).2 := by
  induction r generalizing s with
  | done a => rfl
  | get next ih => exact ih s.gate s
  | put gate next ih => exact ih { s with gate }
  | ask c limit next ih =>
    simp only [Routine.andThen, perform]
    cases s.backend.arrive with
    | mk fault backend =>
      cases fault with
      | some e => exact ih _ _
      | none => exact ih _ _

theorem perform_map [Quantity ν] {α β : Type} (f : α → β) (r : Routine (Gate ν) α) (s : Session ν) :
    perform (f <$> r) s = (f (perform r s).1, (perform r s).2) := perform_andThen r _ s

theorem perform_state [Quantity ν] {β : Type} (next : Gate ν → Routine (Gate ν) β) (s : Session ν) :
    perform (Routine.state >>= next) s = perform (next s.gate) s := rfl

-- A question of somebody who does not give up is answered from the tables as they were.
theorem perform_resting [Quantity ν] (resting : Resting w s) (clear : w.backend.arrive.1 = none) (c : Call) :
    ∃ s', Resting { w with backend := w.backend.arrive.2 } s' ∧
      ∀ {α : Type} (next : Except StoreError c.Answer → Routine (Gate ν) α),
        perform (.ask c none next) s = perform (next (w.backend.arrive.2.serve c).1)
          { s' with backend := (w.backend.arrive.2.serve c).2 } := by
  have arrived : s.backend.arrive = (none, w.backend.arrive.2) := by
    rw [resting.backend]
    exact Prod.ext clear rfl
  have there : Resting { w with backend := w.backend.arrive.2 } { s with backend := w.backend.arrive.2 } :=
    ⟨resting.gate, rfl, resting.queued, resting.writing, resting.sweeping, resting.ticker⟩
  have passed := there.passed (w.backend.arrive.2.patience none).1
  refine ⟨_, passed, fun next => ?_⟩
  rw [perform, arrived]
  dsimp only
  rw [ite_self]
  unfold finishCall
  dsimp only
  rw [passed.backend]

theorem start_resting [Quantity ν] {rows : List Ban} (resting : Resting w s) (healthy : w.backend.Healthy)
    (answered : w.backend.store.answer (.active w.gate.now) = (.ok rows, w.backend.store)) :
    ∃ trail, s.start.gate = { (w.gate.merge w.gate.now rows).2 with trail } := by
  obtain ⟨clear, later⟩ := healthy.arrive
  obtain ⟨trail, gate⟩ := resting.gate
  have now : s.gate.now = w.gate.now := by rw [gate]
  obtain ⟨s', rested, performed⟩ := perform_resting resting clear (.active s.gate.now)
  obtain ⟨trail', gate'⟩ := rested.gate
  have served : w.backend.arrive.2.serve (.active s.gate.now) =
      (.ok rows, { w.backend.arrive.2 with store := w.backend.store }) :=
    later.serve (by rw [now, Backend.store_arrive]; exact answered)
  have restored : (perform (Gate.restore : Routine (Gate ν) _) s).2.gate = (s'.gate.merge s.gate.now rows).2 := by
    unfold Gate.restore
    rw [perform_state]
    refine (congrArg (fun answer : Except StoreError Nat × Session ν => answer.2.gate) (performed _)).trans ?_
    rw [served]
    rfl
  have commanded : (s.command .restore).2.gate = (s'.gate.merge s.gate.now rows).2 := by
    have mapped := perform_map Reply.restored (Gate.restore : Routine (Gate ν) _) s
    refine (congrArg World.gate (toWorld_notice _)).trans ?_
    exact (congrArg (fun answer : Reply × Session ν => answer.2.gate) mapped).trans restored
  have started : s.start.gate = (s.command .restore).2.gate := by
    unfold start
    dsimp only
    split
    · exact congrArg World.gate (toWorld_call _ _)
    · rfl
  refine ⟨trail', ?_⟩
  rw [started, commanded, gate', now]
  rfl

end Turnstile.Session
