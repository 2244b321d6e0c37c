import Turnstile.Session
namespace Turnstile

namespace Backend

theorem latency_arrive (b : Backend) : b.arrive.2.latency = b.latency := by
  unfold arrive; split <;> rfl

theorem latency_serve (b : Backend) (c : Call) : (b.serve c).2.latency = b.latency := by
  unfold serve; split <;> rfl

-- A limit of zero is no limit here: the store has answered before any time is up.
theorem patience_of_prompt {b : Backend} (prompt : b.latency = 0) (limit : Option Duration) :
    b.patience limit = (0, false) := by
  unfold patience; cases limit <;> simp [prompt]

theorem call_of_prompt {b : Backend} (prompt : b.latency = 0) (c : Call) (limit : Option Duration) :
    b.call c limit = match b.arrive with
      | (some e, b) => (.error e, b)
      | (none, b) => b.serve c := by
  have later := (latency_arrive b).trans prompt
  unfold call
  revert later
  obtain ⟨fault, b⟩ := b.arrive
  cases fault with
  | some e => exact fun _ => rfl
  | none => intro later; simp [finish, patience_of_prompt later]

end Backend

namespace Session

variable {ν : Type} {α : Type}

theorem perform_of_prompt [Quantity ν] (r : Routine (Gate ν) α) (s : Session ν)
    (prompt : s.backend.latency = 0) :
    perform r s = ((r.run s.gate s.backend).1,
      { s with gate := (r.run s.gate s.backend).2.1, backend := (r.run s.gate s.backend).2.2 }) := by
  induction r generalizing s with
  | done a => rfl
  | get next ih => exact ih s.gate s prompt
  | put g next ih => exact ih { s with gate := g } prompt
  | ask c limit next ih =>
    have later := (Backend.latency_arrive s.backend).trans prompt
    rw [perform, Routine.run, Backend.call_of_prompt prompt]
    revert later
    obtain ⟨fault, b⟩ := s.backend.arrive
    intro later
    cases fault with
    | some e => exact ih _ { s with backend := b } later
    | none =>
      have served := (Backend.latency_serve b c).trans later
      simp only [Backend.patience_of_prompt later, pass, if_true, finishCall]
      exact ih _ { s with backend := (b.serve c).2 } served

theorem toWorld_call (s : Session ν) (h : Hand) : (s.call h).toWorld = s.toWorld := by
  unfold call; split <;> rfl

-- Calling a hand puts work off; it does none.
theorem toWorld_notice (s : Session ν) : s.notice.toWorld = s.toWorld := by
  simp only [notice, apply_ite Session.toWorld, toWorld_call, ite_self]

theorem command_of_prompt [Quantity ν] (s : Session ν) (c : Command)
    (prompt : s.backend.latency = 0) :
    ((s.command c).1, (s.command c).2.toWorld) = s.toWorld.step (.command c []) := by
  rw [World.step, World.perform_nil]
  simp only [command, perform_of_prompt c.routine s prompt, toWorld_notice]

end Session

end Turnstile
