import Turnstile.World
namespace Turnstile

structure Heard where
  call : Call
  answer : Except StoreError call.Answer

def Heard.isFailure (h : Heard) : Bool :=
  match h.answer with
  | .ok _ => false
  | .error _ => true

namespace World

variable {ν α β : Type}

def heard (meanwhile : List Nat) : Routine (Gate ν) α → World ν → List Heard
  | .done _, _ => []
  | .get next, w => heard meanwhile (next w.gate) w
  | .put gate next, w => heard meanwhile next { w with gate }
  | .ask c limit next, w =>
    match w.backend.arrive with
    | (some e, backend) => ⟨c, .error e⟩ :: heard meanwhile.tail (next (.error e)) { w with backend }
    | (none, backend) =>
      let w := deliverMany (meanwhile.headD 0) { w with backend }
      let (answer, backend) := w.backend.finish c limit
      ⟨c, answer⟩ :: heard meanwhile.tail (next answer) { w with backend }

theorem heard_update (f : Gate ν → α × Gate ν) (next : α → Routine (Gate ν) β) (meanwhile : List Nat) (w : World ν) :
    heard meanwhile (.update f >>= next) w = heard meanwhile (next (f w.gate).1) { w with gate := (f w.gate).2 } := rfl

theorem heard_state (next : Gate ν → Routine (Gate ν) β) (meanwhile : List Nat) (w : World ν) :
    heard meanwhile (Routine.state >>= next) w = heard meanwhile (next w.gate) w := rfl

theorem heard_ask_failed {c : Call} {limit : Option Duration} {e : StoreError} {w : World ν}
    (met : w.backend.arrive.1 = some e) (next : Except StoreError c.Answer → Routine (Gate ν) β)
    (meanwhile : List Nat) : heard meanwhile (.ask c limit next) w =
      ⟨c, .error e⟩ :: heard meanwhile.tail (next (.error e)) { w with backend := w.backend.arrive.2 } := by
  rw [heard]
  cases arrived : w.backend.arrive with
  | mk fault backend =>
    rw [arrived] at met
    cases met
    rfl

theorem heard_ask_arrived {c : Call} {limit : Option Duration} {w u : World ν} {meanwhile : List Nat}
    (met : w.backend.arrive.1 = none)
    (waited : u = deliverMany (meanwhile.headD 0) { w with backend := w.backend.arrive.2 })
    (next : Except StoreError c.Answer → Routine (Gate ν) β) :
    heard meanwhile (.ask c limit next) w = ⟨c, (u.backend.finish c limit).1⟩ ::
      heard meanwhile.tail (next (u.backend.finish c limit).1) { u with backend := (u.backend.finish c limit).2 } := by
  subst waited
  rw [heard]
  cases arrived : w.backend.arrive with
  | mk fault backend =>
    rw [arrived] at met
    cases met
    rfl

theorem heard_map (f : α → β) (r : Routine (Gate ν) α) (meanwhile : List Nat) (w : World ν) :
    heard meanwhile (f <$> r) w = heard meanwhile r w := by
  show heard meanwhile (r.andThen fun a => pure (f a)) w = _
  induction r generalizing meanwhile w with
  | done a => rfl
  | get next ih => exact ih w.gate meanwhile w
  | put gate next ih => exact ih meanwhile { w with gate }
  | ask c limit next ih =>
    simp only [Routine.andThen, heard]
    cases w.backend.arrive with
    | mk fault backend =>
      cases fault with
      | some e => exact congrArg _ (ih _ _ _)
      | none => exact congrArg _ (ih _ _ _)

end World

end Turnstile
