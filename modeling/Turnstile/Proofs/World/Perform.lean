import Turnstile.Proofs.Outbox.Delivery
import Turnstile.Proofs.World.Heard
-- Work leads from one assertion about the whole to another if it does so whatever is delivered while it waits.
namespace Turnstile.World

variable {ν α β : Type} {P : World ν → Prop}

theorem deliverMany_keeps (delivered : ∀ w, P w → P w.deliver) (n : Nat) {w : World ν} (before : P w) :
    P (deliverMany n w) := by
  induction n generalizing w with
  | zero => exact before
  | succ n ih => exact ih (delivered w before)

theorem deliverMany_of_nil {w : World ν} (empty : w.pending = []) (n : Nat) : deliverMany n w = w := by
  induction n with
  | zero => rfl
  | succ n ih => rw [deliverMany, deliver_of_nil empty, ih]

-- Later work finds the list of deliveries as earlier work has left it.
theorem perform_andThen (r : Routine (Gate ν) α) (f : α → Routine (Gate ν) β) (meanwhile : List Nat)
    (w : World ν) : ∃ later, perform meanwhile (r.andThen f) w =
      perform later (f (perform meanwhile r w).1) (perform meanwhile r w).2 := by
  induction r generalizing meanwhile w with
  | done a => exact ⟨meanwhile, rfl⟩
  | get next ih => exact ih w.gate meanwhile w
  | put gate next ih => exact ih meanwhile { w with gate }
  | ask c limit next ih =>
    simp only [Routine.andThen, perform]
    cases met : w.backend.arrive with
    | mk fault backend =>
      cases fault with
      | some e => exact ih _ _ _
      | none => exact ih _ _ _

theorem perform_update (f : Gate ν → α × Gate ν) (next : α → Routine (Gate ν) β) (meanwhile : List Nat)
    (w : World ν) : perform meanwhile (.update f >>= next) w =
      perform meanwhile (next (f w.gate).1) { w with gate := (f w.gate).2 } := rfl

theorem perform_state (next : Gate ν → Routine (Gate ν) β) (meanwhile : List Nat) (w : World ν) :
    perform meanwhile (Routine.state >>= next) w = perform meanwhile (next w.gate) w := rfl

theorem perform_ask_failed {c : Call} {limit : Option Duration} {e : StoreError} {w : World ν}
    (met : w.backend.arrive.1 = some e) (next : Except StoreError c.Answer → Routine (Gate ν) β)
    (meanwhile : List Nat) : perform meanwhile (.ask c limit next) w =
      perform meanwhile.tail (next (.error e)) { w with backend := w.backend.arrive.2 } := by
  rw [perform]
  cases arrived : w.backend.arrive with
  | mk fault backend =>
    rw [arrived] at met
    cases met
    rfl

theorem perform_ask_arrived {c : Call} {limit : Option Duration} {w u : World ν} {meanwhile : List Nat}
    (met : w.backend.arrive.1 = none)
    (waited : u = deliverMany (meanwhile.headD 0) { w with backend := w.backend.arrive.2 })
    (next : Except StoreError c.Answer → Routine (Gate ν) β) :
    perform meanwhile (.ask c limit next) w = perform meanwhile.tail (next (u.backend.finish c limit).1)
      { u with backend := (u.backend.finish c limit).2 } := by
  subst waited
  rw [perform]
  cases arrived : w.backend.arrive with
  | mk fault backend =>
    rw [arrived] at met
    cases met
    rfl

theorem perform_map (f : α → β) (r : Routine (Gate ν) α) (meanwhile : List Nat) (w : World ν) :
    perform meanwhile (f <$> r) w = (f (perform meanwhile r w).1, (perform meanwhile r w).2) := by
  obtain ⟨later, split⟩ := perform_andThen r (fun a => pure (f a)) meanwhile w
  exact split

theorem perform_lookup {c : Call} (limit : Option Duration) (reads : ∀ s : Store, (s.answer c).2 = s)
    (f : Except StoreError c.Answer → Gate ν → α × Gate ν) (g : α → β) (meanwhile : List Nat) (w : World ν) :
    ∃ n u reading, n ≤ meanwhile.headD 0 ∧ u = deliverMany n { w with backend := w.backend.arrive.2 } ∧
      ((w.backend.arrive.1 = none ∧ u.backend.finish c limit = (reading, u.backend)) ∨
        ∃ e, w.backend.arrive.1 = some e ∧ reading = .error e) ∧
      heard meanwhile (.ask c limit fun answer => .update (f answer) >>= fun a => pure (g a)) w = [⟨c, reading⟩] ∧
      perform meanwhile (.ask c limit fun answer => .update (f answer) >>= fun a => pure (g a)) w =
        (g (f reading u.gate).1, { u with gate := (f reading u.gate).2 }) := by
  cases met : w.backend.arrive.1 with
  | some e =>
    refine ⟨0, _, .error e, Nat.zero_le _, rfl, .inr ⟨e, rfl, rfl⟩, ?_, ?_⟩
    · rw [heard_ask_failed met]
      rfl
    · rw [perform_ask_failed met]
      rfl
  | none =>
    obtain ⟨u, waited⟩ : ∃ u, u = deliverMany (meanwhile.headD 0) { w with backend := w.backend.arrive.2 } := ⟨_, rfl⟩
    have looked := Backend.finish_reading reads u.backend limit
    refine ⟨meanwhile.headD 0, u, _, Nat.le_refl _, waited, .inl ⟨rfl, Prod.ext rfl looked⟩, ?_, ?_⟩
    · rw [heard_ask_arrived met waited]
      rfl
    · rw [perform_ask_arrived met waited, looked]
      rfl

def Leads (P : World ν → Prop) (r : Routine (Gate ν) α) (Q : α → World ν → Prop) : Prop :=
  ∀ meanwhile w, P w → Q (perform meanwhile r w).1 (perform meanwhile r w).2

namespace Leads

variable {Q : α → World ν → Prop} {R : β → World ν → Prop} {r : Routine (Gate ν) α}

theorem pure (a : α) (now : ∀ w, P w → Q a w) : Leads P (Pure.pure a) Q := fun _ w before => now w before

theorem bind {f : α → Routine (Gate ν) β} (first : Leads P r Q) (rest : ∀ a, Leads (Q a) (f a) R) :
    Leads P (r >>= f) R := by
  intro meanwhile w before
  obtain ⟨later, split⟩ := perform_andThen r f meanwhile w
  show R (perform meanwhile (r.andThen f) w).1 (perform meanwhile (r.andThen f) w).2
  rw [split]
  exact rest _ later _ (first meanwhile w before)

theorem map {f : α → β} (first : Leads P r Q) (rest : ∀ a w, Q a w → R (f a) w) :
    Leads P (f <$> r) R :=
  first.bind fun a => pure (f a) (rest a)

-- What was read is the gate of a whole of which the assertion held, and it goes on holding.
theorem read {f : Gate ν → Routine (Gate ν) β} (rest : ∀ w, P w → Leads P (f w.gate) R) :
    Leads P (Routine.state >>= f) R :=
  fun meanwhile w before => rest w before meanwhile w before

theorem update {f : Gate ν → α × Gate ν}
    (changed : ∀ w, P w → Q (f w.gate).1 { w with gate := (f w.gate).2 }) : Leads P (.update f) Q :=
  fun _ w before => changed w before

theorem change {f : Gate ν → Gate ν} {Q : Unit → World ν → Prop}
    (changed : ∀ w, P w → Q () { w with gate := f w.gate }) : Leads P (.change f) Q :=
  fun _ w before => changed w before

-- The call arrives, others deliver, and then the call is answered; or it fails on arrival.
theorem ask {c : Call} {limit : Option Duration} {Q : Except StoreError c.Answer → World ν → Prop}
    (arrived : ∀ w, P w → P { w with backend := w.backend.arrive.2 })
    (delivered : ∀ w, P w → P w.deliver)
    (answered : ∀ w, P w → Q (w.backend.finish c limit).1 { w with backend := (w.backend.finish c limit).2 })
    (failed : ∀ w e, P w → Q (.error e) w) : Leads P (.ask c limit .done) Q := by
  intro meanwhile w before
  have there := arrived w before
  simp only [perform]
  cases met : w.backend.arrive with
  | mk fault backend =>
    rw [met] at there
    cases fault with
    | some e => exact failed _ e there
    | none => exact answered _ (deliverMany_keeps delivered _ there)

end Leads

end Turnstile.World
