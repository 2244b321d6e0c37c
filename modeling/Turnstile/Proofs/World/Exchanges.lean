import Turnstile.Proofs.World.Floors
import Turnstile.Proofs.World.Upkeep
namespace Turnstile

structure Exchange extends Heard where
  before : Store
  after : Store

namespace Exchange

-- A call that failed has left the tables alone.
def Genuine (x : Exchange) : Prop :=
  match x.answer with
  | .ok a => x.before.answer x.call = (.ok a, x.after)
  | .error _ => x.after = x.before

def Joined : Store → List Exchange → Store → Prop
  | first, [], last => last = first
  | first, x :: rest, last => x.before = first ∧ Joined x.after rest last

end Exchange

namespace World

variable {ν α β : Type}

def exchanges (meanwhile : List Nat) : Routine (Gate ν) α → World ν → List Exchange
  | .done _, _ => []
  | .get next, w => exchanges meanwhile (next w.gate) w
  | .put gate next, w => exchanges meanwhile next { w with gate }
  | .ask c limit next, w =>
    match w.backend.arrive with
    | (some e, backend) =>
      ⟨⟨c, .error e⟩, w.backend.store, backend.store⟩ :: exchanges meanwhile.tail (next (.error e)) { w with backend }
    | (none, backend) =>
      let w := deliverMany (meanwhile.headD 0) { w with backend }
      let (answer, backend) := w.backend.finish c limit
      ⟨⟨c, answer⟩, w.backend.store, backend.store⟩ :: exchanges meanwhile.tail (next answer) { w with backend }

theorem heard_exchanges (meanwhile : List Nat) (r : Routine (Gate ν) α) (w : World ν) :
    (exchanges meanwhile r w).map Exchange.toHeard = heard meanwhile r w := by
  induction r generalizing meanwhile w with
  | done a => rfl
  | get next ih => exact ih w.gate meanwhile w
  | put gate next ih => exact ih meanwhile { w with gate }
  | ask c limit next ih =>
    unfold exchanges heard
    cases w.backend.arrive with
    | mk fault backend =>
      cases fault with
      | some e => exact congrArg _ (ih _ _ _)
      | none => exact congrArg _ (ih _ _ _)

theorem exchanges_joined (r : Routine (Gate ν) α) (w : World ν) :
    Exchange.Joined w.backend.store (exchanges [] r w) (perform [] r w).2.backend.store := by
  induction r generalizing w with
  | done a => rfl
  | get next ih => exact ih w.gate w
  | put gate next ih => exact ih { w with gate }
  | ask c limit next ih =>
    have kept := Backend.store_arrive w.backend
    unfold exchanges perform
    cases met : w.backend.arrive with
    | mk fault backend =>
      rw [met] at kept
      cases fault with
      | some e => exact ⟨rfl, ih _ { w with backend }⟩
      | none => exact ⟨kept, ih (backend.finish c limit).1 { w with backend := (backend.finish c limit).2 }⟩

-- What work leads to, together with what it has exchanged meanwhile.
def Trades (P : World ν → Prop) (r : Routine (Gate ν) α) (Q : List Exchange → α → World ν → Prop) : Prop :=
  ∀ meanwhile w, P w → Q (exchanges meanwhile r w) (perform meanwhile r w).1 (perform meanwhile r w).2

theorem exchanges_andThen (r : Routine (Gate ν) α) (f : α → Routine (Gate ν) β) (meanwhile : List Nat) (w : World ν) :
    ∃ later, exchanges meanwhile (r.andThen f) w =
        exchanges meanwhile r w ++ exchanges later (f (perform meanwhile r w).1) (perform meanwhile r w).2 ∧
      perform meanwhile (r.andThen f) w = perform later (f (perform meanwhile r w).1) (perform meanwhile r w).2 := by
  induction r generalizing meanwhile w with
  | done a => exact ⟨meanwhile, rfl, rfl⟩
  | get next ih => exact ih w.gate meanwhile w
  | put gate next ih => exact ih meanwhile { w with gate }
  | ask c limit next ih =>
    simp only [Routine.andThen, exchanges, perform]
    cases w.backend.arrive with
    | mk fault backend =>
      cases fault with
      | some e =>
        obtain ⟨later, listed, performed⟩ := ih (.error e) meanwhile.tail { w with backend }
        exact ⟨later, congrArg _ listed, performed⟩
      | none =>
        obtain ⟨later, listed, performed⟩ := ih _ meanwhile.tail _
        exact ⟨later, congrArg _ listed, performed⟩

theorem exchanges_map (f : α → β) (r : Routine (Gate ν) α) (meanwhile : List Nat) (w : World ν) :
    exchanges meanwhile (f <$> r) w = exchanges meanwhile r w := by
  obtain ⟨later, listed, _⟩ := exchanges_andThen r (fun a => pure (f a)) meanwhile w
  exact listed.trans (List.append_nil _)

namespace Trades

variable {P : World ν → Prop} {Q : List Exchange → α → World ν → Prop} {R : List Exchange → β → World ν → Prop}
  {r : Routine (Gate ν) α}

theorem pure (a : α) (now : ∀ w, P w → Q [] a w) : Trades P (Pure.pure a) Q := fun _ w before => now w before

theorem weaken {R : List Exchange → α → World ν → Prop} (first : Trades P r Q) (rest : ∀ xs a w, Q xs a w → R xs a w) :
    Trades P r R :=
  fun meanwhile w before => rest _ _ _ (first meanwhile w before)

theorem bind {f : α → Routine (Gate ν) β} (first : Trades P r Q)
    (rest : ∀ xs a, Trades (Q xs a) (f a) fun ys => R (xs ++ ys)) : Trades P (r >>= f) R := by
  intro meanwhile w before
  obtain ⟨later, listed, performed⟩ := exchanges_andThen r f meanwhile w
  show R (exchanges meanwhile (r.andThen f) w) (perform meanwhile (r.andThen f) w).1 (perform meanwhile (r.andThen f) w).2
  rw [listed, performed]
  exact rest _ _ later _ (first meanwhile w before)

theorem read {f : Gate ν → Routine (Gate ν) β} (rest : ∀ w, P w → Trades P (f w.gate) R) : Trades P (Routine.state >>= f) R :=
  fun meanwhile w before => rest w before meanwhile w before

theorem update {S : World ν → Prop} {f : Gate ν → α × Gate ν} {next : α → Routine (Gate ν) β}
    (changed : ∀ w, P w → S { w with gate := (f w.gate).2 }) (rest : ∀ a, Trades S (next a) R) : Trades P (.update f >>= next) R :=
  fun meanwhile w before => rest _ meanwhile _ (changed w before)

theorem change {S : World ν → Prop} {f : Gate ν → Gate ν} {next : Unit → Routine (Gate ν) β}
    (changed : ∀ w, P w → S { w with gate := f w.gate }) (rest : Trades S (next ()) R) : Trades P (.change f >>= next) R :=
  fun meanwhile w before => rest meanwhile _ (changed w before)

theorem given {known : Prop} (rest : known → Trades P r Q) : Trades (fun w => P w ∧ known) r Q :=
  fun meanwhile w before => rest before.2 meanwhile w before.1

-- A single call, met by an assertion that the store survives.
theorem call (asked : Call) (waits : Waits P)
    (answered : ∀ w, P w → P { w with backend := (w.backend.finish asked none).2 }) :
    Trades P (Routine.call asked) fun xs answer w =>
      P w ∧ ∃ u, P u ∧ ∃ after, xs = [⟨⟨asked, answer⟩, u.backend.store, after⟩] ∧
        (⟨⟨asked, answer⟩, u.backend.store, after⟩ : Exchange).Genuine := by
  intro meanwhile w before
  have there := waits.arrive w before
  simp only [Routine.call, exchanges, perform]
  have kept := Backend.store_arrive w.backend
  cases met : w.backend.arrive with
  | mk fault backend =>
    rw [met] at there kept
    cases fault with
    | some e => exact ⟨there, w, before, backend.store, rfl, kept⟩
    | none =>
      have ready := deliverMany_keeps waits.deliver (meanwhile.headD 0) there
      dsimp only
      generalize deliverMany (meanwhile.headD 0) { w with backend } = u at ready
      refine ⟨answered u ready, u, ready, _, rfl, ?_⟩
      cases finished : u.backend.finish asked none with
      | mk answer after =>
        cases answer with
        | ok a => exact Backend.finish_ok finished
        | error e => exact congrArg Backend.store (Backend.finish_error finished)

end Trades

end World

end Turnstile
