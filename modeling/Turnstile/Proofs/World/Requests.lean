import Turnstile.Proofs.Gate.Answers
import Turnstile.Proofs.World.History
namespace Turnstile

variable {ν : Type}

structure Request where
  client : String
  endpoint : String
  critical : Bool
  answer : Admission
deriving DecidableEq

-- What a service was told by the gate, as its own answer shows.
def Gate.disclosed : Except ServiceError String → List Admission
  | .ok _ | .error (.inner _) => [.admitted]
  | .error (.denied a) => [a]
  | .error (.gate _) => []

namespace Visit

variable [Quantity ν]

def requests (v : Visit ν) : List Request :=
  match v.move, (v.world.step v.move).1 with
  | .command (.enter client endpoint critical) _, .admission (.ok answer) => [⟨client, endpoint, critical, answer⟩]
  | .command (.serve client endpoint critical inner) _, .served result =>
    if inner = .notReady then [] else (Gate.disclosed result).map fun answer => ⟨client, endpoint, critical, answer⟩
  | _, _ => []

end Visit

def requests [Quantity ν] (past : List (Visit ν)) : List Request := past.flatMap Visit.requests

namespace World

variable [Quantity ν] {w u : World ν}

theorem perform_served {inner : Gate.Inner} (ready : inner ≠ .notReady) (client endpoint : String) (critical : Bool)
    (meanwhile : List Nat) (w : World ν) : perform meanwhile (Gate.serve client endpoint critical inner) w =
      (Gate.served inner endpoint (perform meanwhile (Gate.enter client endpoint critical) w).1,
        (perform meanwhile (Gate.enter client endpoint critical) w).2) := by
  rw [Gate.serve_eq ready, perform_map]

theorem Entered.admitted {client endpoint : String} {critical : Bool} {a : Admission}
    (entered : Entered w client endpoint critical (.ok a, u)) (allowed : a.allowed = true) : a = .admitted := by
  generalize result : (Except.ok a, u) = r at entered
  cases entered with
  | unsound => cases result
  | answered sound screened =>
    cases result
    have screening := w.gate.screen_cases client endpoint critical
    rw [screened] at screening
    cases screening with
    | banned => cases allowed
    | limited => cases allowed
    | admitted => rfl
  | @judged gate n v reading sound screened waited read =>
    cases result
    have judged := v.gate.judge_cases client endpoint reading
    generalize v.gate.judge client endpoint reading = outcome at judged allowed ⊢
    cases judged with
    | admitted => rfl
    | banned => cases allowed

theorem disclosed_served {client endpoint : String} {critical : Bool} {answer : Except GateError Admission}
    (entered : Entered w client endpoint critical (answer, u)) (inner : Gate.Inner) :
    Gate.disclosed (Gate.served inner endpoint answer) = answer.toOption.toList := by
  cases answer with
  | error e => rfl
  | ok a =>
    simp only [Gate.served]
    split
    · rename_i allowed
      rw [entered.admitted allowed]
      split <;> rfl
    · rfl

theorem toList_of_answer {client endpoint : String} {critical : Bool} {answer : Except GateError Admission}
    (entered : Entered w client endpoint critical (answer, u)) :
    (answer.toOption.toList = [] ∧ u = w) ∨
      ∃ a, answer.toOption.toList = [a] ∧ Entered w client endpoint critical (.ok a, u) := by
  cases answer with
  | ok a => exact .inr ⟨a, rfl, entered⟩
  | error e =>
    generalize result : (Except.error e, u) = r at entered
    cases entered with
    | unsound =>
      cases result
      exact .inl ⟨rfl, rfl⟩
    | answered => cases result
    | judged => cases result

end World

namespace Visit

variable [Quantity ν] {v : Visit ν}

-- What a request tells is what it was answered, whoever asks in front of the gate.
theorem requests_entered (enters : v.move.enters = true) :
    (v.requests = [] ∧ v.after = v.world) ∨
      ∃ client endpoint critical answer, v.requests = answer.toOption.toList.map (⟨client, endpoint, critical, ·⟩) ∧
        World.Entered v.world client endpoint critical (answer, v.after) := by
  obtain ⟨w, m⟩ := v
  cases m with
  | command c meanwhile =>
    cases c with
    | enter client endpoint critical =>
      obtain ⟨answer, replied, entered⟩ := World.step_enter client endpoint critical meanwhile w
      refine .inr ⟨client, endpoint, critical, answer, ?_, entered⟩
      cases answer with
      | error e => simp only [requests, replied, Except.toOption, Option.toList_none, List.map_nil]
      | ok a => simp only [requests, replied, Except.toOption, Option.toList_some, List.map_cons, List.map_nil]
    | serve client endpoint critical inner =>
      by_cases ready : inner = .notReady
      · subst ready
        exact .inl ⟨rfl, rfl⟩
      · have stepped : w.step (.command (.serve client endpoint critical inner) meanwhile) = _ :=
          World.perform_map Reply.served (Gate.serve client endpoint critical inner) meanwhile w
        rw [World.perform_served ready] at stepped
        have entered := World.enter_cases client endpoint critical meanwhile w
        have after : Visit.after ⟨w, .command (.serve client endpoint critical inner) meanwhile⟩ =
            (World.perform meanwhile (Gate.enter client endpoint critical) w).2 := congrArg Prod.snd stepped
        refine .inr ⟨client, endpoint, critical, (World.perform meanwhile (Gate.enter client endpoint critical) w).1, ?_, ?_⟩
        · rw [← World.disclosed_served entered inner]
          simp only [requests, stepped, if_neg ready]
        · rw [after]
          exact entered
    | _ => cases enters
  | _ => cases enters

theorem request_cases (enters : v.move.enters = true) :
    (v.requests = [] ∧ v.after = v.world) ∨
      ∃ r, v.requests = [r] ∧ World.Entered v.world r.client r.endpoint r.critical (.ok r.answer, v.after) := by
  rcases requests_entered enters with idle | ⟨client, endpoint, critical, answer, told, entered⟩
  · exact .inl idle
  · rw [told]
    rcases World.toList_of_answer entered with ⟨none, same⟩ | ⟨a, only, entered⟩
    · exact .inl ⟨by rw [none]; rfl, same⟩
    · exact .inr ⟨⟨client, endpoint, critical, a⟩, by rw [only]; rfl, entered⟩

theorem requests_of_other (other : v.move.enters = false) : v.requests = [] := by
  unfold requests
  split
  · rename_i move _
    rw [move] at other
    cases other
  · rename_i move _
    rw [move] at other
    cases other
  · rfl

theorem entered_of_mem {r : Request} (member : r ∈ v.requests) :
    World.Entered v.world r.client r.endpoint r.critical (.ok r.answer, v.after) := by
  cases enters : v.move.enters with
  | false =>
    rw [v.requests_of_other enters] at member
    cases member
  | true =>
    rcases v.request_cases enters with ⟨none, _⟩ | ⟨other, only, entered⟩
    · rw [none] at member
      cases member
    · rw [only] at member
      cases List.mem_singleton.1 member
      exact entered

end Visit

end Turnstile
