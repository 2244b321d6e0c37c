import Turnstile.Proofs.World.Reasons
namespace Turnstile

variable {ν : Type}

structure FleetMember (ν : Type) where
  gate : Gate ν
  sink : Sink
  blueprint : Blueprint

structure Fleet (ν : Type) where
  members : List (FleetMember ν)
  backend : Backend

namespace Fleet

def world (f : Fleet ν) (m : FleetMember ν) : World ν := ⟨m.gate, f.backend, m.sink, m.blueprint⟩

-- Every gate has just been built, over tables that may hold rows already.
def Launched [Quantity ν] (f : Fleet ν) : Prop :=
  ∀ m ∈ f.members, ∃ b start, World.build b start f.backend m.sink = .ok (f.world m)

variable [Quantity ν]

def visit? (f : Fleet ν) (turn : Nat × Move) : Option (Visit ν) :=
  f.members[turn.1]?.map fun m => ⟨f.world m, turn.2⟩

def step (f : Fleet ν) (turn : Nat × Move) : Fleet ν :=
  match f.visit? turn with
  | none => f
  | some v => ⟨f.members.set turn.1 ⟨v.after.gate, v.after.sink, v.after.blueprint⟩, v.after.backend⟩

def run (f : Fleet ν) : List (Nat × Move) → Fleet ν
  | [] => f
  | turn :: rest => (f.step turn).run rest

def visits (f : Fleet ν) : List (Nat × Move) → List (Visit ν)
  | [] => []
  | turn :: rest => (f.visit? turn).toList ++ (f.step turn).visits rest

omit [Quantity ν] in
theorem visit?_eq_some {f : Fleet ν} {turn : Nat × Move} {v : Visit ν} (seated : f.visit? turn = some v) :
    v.move = turn.2 ∧ ∃ m ∈ f.members, v.world = f.world m := by
  unfold visit? at seated
  obtain ⟨m, found, rfl⟩ := Option.map_eq_some_iff.1 seated
  exact ⟨rfl, m, List.mem_of_getElem? found, rfl⟩

structure Telling (f : Fleet ν) : Prop where
  members : ∀ m ∈ f.members, (f.world m).Telling
  stored : f.backend.store.Telling

variable {f : Fleet ν}

theorem Launched.telling (launched : f.Launched) (stored : f.backend.store.Telling) : f.Telling := by
  refine ⟨fun m member => ?_, stored⟩
  obtain ⟨b, start, made⟩ := launched m member
  exact (World.built made).telling stored

theorem Telling.seen (before : f.Telling) {turn : Nat × Move} (foreign : turn.2.stores? = none) {v : Visit ν}
    (seated : f.visit? turn = some v) : v.world.Telling ∧ v.after.Telling := by
  obtain ⟨move, m, member, world⟩ := visit?_eq_some seated
  have told : v.world.Telling := by
    rw [world]
    exact before.members m member
  refine ⟨told, told.step (m := v.move) ?_⟩
  rw [move, foreign]
  exact nofun

-- The others find another store, and are what they were.
theorem Telling.step (before : f.Telling) {turn : Nat × Move} (foreign : turn.2.stores? = none) : (f.step turn).Telling := by
  unfold Fleet.step
  cases seated : f.visit? turn with
  | none => exact before
  | some v =>
    obtain ⟨_, after⟩ := before.seen foreign seated
    refine ⟨fun other there => ?_, after.stored⟩
    rcases List.mem_or_eq_of_mem_set there with old | rfl
    · exact ⟨(before.members other old).known, (before.members other old).queued, after.stored⟩
    · exact ⟨after.known, after.queued, after.stored⟩

theorem Telling.run (before : f.Telling) (turns : List (Nat × Move)) (foreign : ∀ turn ∈ turns, turn.2.stores? = none) :
    (f.run turns).Telling ∧ ∀ v ∈ f.visits turns, v.world.Telling ∧ v.after.Telling := by
  induction turns generalizing f with
  | nil => exact ⟨before, fun v member => absurd member List.not_mem_nil⟩
  | cons turn rest ih =>
    have first := foreign turn List.mem_cons_self
    obtain ⟨last, seen⟩ := ih (before.step first) fun later member => foreign later (List.mem_cons_of_mem _ member)
    refine ⟨last, fun v member => ?_⟩
    rcases List.mem_append.1 member with here | later
    · exact before.seen first (Option.mem_toList.1 here)
    · exact seen v later

end Fleet

end Turnstile
