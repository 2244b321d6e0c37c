import Turnstile.Proofs.World.Lingering
namespace Turnstile

variable {ν : Type} {client : String}

namespace World

variable {w u : World ν} {m : Move}

-- The bans of a client that a move asks for. A request asks for one if its client is let in and banned afterwards.
def banCalls (client : String) (w : World ν) (m : Move) (u : World ν) : List BanCall :=
  match m with
  | .command (.ban c reason length _ _) _ =>
    if c = client ∧ Gate.banFault? c reason length = none then
      [⟨w.gate.now, Registry.deadline w.gate.now length⟩]
    else []
  | m =>
    match m.enters, w.gate.activeBan client, u.gate.activeBan client with
    | true, none, some b => [⟨w.gate.now, b.bannedUntil⟩]
    | _, _, _ => []

theorem banCalls_of_waits (other : m.plain? = none) (waits : m.enters = false) : banCalls client w m u = [] := by
  unfold banCalls
  split
  · cases other
  · rw [waits]

theorem banCalls_of_still (other : m.plain? = none) (still : u.gate.activeBan client = w.gate.activeBan client) :
    banCalls client w m u = [] := by
  unfold banCalls
  split
  · cases other
  · rw [still]
    split
    · rename_i free banned
      rw [free] at banned
      cases banned
    · rfl

theorem banCalls_of_entered {b : Ban} (enters : m.enters = true) (free : w.gate.activeBan client = none)
    (banned : u.gate.activeBan client = some b) : banCalls client w m u = [⟨w.gate.now, b.bannedUntil⟩] := by
  unfold banCalls
  split
  · cases enters
  · rw [enters, free, banned]

theorem banCalls_of_plain {c : Command} (same : m.plain? = some c) (harmless : ∀ a b d n e, c ≠ .ban a b d n e) :
    banCalls client w m u = [] := by
  obtain ⟨plain, meanwhile, rfl⟩ := Move.plain_asks same
  unfold banCalls
  split
  · rename_i ban
    cases ban
    exact absurd rfl (harmless _ _ _ _ _)
  · have waits : (Move.command c meanwhile).enters = false := by
      cases c <;> first | rfl | cases plain
    rw [waits]

-- Either no ban of the client was asked for, and none comes from elsewhere than before; or one was, and the ban that
-- blocks comes from there or from where the one before came from.
inductive Stepped (client : String) (w u : World ν) : List BanCall → Prop where
  | inherited (inherits : Inherits client w u) : Stepped client w u []
  | banned {call : BanCall} (orderly : u.Orderly client) (same : u.backend.store.keeps = w.backend.store.keeps)
      (backed : ∀ keeps calls,
        (∀ b, w.gate.activeBan client = some b → Backed keeps calls b.bannedAt b.bannedUntil) →
        ∀ b, u.gate.activeBan client = some b → Backed keeps (calls ++ [call]) b.bannedAt b.bannedUntil) :
      Stepped client w u [call]

theorem Stepped.orderly {calls : List BanCall} (stepped : Stepped client w u calls) :
    u.Orderly client ∧ u.backend.store.keeps = w.backend.store.keeps := by
  cases stepped with
  | inherited inherits => exact ⟨inherits.orderly, inherits.keeps⟩
  | banned orderly same backed => exact ⟨orderly, same⟩

theorem backed_ban {g g' : Gate ν} {reason actor : String} {d : Duration} {failures : Nat} {made : Ban}
    (ban : g.ban client reason d failures actor = (.ok made, g')) {keeps : Nat → Nat} {calls : List BanCall}
    (before : ∀ b, g.activeBan client = some b → Backed keeps calls b.bannedAt b.bannedUntil) :
    Backed keeps (calls ++ [⟨g.now, Registry.deadline g.now d⟩]) made.bannedAt made.bannedUntil := by
  have cases := g.ban_cases client reason d failures actor
  rw [ban] at cases
  cases cases with
  | made sound event =>
    rw [Registry.ban_made]
    have last : (⟨g.now, Registry.deadline g.now d⟩ : BanCall) ∈ calls ++ [⟨g.now, Registry.deadline g.now d⟩] :=
      List.mem_append_right _ List.mem_cons_self
    cases active : (g.bans.standing client).activeBan g.now with
    | none => exact ⟨⟨_, last, .inl rfl⟩, ⟨_, last, .inl rfl⟩⟩
    | some b =>
      have known := (before b active).append [⟨g.now, Registry.deadline g.now d⟩]
      rw [Registry.bannedAt_banned]
      refine ⟨known.begun, ?_⟩
      have longer : (Registry.banned (some b) g.now client reason d failures actor).bannedUntil =
          max b.bannedUntil (Registry.deadline g.now d) := Registry.bannedUntil_extend ..
      rw [longer]
      rcases Nat.le_total b.bannedUntil (Registry.deadline g.now d) with later | sooner
      · rw [Nat.max_eq_right later]
        exact ⟨_, last, .inl rfl⟩
      · rw [Nat.max_eq_left sooner]
        exact known.ended

theorem stepped_ban (orderly : w.Orderly client) (meanwhile : List Nat) (a reason : String) (d : Duration)
    (failures : Nat) (actor : String) : Stepped client w { w with gate := (w.gate.ban a reason d failures actor).2 }
      (banCalls client w (.command (.ban a reason d failures actor) meanwhile)
        { w with gate := (w.gate.ban a reason d failures actor).2 }) := by
  unfold banCalls
  dsimp only
  by_cases same : a = client
  · subst same
    have ordered := orderly_ban orderly reason d failures actor
    cases ban : w.gate.ban a reason d failures actor with
    | mk answer g' =>
      have told := w.gate.ban_cases a reason d failures actor
      rw [ban] at told ordered
      cases told with
      | refused faulty =>
        rw [if_neg (by rw [faulty]; exact fun both => nomatch both.2)]
        exact .inherited (.refl orderly)
      | made sound event =>
        rw [if_pos ⟨rfl, sound⟩]
        refine .banned ordered rfl fun keeps calls before b blocks => ?_
        cases (ban_blocks ban).1.symm.trans blocks
        exact backed_ban ban before
  · rw [if_neg fun both => same both.1]
    exact .inherited (inherits_ban orderly a reason d failures actor same)

variable [Quantity ν]

theorem stepped_entered {c endpoint : String} {critical : Bool} {answer : Except GateError Admission}
    (other : m.plain? = none) (enters : m.enters = true) (entered : Entered w c endpoint critical (answer, u))
    (orderly : w.Orderly client) : Stepped client w u (banCalls client w m u) := by
  obtain ⟨v, acts, bans, same⟩ := entered.split
  have now := acts.frame.now
  have inherits := acts.inherits orderly
  have still (a : String) : v.gate.activeBan a = w.gate.activeBan a := by
    unfold Gate.activeBan
    rw [bans, now]
  rcases same with rfl | ⟨reason, d, failures, made, g', event, free, ban, rfl⟩
  · rw [banCalls_of_still other (still client)]
    exact .inherited inherits
  · have reported {x : World ν} (orderly : x.Orderly client) :
        Inherits client x { x with gate := x.gate.report event } :=
      orderly.sends rfl (Nat.le_refl _) fun b waits => .inl waits
    by_cases same : c = client
    · subst same
      obtain ⟨blocks, later⟩ := ban_blocks ban
      have called := banCalls_of_entered (w := w) (u := { v with gate := g'.report event }) enters
        ((still c).symm.trans free) blocks
      have ordered := orderly_ban inherits.orderly reason d failures systemActor
      rw [ban] at ordered
      rw [called]
      refine .banned (reported ordered).orderly inherits.keeps fun keeps calls before b found => ?_
      cases blocks.symm.trans found
      have fresh := (fresh_ban ban free blocks).2.2
      have last : (⟨w.gate.now, made.bannedUntil⟩ : BanCall) ∈ calls ++ [⟨w.gate.now, made.bannedUntil⟩] :=
        List.mem_append_right _ List.mem_cons_self
      refine ⟨⟨_, last, .inl ?_⟩, ⟨_, last, .inl rfl⟩⟩
      rw [fresh]
      exact now
    · have others := inherits_ban inherits.orderly c reason d failures systemActor same
      have kept := ban_other (Ne.symm same) v.gate reason d failures systemActor
      rw [ban] at others kept
      rw [banCalls_of_still other (u := { v with gate := g'.report event }) (kept.trans (still client))]
      exact .inherited ((inherits.trans others).trans (reported others.orderly))

theorem stepped (own : m.isOwn) (forward : w.gate.now ≤ (w.step m).2.gate.now) (orderly : w.Orderly client) :
    Stepped client w (w.step m).2 (banCalls client w m (w.step m).2) := by
  have told := moved w own
  generalize (w.step m).2 = u at told forward
  cases told with
  | @plain c same =>
    by_cases bans : ∃ a b d n e, c = .ban a b d n e
    · obtain ⟨a, reason, d, failures, actor, rfl⟩ := bans
      obtain ⟨_, meanwhile, rfl⟩ := Move.plain_asks same
      exact stepped_ban orderly meanwhile a reason d failures actor
    · have harmless : ∀ a b d n e, c ≠ .ban a b d n e := fun a b d n e equal => bans ⟨a, b, d, n, e, equal⟩
      rw [banCalls_of_plain same harmless]
      exact .inherited (inherits_update (Move.plain_asks same).1 harmless forward orderly)
  | idle other =>
    rw [banCalls_of_still other rfl]
    exact .inherited (.refl orderly)
  | entered other enters entered => exact stepped_entered other enters entered orderly
  | acted other waits acts =>
    rw [banCalls_of_waits other waits]
    exact .inherited (acts.inherits orderly)
  | flushed other n =>
    have acts := acts_deliverMany False n w
    have still : (deliverMany n w).handOver.gate.activeBan client = w.gate.activeBan client := by
      show (deliverMany n w).gate.activeBan client = _
      rw [gate_deliverMany]
      rfl
    rw [banCalls_of_still other still]
    have inherits := acts.inherits orderly
    refine .inherited (inherits.trans (Fades.inherits ?_ inherits.orderly rfl (Nat.le_refl _)))
    exact inherits.orderly.kept rfl rfl
  | @weather backend other kept =>
    have none : banCalls client w m { w with backend } = [] := banCalls_of_still other rfl
    rw [none]
    refine .inherited (Fades.inherits ?_ orderly rfl (Nat.le_refl _))
    exact orderly.kept kept rfl

end World

end Turnstile
