import Turnstile.Proofs.World.Chronicle
namespace Turnstile

namespace Memory

variable {address : String} {b : Ban} {bans : List Ban}

theorem mem_putBan_of_mem (made : Ban) (member : b ∈ bans) : b ∈ putBan made bans ∨ holds made.address b = true := by
  induction bans with
  | nil => cases member
  | cons first rest ih =>
    unfold putBan
    split
    · rename_i held
      rcases List.mem_cons.1 member with rfl | later
      · exact .inr held
      · exact .inl (List.mem_cons_of_mem _ later)
    · rcases List.mem_cons.1 member with rfl | later
      · exact .inl List.mem_cons_self
      · exact (ih later).imp_left (List.mem_cons_of_mem _)

theorem mem_releaseFirst_of_mem (reading : Nat) (actor : String) (automatic : Bool) (member : b ∈ bans)
    (once : (openRows address bans).length ≤ 1) :
    b ∈ (releaseFirst address reading actor automatic bans).2 ∨
      holds address b = true ∧ b.release reading actor automatic ∈ (releaseFirst address reading actor automatic bans).2 := by
  induction bans with
  | nil => cases member
  | cons first rest ih =>
    rw [openRows_cons] at once
    unfold releaseFirst
    split
    · rename_i held
      rcases List.mem_cons.1 member with rfl | later
      · exact .inr ⟨held, List.mem_cons_self⟩
      · exact .inl (List.mem_cons_of_mem _ later)
    · rename_i free
      rw [if_neg free] at once
      rcases List.mem_cons.1 member with rfl | later
      · exact .inl List.mem_cons_self
      · exact (ih later once).imp (List.mem_cons_of_mem _) (And.imp_right (List.mem_cons_of_mem _))

-- Of the open rows of a client a sweep closes those that are overdue, and leaves the others.
theorem countP_overdue (client : String) (now : Nat) (bans : List Ban) :
    (bans.filter (·.isOverdue now)).countP (·.address == client) + (openRows client (bans.map (expire now))).length =
      (openRows client bans).length := by
  have closed : (bans.filter (·.isOverdue now)).countP (·.address == client) =
      (openRows client bans).countP (·.isOverdue now) := by
    unfold openRows
    rw [List.countP_filter, List.countP_filter]
    refine List.countP_congr fun b _ => ?_
    simp only [Bool.and_eq_true, beq_iff_eq, Ban.isOverdue_iff, holds_iff]
    constructor
    · exact fun ⟨own, unreleased, late⟩ => ⟨⟨unreleased, late⟩, own, unreleased⟩
    · exact fun ⟨⟨unreleased, late⟩, own, _⟩ => ⟨own, unreleased, late⟩
  have others : (fun row : Ban => decide ¬row.isOverdue now = true) = fun row => !row.isOverdue now :=
    funext fun row => by cases row.isOverdue now <;> rfl
  rw [closed, openRows_expire, ← filter_overdue, ← List.countP_eq_length_filter, ← others]
  exact (List.length_eq_countP_add_countP _).symm

end Memory

namespace Event

variable {client : String}

def opens (client : String) (e : Event) : Bool := e.action == bannedAction && e.entity == client && e.oldValues.isNone

def ends (client : String) (e : Event) : Bool :=
  (e.action == unbannedAction || e.action == autoReleasedAction) && e.entity == client

theorem opens_banned (previous : Option Ban) (b : Ban) (actor : String) (now : Nat) :
    (Event.banned previous b actor now).opens client = (b.address == client && previous.isNone) := by
  have none : (Event.banned previous b actor now).oldValues.isNone = previous.isNone := Option.isNone_map
  unfold opens
  rw [none]
  rfl

theorem ends_banned (previous : Option Ban) (b : Ban) (actor : String) (now : Nat) :
    (Event.banned previous b actor now).ends client = false := rfl

theorem ends_expired (b : Ban) (now : Nat) (client : String) :
    (Event.autoReleased (Memory.expire now b) now).ends client = (b.address == client) := by
  have kept : (Memory.expire now b).address = b.address := by
    unfold Memory.expire Ban.release
    split
    · split <;> rfl
    · rfl
  show ((Memory.expire now b).address == client) = _
  rw [kept]

end Event

-- What a record of a ban comes to in one turn.
inductive Fate (sweeping : Prop) (now : Nat) (told : List Event) (after : List Ban) (b : Ban) : Prop where
  | kept (still : b ∈ after)
  | purged (under : sweeping) (released : b.releasedAt.isSome)
  | released (unreleased : b.releasedAt = none) (reported : told.any (Event.ends b.address))
      (recorded : sweeping ∨ ∃ reading actor automatic, b.release reading actor automatic ∈ after)
  | extended (e : Event) (reported : e ∈ told) (banned : e.action = Event.bannedAction) (own : e.entity = b.address)
      (old : e.oldValues = some b.summary)
  | overwritten (unreleased : b.releasedAt = none) (late : b.bannedUntil ≤ now) (reported : told.any (Event.opens b.address))

theorem Fate.more {sweeping : Prop} {now : Nat} {told : List Event} {after : List Ban} {b : Ban}
    (fate : Fate sweeping now told after b) (events : List Event) : Fate sweeping now (told ++ events) after b := by
  have still {p : Event → Bool} (reported : told.any p) : (told ++ events).any p = true := by
    rw [List.any_append, reported]
    rfl
  cases fate with
  | kept still => exact .kept still
  | purged under released => exact .purged under released
  | released unreleased reported recorded => exact .released unreleased (still reported) recorded
  | extended e reported banned own old => exact .extended e (List.mem_append_left _ reported) banned own old
  | overwritten unreleased late reported => exact .overwritten unreleased late (still reported)

namespace Chronicle

open Memory (openRows)

variable {s t : Chronicle} {sweeping : Prop} {client : String} {b : Ban}

def Agreed (s : Chronicle) : Prop := ∀ client, World.Agrees s.rows s.now client (s.active client)

theorem Agreed.row (agreed : s.Agreed) (active : s.active client = some b) :
    openRows client s.rows = [b] ∧ b.address = client ∧ b.releasedAt = none := by
  have member : b ∈ (openRows client s.rows).filter (s.now < ·.bannedUntil) := by
    rw [← (agreed client).same, active]
    exact List.mem_singleton_self b
  have here := (List.mem_filter.1 member).1
  exact ⟨Memory.single (agreed client).once here, (Memory.mem_openRows.1 here).2⟩

theorem Agreed.address_made (agreed : s.Agreed) (client reason actor : String) (d : Duration) (failures : Nat) :
    (s.made client reason actor d failures).address = client :=
  Registry.address_banned (fun _ active => (agreed.row active).2.1) ..

theorem Agreed.releasedAt_made (agreed : s.Agreed) (client reason actor : String) (d : Duration) (failures : Nat) :
    (s.made client reason actor d failures).releasedAt = none := by
  unfold made Registry.banned
  cases active : s.active client with
  | none => rfl
  | some b => exact (Registry.releasedAt_extend ..).trans (agreed.row active).2.2

-- A fresh ban opens an account, and so does the record that it leaves; the record in whose place it is put is lost.
def Balances (s t : Chronicle) (told : List Event) (client : String) : Prop :=
  told.countP (Event.opens client) + (openRows client s.rows).length =
    told.countP (Event.ends client) + (openRows client t.rows).length +
      if told.any (Event.opens client) then (openRows client s.rows).length else 0

theorem Drifts.balances (drifts : Drifts sweeping s t) (client : String) : ∃ told, t.events = s.events ++ told ∧
    told.countP (Event.opens client) = 0 ∧
    (openRows client s.rows).length = told.countP (Event.ends client) + (openRows client t.rows).length := by
  induction drifts with
  | refl => exact ⟨[], (List.append_nil _).symm, rfl, (Nat.zero_add _).symm⟩
  | @tail u _ _ drift ih =>
    obtain ⟨told, listed, opened, ended⟩ := ih
    cases drift with
    | still => exact ⟨told, listed, opened, ended⟩
    | purged under cutoff =>
      refine ⟨told, listed, opened, ?_⟩
      show _ = _ + (openRows client (u.rows.filter _)).length
      rw [Memory.openRows_purge]
      exact ended
    | released under =>
      refine ⟨_, (congrArg (· ++ _) listed).trans (List.append_assoc ..), ?_, ?_⟩
      · rw [List.countP_append, opened, List.map_map, List.countP_map]
        refine (Nat.zero_add _).trans (List.countP_eq_zero.2 fun b _ => ?_)
        exact Bool.false_ne_true
      · have closed := Memory.countP_overdue client u.now u.rows
        rw [List.countP_append, List.map_map, List.countP_map]
        have counted : (u.rows.filter (·.isOverdue u.now)).countP
            (Event.ends client ∘ ((Event.autoReleased · u.now) ∘ Memory.expire u.now)) =
              (u.rows.filter (·.isOverdue u.now)).countP (·.address == client) :=
          List.countP_congr fun b _ => by
            show (Event.autoReleased (Memory.expire u.now b) u.now).ends client = true ↔ _
            rw [Event.ends_expired]
        rw [counted]
        show _ = _ + (openRows client (u.rows.map (Memory.expire u.now))).length
        omega

theorem Agreed.balances_ban (agreed : s.Agreed) (other reason actor : String) (d : Duration) (failures : Nat) (client : String) :
    Balances s (s.ban other reason actor d failures)
      [.banned (s.active other) (s.made other reason actor d failures) actor s.now] client := by
  have own := agreed.address_made other reason actor d failures
  unfold Balances
  rw [List.countP_singleton, List.countP_singleton, Event.ends_banned, List.any_cons, List.any_nil, Bool.or_false,
    Event.opens_banned, own]
  show _ = _ + (openRows client (Memory.putBan (s.made other reason actor d failures) s.rows)).length + _
  by_cases same : other = client
  · subst same
    have put := Memory.openRows_putBan_self s.rows (own ▸ (agreed other).once)
    rw [own, if_pos (agreed.releasedAt_made ..)] at put
    rw [put, beq_self_eq_true]
    cases active : s.active other with
    | none =>
      show 1 + _ = 0 + 1 + _
      rfl
    | some b =>
      rw [(agreed.row active).1]
      rfl
  · rw [Memory.openRows_putBan_other (fun equal => same (own.symm.trans equal)), beq_eq_false_iff_ne.2 same]
    rfl

theorem Balances.note {told : List Event} (balances : Balances s t told client) {e : Event} (opens : e.opens client = false)
    (ends : e.ends client = false) : Balances s (t.note e) (told ++ [e]) client := by
  unfold Balances
  rw [List.countP_append, List.countP_append, List.any_append, List.countP_singleton, List.countP_singleton, List.any_cons,
    List.any_nil, opens, ends, Bool.or_false, Bool.or_false]
  exact balances

theorem OneMove.balances (turn : OneMove sweeping s t) (agreed : s.Agreed) (client : String) :
    ∃ told, t.events = s.events ++ told ∧ Balances s t told client := by
  cases turn with
  | drifted drifts =>
    obtain ⟨told, listed, opened, ended⟩ := drifts.balances client
    refine ⟨told, listed, ?_⟩
    have none : told.any (Event.opens client) = false := by
      rw [List.any_eq_false]
      exact fun e member => List.countP_eq_zero.1 opened e member
    unfold Balances
    rw [opened, none]
    exact (Nat.zero_add _).trans ended
  | passed => exact ⟨[], (List.append_nil _).symm, rfl⟩
  | banned other reason actor d failures => exact ⟨_, rfl, agreed.balances_ban other reason actor d failures client⟩
  | @unbanned other actor note before active =>
    refine ⟨_, rfl, ?_⟩
    obtain ⟨only, own, _⟩ := agreed.row active
    have ended : (Event.unbanned before (before.release s.now actor false) actor note s.now).ends client = (other == client) := by
      show (before.address == client) = _
      rw [own]
    unfold Balances
    rw [List.countP_singleton, List.countP_singleton, ended]
    show 0 + _ = _ + (openRows client (Memory.releaseFirst other s.now actor false s.rows).2).length + 0
    by_cases same : other = client
    · subst same
      rw [Memory.openRows_releaseFirst_self, only, beq_self_eq_true]
      rfl
    · rw [Memory.openRows_releaseFirst_other same, beq_eq_false_iff_ne.2 same]
      rfl
  | @denied other endpoint reason actor d failures free =>
    refine ⟨_, List.append_assoc .., ?_⟩
    exact (agreed.balances_ban other reason actor d failures client).note rfl rfl

-- While records are swept, one that goes missing was released or is reported as such.
theorem Drifts.fate (drifts : Drifts sweeping s t) (member : b ∈ s.rows) : ∃ told, t.events = s.events ++ told ∧
    (b ∈ t.rows ∨ sweeping ∧ (b.releasedAt.isSome ∨ b.releasedAt = none ∧ told.any (Event.ends b.address))) := by
  induction drifts with
  | refl => exact ⟨[], (List.append_nil _).symm, .inl member⟩
  | @tail u _ _ drift ih =>
    obtain ⟨told, listed, before⟩ := ih
    cases drift with
    | still => exact ⟨told, listed, before⟩
    | purged under cutoff =>
      refine ⟨told, listed, ?_⟩
      rcases before with there | gone
      · cases closed : Memory.releasedBefore cutoff b with
        | false => exact .inl (List.mem_filter.2 ⟨there, by rw [closed]; rfl⟩)
        | true =>
          refine .inr ⟨under, .inl ?_⟩
          unfold Memory.releasedBefore at closed
          cases released : b.releasedAt with
          | none =>
            rw [released] at closed
            cases closed
          | some reading => rfl
      · exact .inr gone
    | released under =>
      refine ⟨_, (congrArg (· ++ _) listed).trans (List.append_assoc ..), ?_⟩
      rcases before with there | ⟨_, closed | ⟨unreleased, reported⟩⟩
      · cases overdue : b.isOverdue u.now with
        | false =>
          have same : Memory.expire u.now b = b := by
            unfold Memory.expire
            rw [overdue]
            rfl
          exact .inl (List.mem_map.2 ⟨b, there, same⟩)
        | true =>
          refine .inr ⟨under, .inr ⟨((Ban.isOverdue_iff ..).1 overdue).1, ?_⟩⟩
          rw [List.any_append, Bool.or_eq_true]
          refine .inr (List.any_eq_true.2 ⟨_, List.mem_map_of_mem (List.mem_map_of_mem (List.mem_filter.2 ⟨there, overdue⟩)), ?_⟩)
          exact (Event.ends_expired b u.now b.address).trans (beq_self_eq_true _)
      · exact .inr ⟨under, .inl closed⟩
      · refine .inr ⟨under, .inr ⟨unreleased, ?_⟩⟩
        rw [List.any_append, reported]
        rfl

theorem Agreed.fate_ban (agreed : s.Agreed) (client reason actor : String) (d : Duration) (failures : Nat) (member : b ∈ s.rows) :
    Fate sweeping s.now [.banned (s.active client) (s.made client reason actor d failures) actor s.now]
      (s.ban client reason actor d failures).rows b := by
  have made := agreed.address_made client reason actor d failures
  rcases Memory.mem_putBan_of_mem (s.made client reason actor d failures) member with still | held
  · exact .kept still
  · rw [made] at held
    obtain ⟨own, unreleased⟩ := Memory.holds_iff.1 held
    have only := Memory.single (agreed client).once (Memory.mem_openRows.2 ⟨member, own, unreleased⟩)
    cases active : s.active client with
    | none =>
      refine .overwritten unreleased ?_ ?_
      · have known := (agreed client).same
        rw [active, only] at known
        refine Nat.le_of_not_lt fun ahead => ?_
        rw [List.filter_cons, if_pos (decide_eq_true ahead)] at known
        cases known
      · rw [List.any_cons, Event.opens_banned, made, own, beq_self_eq_true]
        rfl
    | some old =>
      have same : old = b := List.singleton_inj.1 ((agreed.row active).1.symm.trans only)
      exact .extended _ List.mem_cons_self rfl (made.trans own.symm) (congrArg (fun b : Ban => some b.summary) same)

theorem OneMove.fate (turn : OneMove sweeping s t) (agreed : s.Agreed) (member : b ∈ s.rows) :
    ∃ told, t.events = s.events ++ told ∧ Fate sweeping s.now told t.rows b := by
  cases turn with
  | drifted drifts =>
    obtain ⟨told, listed, still | ⟨under, released | ⟨unreleased, reported⟩⟩⟩ := drifts.fate member
    · exact ⟨told, listed, .kept still⟩
    · exact ⟨told, listed, .purged under released⟩
    · exact ⟨told, listed, .released unreleased reported (.inl under)⟩
  | passed => exact ⟨[], (List.append_nil _).symm, .kept member⟩
  | banned client reason actor d failures => exact ⟨_, rfl, agreed.fate_ban client reason actor d failures member⟩
  | @unbanned client actor note before active =>
    refine ⟨_, rfl, ?_⟩
    rcases Memory.mem_releaseFirst_of_mem s.now actor false member (agreed client).once with
      still | ⟨held, recorded⟩
    · exact .kept still
    · obtain ⟨own, unreleased⟩ := Memory.holds_iff.1 held
      refine .released unreleased ?_ (.inr ⟨s.now, actor, false, recorded⟩)
      rw [List.any_cons, Bool.or_eq_true]
      refine .inl ?_
      show (before.address == b.address) = true
      rw [(agreed.row active).2.1, own, beq_self_eq_true]
  | @denied client endpoint reason actor d failures free =>
    exact ⟨_, List.append_assoc .., (agreed.fate_ban client reason actor d failures member).more _⟩

end Chronicle

variable {ν : Type} [Quantity ν]

-- A ban is made afresh although a record of the client is still unreleased.
def Visit.overwrites (client : String) (v : Visit ν) : Bool :=
  v.told.any (Event.opens client) && v.world.banRecords.any (Memory.holds client)

namespace World

open Memory (openRows)

variable {w u : World ν}

omit [Quantity ν] in
theorem Logged.agreed (logged : w.Logged) : w.chronicle.Agreed := by
  obtain ⟨m, agreement⟩ := logged.agreement
  intro client
  show Agrees w.banRecords w.gate.now client (w.gate.activeBan client)
  rw [banRecords_of agreement.tables]
  exact agreement.agrees client

theorem Logged.balances {v : Visit ν} (logged : v.world.Logged) (recorded : v.Recorded) (client : String) :
    v.told.countP (Event.opens client) + (openRows client v.world.banRecords).length =
      v.told.countP (Event.ends client) + (openRows client v.after.banRecords).length + if v.overwrites client then 1 else 0 := by
  obtain ⟨told, listed, balances⟩ := (logged.step recorded).2.balances logged.agreed client
  have same : v.told = told := (congrArg (List.drop _) listed).trans List.drop_left
  have lost : (if v.overwrites client then 1 else 0) =
      if told.any (Event.opens client) then (openRows client v.world.banRecords).length else 0 := by
    have once := (logged.agreed client).once
    change (openRows client v.world.banRecords).length ≤ 1 at once
    unfold Visit.overwrites
    rw [same]
    cases told.any (Event.opens client) with
    | false => rfl
    | true =>
      rw [Bool.true_and, if_pos rfl]
      split
      · rename_i found
        obtain ⟨b, member, held⟩ := List.any_eq_true.1 found
        have here := List.length_pos_of_mem (List.mem_filter.2 ⟨member, held⟩)
        exact Nat.le_antisymm here once
      · rename_i missing
        have none : openRows client v.world.banRecords = [] :=
          List.filter_eq_nil_iff.2 fun b member held => missing (List.any_eq_true.2 ⟨b, member, held⟩)
        rw [none]
        rfl
  rw [lost, same]
  exact balances

theorem balance_run (logged : w.Logged) (client : String) (moves : List Move) (recorded : ∀ v ∈ w.visits moves, v.Recorded) :
    ((w.visits moves).flatMap Visit.told).countP (Event.opens client) + (openRows client w.banRecords).length =
      ((w.visits moves).flatMap Visit.told).countP (Event.ends client) + (openRows client (w.run moves).banRecords).length +
        (w.visits moves).countP (Visit.overwrites client) := by
  refine (run_keeps (I := fun past u => u.Logged ∧
    (past.flatMap Visit.told).countP (Event.opens client) + (openRows client w.banRecords).length =
      (past.flatMap Visit.told).countP (Event.ends client) + (openRows client u.banRecords).length +
        past.countP (Visit.overwrites client))
    ⟨logged, rfl⟩ (fun past u m ⟨before, sum⟩ allowed => ?_) moves recorded).2
  refine ⟨(before.step (v := ⟨u, m⟩) allowed).1, ?_⟩
  have balances := before.balances (v := ⟨u, m⟩) allowed client
  rw [List.flatMap_append, List.flatMap_singleton, List.countP_append, List.countP_append, List.countP_append,
    List.countP_singleton]
  change _ + (openRows client u.banRecords).length = _ + (openRows client (u.step m).2.banRecords).length + _ at balances
  omega

-- Bans and ends of a client are even, but for the unreleased record there is and for each record in whose place a fresh ban was put.
-- No record goes missing otherwise, except that released ones are purged.
theorem bans_balance {b : Blueprint} {start : Nat} (built : World.build b start .memory (.ofMedium (.memory [])) = .ok w)
    (moves : List Move) (recorded : ∀ v ∈ w.visits moves, v.Recorded) (reached : w.run moves = u)
    (handed : u.gate.trail.pending = []) (drained : u.pending = []) (client : String) :
    (openRows client u.backend.store.bans).length ≤ 1 ∧
      u.sink.events.countP (Event.opens client) = u.sink.events.countP (Event.ends client) +
        (openRows client u.backend.store.bans).length + (w.visits moves).countP (Visit.overwrites client) ∧
      (u.sink.events.countP (Event.opens client) = u.sink.events.countP (Event.ends client) +
          (openRows client u.backend.store.bans).length ↔ ∀ v ∈ w.visits moves, v.overwrites client = false) ∧
      ∀ v ∈ w.visits moves, ∀ b ∈ v.world.banRecords, Fate v.move.sweeps v.world.gate.now v.told v.after.banRecords b := by
  subst reached
  obtain ⟨logged, fresh⟩ := logged_built built
  have none : w.audited = [] := congrArg Chronicle.events fresh
  have empty : w.banRecords = [] := congrArg Chronicle.rows fresh
  obtain ⟨last, told⟩ := audited_run logged moves recorded
  have all : (w.run moves).sink.events = (w.visits moves).flatMap Visit.told := by
    rw [none, List.nil_append] at told
    rw [← told]
    unfold World.audited
    rw [handed, List.append_nil]
  have rows : (w.run moves).banRecords = (w.run moves).backend.store.bans := by
    obtain ⟨m, agreement⟩ := last.agreement
    rw [banRecords_of agreement.tables, drained, agreement.tables]
    rfl
  have sum := balance_run logged client moves recorded
  rw [← all, empty, rows] at sum
  change _ + 0 = _ at sum
  refine ⟨rows ▸ (last.agreed client).once, sum, ?_, fun v member b here => ?_⟩
  · have even : (w.visits moves).countP (Visit.overwrites client) = 0 ↔ ∀ v ∈ w.visits moves, v.overwrites client = false :=
      List.countP_eq_zero.trans (forall₂_congr fun _ _ => Bool.not_eq_true _ ▸ Iff.rfl)
    rw [← even]
    omega
  · have visited := logged_visits logged moves recorded v member
    obtain ⟨told, listed, fate⟩ := (visited.step (recorded v member)).2.fate visited.agreed here
    have same : v.told = told := (congrArg (List.drop _) listed).trans List.drop_left
    exact same ▸ fate

-- A ban that runs out is swept before the next one, which is released by hand.
def sweptBans : List Move :=
  [.command (.ban "c" "manual" (.ofSecs 10) 0 "admin") [], .flush, .command (.clock 20000) [], .command (.maintain true) [], .flush,
    .command (.ban "c" "manual" (.ofSecs 10) 0 "admin") [], .flush, .command (.unban "c" "admin" none) [], .flush]

theorem swept_bans_balance : (recorder.run sweptBans).sink.events.countP (Event.opens "c") = 2 ∧
    (recorder.run sweptBans).sink.events.countP (Event.ends "c") = 2 := by
  have balance := (bans_balance build_recorder sweptBans (by decide +kernel) rfl (by decide +kernel) (by decide +kernel) "c").2.1
  have opened : (recorder.run sweptBans).sink.events.countP (Event.opens "c") = 2 := by decide +kernel
  have none : (openRows "c" (recorder.run sweptBans).backend.store.bans).length = 0 := by decide +kernel
  have kept : (recorder.visits sweptBans).countP (Visit.overwrites "c") = 0 := by decide +kernel
  rw [opened, none, kept, Nat.add_zero] at balance
  exact ⟨opened, balance.symm⟩

-- Without that sweep the end of the first ban is nowhere, and the only one that is swept is that of the second.
def unsweptBans : List Move :=
  [.command (.ban "c" "manual" (.ofSecs 10) 0 "admin") [], .flush, .command (.clock 20000) [],
    .command (.ban "c" "manual" (.ofSecs 10) 0 "admin") [], .flush, .command (.clock 40000) [], .command (.maintain true) [], .flush]

theorem unswept_ban_lost : (∀ v ∈ recorder.visits unsweptBans, v.Recorded) ∧
    (recorder.run unsweptBans).gate.trail.pending = [] ∧ (recorder.run unsweptBans).pending = [] ∧
    (recorder.run unsweptBans).sink.events.countP (Event.opens "c") = 2 ∧
    (recorder.run unsweptBans).sink.events.countP (Event.ends "c") = 1 ∧
    (openRows "c" (recorder.run unsweptBans).backend.store.bans).length = 0 := by
  decide +kernel

end World

end Turnstile
