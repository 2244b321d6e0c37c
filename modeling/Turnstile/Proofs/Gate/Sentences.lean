import Turnstile.Proofs.Gate.Enforced
import Turnstile.Proofs.Registry.Sentences
import Turnstile.Proofs.World.Terms
namespace Turnstile

variable {ν : Type} {client named endpoint : String} {counts : Counts} {a : Sentence}

namespace Gate

variable {g : Gate ν}

-- The ban that the policy asks for, if it is not refused.
def sentence? (g : Gate ν) (client : String) (counts : Counts) : Option Sentence :=
  (g.policy.verdict counts.failures g.policy.window).bind fun tier =>
    if banFault? client g.policy.reason tier.duration = none then
      some ⟨g.now, g.policy.reason, tier.duration, toHalf counts.failures, systemActor⟩
    else none

theorem ban_sentence {reason : String} {length : Duration} (sound : banFault? client reason length = none) (failures : Nat) (actor : String) :
    (g.ban client reason length failures actor).2.now = g.now ∧ (g.ban client reason length failures actor).2.activeBan client =
      some (Sentence.onto client (g.activeBan client) ⟨g.now, reason, length, failures, actor⟩) := by
  obtain ⟨event, made⟩ := ban_of_sound (g := g) reason length failures actor sound
  obtain ⟨blocks, now⟩ := World.ban_blocks made
  rw [made]
  exact ⟨now, blocks⟩

theorem sentence?_eq_some : g.sentence? client counts = some a ↔
    ∃ tier, g.policy.verdict counts.failures g.policy.window = some tier ∧ banFault? client g.policy.reason tier.duration = none ∧
      ⟨g.now, g.policy.reason, tier.duration, toHalf counts.failures, systemActor⟩ = a := by
  simp only [sentence?, Option.bind_eq_some_iff, Option.ite_none_right_eq_some, Option.some_inj]

theorem judge_sentence (asked : g.sentence? client counts = some a) (free : g.activeBan client = none) (endpoint : String) :
    a.reading = g.now ∧ (g.judge client endpoint (.ok counts)).2.now = g.now ∧
      (g.judge client endpoint (.ok counts)).2.activeBan client = some (a.onto client none) := by
  obtain ⟨tier, reached, sound, rfl⟩ := sentence?_eq_some.1 asked
  refine ⟨rfl, ?_, (judge_reached free reached sound endpoint).2⟩
  obtain ⟨event, ban⟩ := ban_of_sound (g := g) g.policy.reason tier.duration (toHalf counts.failures) systemActor sound
  rw [judge_of_verdict reached, ban]
  exact (World.ban_blocks ban).2

theorem judge_unsentenced {reading : Except StoreError Counts}
    (unasked : named = client → ∀ counts, reading = .ok counts → g.sentence? client counts = none) (endpoint : String) :
    (g.judge client endpoint reading).2.activeBan named = g.activeBan named ∧ (g.judge client endpoint reading).2.now = g.now := by
  have told := g.judge_cases client endpoint reading
  generalize g.judge client endpoint reading = result at told
  cases told with
  | admitted => exact ⟨rfl, rfl⟩
  | @banned counts tier made g' reached ban event =>
    refine ⟨?_, (World.ban_blocks ban).2⟩
    by_cases own : named = client
    · have cases := g.ban_cases client g.policy.reason tier.duration (toHalf counts.failures) systemActor
      rw [ban] at cases
      cases cases with
      | made sound =>
        have asked := sentence?_eq_some.2 ⟨tier, reached, sound, rfl⟩
        cases (unasked own counts rfl).symm.trans asked
    · have others := World.ban_other own g g.policy.reason tier.duration (toHalf counts.failures) systemActor
      rw [ban] at others
      exact others

end Gate

variable [Quantity ν] {meanwhile : List Nat}

def World.sentence? (w : World ν) (client endpoint : String) (critical : Bool) (meanwhile : List Nat) : Option Sentence :=
  match World.heard meanwhile (Gate.enter client endpoint critical) w with
  | [⟨.count _ _ _, .ok (counts : Counts)⟩] => w.gate.sentence? client counts
  | _ => none

-- The ban of a client that is asked for at a visit and not refused.
def Visit.sentence? (client : String) (v : Visit ν) : Option Sentence :=
  match v.move with
  | .command (.ban named reason length failures actor) _ =>
    if named = client ∧ Gate.banFault? named reason length = none then
      some ⟨v.world.gate.now, reason, length, failures, actor⟩
    else none
  | .command (.enter named endpoint critical) meanwhile =>
    if named = client then v.world.sentence? named endpoint critical meanwhile else none
  | .command (.serve named endpoint critical inner) meanwhile =>
    if named = client ∧ inner ≠ .notReady then v.world.sentence? named endpoint critical meanwhile else none
  | _ => none

-- The gate stays and its clock does not go back, and the client's ban is neither released nor loaded.
structure Visit.Firm (client : String) (v : Visit ν) : Prop where
  stays : v.move.isRestart = false
  forward : v.world.gate.now ≤ v.after.gate.now
  unreleased : v.move.releases? = some client → v.world.gate.activeBan client = none
  unloaded : ∀ h ∈ v.heard, h.lists client = false

instance (client : String) (v : Visit ν) : Decidable (v.Firm client) :=
  decidable_of_iff (v.move.isRestart = false ∧ v.world.gate.now ≤ v.after.gate.now ∧
      (v.move.releases? = some client → v.world.gate.activeBan client = none) ∧ ∀ h ∈ v.heard, h.lists client = false)
    ⟨fun ⟨stays, forward, unreleased, unloaded⟩ => ⟨stays, forward, unreleased, unloaded⟩,
      fun ⟨stays, forward, unreleased, unloaded⟩ => ⟨stays, forward, unreleased, unloaded⟩⟩

namespace World

variable {w : World ν}

theorem heard_enter (w : World ν) (named endpoint : String) (critical : Bool) (meanwhile : List Nat) :
    Answered w named endpoint critical meanwhile (World.heard meanwhile (Gate.enter named endpoint critical) w)
      (w.step (.command (.enter named endpoint critical) meanwhile)) := by
  have told : Visit.heard ⟨w, .command (.enter named endpoint critical) meanwhile⟩ =
      World.heard meanwhile (Gate.enter named endpoint critical) w := heard_map Reply.admission _ meanwhile w
  exact told ▸ answered w named endpoint critical meanwhile

theorem enter_sentence {critical : Bool} (asked : w.sentence? named endpoint critical meanwhile = some a) :
    a.reading = w.gate.now ∧ (w.step (.command (.enter named endpoint critical) meanwhile)).2.gate.now = w.gate.now ∧
      w.gate.activeBan named = none ∧
      (w.step (.command (.enter named endpoint critical) meanwhile)).2.gate.activeBan named = some (a.onto named none) := by
  have answered := heard_enter w named endpoint critical meanwhile
  unfold sentence? at asked
  generalize World.heard meanwhile (Gate.enter named endpoint critical) w = heard at answered asked
  generalize w.step (.command (.enter named endpoint critical) meanwhile) = result at answered
  cases answered with
  | unsound | atOnce => cases asked
  | @judged gate n u reading valid screened few waited =>
    obtain ⟨_, free, limiter, _, kept⟩ := waited_of_screened screened waited
    have still : u.gate.activeBan named = none := kept ▸ free
    have now : u.gate.now = w.gate.now := by rw [kept]; rfl
    cases reading with
    | error e => cases asked
    | ok counts =>
      have same : u.gate.sentence? named counts = some a := by
        rw [kept]
        exact asked
      obtain ⟨reading, later, banned⟩ := Gate.judge_sentence same still endpoint
      exact ⟨reading.trans now, later.trans now, free, banned⟩

theorem enter_unsentenced {critical : Bool} (unasked : client = named → w.sentence? named endpoint critical meanwhile = none) :
    (w.step (.command (.enter named endpoint critical) meanwhile)).2.gate.activeBan client = w.gate.activeBan client := by
  have answered := heard_enter w named endpoint critical meanwhile
  unfold sentence? at unasked
  generalize World.heard meanwhile (Gate.enter named endpoint critical) w = heard at answered unasked
  generalize w.step (.command (.enter named endpoint critical) meanwhile) = result at answered
  cases answered with
  | unsound => rfl
  | atOnce valid screened =>
    have screening := w.gate.screen_cases named endpoint critical
    rw [screened] at screening
    cases screening <;> rfl
  | @judged gate n u reading valid screened few waited =>
    obtain ⟨_, _, limiter, _, kept⟩ := waited_of_screened screened waited
    have still : u.gate.activeBan client = w.gate.activeBan client := by rw [kept]; rfl
    refine (Gate.judge_unsentenced (g := u.gate) (fun own counts same => ?_) endpoint).1.trans still
    subst same
    rw [kept]
    exact unasked own

theorem served_entered {inner : Gate.Inner} (ready : inner ≠ .notReady) (named endpoint : String) (critical : Bool) (meanwhile : List Nat)
    (w : World ν) : (w.step (.command (.serve named endpoint critical inner) meanwhile)).2 =
      (w.step (.command (.enter named endpoint critical) meanwhile)).2 := by
  have served := congrArg Prod.snd (perform_map Reply.served (Gate.serve named endpoint critical inner) meanwhile w)
  have entered := congrArg Prod.snd (perform_map Reply.admission (Gate.enter named endpoint critical) meanwhile w)
  rw [perform_served ready] at served
  exact served.trans entered.symm

end World

namespace Visit

open World

variable {v : Visit ν}

-- How a ban comes to be asked for: by hand, or by the policy at a request, which answers no ban.
inductive Asked (client : String) (v : Visit ν) (a : Sentence) : Prop where
  | byHand {reason actor : String} {length : Duration} {failures : Nat} {meanwhile : List Nat}
      (ban : v.move = .command (.ban client reason length failures actor) meanwhile)
      (sound : Gate.banFault? client reason length = none)
      (same : a = ⟨v.world.gate.now, reason, length, failures, actor⟩)
  | byPolicy {endpoint : String} {critical : Bool} {meanwhile : List Nat}
      (asked : v.world.sentence? client endpoint critical meanwhile = some a)
      (enters : v.after = (v.world.step (.command (.enter client endpoint critical) meanwhile)).2)
      (silent : ∀ made, (v.world.step v.move).1 ≠ .banned made)

theorem asked_of_sentence (asked : v.sentence? client = some a) : v.Asked client a := by
  obtain ⟨w, m⟩ := v
  cases m with
  | command c meanwhile =>
    cases c with
    | ban named reason length failures actor =>
      obtain ⟨⟨rfl, sound⟩, same⟩ := Option.ite_none_right_eq_some.1 asked
      exact .byHand rfl sound (Option.some_inj.1 same).symm
    | enter named endpoint critical =>
      obtain ⟨rfl, told⟩ := Option.ite_none_right_eq_some.1 asked
      refine .byPolicy told rfl fun made banned => ?_
      obtain ⟨answer, replied, -⟩ := step_enter named endpoint critical meanwhile w
      cases replied.symm.trans banned
    | serve named endpoint critical inner =>
      obtain ⟨⟨rfl, ready⟩, told⟩ := Option.ite_none_right_eq_some.1 asked
      refine .byPolicy told (served_entered ready ..) fun made banned => ?_
      have replied := congrArg Prod.fst (perform_map Reply.served (Gate.serve named endpoint critical inner) meanwhile w)
      cases replied.symm.trans banned
    | _ => cases asked
  | _ => cases asked

theorem banned_of_sentence (asked : v.sentence? client = some a) : a.reading = v.world.gate.now ∧
    v.after.gate.now = v.world.gate.now ∧ v.after.gate.activeBan client = some (a.onto client (v.world.gate.activeBan client)) := by
  obtain ⟨w, m⟩ := v
  cases asked_of_sentence asked with
  | @byHand reason actor length failures meanwhile ban sound same =>
    dsimp only at ban
    subst ban same
    exact ⟨rfl, Gate.ban_sentence sound failures actor⟩
  | @byPolicy endpoint critical meanwhile asked enters =>
    obtain ⟨reading, now, free, banned⟩ := enter_sentence asked
    rw [enters, free]
    exact ⟨reading, now, banned⟩

theorem unmade_of_kept (unasked : v.move.bans? = none) (kept : v.after.gate.activeBan client = v.world.gate.activeBan client) :
    v.made? client = none := by
  unfold made?
  split
  · rename_i asks
    rcases asks with bans | ⟨-, free⟩
    · cases unasked.symm.trans bans
    · rw [kept, free]
  · rfl

theorem unmade_of_unasked (unasked : v.sentence? client = none) : v.made? client = none := by
  obtain ⟨w, m⟩ := v
  cases m with
  | command c meanwhile =>
    cases c with
    | ban named reason length failures actor =>
      have refused := ite_eq_right_iff.1 unasked
      apply if_neg
      rintro (bans | ⟨entering, -⟩)
      · obtain ⟨sound, same⟩ := Option.ite_none_right_eq_some.1 bans
        cases same
        cases refused ⟨rfl, sound⟩
      · cases entering
    | enter named endpoint critical =>
      apply unmade_of_kept rfl
      apply enter_unsentenced
      exact fun own => ite_eq_right_iff.1 unasked own.symm
    | serve named endpoint critical inner =>
      apply unmade_of_kept rfl
      by_cases ready : inner = .notReady
      · subst ready
        rfl
      · have after : Visit.after ⟨w, .command (.serve named endpoint critical inner) meanwhile⟩ = _ := served_entered ready ..
        rw [after]
        apply enter_unsentenced
        exact fun own => ite_eq_right_iff.1 unasked ⟨own.symm, ready⟩
    | _ => exact unmade_of_waits rfl rfl client
  | _ => exact unmade_of_waits rfl rfl client

theorem Firm.abiding (firm : v.Firm client) (unasked : v.sentence? client = none) : v.Abiding client :=
  ⟨firm.stays, firm.forward, unmade_of_unasked unasked, firm.unreleased, firm.unloaded⟩

theorem told_of_sentence {made : Ban} (asked : v.sentence? client = some a)
    (told : (v.world.step v.move).1 = .banned (.ok made)) : v.after.gate.activeBan client = some made := by
  obtain ⟨w, m⟩ := v
  cases asked_of_sentence asked with
  | @byHand reason actor length failures meanwhile ban =>
    dsimp only at ban
    subst ban
    have answer : (w.gate.ban client reason length failures actor).1 = .ok made := Reply.banned.inj told
    exact (ban_blocks (Prod.ext answer rfl)).1
  | byPolicy asked enters silent => exact absurd told (silent _)

theorem outlasts_of_sentence (asked : v.sentence? client = some a) : ∃ b, v.after.gate.activeBan client = some b ∧
    v.after.gate.now < b.bannedUntil ∧ a.deadline ≤ b.bannedUntil ∧
    ∀ old, v.world.gate.activeBan client = some old → old.bannedUntil ≤ b.bannedUntil := by
  obtain ⟨reading, now, banned⟩ := banned_of_sentence asked
  refine ⟨_, banned, ?_⟩
  have ahead := a.lt_deadline
  rw [now, ← reading]
  cases v.world.gate.activeBan client with
  | none => exact ⟨ahead, Nat.le_refl _, nofun⟩
  | some old =>
    have longer : (a.onto client (some old)).bannedUntil = max old.bannedUntil a.deadline := Registry.bannedUntil_extend ..
    rw [longer]
    refine ⟨by omega, Nat.le_max_right .., ?_⟩
    intro b same
    cases same
    exact Nat.le_max_left ..

end Visit

namespace World

variable {w : World ν} {moves : List Move}

def sentences (client : String) (w : World ν) (moves : List Move) : List Sentence := (w.visits moves).filterMap (·.sentence? client)

-- Each of them but the first finds the client still banned.
def Overlapping (client : String) (w : World ν) (moves : List Move) : Prop :=
  (w.visits moves).Pairwise fun u v => (u.sentence? client).isSome → (v.sentence? client).isSome → (v.world.gate.activeBan client).isSome

instance (client : String) (w : World ν) (moves : List Move) : Decidable (w.Overlapping client moves) :=
  inferInstanceAs (Decidable ((w.visits moves).Pairwise _))

theorem sentences_snoc (client : String) (w : World ν) (before : List Move) (m : Move) :
    w.sentences client (before ++ [m]) = w.sentences client before ++ (Visit.sentence? client ⟨w.run before, m⟩).toList := by
  unfold sentences
  rw [visits_snoc, List.filterMap_append]
  cases asked : Visit.sentence? client ⟨w.run before, m⟩ <;> simp [asked]

-- Whoever is banned anew either was never banned before or still is.
theorem Overlapping.snoc {before : List Move} {m : Move} (overlapping : w.Overlapping client (before ++ [m])) :
    w.Overlapping client before ∧ ((Visit.sentence? client ⟨w.run before, m⟩).isSome →
      w.sentences client before = [] ∨ ((w.run before).gate.activeBan client).isSome) := by
  unfold Overlapping at overlapping
  rw [visits_snoc, List.pairwise_append] at overlapping
  obtain ⟨earlier, -, last⟩ := overlapping
  refine ⟨earlier, fun asked => ?_⟩
  by_cases first : w.sentences client before = []
  · exact .inl first
  · obtain ⟨a, member⟩ := List.exists_mem_of_ne_nil _ first
    obtain ⟨v, there, told⟩ := List.mem_filterMap.1 member
    exact .inr (last v there _ (List.mem_singleton_self _) (told ▸ rfl) asked)

theorem activeBan_sentences (free : w.gate.activeBan client = none) (firm : ∀ v ∈ w.visits moves, v.Firm client)
    (overlapping : w.Overlapping client moves) : (w.run moves).gate.activeBan client =
      (Sentence.combined client (w.sentences client moves)).filter ((w.run moves).gate.now < ·.bannedUntil) := by
  induction moves using List.reverseRecOn with
  | nil => exact free
  | append_singleton before m ih =>
    obtain ⟨earlier, last⟩ := overlapping.snoc
    rw [visits_snoc] at firm
    have known := ih (fun v member => firm v (List.mem_append_left _ member)) earlier
    have step := firm ⟨w.run before, m⟩ (List.mem_append_right _ List.mem_cons_self)
    have forward := step.forward
    rw [run_snoc, sentences_snoc]
    cases asked : Visit.sentence? client ⟨w.run before, m⟩ with
    | none =>
      have left := (step.abiding asked).activeBan
      change (w.run before).gate.now ≤ ((w.run before).step m).2.gate.now at forward
      change ((w.run before).step m).2.gate.activeBan client = Option.filter _ ((w.run before).gate.activeBan client) at left
      rw [left, known, Option.filter_filter, Option.toList_none, List.append_nil]
      refine congrArg (Option.filter · _) (funext fun b => ?_)
      change (_ && decide (((w.run before).step m).2.gate.now < b.bannedUntil)) = _
      rw [Bool.eq_iff_iff, Bool.and_eq_true, decide_eq_true_eq, decide_eq_true_eq]
      omega
    | some a =>
      obtain ⟨-, -, banned⟩ := Visit.banned_of_sentence asked
      change ((w.run before).step m).2.gate.activeBan client = some (a.onto client ((w.run before).gate.activeBan client)) at banned
      have whole : (w.run before).gate.activeBan client = Sentence.combined client (w.sentences client before) := by
        rcases last (asked ▸ rfl) with none | blocks
        · rw [known, none]
          rfl
        · obtain ⟨b, active⟩ := Option.isSome_iff_exists.1 blocks
          rw [known] at active
          rw [known, active, (Option.filter_eq_some_iff.1 active).1]
      rw [Option.toList_some, Sentence.combined_snoc, ← whole, ← banned]
      exact ((((w.run before).step m).2.gate.bans.standing client).activeBan_later (Nat.le_refl _))

-- The ban in force is the sum of the bans that were asked for: it began with the first, ends with the latest deadline and for the
-- reason of the first that asked for that one, and counts the most failures. Each of them moves its end to no earlier instant, and
-- in another order they come to the same end and count.
theorem bans_sum (free : w.gate.activeBan client = none) (firm : ∀ v ∈ w.visits moves, v.Firm client)
    (overlapping : w.Overlapping client moves) :
    (w.run moves).gate.activeBan client =
        (Sentence.combined client (w.sentences client moves)).filter ((w.run moves).gate.now < ·.bannedUntil) ∧
      (∀ first later, w.sentences client moves = first :: later → ∃ b, Sentence.combined client (w.sentences client moves) = some b ∧
        Sentence.Sums client first later b ∧ b.bannedAt < b.bannedUntil) ∧
      (∀ v ∈ w.visits moves, ∀ a, v.sentence? client = some a → a.reading = v.world.gate.now ∧
        ∃ b, v.after.gate.activeBan client = some b ∧ v.after.gate.now < b.bannedUntil ∧ a.deadline ≤ b.bannedUntil ∧
          (∀ old, v.world.gate.activeBan client = some old → old.bannedUntil ≤ b.bannedUntil) ∧
          ∀ made, (v.world.step v.move).1 = .banned (.ok made) → made = b) ∧
      ∀ other, other.Perm (w.sentences client moves) →
        (Sentence.combined client other).map (·.bannedUntil) = (Sentence.combined client (w.sentences client moves)).map (·.bannedUntil) ∧
        (Sentence.combined client other).map (·.failedAttempts) = (Sentence.combined client (w.sentences client moves)).map (·.failedAttempts) := by
  refine ⟨activeBan_sentences free firm overlapping, ?_, ?_, fun other perm => Sentence.combined_perm client perm⟩
  · intro first later asked
    obtain ⟨b, total, sums⟩ := Sentence.combined_cons client first later
    exact ⟨b, asked ▸ total, sums, sums.ahead⟩
  · intro v member a asked
    obtain ⟨b, banned, ahead, reaches, longer⟩ := Visit.outlasts_of_sentence asked
    refine ⟨(Visit.banned_of_sentence asked).1, b, banned, ahead, reaches, longer, ?_⟩
    exact fun made told => Option.some_inj.1 ((Visit.told_of_sentence asked told).symm.trans banned)

-- The second ban asks for the deadline that there is, and the third one for less than a millisecond.
def relapses : List Move :=
  [.command (.ban "c" "abuse" (.ofSecs 10) 3 "admin") [], .flush, .command (.clock 4000) [],
    .command (.ban "c" "spam" (.ofSecs 6) 1 "root") [], .command (.enter "c" "login" true) [],
    .command (.ban "c" "flood" ⟨1⟩ 7 "root") []]

theorem relapses_sum : strict.gate.activeBan "c" = none ∧ (∀ v ∈ strict.visits relapses, v.Firm "c") ∧
    strict.Overlapping "c" relapses ∧
    (strict.run relapses).gate.activeBan "c" = some ⟨"c", 0, 10000, "abuse", 7, "admin", none, none, false⟩ := by
  have free : strict.gate.activeBan "c" = none := by decide +kernel
  have firm : ∀ v ∈ strict.visits relapses, v.Firm "c" := by decide +kernel
  have overlapping : strict.Overlapping "c" relapses := by decide +kernel
  obtain ⟨sum, -⟩ := bans_sum free firm overlapping
  have asked : strict.sentences "c" relapses =
      [⟨0, "abuse", .ofSecs 10, 3, "admin"⟩, ⟨4000, "spam", .ofSecs 6, 1, "root"⟩, ⟨4000, "flood", ⟨1⟩, 7, "root"⟩] := by
    decide +kernel
  refine ⟨free, firm, overlapping, sum.trans ?_⟩
  rw [asked]
  decide +kernel

end World

end Turnstile
