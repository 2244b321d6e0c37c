import Mathlib.Data.List.Nodup
import Mathlib.Order.Bounds.Basic
import Turnstile.Escalation
namespace Turnstile.Policy

variable {tiers good rest : List Tier} {tier : Tier} {i count : Nat} {window : Duration} {reason : String}

structure Proper (tiers : List Tier) : Prop where
  reachable : ∀ tier ∈ tiers, 0 < tier.threshold
  lasting : ∀ tier ∈ tiers, 0 < tier.duration.nanos
  rising : tiers.Pairwise (·.threshold < ·.threshold)

-- A tier may be at fault by itself, or against any of those that stand before it.
def Faulty (tiers : List Tier) (i : Nat) : Prop :=
  ∃ tier, tiers[i]? = some tier ∧ (tier.threshold = 0 ∨ tier.duration.nanos = 0 ∨
    ∃ earlier ∈ tiers.take i, tier.threshold ≤ earlier.threshold)

-- What is told of a tier: the threshold comes before the duration, and the duration before the order.
inductive Complaint (tiers : List Tier) (i : Nat) (tier : Tier) : PolicyError → Prop where
  | zeroThreshold (never : tier.threshold = 0) : Complaint tiers i tier (.zeroThreshold i)
  | zeroDuration (reachable : 0 < tier.threshold) (brief : tier.duration.nanos = 0) : Complaint tiers i tier (.zeroDuration i)
  | notAscending {previous : Tier} (reachable : 0 < tier.threshold) (lasting : 0 < tier.duration.nanos)
      (before : (tiers.take i).getLast? = some previous) (low : tier.threshold ≤ previous.threshold) :
      Complaint tiers i tier (.notAscending i tier.threshold previous.threshold)

theorem proper_nil : Proper [] := ⟨nofun, nofun, .nil⟩

theorem proper_snoc : Proper (good ++ [tier]) ↔ Proper good ∧ 0 < tier.threshold ∧ 0 < tier.duration.nanos ∧
    ∀ earlier ∈ good, earlier.threshold < tier.threshold := by
  constructor
  · rintro ⟨reachable, lasting, rising⟩
    obtain ⟨before, -, below⟩ := List.pairwise_append.1 rising
    have last : tier ∈ good ++ [tier] := by simp
    refine ⟨⟨?_, ?_, before⟩, reachable tier last, lasting tier last, fun earlier member => below earlier member tier (by simp)⟩
    · intro other member
      exact reachable other (List.mem_append_left _ member)
    · intro other member
      exact lasting other (List.mem_append_left _ member)
  · rintro ⟨proper, reached, lasts, below⟩
    refine ⟨?_, ?_, List.pairwise_append.2 ⟨proper.rising, by simp, by simpa using below⟩⟩
    · intro other member
      rcases List.mem_append.1 member with old | new
      · exact proper.reachable other old
      · rwa [List.mem_singleton.1 new]
    · intro other member
      rcases List.mem_append.1 member with old | new
      · exact proper.lasting other old
      · rwa [List.mem_singleton.1 new]

theorem Proper.left (proper : Proper (good ++ rest)) : Proper good :=
  ⟨fun other member => proper.reachable other (List.mem_append_left _ member),
    fun other member => proper.lasting other (List.mem_append_left _ member), (List.pairwise_append.1 proper.rising).1⟩

theorem Proper.below_last (proper : Proper good) {last earlier : Tier} (ends : good.getLast? = some last)
    (member : earlier ∈ good) : earlier.threshold ≤ last.threshold := by
  obtain ⟨front, rfl⟩ := List.getLast?_eq_some_iff.1 ends
  rcases List.mem_append.1 member with before | own
  · exact Nat.le_of_lt ((proper_snoc.1 proper).2.2.2 earlier before)
  · rw [List.mem_singleton.1 own]

theorem not_faulty_of_proper (proper : Proper tiers) (i : Nat) : ¬Faulty tiers i := by
  rintro ⟨tier, here, never | brief | ⟨earlier, member, low⟩⟩
  · have reached := proper.reachable tier (List.mem_of_getElem? here)
    omega
  · have lasts := proper.lasting tier (List.mem_of_getElem? here)
    omega
  · have split : tiers.take (i + 1) = tiers.take i ++ [tier] := by simp [List.take_add_one, here]
    rw [← List.take_append_drop (i + 1) tiers] at proper
    have front := proper.left
    rw [split] at front
    have above := (proper_snoc.1 front).2.2.2 earlier member
    omega

theorem first_faulty (proper : Proper good) (broken : ¬Proper (good ++ [tier])) :
    IsLeast {i | Faulty (good ++ tier :: rest) i} good.length := by
  constructor
  · refine ⟨tier, by simp, ?_⟩
    by_contra sound
    simp only [not_or, not_exists, not_and, Nat.not_le] at sound
    obtain ⟨reached, lasts, above⟩ := sound
    refine broken (proper_snoc.2 ⟨proper, Nat.pos_of_ne_zero reached, Nat.pos_of_ne_zero lasts, ?_⟩)
    simpa using above
  · intro i faulty
    by_contra early
    rw [Nat.not_le] at early
    obtain ⟨other, here, wrong⟩ := faulty
    rw [List.getElem?_append_left early] at here
    rw [List.take_append_of_le_length (Nat.le_of_lt early)] at wrong
    exact not_faulty_of_proper proper i ⟨other, here, wrong⟩

-- The loop stands before a tier with all earlier ones proper, and remembers the last of their thresholds.
theorem tierFault?_proper (proper : Proper good) (rest : List Tier) :
    (tierFault? good.length (good.getLast?.map (·.threshold)) rest = none ∧ Proper (good ++ rest)) ∨
      ∃ e i tier, tierFault? good.length (good.getLast?.map (·.threshold)) rest = some e ∧
        IsLeast {i | Faulty (good ++ rest) i} i ∧ (good ++ rest)[i]? = some tier ∧ Complaint (good ++ rest) i tier e := by
  induction rest generalizing good with
  | nil => exact .inl ⟨rfl, by simpa using proper⟩
  | cons tier rest ih =>
    have here : (good ++ tier :: rest)[good.length]? = some tier := by simp
    have before : (good ++ tier :: rest).take good.length = good := by simp
    by_cases reached : tier.threshold = 0
    · refine .inr ⟨_, good.length, tier, by simp [tierFault?, reached], first_faulty proper fun all => ?_, here, .zeroThreshold reached⟩
      have := (proper_snoc.1 all).2.1
      omega
    by_cases lasts : tier.duration.nanos = 0
    · refine .inr ⟨_, good.length, tier, by simp [tierFault?, reached, lasts], first_faulty proper fun all => ?_, here,
        .zeroDuration (Nat.pos_of_ne_zero reached) lasts⟩
      have := (proper_snoc.1 all).2.2.1
      omega
    have go (above : ∀ earlier ∈ good, earlier.threshold < tier.threshold) : Proper (good ++ [tier]) :=
      proper_snoc.2 ⟨proper, Nat.pos_of_ne_zero reached, Nat.pos_of_ne_zero lasts, above⟩
    cases last : good.getLast? with
    | none =>
      have later := ih (go (by simp [List.getLast?_eq_none_iff.1 last]))
      simpa [tierFault?, reached, lasts, last] using later
    | some previous =>
      by_cases low : tier.threshold ≤ previous.threshold
      · refine .inr ⟨_, good.length, tier, by simp [tierFault?, reached, lasts, low], first_faulty proper fun all => ?_, here,
          .notAscending (Nat.pos_of_ne_zero reached) (Nat.pos_of_ne_zero lasts) (by rw [before]; exact last) low⟩
        have := (proper_snoc.1 all).2.2.2 previous (List.mem_of_getLast? last)
        omega
      · have later := ih (go fun earlier member => Nat.lt_of_le_of_lt (proper.below_last last member) (Nat.not_le.1 low))
        simpa [tierFault?, reached, lasts, low] using later

theorem Complaint.unique {e e' : PolicyError} (told : Complaint tiers i tier e) (other : Complaint tiers i tier e') : e = e' := by
  cases told <;> cases other
  case notAscending.notAscending before _ _ _ _ before' _ =>
    rw [before] at before'
    cases before'
    rfl
  all_goals first | rfl | omega

theorem fault?_eq_some_iff (tiers : List Tier) (e : PolicyError) : fault? tiers = some e ↔
    tiers = [] ∧ e = .empty ∨
      ∃ i tier, IsLeast {i | Faulty tiers i} i ∧ tiers[i]? = some tier ∧ Complaint tiers i tier e := by
  cases tiers with
  | nil => simp [fault?, IsLeast, eq_comm]
  | cons first rest =>
    have looked : fault? (first :: rest) = tierFault? 0 none (first :: rest) := by simp [fault?]
    rw [looked]
    rcases tierFault?_proper proper_nil (first :: rest) with ⟨none, proper⟩ | ⟨told, i, tier, found, least, here, complaint⟩
    · change tierFault? 0 .none (first :: rest) = .none at none
      simp only [none, reduceCtorEq, false_iff, false_and, false_or]
      rintro ⟨i, -, least, -⟩
      exact not_faulty_of_proper proper i least.1
    · change tierFault? 0 none (first :: rest) = some told at found
      simp only [found, Option.some.injEq, reduceCtorEq, false_and, false_or]
      constructor
      · rintro rfl
        exact ⟨i, tier, least, here, complaint⟩
      · rintro ⟨j, other, least', here', complaint'⟩
        cases least.unique least'
        rw [List.nil_append, here'] at here
        cases here
        exact complaint.unique complaint'

theorem fault?_eq_none_iff (tiers : List Tier) : fault? tiers = none ↔ tiers ≠ [] ∧ Proper tiers := by
  cases tiers with
  | nil => simp [fault?]
  | cons first rest =>
    have looked : fault? (first :: rest) = tierFault? 0 none (first :: rest) := by simp [fault?]
    rw [looked]
    rcases tierFault?_proper proper_nil (first :: rest) with ⟨none, proper⟩ | ⟨told, i, tier, found, least, here, complaint⟩
    · exact iff_of_true none ⟨by simp, proper⟩
    · change tierFault? 0 none (first :: rest) = some told at found
      rw [found]
      exact iff_of_false (by simp) fun so => not_faulty_of_proper so.2 i least.1

section
variable {p : Policy} {higher : Tier} {n m : Nat}

theorem of_make (made : make tiers window reason = .ok p) : fault? tiers = none ∧ p = ⟨tiers, window, reason⟩ := by
  unfold make at made
  split at made
  · cases made
  · rename_i faultless
    cases made
    exact ⟨faultless, rfl⟩

theorem make_eq_error_iff {e : PolicyError} : make tiers window reason = .error e ↔ fault? tiers = some e := by
  unfold make
  cases fault? tiers <;> simp

theorem tierFor_eq_some (found : p.tierFor count = some tier) : tier ∈ p.tiers ∧ tier.threshold ≤ count := by
  have reached := List.find?_some found
  exact ⟨List.mem_reverse.1 (List.mem_of_find?_eq_some found), of_decide_eq_true reached⟩

theorem tierFor_isSome : (p.tierFor count).isSome ↔ ∃ tier ∈ p.tiers, tier.threshold ≤ count := by
  unfold tierFor
  rw [List.find?_isSome]
  simp only [List.mem_reverse, decide_eq_true_eq]

variable (rising : p.tiers.Pairwise (·.threshold < ·.threshold))
include rising

-- Whatever stands after the tier that was found is not reached.
theorem tierFor_highest (found : p.tierFor count = some tier) {other : Tier} (member : other ∈ p.tiers)
    (reached : other.threshold ≤ count) : other.threshold ≤ tier.threshold := by
  obtain ⟨-, after, before, split, missed⟩ := List.find?_eq_some_iff_append.1 found
  have order := List.pairwise_reverse.2 rising
  rw [split] at order
  obtain ⟨-, falling, -⟩ := List.pairwise_append.1 order
  rw [← List.mem_reverse, split] at member
  rcases List.mem_append.1 member with later | own
  · have := missed other later
    simp only [Bool.not_eq_true', decide_eq_false_iff_not] at this
    exact absurd reached this
  · rcases List.mem_cons.1 own with rfl | earlier
    · exact Nat.le_refl _
    · exact Nat.le_of_lt ((List.pairwise_cons.1 falling).1 other earlier)

theorem eq_of_threshold (here : tier ∈ p.tiers) (there : higher ∈ p.tiers) (same : tier.threshold = higher.threshold) :
    tier = higher := by
  have distinct : (p.tiers.map (·.threshold)).Nodup := List.pairwise_map.2 (rising.imp Nat.ne_of_lt)
  exact List.inj_on_of_nodup_map distinct here there same

theorem tierFor_iff : p.tierFor count = some tier ↔
    tier ∈ p.tiers ∧ IsGreatest {t | t ≤ count ∧ ∃ other ∈ p.tiers, other.threshold = t} tier.threshold := by
  constructor
  · intro found
    obtain ⟨member, reached⟩ := tierFor_eq_some found
    refine ⟨member, ⟨reached, tier, member, rfl⟩, ?_⟩
    rintro t ⟨below, other, there, rfl⟩
    exact tierFor_highest rising found there below
  · rintro ⟨member, ⟨reached, -⟩, greatest⟩
    obtain ⟨found, same⟩ := Option.isSome_iff_exists.1 (tierFor_isSome.2 ⟨tier, member, reached⟩)
    obtain ⟨there, below⟩ := tierFor_eq_some same
    have up := tierFor_highest rising same member reached
    have down := greatest ⟨below, found, there, rfl⟩
    rw [same, eq_of_threshold rising member there (Nat.le_antisymm up down)]

theorem tierFor_mono (le : n ≤ m) (found : p.tierFor n = some tier) :
    ∃ higher, p.tierFor m = some higher ∧ tier.threshold ≤ higher.threshold := by
  obtain ⟨member, reached⟩ := tierFor_eq_some found
  obtain ⟨higher, same⟩ := Option.isSome_iff_exists.1 (tierFor_isSome.2 ⟨tier, member, Nat.le_trans reached le⟩)
  exact ⟨higher, same, tierFor_highest rising same member (Nat.le_trans reached le)⟩

theorem tierFor_first : (p.tierFor count).isSome ↔ ∃ first, p.tiers.head? = some first ∧ first.threshold ≤ count := by
  rw [tierFor_isSome]
  constructor
  · rintro ⟨tier, member, reached⟩
    cases listed : p.tiers with
    | nil => simp [listed] at member
    | cons first rest =>
      rw [listed] at member rising
      refine ⟨first, rfl, ?_⟩
      rcases List.mem_cons.1 member with rfl | later
      · exact reached
      · have := (List.pairwise_cons.1 rising).1 tier later
        omega
  · rintro ⟨first, head, reached⟩
    exact ⟨first, List.mem_of_head? head, reached⟩

end

-- A table makes a policy exactly if it has tiers, all of them can be reached and last, and each needs more failures than any before it.
-- Otherwise the first tier at which that fails is told. Failures that were counted over no more time than the policy looks back lead to a
-- ban as soon as they reach the first threshold: the one tier with the greatest threshold that is reached applies, and more failures lead
-- to no lower tier.
theorem tiers_exact (tiers : List Tier) (window : Duration) (reason : String) :
    ((∃ p, make tiers window reason = .ok p) ↔ tiers ≠ [] ∧ (∀ tier ∈ tiers, 0 < tier.threshold) ∧
      (∀ tier ∈ tiers, 0 < tier.duration.nanos) ∧ tiers.Pairwise (·.threshold < ·.threshold)) ∧
    (∀ e, make tiers window reason = .error e ↔ tiers = [] ∧ e = .empty ∨
      ∃ i tier, IsLeast {i | Faulty tiers i} i ∧ tiers[i]? = some tier ∧ Complaint tiers i tier e) ∧
    ∀ p, make tiers window reason = .ok p → p.tiers = tiers ∧ p.window = window ∧ p.reason = reason ∧
      ∀ span : Duration, span.nanos ≤ window.nanos →
        (∀ count, (p.verdict count span).isSome ↔ ∃ first, tiers.head? = some first ∧ first.threshold ≤ count) ∧
        (∀ count tier, p.verdict count span = some tier ↔
          tier ∈ tiers ∧ IsGreatest {t | t ≤ count ∧ ∃ other ∈ tiers, other.threshold = t} tier.threshold) ∧
        (∀ tier ∈ tiers, ∀ other ∈ tiers, tier.threshold = other.threshold → tier = other) ∧
        ∀ n m tier, n ≤ m → p.verdict n span = some tier →
          ∃ higher, p.verdict m span = some higher ∧ tier.threshold ≤ higher.threshold := by
  refine ⟨⟨?_, ?_⟩, fun e => ?_, fun p made => ?_⟩
  · rintro ⟨p, made⟩
    obtain ⟨filled, proper⟩ := (fault?_eq_none_iff tiers).1 (of_make made).1
    exact ⟨filled, proper.reachable, proper.lasting, proper.rising⟩
  · rintro ⟨filled, reachable, lasting, rising⟩
    have faultless := (fault?_eq_none_iff tiers).2 ⟨filled, reachable, lasting, rising⟩
    exact ⟨⟨tiers, window, reason⟩, by unfold make; rw [faultless]⟩
  · rw [make_eq_error_iff, fault?_eq_some_iff]
  · obtain ⟨faultless, rfl⟩ := of_make made
    have rising := ((fault?_eq_none_iff tiers).1 faultless).2.rising
    refine ⟨rfl, rfl, rfl, fun span short => ?_⟩
    have plain (count : Nat) : Policy.verdict ⟨tiers, window, reason⟩ count span = Policy.tierFor ⟨tiers, window, reason⟩ count := by
      unfold verdict
      rw [effective_of_le short]
    simp only [plain]
    exact ⟨fun _ => tierFor_first rising, fun _ _ => tierFor_iff rising,
      fun _ here _ there => eq_of_threshold (p := ⟨tiers, window, reason⟩) rising here there,
      fun _ _ _ le found => tierFor_mono rising le found⟩

def abuseTiers : List Tier := [⟨5, .ofSecs 300⟩, ⟨20, .ofSecs 3600⟩, ⟨50, .ofSecs 86400⟩]

-- Nearly fifty failures reach the second tier, and a thousand no lower one. A row that stands too late is told before a worse one behind it.
theorem abuse_tiers_exact :
    make abuseTiers (.ofSecs 300) "abuse" = .ok ⟨abuseTiers, .ofSecs 300, "abuse"⟩ ∧
    Policy.verdict ⟨abuseTiers, .ofSecs 300, "abuse"⟩ 49 (.ofSecs 60) = some ⟨20, .ofSecs 3600⟩ ∧
    IsGreatest {t | t ≤ 49 ∧ ∃ other ∈ abuseTiers, other.threshold = t} 20 ∧
    (∃ higher, Policy.verdict ⟨abuseTiers, .ofSecs 300, "abuse"⟩ 1000 (.ofSecs 60) = some higher ∧ 20 ≤ higher.threshold) ∧
    make (abuseTiers ++ [⟨20, .ofSecs 60⟩, ⟨0, .zero⟩]) (.ofSecs 300) "abuse" = .error (.notAscending 3 20 50) ∧
    IsLeast {i | Faulty (abuseTiers ++ [⟨20, .ofSecs 60⟩, ⟨0, .zero⟩]) i} 3 := by
  obtain ⟨-, -, built⟩ := tiers_exact abuseTiers (.ofSecs 300) "abuse"
  obtain ⟨-, -, -, judged⟩ := built _ rfl
  obtain ⟨-, found, -, more⟩ := judged (.ofSecs 60) (by decide)
  obtain ⟨-, refused, -⟩ := tiers_exact (abuseTiers ++ [⟨20, .ofSecs 60⟩, ⟨0, .zero⟩]) (.ofSecs 300) "abuse"
  obtain ⟨empty, -⟩ | ⟨i, tier, least, -, told⟩ := (refused (.notAscending 3 20 50)).1 rfl
  · cases empty
  · have index : i = 3 := by
      generalize same : PolicyError.notAscending 3 20 50 = e at told
      cases told with
      | notAscending => exact (PolicyError.notAscending.inj same).1.symm
      | zeroThreshold | zeroDuration => cases same
    subst index
    have second : Policy.verdict ⟨abuseTiers, .ofSecs 300, "abuse"⟩ 49 (.ofSecs 60) = some ⟨20, .ofSecs 3600⟩ := by decide
    exact ⟨rfl, second, ((found _ _).1 second).2, more 49 1000 _ (by decide) second, rfl, least⟩

end Turnstile.Policy
