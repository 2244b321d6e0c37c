import Turnstile.Proofs.Registry.Standing
namespace Turnstile

namespace Ban

theorem byAddress_trans (a b c : Ban) (first : a.byAddress b = true) (rest : b.byAddress c = true) :
    a.byAddress c = true :=
  decide_eq_true (String.le_trans (of_decide_eq_true first) (of_decide_eq_true rest))

theorem byAddress_total (a b : Ban) : (a.byAddress b || b.byAddress a) = true := by
  rw [Bool.or_eq_true]
  exact (String.le_total a.address b.address).imp decide_eq_true decide_eq_true

theorem byAddress_antisymm {a b : Ban} (first : a.byAddress b = true) (rest : b.byAddress a = true) :
    a.address = b.address :=
  String.le_antisymm (of_decide_eq_true first) (of_decide_eq_true rest)

end Ban

namespace Registry

variable {r s : Registry} {now : Nat} {b : Ban}

theorem mem_list (addressed : r.Addressed) : b ∈ r.list now ↔ r.activeBan now b.address = some b := by
  unfold list Table.values activeBan
  rw [List.mem_mergeSort, List.mem_filter, List.mem_map, Option.filter_eq_some_iff]
  refine and_congr_left fun _ => ?_
  constructor
  · rintro ⟨⟨key, other⟩, member, rfl⟩
    have found := (Table.mem_entries_iff r.active key other).1 member
    rwa [← addressed key other found] at found
  · exact fun found => ⟨(b.address, b), (Table.mem_entries_iff r.active b.address b).2 found, rfl⟩

theorem nodup_list (addressed : r.Addressed) (now : Nat) : (r.list now).Nodup := by
  have keys : r.active.entries.map (fun entry => entry.2.address) = r.active.entries.map Prod.fst :=
    List.map_congr_left fun entry member => addressed entry.1 entry.2 ((Table.mem_entries_iff ..).1 member)
  have values : r.active.values.Nodup := by
    have distinct := r.active.nodup
    rw [← keys] at distinct
    refine (List.pairwise_map.1 distinct).map Prod.snd fun first second other same => ?_
    exact other (congrArg Ban.address same)
  exact (List.mergeSort_perm ..).nodup_iff.2 (values.sublist List.filter_sublist)

theorem sorted_list (r : Registry) (now : Nat) : (r.list now).Pairwise (Ban.byAddress · ·) :=
  List.pairwise_mergeSort Ban.byAddress_trans Ban.byAddress_total _

-- No two of them have the same address, so that the list ascends at every place.
theorem list_ascending (addressed : r.Addressed) (now : Nat) : (r.list now).Pairwise (·.address < ·.address) := by
  refine List.Pairwise.imp_of_mem ?_ ((sorted_list r now).and (nodup_list addressed now))
  rintro a b here there ⟨before, other⟩
  refine Std.lt_of_le_of_ne (of_decide_eq_true before) fun same => other ?_
  have first := (mem_list addressed).1 here
  rw [same, (mem_list addressed).1 there] at first
  exact (Option.some.inj first).symm

theorem banned_iff_listed (addressed : r.Addressed) (client : String) :
    (r.activeBan now client).isSome ↔ ∃ b ∈ r.list now, b.address = client := by
  rw [Option.isSome_iff_exists]
  constructor
  · rintro ⟨b, active⟩
    have own : b.address = client := addressed client b (Option.eq_some_of_filter_eq_some active)
    subst own
    exact ⟨b, (mem_list addressed).2 active, rfl⟩
  · rintro ⟨b, listed, rfl⟩
    exact ⟨b, (mem_list addressed).1 listed⟩

theorem list_congr (first : r.Addressed) (second : s.Addressed)
    (same : ∀ address, r.activeBan now address = s.activeBan now address) : r.list now = s.list now := by
  have members (b : Ban) : b ∈ r.list now ↔ b ∈ s.list now := by
    rw [mem_list first, mem_list second, same]
  refine List.Perm.eq_of_pairwise ?_ (sorted_list r now) (sorted_list s now)
    ((List.perm_ext_iff_of_nodup (nodup_list first now) (nodup_list second now)).2 members)
  intro a b here there before after
  have one := (mem_list first).1 here
  rw [same, Ban.byAddress_antisymm before after, (mem_list second).1 there] at one
  exact (Option.some.inj one).symm

end Registry

end Turnstile
