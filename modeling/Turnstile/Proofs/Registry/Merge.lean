import Turnstile.Proofs.Registry.Standing
namespace Turnstile

theorem Table.putEntry_same {α : Type} {key : String} {value : α} {entries : List (String × α)}
    (found : (entries.find? (·.1 == key)).map Prod.snd = some value) : putEntry key value entries = entries := by
  induction entries with
  | nil => cases found
  | cons head rest ih =>
    obtain ⟨k, v⟩ := head
    by_cases same : k = key
    · subst same
      simp only [List.find?_cons, beq_self_eq_true, Option.map_some, Option.some_inj] at found
      simp [putEntry, found]
    · rw [putEntry, if_neg same, ih]
      rwa [List.find?_cons_of_neg (by simpa using same)] at found

theorem Table.insert_same {α : Type} {t : Table α} {key : String} {value : α} (found : t.get? key = some value) :
    t.insert key value = t := by
  obtain ⟨entries, nodup⟩ := t
  simp only [insert, putEntry_same found]

theorem Table.filter_filter_same {α : Type} (t : Table α) (keep : String → α → Bool) :
    (t.filter keep).filter keep = t.filter keep := by
  obtain ⟨entries, nodup⟩ := t
  simp only [filter, List.filter_filter, Bool.and_self]

namespace Standing

variable {s : Standing} {now : Nat} {row b : Ban} {rows : List Ban}

-- The first of some bans, as long as the longest of them.
def joined : List Ban → Option Ban
  | [] => none
  | b :: later => some (later.foldl prolong b)

theorem prolong_eq (b row : Ban) : prolong b row = { b with bannedUntil := max b.bannedUntil row.bannedUntil } := by
  unfold prolong
  split
  · rename_i later
    rw [Nat.max_eq_right (Nat.le_of_lt later)]
  · rename_i early
    rw [Nat.max_eq_left (Nat.le_of_not_lt early)]

theorem foldl_prolong (b : Ban) (later : List Ban) :
    later.foldl prolong b = { b with bannedUntil := (later.map (·.bannedUntil)).foldl max b.bannedUntil } := by
  induction later generalizing b with
  | nil => rfl
  | cons row rest ih =>
    rw [List.foldl_cons, ih, prolong_eq]
    rfl

theorem bannedUntil_joined (rivals : List Ban) : (joined rivals).map (·.bannedUntil) = (rivals.map (·.bannedUntil)).max? := by
  cases rivals with
  | nil => rfl
  | cons b later => simp only [joined, foldl_prolong, Option.map_some, List.map_cons, List.max?_cons']

theorem joined_longest (same : joined rows = some b) :
    (∃ rival ∈ rows, rival.bannedUntil = b.bannedUntil) ∧ ∀ rival ∈ rows, rival.bannedUntil ≤ b.bannedUntil := by
  have longest := bannedUntil_joined rows
  rw [same, Option.map_some] at longest
  simpa using List.max?_eq_some_iff.1 longest.symm

theorem joined_lt {instant : Nat} (same : joined rows = some b) :
    b.bannedUntil < instant ↔ ∀ rival ∈ rows, rival.bannedUntil < instant := by
  obtain ⟨⟨rival, member, ends⟩, longest⟩ := joined_longest same
  constructor
  · exact fun early other there => Nat.lt_of_le_of_lt (longest other there) early
  · exact fun early => ends ▸ early rival member

def rivals (now : Nat) (s : Standing) (rows : List Ban) : List Ban :=
  (s.activeBan now).toList ++ rows.filter (¬ s.shadows ·)

theorem activeBan_prolong (active : s.activeBan now = some b) (row : Ban) (floor : Option Nat) (mark : Option ReleaseMark) :
    (⟨some (prolong b row), floor, mark⟩ : Standing).activeBan now = some (prolong b row) := by
  obtain ⟨-, unreleased, ahead⟩ := activeBan_eq_some.1 active
  refine activeBan_eq_some.2 ⟨rfl, (releasedAt_prolong b row).trans unreleased, ?_⟩
  rw [bannedUntil_prolong]
  omega

-- One row joins the others; a mark is left as it is.
theorem take_joined (live : row.isActive now = true) (rest : List Ban) :
    (s.take now row).mark = s.mark ∧ joined ((s.take now row).rivals now rest) = joined (s.rivals now (row :: rest)) := by
  have taken := take_cases now s row
  generalize s.take now row = after at taken
  cases taken with
  | shadowed hidden =>
    refine ⟨rfl, ?_⟩
    rw [rivals, rivals, List.filter_cons_of_neg (by simpa using hidden)]
  | @prolonged b plain active =>
    refine ⟨rfl, ?_⟩
    rw [rivals, rivals, List.filter_cons_of_pos (by simpa using plain), activeBan_prolong active, active]
    rfl
  | added plain free =>
    refine ⟨rfl, ?_⟩
    have blocks : (⟨some row, some (raised s.floor row.bannedUntil), s.mark⟩ : Standing).activeBan now = some row :=
      activeBan_eq_some.2 ⟨rfl, (Ban.isActive_iff _ _).1 live⟩
    rw [rivals, rivals, List.filter_cons_of_pos (by simpa using plain), free, blocks]
    rfl

theorem takes_joined (live : ∀ row ∈ rows, row.isActive now = true) :
    (rows.foldl (take now) s).mark = s.mark ∧ (rows.foldl (take now) s).activeBan now = joined (s.rivals now rows) := by
  induction rows generalizing s with
  | nil =>
    refine ⟨rfl, ?_⟩
    rw [List.foldl_nil, rivals]
    cases s.activeBan now <;> rfl
  | cons row rest ih =>
    obtain ⟨mark, here⟩ := take_joined (s := s) (live row List.mem_cons_self) rest
    obtain ⟨later, all⟩ := ih (s := s.take now row) fun other member => live other (List.mem_cons_of_mem _ member)
    exact ⟨later.trans mark, all.trans here⟩

-- Without rivals nothing is touched, not even a ban that is over.
theorem takes_alone (alone : s.rivals now rows = []) : rows.foldl (take now) s = s := by
  have hidden : ∀ row ∈ rows, s.shadows row := by
    have none := (List.append_eq_nil_iff.1 alone).2
    simpa [List.filter_eq_nil_iff] using none
  induction rows with
  | nil => rfl
  | cons row rest ih =>
    have shadowed := hidden row List.mem_cons_self
    rw [List.foldl_cons, take, if_pos shadowed]
    apply ih
    · rwa [rivals, List.filter_cons_of_neg (by simpa using shadowed)] at alone
    · exact fun other member => hidden other (List.mem_cons_of_mem _ member)

structure Absorbed (now : Nat) (s : Standing) (row : Ban) : Prop where
  ban : ∃ b, s.activeBan now = some b ∧ row.bannedUntil ≤ b.bannedUntil
  floor : ∃ f, s.floor = some f ∧ row.bannedUntil ≤ f

def Inert (now : Nat) (s : Standing) (row : Ban) : Prop := s.shadows row ∨ s.Absorbed now row

theorem inert_take (live : row.isActive now = true) : (s.take now row).Inert now row := by
  have taken := take_cases now s row
  generalize s.take now row = after at taken
  cases taken with
  | shadowed hidden => exact .inl hidden
  | @prolonged b plain active =>
    refine .inr ⟨⟨prolong b row, activeBan_prolong active .., ?_⟩, _, rfl, Nat.le_max_right ..⟩
    rw [bannedUntil_prolong]
    exact Nat.le_max_right ..
  | added plain free =>
    exact .inr ⟨⟨row, activeBan_eq_some.2 ⟨rfl, (Ban.isActive_iff _ _).1 live⟩, Nat.le_refl _⟩, _, rfl, Nat.le_max_right ..⟩

-- A row that is taken in later undoes nothing.
theorem Inert.take (inert : s.Inert now row) (other : Ban) : (s.take now other).Inert now row := by
  have taken := take_cases now s other
  generalize s.take now other = after at taken
  cases taken with
  | shadowed => exact inert
  | @prolonged b plain active =>
    refine inert.imp id fun absorbed => ?_
    obtain ⟨⟨b', same, early⟩, f, found, low⟩ := absorbed
    cases active.symm.trans same
    refine ⟨⟨prolong b other, activeBan_prolong active .., ?_⟩, _, rfl, ?_⟩
    · rw [bannedUntil_prolong]
      omega
    · rw [found]
      exact Nat.le_trans low (Nat.le_max_left ..)
  | added plain free =>
    refine inert.imp id fun absorbed => ?_
    obtain ⟨⟨b, active, -⟩, -⟩ := absorbed
    cases free.symm.trans active

theorem inert_takes (live : ∀ row ∈ rows, row.isActive now = true) : ∀ row ∈ rows, (rows.foldl (take now) s).Inert now row := by
  have keeps (later : List Ban) {s : Standing} {row : Ban} (inert : s.Inert now row) :
      (later.foldl (take now) s).Inert now row := by
    induction later generalizing s with
    | nil => exact inert
    | cons other rest ih => exact ih (inert.take other)
  induction rows generalizing s with
  | nil => exact fun row member => absurd member List.not_mem_nil
  | cons first rest ih =>
    intro row member
    rcases List.mem_cons.1 member with rfl | later
    · exact keeps rest (inert_take (live row List.mem_cons_self))
    · exact ih (fun other there => live other (List.mem_cons_of_mem _ there)) row later

end Standing

namespace Registry

variable {r : Registry} {now : Nat} {address : String} {row : Ban} {rows : List Ban}

-- A row that shows no later end of a ban than the release that is remembered here.
def hides (r : Registry) (now : Nat) (row : Ban) : Bool :=
  match r.released.get? row.address with
  | some mark => now < mark.bannedUntil && row.bannedAt ≤ mark.releasedAt
  | none => false

def rivals (r : Registry) (now : Nat) (rows : List Ban) (address : String) : List Ban :=
  (r.activeBan now address).toList ++ rows.filter fun row => row.address == address && !r.hides now row

-- Every row, with those that come before it.
def inTurn (earlier : List Ban) : List Ban → List (List Ban × Ban)
  | [] => []
  | row :: rest => (earlier, row) :: inTurn (earlier ++ [row]) rest

def adds (r : Registry) (now : Nat) (earlier : List Ban) (row : Ban) : Bool :=
  !r.hides now row && (r.rivals now earlier row.address).isEmpty

-- A row ends later than all that block its address before it, and there is one.
def prolongs (r : Registry) (now : Nat) (earlier : List Ban) (row : Ban) : Bool :=
  !r.hides now row && !(r.rivals now earlier row.address).isEmpty &&
    (r.rivals now earlier row.address).all (·.bannedUntil < row.bannedUntil)

theorem hides_iff (r : Registry) (now : Nat) (row : Ban) :
    r.hides now row = true ↔ ((r.standing row.address).dropMark now).shadows row := by
  unfold hides Standing.shadows Standing.dropMark standing
  cases r.released.get? row.address with
  | none => simp
  | some mark =>
    simp only [Bool.and_eq_true, decide_eq_true_eq, Option.filter_eq_some_iff, Option.some_inj]
    constructor
    · exact fun ⟨stands, older⟩ => ⟨mark, ⟨rfl, stands⟩, older⟩
    · rintro ⟨_, ⟨rfl, stands⟩, older⟩
      exact ⟨stands, older⟩

theorem rivals_standing (r : Registry) (now : Nat) (rows : List Ban) (address : String) :
    r.rivals now rows address = ((r.standing address).dropMark now).rivals now (rows.filter (·.address == address)) := by
  rw [rivals, Standing.rivals, List.filter_filter]
  congr 1
  apply List.filter_congr
  intro row _
  by_cases same : row.address = address
  · subst same
    have hidden := hides_iff r now row
    cases shown : r.hides now row <;> simp_all
  · have other : (row.address == address) = false := beq_false_of_ne same
    rw [other, Bool.false_and, Bool.and_false]

theorem mergeRows_append (now : Nat) (first rest : List Ban) (r : Registry) :
    mergeRows now (first ++ rest) r = ((mergeRows now first r).1 + (mergeRows now rest (mergeRows now first r).2).1,
      (mergeRows now rest (mergeRows now first r).2).2) := by
  induction first generalizing r with
  | nil => simp [mergeRows]
  | cons row later ih => simp only [List.cons_append, mergeRows, ih, Nat.add_assoc]

section
variable (live : ∀ row ∈ rows, row.isActive now = true)
include live

theorem activeBan_merge (address : String) : (r.merge now rows).2.activeBan now address = Standing.joined (r.rivals now rows address) := by
  rw [activeBan_standing, standing_merge, rivals_standing]
  exact (Standing.takes_joined fun row member => live row (List.mem_filter.1 member).1).2

theorem isShadowed_merge (row : Ban) : (r.merge now rows).2.isShadowed row = r.hides now row := by
  rw [Bool.eq_iff_iff, isShadowed_iff, hides_iff, standing_merge]
  have mark : ((rows.filter (·.address == row.address)).foldl (Standing.take now) ((r.standing row.address).dropMark now)).mark =
      ((r.standing row.address).dropMark now).mark :=
    (Standing.takes_joined fun other member => live other (List.mem_filter.1 member).1).1
  unfold Standing.shadows
  rw [mark]

theorem mergeRow_counts (row : Ban) : (mergeRow now (r.merge now rows).2 row).1 =
    (r.adds now rows row).toNat + (r.prolongs now rows row).toNat := by
  unfold mergeRow adds prolongs
  rw [isShadowed_merge live, activeBan_merge live]
  cases r.hides now row with
  | true => rfl
  | false =>
    cases r.rivals now rows row.address with
    | nil => rfl
    | cons first later =>
      obtain ⟨b, known⟩ : ∃ b, Standing.joined (first :: later) = some b := ⟨_, rfl⟩
      have longest : decide (b.bannedUntil < row.bannedUntil) = (first :: later).all (·.bannedUntil < row.bannedUntil) := by
        rw [Bool.eq_iff_iff, decide_eq_true_eq, List.all_eq_true, Standing.joined_lt known]
        simp
      rw [known, ← longest]
      by_cases ends : b.bannedUntil < row.bannedUntil <;> simp [ends]

end

theorem mergeRows_counts (rest : List Ban) (live : ∀ row ∈ rows ++ rest, row.isActive now = true) :
    (mergeRows now rest (r.merge now rows).2).1 = (inTurn rows rest).countP (fun a => r.adds now a.1 a.2) +
      (inTurn rows rest).countP (fun a => r.prolongs now a.1 a.2) := by
  induction rest generalizing rows with
  | nil => rfl
  | cons row later ih =>
    have one := mergeRow_counts (r := r) (fun other member => live other (List.mem_append_left _ member)) row
    have next : (mergeRow now (r.merge now rows).2 row).2 = (r.merge now (rows ++ [row])).2 := by
      simp only [merge, mergeRows_append, mergeRows]
    have shifted : ∀ other ∈ (rows ++ [row]) ++ later, other.isActive now = true := by
      simpa using live
    have more := ih shifted
    rw [← next] at more
    rw [mergeRows, inTurn, List.countP_cons, List.countP_cons]
    dsimp only
    rw [one, more]
    cases r.adds now rows row <;> cases r.prolongs now rows row <;> simp <;> omega

theorem mergeRow_inert (inert : (r.standing row.address).Inert now row) : mergeRow now r row = (0, r) := by
  unfold mergeRow
  rcases inert with hidden | ⟨⟨b, active, early⟩, f, floor, low⟩
  · rw [if_pos ((isShadowed_iff r row).2 hidden)]
  · split
    · rfl
    · have known : r.activeBan now row.address = some b := active
      have floors : raise r.floors row.address row.bannedUntil = r.floors := by
        have found : r.floors.get? row.address = some f := floor
        rw [raise, found, Option.getD_some, Nat.max_eq_left low]
        exact Table.insert_same found
      rw [known, floors]
      exact if_neg (Nat.not_lt_of_le early)

theorem mergeRows_inert (inert : ∀ row ∈ rows, (r.standing row.address).Inert now row) : mergeRows now rows r = (0, r) := by
  induction rows with
  | nil => rfl
  | cons row rest ih =>
    rw [mergeRows, mergeRow_inert (inert row List.mem_cons_self)]
    dsimp only
    rw [ih fun other member => inert other (List.mem_cons_of_mem _ member), Nat.add_zero]

theorem released_mergeRows (now : Nat) (rows : List Ban) (r : Registry) : (mergeRows now rows r).2.released = r.released := by
  induction rows generalizing r with
  | nil => rfl
  | cons row rest ih =>
    have kept : (mergeRow now r row).2.released = r.released := by
      unfold mergeRow
      split
      · rfl
      · cases r.activeBan now row.address with
        | none => rfl
        | some b =>
          dsimp only
          split <;> rfl
    exact (ih _).trans kept

theorem dropMarks_merge (r : Registry) (now : Nat) (rows : List Ban) : (r.merge now rows).2.dropMarks now = (r.merge now rows).2 := by
  have marks : (r.merge now rows).2.released = r.released.filter fun _ mark => now < mark.bannedUntil := released_mergeRows ..
  rw [dropMarks, marks, Table.filter_filter_same, ← marks]

theorem merge_again (r : Registry) (live : ∀ row ∈ rows, row.isActive now = true) :
    (r.merge now rows).2.merge now rows = (0, (r.merge now rows).2) := by
  rw [merge, dropMarks_merge]
  apply mergeRows_inert
  intro row member
  rw [standing_merge]
  apply Standing.inert_takes
  · exact fun other there => live other (List.mem_filter.1 there).1
  · exact List.mem_filter.2 ⟨member, beq_self_eq_true _⟩

-- What a reload of some rows makes of a registry, and how many it counts.
structure Merged (now : Nat) (rows : List Ban) (before : Registry) (n : Nat) (after : Registry) : Prop where
  deadline : ∀ address, (after.activeBan now address).map (·.bannedUntil) =
    ((before.rivals now rows address).map (·.bannedUntil)).max?
  kept : ∀ address b, before.activeBan now address = some b →
    ∃ ends, b.bannedUntil ≤ ends ∧ after.active.get? address = some { b with bannedUntil := ends }
  added : ∀ address row rest, before.activeBan now address = none → before.rivals now rows address = row :: rest →
    ∃ ends, row.bannedUntil ≤ ends ∧ after.active.get? address = some { row with bannedUntil := ends }
  untouched : ∀ address, before.rivals now rows address = [] →
    after.active.get? address = before.active.get? address ∧ after.floors.get? address = before.floors.get? address
  counts : n = (inTurn [] rows).countP (fun a => before.adds now a.1 a.2) +
    (inTurn [] rows).countP (fun a => before.prolongs now a.1 a.2)
  again : after.merge now rows = (0, after)

theorem merged (r : Registry) (live : ∀ row ∈ rows, row.isActive now = true) :
    r.Merged now rows (r.merge now rows).1 (r.merge now rows).2 := by
  have first (address : String) (b : Ban) (rest : List Ban) (rivals : r.rivals now rows address = b :: rest) :
      ∃ ends, b.bannedUntil ≤ ends ∧ (r.merge now rows).2.active.get? address = some { b with bannedUntil := ends } := by
    have known := activeBan_merge (r := r) live address
    rw [rivals] at known
    refine ⟨(rest.foldl Standing.prolong b).bannedUntil, ?_, ?_⟩
    · exact (Standing.joined_longest rfl).2 b List.mem_cons_self
    · refine (Standing.activeBan_eq_some (s := (r.merge now rows).2.standing address).1 known).1.trans ?_
      rw [Standing.foldl_prolong]
  refine ⟨?_, ?_, ?_, ?_, ?_, merge_again r live⟩
  · intro address
    rw [activeBan_merge live, Standing.bannedUntil_joined]
  · intro address b active
    apply first address b (rows.filter fun row => row.address == address && !r.hides now row)
    rw [rivals, active]
    rfl
  · exact fun address row rest _ rivals => first address row rest rivals
  · intro address alone
    have same := standing_merge r now rows address
    rw [rivals_standing] at alone
    rw [Standing.takes_alone alone] at same
    exact ⟨congrArg Standing.ban same, congrArg Standing.floor same⟩
  · have all : ∀ row ∈ [] ++ rows, row.isActive now = true := live
    have counted := mergeRows_counts (r := r) rows all
    simpa [merge, mergeRows] using counted

end Registry

end Turnstile
