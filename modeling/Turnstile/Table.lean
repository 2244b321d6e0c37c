namespace Turnstile

-- Each key occurs once; that is part of the type, so that a map can be read through `get?` alone.
structure Table (α : Type) where
  entries : List (String × α)
  nodup : (entries.map Prod.fst).Nodup

namespace Table

variable {α : Type}

def empty : Table α := ⟨[], by simp⟩

instance : Inhabited (Table α) := ⟨empty⟩

def size (t : Table α) : Nat := t.entries.length

def values (t : Table α) : List α := t.entries.map Prod.snd

def get? (t : Table α) (key : String) : Option α :=
  (t.entries.find? (·.1 == key)).map Prod.snd

def putEntry (key : String) (value : α) : List (String × α) → List (String × α)
  | [] => [(key, value)]
  | (k, v) :: rest => if k = key then (key, value) :: rest else (k, v) :: putEntry key value rest

theorem mem_keys_putEntry (key : String) (value : α) (entries : List (String × α)) (k : String) :
    k ∈ (putEntry key value entries).map Prod.fst ↔ k = key ∨ k ∈ entries.map Prod.fst := by
  induction entries with
  | nil => simp [putEntry]
  | cons head rest ih =>
    obtain ⟨k', v⟩ := head
    by_cases same : k' = key
    · subst same; simp [putEntry]
    · simp only [putEntry, same, if_false, List.map_cons, List.mem_cons, ih]
      constructor <;> rintro (h | h | h) <;> simp [h]

theorem nodup_putEntry (key : String) (value : α) {entries : List (String × α)}
    (nodup : (entries.map Prod.fst).Nodup) : ((putEntry key value entries).map Prod.fst).Nodup := by
  induction entries with
  | nil => simp [putEntry]
  | cons head rest ih =>
    obtain ⟨k', v⟩ := head
    simp only [List.map_cons, List.nodup_cons] at nodup
    by_cases same : k' = key
    · subst same; simpa [putEntry] using nodup
    · simp only [putEntry, same, if_false, List.map_cons, List.nodup_cons]
      refine ⟨fun member => ?_, ih nodup.2⟩
      rcases (mem_keys_putEntry key value rest k').1 member with equal | old
      · exact same equal
      · exact nodup.1 old

def insert (t : Table α) (key : String) (value : α) : Table α :=
  ⟨putEntry key value t.entries, nodup_putEntry key value t.nodup⟩

def filter (t : Table α) (keep : String → α → Bool) : Table α :=
  ⟨t.entries.filter fun entry => keep entry.1 entry.2,
    t.nodup.sublist (List.filter_sublist.map Prod.fst)⟩

def erase (t : Table α) (key : String) : Table α := t.filter fun k _ => k != key

@[simp] theorem get?_empty (key : String) : (empty : Table α).get? key = none := rfl

theorem find?_putEntry (key : String) (value : α) (entries : List (String × α)) (k : String) :
    (putEntry key value entries).find? (·.1 == k) =
      if k = key then some (key, value) else entries.find? (·.1 == k) := by
  induction entries with
  | nil =>
    by_cases h : k = key
    · simp [putEntry, h]
    · have away : ¬ key = k := fun e => h e.symm
      simp [putEntry, h, away]
  | cons head rest ih =>
    obtain ⟨k', v⟩ := head
    by_cases same : k' = key
    · subst same
      by_cases h : k = k'
      · simp [putEntry, h]
      · have h' : ¬ k' = k := fun e => h e.symm
        simp [putEntry, h, h']
    · by_cases h : k = key
      · subst h; simp [putEntry, same, ih]
      · by_cases here : k' = k
        · subst here; simp [putEntry, same]
        · simp [putEntry, same, here, ih, h]

theorem get?_insert (t : Table α) (key : String) (value : α) (k : String) :
    (t.insert key value).get? k = if k = key then some value else t.get? k := by
  simp only [get?, insert, find?_putEntry]
  split <;> rfl

@[simp] theorem get?_insert_self (t : Table α) (key : String) (value : α) :
    (t.insert key value).get? key = some value := by simp [get?_insert]

theorem get?_insert_ne (t : Table α) {key k : String} (value : α) (h : k ≠ key) :
    (t.insert key value).get? k = t.get? k := by simp [get?_insert, h]

theorem find?_filter_keys {entries : List (String × α)} (nodup : (entries.map Prod.fst).Nodup)
    (keep : String × α → Bool) (k : String) :
    (entries.filter keep).find? (·.1 == k) = (entries.find? (·.1 == k)).filter keep := by
  induction entries with
  | nil => rfl
  | cons head rest ih =>
    simp only [List.map_cons, List.nodup_cons] at nodup
    have later := ih nodup.2
    by_cases here : head.1 = k
    · have absent : rest.find? (·.1 == k) = none := by
        rw [List.find?_eq_none]
        intro entry member
        have other : entry.1 ≠ k := by
          rintro rfl
          exact nodup.1 (here ▸ List.mem_map_of_mem member)
        simpa using other
      rw [List.find?_cons_of_pos (by simpa using here), List.filter_cons]
      split
      · rename_i kept
        rw [List.find?_cons_of_pos (by simpa using here)]
        simp [Option.filter, kept]
      · rename_i kept
        rw [later, absent]
        simp [Option.filter, kept]
    · rw [List.find?_cons_of_neg (by simpa using here), List.filter_cons]
      split
      · rw [List.find?_cons_of_neg (by simpa using here), later]
      · exact later

theorem find?_key {entries : List (String × α)} {k : String} {entry : String × α}
    (found : entries.find? (·.1 == k) = some entry) : entry.1 = k := by
  simpa using List.find?_some found

theorem get?_filter (t : Table α) (keep : String → α → Bool) (k : String) :
    (t.filter keep).get? k = (t.get? k).filter (keep k) := by
  simp only [get?, filter, find?_filter_keys t.nodup]
  cases found : t.entries.find? (·.1 == k) with
  | none => rfl
  | some entry =>
    have := find?_key found
    subst this
    by_cases kept : keep entry.1 entry.2 = true <;> simp [Option.filter, kept]

theorem get?_erase (t : Table α) (key k : String) :
    (t.erase key).get? k = if k = key then none else t.get? k := by
  rw [erase, get?_filter]
  by_cases h : k = key
  · subst h; cases t.get? k <;> simp [Option.filter]
  · cases t.get? k <;> simp [Option.filter, h]

theorem mem_entries_iff (t : Table α) (key : String) (value : α) :
    (key, value) ∈ t.entries ↔ t.get? key = some value := by
  obtain ⟨entries, nodup⟩ := t
  simp only [get?]
  induction entries with
  | nil => simp
  | cons head rest ih =>
    obtain ⟨k, v⟩ := head
    simp only [List.map_cons, List.nodup_cons] at nodup
    by_cases here : k = key
    · subst here
      have absent : (k, value) ∉ rest := fun member =>
        nodup.1 (List.mem_map_of_mem (f := Prod.fst) member)
      simp [absent, eq_comm]
    · have away : ¬ key = k := fun e => here e.symm
      simp [here, away, ih nodup.2]

end Table

end Turnstile
