import Mathlib.Logic.Relation
import Turnstile.Json.Record
namespace Turnstile.Json

variable {ms ms' : List Member} {found found' : List (String × Tree)} {names : List String} {key : String} {place : Nat}

theorem namedMembers?_eq (ms : List Member) : namedMembers? ms =
    if ms.all (·.1.isSome) then some (ms.filterMap fun m => m.1.map (·, m.2)) else none := by
  induction ms with
  | nil => rfl
  | cons m rest ih =>
    obtain ⟨_ | key, t⟩ := m
    · rfl
    · rw [namedMembers?, ih]
      by_cases keyed : rest.all (·.1.isSome) <;> simp [keyed]

theorem namedMembers?_keyed (found : List (String × Tree)) : namedMembers? (found.map fun m => (some m.1, m.2)) = some found := by
  rw [namedMembers?_eq]
  simp [List.filterMap_map, Function.comp_def]

theorem namedMembers?_perm (perm : ms.Perm ms') : Option.Rel List.Perm (namedMembers? ms) (namedMembers? ms') := by
  rw [namedMembers?_eq, namedMembers?_eq, perm.all_eq]
  split
  · exact .some (perm.filterMap _)
  · exact .none

theorem missing_of_named (named : namedMembers? ms = some found) (missing : ∀ m ∈ ms, ∀ name ∈ names, m.1 ≠ some name) :
    ∀ m ∈ found, m.1 ∉ names := by
  rw [namedMembers?_eq] at named
  split at named
  · cases named
    intro m member called
    obtain ⟨⟨key, t⟩, inside, same⟩ := List.mem_filterMap.1 member
    obtain ⟨_, rfl, rfl⟩ := Option.map_eq_some_iff.1 same
    exact missing _ inside _ called rfl
  · cases named

namespace Fields

theorem given_perm (perm : found.Perm found') (place : Nat) (names : List String) :
    (members found).given place names = (members found').given place names := by
  have same := perm.filter fun m => names.contains m.1
  simp only [given]
  generalize found.filter _ = left at same
  generalize found'.filter _ = right at same
  match left, right, same.length_eq with
  | [], [], _ => rfl
  | [m], [other], _ => rw [List.singleton_perm_singleton.1 same]
  | _ :: _ :: _, _ :: _ :: _, _ => rfl

theorem given_skipped (unknown : key ∉ names) (t : Tree) (found : List (String × Tree)) (place : Nat) :
    (members ((key, t) :: found)).given place names = (members found).given place names := by
  simp [given, unknown]

theorem given_renamed {other : String} (same : key ∈ names ↔ other ∈ names) (t : Tree) (found : List (String × Tree)) (place : Nat) :
    (members ((key, t) :: found)).given place names = (members ((other, t) :: found)).given place names := by
  by_cases known : key ∈ names
  · simp only [given, List.filter_cons, List.contains_iff_mem, known, same.1 known, if_true]
    cases found.filter fun m => names.contains m.1 <;> rfl
  · rw [given_skipped known, given_skipped (mt same.2 known)]

theorem filter_missing (missing : ∀ m ∈ found, m.1 ∉ names) : (found.filter fun m => names.contains m.1) = [] := by
  simpa [List.filter_eq_nil_iff] using missing

theorem given_missing (missing : ∀ m ∈ found, m.1 ∉ names) (place : Nat) : (members found).given place names = .absent := by
  simp only [given, filter_missing missing]

theorem given_once (known : key ∈ names) (missing : ∀ m ∈ found, m.1 ∉ names) (t : Tree) (place : Nat) :
    (members ((key, t) :: found)).given place names = .once t := by
  simp only [given, List.filter_cons, List.contains_iff_mem, known, filter_missing missing, if_true]

theorem defaulted_congr {f g : Fields} (same : f.given place names = g.given place names) {α : Type} (default : α)
    (read : Tree → Option α) : f.defaulted place names default read = g.defaulted place names default read := by
  unfold defaulted
  rw [same]

theorem defaulted_spelled {α : Type} {default : α} {t : Tree} (known : key ∈ names) (missing : ∀ m ∈ found, m.1 ∉ names)
    (place : Nat) (read : Tree → Option α) (spelled : read t = some default) :
    (members found).defaulted place names default read = (members ((key, t) :: found)).defaulted place names default read := by
  unfold defaulted
  rw [given_missing missing, given_once known missing]
  exact spelled.symm

theorem given_repeated {first second : String} (known : first ∈ names) (again : second ∈ names) (t u : Tree)
    (before between after : List (String × Tree)) (place : Nat) :
    (members (before ++ (first, t) :: between ++ (second, u) :: after)).given place names = .repeated := by
  simp only [given, List.filter_append, List.filter_cons, List.contains_iff_mem, known, again, if_true]
  cases before.filter fun m => names.contains m.1 with
  | nil => cases between.filter fun m => names.contains m.1 <;> rfl
  | cons m rest => cases rest <;> rfl

-- A list of all fields gives each field what the object with these keys gives it.
theorem given_zip {ts : List Tree} {name : String} {t : Tree} (nodup : names.Nodup) (known : names[place]? = some name)
    (held : ts[place]? = some t) (other : Nat) : (members (names.zip ts)).given other [name] = .once t := by
  induction names generalizing ts place with
  | nil => cases known
  | cons first rest ih =>
    obtain ⟨fresh, nodup⟩ := List.nodup_cons.1 nodup
    cases ts with
    | nil => cases held
    | cons t' ts =>
      cases place with
      | zero =>
        cases known
        cases held
        refine given_once List.mem_cons_self (fun m member called => fresh ?_) t other
        rw [← List.mem_singleton.1 called]
        exact (List.of_mem_zip member).1
      | succ place =>
        have later : name ∈ rest := List.mem_of_getElem? known
        have unlike : first ∉ [name] := fun same => fresh (List.mem_singleton.1 same ▸ later)
        rw [List.zip_cons_cons, given_skipped unlike]
        exact ih nodup known held

-- Every reader of a field finds the same in both, but that a field which may be left out may be `null` in one of them.
structure Agree (names optional : List String) (f g : Fields) : Prop where
  given {place : Nat} {name : String} (known : names[place]? = some name) (needed : name ∉ optional) :
    f.given place [name] = g.given place [name]
  nullable {place : Nat} {name : String} (known : names[place]? = some name) {α : Type} (read : Tree → Option α) :
    f.nullable place name read = g.nullable place name read
  defaulted {place : Nat} {name : String} (known : names[place]? = some name) {α : Type} (read : Tree → Option α) :
    f.defaulted place [name] none (·.nullable? read) = g.defaulted place [name] none (·.nullable? read)

theorem Agree.required {optional : List String} {f g : Fields} (agree : Agree names optional f g) {name : String}
    (known : names[place]? = some name) (needed : name ∉ optional) {α : Type} (read : Tree → Option α) :
    f.required place name read = g.required place name read := by
  unfold Fields.required
  rw [agree.given known needed]

theorem nullable_members {name : String} (same : (members found).given place [name] = (members found').given place [name])
    {α : Type} (read : Tree → Option α) : (members found).nullable place name read = (members found').nullable place name read := by
  unfold nullable
  rw [same]
  cases (members found').given place [name] <;> rfl

theorem agree_of_given {optional : List String}
    (same : ∀ place, ∀ name ∈ names, (members found).given place [name] = (members found').given place [name]) :
    Agree names optional (members found) (members found') where
  given known _ := same _ _ (List.mem_of_getElem? known)
  nullable known _ read := nullable_members (same _ _ (List.mem_of_getElem? known)) read
  defaulted known _ read := defaulted_congr (same _ _ (List.mem_of_getElem? known)) none (·.nullable? read)

theorem agree_omitted {optional : List String} (may : key ∈ optional) (missing : ∀ m ∈ found, m.1 ≠ key) :
    Agree names optional (members found) (members ((key, .null) :: found)) := by
  have other {name : String} (unlike : key ≠ name) (place : Nat) :
      (members found).given place [name] = (members ((key, .null) :: found)).given place [name] :=
    (given_skipped (by simpa using unlike) ..).symm
  have unnamed : ∀ m ∈ found, m.1 ∉ [key] := by simpa using missing
  refine ⟨fun _ needed => other (by rintro rfl; exact needed may) _, fun {place name} _ _ read => ?_, fun {place name} _ _ read => ?_⟩
  · by_cases unlike : key = name
    · subst unlike
      unfold nullable
      rw [given_missing unnamed, given_once List.mem_cons_self unnamed]
      rfl
    · exact nullable_members (other unlike _) read
  · by_cases unlike : key = name
    · subst unlike
      exact defaulted_spelled List.mem_cons_self unnamed _ (·.nullable? read) rfl
    · exact defaulted_congr (other unlike _) none (·.nullable? read)

theorem agree_listed {optional : List String} {ts : List Tree} (nodup : names.Nodup) (complete : ts.length = names.length) :
    Agree names optional (items ts) (members (names.zip ts)) := by
  have same {place : Nat} {name : String} (known : names[place]? = some name) :
      ∃ t, (items ts).given place [name] = .once t ∧ (members (names.zip ts)).given place [name] = .once t := by
    obtain ⟨within, -⟩ := List.getElem?_eq_some_iff.1 known
    have held : ts[place]? = some (ts.get ⟨place, complete ▸ within⟩) := List.getElem?_eq_getElem _
    exact ⟨_, by simp only [given, held], given_zip nodup known held place⟩
  refine ⟨fun known _ => ?_, fun known _ read => ?_, fun known _ read => ?_⟩ <;> obtain ⟨t, listed, keyed⟩ := same known
  · rw [listed, keyed]
  · unfold nullable
    rw [listed, keyed]
  · exact defaulted_congr (listed.trans keyed.symm) none (·.nullable? read)

end Fields

-- Another wording of a record whose fields have these names, some of which may be left out.
inductive Rewords (names optional : List String) : Tree → Tree → Prop where
  | permuted {ms ms' : List Member} (perm : ms.Perm ms') : Rewords names optional (.object ms) (.object ms')
  | skipped {key : String} (unknown : key ∉ names) (t : Tree) (ms : List Member) :
      Rewords names optional (.object ms) (.object ((some key, t) :: ms))
  | omitted {key : String} (may : key ∈ optional) {ms : List Member} (missing : ∀ m ∈ ms, m.1 ≠ some key) :
      Rewords names optional (.object ms) (.object ((some key, .null) :: ms))
  | listed {ts : List Tree} (complete : ts.length = names.length) :
      Rewords names optional (.array ts) (.object ((names.map some).zip ts))

theorem Rewords.agree {optional : List String} {t t' : Tree} (nodup : names.Nodup) (reworded : Rewords names optional t t') :
    Option.Rel (Fields.Agree names optional) (t.fields? names.length) (t'.fields? names.length) := by
  cases reworded with
  | permuted perm =>
    simp only [Tree.fields?]
    match namedMembers? _, namedMembers? _, namedMembers?_perm perm with
    | _, _, .none => exact .none
    | _, _, .some perm => exact .some (Fields.agree_of_given fun place name _ => Fields.given_perm perm place [name])
  | @skipped key unknown t ms =>
    simp only [Tree.fields?, namedMembers?]
    cases namedMembers? ms with
    | none => exact .none
    | some found =>
      refine .some (Fields.agree_of_given fun place name known => (Fields.given_skipped ?_ ..).symm)
      exact fun same => unknown (List.mem_singleton.1 same ▸ known)
  | @omitted key may ms missing =>
    simp only [Tree.fields?, namedMembers?]
    cases named : namedMembers? ms with
    | none => exact .none
    | some found =>
      have absent : ∀ m ∈ found, m.1 ∉ [key] := missing_of_named named (by simpa using missing)
      exact .some (Fields.agree_omitted may (by simpa using absent))
  | @listed ts complete =>
    have keyed : (names.map some).zip ts = (names.zip ts).map fun m => (some m.1, m.2) := by
      rw [List.zip_map_left]
      rfl
    simp only [Tree.fields?, complete, Nat.le_refl, if_true, keyed, namedMembers?_keyed]
    exact .some (Fields.agree_listed nodup complete)

-- What no single step changes is the same at both ends of a path.
theorem same_of_steps {α β : Type} {step : α → α → Prop} {f : α → β} (kept : ∀ a b, step a b → f a = f b) {a b : α}
    (path : Relation.EqvGen step a b) : f a = f b := by
  induction path with
  | rel a b step => exact kept a b step
  | refl a => rfl
  | symm a b _ ih => exact ih.symm
  | trans a b c _ _ first second => exact first.trans second

end Turnstile.Json
