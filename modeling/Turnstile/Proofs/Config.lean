import Turnstile.Proofs.Json.Reading
import Turnstile.Proofs.Json.Rewording
import Turnstile.Proofs.Limiter.Tokens
import Turnstile.Proofs.Policy
namespace Turnstile

open Json

namespace Config

-- A field that holds a whole number: its place, its names, the values between which it has to be, and its value in a configuration.
structure WholeField where
  place : Nat
  names : List String
  least : Nat
  most : Nat
  value : Config → Nat

def wholeFields : List WholeField := [
  ⟨1, ["globalBurst"], 1, halfMax, burst⟩,
  ⟨2, ["loginMaxAttempts"], 1, halfMax, loginMaxAttempts⟩,
  ⟨3, ["loginWindowSecs", "loginWindow"], 1, wordMax, loginWindowSecs⟩,
  ⟨4, ["banDurationSecs", "banDuration"], 1, wordMax, banDurationSecs⟩,
  ⟨5, ["cleanupIntervalSecs", "cleanupInterval"], 1, wordMax, cleanupIntervalSecs⟩,
  ⟨6, ["retentionWindowDays"], 1, wordMax, retentionWindowDays⟩,
  ⟨7, ["windowGranularitySecs"], 1, wordMax, windowGranularitySecs⟩,
  ⟨8, ["criticalReadTimeoutMillis"], 1, wordMax, criticalReadTimeoutMillis⟩,
  ⟨9, ["writeQueueCapacity"], 1, wordMax, writeQueueCapacity⟩,
  ⟨10, ["writeRetryAttempts"], 1, wordMax, writeRetryAttempts⟩,
  ⟨11, ["writeRetryBaseMillis"], 0, wordMax, writeRetryBaseMillis⟩,
  ⟨12, ["auditQueueCapacity"], 1, wordMax, auditQueueCapacity⟩,
  ⟨13, ["bucketIdleSecs"], 1, wordMax, bucketIdleSecs⟩,
  ⟨14, ["banSweepSecs"], 1, wordMax, banSweepSecs⟩,
  ⟨15, ["bucketSweepSecs"], 1, wordMax, bucketSweepSecs⟩,
  ⟨16, ["archiveSweepSecs"], 1, wordMax, archiveSweepSecs⟩,
  ⟨17, ["archiveAfterDays"], 1, wordMax, archiveAfterDays⟩,
  ⟨18, ["loginAttemptRetentionDays"], 1, wordMax, loginAttemptRetentionDays⟩]

def rateNames : List String := ["globalRatePerSecond"]

def fieldNames : List (List String) := rateNames :: wholeFields.map (·.names)

def aliases : List (String × String) :=
  [("loginWindow", "loginWindowSecs"), ("banDuration", "banDurationSecs"), ("cleanupInterval", "cleanupIntervalSecs")]

-- What fields give a configuration. It is all that a reader looks at.
structure Given (fields : Fields) (c : Config) : Prop where
  rate : fields.defaulted 0 rateNames standard.rate (·.double?) = some c.rate
  whole : ∀ w ∈ wholeFields, fields.defaulted w.place w.names (w.value standard) (·.nat? w.most) = some (w.value c)

variable {t : Tree} {c : Config} {ms ms' : List Member}

theorem ofTree?_eq_some : ofTree? t = some c ↔ ∃ fields, t.fields? 19 = some fields ∧ Given fields c := by
  simp only [ofTree?, ↓bind_eq_some, Option.pure_def, Option.some.injEq]
  constructor
  · rintro ⟨fields, record, _, h₀, _, h₁, _, h₂, _, h₃, _, h₄, _, h₅, _, h₆, _, h₇, _, h₈, _, h₉, _, h₁₀, _, h₁₁, _, h₁₂, _, h₁₃, _, h₁₄,
      _, h₁₅, _, h₁₆, _, h₁₇, _, h₁₈, rfl⟩
    refine ⟨fields, record, h₀, ?_⟩
    simp only [wholeFields, List.forall_mem_cons]
    exact ⟨h₁, h₂, h₃, h₄, h₅, h₆, h₇, h₈, h₉, h₁₀, h₁₁, h₁₂, h₁₃, h₁₄, h₁₅, h₁₆, h₁₇, h₁₈,
      List.forall_mem_nil _⟩
  · rintro ⟨fields, record, h₀, whole⟩
    simp only [wholeFields, List.forall_mem_cons] at whole
    obtain ⟨h₁, h₂, h₃, h₄, h₅, h₆, h₇, h₈, h₉, h₁₀, h₁₁, h₁₂, h₁₃, h₁₄, h₁₅, h₁₆, h₁₇, h₁₈, -⟩ := whole
    exact ⟨fields, record, _, h₀, _, h₁, _, h₂, _, h₃, _, h₄, _, h₅, _, h₆, _, h₇, _, h₈, _, h₉, _, h₁₀, _, h₁₁, _, h₁₂, _, h₁₃, _, h₁₄,
      _, h₁₅, _, h₁₆, _, h₁₇, _, h₁₈, rfl⟩

-- Both say the same of every field, or leave it at the same default.
structure SameFields (f g : Fields) : Prop where
  rate : f.defaulted 0 rateNames standard.rate (·.double?) = g.defaulted 0 rateNames standard.rate (·.double?)
  whole : ∀ w ∈ wholeFields, f.defaulted w.place w.names (w.value standard) (·.nat? w.most) =
    g.defaulted w.place w.names (w.value standard) (·.nat? w.most)

theorem SameFields.symm {f g : Fields} (agree : SameFields f g) : SameFields g f := ⟨agree.rate.symm, fun w known => (agree.whole w known).symm⟩

theorem Given.same {f g : Fields} (agree : SameFields f g) (given : Given f c) : Given g c :=
  ⟨agree.rate ▸ given.rate, fun w known => agree.whole w known ▸ given.whole w known⟩

theorem ofTree?_same {t' : Tree} (agree : Option.Rel SameFields (t.fields? 19) (t'.fields? 19)) : ofTree? t = ofTree? t' := by
  refine Option.ext fun c => ?_
  rw [ofTree?_eq_some, ofTree?_eq_some]
  match t.fields? 19, t'.fields? 19, agree with
  | _, _, .none => exact Iff.rfl
  | _, _, .some agree =>
    have same := Iff.intro (Given.same (c := c) agree) (Given.same agree.symm)
    simpa using same

theorem sameFields_of_given {f g : Fields} (same : ∀ names ∈ fieldNames, ∀ place, f.given place names = g.given place names) : SameFields f g :=
  ⟨Fields.defaulted_congr (same _ List.mem_cons_self _) _ _, fun _ known =>
    Fields.defaulted_congr (same _ (List.mem_cons_of_mem _ (List.mem_map_of_mem known)) _) _ _⟩

-- Another way to say the same.
inductive Respells : List Member → List Member → Prop where
  | permuted {ms ms' : List Member} (perm : ms.Perm ms') : Respells ms ms'
  | renamed {second first : String} (pair : (second, first) ∈ aliases) (t : Tree) (ms : List Member) :
      Respells ((some second, t) :: ms) ((some first, t) :: ms)
  | skipped {key : String} (unknown : ∀ names ∈ fieldNames, key ∉ names) (t : Tree) (ms : List Member) :
      Respells ms ((some key, t) :: ms)
  | spelledRate {key : String} (named : key ∈ rateNames) {t : Tree} (default : t.double? = some standard.rate) {ms : List Member}
      (missing : ∀ m ∈ ms, ∀ name ∈ rateNames, m.1 ≠ some name) : Respells ms ((some key, t) :: ms)
  | spelled {w : WholeField} (known : w ∈ wholeFields) {key : String} (named : key ∈ w.names) {t : Tree}
      (default : t.nat? w.most = some (w.value standard)) {ms : List Member}
      (missing : ∀ m ∈ ms, ∀ name ∈ w.names, m.1 ≠ some name) : Respells ms ((some key, t) :: ms)

theorem aliases_same : ∀ pair ∈ aliases, ∀ names ∈ fieldNames, pair.1 ∈ names ↔ pair.2 ∈ names := by decide

theorem names_apart : fieldNames.Pairwise fun names others => ∀ name ∈ names, name ∉ others := by decide

theorem rate_apart {w : WholeField} (known : w ∈ wholeFields) {name : String} (named : name ∈ rateNames) : name ∉ w.names :=
  (List.pairwise_cons.1 names_apart).1 _ (List.mem_map_of_mem known) name named

theorem whole_apart {w other : WholeField} (known : w ∈ wholeFields) (among : other ∈ wholeFields) (different : w ≠ other)
    {name : String} (named : name ∈ w.names) : name ∉ other.names := by
  have apart := List.pairwise_map.1 (List.pairwise_cons.1 names_apart).2
  have symmetric : Std.Symm fun w other : WholeField => ∀ name ∈ w.names, name ∉ other.names :=
    ⟨fun _ _ apart name there here => apart name here there⟩
  exact apart.forall known among different name named

theorem sameFields_spelledRate {found : List (String × Tree)} {key : String} (named : key ∈ rateNames)
    (default : t.double? = some standard.rate) (missing : ∀ m ∈ found, m.1 ∉ rateNames) :
    SameFields (.members found) (.members ((key, t) :: found)) where
  rate := Fields.defaulted_spelled named missing 0 (·.double?) default
  whole _ known := Fields.defaulted_congr (Fields.given_skipped (rate_apart known named) ..).symm _ _

theorem sameFields_spelled {found : List (String × Tree)} {w : WholeField} (known : w ∈ wholeFields) {key : String} (named : key ∈ w.names)
    (default : t.nat? w.most = some (w.value standard)) (missing : ∀ m ∈ found, m.1 ∉ w.names) :
    SameFields (.members found) (.members ((key, t) :: found)) where
  rate := Fields.defaulted_congr (Fields.given_skipped (fun rate => rate_apart known rate named) ..).symm _ _
  whole other among := by
    by_cases same : w = other
    · subst same
      exact Fields.defaulted_spelled named missing _ (·.nat? w.most) default
    · exact Fields.defaulted_congr (Fields.given_skipped (whole_apart known among same named) ..).symm _ _

theorem Respells.sameFields (respelled : Respells ms ms') :
    Option.Rel SameFields ((Tree.object ms).fields? 19) ((Tree.object ms').fields? 19) := by
  show Option.Rel SameFields ((namedMembers? ms).map .members) ((namedMembers? ms').map .members)
  cases respelled with
  | permuted perm =>
    match namedMembers? _, namedMembers? _, namedMembers?_perm perm with
    | _, _, .none => exact .none
    | _, _, .some perm => exact .some (sameFields_of_given fun names _ place => Fields.given_perm perm place names)
  | renamed pair t ms =>
    simp only [namedMembers?]
    cases namedMembers? ms with
    | none => exact .none
    | some found =>
      exact .some (sameFields_of_given fun names known place => Fields.given_renamed (aliases_same _ pair names known) t found place)
  | skipped unknown t =>
    simp only [namedMembers?]
    cases namedMembers? ms with
    | none => exact .none
    | some found =>
      exact .some (sameFields_of_given fun names known place => (Fields.given_skipped (unknown names known) t found place).symm)
  | spelledRate named default missing =>
    simp only [namedMembers?]
    cases read : namedMembers? ms with
    | none => exact .none
    | some found => exact .some (sameFields_spelledRate named default (missing_of_named read missing))
  | spelled known named default missing =>
    simp only [namedMembers?]
    cases read : namedMembers? ms with
    | none => exact .none
    | some found => exact .some (sameFields_spelled known named default (missing_of_named read missing))

theorem parse_same {text text' : String} (first : tree? text.toList = some (.object ms))
    (second : tree? text'.toList = some (.object ms')) (respelled : Relation.EqvGen Respells ms ms') : parse text = parse text' := by
  have same : ofTree? (.object ms) = ofTree? (.object ms') := same_of_steps (fun _ _ step => ofTree?_same step.sameFields) respelled
  unfold parse read
  rw [first, second, Option.bind_some, Option.bind_some, same]

theorem ofTree?_repeated {names : List String} (known : names ∈ fieldNames) {first second : String} (one : first ∈ names)
    (two : second ∈ names) (t u : Tree) (before between after : List Member) :
    ofTree? (.object (before ++ (some first, t) :: between ++ (some second, u) :: after)) = none := by
  refine Option.eq_none_iff_forall_ne_some.2 fun c found => ?_
  obtain ⟨fields, record, given⟩ := ofTree?_eq_some.1 found
  have repeated (place : Nat) : fields.given place names = .repeated := by
    simp only [Tree.fields?, namedMembers?_eq] at record
    split at record
    · cases record
      simpa using Fields.given_repeated one two t u (before.filterMap fun m => m.1.map (·, m.2))
        (between.filterMap fun m => m.1.map (·, m.2)) (after.filterMap fun m => m.1.map (·, m.2)) place
    · cases record
  have unread {α : Type} (place : Nat) (default : α) (read : Tree → Option α) (a : α) :
      fields.defaulted place names default read ≠ some a := by
    intro found
    unfold Fields.defaulted at found
    rw [repeated] at found
    cases found
  rcases List.mem_cons.1 known with rfl | whole
  · exact unread _ _ _ _ given.rate
  · obtain ⟨w, member, rfl⟩ := List.mem_map.1 whole
    exact unread _ _ _ _ (given.whole w member)

-- Each field is in its range. What bounds the capacities of the two queues above is only their type: the limit of a channel is
-- the library's own.
structure InRange (c : Config) : Prop where
  rate : goodRate c.rate = true
  whole : ∀ w ∈ wholeFields, w.least ≤ w.value c ∧ w.value c ≤ w.most

theorem Valid.least (valid : c.Valid) : ∀ w ∈ wholeFields, w.least ≤ w.value c := by
  have positive := valid.2
  simp only [positiveFields, List.forall_mem_cons] at positive
  obtain ⟨burst, attempts, window, ban, cleanup, retention, granularity, timeout, idle, bans, buckets, archive, age, logins, writes,
    events, tries, -⟩ := positive
  simp only [wholeFields, List.forall_mem_cons]
  exact ⟨burst, attempts, window, ban, cleanup, retention, granularity, timeout, writes, tries, Nat.zero_le _, events, idle, bans,
    buckets, archive, age, logins, List.forall_mem_nil _⟩

theorem parse_eq_ok {text : String} (parsed : parse text = .ok c) : c.Valid ∧ ∃ t, ofTree? t = some c := by
  unfold parse read at parsed
  split at parsed
  · cases parsed
  · rename_i found
    split at parsed
    · cases parsed
    · rename_i faultless
      cases parsed
      obtain ⟨t, -, described⟩ := Option.bind_eq_some_iff.1 found
      exact ⟨(fault?_eq_none_iff _).1 faultless, t, described⟩

theorem most_of_ofTree? (found : ofTree? t = some c) : ∀ w ∈ wholeFields, w.value c ≤ w.most := by
  have standards : ∀ w ∈ wholeFields, w.value standard ≤ w.most := by decide
  obtain ⟨fields, -, given⟩ := ofTree?_eq_some.1 found
  exact fun w known => Fields.defaulted_nat_le (standards w known) (given.whole w known)

theorem inRange_of_parse {text : String} (parsed : parse text = .ok c) : c.InRange := by
  obtain ⟨valid, t, described⟩ := parse_eq_ok parsed
  exact ⟨valid.1, fun w known => ⟨valid.least w known, most_of_ofTree? described w known⟩⟩

theorem parse_depends_on_meaning :
    (∀ text text' ms ms', tree? text.toList = some (.object ms) → tree? text'.toList = some (.object ms') →
      Relation.EqvGen Respells ms ms' → parse text = parse text') ∧
    (∀ text before between after first second t u, ∀ names ∈ fieldNames, first ∈ names → second ∈ names →
      tree? text.toList = some (.object (before ++ (some first, t) :: between ++ (some second, u) :: after)) →
      ∃ detail, parse text = .error (.unreadable detail)) ∧
    (∀ text c, parse text = .ok c → c.Valid ∧ c.InRange ∧ 0 < Quantity.ratOfDouble c.rate ∧
      (∃ p, Policy.ofConfig c = .ok p ∧ p.Usable) ∧ LiveConfig.start c = .ok ⟨c⟩) := by
  refine ⟨fun text text' ms ms' => parse_same, ?_, fun text c parsed => ?_⟩
  · intro text before between after first second t u names known one two document
    refine ⟨"no configuration", ?_⟩
    unfold parse read
    rw [document, Option.bind_some, ofTree?_repeated known one two]
  · obtain ⟨valid, -⟩ := parse_eq_ok parsed
    have range := inRange_of_parse parsed
    have attempts := (range.whole ⟨2, ["loginMaxAttempts"], 1, halfMax, loginMaxAttempts⟩ (by simp [wholeFields])).2
    have described := Policy.ofConfig_valid valid
    refine ⟨valid, range, Quantity.ratOfDouble_pos valid.1, ⟨_, described, Policy.usable_ofConfig described attempts⟩, ?_⟩
    unfold LiveConfig.start
    rw [(fault?_eq_none_iff c).2 valid]

-- A second name, another order, a member that is not known, and a default that is spelled out.
theorem parse_depends_on_meaning_window :
    parse "\x7b\"loginWindow\":60,\"globalBurst\":5\x7d" =
      parse "\x7b \"globalBurst\":5, \"globalRatePerSecond\":1e1,\"x\":[9e999],\"loginWindowSecs\":60 \x7d" ∧
    (∃ detail, parse "\x7b\"loginWindow\":60,\"x\":0,\"loginWindowSecs\":60\x7d" = .error (.unreadable detail)) ∧
    parse "\x7b\x7d" = .ok standard ∧ standard.InRange := by
  obtain ⟨agree, repeated, sound⟩ := parse_depends_on_meaning
  have empty : parse "\x7b\x7d" = .ok standard := by rfl
  refine ⟨?_, ?_, empty, (sound _ _ empty).2.1⟩
  · let sixty : Tree := .numeral ⟨false, [6, 0], [], none⟩
    let burst : Member := (some "globalBurst", .numeral ⟨false, [5], [], none⟩)
    let other : Member := (some "x", .array [.numeral ⟨false, [9], [], some (false, [9, 9, 9])⟩])
    let rate : Member := (some "globalRatePerSecond", .numeral ⟨false, [1], [], some (false, [1])⟩)
    have renamed : Respells [(some "loginWindow", sixty), burst] [(some "loginWindowSecs", sixty), burst] :=
      .renamed (by decide) sixty [burst]
    have skipped : Respells [(some "loginWindowSecs", sixty), burst] [other, (some "loginWindowSecs", sixty), burst] :=
      .skipped (by decide) _ _
    have spelled : Respells [other, (some "loginWindowSecs", sixty), burst] [rate, other, (some "loginWindowSecs", sixty), burst] :=
      .spelledRate (by decide) rfl (by simp [rateNames, other, burst])
    have permuted : Respells [rate, other, (some "loginWindowSecs", sixty), burst]
        [burst, rate, other, (some "loginWindowSecs", sixty)] :=
      .permuted (List.perm_append_singleton burst [rate, other, (some "loginWindowSecs", sixty)])
    exact agree _ _ _ _ rfl rfl
      (.trans _ _ _ (.rel _ _ renamed) (.trans _ _ _ (.rel _ _ skipped) (.trans _ _ _ (.rel _ _ spelled) (.rel _ _ permuted))))
  · exact repeated _ [] [(some "x", .numeral ⟨false, [0], [], none⟩)] [] "loginWindow" "loginWindowSecs" _ _
      ["loginWindowSecs", "loginWindow"] (by decide) (by decide) (by decide) rfl

end Config

end Turnstile
