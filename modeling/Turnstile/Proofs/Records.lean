import Turnstile.Audit.Event
import Turnstile.Json.Codec
import Turnstile.LoginAttempt
import Turnstile.Proofs.Json.Reading
import Turnstile.Proofs.Json.Rewording
import Turnstile.Window
namespace Turnstile

open Json

namespace Json

variable {α : Type}

-- What is written of a value comes back. A text that is read as a value is written anew as one that is read as the same value and is
-- then left as it is. Texts that word the same are read alike.
structure Codec.Lawful (c : Codec α) (Rewords : Tree → Tree → Prop) (Fits Plain : α → Prop) : Prop where
  back : ∀ a, Fits a → Plain a → c.decode? (c.encode a) = some a
  canonical : ∀ text a, c.decode? text = some a → Plain a →
    Fits a ∧ c.decode? (c.encode a) = some a ∧ c.rewrite? (c.encode a) = some (c.encode a)
  alike : ∀ text text' t t', tree? text.toList = some t → tree? text'.toList = some t' → Relation.EqvGen Rewords t t' →
    c.decode? text = c.decode? text'

theorem Codec.lawful {c : Codec α} {Rewords : Tree → Tree → Prop} {Fits Plain : α → Prop} (whole : ∀ a, Plain a → (c.toValue a).Whole)
    (back : ∀ a, Fits a → Plain a → c.ofTree? (c.toValue a).tree = some a) (fits : ∀ t a, c.ofTree? t = some a → Fits a)
    (alike : ∀ t t', Rewords t t' → c.ofTree? t = c.ofTree? t') : c.Lawful Rewords Fits Plain := by
  have returns (a : α) (fit : Fits a) (plain : Plain a) : c.decode? (c.encode a) = some a := by
    unfold decode? encode
    rw [Value.tree?_render (whole a plain)]
    exact back a fit plain
  refine ⟨returns, fun text a found plain => ?_, fun text text' t t' first second reworded => ?_⟩
  · obtain ⟨t, -, source⟩ := Option.bind_eq_some_iff.1 found
    have again := returns a (fits t a source) plain
    refine ⟨fits t a source, again, ?_⟩
    rw [rewrite?, again, Option.map_some]
  · unfold decode?
    rw [first, second]
    exact same_of_steps alike reworded

end Json

namespace Ban

variable {t t' : Tree} {b : Ban}

def codec : Codec Ban := ⟨toValue, ofTree?⟩

def fieldNames : List String :=
  ["ipAddress", "bannedAt", "bannedUntil", "reason", "failedAttempts", "bannedBy", "releasedAt", "releasedBy", "autoReleased"]

def optionalNames : List String := ["releasedAt", "releasedBy"]

-- Readings are 64 bits wide, and counts 32 bits.
structure Fits (b : Ban) : Prop where
  bannedAt : b.bannedAt ≤ wordMax
  bannedUntil : b.bannedUntil ≤ wordMax
  failedAttempts : b.failedAttempts ≤ halfMax
  releasedAt : ∀ n ∈ b.releasedAt, n ≤ wordMax

theorem ofTree?_eq_some : ofTree? t = some b ↔ ∃ fields, t.fields? 9 = some fields ∧
    fields.required 0 "ipAddress" (·.text?) = some b.address ∧
    fields.required 1 "bannedAt" (·.nat? wordMax) = some b.bannedAt ∧
    fields.required 2 "bannedUntil" (·.nat? wordMax) = some b.bannedUntil ∧
    fields.required 3 "reason" (·.text?) = some b.reason ∧
    fields.required 4 "failedAttempts" (·.nat? halfMax) = some b.failedAttempts ∧
    fields.required 5 "bannedBy" (·.text?) = some b.bannedBy ∧
    fields.nullable 6 "releasedAt" (·.nat? wordMax) = some b.releasedAt ∧
    fields.nullable 7 "releasedBy" (·.text?) = some b.releasedBy ∧
    fields.required 8 "autoReleased" (·.bool?) = some b.autoReleased := by
  simp only [ofTree?, ↓bind_eq_some, Option.pure_def, Option.some.injEq]
  constructor
  · rintro ⟨fields, record, _, h₀, _, h₁, _, h₂, _, h₃, _, h₄, _, h₅, _, h₆, _, h₇, _, h₈, rfl⟩
    exact ⟨fields, record, h₀, h₁, h₂, h₃, h₄, h₅, h₆, h₇, h₈⟩
  · rintro ⟨fields, record, h₀, h₁, h₂, h₃, h₄, h₅, h₆, h₇, h₈⟩
    exact ⟨fields, record, _, h₀, _, h₁, _, h₂, _, h₃, _, h₄, _, h₅, _, h₆, _, h₇, _, h₈, rfl⟩

theorem ofTree?_tree (fits : b.Fits) : ofTree? b.toValue.tree = some b := by
  have word := Nat.le_refl wordMax
  refine ofTree?_eq_some.2 ⟨_, rfl, rfl, Tree.nat?_tree fits.bannedAt word, Tree.nat?_tree fits.bannedUntil word, rfl,
    Tree.nat?_tree fits.failedAttempts (by decide), rfl, ?_, ?_, rfl⟩
  · exact Tree.nullable?_ofOption (fun n some => Tree.nat?_tree (fits.releasedAt n some) word) nofun
  · exact Tree.nullable?_ofOption (fun _ _ => rfl) nofun

theorem fits_of_ofTree? (found : ofTree? t = some b) : b.Fits := by
  obtain ⟨fields, -, -, bannedAt, bannedUntil, -, failedAttempts, -, releasedAt, -⟩ := ofTree?_eq_some.1 found
  refine ⟨Fields.required_nat_le bannedAt, Fields.required_nat_le bannedUntil, Fields.required_nat_le failedAttempts, fun n some => ?_⟩
  obtain ⟨t, -, source⟩ := Fields.source_of_nullable releasedAt n some
  exact Tree.le_of_nat? source

theorem ofTree?_alike (agree : Option.Rel (Fields.Agree fieldNames optionalNames) (t.fields? 9) (t'.fields? 9)) :
    ofTree? t = ofTree? t' := by
  unfold ofTree?
  match t.fields? 9, t'.fields? 9, agree with
  | _, _, .none => rfl
  | _, _, .some agree => simp [agree.required, agree.nullable, fieldNames, optionalNames]

theorem lawful : codec.Lawful (Rewords fieldNames optionalNames) Fits fun _ => True := by
  refine Codec.lawful (fun b _ => ?_) (fun b fits _ => ofTree?_tree fits) (fun _ _ => fits_of_ofTree?) fun t t' reworded => ?_
  · refine .object ?_
    simp only [List.forall_mem_cons]
    exact ⟨.text _, .natural _, .natural _, .text _, .natural _, .text _, Value.whole_ofOption .natural _, Value.whole_ofOption .text _,
      .bool _, List.forall_mem_nil _⟩
  · exact ofTree?_alike (reworded.agree (by decide))

end Ban

namespace LoginAttempt

variable {t t' : Tree} {a : LoginAttempt}

def codec : Codec LoginAttempt := ⟨toValue, ofTree?⟩

def fieldNames : List String := ["username", "ipAddress", "success", "failureReason", "rateLimited", "timestamp"]

def optionalNames : List String := ["failureReason"]

def Fits (a : LoginAttempt) : Prop := a.timestamp ≤ wordMax

theorem ofTree?_eq_some : ofTree? t = some a ↔ ∃ fields, t.fields? 6 = some fields ∧
    fields.required 0 "username" (·.text?) = some a.username ∧
    fields.required 1 "ipAddress" (·.text?) = some a.address ∧
    fields.required 2 "success" (·.bool?) = some a.success ∧
    fields.nullable 3 "failureReason" (·.text?) = some a.failureReason ∧
    fields.required 4 "rateLimited" (·.bool?) = some a.rateLimited ∧
    fields.required 5 "timestamp" (·.nat? wordMax) = some a.timestamp := by
  simp only [ofTree?, ↓bind_eq_some, Option.pure_def, Option.some.injEq]
  constructor
  · rintro ⟨fields, record, _, h₀, _, h₁, _, h₂, _, h₃, _, h₄, _, h₅, rfl⟩
    exact ⟨fields, record, h₀, h₁, h₂, h₃, h₄, h₅⟩
  · rintro ⟨fields, record, h₀, h₁, h₂, h₃, h₄, h₅⟩
    exact ⟨fields, record, _, h₀, _, h₁, _, h₂, _, h₃, _, h₄, _, h₅, rfl⟩

theorem ofTree?_tree (fits : a.Fits) : ofTree? a.toValue.tree = some a := by
  refine ofTree?_eq_some.2 ⟨_, rfl, rfl, rfl, rfl, ?_, rfl, Tree.nat?_tree fits (Nat.le_refl _)⟩
  exact Tree.nullable?_ofOption (fun _ _ => rfl) nofun

theorem fits_of_ofTree? (found : ofTree? t = some a) : a.Fits := by
  obtain ⟨fields, -, -, -, -, -, -, timestamp⟩ := ofTree?_eq_some.1 found
  exact Fields.required_nat_le timestamp

theorem ofTree?_alike (agree : Option.Rel (Fields.Agree fieldNames optionalNames) (t.fields? 6) (t'.fields? 6)) :
    ofTree? t = ofTree? t' := by
  unfold ofTree?
  match t.fields? 6, t'.fields? 6, agree with
  | _, _, .none => rfl
  | _, _, .some agree => simp [agree.required, agree.nullable, fieldNames, optionalNames]

theorem lawful : codec.Lawful (Rewords fieldNames optionalNames) Fits fun _ => True := by
  refine Codec.lawful (fun a _ => ?_) (fun a fits _ => ofTree?_tree fits) (fun _ _ => fits_of_ofTree?) fun t t' reworded => ?_
  · refine .object ?_
    simp only [List.forall_mem_cons]
    exact ⟨.text _, .text _, .bool _, Value.whole_ofOption .text _, .bool _, .natural _, List.forall_mem_nil _⟩
  · exact ofTree?_alike (reworded.agree (by decide))

end LoginAttempt

namespace WindowRow

variable {t t' : Tree} {row : WindowRow}

def codec : Codec WindowRow := ⟨toValue, ofTree?⟩

def fieldNames : List String := ["clientId", "endpoint", "windowStart", "requestCount", "failureCount", "throttledCount"]

structure Fits (row : WindowRow) : Prop where
  start : row.start ≤ wordMax
  requests : row.requests ≤ wordMax
  failures : row.failures ≤ wordMax
  throttled : row.throttled ≤ wordMax

theorem ofTree?_eq_some : ofTree? t = some row ↔ ∃ fields, t.fields? 6 = some fields ∧
    fields.required 0 "clientId" (·.text?) = some row.client ∧
    fields.required 1 "endpoint" (·.text?) = some row.endpoint ∧
    fields.required 2 "windowStart" (·.nat? wordMax) = some row.start ∧
    fields.required 3 "requestCount" (·.nat? wordMax) = some row.requests ∧
    fields.required 4 "failureCount" (·.nat? wordMax) = some row.failures ∧
    fields.required 5 "throttledCount" (·.nat? wordMax) = some row.throttled := by
  simp only [ofTree?, ↓bind_eq_some, Option.pure_def, Option.some.injEq]
  constructor
  · rintro ⟨fields, record, _, h₀, _, h₁, _, h₂, _, h₃, _, h₄, _, h₅, rfl⟩
    exact ⟨fields, record, h₀, h₁, h₂, h₃, h₄, h₅⟩
  · rintro ⟨fields, record, h₀, h₁, h₂, h₃, h₄, h₅⟩
    exact ⟨fields, record, _, h₀, _, h₁, _, h₂, _, h₃, _, h₄, _, h₅, rfl⟩

theorem ofTree?_tree (fits : row.Fits) : ofTree? row.toValue.tree = some row := by
  have word := Nat.le_refl wordMax
  exact ofTree?_eq_some.2 ⟨_, rfl, rfl, rfl, Tree.nat?_tree fits.start word, Tree.nat?_tree fits.requests word,
    Tree.nat?_tree fits.failures word, Tree.nat?_tree fits.throttled word⟩

theorem fits_of_ofTree? (found : ofTree? t = some row) : row.Fits := by
  obtain ⟨fields, -, -, -, start, requests, failures, throttled⟩ := ofTree?_eq_some.1 found
  exact ⟨Fields.required_nat_le start, Fields.required_nat_le requests, Fields.required_nat_le failures,
    Fields.required_nat_le throttled⟩

theorem ofTree?_alike (agree : Option.Rel (Fields.Agree fieldNames []) (t.fields? 6) (t'.fields? 6)) : ofTree? t = ofTree? t' := by
  unfold ofTree?
  match t.fields? 6, t'.fields? 6, agree with
  | _, _, .none => rfl
  | _, _, .some agree => simp [agree.required, fieldNames]

theorem lawful : codec.Lawful (Rewords fieldNames []) Fits fun _ => True := by
  refine Codec.lawful (fun row _ => ?_) (fun row fits _ => ofTree?_tree fits) (fun _ _ => fits_of_ofTree?) fun t t' reworded => ?_
  · refine .object ?_
    simp only [List.forall_mem_cons]
    exact ⟨.text _, .text _, .natural _, .natural _, .natural _, .natural _, List.forall_mem_nil _⟩
  · exact ofTree?_alike (reworded.agree (by decide))

end WindowRow

namespace Counts

variable {t t' : Tree} {c : Counts}

def codec : Codec Counts := ⟨toValue, ofTree?⟩

def fieldNames : List String := ["requests", "failures", "throttled"]

structure Fits (c : Counts) : Prop where
  requests : c.requests ≤ wordMax
  failures : c.failures ≤ wordMax
  throttled : c.throttled ≤ wordMax

theorem ofTree?_eq_some : ofTree? t = some c ↔ ∃ fields, t.fields? 3 = some fields ∧
    fields.required 0 "requests" (·.nat? wordMax) = some c.requests ∧
    fields.required 1 "failures" (·.nat? wordMax) = some c.failures ∧
    fields.required 2 "throttled" (·.nat? wordMax) = some c.throttled := by
  simp only [ofTree?, ↓bind_eq_some, Option.pure_def, Option.some.injEq]
  constructor
  · rintro ⟨fields, record, _, h₀, _, h₁, _, h₂, rfl⟩
    exact ⟨fields, record, h₀, h₁, h₂⟩
  · rintro ⟨fields, record, h₀, h₁, h₂⟩
    exact ⟨fields, record, _, h₀, _, h₁, _, h₂, rfl⟩

theorem ofTree?_tree (fits : c.Fits) : ofTree? c.toValue.tree = some c := by
  have word := Nat.le_refl wordMax
  exact ofTree?_eq_some.2 ⟨_, rfl, Tree.nat?_tree fits.requests word, Tree.nat?_tree fits.failures word,
    Tree.nat?_tree fits.throttled word⟩

theorem fits_of_ofTree? (found : ofTree? t = some c) : c.Fits := by
  obtain ⟨fields, -, requests, failures, throttled⟩ := ofTree?_eq_some.1 found
  exact ⟨Fields.required_nat_le requests, Fields.required_nat_le failures, Fields.required_nat_le throttled⟩

theorem ofTree?_alike (agree : Option.Rel (Fields.Agree fieldNames []) (t.fields? 3) (t'.fields? 3)) : ofTree? t = ofTree? t' := by
  unfold ofTree?
  match t.fields? 3, t'.fields? 3, agree with
  | _, _, .none => rfl
  | _, _, .some agree => simp [agree.required, fieldNames]

theorem lawful : codec.Lawful (Rewords fieldNames []) Fits fun _ => True := by
  refine Codec.lawful (fun c _ => ?_) (fun c fits _ => ofTree?_tree fits) (fun _ _ => fits_of_ofTree?) fun t t' reworded => ?_
  · refine .object ?_
    simp only [List.forall_mem_cons]
    exact ⟨.natural _, .natural _, .natural _, List.forall_mem_nil _⟩
  · exact ofTree?_alike (reworded.agree (by decide))

end Counts

namespace Outcome

def codec : Codec Outcome := ⟨toValue, ofTree?⟩

-- An outcome is its name, or an object that holds nothing under its name.
inductive Rewords : Tree → Tree → Prop where
  | keyed (name : Option String) : Rewords (.text name) (.object [(name, .null)])

theorem lawful : codec.Lawful Rewords (fun _ => True) fun _ => True := by
  refine Codec.lawful (fun _ _ => .text _) (fun o _ _ => ofName?_name o) (fun _ _ _ => trivial) fun t t' reworded => ?_
  cases reworded
  rfl

end Outcome

namespace Event

variable {t t' : Tree} {e : Event}

def codec : Codec Event := ⟨toValue, ofTree?⟩

def fieldNames : List String :=
  ["actorId", "action", "entityType", "entityId", "oldValues", "newValues", "clientContext", "atMillis"]

def optionalNames : List String := ["oldValues", "newValues", "clientContext"]

-- A free value that an event can tell: any but `null`, within the depth that a reader allows.
def Tellable (v : Value) : Prop := v ≠ .null ∧ v.Held freeDepth

structure Fits (e : Event) : Prop where
  reading : e.reading ≤ wordMax
  oldValues : ∀ v ∈ e.oldValues, Tellable v
  newValues : ∀ v ∈ e.newValues, Tellable v

structure Plain (e : Event) : Prop where
  oldValues : ∀ v ∈ e.oldValues, v.Whole
  newValues : ∀ v ∈ e.newValues, v.Whole

theorem ofTree?_eq_some : ofTree? t = some e ↔ ∃ fields, t.fields? 8 = some fields ∧
    fields.required 0 "actorId" (·.text?) = some e.actor ∧
    fields.required 1 "action" (·.text?) = some e.action ∧
    fields.required 2 "entityType" (·.text?) = some e.entityType ∧
    fields.required 3 "entityId" (·.text?) = some e.entity ∧
    fields.defaulted 4 ["oldValues"] none (·.nullable? (Value.ofTree? freeDepth)) = some e.oldValues ∧
    fields.defaulted 5 ["newValues"] none (·.nullable? (Value.ofTree? freeDepth)) = some e.newValues ∧
    fields.defaulted 6 ["clientContext"] none (·.nullable? (·.text?)) = some e.context ∧
    fields.required 7 "atMillis" (·.nat? wordMax) = some e.reading := by
  simp only [ofTree?, ↓bind_eq_some, Option.pure_def, Option.some.injEq]
  constructor
  · rintro ⟨fields, record, _, h₀, _, h₁, _, h₂, _, h₃, _, h₄, _, h₅, _, h₆, _, h₇, rfl⟩
    exact ⟨fields, record, h₀, h₁, h₂, h₃, h₄, h₅, h₆, h₇⟩
  · rintro ⟨fields, record, h₀, h₁, h₂, h₃, h₄, h₅, h₆, h₇⟩
    exact ⟨fields, record, _, h₀, _, h₁, _, h₂, _, h₃, _, h₄, _, h₅, _, h₆, _, h₇, rfl⟩

theorem ofTree?_tree (fits : e.Fits) (plain : e.Plain) : ofTree? e.toValue.tree = some e := by
  have free {o : Option Value} (tellable : ∀ v ∈ o, Tellable v) (whole : ∀ v ∈ o, v.Whole) :
      (Value.ofOption id o).tree.nullable? (Value.ofTree? freeDepth) = some o :=
    Tree.nullable?_ofOption (fun v some => Value.ofTree?_tree (tellable v some).2 (whole v some)) fun v some =>
      Value.tree_ne_null (whole v some) (tellable v some).1
  have old := free fits.oldValues plain.oldValues
  have new := free fits.newValues plain.newValues
  have reading := Tree.nat?_tree fits.reading (Nat.le_refl _)
  obtain ⟨_, _, _, _, oldValues, newValues, context, _⟩ := e
  -- which members are written depends on what there is to tell
  cases oldValues <;> cases newValues <;> cases context <;>
    exact ofTree?_eq_some.2 ⟨_, rfl, rfl, rfl, rfl, rfl, old, new, rfl, reading⟩

theorem fits_of_ofTree? (found : ofTree? t = some e) : e.Fits := by
  obtain ⟨fields, -, -, -, -, -, oldValues, newValues, -, reading⟩ := ofTree?_eq_some.1 found
  have tellable {place : Nat} {name : String} {o : Option Value}
      (found : fields.defaulted place [name] none (·.nullable? (Value.ofTree? freeDepth)) = some o) : ∀ v ∈ o, Tellable v := by
    intro v some
    obtain ⟨t, solid, source⟩ := Fields.source_of_defaulted found v some
    exact ⟨fun null => solid (Value.eq_null_of_ofTree? (null ▸ source)), Value.held_of_ofTree? source⟩
  exact ⟨Fields.required_nat_le reading, tellable oldValues, tellable newValues⟩

theorem ofTree?_alike (agree : Option.Rel (Fields.Agree fieldNames optionalNames) (t.fields? 8) (t'.fields? 8)) :
    ofTree? t = ofTree? t' := by
  unfold ofTree?
  match t.fields? 8, t'.fields? 8, agree with
  | _, _, .none => rfl
  | _, _, .some agree => simp [agree.required, agree.defaulted, fieldNames, optionalNames]

theorem whole_toValue (plain : e.Plain) : e.toValue.Whole := by
  have optional {α : Type} {write : α → Value} {o : Option α} (whole : ∀ a ∈ o, (write a).Whole) (key : String) :
      ∀ m ∈ optionalMember key write o, m.2.Whole := by
    cases o with
    | none => exact nofun
    | some a => exact List.forall_mem_singleton.2 (whole a rfl)
  refine .object ?_
  simp only [List.forall_mem_append, List.forall_mem_cons]
  exact ⟨⟨⟨⟨⟨.text _, .text _, .text _, .text _, List.forall_mem_nil _⟩, optional plain.oldValues _⟩, optional plain.newValues _⟩,
    optional (fun _ _ => .text _) _⟩, .natural _, List.forall_mem_nil _⟩

theorem lawful : codec.Lawful (Rewords fieldNames optionalNames) Fits Plain :=
  Codec.lawful (fun _ => whole_toValue) (fun _ => ofTree?_tree) (fun _ _ => fits_of_ofTree?)
    fun _ _ reworded => ofTree?_alike (reworded.agree (by decide))

end Event

theorem records_round_trip :
    Ban.codec.Lawful (Rewords Ban.fieldNames Ban.optionalNames) Ban.Fits (fun _ => True) ∧
    LoginAttempt.codec.Lawful (Rewords LoginAttempt.fieldNames LoginAttempt.optionalNames) LoginAttempt.Fits (fun _ => True) ∧
    WindowRow.codec.Lawful (Rewords WindowRow.fieldNames []) WindowRow.Fits (fun _ => True) ∧
    Counts.codec.Lawful (Rewords Counts.fieldNames []) Counts.Fits (fun _ => True) ∧
    Outcome.codec.Lawful Outcome.Rewords (fun _ => True) (fun _ => True) ∧
    Event.codec.Lawful (Rewords Event.fieldNames Event.optionalNames) Event.Fits Event.Plain :=
  ⟨Ban.lawful, LoginAttempt.lawful, WindowRow.lawful, Counts.lawful, Outcome.lawful, Event.lawful⟩

-- An escaped key, members in another order, one that is not known, and one that is missing.
theorem records_round_trip_attempt :
    let text := "\x7b\"x\":[1e999,\"\\ud800\"],\"timestamp\":18446744073709551615,\"\\u0075sername\":\"\\n\\ud83d\\ude00\",
      \"rateLimited\":false,\"success\":true,\"ipAddress\":\"\\\"é\"\x7d"
    let attempt : LoginAttempt := ⟨"\n😀", "\"é", true, none, false, 18446744073709551615⟩
    LoginAttempt.codec.decode? text = some attempt ∧ attempt.Fits ∧
      LoginAttempt.codec.rewrite? (LoginAttempt.codec.encode attempt) = some (LoginAttempt.codec.encode attempt) := by
  intro text attempt
  have read : LoginAttempt.codec.decode? text = some attempt := by decide +kernel
  obtain ⟨fits, -, again⟩ := records_round_trip.2.1.canonical text attempt read trivial
  exact ⟨read, fits, again⟩

end Turnstile
