import Turnstile.Json.Record
namespace Turnstile

structure Config where
  rate : Float
  burst : Nat
  loginMaxAttempts : Nat
  loginWindowSecs : Nat
  banDurationSecs : Nat
  cleanupIntervalSecs : Nat
  retentionWindowDays : Nat
  windowGranularitySecs : Nat
  criticalReadTimeoutMillis : Nat
  writeQueueCapacity : Nat
  writeRetryAttempts : Nat
  writeRetryBaseMillis : Nat
  auditQueueCapacity : Nat
  bucketIdleSecs : Nat
  banSweepSecs : Nat
  bucketSweepSecs : Nat
  archiveSweepSecs : Nat
  archiveAfterDays : Nat
  loginAttemptRetentionDays : Nat
deriving Repr

inductive ConfigProblem where
  | rate (got : Float)
  | zero
  | stated (text : String)
deriving Repr

inductive ConfigError where
  | unreadable (detail : String)
  | invalid (field : String) (problem : ConfigProblem)
deriving Repr

def ConfigProblem.text : ConfigProblem → String
  | .rate got => "must be finite and > 0 (got " ++ Decimal.plainText got ++ ")"
  | .zero => "must be > 0"
  | .stated text => text

def ConfigError.message : ConfigError → String
  | .unreadable detail => "config parse error: " ++ detail
  | .invalid field problem => "invalid config field \x60" ++ field ++ "\x60: " ++ problem.text

namespace Config

def standard : Config where
  rate := 10.0
  burst := 20
  loginMaxAttempts := 5
  loginWindowSecs := 300
  banDurationSecs := 300
  cleanupIntervalSecs := 30
  retentionWindowDays := 30
  windowGranularitySecs := 60
  criticalReadTimeoutMillis := 250
  writeQueueCapacity := 4096
  writeRetryAttempts := 3
  writeRetryBaseMillis := 50
  auditQueueCapacity := 1024
  bucketIdleSecs := 300
  banSweepSecs := 30
  bucketSweepSecs := 300
  archiveSweepSecs := 3600
  archiveAfterDays := 7
  loginAttemptRetentionDays := 90

def goodRate (rate : Float) : Bool :=
  match Decimal.stored rate with
  | .finite negative m _ => !negative && m != 0
  | _ => false

-- The fields that may not be zero, in the order in which they are looked at.
def positiveFields (c : Config) : List (String × Nat) :=
  [("globalBurst", c.burst),
   ("loginMaxAttempts", c.loginMaxAttempts),
   ("loginWindowSecs", c.loginWindowSecs),
   ("banDurationSecs", c.banDurationSecs),
   ("cleanupIntervalSecs", c.cleanupIntervalSecs),
   ("retentionWindowDays", c.retentionWindowDays),
   ("windowGranularitySecs", c.windowGranularitySecs),
   ("criticalReadTimeoutMillis", c.criticalReadTimeoutMillis),
   ("bucketIdleSecs", c.bucketIdleSecs),
   ("banSweepSecs", c.banSweepSecs),
   ("bucketSweepSecs", c.bucketSweepSecs),
   ("archiveSweepSecs", c.archiveSweepSecs),
   ("archiveAfterDays", c.archiveAfterDays),
   ("loginAttemptRetentionDays", c.loginAttemptRetentionDays),
   ("writeQueueCapacity", c.writeQueueCapacity),
   ("auditQueueCapacity", c.auditQueueCapacity),
   ("writeRetryAttempts", c.writeRetryAttempts)]

def fault? (c : Config) : Option ConfigError :=
  if goodRate c.rate then
    (c.positiveFields.find? fun field => field.2 == 0).map fun field => .invalid field.1 .zero
  else some (.invalid "globalRatePerSecond" (.rate c.rate))

def Valid (c : Config) : Prop := goodRate c.rate = true ∧ ∀ field ∈ c.positiveFields, 0 < field.2

theorem fault?_eq_none_iff (c : Config) : c.fault? = none ↔ c.Valid := by
  unfold fault? Valid
  split
  · rename_i good
    simp only [Option.map_eq_none_iff, List.find?_eq_none, good, true_and]
    constructor
    · intro none field member
      have := none field member
      simp only [beq_iff_eq] at this
      omega
    · intro valid field member
      have := valid field member
      simp only [beq_iff_eq]
      omega
  · rename_i bad
    simp [bad]

def ofTree? (t : Json.Tree) : Option Config := do
  let fields ← t.fields? 19
  let word (place : Nat) (names : List String) (default : Nat) : Option Nat :=
    fields.defaulted place names default (·.nat? wordMax)
  let half (place : Nat) (names : List String) (default : Nat) : Option Nat :=
    fields.defaulted place names default (·.nat? halfMax)
  return {
    rate := ← fields.defaulted 0 ["globalRatePerSecond"] standard.rate (·.double?)
    burst := ← half 1 ["globalBurst"] standard.burst
    loginMaxAttempts := ← half 2 ["loginMaxAttempts"] standard.loginMaxAttempts
    loginWindowSecs := ← word 3 ["loginWindowSecs", "loginWindow"] standard.loginWindowSecs
    banDurationSecs := ← word 4 ["banDurationSecs", "banDuration"] standard.banDurationSecs
    cleanupIntervalSecs :=
      ← word 5 ["cleanupIntervalSecs", "cleanupInterval"] standard.cleanupIntervalSecs
    retentionWindowDays := ← word 6 ["retentionWindowDays"] standard.retentionWindowDays
    windowGranularitySecs := ← word 7 ["windowGranularitySecs"] standard.windowGranularitySecs
    criticalReadTimeoutMillis :=
      ← word 8 ["criticalReadTimeoutMillis"] standard.criticalReadTimeoutMillis
    writeQueueCapacity := ← word 9 ["writeQueueCapacity"] standard.writeQueueCapacity
    writeRetryAttempts := ← word 10 ["writeRetryAttempts"] standard.writeRetryAttempts
    writeRetryBaseMillis := ← word 11 ["writeRetryBaseMillis"] standard.writeRetryBaseMillis
    auditQueueCapacity := ← word 12 ["auditQueueCapacity"] standard.auditQueueCapacity
    bucketIdleSecs := ← word 13 ["bucketIdleSecs"] standard.bucketIdleSecs
    banSweepSecs := ← word 14 ["banSweepSecs"] standard.banSweepSecs
    bucketSweepSecs := ← word 15 ["bucketSweepSecs"] standard.bucketSweepSecs
    archiveSweepSecs := ← word 16 ["archiveSweepSecs"] standard.archiveSweepSecs
    archiveAfterDays := ← word 17 ["archiveAfterDays"] standard.archiveAfterDays
    loginAttemptRetentionDays :=
      ← word 18 ["loginAttemptRetentionDays"] standard.loginAttemptRetentionDays }

def read (document : Option Json.Tree) : Except ConfigError Config :=
  match document.bind ofTree? with
  | none => .error (.unreadable "no configuration")
  | some c => match c.fault? with
    | some fault => .error fault
    | none => .ok c

def parse (text : String) : Except ConfigError Config := read (Json.tree? text.toList)

-- Too many days count as the longest duration.
def days (n : Nat) : Duration := .ofSecs (satMul n 86400)

def loginWindow (c : Config) : Duration := .ofSecs c.loginWindowSecs

def banDuration (c : Config) : Duration := .ofSecs c.banDurationSecs

def cleanupInterval (c : Config) : Duration := .ofSecs c.cleanupIntervalSecs

def windowGranularity (c : Config) : Duration := .ofSecs c.windowGranularitySecs

def criticalReadTimeout (c : Config) : Duration := .ofMillis c.criticalReadTimeoutMillis

def writeRetryBase (c : Config) : Duration := .ofMillis c.writeRetryBaseMillis

def bucketIdle (c : Config) : Duration := .ofSecs c.bucketIdleSecs

def releasedBanRetention (c : Config) : Duration := days c.retentionWindowDays

def archiveAfter (c : Config) : Duration := days c.archiveAfterDays

def loginAttemptRetention (c : Config) : Duration := days c.loginAttemptRetentionDays

end Config

-- Only a valid configuration takes the place of the one in force.
structure LiveConfig where
  current : Config

namespace LiveConfig

def start (c : Config) : Except ConfigError LiveConfig :=
  match c.fault? with
  | some fault => .error fault
  | none => .ok ⟨c⟩

def set (live : LiveConfig) (c : Config) : Option ConfigError × LiveConfig :=
  match c.fault? with
  | some fault => (some fault, live)
  | none => (none, ⟨c⟩)

end LiveConfig

end Turnstile
