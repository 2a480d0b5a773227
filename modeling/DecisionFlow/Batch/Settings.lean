import DecisionFlow.Json.Written
import DecisionFlow.Names

/-!
# Settings of a batch run

How a batch treats failing records, how its records are scheduled, and when it gives up. Every
setting has a default, so a settings text names only those that it changes; it may also list all of
them in order.
-/

set_option autoImplicit false

namespace DecisionFlow

/-- What a batch does when a record fails. -/
inductive ErrorPolicy where
  /-- Keep going and leave the error in the record's place. -/
  | collect
  /-- Give up and report the first failing record. -/
  | strict
  deriving DecidableEq

/-- How a policy is written. -/
def ErrorPolicy.text : ErrorPolicy → String
  | .collect => "collect"
  | .strict => "strict"

/-- How the records of a batch are scheduled. -/
inductive Strategy where
  /-- One after the other. -/
  | sequential
  /-- All at the same time; results keep the order of the records. -/
  | parallel
  deriving DecidableEq

/-- How a strategy is written. -/
def Strategy.text : Strategy → String
  | .sequential => "sequential"
  | .parallel => "parallel"

/-- The settings of a batch run. -/
structure Settings where
  policy : ErrorPolicy
  strategy : Strategy
  /-- The deadline in milliseconds after the start of the batch. -/
  timeout : Option Nat
  deriving DecidableEq

/-- Why settings cannot be loaded. -/
inductive SettingsError where
  /-- A file that cannot be read, with the reason. -/
  | unreadable (path reason : String)
  | malformedText

/-- The text of a settings error. -/
def SettingsError.message : SettingsError → String
  | .unreadable path reason => "Could not read config file '" ++ path ++ "': " ++ reason
  | .malformedText => "Failed to parse config JSON"

namespace Settings

/-- Errors are collected, records run one after the other, and there is no deadline. -/
def standard : Settings := ⟨.collect, .sequential, none⟩

/-- The JSON form of the settings. -/
def toJson (settings : Settings) : Json :=
  Json.ofMembers
    [("error_policy", .string settings.policy.text),
      ("strategy", .string settings.strategy.text),
      ("timeout_ms", match settings.timeout with
        | some timeout => .int timeout
        | none => .null)]

/-! ## Reading -/

/-- One of several named choices: its name, or an object with its name as key and null as value. -/
def readChoice {α : Type} (choices : List (String × α)) : Json.Written → Option α
  | .string (some name) => choices.lookup name
  | .object [(some name, .null)] => choices.lookup name
  | _ => none

/-- An error policy. -/
def readPolicy : Json.Written → Option ErrorPolicy :=
  readChoice [("collect", .collect), ("strict", .strict)]

/-- A scheduling strategy. -/
def readStrategy : Json.Written → Option Strategy :=
  readChoice [("sequential", .sequential), ("parallel", .parallel)]

/-- A deadline: null for none, or a whole number of sixty-four bits. -/
def readTimeout : Json.Written → Option (Option Nat)
  | .null => some none
  | .number numeral =>
    match numeral.toJson? with
    | some (.int value) => if 0 ≤ value then some (some value.toNat) else none
    | _ => none
  | _ => none

/-- Changes the setting with a given name; a name without a meaning changes nothing. -/
def change (settings : Settings) (name : String) (value : Json.Written) : Option Settings :=
  match name with
  | "error_policy" => do return { settings with policy := ← readPolicy value }
  | "strategy" => do return { settings with strategy := ← readStrategy value }
  | "timeout_ms" => do return { settings with timeout := ← readTimeout value }
  | _ => some settings

/-- Changes settings one after the other. -/
def changeAll (settings : Settings) : List (Option String × Json.Written) → Option Settings
  | [] => some settings
  | (name, value) :: rest => do
    let settings ← settings.change (← name) value
    settings.changeAll rest

/-- The names of all settings, in order. -/
def names : List String := ["error_policy", "strategy", "timeout_ms"]

/-- The settings that a tree stands for. No setting may be given twice. -/
def ofWritten? : Json.Written → Option Settings
  | .object members =>
    if (firstRepeated ((members.filterMap Prod.fst).filter names.contains)).isNone then
      standard.changeAll members
    else none
  | .array items =>
    if items.length ≤ names.length then
      standard.changeAll ((names.map some).zip items)
    else none
  | _ => none

/-- The settings written in a JSON text. -/
def ofText (text : String) : Except SettingsError Settings :=
  match (Json.Written.ofText? text).bind ofWritten? with
  | some settings => .ok settings
  | none => .error .malformedText

end Settings

end DecisionFlow
