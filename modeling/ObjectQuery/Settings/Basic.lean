import ObjectQuery.Json.Record
import ObjectQuery.Json.Reader
import ObjectQuery.Json.Writer

/-!
# Settings

What can be set, what holds if nothing is, and the form settings have in JSON.
-/

namespace ObjectQuery

open Json (Record Written)

/-- The settings. -/
structure Settings where
  /-- The name of the platform that SQL is written for. -/
  platform : String
  /-- How many rows may lie between an offset and a statement that is good enough for it. -/
  offsetTolerance : UInt64
  /-- Whether events are written to be read by people. -/
  debug : Bool
  /-- Which events are written. -/
  logLevel : String
deriving DecidableEq

namespace Settings

/-- The settings that hold if nothing is set. -/
def standard : Settings :=
  ⟨"postgresql", 100000, false, "info"⟩

/-- The four settings in their order. -/
def toJson (s : Settings) : Json :=
  .object [("platform", .string s.platform),
    ("offset_tolerance", .number (.integer s.offsetTolerance.toNat)), ("debug", .bool s.debug),
    ("log_level", .string s.logLevel)]

/-- The unsigned number of 64 bits that an integer is. -/
def unsigned? (n : Int) : Option UInt64 :=
  if 0 ≤ n ∧ n < UInt64.size then some n.toNat.toUInt64 else none

/-- Reads all four settings. -/
def ofWritten? (w : Written) : Option Settings := do
  let r ← Record.read? ["platform", "offset_tolerance", "debug", "log_level"] 4 w
  let tolerance ← r.required? "offset_tolerance" Written.integer?
  some ⟨← r.required? "platform" Written.text?, ← unsigned? tolerance,
    ← r.required? "debug" Written.bool?, ← r.required? "log_level" Written.text?⟩

/-- Reads the settings a JSON text spells. -/
def ofJsonText? (text : String) : Option Settings := do
  ofWritten? (← Json.read? text)

end Settings

end ObjectQuery
