/-!
Devices: files of the system that keep nothing of what is written to them and read as empty.
-/

namespace Etl

inductive Device where
  /-- Takes every text and drops it. -/
  | null
  /-- Has no room for any text. -/
  | full
  /-- The stream of results. -/
  | results
  /-- The stream of messages beside the results. -/
  | messages
deriving DecidableEq

namespace Device

/-- The devices by their names. Nothing is ever typed in, so that the stream of input is one more
name of the null device. -/
def known : List (String × Device) :=
  [("null", .null), ("full", .full), ("stdin", .null), ("stdout", .results),
    ("stderr", .messages)]

/-- The device at a place of the system, given by its names from the top down. -/
def at? : List String → Option Device
  | ["dev", name] => known.lookup name
  | _ => none

end Device

end Etl
