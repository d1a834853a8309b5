import CanvasScript.Json.Typed
import CanvasScript.Json.Writer
import CanvasScript.Shortcut.Table

/-!
# The four tables

Triggers stand in prompts, configuration and pose shortcuts in the strings of
their payloads, and wildcards in prompts. A table is written as an object in the
order of its keys.
-/

namespace CanvasScript.Shortcut

open Json (Reader)

/-- The tables that a run resolves its texts with. -/
structure Tables where
  triggers : Table
  configuration : Table
  poses : Table
  wildcards : Table
  deriving Inhabited

namespace Table

/-- A table written by an object; of the texts for one key the last counts. -/
def reader : Reader Table := fun input => do
  let (pairs, input) ← Json.pairs Json.text "a map of macro names to text" input
  return (ofList pairs, input)

def ofText (text : String) : Except Json.Mistake Table := Json.wholeText reader text

/-- The table as an object. -/
def toJson (table : Table) : Json.Value :=
  .object (table.entries.map fun (key, value) => (key, .string value))

end Table

namespace Tables

def empty : Tables := default

/-- The names of the tables in a text, and where each belongs. -/
def fields : List (Json.Field Tables) :=
  [.of "promptTriggers" Table.reader fun tables table => { tables with triggers := table },
    .of "configShortcuts" Table.reader fun tables table => { tables with configuration := table },
    .of "poseJSONShortcuts" Table.reader fun tables table => { tables with poses := table },
    .of "wildcardShortcuts" Table.reader fun tables table => { tables with wildcards := table }]

/-- The tables written by a text; those left out are empty. -/
def ofText (text : String) : Except Json.Mistake Tables :=
  Json.wholeText (Json.record "struct MacroTables" fields empty) text

/-- The tables with their names, in the order in which they are written. -/
def named (tables : Tables) : List (String × Table) :=
  [("promptTriggers", tables.triggers), ("configShortcuts", tables.configuration),
    ("poseJSONShortcuts", tables.poses), ("wildcardShortcuts", tables.wildcards)]

def toJson (tables : Tables) : Json.Value :=
  .object (tables.named.map fun (name, table) => (name, table.toJson))

end Tables

end CanvasScript.Shortcut
