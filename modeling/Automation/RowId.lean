import Automation.Moment.Basic
import Automation.Text.Search
/-!
# Ids of rows

The id of a row names its table and ends in a suffix of its own, so that the rows of a table are a
range of ids and no two rows share one. Where the suffixes come from is left open; counted ones are
a source that needs no chance.
-/

namespace Automation.Row

open Text

/-- What the ids of all rows begin with. -/
def idStart : String := "ro_"

/-- What the ids of the rows of a table begin with. -/
def tableStart (table : String) : String :=
  idStart ++ table ++ "_"

/-- The id of the row of a table with a suffix. -/
def idOf (table suffix : String) : String :=
  tableStart table ++ suffix

/-- The id is that of a row. -/
def isId (id : String) : Bool :=
  startsWith idStart.toList id.toList

/-- The width of a suffix. -/
def suffixWidth : Nat := 32

/-- The suffix that counts a row. -/
def countedSuffix (n : Nat) : String :=
  String.ofList (Moment.padded suffixWidth n)

end Automation.Row
