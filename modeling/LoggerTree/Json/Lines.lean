import LoggerTree.Json.Read

/-! # Lines of a log

    What was logged is read back line by line. A line may hold a JSON object; any other line is
    plain text.
-/

namespace LoggerTree.Json

/-- A line that is a JSON object as that object, any other line as a text. -/
def ofLine (line : List Char) : Value :=
  match read? line with
  | some (.object members) => .object members
  | _ => .string line

/-- The lines of a log. A line end at its end does not begin another line. -/
def ofLines (log : String) : List Value :=
  let lines := Text.split '\n' log.toList
  let lines := if lines.getLast? = some [] then lines.dropLast else lines
  lines.map ofLine

end LoggerTree.Json
