import ShadeGraph.Text.Basic
import ShadeGraph.Text.Visible

/-! # Writing RON -/

namespace ShadeGraph.Ron

/-- A character inside a string; what does not show by itself is written by its number. -/
def escapeChar (c : Char) : String :=
  match c with
  | '"' => "\\\""
  | '\'' => "\\'"
  | '\\' => "\\\\"
  | '\n' => "\\n"
  | '\t' => "\\t"
  | '\r' => "\\r"
  | '\x00' => "\\0"
  | _ =>
    if Text.isVisible c then c.toString
    else "\\u\x7b" ++ String.ofList (Nat.toDigits 16 c.toNat) ++ "\x7d"

def quote (text : String) : String :=
  "\"" ++ Text.concat (text.toList.map escapeChar) ++ "\""

def option : Option String → String
  | none => "None"
  | some value => "Some(" ++ value ++ ")"

def indent (depth : Nat) : String :=
  String.ofList (List.replicate (4 * depth) ' ')

/-- A record with one field on a line; `depth` is that of its first line. -/
def record (depth : Nat) (name : String) (fields : List (String × String)) : String :=
  name ++ "(\n" ++
    Text.concat (fields.map fun (field, value) => indent (depth + 1) ++ field ++ ": " ++ value ++ ",\n") ++
    indent depth ++ ")"

/-- A list with one item on a line. -/
def list (items : List String) : String :=
  if items.isEmpty then "[]"
  else "[\n" ++ Text.concat (items.map fun item => indent 1 ++ item ++ ",\n") ++ "]"

end ShadeGraph.Ron
