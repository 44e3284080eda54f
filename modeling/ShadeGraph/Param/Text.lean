import ShadeGraph.Number.Decimal
import ShadeGraph.Number.Reading
import ShadeGraph.Param.Basic
import ShadeGraph.Text.Basic
import ShadeGraph.Text.Quoted
import ShadeGraph.Value.Literal

/-!
# Text of values

How values stand in documents: numbers in their shortest decimal text, components separated by commas,
texts quoted, choices by label.
-/

namespace ShadeGraph

inductive ValueError
  | quoting (cause : Text.QuoteError)
  | numberCount (expected found : Nat)
  | notNumber (text : String)
  | notBoolean (text : String)
  | notInteger (text : String)
  | notVariant (text : String) (variants : List String)
  | notResource (text : String)
  | samplerDefault
  deriving DecidableEq, Repr

def ValueError.message : ValueError → String
  | .quoting cause => cause.message
  | .numberCount expected found => s!"expected {expected} numbers, found {found}"
  | .notNumber text => s!"`{text}` is not a number"
  | .notBoolean text => s!"`{text}` is not a boolean"
  | .notInteger text => s!"`{text}` is not an integer"
  | .notVariant text variants => "`" ++ text ++ "` is not one of " ++ Text.joinWith ", " variants
  | .notResource text => "expected `res(\"...\")` or `null`, found `" ++ text ++ "`"
  | .samplerDefault => "sampler inputs have no default"

namespace ValueText

def numbers (values : List Single) : String :=
  Text.joinWith ", " (values.map Single.text)

def readNumber (text : List Char) : Except ValueError Single :=
  match Single.ofText? text with
  | some x => .ok x
  | none => .error (.notNumber (String.ofList text))

/-- Exactly `count` numbers, separated by commas. -/
def readNumbers (count : Nat) (text : List Char) : Except ValueError (List Single) :=
  let parts := (Text.splitOn ',' text).map Text.trim
  if parts.length = count then parts.mapM readNumber
  else .error (.numberCount count parts.length)

def readScalar (text : List Char) : Except ValueError Single := do
  match ← readNumbers 1 text with
  | [x] => return x
  | found => throw (.numberCount 1 found.length)

def readPosition (text : List Char) : Except ValueError Position := do
  match ← readNumbers 2 text with
  | [x, y] => return ⟨x, y⟩
  | found => throw (.numberCount 2 found.length)

def readVec3 (text : List Char) : Except ValueError Vec3 := do
  match ← readNumbers 3 text with
  | [x, y, z] => return ⟨x, y, z⟩
  | found => throw (.numberCount 3 found.length)

def readColor (text : List Char) : Except ValueError Color := do
  match ← readNumbers 4 text with
  | [r, g, b, a] => return ⟨r, g, b, a⟩
  | found => throw (.numberCount 4 found.length)

def readTransform (text : List Char) : Except ValueError Transform := do
  let values ← readNumbers 12 text
  match Transform.ofList? values with
  | some t => return t
  | none => throw (.numberCount 12 values.length)

def readBool (text : List Char) : Except ValueError Bool :=
  if text = "true".toList then .ok true
  else if text = "false".toList then .ok false
  else .error (.notBoolean (String.ofList text))

def readText (text : List Char) : Except ValueError String :=
  (Text.unquote text).mapError .quoting

/-- What stands between `res(` and a closing parenthesis. -/
def resourcePath? (text : List Char) : Option (List Char) :=
  ("res(".toList.isPrefixOf? text).bind fun rest => [')'].isSuffixOf? rest

def readResource (text : List Char) : Except ValueError (Option String) :=
  if text = "null".toList then .ok none
  else match resourcePath? text with
    | some path => (readText (Text.trim path)).map some
    | none => .error (.notResource (String.ofList text))

/-- A label, or an index that need not belong to a label. -/
def readChoice (variants : List String) (text : List Char) : Except ValueError Nat :=
  let label := String.ofList text
  match variants.findIdx? (· = label) with
  | some index => .ok index
  | none => match Text.index? text with
    | some index => .ok index
    | none => .error (.notVariant label variants)

end ValueText

namespace ParamValue

def write (kind : ParamKind) : ParamValue → String
  | .int v => toString v
  | .float v => v.text
  | .bool v => booleanLiteral v
  | .vector3 v => ValueText.numbers v.toList
  | .color v => ValueText.numbers v.toList
  | .transform v => ValueText.numbers v.toList
  | .text v => Text.quote v
  | .choice index => match kind with
    | .choice variants => variants[index]?.getD (Nat.repr index)
    | _ => Nat.repr index
  | .resource (some path) => "res(" ++ Text.quote path ++ ")"
  | .resource none => "null"

def read (kind : ParamKind) (text : List Char) : Except ValueError ParamValue :=
  match kind with
  | .int => match Text.integer? text with
    | some v => .ok (.int v)
    | none => .error (.notInteger (String.ofList text))
  | .float => (ValueText.readScalar text).map .float
  | .bool => (ValueText.readBool text).map .bool
  | .vector3 => (ValueText.readVec3 text).map .vector3
  | .color => (ValueText.readColor text).map .color
  | .transform => (ValueText.readTransform text).map .transform
  | .text => (ValueText.readText text).map .text
  | .choice variants => (ValueText.readChoice variants text).map .choice
  | .resource => (ValueText.readResource text).map .resource

end ParamValue

namespace PortValue

def write : PortValue → String
  | .scalar v => v.text
  | .vector3 v => ValueText.numbers v.toList
  | .boolean v => booleanLiteral v
  | .transform v => ValueText.numbers v.toList

def read (type : PortType) (text : List Char) : Except ValueError PortValue :=
  match type with
  | .scalar => (ValueText.readScalar text).map .scalar
  | .vector3 => (ValueText.readVec3 text).map .vector3
  | .boolean => (ValueText.readBool text).map .boolean
  | .transform => (ValueText.readTransform text).map .transform
  | .sampler2D | .samplerCube => .error .samplerDefault

end PortValue

end ShadeGraph
