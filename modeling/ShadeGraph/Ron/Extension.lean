import ShadeGraph.Ron.Word

/-!
# Extensions of RON

A text may start with attributes `#![enable(...)]` that name the extensions it makes use of.
-/

namespace ShadeGraph.Ron

open Reader

inductive Extension
  | unwrapNewtypes
  /-- A value may stand without the `Some` around it. -/
  | implicitSome
  /-- The parentheses of `Some` may serve as those of the value in them. -/
  | unwrapVariantNewtypes
  /-- Records have to be named. -/
  | explicitStructNames
  deriving DecidableEq, Repr

namespace Extension

def all : List Extension := [.unwrapNewtypes, .implicitSome, .unwrapVariantNewtypes, .explicitStructNames]

def name : Extension → String
  | .unwrapNewtypes => "unwrap_newtypes"
  | .implicitSome => "implicit_some"
  | .unwrapVariantNewtypes => "unwrap_variant_newtypes"
  | .explicitStructNames => "explicit_struct_names"

def ofName? (name : String) : Option Extension := all.find? (·.name = name)

end Extension

/-- Symbols in order, each with the blanks after it. -/
def symbols (list : List String) : Reader Unit :=
  list.forM fun symbol => do
    eat symbol
    blanks

/-- One attribute; it names at least one extension. -/
def enabling : Reader (List Extension) := do
  symbols ["#", "!", "[", "enable", "("]
  let extensions ← separated ')' (do Extension.ofName? (← name))
  if extensions.isEmpty then failure
  symbols [")", "]"]
  return extensions

/-- The extensions of at most `count` attributes. -/
def attributes (count : Nat) : Reader (List Extension) := do
  match count with
  | 0 => return []
  | count + 1 =>
    if (← peek?) = some '#' then return (← enabling) ++ (← attributes count)
    else return []

/-- What a text holds after its attributes, and nothing beside it. -/
def document {α : Type} (value : List Extension → Reader α) (text : String) : Option α :=
  ((do
    blanks
    let content ← value (← attributes text.length)
    blanks
    if (← get).isEmpty then return content else failure : Reader α).run text.toList).map Prod.fst

/-- The fields of a record, each read by its name. The record may leave out its own name. -/
def fields {α : Type} (extensions : List Extension) (recordName : String) (value : String → Reader α) :
    Reader (List α) := do
  if (← peek?).any Text.isWordChar then
    if (← name) ≠ recordName then failure
  else if extensions.contains .explicitStructNames then failure
  blanks
  eat "("
  let values ← separated ')' (pair name value)
  eat ")"
  return values

/-- `None`, or a value in `Some(...)`. The reader of the value learns whether the parentheses are also its own. -/
def optional {α : Type} (extensions : List Extension) (value : Bool → Reader α) : Reader (Option α) := do
  let word? ← keywordOf? ["None", "Some"]
  if word? = some "None" then return none
  let opened ← do
    if word?.isSome then
      blanks
      eat? "("
    else pure false
  if opened then
    blanks
    let a ← value (extensions.contains .unwrapVariantNewtypes)
    let _ ← comma
    eat ")"
    return some a
  else if extensions.contains .implicitSome then return some (← value false)
  else failure

end ShadeGraph.Ron
