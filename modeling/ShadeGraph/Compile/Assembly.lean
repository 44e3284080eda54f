import ShadeGraph.Compile.Emission

/-!
# Assembly of stages

The stages are assembled one after the other. Text at file scope is kept once, a prologue once for each kind
of node, and every name belongs to the node that claimed it first. A stage that fails leaves its diagnostic
and nothing else.
-/

namespace ShadeGraph

structure Assembly where
  declarations : List String := []
  helpers : List String := []
  prologues : PerStage (List String) := ⟨[], [], []⟩
  /-- The kinds whose prologue is there. -/
  prologueKinds : List String := []
  /-- Who declared a uniform's name first. -/
  declared : Table String Site := .empty
  /-- Who bound a name first. -/
  bound : Table String Site := .empty
  bindings : List Binding := []
  clashes : List (String × Site) := []
  diagnostics : List Diagnostic := []

namespace Assembly

/-- Adds a text that is new and not empty. -/
def addText (texts : List String) (text : String) : List String :=
  if text.isEmpty || texts.contains text then texts else texts ++ [text]

def addPrologues (a : Assembly) (e : Emission) : Assembly :=
  if a.prologueKinds.contains e.kind then a
  else { a with
    prologues := .ofFn fun function => a.prologues.get function ++ [e.prologues.get function]
    prologueKinds := a.prologueKinds ++ [e.kind] }

def addFileScope (a : Assembly) (e : Emission) : Assembly :=
  { a with
    declarations := addText a.declarations e.declarations
    helpers := addText a.helpers e.helpers }.addPrologues e

def clashMessage (name : String) (owner : Site) : String :=
  "uniform `" ++ name ++ "` is already declared by node " ++ owner.id.text ++ " in the " ++
    owner.stage.name ++ " stage"

/-- Reports that a name belongs to another node, once for each name and node. -/
def reportClash (a : Assembly) (name : String) (site owner : Site) : Assembly :=
  if a.clashes.contains (name, site) then a
  else { a with
    clashes := a.clashes ++ [(name, site)]
    diagnostics := a.diagnostics ++ [.located .duplicateUniform (clashMessage name owner) site.stage site.id] }

def declare (a : Assembly) (site : Site) (name : String) : Assembly :=
  match a.declared.get? name with
  | none => { a with declared := a.declared.insert name site }
  | some owner => if owner = site then a else a.reportClash name site owner

def bind (a : Assembly) (site : Site) (binding : Binding) : Assembly :=
  match a.bound.get? binding.name with
  | none => { a with bound := a.bound.insert binding.name site, bindings := a.bindings ++ [binding] }
  | some owner => if owner = site then a else a.reportClash binding.name site owner

def declareAll (a : Assembly) (stage : Stage) (emissions : List Emission) : Assembly :=
  emissions.foldl (fun a e => e.uniformName?.toList.foldl (·.declare ⟨stage, e.id⟩ ·) a) a

def bindAll (a : Assembly) (stage : Stage) (emissions : List Emission) : Assembly :=
  emissions.foldl (fun a e => e.bindings.foldl (·.bind ⟨stage, e.id⟩ ·) a) a

def commit (a : Assembly) (stage : Stage) (emissions : List Emission) : Assembly :=
  let a := ((emissions.foldl addFileScope a).declareAll stage emissions).bindAll stage emissions
  { a with diagnostics := a.diagnostics ++ emissions.flatMap Emission.warnings }

def fail (a : Assembly) (stage : Stage) (failure : StageFailure) : Assembly :=
  { a with diagnostics := a.diagnostics ++ [failure.diagnostic stage] }

def add (a : Assembly) (stage : Stage) : Except StageFailure (List Emission) → Assembly
  | .ok emissions => a.commit stage emissions
  | .error failure => a.fail stage failure

end Assembly

end ShadeGraph
