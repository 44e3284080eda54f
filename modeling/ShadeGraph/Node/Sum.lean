import ShadeGraph.Node.InPlace

/-!
# Sums of node models

A host adds kinds of its own to the standard nodes by a sum of models.
-/

namespace ShadeGraph

variable {α β : Type}

instance [NodeModel α] [NodeModel β] : NodeModel (α ⊕ β) where
  kind := Sum.elim NodeModel.kind NodeModel.kind
  caption := Sum.elim NodeModel.caption NodeModel.caption
  category := Sum.elim NodeModel.category NodeModel.category
  inputs := Sum.elim NodeModel.inputs NodeModel.inputs
  outputs := Sum.elim NodeModel.outputs NodeModel.outputs
  slots
    | .inl n => (NodeModel.slots n).map (·.map .inl)
    | .inr n => (NodeModel.slots n).map (·.map .inr)
  setParam
    | .inl n, name, value => (NodeModel.setParam n name value).map .inl
    | .inr n, name, value => (NodeModel.setParam n name value).map .inr
  bind mode stage := Sum.map (NodeModel.bind mode stage) (NodeModel.bind mode stage)
  isPermitted := Sum.elim NodeModel.isPermitted NodeModel.isPermitted
  isGlobal := Sum.elim NodeModel.isGlobal NodeModel.isGlobal
  uniformName? := Sum.elim NodeModel.uniformName? NodeModel.uniformName?
  declarations := Sum.elim NodeModel.declarations NodeModel.declarations
  helpers := Sum.elim NodeModel.helpers NodeModel.helpers
  prologue := Sum.elim NodeModel.prologue NodeModel.prologue
  samplerName? := Sum.elim NodeModel.samplerName? NodeModel.samplerName?
  bindings := Sum.elim NodeModel.bindings NodeModel.bindings
  warning? := Sum.elim NodeModel.warning? NodeModel.warning?
  restriction? := Sum.elim NodeModel.restriction? NodeModel.restriction?
  body := Sum.elim NodeModel.body NodeModel.body

instance [Settable α] [Settable β] : Settable (α ⊕ β) where
  store name value := do
    match ← get with
    | .inl n => InPlace.onPart n (fun left _ => .inl left) id (Settable.store name value)
    | .inr n => InPlace.onPart n (fun left _ => .inr left) id (Settable.store name value)

instance [HasTerminal α] : HasTerminal (α ⊕ β) where
  terminal := .inl HasTerminal.terminal

end ShadeGraph
