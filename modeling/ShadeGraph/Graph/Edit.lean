import ShadeGraph.Graph.Design

/-! # Edits as data -/

namespace ShadeGraph

inductive Edit (ν : Type)
  | setMode (mode : Mode)
  | add (stage : Stage) (id : NodeId) (position : Position) (node : ν)
  | remove (stage : Stage) (id : NodeId)
  | move (stage : Stage) (id : NodeId) (position : Position)
  | setParam (stage : Stage) (id : NodeId) (name : String) (value : ParamValue)
  | setDefault (stage : Stage) (id : NodeId) (port : Nat) (value : PortValue)
  | clearDefault (stage : Stage) (id : NodeId) (port : Nat)
  | connect (stage : Stage) (edge : Edge)
  | disconnect (stage : Stage) (edge : Edge)
  | setOption (group : String) (option : Nat)
  | clearOption (group : String)
  | setFlag (flag : String) (on : Bool)
  | scroll (offset : Position)

namespace Edit

variable {ν : Type}

def apply [NodeModel ν] (d : Design ν) : Edit ν → Except GraphError (Design ν)
  | .setMode mode => .ok (d.setMode mode)
  | .add stage id position node => d.add stage id position node
  | .remove stage id => d.remove stage id
  | .move stage id position => d.move stage id position
  | .setParam stage id name value => d.setParam stage id name value
  | .setDefault stage id port value => d.setDefault stage id port value
  | .clearDefault stage id port => .ok (d.clearDefault stage id port)
  | .connect stage edge => d.connect stage edge
  | .disconnect stage edge => .ok (d.disconnect stage edge)
  | .setOption group option => d.setOption group option
  | .clearOption group => .ok (d.clearOption group)
  | .setFlag flag on => d.setFlag flag on
  | .scroll offset => .ok (d.scroll offset)

/-- Whether a successful edit makes earlier compiles of the design stale. -/
def outdates (d : Design ν) : Edit ν → Bool
  | .setMode mode => mode ≠ d.mode
  | .clearDefault stage id port => (d.placed? stage id).any (·.overrides.contains port)
  | .disconnect stage edge => (d.graph stage).edges.contains edge
  | .clearOption group => d.settings.options.contains group
  | .setFlag flag on => d.settings.flags.contains flag ≠ on
  | .move _ _ _ | .scroll _ => false
  | _ => true

end Edit

end ShadeGraph
