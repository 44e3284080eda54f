import ShadeGraph.Document.Entry
import ShadeGraph.Graph.Design

/-! # Saving designs -/

namespace ShadeGraph.Design

variable {ν : Type} [NodeModel ν]

/-- The entries of a node. Of the terminal only the position is written. -/
def nodeEntries (site : Site) (n : PlacedNode ν) : List Entry :=
  if site.id = .output then [.position site n.position]
  else [.kind site (NodeModel.kind n.node), .position site n.position] ++
    (NodeModel.slots n.node).map (fun slot => .param site slot.spec.name (slot.value.write slot.spec.kind)) ++
    n.overrides.entries.map fun (port, value) => .default site port value.write

def stageEntries (d : Design ν) (stage : Stage) : List Entry :=
  let g := d.graph stage
  (g.nodes.entries.flatMap fun (id, n) => nodeEntries ⟨stage, id⟩ n) ++
    if g.edges.isEmpty then [] else [.edges stage (g.edges.map .ofEdge)]

def entries (d : Design ν) : List Entry :=
  [.mode d.mode, .options d.settings.options.entries, .flags d.settings.flags, .offset d.offset] ++
    Stage.all.flatMap d.stageEntries

def save (d : Design ν) : String :=
  Text.concat (d.entries.map Entry.write)

end ShadeGraph.Design
