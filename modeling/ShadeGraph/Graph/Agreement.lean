import ShadeGraph.Graph.Design

/-!
# Designs that mean the same

Two designs agree when they have the same content, in whatever order it was put in.
-/

namespace ShadeGraph

variable {ν : Type} [NodeModel ν]

def PlacedNode.agrees (n m : PlacedNode ν) : Bool :=
  NodeModel.kind n.node = NodeModel.kind m.node &&
    (Table.ofList (NodeModel.params n.node)).agrees ParamValue.agrees (.ofList (NodeModel.params m.node)) &&
    n.position.agrees m.position &&
    n.overrides.agrees PortValue.agrees m.overrides

def StageGraph.agrees (g h : StageGraph ν) : Bool :=
  g.nodes.agrees PlacedNode.agrees h.nodes && g.edges.isPerm h.edges

def Design.agrees (d e : Design ν) : Bool :=
  d.mode = e.mode && d.settings.agrees e.settings && d.offset.agrees e.offset &&
    Stage.all.all fun stage => (d.graph stage).agrees (e.graph stage)

end ShadeGraph
