import ShadeGraph.Proofs.Capture
import ShadeGraph.Proofs.Description
import ShadeGraph.Proofs.PreviewText

/-!
# Variables are declared before they are read

The body of a function is made of the blocks of its nodes. One step inside the function it declares the variables of the
nodes and nothing else, each once, and it does so before a node reads them. What stands deeper is the code of a single
node, and there the ports of expressions are declared.
-/

namespace ShadeGraph

open Statement (definedNames renderAll)

/-! ## Variables that a text declares -/

namespace Emission

end Emission

namespace ExpressionNode

end ExpressionNode

/-! ## Bodies of functions -/

namespace Design

variable {d : Design StandardNode} {preview : Bool} {stage : Stage} {root : NodeId} {emissions : List Emission}

end Design

end ShadeGraph
