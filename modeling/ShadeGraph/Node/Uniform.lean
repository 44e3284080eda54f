import ShadeGraph.Node.Sampling
import ShadeGraph.Uniform.Name

/-!
# Uniforms

Values that the host supplies. Each has a name of its own at file scope; the name is made an identifier
whenever it is set.
-/

namespace ShadeGraph

def uniformNameParam : String := "uniform_name"

namespace UniformName

def slot {ν : Type} (name : String) (put : String → ν) : ParamSlot ν :=
  .text uniformNameParam name fun text => put (sanitize text)

end UniformName

inductive ValueUniformType
  | scalar | boolean | color | vector | transform
  deriving DecidableEq, Repr

structure ValueUniform where
  type : ValueUniformType
  name : String := UniformName.fallback
  deriving DecidableEq, Repr

namespace ValueUniform

def kind (n : ValueUniform) : String :=
  match n.type with
  | .scalar => "scalar_uniform"
  | .boolean => "boolean_uniform"
  | .color => "color_uniform"
  | .vector => "vector_uniform"
  | .transform => "transform_uniform"

def caption (n : ValueUniform) : String :=
  match n.type with
  | .scalar => "ScalarUniform"
  | .boolean => "BooleanUniform"
  | .color => "ColorUniform"
  | .vector => "VectorUniform"
  | .transform => "TransformUniform"

def outputs (n : ValueUniform) : List Port :=
  match n.type with
  | .scalar => [.output "" .scalar]
  | .boolean => [.output "" .boolean]
  | .color => [.output "color" .vector3, .output "alpha" .scalar]
  | .vector => [.output "" .vector3]
  | .transform => [.output "" .transform]

def slots (n : ValueUniform) : List (ParamSlot ValueUniform) :=
  [UniformName.slot n.name fun name => { n with name }]

def declaredType : ValueUniformType → String
  | .scalar => "float"
  | .boolean => "bool"
  | .color => "vec4"
  | .vector => "vec3"
  | .transform => "mat4"

def declaredHint : ValueUniformType → String
  | .color => " : hint_color"
  | _ => ""

def declarations (n : ValueUniform) : String :=
  "uniform " ++ declaredType n.type ++ " " ++ n.name ++ declaredHint n.type ++ ";\n"

def body (n : ValueUniform) (results : List String) : Except BodyError (List Statement) := do
  let out ← operand results 0
  match n.type with
  | .color => return [.assign 0 out (n.name ++ ".rgb"), .assign 0 (← operand results 1) (n.name ++ ".a")]
  | _ => return [.assign 0 out n.name]

end ValueUniform

/-- A plane texture, read at a coordinate or projected along the three axes. -/
structure TextureUniform where
  triplanar : Bool
  name : String := UniformName.fallback
  texture : TextureType := .data
  unbound : ColorDefault := .white
  resource : Option String := none
  deriving DecidableEq, Repr

namespace TextureUniform

def kind (n : TextureUniform) : String :=
  if n.triplanar then "texture_uniform_triplanar" else "texture_uniform"

def caption (n : TextureUniform) : String :=
  if n.triplanar then "TextureUniformTriplanar" else "TextureUniform"

def inputs (n : TextureUniform) : List Port :=
  if n.triplanar then [.input "weights" .vector3, .input "pos" .vector3]
  else [Sampling.coordinateInput, Sampling.lodInput]

def outputs (_ : TextureUniform) : List Port :=
  [.output "rgb" .vector3, .output "alpha" .scalar, .output "sampler2D" .sampler2D]

def slots (n : TextureUniform) : List (ParamSlot TextureUniform) :=
  [UniformName.slot n.name fun name => { n with name },
   .choice "texture_type" n.texture fun texture => { n with texture },
   .choice "color_default" n.unbound fun unbound => { n with unbound },
   .resource "texture" n.resource fun resource => { n with resource }]

/-- The projection along the axes needs the normals of spatial shaders. -/
def isPermitted (n : TextureUniform) (mode : Mode) : Bool :=
  !n.triplanar || mode = .spatial

def declarations (n : TextureUniform) : String :=
  Sampling.declaration .sampler2D n.name n.texture n.unbound

def triplanarHelpers : String := Text.concat
  ["// triplanar\n",
   "vec4 triplanar_texture(sampler2D p_sampler, vec3 p_weights, vec3 p_triplanar_pos) \x7b\n",
   "\tvec4 samp = vec4(0.0);\n",
   "\tsamp += texture(p_sampler, p_triplanar_pos.xy) * p_weights.z;\n",
   "\tsamp += texture(p_sampler, p_triplanar_pos.xz) * p_weights.y;\n",
   "\tsamp += texture(p_sampler, p_triplanar_pos.zy * vec2(-1.0, 1.0)) * p_weights.x;\n",
   "\treturn samp;\n",
   "\x7d\n",
   "\n",
   "uniform vec3 triplanar_scale = vec3(1.0, 1.0, 1.0);\n",
   "uniform vec3 triplanar_offset;\n",
   "uniform float triplanar_sharpness = 0.5;\n",
   "\n",
   "varying vec3 triplanar_power_normal;\n",
   "varying vec3 triplanar_pos;\n",
   "\n"]

/-- Computes the weights and the position that the fragment stage reads. -/
def triplanarPrologue : String := Text.concat
  ["\t// triplanar\n",
   "\ttriplanar_power_normal = pow(abs(NORMAL), vec3(triplanar_sharpness));\n",
   "\ttriplanar_power_normal /= dot(triplanar_power_normal, vec3(1.0));\n",
   "\ttriplanar_pos = VERTEX * triplanar_scale + triplanar_offset;\n",
   "\ttriplanar_pos *= vec3(1.0, -1.0, 1.0);\n"]

def helpers (n : TextureUniform) : String :=
  if n.triplanar then triplanarHelpers else ""

def prologue (n : TextureUniform) (function : Stage) : String :=
  if n.triplanar && function = .vertex then triplanarPrologue else ""

def samplerName? (n : TextureUniform) (port : Nat) : Option String :=
  if port = 2 then some n.name else none

def bindings (n : TextureUniform) : List Binding := [⟨n.name, n.resource⟩]

def readExpression (n : TextureUniform) (first second : String) : String :=
  if n.triplanar then
    "triplanar_texture(" ++ n.name ++ ", " ++ operandOr first "triplanar_power_normal" ++ ", " ++
      operandOr second "triplanar_pos" ++ ")"
  else Sampling.read n.name (Sampling.coordinate first) second

def body (n : TextureUniform) (operands results : List String) : Except BodyError (List Statement) := do
  let value := n.readExpression (← operand operands 0) (← operand operands 1)
  return Sampling.readInto "n_tex_read" value (← operand results 0) (← operand results 1)

end TextureUniform

/-- A cube map, handed on as a sampler. -/
structure CubeMapUniform where
  name : String := UniformName.fallback
  texture : TextureType := .data
  unbound : ColorDefault := .white
  resource : Option String := none
  deriving DecidableEq, Repr

namespace CubeMapUniform

def outputs (_ : CubeMapUniform) : List Port := [.output "samplerCube" .samplerCube]

def slots (n : CubeMapUniform) : List (ParamSlot CubeMapUniform) :=
  [UniformName.slot n.name fun name => { n with name },
   .choice "texture_type" n.texture fun texture => { n with texture },
   .choice "color_default" n.unbound fun unbound => { n with unbound },
   .resource "cube_map" n.resource fun resource => { n with resource }]

def declarations (n : CubeMapUniform) : String :=
  Sampling.declaration .samplerCube n.name n.texture n.unbound

def samplerName? (n : CubeMapUniform) (port : Nat) : Option String :=
  if port = 0 then some n.name else none

def bindings (n : CubeMapUniform) : List Binding := [⟨n.name, n.resource⟩]

end CubeMapUniform

inductive UniformNode
  | value (uniform : ValueUniform)
  | texture (uniform : TextureUniform)
  | cubeMap (uniform : CubeMapUniform)
  deriving DecidableEq, Repr

namespace UniformNode

def kind : UniformNode → String
  | .value u => u.kind
  | .texture u => u.kind
  | .cubeMap _ => "cubemap_uniform"

def caption : UniformNode → String
  | .value u => u.caption
  | .texture u => u.caption
  | .cubeMap _ => "CubeMapUniform"

def inputs : UniformNode → List Port
  | .value _ => []
  | .texture u => u.inputs
  | .cubeMap _ => []

def outputs : UniformNode → List Port
  | .value u => u.outputs
  | .texture u => u.outputs
  | .cubeMap u => u.outputs

def slots : UniformNode → List (ParamSlot UniformNode)
  | .value u => u.slots.map (·.map .value)
  | .texture u => u.slots.map (·.map .texture)
  | .cubeMap u => u.slots.map (·.map .cubeMap)

def isPermitted (n : UniformNode) (mode : Mode) : Bool :=
  match n with
  | .texture u => u.isPermitted mode
  | _ => true

def name : UniformNode → String
  | .value u => u.name
  | .texture u => u.name
  | .cubeMap u => u.name

def declarations : UniformNode → String
  | .value u => u.declarations
  | .texture u => u.declarations
  | .cubeMap u => u.declarations

def helpers : UniformNode → String
  | .texture u => u.helpers
  | _ => ""

def prologue (n : UniformNode) (function : Stage) : String :=
  match n with
  | .texture u => u.prologue function
  | _ => ""

def samplerName? (n : UniformNode) (port : Nat) : Option String :=
  match n with
  | .value _ => none
  | .texture u => u.samplerName? port
  | .cubeMap u => u.samplerName? port

def bindings : UniformNode → List Binding
  | .value _ => []
  | .texture u => u.bindings
  | .cubeMap u => u.bindings

def body (n : UniformNode) (operands results : List String) : Except BodyError (List Statement) :=
  match n with
  | .value u => u.body results
  | .texture u => u.body operands results
  | .cubeMap _ => .ok []

end UniformNode

end ShadeGraph
