import ShadeGraph.Node.Sampling

/-! # Texture nodes -/

namespace ShadeGraph

/-- Where a texture node reads. -/
inductive TextureSource
  /-- A sampler uniform of its own. -/
  | texture
  | screen
  | texture2D
  | normalMap2D
  | depth
  /-- The sampler at its input. -/
  | samplerPort
  deriving DecidableEq, Repr

instance : Choice TextureSource where
  all := [.texture, .screen, .texture2D, .normalMap2D, .depth, .samplerPort]
  label
    | .texture => "Texture"
    | .screen => "Screen"
    | .texture2D => "Texture2D"
    | .normalMap2D => "NormalMap2D"
    | .depth => "Depth"
    | .samplerPort => "SamplerPort"

structure TextureNode where
  source : TextureSource := .texture
  texture : TextureType := .data
  resource : Option String := none
  deriving DecidableEq, Repr

namespace TextureNode

/-- Whether the source exists in a mode and stage. -/
def isAvailable (n : TextureNode) (mode : Mode) (stage : Stage) : Bool :=
  match n.source with
  | .texture | .samplerPort => true
  | .screen => (mode = .spatial || mode = .canvas) && stage = .fragment
  | .texture2D => mode = .canvas && stage = .fragment
  | .normalMap2D => mode = .canvas
  | .depth => mode = .spatial && stage = .fragment

def inputs (_ : TextureNode) : List Port :=
  [Sampling.coordinateInput, Sampling.lodInput, .input "sampler2D" .sampler2D]

def outputs (n : TextureNode) : List Port :=
  [if n.source = .depth then .output "depth" .scalar else .output "rgb" .vector3, .output "alpha" .scalar]

def slots (n : TextureNode) : List (ParamSlot TextureNode) :=
  [.choice "source" n.source fun source => { n with source },
   .resource "texture" n.resource fun resource => { n with resource },
   .choice "texture_type" n.texture fun texture => { n with texture }]

def ownSampler (ctx : EmitContext) : String := ctx.ownName "tex"

def declarations (n : TextureNode) (ctx : EmitContext) : String :=
  if n.source = .texture then Sampling.declaration .sampler2D (ownSampler ctx) n.texture .white else ""

def bindings (n : TextureNode) (ctx : EmitContext) : List Binding :=
  if n.source = .texture then [⟨ownSampler ctx, n.resource⟩] else []

def warning? (n : TextureNode) (mode : Mode) (stage : Stage) : Option String :=
  if n.isAvailable mode stage then none else some "Invalid source for shader."

def restriction? (n : TextureNode) (ctx : EmitContext) : Option String :=
  if ctx.preview && n.source = .depth then some "DEPTH_TEXTURE is not available in previews" else none

/-- What the outputs hold when there is nothing to read. -/
def placeholder (n : TextureNode) (color alpha : String) : List Statement :=
  [.assign 0 color (if n.source = .depth then PortType.scalar.zeroLiteral else PortType.vector3.zeroLiteral),
   .assign 0 alpha "1.0"]

def readDepth (coordinate lod depth alpha : String) : List Statement :=
  [.define 0 "float" "_depth" (Sampling.read "DEPTH_TEXTURE" coordinate lod ++ ".r"),
   .assign 0 depth "_depth",
   .assign 0 alpha "1.0"]

def statements (n : TextureNode) (ctx : EmitContext) (uv lod sampler color alpha : String) :
    List Statement :=
  let coordinate := Sampling.coordinate uv
  let reading (source : String) :=
    Sampling.readInto "_tex_read" (Sampling.read source coordinate lod) color alpha
  if !n.isAvailable ctx.mode ctx.stage then n.placeholder color alpha
  else match n.source with
    | .texture =>
      let name := ownSampler ctx
      Sampling.readInto (name ++ "_read") (Sampling.read name coordinate lod) color alpha
    | .samplerPort => if sampler.isEmpty then n.placeholder color alpha else reading sampler
    | .screen =>
      Sampling.readInto "_tex_read"
        (Sampling.read "SCREEN_TEXTURE" coordinate (operandOr lod "0.0")) color alpha
    | .texture2D => reading "TEXTURE"
    | .normalMap2D => reading "NORMAL_TEXTURE"
    | .depth => if ctx.preview then n.placeholder color alpha else readDepth coordinate lod color alpha

def body (n : TextureNode) (ctx : EmitContext) (operands results : List String) :
    Except BodyError (List Statement) := do
  return n.statements ctx (← operand operands 0) (← operand operands 1) (← operand operands 2)
    (← operand results 0) (← operand results 1)

end TextureNode

inductive CubeMapSource
  | texture
  | samplerPort
  deriving DecidableEq, Repr

instance : Choice CubeMapSource where
  all := [.texture, .samplerPort]
  label
    | .texture => "Texture"
    | .samplerPort => "SamplerPort"

/-- Reads a cube map along a direction. -/
structure CubeMapNode where
  source : CubeMapSource := .texture
  texture : TextureType := .data
  resource : Option String := none
  deriving DecidableEq, Repr

namespace CubeMapNode

def inputs (_ : CubeMapNode) : List Port :=
  [Sampling.coordinateInput, Sampling.lodInput, .input "samplerCube" .samplerCube]

def outputs (_ : CubeMapNode) : List Port :=
  [.output "rgb" .vector3, .output "alpha" .scalar]

def slots (n : CubeMapNode) : List (ParamSlot CubeMapNode) :=
  [.choice "source" n.source fun source => { n with source },
   .resource "cube_map" n.resource fun resource => { n with resource },
   .choice "texture_type" n.texture fun texture => { n with texture }]

def ownSampler (ctx : EmitContext) : String := ctx.ownName "cube"

def declarations (n : CubeMapNode) (ctx : EmitContext) : String :=
  if n.source = .texture then Sampling.declaration .samplerCube (ownSampler ctx) n.texture .white else ""

def bindings (n : CubeMapNode) (ctx : EmitContext) : List Binding :=
  if n.source = .texture then [⟨ownSampler ctx, n.resource⟩] else []

/-- The sampler that is read, empty if there is none. -/
def sampler (n : CubeMapNode) (ctx : EmitContext) (operands : List String) : Except BodyError String :=
  match n.source with
  | .texture => .ok (ownSampler ctx)
  | .samplerPort => operand operands 2

/-- The read, or a value that stands in for one. -/
def readExpression (sampler : String) (operands : List String) : Except BodyError String :=
  if sampler.isEmpty then .ok "vec4(0.0)"
  else do
    return Sampling.read sampler (operandOr (← operand operands 0) PortType.vector3.zeroLiteral)
      (← operand operands 1)

def body (n : CubeMapNode) (ctx : EmitContext) (operands results : List String) :
    Except BodyError (List Statement) := do
  let value ← readExpression (← n.sampler ctx operands) operands
  return Sampling.readInto "_cube_read" value (← operand results 0) (← operand results 1)

end CubeMapNode

end ShadeGraph
