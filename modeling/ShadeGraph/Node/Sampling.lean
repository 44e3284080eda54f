import ShadeGraph.Node.Model

/-! # Reading textures -/

namespace ShadeGraph

/-- How the data of a texture is meant. -/
inductive TextureType
  | data | color | normalMap | aniso
  deriving DecidableEq, Repr

instance : Choice TextureType where
  all := [.data, .color, .normalMap, .aniso]
  label
    | .data => "Data"
    | .color => "Color"
    | .normalMap => "NormalMap"
    | .aniso => "Aniso"

/-- What is read where no texture is bound. -/
inductive ColorDefault
  | white | black
  deriving DecidableEq, Repr

instance : Choice ColorDefault where
  all := [.white, .black]
  label
    | .white => "White"
    | .black => "Black"

namespace Sampling

/-- What a sampler's declaration says after its name. -/
def declaredHint : TextureType → ColorDefault → String
  | .data, .white => ""
  | .data, .black => " : hint_black"
  | .color, .white => " : hint_albedo"
  | .color, .black => " : hint_black_albedo"
  | .normalMap, _ => " : hint_normal"
  | .aniso, _ => " : hint_aniso"

def declaration (type : PortType) (name : String) (texture : TextureType) (unbound : ColorDefault) :
    String :=
  "uniform " ++ type.keyword ++ " " ++ name ++ declaredHint texture unbound ++ ";\n"

/-- The coordinate input; where the stage has coordinates of its own they stand in. -/
def coordinateInput : Port :=
  (Port.input "uv" .vector3).withHint "vec3(UV, 0.0)" [.vertex, .fragment]

def lodInput : Port := .input "lod" .scalar

/-- The plane coordinate of an operand. -/
def coordinate (uv : String) : String :=
  if uv.isEmpty then "vec2(0.0)" else uv ++ ".xy"

/-- The read of a sampler, at a level of detail if one is given. -/
def read (sampler coordinate lod : String) : String :=
  if lod.isEmpty then "texture(" ++ sampler ++ ", " ++ coordinate ++ ")"
  else "textureLod(" ++ sampler ++ ", " ++ coordinate ++ ", " ++ lod ++ ")"

/-- Reads into a local and hands on its colour and alpha. -/
def readInto (name value color alpha : String) : List Statement :=
  [.define 0 "vec4" name value, .assign 0 color (name ++ ".rgb"), .assign 0 alpha (name ++ ".a")]

end Sampling

end ShadeGraph
