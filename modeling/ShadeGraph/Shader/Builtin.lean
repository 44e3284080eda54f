import ShadeGraph.Shader.Mode
import ShadeGraph.Shader.Stage
import ShadeGraph.Value.Basic

/-!
# Built-ins of the stages

Each mode and stage has built-ins that input nodes read and built-ins that the output node writes. In a
preview, which runs as a canvas fragment, some of those read have a substitute.
-/

namespace ShadeGraph

structure StageBuiltin where
  type : PortType
  /-- The name that users see. -/
  name : String
  /-- What is read; for a built-in that is written its target, or `target:components`. -/
  expression : String
  deriving DecidableEq, Repr

namespace StageBuiltin

def spatialVertexInputs : List StageBuiltin :=
  [⟨.vector3, "vertex", "VERTEX"⟩,
   ⟨.vector3, "normal", "NORMAL"⟩,
   ⟨.vector3, "tangent", "TANGENT"⟩,
   ⟨.vector3, "binormal", "BINORMAL"⟩,
   ⟨.vector3, "uv", "vec3(UV, 0.0)"⟩,
   ⟨.vector3, "uv2", "vec3(UV2, 0.0)"⟩,
   ⟨.vector3, "color", "COLOR.rgb"⟩,
   ⟨.scalar, "alpha", "COLOR.a"⟩,
   ⟨.scalar, "point_size", "POINT_SIZE"⟩,
   ⟨.transform, "world", "WORLD_MATRIX"⟩,
   ⟨.transform, "modelview", "MODELVIEW_MATRIX"⟩,
   ⟨.transform, "camera", "CAMERA_MATRIX"⟩,
   ⟨.transform, "inv_camera", "INV_CAMERA_MATRIX"⟩,
   ⟨.transform, "projection", "PROJECTION_MATRIX"⟩,
   ⟨.transform, "inv_projection", "INV_PROJECTION_MATRIX"⟩,
   ⟨.scalar, "time", "TIME"⟩,
   ⟨.vector3, "viewport_size", "vec3(VIEWPORT_SIZE, 0.0)"⟩,
   ⟨.boolean, "output_is_srgb", "OUTPUT_IS_SRGB"⟩]

def spatialFragmentInputs : List StageBuiltin :=
  [⟨.vector3, "fragcoord", "FRAGCOORD.xyz"⟩,
   ⟨.vector3, "vertex", "VERTEX"⟩,
   ⟨.vector3, "normal", "NORMAL"⟩,
   ⟨.vector3, "tangent", "TANGENT"⟩,
   ⟨.vector3, "binormal", "BINORMAL"⟩,
   ⟨.vector3, "view", "VIEW"⟩,
   ⟨.vector3, "uv", "vec3(UV, 0.0)"⟩,
   ⟨.vector3, "uv2", "vec3(UV2, 0.0)"⟩,
   ⟨.vector3, "color", "COLOR.rgb"⟩,
   ⟨.scalar, "alpha", "COLOR.a"⟩,
   ⟨.vector3, "point_coord", "vec3(POINT_COORD, 0.0)"⟩,
   ⟨.vector3, "screen_uv", "vec3(SCREEN_UV, 0.0)"⟩,
   ⟨.scalar, "side", "float(FRONT_FACING ? 1.0 : 0.0)"⟩,
   ⟨.transform, "world", "WORLD_MATRIX"⟩,
   ⟨.transform, "inv_camera", "INV_CAMERA_MATRIX"⟩,
   ⟨.transform, "camera", "CAMERA_MATRIX"⟩,
   ⟨.transform, "projection", "PROJECTION_MATRIX"⟩,
   ⟨.transform, "inv_projection", "INV_PROJECTION_MATRIX"⟩,
   ⟨.scalar, "time", "TIME"⟩,
   ⟨.vector3, "viewport_size", "vec3(VIEWPORT_SIZE, 0.0)"⟩,
   ⟨.boolean, "output_is_srgb", "OUTPUT_IS_SRGB"⟩,
   ⟨.boolean, "front_facing", "FRONT_FACING"⟩,
   ⟨.sampler2D, "screen_texture", "SCREEN_TEXTURE"⟩,
   ⟨.sampler2D, "depth_texture", "DEPTH_TEXTURE"⟩]

def spatialLightInputs : List StageBuiltin :=
  [⟨.vector3, "fragcoord", "FRAGCOORD.xyz"⟩,
   ⟨.vector3, "normal", "NORMAL"⟩,
   ⟨.vector3, "view", "VIEW"⟩,
   ⟨.vector3, "light", "LIGHT"⟩,
   ⟨.vector3, "light_color", "LIGHT_COLOR"⟩,
   ⟨.vector3, "attenuation", "ATTENUATION"⟩,
   ⟨.vector3, "albedo", "ALBEDO"⟩,
   ⟨.vector3, "transmission", "TRANSMISSION"⟩,
   ⟨.vector3, "diffuse", "DIFFUSE_LIGHT"⟩,
   ⟨.vector3, "specular", "SPECULAR_LIGHT"⟩,
   ⟨.scalar, "roughness", "ROUGHNESS"⟩,
   ⟨.scalar, "metallic", "METALLIC"⟩,
   ⟨.transform, "world", "WORLD_MATRIX"⟩,
   ⟨.transform, "inv_camera", "INV_CAMERA_MATRIX"⟩,
   ⟨.transform, "camera", "CAMERA_MATRIX"⟩,
   ⟨.transform, "projection", "PROJECTION_MATRIX"⟩,
   ⟨.transform, "inv_projection", "INV_PROJECTION_MATRIX"⟩,
   ⟨.scalar, "time", "TIME"⟩,
   ⟨.vector3, "viewport_size", "vec3(VIEWPORT_SIZE, 0.0)"⟩,
   ⟨.boolean, "output_is_srgb", "OUTPUT_IS_SRGB"⟩]

def canvasVertexInputs : List StageBuiltin :=
  [⟨.vector3, "vertex", "vec3(VERTEX, 0.0)"⟩,
   ⟨.vector3, "uv", "vec3(UV, 0.0)"⟩,
   ⟨.vector3, "color", "COLOR.rgb"⟩,
   ⟨.scalar, "alpha", "COLOR.a"⟩,
   ⟨.vector3, "modulate_color", "MODULATE.rgb"⟩,
   ⟨.scalar, "modulate_alpha", "MODULATE.a"⟩,
   ⟨.scalar, "point_size", "POINT_SIZE"⟩,
   ⟨.vector3, "texture_pixel_size", "vec3(TEXTURE_PIXEL_SIZE, 1.0)"⟩,
   ⟨.transform, "world", "WORLD_MATRIX"⟩,
   ⟨.transform, "projection", "PROJECTION_MATRIX"⟩,
   ⟨.transform, "extra", "EXTRA_MATRIX"⟩,
   ⟨.scalar, "time", "TIME"⟩,
   ⟨.scalar, "light_pass", "float(AT_LIGHT_PASS ? 1.0 : 0.0)"⟩]

def canvasFragmentInputs : List StageBuiltin :=
  [⟨.vector3, "fragcoord", "FRAGCOORD.xyz"⟩,
   ⟨.vector3, "uv", "vec3(UV, 0.0)"⟩,
   ⟨.vector3, "color", "COLOR.rgb"⟩,
   ⟨.scalar, "alpha", "COLOR.a"⟩,
   ⟨.vector3, "modulate_color", "MODULATE.rgb"⟩,
   ⟨.scalar, "modulate_alpha", "MODULATE.a"⟩,
   ⟨.vector3, "screen_uv", "vec3(SCREEN_UV, 0.0)"⟩,
   ⟨.vector3, "texture_pixel_size", "vec3(TEXTURE_PIXEL_SIZE, 1.0)"⟩,
   ⟨.vector3, "screen_pixel_size", "vec3(SCREEN_PIXEL_SIZE, 1.0)"⟩,
   ⟨.vector3, "point_coord", "vec3(POINT_COORD, 0.0)"⟩,
   ⟨.scalar, "time", "TIME"⟩,
   ⟨.scalar, "light_pass", "float(AT_LIGHT_PASS ? 1.0 : 0.0)"⟩,
   ⟨.sampler2D, "texture", "TEXTURE"⟩,
   ⟨.sampler2D, "normal_texture", "NORMAL_TEXTURE"⟩,
   ⟨.sampler2D, "screen_texture", "SCREEN_TEXTURE"⟩]

def canvasLightInputs : List StageBuiltin :=
  [⟨.vector3, "fragcoord", "FRAGCOORD.xyz"⟩,
   ⟨.vector3, "uv", "vec3(UV, 0.0)"⟩,
   ⟨.vector3, "normal", "NORMAL"⟩,
   ⟨.vector3, "color", "COLOR.rgb"⟩,
   ⟨.scalar, "alpha", "COLOR.a"⟩,
   ⟨.vector3, "modulate_color", "MODULATE.rgb"⟩,
   ⟨.scalar, "modulate_alpha", "MODULATE.a"⟩,
   ⟨.vector3, "light_vec", "vec3(LIGHT_VEC, 0.0)"⟩,
   ⟨.scalar, "light_height", "LIGHT_HEIGHT"⟩,
   ⟨.vector3, "light_color", "LIGHT_COLOR.rgb"⟩,
   ⟨.scalar, "light_alpha", "LIGHT_COLOR.a"⟩,
   ⟨.vector3, "light_uv", "vec3(LIGHT_UV, 0.0)"⟩,
   ⟨.vector3, "shadow_color", "SHADOW_COLOR.rgb"⟩,
   ⟨.scalar, "shadow_alpha", "SHADOW_COLOR.a"⟩,
   ⟨.vector3, "shadow_vec", "vec3(SHADOW_VEC, 0.0)"⟩,
   ⟨.vector3, "screen_uv", "vec3(SCREEN_UV, 0.0)"⟩,
   ⟨.vector3, "texture_pixel_size", "vec3(TEXTURE_PIXEL_SIZE, 1.0)"⟩,
   ⟨.vector3, "point_coord", "vec3(POINT_COORD, 0.0)"⟩,
   ⟨.scalar, "time", "TIME"⟩,
   ⟨.sampler2D, "texture", "TEXTURE"⟩]

def particlesVertexInputs : List StageBuiltin :=
  [⟨.vector3, "color", "COLOR.rgb"⟩,
   ⟨.scalar, "alpha", "COLOR.a"⟩,
   ⟨.vector3, "velocity", "VELOCITY"⟩,
   ⟨.scalar, "restart", "float(RESTART ? 1.0 : 0.0)"⟩,
   ⟨.scalar, "active", "float(ACTIVE ? 1.0 : 0.0)"⟩,
   ⟨.vector3, "custom", "CUSTOM.rgb"⟩,
   ⟨.scalar, "custom_alpha", "CUSTOM.a"⟩,
   ⟨.transform, "transform", "TRANSFORM"⟩,
   ⟨.scalar, "delta", "DELTA"⟩,
   ⟨.scalar, "lifetime", "LIFETIME"⟩,
   ⟨.scalar, "index", "float(INDEX)"⟩,
   ⟨.transform, "emission_transform", "EMISSION_TRANSFORM"⟩,
   ⟨.scalar, "time", "TIME"⟩]

def spatialFragmentSubstitutes : List StageBuiltin :=
  [⟨.vector3, "normal", "vec3(0.0, 0.0, 1.0)"⟩,
   ⟨.vector3, "tangent", "vec3(0.0, 1.0, 0.0)"⟩,
   ⟨.vector3, "binormal", "vec3(1.0, 0.0, 0.0)"⟩,
   ⟨.vector3, "uv", "vec3(UV, 0.0)"⟩,
   ⟨.vector3, "uv2", "vec3(UV, 0.0)"⟩,
   ⟨.vector3, "color", "vec3(1.0)"⟩,
   ⟨.scalar, "alpha", "1.0"⟩,
   ⟨.vector3, "screen_uv", "vec3(SCREEN_UV, 0.0)"⟩,
   ⟨.scalar, "side", "1.0"⟩,
   ⟨.scalar, "time", "TIME"⟩,
   ⟨.vector3, "viewport_size", "vec3(1.0, 1.0, 0.0)"⟩]

def spatialLightSubstitutes : List StageBuiltin :=
  [⟨.vector3, "normal", "vec3(0.0, 0.0, 1.0)"⟩,
   ⟨.scalar, "time", "TIME"⟩,
   ⟨.vector3, "viewport_size", "vec3(1.0, 1.0, 0.0)"⟩]

def canvasVertexSubstitutes : List StageBuiltin :=
  [⟨.vector3, "vertex", "vec3(VERTEX, 0.0)"⟩,
   ⟨.vector3, "uv", "vec3(UV, 0.0)"⟩,
   ⟨.vector3, "color", "vec3(1.0)"⟩,
   ⟨.scalar, "alpha", "1.0"⟩,
   ⟨.scalar, "time", "TIME"⟩]

def canvasFragmentSubstitutes : List StageBuiltin :=
  [⟨.vector3, "uv", "vec3(UV, 0.0)"⟩,
   ⟨.vector3, "color", "vec3(1.0)"⟩,
   ⟨.scalar, "alpha", "1.0"⟩,
   ⟨.vector3, "screen_uv", "vec3(SCREEN_UV, 0.0)"⟩,
   ⟨.scalar, "time", "TIME"⟩]

def canvasLightSubstitutes : List StageBuiltin :=
  [⟨.vector3, "uv", "vec3(UV, 0.0)"⟩,
   ⟨.vector3, "normal", "vec3(0.0, 0.0, 1.0)"⟩,
   ⟨.vector3, "color", "vec3(1.0)"⟩,
   ⟨.scalar, "alpha", "1.0"⟩,
   ⟨.vector3, "screen_uv", "vec3(SCREEN_UV, 0.0)"⟩,
   ⟨.scalar, "time", "TIME"⟩]

def particlesVertexSubstitutes : List StageBuiltin :=
  [⟨.vector3, "color", "vec3(1.0)"⟩,
   ⟨.scalar, "alpha", "1.0"⟩,
   ⟨.vector3, "velocity", "vec3(0.0, 0.0, 1.0)"⟩,
   ⟨.scalar, "time", "TIME"⟩]

def spatialVertexOutputs : List StageBuiltin :=
  [⟨.vector3, "vertex", "VERTEX"⟩,
   ⟨.vector3, "normal", "NORMAL"⟩,
   ⟨.vector3, "tangent", "TANGENT"⟩,
   ⟨.vector3, "binormal", "BINORMAL"⟩,
   ⟨.vector3, "uv", "UV:xy"⟩,
   ⟨.vector3, "uv2", "UV2:xy"⟩,
   ⟨.vector3, "color", "COLOR.rgb"⟩,
   ⟨.scalar, "alpha", "COLOR.a"⟩,
   ⟨.scalar, "roughness", "ROUGHNESS"⟩]

def spatialFragmentOutputs : List StageBuiltin :=
  [⟨.vector3, "albedo", "ALBEDO"⟩,
   ⟨.scalar, "alpha", "ALPHA"⟩,
   ⟨.scalar, "metallic", "METALLIC"⟩,
   ⟨.scalar, "roughness", "ROUGHNESS"⟩,
   ⟨.scalar, "specular", "SPECULAR"⟩,
   ⟨.vector3, "emission", "EMISSION"⟩,
   ⟨.scalar, "ao", "AO"⟩,
   ⟨.vector3, "normal", "NORMAL"⟩,
   ⟨.vector3, "normalmap", "NORMALMAP"⟩,
   ⟨.scalar, "normalmap_depth", "NORMALMAP_DEPTH"⟩,
   ⟨.scalar, "rim", "RIM"⟩,
   ⟨.scalar, "rim_tint", "RIM_TINT"⟩,
   ⟨.scalar, "clearcoat", "CLEARCOAT"⟩,
   ⟨.scalar, "clearcoat_gloss", "CLEARCOAT_GLOSS"⟩,
   ⟨.scalar, "anisotropy", "ANISOTROPY"⟩,
   ⟨.vector3, "anisotropy_flow", "ANISOTROPY_FLOW:xy"⟩,
   ⟨.scalar, "subsurf_scatter", "SSS_STRENGTH"⟩,
   ⟨.vector3, "transmission", "TRANSMISSION"⟩,
   ⟨.scalar, "alpha_scissor", "ALPHA_SCISSOR"⟩,
   ⟨.scalar, "ao_light_affect", "AO_LIGHT_AFFECT"⟩]

def spatialLightOutputs : List StageBuiltin :=
  [⟨.vector3, "diffuse", "DIFFUSE_LIGHT"⟩,
   ⟨.vector3, "specular", "SPECULAR_LIGHT"⟩]

def canvasVertexOutputs : List StageBuiltin :=
  [⟨.vector3, "vertex", "VERTEX:xy"⟩,
   ⟨.vector3, "uv", "UV:xy"⟩,
   ⟨.vector3, "color", "COLOR.rgb"⟩,
   ⟨.scalar, "alpha", "COLOR.a"⟩]

def canvasFragmentOutputs : List StageBuiltin :=
  [⟨.vector3, "color", "COLOR.rgb"⟩,
   ⟨.scalar, "alpha", "COLOR.a"⟩,
   ⟨.vector3, "normal", "NORMAL"⟩,
   ⟨.vector3, "normalmap", "NORMALMAP"⟩,
   ⟨.scalar, "normalmap_depth", "NORMALMAP_DEPTH"⟩]

def canvasLightOutputs : List StageBuiltin :=
  [⟨.vector3, "light", "LIGHT.rgb"⟩,
   ⟨.scalar, "light_alpha", "LIGHT.a"⟩]

def particlesVertexOutputs : List StageBuiltin :=
  [⟨.vector3, "color", "COLOR.rgb"⟩,
   ⟨.scalar, "alpha", "COLOR.a"⟩,
   ⟨.vector3, "velocity", "VELOCITY"⟩,
   ⟨.vector3, "custom", "CUSTOM.rgb"⟩,
   ⟨.scalar, "custom_alpha", "CUSTOM.a"⟩,
   ⟨.transform, "transform", "TRANSFORM"⟩]

/-- The built-ins that input nodes read. -/
def inputs : Mode → Stage → List StageBuiltin
  | .spatial, .vertex => spatialVertexInputs
  | .spatial, .fragment => spatialFragmentInputs
  | .spatial, .light => spatialLightInputs
  | .canvas, .vertex => canvasVertexInputs
  | .canvas, .fragment => canvasFragmentInputs
  | .canvas, .light => canvasLightInputs
  | .particles, .vertex => particlesVertexInputs
  | .particles, _ => []

/-- What a preview reads instead. -/
def substitutes : Mode → Stage → List StageBuiltin
  | .spatial, .vertex => []
  | .spatial, .fragment => spatialFragmentSubstitutes
  | .spatial, .light => spatialLightSubstitutes
  | .canvas, .vertex => canvasVertexSubstitutes
  | .canvas, .fragment => canvasFragmentSubstitutes
  | .canvas, .light => canvasLightSubstitutes
  | .particles, .vertex => particlesVertexSubstitutes
  | .particles, _ => []

/-- The built-ins that the output node writes. -/
def outputs : Mode → Stage → List StageBuiltin
  | .spatial, .vertex => spatialVertexOutputs
  | .spatial, .fragment => spatialFragmentOutputs
  | .spatial, .light => spatialLightOutputs
  | .canvas, .vertex => canvasVertexOutputs
  | .canvas, .fragment => canvasFragmentOutputs
  | .canvas, .light => canvasLightOutputs
  | .particles, .vertex => particlesVertexOutputs
  | .particles, _ => []

def find? (table : List StageBuiltin) (name : String) : Option StageBuiltin :=
  table.find? (·.name = name)

end StageBuiltin

end ShadeGraph
