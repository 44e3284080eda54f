import ShadeGraph.Table
import ShadeGraph.Text.Basic

/-!
# Shader modes and render settings

A mode fixes the built-ins of every stage and which render settings may be chosen: of each group one
option, and any of the flags.
-/

namespace ShadeGraph

inductive Mode
  | spatial
  | canvas
  | particles
  deriving DecidableEq, Repr

/-- A group of render settings that exclude each other. -/
structure RenderGroup where
  name : String
  options : List String
  deriving DecidableEq, Repr

namespace Mode

def all : List Mode := [.spatial, .canvas, .particles]

/-- The word in a shader's first line. -/
def shaderType : Mode → String
  | .spatial => "spatial"
  | .canvas => "canvas_item"
  | .particles => "particles"

/-- The word in documents. -/
def documentName : Mode → String
  | .spatial => "spatial"
  | .canvas => "canvas"
  | .particles => "particles"

/-- Documents may use either word. -/
def ofDocumentName? (name : String) : Option Mode :=
  if name = "spatial" then some .spatial
  else if name = "canvas" || name = "canvas_item" then some .canvas
  else if name = "particles" then some .particles
  else none

@[simp] theorem ofDocumentName?_documentName (m : Mode) : ofDocumentName? m.documentName = some m := by
  cases m <;> decide

def renderGroups : Mode → List RenderGroup
  | .spatial =>
    [⟨"blend", ["blend_mix", "blend_add", "blend_sub", "blend_mul"]⟩,
     ⟨"depth_draw",
       ["depth_draw_opaque", "depth_draw_always", "depth_draw_never", "depth_draw_alpha_prepass"]⟩,
     ⟨"cull", ["cull_front", "cull_back", "cull_disabled"]⟩,
     ⟨"diffuse",
       ["diffuse_lambert", "diffuse_lambert_wrap", "diffuse_oren_nayar", "diffuse_burley", "diffuse_toon"]⟩,
     ⟨"specular",
       ["specular_schlick_ggx", "specular_blinn", "specular_phong", "specular_toon", "specular_disabled"]⟩,
     ⟨"async", ["async_visible", "async_hidden"]⟩]
  | .canvas =>
    [⟨"blend",
      ["blend_mix", "blend_add", "blend_sub", "blend_mul", "blend_premul_alpha", "blend_disabled"]⟩]
  | .particles => []

def renderFlags : Mode → List String
  | .spatial =>
    ["depth_test_disable", "unshaded", "skip_vertex_transform", "world_vertex_coords",
     "ensure_correct_normals", "shadows_disabled", "ambient_light_disabled", "shadow_to_opacity",
     "vertex_lighting"]
  | .canvas => ["skip_vertex_transform", "unshaded", "light_only"]
  | .particles => ["keep_data", "disable_force", "disable_velocity"]

def renderGroup? (m : Mode) (name : String) : Option RenderGroup :=
  m.renderGroups.find? (·.name = name)

/-- Whether a group of the mode has an option of this index. -/
def hasOption (m : Mode) (group : String) (option : Nat) : Bool :=
  (m.renderGroup? group).any (option < ·.options.length)

def hasFlag (m : Mode) (flag : String) : Bool :=
  m.renderFlags.contains flag

end Mode

/-- The chosen option of each group, by index, and the flags that are on, in the order of choice. -/
structure RenderSettings where
  options : Table String Nat
  flags : List String
  deriving DecidableEq

namespace RenderSettings

def empty : RenderSettings := ⟨.empty, []⟩

instance : Inhabited RenderSettings := ⟨empty⟩

/-- Turns a flag on; one that is on keeps its place. -/
def enable (r : RenderSettings) (flag : String) : RenderSettings :=
  if flag ∈ r.flags then r else { r with flags := r.flags ++ [flag] }

def disable (r : RenderSettings) (flag : String) : RenderSettings :=
  { r with flags := r.flags.erase flag }

/-- The keywords of the settings that the mode knows: its groups in order, then its flags in order. -/
def keywords (r : RenderSettings) (m : Mode) : List String :=
  (m.renderGroups.filterMap fun group =>
      (r.options.get? group.name).bind fun option => group.options[option]?) ++
    m.renderFlags.filter (r.flags.contains ·)

/-- The first lines of a shader: its type, and its render settings if there are any. -/
def header (r : RenderSettings) (m : Mode) : String :=
  let settings := match r.keywords m with
    | [] => ""
    | keywords => "render_mode " ++ Text.joinWith ", " keywords ++ ";\n"
  "shader_type " ++ m.shaderType ++ ";\n" ++ settings ++ "\n"

/-- The same options and the same flags, in whatever order. -/
def agrees (r s : RenderSettings) : Bool :=
  r.options.agrees (· == ·) s.options && r.flags.length == s.flags.length &&
    r.flags.all (s.flags.contains ·)

end RenderSettings

end ShadeGraph
