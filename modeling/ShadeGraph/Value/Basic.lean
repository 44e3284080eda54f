import ShadeGraph.Number.Single

/-! # Values and the types that ports carry -/

namespace ShadeGraph

/-- The types of data that flow between ports. -/
inductive PortType
  | scalar
  | vector3
  | boolean
  | transform
  | sampler2D
  | samplerCube
  deriving DecidableEq, Repr

namespace PortType

def all : List PortType := [.scalar, .vector3, .boolean, .transform, .sampler2D, .samplerCube]

def name : PortType → String
  | .scalar => "Scalar"
  | .vector3 => "Vector3"
  | .boolean => "Boolean"
  | .transform => "Transform"
  | .sampler2D => "Sampler2D"
  | .samplerCube => "SamplerCube"

def keyword : PortType → String
  | .scalar => "float"
  | .vector3 => "vec3"
  | .boolean => "bool"
  | .transform => "mat4"
  | .sampler2D => "sampler2D"
  | .samplerCube => "samplerCube"

def ofKeyword? (keyword : String) : Option PortType :=
  all.find? (·.keyword = keyword)

def isSampler : PortType → Bool
  | .sampler2D | .samplerCube => true
  | _ => false

/-- The literal written where there is nothing better; samplers have none. -/
def zeroLiteral : PortType → String
  | .scalar => "0.0"
  | .vector3 => "vec3(0.0)"
  | .boolean => "false"
  | .transform => "mat4(1.0)"
  | .sampler2D | .samplerCube => ""

/-- Whether some input of type `target` may be fed by an output of type `source`: a type feeds itself,
and a scalar a vector. -/
def feeds (source target : PortType) : Bool :=
  source = target || source = .scalar && target = .vector3

end PortType

structure Vec3 where
  x : Single
  y : Single
  z : Single
  deriving DecidableEq, Repr

namespace Vec3

def splat (v : Single) : Vec3 := ⟨v, v, v⟩

def zero : Vec3 := splat .zero

def toList (v : Vec3) : List Single := [v.x, v.y, v.z]

def agrees (v w : Vec3) : Bool := v.x.agrees w.x && v.y.agrees w.y && v.z.agrees w.z

end Vec3

structure Color where
  r : Single
  g : Single
  b : Single
  a : Single
  deriving DecidableEq, Repr

namespace Color

def white : Color := ⟨.one, .one, .one, .one⟩

def rgb (c : Color) : Vec3 := ⟨c.r, c.g, c.b⟩

def toList (c : Color) : List Single := [c.r, c.g, c.b, c.a]

def agrees (c d : Color) : Bool := c.rgb.agrees d.rgb && c.a.agrees d.a

end Color

/-- An affine transform: the rows of its basis, and its origin. -/
structure Transform where
  row0 : Vec3
  row1 : Vec3
  row2 : Vec3
  origin : Vec3
  deriving DecidableEq, Repr

namespace Transform

def identity : Transform :=
  ⟨⟨.one, .zero, .zero⟩, ⟨.zero, .one, .zero⟩, ⟨.zero, .zero, .one⟩, .zero⟩

def column0 (t : Transform) : Vec3 := ⟨t.row0.x, t.row1.x, t.row2.x⟩

def column1 (t : Transform) : Vec3 := ⟨t.row0.y, t.row1.y, t.row2.y⟩

def column2 (t : Transform) : Vec3 := ⟨t.row0.z, t.row1.z, t.row2.z⟩

/-- The rows of the basis, then the origin. -/
def toList (t : Transform) : List Single :=
  t.row0.toList ++ t.row1.toList ++ t.row2.toList ++ t.origin.toList

def ofList? : List Single → Option Transform
  | [a, b, c, d, e, f, g, h, i, x, y, z] => some ⟨⟨a, b, c⟩, ⟨d, e, f⟩, ⟨g, h, i⟩, ⟨x, y, z⟩⟩
  | _ => none

@[simp] theorem ofList?_toList (t : Transform) : ofList? t.toList = some t := rfl

def agrees (t u : Transform) : Bool :=
  t.row0.agrees u.row0 && t.row1.agrees u.row1 && t.row2.agrees u.row2 && t.origin.agrees u.origin

end Transform

structure Position where
  x : Single
  y : Single
  deriving DecidableEq, Repr

namespace Position

def origin : Position := ⟨.zero, .zero⟩

def toList (p : Position) : List Single := [p.x, p.y]

def agrees (p q : Position) : Bool := p.x.agrees q.x && p.y.agrees q.y

end Position

/-- The value of an input port that nothing feeds. -/
inductive PortValue
  | scalar (value : Single)
  | vector3 (value : Vec3)
  | boolean (value : Bool)
  | transform (value : Transform)
  deriving DecidableEq, Repr

namespace PortValue

def type : PortValue → PortType
  | .scalar _ => .scalar
  | .vector3 _ => .vector3
  | .boolean _ => .boolean
  | .transform _ => .transform

/-- The zero of a type; the identity for transforms, none for samplers. -/
def zero? : PortType → Option PortValue
  | .scalar => some (.scalar .zero)
  | .vector3 => some (.vector3 .zero)
  | .boolean => some (.boolean false)
  | .transform => some (.transform .identity)
  | .sampler2D | .samplerCube => none

def agrees : PortValue → PortValue → Bool
  | .scalar v, .scalar w => v.agrees w
  | .vector3 v, .vector3 w => v.agrees w
  | .boolean v, .boolean w => v == w
  | .transform v, .transform w => v.agrees w
  | _, _ => false

end PortValue

end ShadeGraph
