import Mathlib.Data.Rat.Defs

set_option autoImplicit false

namespace SpectralLine

-- YAML::Node as the program reads it. A node that a lookup did not find is
-- undefined, `none` below.
inductive YamlNode where
  | null
  | scalar (text : String)
  | sequence (items : List YamlNode)
  | mapping (entries : List (String × YamlNode))

namespace YamlNode

def isScalar : Option YamlNode → Bool
  | some (scalar _) => true
  | _ => false

def isSequence : Option YamlNode → Bool
  | some (sequence _) => true
  | _ => false

def isMap : Option YamlNode → Bool
  | some (mapping _) => true
  | _ => false

def isNull : Option YamlNode → Bool
  | some null => true
  | _ => false

def find (key : String) : List (String × YamlNode) → Option YamlNode
  | [] => none
  | (name, node) :: rest => if name = key then some node else find key rest

def items : Option YamlNode → List YamlNode
  | some (sequence nodes) => nodes
  | _ => []

end YamlNode

-- yaml-cpp: the texts of its exceptions and the conversions of as<T>, which
-- fail on an undefined node or an unsuitable text.
structure YamlCpp (F : Type) where
  badSubscript : String → String
  invalidNode : String → String
  asBool : Option YamlNode → Except String Bool
  asInt : Option YamlNode → Except String Int
  asSize : Option YamlNode → Except String Nat
  asDouble : Option YamlNode → Except String F
  asString : Option YamlNode → Except String String
  intRange : ∀ (node : Option YamlNode) (value : Int), asInt node = .ok value → -2147483648 ≤ value ∧ value < 2147483648

namespace YamlCpp

variable {F : Type} (yaml : YamlCpp F)

-- node[key]
def get (node : Option YamlNode) (key : String) : Except String (Option YamlNode) :=
  match node with
  | none => .error (yaml.invalidNode key)
  | some (.scalar _) => .error (yaml.badSubscript key)
  | some (.mapping entries) => .ok (YamlNode.find key entries)
  | some _ => .ok none

-- `if (node[key]) field = node[key].as<T>()`
def optional {T : Type} (node : Option YamlNode) (key : String) (convert : Option YamlNode → Except String T) (field : T) :
    Except String T := do
  let child ← yaml.get node key
  if child.isSome then convert child else .ok field

end YamlCpp

-- The double arithmetic of the program: exact, or rounded as IEEE-754 has it.
-- lit is a literal or a converted integer, floatBits the bits after a
-- conversion to float.
structure DoubleOps (F : Type) where
  lit : ℚ → F
  add : F → F → F
  sub : F → F → F
  mul : F → F → F
  div : F → F → F
  abs : F → F
  le : F → F → Bool
  lt : F → F → Bool
  isFinite : F → Bool
  llround : F → Int
  toInt : F → Int
  bits : F → BitVec 64
  floatBits : F → BitVec 32

end SpectralLine
