import QueryByName.Text.Affix

/-!
# Types of Java source

A type is a qualified name with type arguments.  Primitive types carry their keyword as the
name.

* `display` writes the qualified names, `source` the simple ones.
* The order compares names first and then the arguments one by one.
* The predicates sort types into the classes that finder keywords and queries depend on.
-/

namespace QueryByName.Java

/-- A type with its arguments, such as a set of tags. -/
structure TypeExpr where
  name : String
  arguments : List TypeExpr

namespace TypeExpr

def named (name : String) : TypeExpr :=
  ⟨name, []⟩

instance : Inhabited TypeExpr := ⟨named "java.lang.Object"⟩

/-! ## Equality -/

mutual

def same : TypeExpr → TypeExpr → Bool
  | ⟨leftName, leftArguments⟩, ⟨rightName, rightArguments⟩ =>
    leftName == rightName && sameAll leftArguments rightArguments

def sameAll : List TypeExpr → List TypeExpr → Bool
  | [], [] => true
  | left :: lefts, right :: rights => same left right && sameAll lefts rights
  | _, _ => false

end

mutual

theorem same_eq_true_iff : ∀ left right : TypeExpr, same left right = true ↔ left = right
  | ⟨leftName, leftArguments⟩, ⟨rightName, rightArguments⟩ => by
      simp [same, sameAll_eq_true_iff leftArguments rightArguments]

theorem sameAll_eq_true_iff :
    ∀ lefts rights : List TypeExpr, sameAll lefts rights = true ↔ lefts = rights
  | [], [] => by simp [sameAll]
  | [], _ :: _ => by simp [sameAll]
  | _ :: _, [] => by simp [sameAll]
  | left :: lefts, right :: rights => by
      simp [sameAll, same_eq_true_iff left right, sameAll_eq_true_iff lefts rights]

end

instance : DecidableEq TypeExpr := fun left right =>
  decidable_of_iff (same left right = true) (same_eq_true_iff left right)

/-! ## Order -/

mutual

def order : TypeExpr → TypeExpr → Ordering
  | ⟨leftName, leftArguments⟩, ⟨rightName, rightArguments⟩ =>
    (compare leftName rightName).then (orderAll leftArguments rightArguments)

/-- Compares two lists of types at the first place where they differ; a list that ends there
comes first. -/
def orderAll : List TypeExpr → List TypeExpr → Ordering
  | [], [] => .eq
  | [], _ :: _ => .lt
  | _ :: _, [] => .gt
  | left :: lefts, right :: rights => (order left right).then (orderAll lefts rights)

end

/-! ## Written forms -/

mutual

/-- The type with all names in full. -/
def display : TypeExpr → String
  | ⟨name, arguments⟩ => name ++ displayArguments arguments

/-- The arguments in angle brackets; nothing if there are none. -/
def displayArguments : List TypeExpr → String
  | [] => ""
  | first :: rest => "<" ++ display first ++ displayMore rest ++ ">"

def displayMore : List TypeExpr → String
  | [] => ""
  | next :: rest => ", " ++ display next ++ displayMore rest

end

/-- The part of the name after its last dot. -/
def simpleName (type : TypeExpr) : String :=
  Text.afterLast '.' type.name

mutual

/-- The type as source code writes it under imports, with simple names only. -/
def source : TypeExpr → String
  | ⟨name, arguments⟩ => Text.afterLast '.' name ++ sourceArguments arguments

/-- The arguments in angle brackets; nothing if there are none. -/
def sourceArguments : List TypeExpr → String
  | [] => ""
  | first :: rest => "<" ++ source first ++ sourceMore rest ++ ">"

def sourceMore : List TypeExpr → String
  | [] => ""
  | next :: rest => ", " ++ source next ++ sourceMore rest

end

/-! ## Classes of types -/

def primitiveNames : List String :=
  ["boolean", "byte", "char", "short", "int", "long", "float", "double", "void"]

/-- The types of numbers and of points in time. -/
def quantityNames : List String :=
  ["short", "int", "long", "float", "double", "java.lang.Short", "java.lang.Integer",
    "java.lang.Long", "java.lang.Float", "java.lang.Double", "java.math.BigInteger",
    "java.math.BigDecimal", "java.util.Date", "java.util.Calendar", "java.sql.Date",
    "java.sql.Timestamp"]

def collectionNames : List String :=
  ["java.util.Collection", "java.util.List", "java.util.ArrayList", "java.util.LinkedList",
    "java.util.Set", "java.util.HashSet", "java.util.LinkedHashSet", "java.util.SortedSet",
    "java.util.TreeSet", "java.util.Vector"]

def mapNames : List String :=
  ["java.util.Map", "java.util.HashMap", "java.util.LinkedHashMap", "java.util.SortedMap",
    "java.util.TreeMap"]

def isPrimitive (type : TypeExpr) : Bool :=
  primitiveNames.contains type.name

def isString (type : TypeExpr) : Bool :=
  type.name == "java.lang.String"

def isBoolean (type : TypeExpr) : Bool :=
  type.name == "boolean" || type.name == "java.lang.Boolean"

def isQuantity (type : TypeExpr) : Bool :=
  quantityNames.contains type.name

def isCollection (type : TypeExpr) : Bool :=
  collectionNames.contains type.name

def isMap (type : TypeExpr) : Bool :=
  mapNames.contains type.name

end TypeExpr

end QueryByName.Java
