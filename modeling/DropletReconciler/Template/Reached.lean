import DropletReconciler.Template.Path
import DropletReconciler.Value.Access

/-!
What the names of replacement fields lead to: values, the classes of values, and what those lead to.
-/

namespace DropletReconciler.Template

/-- A class of values, or one of what is found around them. -/
inductive Class where
  | ofKind (kind : Value.Kind)
  | ofGroups
  | ofClasses
  | ofNarrowed
  | ofTraits
  | object
  deriving DecidableEq, Repr

namespace Class

def name : Class → String
  | .ofKind kind => kind.name
  | .ofGroups => "tuple"
  | .ofClasses => "type"
  | .ofNarrowed => "GenericAlias"
  | .ofTraits => "getset_descriptor"
  | .object => "object"

def home : Class → String
  | .ofKind .dateTime | .ofKind .date | .ofKind .time => "datetime"
  | .ofNarrowed => "types"
  | _ => "builtins"

/-- The name with that of its home, unless it is at home among the usual classes. -/
def fullName (c : Class) : String :=
  if c.home = "builtins" then c.name else c.home ++ "." ++ c.name

def shown (c : Class) : String := "<class '" ++ c.fullName ++ "'>"

/-- The class right above; there is none above all others. -/
def above? : Class → Option Class
  | .object => none
  | .ofKind .bool => some (.ofKind .int)
  | .ofKind .dateTime => some (.ofKind .date)
  | _ => some .object

/-- A class and all above it. -/
def line : Class → List Class
  | .object => [.object]
  | .ofKind .bool => [.ofKind .bool, .ofKind .int, .object]
  | .ofKind .dateTime => [.ofKind .dateTime, .ofKind .date, .object]
  | c => [c, .object]

/-- Classes of what holds something can be narrowed to what is held. -/
def canNarrow : Class → Bool
  | .ofKind .list | .ofKind .table | .ofGroups | .ofClasses => true
  | _ => false

/-- The class that gives numbers a trait of that name. -/
def traitOwner? (name : String) : Class → Option Class
  | .ofKind .int | .ofKind .bool =>
    if ["real", "imag", "numerator", "denominator"].contains name then some (.ofKind .int) else none
  | .ofKind .float => if ["real", "imag"].contains name then some (.ofKind .float) else none
  | _ => none

end Class

/-- What a part of a name leads to. A narrowed class has an argument, and a group may hold classes
or one value. -/
inductive Reached where
  | value (v : Value)
  | cls (c : Class)
  | narrowed (c : Class) (argument : Value)
  | trait (owner : Class) (name : String)
  | group (classes : List Class)
  | single (v : Value)
  deriving DecidableEq, Repr

/-- A part of a name that leads nowhere. -/
inductive ReachFault where
  | misuse (fault : Value.Misuse)
  | noClassMember (c : Class) (name : String)
  | noMember (c : Class) (name : String)
  | classItem (c : Class)
  | narrowedItem (text : String)
  | noItems (c : Class)
  | groupKey
  | groupRange
  deriving DecidableEq, Repr

def ReachFault.message : ReachFault → String
  | .misuse fault => fault.message
  | .noClassMember c name =>
    "type object '" ++ c.fullName ++ "' has no attribute '" ++ name ++ "'"
  | .noMember c name => "'" ++ c.fullName ++ "' object has no attribute '" ++ name ++ "'"
  | .classItem c => "type '" ++ c.fullName ++ "' is not subscriptable"
  | .narrowedItem text => text ++ " is not a generic class"
  | .noItems c => "'" ++ c.fullName ++ "' object is not subscriptable"
  | .groupKey => "tuple indices must be integers or slices, not str"
  | .groupRange => "tuple index out of range"

namespace Reached

def text (s : String) : Reached := .value (.text s)

def shown : Reached → String
  | .value v => v.shown
  | .cls c => c.shown
  | .narrowed c argument => c.name ++ "[" ++ argument.shown ++ "]"
  | .trait owner name => "<attribute '" ++ name ++ "' of '" ++ owner.name ++ "' objects>"
  | .group [c] => "(" ++ c.shown ++ ",)"
  | .group classes => Value.bracketed "(" ")" (classes.map Class.shown)
  | .single v => "(" ++ v.shown ++ ",)"

/-- The text of what was reached as it stands in a sentence. -/
def written : Reached → String
  | .value v => v.written
  | reached => reached.shown

/-- The class of what was reached. -/
def classOf : Reached → Class
  | .value v => .ofKind v.kind
  | .cls _ => .ofClasses
  | .narrowed _ _ => .ofNarrowed
  | .trait _ _ => .ofTraits
  | .group _ | .single _ => .ofGroups

end Reached

def intMember? (n : Int) : String → Option Value
  | "real" => some (.int n)
  | "numerator" => some (.int n)
  | "imag" => some (.int 0)
  | "denominator" => some (.int 1)
  | _ => none

/-- Numbers have the parts of a complex number, whole ones also those of a fraction. -/
def valueMember? (v : Value) (name : String) : Option Value :=
  match v with
  | .int n => intMember? n name
  | .bool b => intMember? (if b then 1 else 0) name
  | .float x =>
    if name = "real" then some (.float x)
    else if name = "imag" then some (.float (Binary64.zero false))
    else none
  | _ => none

def classMember? (c : Class) (name : String) : Option Reached :=
  match name with
  | "__name__" => some (.text c.name)
  | "__qualname__" => some (.text c.name)
  | "__module__" => some (.text c.home)
  | "__base__" => some ((c.above?.map .cls).getD (.value .null))
  | "__bases__" => some (.group c.above?.toList)
  | "__mro__" => some (.group c.line)
  | name => (c.traitOwner? name).map fun owner => .trait owner name

/-- A narrowed class has the members of the class as well. -/
def narrowedMember? (c : Class) (argument : Value) (name : String) : Option Reached :=
  match name with
  | "__origin__" => some (.cls c)
  | "__args__" => some (.single argument)
  | "__parameters__" => some (.group [])
  | name => classMember? c name

def traitMember? (owner : Class) (trait : String) (name : String) : Option Reached :=
  match name with
  | "__name__" => some (.text trait)
  | "__qualname__" => some (.text (owner.name ++ "." ++ trait))
  | "__objclass__" => some (.cls owner)
  | _ => none

/-- The member of a name. Whatever is reached has a class. -/
def memberOf (reached : Reached) (name : String) : Except ReachFault Reached :=
  if name = "__class__" then .ok (.cls reached.classOf)
  else
    match reached with
    | .value v =>
      (valueMember? v name).elim (.error (.misuse (.noMember v.kind name))) fun found =>
        .ok (.value found)
    | .cls c => (classMember? c name).elim (.error (.noClassMember c name)) .ok
    | .narrowed c argument =>
      (narrowedMember? c argument name).elim (.error (.noClassMember c name)) .ok
    | .trait owner trait =>
      (traitMember? owner trait name).elim (.error (.noMember reached.classOf name)) .ok
    | .group _ | .single _ => .error (.noMember reached.classOf name)

def narrow (c : Class) (argument : Value) : Except ReachFault Reached :=
  if c.canNarrow then .ok (.narrowed c argument) else .error (.classItem c)

def itemAt (reached : Reached) (n : Nat) : Except ReachFault Reached :=
  match reached with
  | .value v => ((v.item n).mapError .misuse).map .value
  | .cls c => narrow c (.int n)
  | .narrowed _ _ => .error (.narrowedItem reached.shown)
  | .trait _ _ => .error (.noItems reached.classOf)
  | .group classes => (classes[n]?).elim (.error .groupRange) fun c => .ok (.cls c)
  | .single v => if n = 0 then .ok (.value v) else .error .groupRange

def fieldOf (reached : Reached) (key : String) : Except ReachFault Reached :=
  match reached with
  | .value v => ((v.field key).mapError .misuse).map .value
  | .cls c => narrow c (.text key)
  | .narrowed _ _ => .error (.narrowedItem reached.shown)
  | .trait _ _ => .error (.noItems reached.classOf)
  | .group _ | .single _ => .error .groupKey

def Step.apply (reached : Reached) : Step → Except ReachFault Reached
  | .member name => memberOf reached name
  | .key name => fieldOf reached name
  | .index n => itemAt reached n

end DropletReconciler.Template
