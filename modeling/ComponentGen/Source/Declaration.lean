import ComponentGen.Naming.Identifier
import ComponentGen.Source.Metadata

/-!
# Declarations

The classes of a source tree with their members, as far as documents are made from them, and
the questions that are asked about them: whether a member gets or sets a property and which one,
whether a class can be a service, which types it is.
-/

namespace ComponentGen.Source

open Text Naming

/-- Who may use a declaration. -/
inductive Visibility where
  | isPublic
  | nonPublic
  deriving Repr, DecidableEq, Inhabited

/-- A type as it is named in a source; it may not have been found. -/
structure TypeName where
  name : String
  resolved : Bool := true
  deriving Repr, DecidableEq, Inhabited

/-- The type of all objects, which stands for types that were not found. -/
def objectType : String := "java.lang.Object"

/-- The type of everything that can be thrown. -/
def throwableType : String := "java.lang.Throwable"

/-- The qualified name of a type. -/
def TypeName.qualified (t : TypeName) : String :=
  if t.resolved && !isBlank t.name then t.name else objectType

/-- The last part of the qualified name, without type arguments. -/
def TypeName.simple (t : TypeName) : String :=
  lastSegment '.' (firstSegment '<' t.qualified)

/-- A parameter of a member. -/
structure Parameter where
  name : String
  type : TypeName
  deriving Repr, DecidableEq, Inhabited

/-- A method or constructor.  Without a return type it is void. -/
structure Member extends Metadata where
  name : String
  visibility : Visibility := .isPublic
  isStatic : Bool := false
  isAbstract : Bool := false
  isConstructor : Bool := false
  parameters : List Parameter := []
  returnType : Option TypeName := none
  faults : List TypeName := []
  deriving Repr, Inhabited

/-- A class or interface.  Its supertypes are listed from the nearest one on. -/
structure Class extends Metadata where
  qualifiedName : String
  visibility : Visibility := .isPublic
  isAbstract : Bool := false
  isInterface : Bool := false
  interfaces : List String := []
  supertypes : List String := []
  members : List Member := []
  deriving Repr, Inhabited

/-! ## Properties -/

/-- What follows a verb in the name of a method, if it starts with a capital of ASCII. -/
def afterVerb? (verb name : String) : Option String :=
  (afterPrefix? verb name).filter fun rest => rest.toList.head?.any Char.isUpper

/-- What a getter's name says behind its verb. -/
def getterSubject? (name : String) : Option String :=
  (afterVerb? "get" name).or (afterVerb? "is" name)

/-- What a setter's name says behind its verb. -/
def setterSubject? (name : String) : Option String := afterVerb? "set" name

namespace Member

/-- Whether everyone may use the member. -/
def isPublic (m : Member) : Bool := m.visibility == .isPublic

/-- Whether the member returns nothing. -/
def isVoid (m : Member) : Bool := m.returnType.isNone

/-- Whether the member reads a property: it is called on an object, takes nothing, returns
something and is named so. -/
def isAccessor (m : Member) : Bool :=
  !m.isStatic && !m.isConstructor && m.parameters.isEmpty && !m.isVoid &&
    (getterSubject? m.name).isSome

/-- Whether the member writes a property: it is called on an object, takes one value, returns
nothing and is named so. -/
def isMutator (m : Member) : Bool :=
  !m.isStatic && !m.isConstructor && m.parameters.length == 1 && m.isVoid &&
    (setterSubject? m.name).isSome

/-- The name of the property that the member reads or writes. -/
def propertyName? (m : Member) : Option String :=
  if m.isAccessor then (getterSubject? m.name).map decapitalize
  else if m.isMutator then (setterSubject? m.name).map decapitalize
  else none

/-- The type of the property that the member reads or writes. -/
def propertyType? (m : Member) : Option TypeName :=
  if m.isAccessor then m.returnType
  else if m.isMutator then m.parameters.head?.map (·.type)
  else none

end Member

/-! ## Classes -/

namespace Class

/-- The name of the class without its package. -/
def simpleName (c : Class) : String := lastSegment '.' c.qualifiedName

/-- Whether everyone may use the class. -/
def isPublic (c : Class) : Bool := c.visibility == .isPublic

/-- Whether the class names an interface among those it implements. -/
def implementsType (c : Class) (type : String) : Bool := c.interfaces.contains type

/-- Whether the class is of a type: the class itself, a supertype or an interface. -/
def isA (c : Class) (type : String) : Bool :=
  c.qualifiedName == type || c.supertypes.contains type || c.implementsType type

end Class

/-- Why a class cannot be a service. -/
inductive Ineligibility where
  | notPublic
  | isAbstract
  | isInterface
  | isThrowable
  deriving Repr, DecidableEq

/-- The wording of the reason. -/
def Ineligibility.text : Ineligibility → String
  | .notPublic => "class is not public"
  | .isAbstract => "class is abstract"
  | .isInterface => "type is an interface"
  | .isThrowable => "class is a throwable"

/-- The first reason why a class cannot be a service, if there is one. -/
def Class.ineligibility? (c : Class) : Option Ineligibility :=
  if !c.isPublic then some .notPublic
  else if c.isAbstract then some .isAbstract
  else if c.isInterface then some .isInterface
  else if c.isA throwableType then some .isThrowable
  else none

end ComponentGen.Source
