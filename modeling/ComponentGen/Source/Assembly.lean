import ComponentGen.Source.Declaration

/-!
# Assembling declarations

Classes and members are put together from an empty declaration, one statement at a time.  An
annotation that is given again replaces the earlier one of the same name; everything else adds to
what is there.
-/

namespace ComponentGen.Source

namespace Metadata

/-- Sets the comment. -/
def withDoc (m : Metadata) (doc : String) : Metadata := { m with doc := some doc }

/-- Adds a tag. -/
def withTag (m : Metadata) (name value : String) : Metadata :=
  { m with tags := m.tags ++ [{ name, value }] }

/-- Sets an annotation. -/
def annotating (m : Metadata) (name : String) (values : AnnotationValues) : Metadata :=
  { m with annotations := m.annotations.insert name values }

end Metadata

namespace Member

/-- Sets the return type. -/
def returning (m : Member) (type : TypeName) : Member := { m with returnType := some type }

/-- Adds a parameter. -/
def withParameter (m : Member) (name : String) (type : TypeName) : Member :=
  { m with parameters := m.parameters ++ [{ name, type }] }

/-- Adds a fault. -/
def withFault (m : Member) (type : TypeName) : Member := { m with faults := m.faults ++ [type] }

/-- Changes what the member says about itself. -/
def withMetadata (m : Member) (change : Metadata → Metadata) : Member :=
  { m with toMetadata := change m.toMetadata }

end Member

namespace Class

/-- Adds an interface that the class implements. -/
def implementing (c : Class) (type : String) : Class :=
  { c with interfaces := c.interfaces ++ [type] }

/-- Adds a supertype. -/
def extending (c : Class) (type : String) : Class :=
  { c with supertypes := c.supertypes ++ [type] }

/-- Adds a member. -/
def withMember (c : Class) (m : Member) : Class := { c with members := c.members ++ [m] }

/-- Changes what the class says about itself. -/
def withMetadata (c : Class) (change : Metadata → Metadata) : Class :=
  { c with toMetadata := change c.toMetadata }

end Class

end ComponentGen.Source
