import SchemaBinder.Naming
import SchemaBinder.Operation.Basic
/-!
# Interfaces

Operations whose groups give one name belong to one interface.  Interfaces are listed in the
order of their first operations, and the operations of one in the order of the document.  An
interface imports what its operations import.
-/

namespace SchemaBinder

namespace Interface

/-- The interface of one operation. -/
def ofOperation (name : String) (o : Operation) : Interface where
  name := name
  groupKey := o.groupKey
  operations := [o]
  imports := ImportSet.empty.extend o.imports.names

/-- The interface with one more operation. -/
def add (i : Interface) (o : Operation) : Interface :=
  { i with operations := i.operations ++ [o], imports := i.imports.extend o.imports.names }

/-- Adds an operation to the interface of a name, which is made if it is missing. -/
def place (name : String) (o : Operation) : List Interface → List Interface
  | [] => [ofOperation name o]
  | i :: rest => if i.name = name then i.add o :: rest else i :: place name o rest

/-- The interfaces of operations. -/
def ofOperations (names : NamePolicy) (operations : List Operation) : List Interface :=
  operations.foldl (fun is o => place (names.interfaceName o.groupKey) o is) []

end Interface

end SchemaBinder
