import CrdCompiler.HelperSet
import CrdCompiler.Text.Case

/-!
Documents: everything a renderer needs to know about one resource.
-/

namespace CrdCompiler

structure Document where
  group : String
  version : String
  kind : String
  resourceName : String
  resourceNamePlural : String
  packageIdentifier : String
  specProperties : List Property
  statusProperties : List Property
  helpers : HelperSet
deriving Repr

namespace Document

/-- Group, kind and version joined by underscores: the points of the group become underscores, kind
and version are lower-cased. -/
def packageIdentifierFor (group kind version : String) : String :=
  String.ofList (group.toList.map fun character => if character = '.' then '_' else character) ++
    "_" ++ Text.lowercase kind ++ "_" ++ Text.lowercase version

end Document

end CrdCompiler
