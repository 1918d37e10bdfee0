import CrdCompiler.Schema.Node

/-!
Custom resource definitions, as far as the compiler looks at them.
-/

namespace CrdCompiler

structure ResourceNames where
  kind : String
  plural : String
deriving Repr

structure ResourceVersion where
  name : String
  schema : Option SchemaNode
deriving Repr

structure CustomResourceDefinition where
  apiVersion : Option String
  kind : Option String
  group : String
  names : ResourceNames
  versions : List ResourceVersion
deriving Repr

end CrdCompiler
