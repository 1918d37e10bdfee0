/-!
Where in a schema something stands: the property names from the root down.
-/

namespace CrdCompiler

structure SchemaPath where
  segments : List String
deriving DecidableEq, Repr

namespace SchemaPath

def empty : SchemaPath := ⟨[]⟩

def root (name : String) : SchemaPath := ⟨[name]⟩

def child (path : SchemaPath) (name : String) : SchemaPath := ⟨path.segments ++ [name]⟩

def length (path : SchemaPath) : Nat := path.segments.length

def isEmpty (path : SchemaPath) : Bool := path.segments.isEmpty

def text (path : SchemaPath) : String :=
  if path.isEmpty then "(root)" else String.intercalate "." path.segments

example : ((root "spec").child "region").text = "spec.region" := by decide

end SchemaPath

end CrdCompiler
