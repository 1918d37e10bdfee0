import CrdCompiler.Assembly
import CrdCompiler.Yaml.Reading

/-!
From the text of a schema file to a document.
-/

namespace CrdCompiler

/-- The definition in the first document of a text; the file name only labels errors. -/
def readDefinition (text file : String) : Except CompileError CustomResourceDefinition :=
  match CustomResourceDefinition.ofText? text with
  | some definition => .ok definition
  | none => .error (.unreadable file .malformed)

def compileText (text file : String) (maxDepth : Nat := 32) : Except CompileError Document := do
  assemble (← readDefinition text file) maxDepth

end CrdCompiler
