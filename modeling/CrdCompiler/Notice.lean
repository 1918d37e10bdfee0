import CrdCompiler.Assembly
import CrdCompiler.Log

/-!
What is worth telling while a definition is assembled: that all versions but the first are left
aside, that a default is left aside because its property is no scalar, and that a document is
complete. Notices come in the order in which properties are resolved, up to the first error.
-/

namespace CrdCompiler

inductive Notice where
  | severalVersions (kind compiled : String) (ignored : List String)
  | ignoredDefault (path : SchemaPath)
  | assembled (package : String) (specCount statusCount : Nat)
deriving Repr

def Notice.logEntry : Notice → LogEntry
  | .severalVersions kind compiled ignored => {
      level := .warn
      message := "CRD declares several versions; only the first is compiled"
      values := [("kind", kind), ("compiled", compiled), ("ignored", Text.quotedList ignored)] }
  | .ignoredDefault path => {
      level := .debug
      message := "ignoring default on non-scalar property"
      values := [("path", path.text)] }
  | .assembled package specCount statusCount => {
      level := .debug
      message := "assembled document"
      values := [("package", package), ("spec", toString specCount),
        ("status", toString statusCount)] }

namespace Resolver

mutual

def ignoredBelow (resolver : Resolver) (path : SchemaPath) (depth : Nat) :
    SchemaNode → List SchemaPath
  | { type, properties, additionalProperties, items, .. } =>
    if type = some "object" then
      match additionalProperties with
      | .flag true => []
      | .schema values =>
        if properties.isEmpty then resolver.ignoredBelow path depth values else []
      | _ =>
        if depth + 1 < resolver.maxDepth then resolver.ignoredAmong path (depth + 1) properties
        else []
    else if type = some "array" then
      match items with
      | none => []
      | some elements => resolver.ignoredBelow path depth elements
    else []

def ignoredAmong (resolver : Resolver) (path : SchemaPath) (depth : Nat) :
    List (String × SchemaNode) → List SchemaPath
  | [] => []
  | (name, node) :: rest =>
    resolver.ignoredBelow (path.child name) depth node ++
      match resolver.typeOf .property (path.child name) depth node with
      | .error _ => []
      | .ok (type, _) =>
        match Metadata.derive node false type.scalarKind? (path.child name) with
        | .error _ => []
        | .ok _ =>
          (if type.scalarKind?.isNone && node.default.isSome then [path.child name] else []) ++
            resolver.ignoredAmong path depth rest

end

def ignoredDefaults (resolver : Resolver) (node : SchemaNode) (path : SchemaPath) :
    List SchemaPath :=
  if resolver.maxDepth = 0 then [] else resolver.ignoredAmong path 0 node.properties

end Resolver

namespace Assembly

def subtreeNotices (resolver : Resolver) (node : SchemaNode) (path : SchemaPath)
    (afterwards : List Property → List Notice) : List Notice :=
  (resolver.ignoredDefaults node path).map .ignoredDefault ++
    match resolver.resolveProperties node path with
    | .ok properties => afterwards properties
    | .error _ => []

def notices (definition : CustomResourceDefinition) (maxDepth : Nat) : List Notice :=
  match definition.versions with
  | [] => []
  | version :: others =>
    (if others.isEmpty then []
      else [.severalVersions definition.names.kind version.name (others.map (·.name))]) ++
      match subtrees version with
      | .error _ => []
      | .ok (spec, status) =>
        subtreeNotices ⟨false, maxDepth⟩ spec specPath fun specProperties =>
          subtreeNotices ⟨true, maxDepth⟩ status statusPath fun statusProperties =>
            [.assembled
              (Document.packageIdentifierFor definition.group definition.names.kind version.name)
              specProperties.length statusProperties.length]

end Assembly

end CrdCompiler
