/-!
Lists of named members, one for each name, in an order that matters.
-/

namespace CrdCompiler

/-- A member takes the place of the one with the same name, or comes last. -/
def putMember (members : List (String × α)) (name : String) (value : α) : List (String × α) :=
  match members with
  | [] => [(name, value)]
  | (first, held) :: rest =>
    if first = name then (name, value) :: rest else (first, held) :: putMember rest name value

end CrdCompiler
