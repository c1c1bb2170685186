import Introspection.Info.Views

/-!
# Describing callables

A callable is described as `name(self, a: type, out b: type?) -> type throws`: the instance
first for methods, each argument with its direction (when not in), name, type and `?` when it
may be null, the return type unless it is hidden or plain void, and `throws` when the callable
takes an error argument.
-/

namespace Introspection.Info

open Introspection.Typelib Introspection.Repository

def describe (name : String) (c : Info) : RepoM String := do
  let r ← get
  let mut parts : List String := if Info.isMethod r c then ["self"] else []
  for a in Info.args r c do
    let r ← get
    let dir := match Info.direction r a with
      | .output => "out "
      | .inout => "inout "
      | .input => ""
    let ty ← Info.typeString (Info.argType a)
    let r ← get
    parts := parts ++ [dir ++ Info.name r a ++ ": " ++ ty ++ (if Info.mayBeNull r a then "?" else "")]
  let mut out := name ++ "(" ++ ", ".intercalate parts ++ ")"
  let r ← get
  if !Info.skipReturn r c then
    let rt := Info.returnType r c
    if Info.tag r rt != .void || Info.isPointer r rt then
      out := out ++ " -> " ++ (← Info.typeString rt)
  if Info.canThrow (← get) c then out := out ++ " throws"
  return out

end Introspection.Info
