import StudyPlan.Json.Decode
import StudyPlan.Prereq.Node

/-!
# Prerequisite trees as data

A node is a record `type`, `subtype`, `value`, `childNodes`, all of which may be
missing.  A type that is not known, or not a text, is no type.  A value is a
number, a text or anything else; a null value or list of children is as good as
none.  Written, the children are always there and the rest only if present.
-/

namespace StudyPlan

namespace Prereq

open Json

/-- The value of a node as data. -/
def Operand.toJson : Operand → Json
  | .number x => .float x
  | .text s => .text s
  | .other v => v

/-- A data value as the value of a node. -/
def Operand.ofJson : Json → Operand
  | .int i => .number (Binary64.ofInt i)
  | .float x => .number x
  | .text s => .text s
  | v => .other v

namespace Node

/-- The names of the fields, in order. -/
def fieldNames : List String := ["type", "subtype", "value", "childNodes"]

/-- The kind that a part gives: none unless it is a text that names one. -/
def decodeKind? (depth : Nat) (d : Document) : Option (Option Kind) :=
  (d.value? depth).map fun
    | .text s => Kind.ofName? s
    | _ => none

mutual

/-- The node that a document spells. -/
def decode? : Nat → Document → Option Node
  | 0, _ => none
  | depth + 1, d => do
    let fields ← d.record? (depth + 1) fieldNames
    let kind ← fields.withDefault? "type" none (decodeKind? depth)
    let rule ← fields.optional? "subtype" fun d => d.text?.map Rule.ofName
    let value ← fields.optional? "value" fun d => (d.value? depth).map Operand.ofJson
    let children ← fields.withDefault? "childNodes" [] (decodeChildren? depth)
    return ⟨kind, rule, value, children⟩

/-- The children that a part gives. -/
def decodeChildren? : Nat → Document → Option (List Node)
  | _, .null => some []
  | 0, _ => none
  | depth + 1, .array items => items.mapM fun d => decode? depth d
  | _, _ => none

end

/-- The node that a data text spells. -/
def ofText? (s : String) : Option Node := (Document.ofText? s).bind (decode? nesting)

mutual

/-- The node as data. -/
def toJson : Node → Json
  | ⟨kind, rule, value, children⟩ =>
    .object (optionalField "type" (.text ·.name) kind ++
      optionalField "subtype" (.text ·.name) rule ++
      optionalField "value" Operand.toJson value ++
      [("childNodes", .array (toJsons children))])

/-- The nodes as data. -/
def toJsons : List Node → List Json
  | [] => []
  | n :: ns => toJson n :: toJsons ns

end

end Node

end Prereq

end StudyPlan
