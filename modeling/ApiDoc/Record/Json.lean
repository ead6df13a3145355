import ApiDoc.Json.Basic
import ApiDoc.Record.Basic

/-!
# Records as JSON

The JSON form of the documentation. Members of objects stand in a fixed order, and mappings keep theirs.
-/

namespace ApiDoc.Record

open DocComment

def optionJson {α : Type} (f : α → Json) : Option α → Json
  | none => .null
  | some a => f a

def keyedJson {α : Type} (f : α → Json) (m : Keyed α) : Json := .obj (m.map fun (k, v) => (k, f v))

def returnJson (r : ReturnTag) : Json := .obj [("type", .str r.type), ("text", .str r.text)]

def paramTagJson (p : ParamTag) : Json := .obj [("type", .str p.type), ("name", .str p.name), ("text", .str p.text)]

def parsedJson (p : Parsed) : Json :=
  .obj [("summary", .str p.summary), ("description", .str p.description), ("returns", optionJson returnJson p.returns),
    ("params", .arr (p.params.map paramTagJson)), ("todo", .arr (p.todo.map Json.str))]

/-- A visibility: a word, or the flags where there is none. -/
def visibilityJson : Visibility → Json
  | .everyone => .str "public"
  | .subclasses => .str "protected"
  | .ownClass => .str "private"
  | .unspecified flags => .int flags

def paramJson (p : ParamDoc) : Json :=
  .obj [("type", .str p.type), ("name", .str p.name), ("default", .str p.default), ("by_ref", .bool p.byRef),
    ("variadic", .bool p.variadic)]

def propertyJson (p : PropertyDoc) : Json :=
  .obj [("name", .str p.name), ("type", .str p.type), ("default", .str p.default),
    ("visibility", visibilityJson p.visibility), ("is_static", .bool p.isStatic), ("raw_comment", .str p.rawComment),
    ("parsed_comment", optionJson parsedJson p.parsedComment)]

/-- The members that functions and methods share. -/
def functionMembers (f : FunctionDoc) : List (String × Json) :=
  [("name", .str f.name), ("type", .str f.type), ("params", .arr (f.params.map paramJson)),
    ("raw_comment", .str f.rawComment), ("parsed_comment", optionJson parsedJson f.parsedComment)]

def functionJson (f : FunctionDoc) : Json := .obj (functionMembers f)

def methodJson (m : MethodDoc) : Json :=
  .obj (functionMembers m.toFunctionDoc ++
    [("visibility", visibilityJson m.visibility), ("is_static", .bool m.isStatic),
      ("is_abstract", .bool m.isAbstract), ("is_final", .bool m.isFinal)])

def classJson (c : ClassDoc) : Json :=
  .obj [("kind", .str "class"), ("name", .str c.name), ("namespace", .str c.namespaceName),
    ("raw_comment", .str c.rawComment), ("parsed_comment", optionJson parsedJson c.parsedComment),
    ("properties", keyedJson propertyJson c.properties), ("methods", keyedJson methodJson c.methods)]

def functionFileJson (f : FunctionFileDoc) : Json :=
  .obj [("kind", .str "functions"), ("namespace", .str f.namespaceName), ("raw_comment", .str f.rawComment),
    ("parsed_comment", optionJson parsedJson f.parsedComment), ("functions", keyedJson functionJson f.functions)]

def Declaration.toJson : Declaration → Json
  | .classDoc c => classJson c
  | .functionFile f => functionFileJson f

def Documentation.toJson (d : Documentation) : Json := keyedJson Declaration.toJson d

end ApiDoc.Record
