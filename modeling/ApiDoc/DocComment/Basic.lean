/-!
# Parsed doc comments

What a doc comment says once it has been parsed.
-/

namespace ApiDoc.DocComment

structure ReturnTag where
  type : String
  text : String
  deriving DecidableEq, Repr, Inhabited

/-- A parameter: its type, its name with the sigil, empty when none is given, and a text. -/
structure ParamTag where
  type : String
  name : String
  text : String
  deriving DecidableEq, Repr, Inhabited

/-- The summary line, the description, and the tags that carry content. -/
structure Parsed where
  summary : String
  description : String
  returns : Option ReturnTag
  params : List ParamTag
  todo : List String
  deriving DecidableEq, Repr, Inhabited

/-- Whether tags are moved out of the description into fields of their own, or only left out of it. -/
inductive Mode where
  | plain
  | extract
  deriving DecidableEq, Repr, Inhabited

end ApiDoc.DocComment
