import ApiDoc.DocComment.Parse
import ApiDoc.NaturalOrder
import ApiDoc.Number.Shortest
import ApiDoc.Record.Basic
import ApiDoc.Record.Classify
import ApiDoc.Settings.Basic

/-!
# Building documentation

Turns the declarations of a source file into records. Of several declarations with one name the last counts. Properties stand in natural order; of the methods the constructor stands last, and static methods stand before the others.
-/

namespace ApiDoc.Record

open Syntax DocComment

inductive BuildError where
  /-- A pattern of the settings is ill-formed. -/
  | pattern (e : Pattern.Error)
  /-- A member's name holds too many digits in a row to be ordered. -/
  | digits (e : Number.TooManyDigits)
  deriving DecidableEq, Repr, Inhabited

def BuildError.message : BuildError → String
  | .pattern e => e.message
  | .digits e => e.message

/-! ## Comments -/

/-- The text of the comment that documents a declaration; empty when none is attached. -/
def selectComment (selection : CommentSelection) (comments : List Comment) : String :=
  let chosen := match selection with
    | .first => comments.head?
    | .last => comments.getLast?
  (chosen.map Comment.text).getD ""

def parseComment (settings : Settings) (mode : Mode) (raw : String) : Except BuildError (Option Parsed) :=
  (DocComment.parse settings.ignoredLinePatterns settings.droppedNotePatterns mode raw).mapError .pattern

/-! ## Modifiers -/

/-- Whether a bit is set in modifier flags. -/
def hasBit (bit : Nat) (flags : Int) : Bool := flags / (Nat.pow 2 bit : Nat) % 2 == 1

def visibilityOf (flags : Int) : Visibility :=
  if hasBit 0 flags then .everyone
  else if hasBit 1 flags then .subclasses
  else if hasBit 2 flags then .ownClass
  else .unspecified flags

def isStatic (flags : Int) : Bool := hasBit 3 flags

def isAbstract (flags : Int) : Bool := hasBit 4 flags

def isFinal (flags : Int) : Bool := hasBit 5 flags

/-! ## Default values -/

/-- The text of a literal; a number without a fraction is written as a whole number. -/
def scalarText : Scalar → String
  | .str s => s
  | .int n => toString n
  | .float x =>
    match x.toInt? with
    | some n => toString n
    | none => x.text
  | .bool b => if b then "True" else "False"

/-- The part of a kind after its last underscore. -/
def kindSuffix (kind : String) : String :=
  String.ofList (kind.toList.reverse.takeWhile (· != '_')).reverse

/-- The default of a property: a literal, a constant's name, or what kind of expression it is. -/
def propertyDefault : Option Expr → String
  | none => ""
  | some (.scalar value) => scalarText value
  | some (.const name) => name
  | some (.other kind) => kindSuffix kind

/-- The default of a parameter: a literal or a constant's name. -/
def paramDefault : Option Expr → String
  | some (.scalar value) => scalarText value
  | some (.const name) => name
  | _ => ""

/-! ## Members -/

def paramDoc (p : Param) : ParamDoc :=
  { type := p.type.getD "", name := p.name, default := paramDefault p.default, byRef := p.byRef, variadic := p.variadic }

/-- The comments that document an item: its own, or those of its statement when it has none. -/
def itemComments (p : Property) (item : PropertyItem) : List Comment :=
  if item.comments.isEmpty then p.comments else item.comments

def propertyDoc (settings : Settings) (p : Property) (item : PropertyItem) : Except BuildError PropertyDoc := do
  let raw := selectComment settings.commentSelection (itemComments p item)
  return {
    name := item.name
    type := p.type.getD ""
    default := propertyDefault item.default
    visibility := visibilityOf p.flags
    isStatic := isStatic p.flags
    rawComment := raw
    parsedComment := ← parseComment settings .plain raw }

def methodDoc (settings : Settings) (m : Method) : Except BuildError MethodDoc := do
  let raw := selectComment settings.commentSelection m.comments
  return {
    name := m.name
    type := m.returnType.getD ""
    params := m.params.map paramDoc
    rawComment := raw
    parsedComment := ← parseComment settings .extract raw
    visibility := visibilityOf m.flags
    isStatic := isStatic m.flags
    isAbstract := isAbstract m.flags
    isFinal := isFinal m.flags }

/-- The record of a function. -/
def functionDoc (settings : Settings) (f : FunctionDecl) : Except BuildError FunctionDoc := do
  let raw := selectComment settings.commentSelection f.comments
  return {
    name := f.name
    type := f.returnType.getD ""
    params := f.params.map paramDoc
    rawComment := raw
    parsedComment := ← parseComment settings .extract raw }

/-! ## Order -/

def constructorName : String := "__construct"

/-- What methods are ordered by: whether it is the constructor, whether it is not static, and the name. -/
structure MethodKey where
  isConstructor : Bool
  isInstance : Bool
  name : NaturalOrder.Key
  deriving DecidableEq, Repr, Inhabited

/-- Compares method keys field by field; false comes before true. -/
def MethodKey.compare (a b : MethodKey) : Ordering :=
  (Ord.compare a.isConstructor b.isConstructor).then
    ((Ord.compare a.isInstance b.isInstance).then (NaturalOrder.Key.compare a.name b.name))

def methodKey (name : String) (static : Bool) : Except Number.TooManyDigits MethodKey := do
  return ⟨name == constructorName, !static, ← NaturalOrder.naturalKey name⟩

def sortProperties (ps : Keyed PropertyDoc) : Except Number.TooManyDigits (Keyed PropertyDoc) :=
  NaturalOrder.sortBy (fun e => NaturalOrder.naturalKey e.1) NaturalOrder.Key.compare ps

/-- Puts methods in order. -/
def sortMethods (ms : Keyed MethodDoc) : Except Number.TooManyDigits (Keyed MethodDoc) :=
  NaturalOrder.sortBy (fun e => methodKey e.2.name e.2.isStatic) MethodKey.compare ms

/-! ## Classes and files -/

/-- The properties and methods read so far, each name at its first place with its last record. -/
structure Members where
  properties : Keyed PropertyDoc
  methods : Keyed MethodDoc
  deriving Inhabited

def addItems (settings : Settings) (p : Property) (ps : Keyed PropertyDoc) :
    List PropertyItem → Except BuildError (Keyed PropertyDoc)
  | [] => .ok ps
  | item :: rest => do
    let doc ← propertyDoc settings p item
    addItems settings p (Keyed.put doc.name doc ps) rest

def addMember (settings : Settings) (acc : Members) : Member → Except BuildError Members
  | .property p => do return { acc with properties := ← addItems settings p acc.properties p.items }
  | .method m => do
    let doc ← methodDoc settings m
    return { acc with methods := Keyed.put doc.name doc acc.methods }
  | .other _ => return acc

/-- The record of a class in a namespace. -/
def classDoc (settings : Settings) (namespaceName : String) (c : ClassDecl) : Except BuildError ClassDoc := do
  let raw := selectComment settings.commentSelection c.comments
  let members ← c.members.foldlM (addMember settings) ⟨[], []⟩
  let parsed ← parseComment settings .plain raw
  let properties ← (sortProperties members.properties).mapError .digits
  let methods ← (sortMethods members.methods).mapError .digits
  return { name := c.name, namespaceName, rawComment := raw, parsedComment := parsed, properties, methods }

def addFunction (settings : Settings) (acc : Keyed FunctionDoc) (f : FunctionDecl) :
    Except BuildError (Keyed FunctionDoc) := do
  return Keyed.put f.name (← functionDoc settings f) acc

/-- The record of functions in a namespace, with the comment of the file. -/
def functionFileDoc (settings : Settings) (namespaceName raw : String) (fs : List FunctionDecl) :
    Except BuildError FunctionFileDoc := do
  let functions ← fs.foldlM (addFunction settings) []
  let parsed ← parseComment settings .extract raw
  return { namespaceName, rawComment := raw, parsedComment := parsed, functions }

def addClass (settings : Settings) (acc : Documentation) (s : ScopedClass) : Except BuildError Documentation := do
  return Keyed.put s.decl.name (.classDoc (← classDoc settings s.namespaceName s.decl)) acc

/-- The documentation of a source file. -/
def build (settings : Settings) (t : SourceTree) : Except BuildError Documentation := do
  let c := classify t
  if c.isFunctionFile then
    let raw := selectComment settings.commentSelection c.comments
    return [(noClassKey, .functionFile (← functionFileDoc settings c.namespaceName raw c.functions))]
  else c.classes.foldlM (addClass settings) []

end ApiDoc.Record
