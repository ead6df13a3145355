import Mathlib.Tactic.FinCases
import ApiDoc.Proofs.Record.Influence
import ApiDoc.Proofs.Syntax.Alike

/-!
# What a documentation shows of a dump

A documentation is made from the documented part of a dump. Dumps that are alike up to what a tree does not show give one tree. Dumps that are alike up to what a documentation does not show give trees that differ in lines, in the kinds of comments and in the flags of classes; of comments a documentation takes the texts, and of the rest nothing (`looksSame_textsOnly`), so the documentations are equal.
-/

namespace ApiDoc.Record

open Syntax

theorem selectComment_textsOnly (selection : CommentSelection) (comments : List Comment) :
    selectComment selection (Retouch.textsOnly.comments comments) = selectComment selection comments := by
  cases selection <;> simp [selectComment, Retouch.textsOnly, Function.comp_def]

theorem looksSame_textsOnly (s : Settings) : LooksSame id .textsOnly s s where
  empty_iff _ := List.map_eq_nil_iff
  comment mode comments := by rw [commentOf, commentOf, selectComment_textsOnly]

theorem build_textsOnly (s : Settings) (t : SourceTree) : build s (t.retouch .textsOnly) = build s t := by
  have hbuild := map_build_eq (looksSame_textsOnly s) t
  rw [map_viewed_id, map_viewed_id] at hbuild
  exact hbuild.symm

/-- **A documentation shows the documented part of a dump only.** If the names that a dump shows are texts, then every dump that is alike up to keys that are not read, bodies, lines, kinds of comments and flags of classes has the same documentation under all settings, or fails for the same reason; and every dump that is alike up to keys that are not read and bodies gives the same tree. -/
theorem build_eq_of_alike {d d' : List Json} (hlegible : ∀ j ∈ d, Place.LegibleBelow .statement j) (path : Option String) :
    (Alike .documentation .node (.arr d) (.arr d') →
        ∃ t t', SourceTree.ofJson path (.arr d) = .ok t ∧ SourceTree.ofJson path (.arr d') = .ok t'
          ∧ ∀ settings, build settings t = build settings t')
      ∧ (Alike .tree .node (.arr d) (.arr d') →
        ∃ t, SourceTree.ofJson path (.arr d) = .ok t ∧ SourceTree.ofJson path (.arr d') = .ok t) := by
  refine ⟨fun halike => ?_, fun halike => ?_⟩
  · refine ⟨⟨d.map Statement.ofJson, path⟩, ⟨d'.map Statement.ofJson, path⟩, rfl, rfl, fun settings => ?_⟩
    have hforgotten : (⟨d.map Statement.ofJson, path⟩ : SourceTree).retouch .textsOnly =
        (⟨d'.map Statement.ofJson, path⟩ : SourceTree).retouch .textsOnly :=
      congrArg (SourceTree.mk · path) (retouch_ofJson_eq halike hlegible)
    rw [← build_textsOnly settings, hforgotten, build_textsOnly]
  · have hsame : (⟨d.map Statement.ofJson, path⟩ : SourceTree) = ⟨d'.map Statement.ofJson, path⟩ := by
      rw [← SourceTree.retouch_nothing ⟨d.map Statement.ofJson, path⟩, ← SourceTree.retouch_nothing ⟨d'.map _, path⟩]
      exact congrArg (SourceTree.mk · path) (retouch_ofJson_eq halike hlegible)
    exact ⟨⟨d.map Statement.ofJson, path⟩, rfl, congrArg Except.ok hsame.symm⟩

def shortComment : Json := .obj [("nodeType", .str "Comment_Doc"), ("text", .str "/** Next. */")]

def shortMethod : Json :=
  .obj [("nodeType", .str "Stmt_ClassMethod"), ("name", .str "next"), ("attributes", .obj [("comments", .arr [shortComment])])]

def shortDump : List Json :=
  [.obj [("nodeType", .str "Stmt_Class"), ("name", .str "Counter"), ("stmts", .arr [shortMethod])]]

/-- The same comment with its members in another order, a line, and a kind of its own. -/
def longComment (line : Json) (kind : String) : Json :=
  .obj [("line", line), ("text", .str "/** Next. */"), ("nodeType", .str kind)]

/-- The same method with its members in another order, a line, and a body that declares a class. -/
def longMethod (line : Json) (kind : String) : Json :=
  .obj [("stmts", .arr [.obj [("nodeType", .str "Stmt_Class"), ("name", .str "Inner")]]), ("name", .str "next"),
    ("attributes", .obj [("startLine", line), ("comments", .arr [longComment line kind])]),
    ("nodeType", .str "Stmt_ClassMethod")]

/-- The same class with its members in another order, flags, and a key that is not read. -/
def longDump (flags line : Json) (kind : String) : List Json :=
  [.obj [("flags", flags), ("stmts", .arr [longMethod line kind]), ("name", .str "Counter"), ("implements", .arr []),
    ("nodeType", .str "Stmt_Class")]]

theorem legibleBelow_null (place : Place) : place.LegibleBelow .null := by
  refine .of_parts ?_ (fun key inner hholds => ?_) (fun key inner hholds => ?_)
  · cases place <;> simp [Place.Legible, Place.Legible.NameLegible, nodeType, Json.field, Json.str?, IsText]
  · generalize hkind : nodeType .null = kind at hholds
    cases hholds <;> exact absurd hkind (by decide)
  · generalize hkind : nodeType .null = kind at hholds
    cases hholds <;> exact absurd hkind (by decide)

theorem legibleBelow_shortDump : ∀ j ∈ shortDump, Place.LegibleBelow .statement j := by
  have hmethod (j : Json) (hkind : nodeType j = "Stmt_ClassMethod") (hname : (j.field "name").field "name" = .null)
      (htype : j.field "returnType" = .null) (hparams : (j.field "params").list = []) : Place.LegibleBelow .member j := by
    refine .of_parts (fun _ => .inl hname) (fun key inner hholds => ?_) (fun key inner hholds item hitem => ?_)
    · generalize nodeType j = kind at hholds hkind
      cases hholds with
      | methodType => exact htype ▸ legibleBelow_null .type
      | _ => exact absurd hkind (by decide)
    · generalize nodeType j = kind at hholds hkind
      cases hholds with
      | methodParams => simp [hparams] at hitem
      | _ => exact absurd hkind (by decide)
  have hclass (j : Json) (hkind : nodeType j = "Stmt_Class") (hname : (j.field "name").field "name" = .null)
      (hmembers : ∀ m ∈ (j.field "stmts").list, Place.LegibleBelow .member m) : Place.LegibleBelow .statement j := by
    refine .of_parts (fun _ => .inl hname) (fun key inner hholds => ?_) (fun key inner hholds item hitem => ?_)
    · generalize nodeType j = kind at hholds hkind
      cases hholds <;> exact absurd hkind (by decide)
    · generalize nodeType j = kind at hholds hkind
      cases hholds with
      | classBody => exact hmembers item hitem
      | _ => exact absurd hkind (by decide)
  intro j hj
  rw [List.mem_singleton.mp hj]
  refine hclass _ rfl rfl fun m hm => ?_
  rw [List.mem_singleton.mp hm]
  exact hmethod _ rfl rfl rfl rfl

theorem alike_longDump {c : Closeness} {flags line : Json} {kind : String}
    (h : c = .documentation ∨ c = .tree ∧ flags = .null ∧ line = .null ∧ kind = "Comment_Doc") :
    Alike c .node (.arr shortDump) (.arr (longDump flags line kind)) := by
  have hsingle {role : Role} {x y : Json} (hxy : Alike c role.entry x y) : Alike c role (.arr [x]) (.arr [y]) :=
    .arr rfl (by simpa using hxy)
  have hcomment : Alike c .comment shortComment (longComment line kind) := by
    refine .obj_of_readKeys fun key hkey hdiffer => ?_
    rcases h with rfl | ⟨rfl, rfl, rfl, rfl⟩ <;> fin_cases hkey <;>
      first | exact .null _ | exact .str _ _ | exact absurd (by decide) hdiffer
  have hattributes : Alike c .node (shortMethod.field "attributes") ((longMethod line kind).field "attributes") := by
    refine .obj_of_readKeys fun key hkey hdiffer => ?_
    rcases h with rfl | ⟨rfl, rfl, rfl, rfl⟩ <;> fin_cases hkey <;>
      first | exact .null _ | exact hsingle hcomment | exact absurd (by decide) hdiffer
  have hmethod : Alike c .node shortMethod (longMethod line kind) := by
    refine .obj_of_readKeys fun key hkey hdiffer => ?_
    rcases h with rfl | ⟨rfl, rfl, rfl, rfl⟩ <;> fin_cases hkey <;>
      first | exact .null _ | exact .str _ _ | exact hattributes | exact absurd (by decide) hdiffer
  refine hsingle (.obj_of_readKeys fun key hkey hdiffer => ?_)
  rcases h with rfl | ⟨rfl, rfl, rfl, rfl⟩ <;> fin_cases hkey <;>
    first | exact .null _ | exact .str _ _ | exact hsingle hmethod | exact absurd (by decide) hdiffer

theorem build_longDump :
    (∀ j ∈ shortDump, Place.LegibleBelow .statement j)
      ∧ (∃ t t', SourceTree.ofJson none (.arr shortDump) = .ok t
        ∧ SourceTree.ofJson none (.arr (longDump (.int 32) (.int 4) "Comment")) = .ok t'
        ∧ ∀ settings, build settings t = build settings t')
      ∧ ∃ t, SourceTree.ofJson none (.arr shortDump) = .ok t
        ∧ SourceTree.ofJson none (.arr (longDump .null .null "Comment_Doc")) = .ok t :=
  ⟨legibleBelow_shortDump, (build_eq_of_alike legibleBelow_shortDump none).1 (alike_longDump (.inl rfl)),
    (build_eq_of_alike legibleBelow_shortDump none).2 (alike_longDump (.inr ⟨rfl, rfl, rfl, rfl⟩))⟩

end ApiDoc.Record
