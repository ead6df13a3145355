import ApiDoc.Proofs.Json.Short
import ApiDoc.Proofs.Syntax.Dump
import ApiDoc.Proofs.Syntax.Load

/-!
# Flags in a tree that was loaded

The flags of the members of all classes in a tree that was loaded are short (`shortFlags_of_load`), as all whole numbers of the dump are.
-/

namespace ApiDoc.Syntax

open Json (Short)
open Number (IsShort)

def Member.ShortFlags : Member → Prop
  | .property p => IsShort p.flags
  | .method m => IsShort m.flags
  | .other _ => True

/-- A statement in which the members of classes have short flags, at any depth. -/
inductive Statement.ShortFlags : Statement → Prop
  | block {name : String} {body : List Statement} {comments : List Comment} {line : Int} (h : ∀ s ∈ body, s.ShortFlags) :
    ShortFlags (.block name body comments line)
  | classDecl {c : ClassDecl} (h : ∀ m ∈ c.members, m.ShortFlags) : ShortFlags (.classDecl c)
  | functionDecl (f : FunctionDecl) : ShortFlags (.functionDecl f)
  | other (o : Other) : ShortFlags (.other o)

variable {j : Json}

theorem isShort_flagsAt (h : Short j) : IsShort (flagsAt j) := by
  rw [flagsAt]
  cases hflags : (j.field "flags").int? with
  | none => exact (by decide : IsShort 0)
  | some n => exact (h.field "flags").int? hflags

theorem shortFlags_member (h : Short j) : (Member.ofJson j).ShortFlags := by
  by_cases hproperty : nodeType j = "Stmt_Property"
  · rw [ofJson_property hproperty]
    exact isShort_flagsAt h
  by_cases hmethod : nodeType j = "Stmt_ClassMethod"
  · rw [ofJson_method hmethod]
    exact isShort_flagsAt h
  · rw [ofJson_unknownMember (by simp [hproperty, hmethod])]
    trivial

theorem shortFlags_statement (h : Short j) : (Statement.ofJson j).ShortFlags := by
  -- a statement in a namespace is smaller than the namespace
  induction hsize : sizeOf j using Nat.strongRecOn generalizing j with
  | ind size ih =>
    subst hsize
    have hitems := (h.field "stmts").list
    by_cases hblock : nodeType j = "Stmt_Namespace"
    · rw [ofJson_namespace hblock]
      refine .block fun s hs => ?_
      obtain ⟨item, hitem, rfl⟩ := List.mem_map.mp hs
      exact ih (sizeOf item) (Json.sizeOf_item_lt hitem) (hitems item hitem) rfl
    by_cases hclass : nodeType j = "Stmt_Class"
    · rw [ofJson_class hclass]
      refine .classDecl fun m hm => ?_
      obtain ⟨item, hitem, rfl⟩ := List.mem_map.mp hm
      exact shortFlags_member (hitems item hitem)
    by_cases hfunction : nodeType j = "Stmt_Function"
    · rw [ofJson_function hfunction]
      exact .functionDecl _
    · rw [ofJson_unknown (by simp [hblock, hclass, hfunction])]
      exact .other _

theorem exists_parse_of_load {files : Storage.Files} {path : String} {t : SourceTree} (h : load files path = .ok t) :
    ∃ text items, Json.parse text = .ok (.arr items) ∧ t = ⟨items.map Statement.ofJson, some path⟩ := by
  obtain ⟨bytes, -, h⟩ := bind_eq_ok_iff.mp h
  obtain ⟨text, -, h⟩ := bind_eq_ok_iff.mp h
  obtain ⟨j, hj, h⟩ := bind_eq_ok_iff.mp h
  rw [parseDump, mapError_eq_ok_iff] at hj
  rw [mapError_eq_ok_iff] at h
  cases j with
  | arr items => exact ⟨text, items, hj, (Except.ok.inj h).symm⟩
  | _ => cases h

/-- **Flags in a tree that was loaded are short.** -/
theorem shortFlags_of_load {files : Storage.Files} {path : String} {t : SourceTree} (h : load files path = .ok t) :
    ∀ s ∈ t.statements, s.ShortFlags := by
  obtain ⟨text, items, hparse, rfl⟩ := exists_parse_of_load h
  intro s hs
  obtain ⟨item, hitem, rfl⟩ := List.mem_map.mp hs
  exact shortFlags_statement ((Json.short_of_parse hparse).list item hitem)

end ApiDoc.Syntax
