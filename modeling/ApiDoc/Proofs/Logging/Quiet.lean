import ApiDoc.Logging.Journal
import ApiDoc.Proofs.Traversal

/-!
# Loggers that keep quiet

A logger that does not take records of a level drops them: nothing is written, no file changes, and at most the logger itself is made on the way. What the program tells about a tree it loaded is of the lowest level, so under the usual settings it is dropped (`tellOfTree_of_quiet`).
-/

namespace ApiDoc.Logging

namespace Registry

theorem below?_ensure {r : Registry} {name : String} (h : isRootName name = false) : ((r.ensure name).below? name).isSome := by
  rw [ensure]
  split
  · rename_i hthere
    simpa [h] using hthere
  · simp [below?, Logger.new]

theorem ensure_ensure (r : Registry) (name : String) : (r.ensure name).ensure name = r.ensure name := by
  by_cases h : isRootName name = true
  · simp [ensure, h]
  · rw [Bool.not_eq_true] at h
    rw [ensure, if_pos]
    simp [below?_ensure h]

theorem name_get (r : Registry) {name : String} (h : isRootName name = false) : (r.get name).name = name := by
  rw [get, h]
  cases hbelow : r.below? name with
  | none => rfl
  | some l => simpa using List.find?_some hbelow

end Registry

theorem emit_of_not_takes {record : LogRecord} {s : LogState} (h : s.registry.takes record.logger record.level = false) :
    emit record s = .ok () s := by
  simp only [emit, bind_of_eq_ok (get_eq_ok s), h]
  rfl

namespace Session

/-- A session in which the logger of a name drops records of a level. -/
def Drops (name : String) (level : Level) (s : Session) : Prop :=
  (s.logs.registry.ensure name).takes name level = false

/-- The session after the logger of a name was made. -/
def withLogger (name : String) (s : Session) : Session :=
  { s with logs := { s.logs with registry := s.logs.registry.ensure name } }

theorem Drops.withLogger {name : String} {level : Level} {s : Session} (h : s.Drops name level) :
    (s.withLogger name).Drops name level := by
  rw [Drops, Session.withLogger, Registry.ensure_ensure]
  exact h

theorem log_of_emit {name : String} {level : Level} {message : Message} {s : Session} {logs : LogState}
    (hname : Registry.isRootName name = false)
    (h : emit ⟨name, level, message.template, message.arguments, message.text, s.clock⟩ (s.withLogger name).logs = .ok () logs) :
    log name level message s = .ok () { s with logs } := by
  have hget : ((s.withLogger name).logs.registry.get name).name = name := Registry.name_get _ hname
  show withLogs (Logs.mapError .emit (emit ⟨((s.withLogger name).logs.registry.get name).name, level, message.template,
    message.arguments, message.text, s.clock⟩)) (s.withLogger name) = _
  simp only [hget, withLogs, Logs.mapError, h]
  rfl

theorem log_of_drops {name : String} {level : Level} {s : Session} (hname : Registry.isRootName name = false)
    (h : s.Drops name level) (message : Message) : log name level message s = .ok () (s.withLogger name) :=
  log_of_emit hname (emit_of_not_takes h)

/-- Messages of a level that the logger drops leave everything as it is but for the logger itself. -/
theorem forM_log_of_drops {α : Type} {name : String} {level : Level} (hname : Registry.isRootName name = false)
    (message : α → Message) (xs : List α) {s : Session} (h : s.Drops name level) :
    ∃ r, xs.forM (fun x => log name level (message x)) s = .ok () { s with logs := { s.logs with registry := r } } := by
  induction xs generalizing s with
  | nil => exact ⟨s.logs.registry, rfl⟩
  | cons x xs ih =>
    obtain ⟨r, hr⟩ := ih h.withLogger
    refine ⟨r, ?_⟩
    exact (bind_of_eq_ok (log_of_drops hname h (message x))).trans hr

/-- A session in which the messages about loading are dropped. -/
def Quiet (s : Session) : Prop := s.Drops (fullName loaderName) .debug

theorem tellOfTree_of_quiet {s : Session} (h : s.Quiet) (t : Syntax.SourceTree) :
    ∃ r, tellOfTree t s = .ok () { s with logs := { s.logs with registry := r } } :=
  forM_log_of_drops (by decide) Message.ofNote t.notes h

end Session

end ApiDoc.Logging
