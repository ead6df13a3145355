import ApiDoc.Logging.Configure
import ApiDoc.Proofs.Steps

/-!
# Handlers leave loggers alone

Records change handlers, files and outputs, and so does everything that is done to handlers while a configuration is applied. The loggers stay as they are: which ones there are, their levels, and what they pass records on to (`keeps_emit`, `keeps_closeHandlers`, `keeps_makeHandlers`).
-/

namespace ApiDoc.Logging

variable {α γ δ ε : Type}

def LogState.allLoggers (s : LogState) : Logger × List Logger := (s.registry.root, s.registry.loggers)

/-! ### Small steps -/

theorem keeps_lift {view : LogState → γ} (x : Except ε α) : Keeps view (Logs.lift x) := by
  cases x with
  | ok a => exact Keeps.pure a
  | error e => exact Keeps.throw e

theorem exists_of_lift_bind_eq_ok {β : Type} {x : Except ε α} {next : α → Logs ε β} {s s' : LogState} {b : β}
    (h : (Logs.lift x >>= next) s = .ok b s') : ∃ a, x = .ok a ∧ next a s = .ok b s' := by
  cases x with
  | error e => cases h
  | ok a => exact ⟨a, rfl, h⟩

theorem keeps_mapError {view : LogState → γ} {step : Logs δ α} (h : Keeps view step) (f : δ → ε) :
    Keeps view (Logs.mapError f step) := by
  intro s
  have hstep := h s
  cases hs : step s with
  | ok a s' =>
    rw [stateAfter_of_eq_ok hs] at hstep
    simp only [stateAfter, Logs.mapError, hs, hstep]
  | error e s' =>
    rw [stateAfter_of_eq_error hs] at hstep
    simp only [stateAfter, Logs.mapError, hs, hstep]

theorem of_mapError_eq_ok {step : Logs δ α} {f : δ → ε} {s s' : LogState} {a : α} (h : Logs.mapError f step s = .ok a s') :
    step s = .ok a s' := by
  unfold Logs.mapError at h
  split at h
  · cases h
    assumption
  · cases h

theorem keeps_print {view : LogState → γ} (sink : Sink) (text : String)
    (h : ∀ s output, view { s with output } = view s) : Keeps view (Logs.print sink text : Logs ε Unit) :=
  Keeps.modify fun s => h s _

theorem keeps_modifyRegistry {f : Registry → Registry} (hroot : ∀ r, (f r).root = r.root)
    (hloggers : ∀ r, (f r).loggers = r.loggers) :
    Keeps LogState.allLoggers (Logs.modifyRegistry f : Logs ε Unit) :=
  Keeps.modify fun s => Prod.ext (hroot s.registry) (hloggers s.registry)

theorem keeps_setOutlet (id : Nat) (outlet : Outlet) : Keeps LogState.allLoggers (setOutlet id outlet) :=
  Keeps.modify fun _ => rfl

/-! ### Records -/

theorem keeps_emptyBuffer {passOn : Nat → LogRecord → Logs EmitError Unit}
    (h : ∀ target record, Keeps LogState.allLoggers (passOn target record)) (id : Nat) (b : Buffer) :
    Keeps LogState.allLoggers (emptyBuffer passOn id b) := by
  unfold emptyBuffer
  split
  · exact keeps_setOutlet _ _
  · split
    · exact Keeps.pure _
    · split
      · exact Keeps.pure _
      · exact Keeps.throw _
    · exact (Keeps.forM fun record _ => h _ record).bind fun _ => keeps_setOutlet _ _

theorem keeps_handle (fuel id : Nat) (record : LogRecord) : Keeps LogState.allLoggers (handle fuel id record) := by
  induction fuel generalizing id record with
  | zero => exact Keeps.pure _
  | succ fuel ih =>
    unfold handle
    refine Keeps.get.bind fun s => ?_
    split
    · split
      · exact Keeps.pure _
      · refine (keeps_lift _).bind fun accepted => ?_
        split
        · exact Keeps.pure _
        · split
          · exact Keeps.pure _
          · exact Keeps.throw _
          · split
            · exact keeps_print _ _ fun _ _ => rfl
            · exact Keeps.pure _
          · refine Keeps.get.bind fun s' => ?_
            split
            exact (Keeps.modify fun _ => rfl).bind fun _ => keeps_setOutlet _ _
          · refine (keeps_setOutlet _ _).bind fun _ => (keeps_lift _).bind fun due => ?_
            split
            · exact keeps_emptyBuffer ih _ _
            · exact Keeps.pure _
    · exact Keeps.pure _

theorem keeps_offer (record : LogRecord) (id : Nat) : Keeps LogState.allLoggers (offer record id) := by
  unfold offer
  refine Keeps.get.bind fun s => ?_
  dsimp only
  split
  · refine (keeps_lift _).bind fun reached => ?_
    split
    · exact keeps_handle _ _ _
    · exact Keeps.pure _
  · exact Keeps.pure _

theorem keeps_emit (record : LogRecord) : Keeps LogState.allLoggers (emit record) := by
  unfold emit
  refine Keeps.get.bind fun s => ?_
  dsimp only
  split
  · exact Keeps.pure _
  · refine (keeps_lift _).bind fun accepted => ?_
    split
    · exact Keeps.pure _
    · split
      · split
        · exact keeps_print _ _ fun _ _ => rfl
        · exact Keeps.pure _
      · exact Keeps.forM fun id _ => keeps_offer record id

/-! ### Handlers -/

theorem keeps_closeHandler (id : Nat) : Keeps LogState.allLoggers (closeHandler id) := by
  unfold closeHandler
  refine Keeps.get.bind fun s => ?_
  dsimp only
  split
  · split
    · refine (keeps_emptyBuffer (keeps_handle _) _ _).bind fun _ => ?_
      exact keeps_modifyRegistry (fun _ => rfl) (fun _ => rfl)
    · exact keeps_setOutlet _ _
    · exact Keeps.pure _
  · exact Keeps.pure _

theorem keeps_closeHandlers : Keeps LogState.allLoggers closeHandlers := by
  unfold closeHandlers
  apply Keeps.bind
  · exact keeps_modifyRegistry (fun _ => rfl) (fun _ => rfl)
  intro _
  refine Keeps.get.bind fun s => ?_
  apply (Keeps.forM fun id _ => keeps_closeHandler id).bind
  intro _
  exact keeps_modifyRegistry (fun _ => rfl) (fun _ => rfl)

@[simp] theorem Registry.root_nameHandler (r : Registry) (name : Yaml.Scalar) (id : Nat) : (r.nameHandler name id).root = r.root := by
  unfold nameHandler
  split <;> rfl

@[simp] theorem Registry.loggers_nameHandler (r : Registry) (name : Yaml.Scalar) (id : Nat) :
    (r.nameHandler name id).loggers = r.loggers := by
  unfold nameHandler
  split <;> rfl

theorem keeps_makeNamed (found : Found) (config name : ConfigItem) :
    Keeps LogState.allLoggers (makeNamed found config name) := by
  unfold makeNamed
  split
  · split
    · refine Keeps.get.bind fun s => ?_
      split
      · exact Keeps.pure _
      · apply Keeps.bind
        · exact Keeps.modify fun _ => rfl
        · exact fun _ => Keeps.throw _
      · apply Keeps.bind
        · exact Keeps.modify fun _ => rfl
        · intro _
          -- the new loggers are made from the state before, so the two are looked at together
          refine Keeps.get_bind fun s' => ?_
          exact Prod.ext (Registry.root_nameHandler _ _ _) (Registry.loggers_nameHandler _ _ _)
    · exact Keeps.throw _
  · exact Keeps.throw _

theorem keeps_makeNamedList (found : Found) (names : List ConfigItem) (config : ConfigItem) :
    Keeps LogState.allLoggers (makeNamedList found names config) := by
  induction names generalizing config with
  | nil => exact Keeps.pure _
  | cons name rest ih =>
    unfold makeNamedList
    refine (keeps_makeNamed _ _ _).bind fun made => ?_
    cases made with
    | some config' => exact ih config'
    | none => exact (ih config).bind fun _ => Keeps.pure _

theorem keeps_makeHandlers (config : ConfigItem) : Keeps LogState.allLoggers (makeHandlers config) := by
  unfold makeHandlers
  refine (keeps_lift _).bind fun found => (keeps_lift _).bind fun listed => (keeps_lift _).bind fun names => ?_
  refine (keeps_makeNamedList found names config).bind fun first => ?_
  refine (keeps_makeNamedList found first.2 first.1).bind fun second => ?_
  split
  · exact Keeps.pure _
  · exact Keeps.throw _

theorem keeps_adjustHandler (config : ConfigItem) (found : Found) (name : ConfigItem) :
    Keeps LogState.allLoggers (adjustHandler config found name) := by
  unfold adjustHandler
  split
  · refine Keeps.get.bind fun s => ?_
    split
    · split
      · split
        · exact Keeps.throw _
        · exact Keeps.pure _
        · split
          · exact Keeps.pure _
          · split
            · exact keeps_modifyRegistry (fun _ => rfl) (fun _ => rfl)
            · exact Keeps.throw _
      · exact Keeps.throw _
    · exact Keeps.throw _
  · exact Keeps.throw _

end ApiDoc.Logging
