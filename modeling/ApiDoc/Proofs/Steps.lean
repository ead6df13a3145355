import ApiDoc.Proofs.Traversal

/-!
# Steps that leave something alone

A step can fail half way, and what it did before stays done. So what a step leaves alone is said of the state after it in either case (`Keeps`), and steps in a row, or one for each element of a list, leave alone what each of them does.
-/

namespace ApiDoc

variable {α β γ δ ε σ : Type}

/-- The state after a step, also if the step fails. -/
def stateAfter (step : EStateM ε σ α) (s : σ) : σ :=
  match step s with
  | .ok _ s' => s'
  | .error _ s' => s'

theorem stateAfter_of_eq_ok {step : EStateM ε σ α} {s s' : σ} {a : α} (h : step s = .ok a s') : stateAfter step s = s' := by
  rw [stateAfter, h]

theorem stateAfter_of_eq_error {step : EStateM ε σ α} {s s' : σ} {e : ε} (h : step s = .error e s') : stateAfter step s = s' := by
  rw [stateAfter, h]

/-- Whether a step succeeds, with a result and a state as they should be. -/
def succeedsWith (holds : α → σ → Bool) (step : EStateM ε σ α) (s : σ) : Bool :=
  match step s with
  | .ok a s' => holds a s'
  | .error _ _ => false

theorem exists_of_succeedsWith {holds : α → σ → Bool} {step : EStateM ε σ α} {s : σ} (h : succeedsWith holds step s = true) :
    ∃ a s', step s = .ok a s' ∧ holds a s' = true := by
  unfold succeedsWith at h
  cases hs : step s with
  | ok a s' =>
    rw [hs] at h
    exact ⟨a, s', rfl, h⟩
  | error e s' =>
    rw [hs] at h
    cases h

/-- A step that leaves alone what `view` shows of the state. -/
def Keeps (view : σ → γ) (step : EStateM ε σ α) : Prop := ∀ s, view (stateAfter step s) = view s

namespace Keeps

variable {view : σ → γ}

theorem pure (a : α) : Keeps view (pure a : EStateM ε σ α) := fun _ => rfl

theorem throw (e : ε) : Keeps view (throw e : EStateM ε σ α) := fun _ => rfl

theorem get : Keeps view (get : EStateM ε σ σ) := fun _ => rfl

theorem modify {f : σ → σ} (h : ∀ s, view (f s) = view s) : Keeps view (modify f : EStateM ε σ PUnit) := h

theorem bind {step : EStateM ε σ α} {next : α → EStateM ε σ β} (hstep : Keeps view step) (hnext : ∀ a, Keeps view (next a)) :
    Keeps view (step >>= next) := by
  intro s
  have h := hstep s
  cases hs : step s with
  | ok a s₁ =>
    rw [stateAfter_of_eq_ok hs] at h
    rw [stateAfter, bind_of_eq_ok hs]
    exact (hnext a s₁).trans h
  | error e s₁ =>
    rw [stateAfter_of_eq_error hs] at h
    rw [stateAfter, bind_of_eq_error hs]
    exact h

/-- A step that is only taken after a check. -/
theorem guarded {c : Prop} [Decidable c] {e : ε} {next : EStateM ε σ α} (h : Keeps view next) :
    Keeps view (if c then (MonadExcept.throw e : EStateM ε σ PUnit) >>= fun _ => next else next) := by
  split
  · exact bind (throw e) fun _ => h
  · exact h

theorem get_bind {next : σ → EStateM ε σ α} (h : ∀ s, view (stateAfter (next s) s) = view s) :
    Keeps view (MonadState.get >>= next) := h

theorem forM {f : α → EStateM ε σ PUnit} {xs : List α} (h : ∀ x ∈ xs, Keeps view (f x)) : Keeps view (xs.forM f) := by
  induction xs with
  | nil => exact pure _
  | cons x xs ih =>
    rw [List.forall_mem_cons] at h
    exact bind h.1 fun _ => ih h.2

theorem mapM {f : α → EStateM ε σ β} {xs : List α} (h : ∀ x ∈ xs, Keeps view (f x)) : Keeps view (xs.mapM f) := by
  induction xs with
  | nil =>
    rw [List.mapM_nil]
    exact pure _
  | cons x xs ih =>
    rw [List.forall_mem_cons] at h
    rw [List.mapM_cons]
    exact bind h.1 fun _ => bind (ih h.2) fun _ => pure _

theorem comp {step : EStateM ε σ α} (h : Keeps view step) (g : γ → δ) : Keeps (fun s => g (view s)) step :=
  fun s => congrArg g (h s)

theorem of_eq_ok {step : EStateM ε σ α} (h : Keeps view step) {s s' : σ} {a : α} (hs : step s = .ok a s') : view s' = view s := by
  have hview := h s
  rw [stateAfter_of_eq_ok hs] at hview
  exact hview

end Keeps

theorem exists_of_bind_eq_ok {step : EStateM ε σ α} {next : α → EStateM ε σ β} {s s' : σ} {b : β}
    (h : (step >>= next) s = .ok b s') : ∃ a s₁, step s = .ok a s₁ ∧ next a s₁ = .ok b s' := by
  cases hs : step s with
  | ok a s₁ =>
    rw [bind_of_eq_ok hs] at h
    exact ⟨a, s₁, rfl, h⟩
  | error e s₁ =>
    rw [bind_of_eq_error hs] at h
    cases h

theorem eq_map_of_mapM_eq_ok {f : α → EStateM ε σ β} {g : α → β} {xs : List α}
    (hf : ∀ x ∈ xs, ∀ s s' y, f x s = .ok y s' → y = g x) {s s' : σ} {ys : List β} (h : xs.mapM f s = .ok ys s') :
    ys = xs.map g := by
  induction xs generalizing s ys with
  | nil =>
    rw [List.mapM_nil] at h
    cases h
    rfl
  | cons x xs ih =>
    rw [List.forall_mem_cons] at hf
    rw [List.mapM_cons] at h
    obtain ⟨y, s₁, hy, h⟩ := exists_of_bind_eq_ok h
    obtain ⟨zs, s₂, hzs, h⟩ := exists_of_bind_eq_ok h
    cases h
    rw [List.map_cons, hf.1 _ _ _ hy, ih hf.2 hzs]

end ApiDoc
