import Mathlib

/-!
# State that survives a failure

`Exec σ ε α` is a computation on a mutable state `σ` that may stop with an error.
The state is returned in both outcomes, as a function over an exclusive reference
leaves it: what was written before the failure stays written.

`Exec.wp` is the exact precondition of a computation for a postcondition on each
of the two outcomes. Its rules are equivalences, so they rewrite a program into
the condition under which it ends as asked.
-/

namespace Except

variable {ε ε' α β : Type}

lemma bind_eq_ok {x : Except ε α} {f : α → Except ε β} {b : β} :
    (x >>= f) = .ok b ↔ ∃ a, x = .ok a ∧ f a = .ok b := by
  cases x <;> simp [Bind.bind, Except.bind]

lemma mapError_eq_ok {f : ε → ε'} {x : Except ε α} {a : α} :
    x.mapError f = .ok a ↔ x = .ok a := by
  cases x <;> simp [Except.mapError]

end Except

/-- How a call stops: with an `Err`, or with the process. -/
inductive Stop (ε : Type)
  | err (e : ε)
  | abort
deriving DecidableEq

def Stop.map {ε ε' : Type} (f : ε → ε') : Stop ε → Stop ε'
  | .err e => .err (f e)
  | .abort => .abort

/-- A computation from a state to a result or an error, and the state it leaves. -/
def Exec (σ ε α : Type) : Type := σ → Except ε α × σ

namespace Exec

variable {σ τ ε ε' α β : Type}

def run (x : Exec σ ε α) (s : σ) : Except ε α × σ := x s

def bind' (x : Exec σ ε α) (f : α → Exec σ ε β) : Exec σ ε β := fun s =>
  match x s with
  | (.ok a, s') => f a s'
  | (.error e, s') => (.error e, s')

instance : Monad (Exec σ ε) where
  pure a := fun s => (.ok a, s)
  bind := bind'

def fail (e : ε) : Exec σ ε α := fun s => (.error e, s)

def read (f : σ → α) : Exec σ ε α := fun s => (.ok (f s), s)

def modify (f : σ → σ) : Exec σ ε Unit := fun s => (.ok (), f s)

def failIf (p : Prop) [Decidable p] (e : ε) : Exec σ ε Unit :=
  if p then fail e else pure ()

def onlyIf (p : Prop) [Decidable p] (x : Exec σ ε Unit) : Exec σ ε Unit :=
  if p then x else pure ()

/-- The value of an option, or the error `e` (`ok_or`). -/
def ofOption (e : ε) : Option α → Exec σ ε α
  | some a => pure a
  | none => fail e

/-- The value of a result, its error translated by `f` (`map_err`). -/
def ofExcept (f : ε' → ε) : Except ε' α → Exec σ ε α
  | .ok a => pure a
  | .error e => fail (f e)

/-- Run a fallible operation on one component of the state. The component it
leaves is stored whatever the outcome. -/
def zoom (get : σ → τ) (put : σ → τ → σ) (f : ε' → ε) (x : τ → Except ε' α × τ) :
    Exec σ ε α := fun s =>
  match x (get s) with
  | (.ok a, t) => (.ok a, put s t)
  | (.error e, t) => (.error (f e), put s t)

/-- Run `x` and hand its outcome on instead of stopping. -/
def attempt (x : Exec σ ε α) : Exec σ ε' (Except ε α) := fun s =>
  match x s with
  | (r, s') => (.ok r, s')

/-- Attempt calls one after the other, each in the state the one before it left. -/
def attemptAll : List (Exec σ ε α) → Exec σ ε' (List (Except ε α))
  | [] => pure []
  | x :: xs => do
      let verdict ← attempt x
      let verdicts ← attemptAll xs
      pure (verdict :: verdicts)

/-- Translate the error of a computation (`map_err`). -/
def mapError (f : ε → ε') (x : Exec σ ε α) : Exec σ ε' α := fun s =>
  match x s with
  | (.ok a, s') => (.ok a, s')
  | (.error e, s') => (.error (f e), s')

/-- The state that `x` leaves, if it succeeds. -/
def outcome (x : Exec σ ε α) (s : σ) : Except ε σ :=
  match x s with
  | (.ok _, s') => .ok s'
  | (.error e, _) => .error e

/-- `x` run at `s` ends in `Q` if it succeeds and in `E` if it fails. -/
def wp (x : Exec σ ε α) (Q : α → σ → Prop) (E : ε → σ → Prop) (s : σ) : Prop :=
  match x s with
  | (.ok a, s') => Q a s'
  | (.error e, s') => E e s'

/-! ## Rules -/

section

variable {Q : α → σ → Prop} {E : ε → σ → Prop} {s : σ}

@[simp] lemma wp_pure (a : α) : wp (pure a : Exec σ ε α) Q E s ↔ Q a s := Iff.rfl

@[simp] lemma wp_bind {R : β → σ → Prop} (x : Exec σ ε α) (f : α → Exec σ ε β) :
    wp (x >>= f) R E s ↔ wp x (fun a => wp (f a) R E) E s := by
  change wp (bind' x f) R E s ↔ _
  unfold wp bind'
  rcases x s with ⟨_ | _, _⟩ <;> rfl

@[simp] lemma wp_fail (e : ε) : wp (fail e : Exec σ ε α) Q E s ↔ E e s := Iff.rfl

@[simp] lemma wp_read (f : σ → α) : wp (read f : Exec σ ε α) Q E s ↔ Q (f s) s := Iff.rfl

variable {R : Unit → σ → Prop}

@[simp] lemma wp_modify (f : σ → σ) : wp (modify f : Exec σ ε Unit) R E s ↔ R () (f s) := Iff.rfl

@[simp] lemma wp_failIf (p : Prop) [Decidable p] (e : ε) :
    wp (failIf p e) R E s ↔ (p → E e s) ∧ (¬p → R () s) := by
  unfold failIf
  by_cases hp : p <;> simp [hp]

lemma wp_ite (p : Prop) [Decidable p] (x y : Exec σ ε α) :
    wp (if p then x else y) Q E s ↔ (p → wp x Q E s) ∧ (¬p → wp y Q E s) := by
  by_cases hp : p <;> simp [hp]

@[simp] lemma wp_onlyIf (p : Prop) [Decidable p] (x : Exec σ ε Unit) :
    wp (onlyIf p x) R E s ↔ (p → wp x R E s) ∧ (¬p → R () s) := by
  unfold onlyIf
  by_cases hp : p <;> simp [hp]

@[simp] lemma wp_ofOption (e : ε) (o : Option α) :
    wp (ofOption e o) Q E s ↔ (∀ a, o = some a → Q a s) ∧ (o = none → E e s) := by
  cases o <;> simp [ofOption]

@[simp] lemma wp_ofExcept (f : ε' → ε) (r : Except ε' α) : wp (ofExcept f r) Q E s ↔
      (∀ a, r = .ok a → Q a s) ∧ (∀ e, r = .error e → E (f e) s) := by
  cases r <;> simp [ofExcept]

lemma wp_zoom (get : σ → τ) (put : σ → τ → σ) (f : ε' → ε) (x : τ → Except ε' α × τ) :
    wp (zoom get put f x) Q E s ↔ (∀ a t, x (get s) = (.ok a, t) → Q a (put s t)) ∧
        (∀ e t, x (get s) = (.error e, t) → E (f e) (put s t)) := by
  unfold wp zoom
  rcases x (get s) with ⟨_ | _, t⟩ <;> simp

lemma wp_zoom_run (get : σ → τ) (put : σ → τ → σ) (f : ε' → ε) (x : Exec τ ε' α) :
    wp (zoom get put f x.run) Q E s ↔
      wp x (fun a t => Q a (put s t)) (fun e t => E (f e) (put s t)) (get s) := by
  unfold wp zoom run
  rcases x (get s) with ⟨_ | _, t⟩ <;> rfl

variable {a : α}

lemma wp_zoom_of_ok {get : σ → τ} {put : σ → τ → σ} {f : ε' → ε} {x : τ → Except ε' α × τ}
    {t : τ} (h : x (get s) = (.ok a, t)) : wp (zoom get put f x) Q E s ↔ Q a (put s t) := by
  unfold wp zoom
  rw [h]

variable {E' : ε' → σ → Prop}

@[simp] lemma wp_attempt {R : Except ε α → σ → Prop} (x : Exec σ ε α) :
    wp (attempt x) R E' s ↔ wp x (fun a => R (.ok a)) (fun e => R (.error e)) s := by
  unfold wp attempt
  rcases x s with ⟨_ | _, _⟩ <;> rfl

@[simp] lemma wp_mapError (f : ε → ε') (x : Exec σ ε α) :
    wp (mapError f x) Q E' s ↔ wp x Q (fun e => E' (f e)) s := by
  unfold wp mapError
  rcases x s with ⟨_ | _, _⟩ <;> rfl

variable {x : Exec σ ε α} {Q' : α → σ → Prop}

lemma wp_mono {E' : ε → σ → Prop}
    (h : wp x Q E s) (hQ : ∀ a s', Q a s' → Q' a s') (hE : ∀ e s', E e s' → E' e s') :
    wp x Q' E' s := by
  revert h
  unfold wp
  rcases x s with ⟨e | a, s'⟩
  · exact hE e s'
  · exact hQ a s'

lemma wp_imp (h : wp x Q E s)
    (hQ : ∀ a s', Q a s' → Q' a s') : wp x Q' E s := wp_mono h hQ fun _ _ he => he

lemma wp_iff : wp x Q E s ↔
      (∀ a s', x.run s = (.ok a, s') → Q a s') ∧ (∀ e s', x.run s = (.error e, s') → E e s') := by
  unfold wp run
  rcases x s with ⟨e | a, s'⟩ <;> simp

variable {s' : σ}

lemma run_eq_ok
    (h : wp x (fun b t => b = a ∧ t = s') (fun _ _ => False) s) : x.run s = (.ok a, s') := by
  revert h
  unfold wp run
  rcases x s with ⟨e | b, t⟩
  · exact False.elim
  · rintro ⟨rfl, rfl⟩
    rfl

lemma exists_run_of_wp (h : wp x Q (fun _ _ => False) s) :
    ∃ a s', x.run s = (.ok a, s') ∧ Q a s' := by
  revert h
  unfold wp run
  rcases x s with ⟨e | a, s'⟩
  · exact False.elim
  · exact fun h => ⟨a, s', rfl, h⟩

lemma wp_iff_of_run (hrun : x.run s = (.ok a, s')) : wp x Q E s ↔ Q a s' := by
  have hx : x s = (.ok a, s') := hrun
  rw [wp, hx]

lemma wp_bind_of_run {R : β → σ → Prop} {f : α → Exec σ ε β}
    (hrun : x.run s = (.ok a, s')) : wp (x >>= f) R E s ↔ wp (f a) R E s' := by
  rw [wp_bind, wp_iff_of_run hrun]

lemma outcome_eq_ok : x.outcome s = .ok s' ↔ ∃ a, x.run s = (.ok a, s') := by
  unfold outcome run
  rcases x s with ⟨e | a, t⟩ <;> simp

/-- A loop: `I` holds of what is left to do, the accumulator and the state. -/
lemma wp_foldlM {f : β → α → Exec σ ε β} {I : List α → β → σ → Prop}
    (hstep : ∀ x rest b s, I (x :: rest) b s → wp (f b x) (I rest) E s) :
    ∀ (xs : List α) (b : β) (s : σ), I xs b s → wp (xs.foldlM f b) (I []) E s
  | [], _, _, h => h
  | x :: rest, b, s, h => by
      rw [List.foldlM_cons, wp_bind]
      exact wp_imp (hstep x rest b s h) (fun b' s' => wp_foldlM hstep rest b' s')

lemma wp_snd {P : σ → Prop} : wp x (fun _ => P) (fun _ => P) s ↔ P (x.run s).2 := by
  unfold wp run
  rcases x s with ⟨e | a, s'⟩ <;> rfl

end

/-- The rules that run a program step by step, for `simp only`. -/
lemma wp_rules : type_of% @wp_pure ∧ type_of% @wp_bind ∧ type_of% @wp_read ∧ type_of% @wp_modify ∧
    type_of% @wp_failIf ∧ type_of% @wp_ofOption ∧ type_of% @wp_ofExcept :=
  ⟨@wp_pure, @wp_bind, @wp_read, @wp_modify, @wp_failIf, @wp_ofOption, @wp_ofExcept⟩

/-- The same, for an outcome that nothing is asked of. -/
lemma wp_steps : type_of% wp_rules ∧ (∀ α : Type, (α → True) = True) ∧
    (∀ p : Prop, (p → True) = True) ∧ (∀ p, (True ∧ p) = p) ∧ ∀ p, (p ∧ True) = p :=
  ⟨wp_rules, implies_true, implies_true, true_and, and_true⟩

/-! ## Successful runs -/

section

variable {s s' : σ}

lemma run_bind_eq_ok {x : Exec σ ε α} {f : α → Exec σ ε β} {b : β} :
    (x >>= f).run s = (.ok b, s') ↔ ∃ a t, x.run s = (.ok a, t) ∧ (f a).run t = (.ok b, s') := by
  change bind' x f s = _ ↔ ∃ a t, x s = (.ok a, t) ∧ f a t = _
  unfold bind'
  rcases x s with ⟨e | a, t⟩ <;> simp

lemma run_pure_eq_ok {a b : α} : (pure a : Exec σ ε α).run s = (.ok b, s') ↔ a = b ∧ s = s' := by
  change ((.ok a : Except ε α), s) = _ ↔ _
  simp

lemma run_read_eq_ok {f : σ → α} {a : α} :
    (read f : Exec σ ε α).run s = (.ok a, s') ↔ f s = a ∧ s = s' := by
  change ((.ok (f s) : Except ε α), s) = _ ↔ _
  simp

lemma run_modify_eq_ok {f : σ → σ} {u : Unit} :
    (modify f : Exec σ ε Unit).run s = (.ok u, s') ↔ f s = s' := by
  change ((.ok () : Except ε Unit), f s) = _ ↔ _
  simp

lemma run_failIf_eq_ok {p : Prop} [Decidable p] {e : ε} {u : Unit} :
    (failIf p e : Exec σ ε Unit).run s = (.ok u, s') ↔ ¬ p ∧ s = s' := by
  unfold failIf run
  split_ifs with hp
  · simp [hp, fail]
  · change ((.ok () : Except ε Unit), s) = _ ↔ _
    simp [hp]

lemma run_ofExcept_eq_ok {f : ε' → ε} {r : Except ε' α} {a : α} :
    (ofExcept f r : Exec σ ε α).run s = (.ok a, s') ↔ r = .ok a ∧ s = s' := by
  rcases r with e | b
  · simp [ofExcept, run, fail]
  · change ((.ok b : Except ε α), s) = _ ↔ _
    simp

lemma run_mapError_eq_ok {f : ε' → ε} {x : Exec σ ε' α} {a : α} :
    (mapError f x).run s = (.ok a, s') ↔ x.run s = (.ok a, s') := by
  change mapError f x s = _ ↔ x s = _
  simp only [mapError]
  rcases x s with ⟨e | b, t⟩ <;> simp

end

/-! ## Failures that leave no trace -/

/-- A failure of `x` leaves the state it started from. -/
def Atomic (x : Exec σ ε α) : Prop := ∀ s, wp x (fun _ _ => True) (fun _ s' => s' = s) s

lemma Atomic.fail {e : ε} : Atomic (fail e : Exec σ ε α) := fun _ => rfl

variable {x : Exec σ ε α} {s : σ}

lemma Atomic.error (h : Atomic x) {s' : σ} {e : ε} (hrun : x.run s = (.error e, s')) : s' = s :=
  (wp_iff.mp (h s)).2 e s' hrun

def Fails (x : Exec σ ε α) (s : σ) : Prop := wp x (fun _ _ => False) (fun _ _ => True) s

lemma fails_iff : Fails x s ↔ ∃ e s', x.run s = (.error e, s') := by
  unfold Fails wp run
  rcases x s with ⟨e | a, s'⟩ <;> simp

lemma wp_congr_of_fails {Q Q' : α → σ → Prop} {E : ε → σ → Prop}
    (h : Fails x s) : wp x Q E s ↔ wp x Q' E s := by
  revert h
  unfold Fails wp
  rcases x s with ⟨e | a, s'⟩
  · exact fun _ => Iff.rfl
  · exact False.elim

lemma exists_run_of_not_fails (h : ¬ Fails x s) : ∃ a s', x.run s = (.ok a, s') := by
  revert h
  unfold Fails wp run
  rcases x s with ⟨e | a, s'⟩
  · exact fun h => absurd trivial h
  · exact fun _ => ⟨a, s', rfl⟩

/-! ## Computations that only look -/

/-- `x` leaves the state it started from, whether it succeeds or fails. -/
def ReadOnly (x : Exec σ ε α) : Prop := ∀ s, wp x (fun _ s' => s' = s) (fun _ s' => s' = s) s

namespace ReadOnly

lemma pure {a : α} : ReadOnly (Pure.pure a : Exec σ ε α) := fun _ => rfl

lemma read {f : σ → α} : ReadOnly (Exec.read f : Exec σ ε α) := fun _ => rfl

lemma failIf {p : Prop} [Decidable p] {e : ε} : ReadOnly (Exec.failIf p e : Exec σ ε Unit) := by
  intro s
  simp

lemma ofOption {e : ε} {o : Option α} : ReadOnly (Exec.ofOption e o : Exec σ ε α) := by
  intro s
  simp

lemma ofExcept {f : ε' → ε} {r : Except ε' α} : ReadOnly (Exec.ofExcept f r : Exec σ ε α) := by
  intro s
  simp

variable {x : Exec σ ε α}

lemma bind {f : α → Exec σ ε β} (hx : ReadOnly x)
    (hf : ∀ a, ReadOnly (f a)) : ReadOnly (x >>= f) := by
  intro s
  rw [wp_bind]
  refine wp_mono (hx s) (fun a s' hs' => ?_) (fun _ _ hs' => hs')
  subst hs'
  exact hf a s'

lemma ite {p : Prop} [Decidable p] {y : Exec σ ε α} (hx : ReadOnly x) (hy : ReadOnly y) :
    ReadOnly (if p then x else y) := by
  split_ifs
  · exact hx
  · exact hy

lemma wp_of (hx : ReadOnly x) {Q : α → σ → Prop} {E : ε → σ → Prop} {s : σ}
    (hok : ∀ a, Q a s) (herr : ∀ e, E e s) : wp x Q E s :=
  wp_mono (hx s) (fun a _ h => h ▸ hok a) fun e _ h => h ▸ herr e

end ReadOnly

lemma fails_check_iff {x : Exec σ ε Unit} {f : Unit → Exec σ ε α} (hx : ReadOnly x) :
    Fails (x >>= f) s ↔ Fails x s ∨ Fails (f ()) s := by
  have hsame := hx s
  revert hsame
  unfold Fails
  rw [wp_bind]
  unfold wp
  rcases x s with ⟨e | a, s'⟩
  · simp
  · rintro rfl
    simp

lemma fails_failIf_iff {p : Prop} [Decidable p] {e : ε} : Fails (failIf p e) s ↔ p := by
  simp [Fails]

/-! ## Frames -/

/-- `x` leaves the part `f` of the state as it was, whether it succeeds or fails. -/
def Leaves (f : σ → τ) (x : Exec σ ε α) : Prop :=
  ∀ s, wp x (fun _ s' => f s' = f s) (fun _ s' => f s' = f s) s

namespace Leaves

variable {f : σ → τ}

variable {x : Exec σ ε α}

lemma of_readOnly (hx : ReadOnly x) : Leaves f x := fun s =>
  wp_mono (hx s) (fun _ _ h => congrArg f h) fun _ _ h => congrArg f h

lemma pure {a : α} : Leaves f (Pure.pure a : Exec σ ε α) := fun _ => rfl

lemma fail {e : ε} : Leaves f (Exec.fail e : Exec σ ε α) := fun _ => rfl

lemma read {g : σ → α} : Leaves f (Exec.read g : Exec σ ε α) := fun _ => rfl

lemma failIf {p : Prop} [Decidable p] {e : ε} : Leaves f (Exec.failIf p e : Exec σ ε Unit) :=
  of_readOnly .failIf

lemma ofOption {e : ε} {o : Option α} : Leaves f (Exec.ofOption e o : Exec σ ε α) :=
  of_readOnly .ofOption

lemma ofExcept {g : ε' → ε} {r : Except ε' α} : Leaves f (Exec.ofExcept g r : Exec σ ε α) :=
  of_readOnly .ofExcept

lemma modify {g : σ → σ} (h : ∀ s, f (g s) = f s) : Leaves f (Exec.modify g : Exec σ ε Unit) := h

lemma bind {g : α → Exec σ ε β} (hx : Leaves f x)
    (hg : ∀ a, Leaves f (g a)) : Leaves f (x >>= g) := by
  intro s
  rw [wp_bind]
  refine wp_imp (hx s) (fun a t ht => ?_)
  exact wp_mono (hg a t) (fun _ _ h => h.trans ht) fun _ _ h => h.trans ht

lemma zoom {ρ : Type} {get : σ → ρ} {put : σ → ρ → σ} {g : ε' → ε} {x : ρ → Except ε' α × ρ}
    (h : ∀ s r, f (put s r) = f s) : Leaves f (Exec.zoom get put g x) := by
  intro s
  rw [wp_zoom]
  exact ⟨fun _ r _ => h s r, fun _ r _ => h s r⟩

lemma attempt (hx : Leaves f x) : Leaves f (Exec.attempt x : Exec σ ε' (Except ε α)) := by
  intro s
  rw [wp_attempt]
  exact wp_mono (hx s) (fun _ _ h => h) fun _ _ h => h

lemma mapError {x : Exec σ ε' α} (hx : Leaves f x) (g : ε' → ε) :
    Leaves f (Exec.mapError g x) := by
  intro s
  rw [wp_mapError]
  exact hx s

lemma ite {p : Prop} [Decidable p] {y : Exec σ ε α} (hx : Leaves f x) (hy : Leaves f y) :
    Leaves f (if p then x else y) := by
  split_ifs
  · exact hx
  · exact hy

lemma map {ρ : Type} (g : τ → ρ) (hx : Leaves f x) : Leaves (fun s => g (f s)) x := fun s =>
  wp_mono (hx s) (fun _ _ h => congrArg g h) fun _ _ h => congrArg g h

lemma ensures (hx : Leaves f x) (s : σ) : wp x (fun _ s' => f s' = f s) (fun _ _ => True) s :=
  wp_mono (hx s) (fun _ _ h => h) fun _ _ _ => trivial

lemma run (hx : Leaves f x) (s : σ) : f (x.run s).2 = f s :=
  wp_snd.mp (hx s)

end Leaves

/-! ## Two runs -/

/-- The same error twice, or related values. -/
inductive Agrees (R : α → β → Prop) : Except ε α → Except ε β → Prop
  | error (e : ε) : Agrees R (.error e) (.error e)
  | ok {a : α} {b : β} (h : R a b) : Agrees R (.ok a) (.ok b)

lemma Agrees.bind {α' β' : Type} {R : α → β → Prop} {R' : α' → β' → Prop} {x : Except ε α}
    {y : Except ε β} {f : α → Except ε α'} {g : β → Except ε β'} (h : Agrees R x y)
    (hf : ∀ a b, R a b → Agrees R' (f a) (g b)) : Agrees R' (x.bind f) (y.bind g) := by
  cases h with
  | error e => exact .error e
  | ok h => exact hf _ _ h

lemma Agrees.of_eq {x y : Except ε α} (h : x = y) : Agrees Eq x y := by
  subst h
  cases x with
  | error e => exact .error e
  | ok a => exact .ok rfl

variable {g : Unit → Exec σ ε β}

lemma outcome_bind {x : Exec σ ε Unit} :
    (x >>= g).outcome s = (x.outcome s).bind (g ()).outcome := by
  change outcome (bind' x g) s = _
  unfold outcome bind'
  rcases x s with ⟨e | ⟨⟩, s'⟩
  · rfl
  · rfl

lemma outcome_modify_bind {f : σ → σ} : (modify f >>= g).outcome s = (g ()).outcome (f s) := rfl

/-- From related states `x` gives the same outcome and leaves related states. -/
def Respects (R : σ → σ → Prop) (x : Exec σ ε α) : Prop :=
  ∀ s t, R s t → (x s).1 = (x t).1 ∧ R (x s).2 (x t).2

namespace Respects

variable {R : σ → σ → Prop}

lemma pure {a : α} : Respects R (Pure.pure a : Exec σ ε α) := fun _ _ h => ⟨rfl, h⟩

lemma fail {e : ε} : Respects R (Exec.fail e : Exec σ ε α) := fun _ _ h => ⟨rfl, h⟩

lemma failIf {p : Prop} [Decidable p] {e : ε} : Respects R (Exec.failIf p e : Exec σ ε Unit) := by
  unfold Exec.failIf
  split_ifs
  · exact fail
  · exact pure

lemma ofOption {e : ε} {o : Option α} : Respects R (Exec.ofOption e o : Exec σ ε α) := by
  cases o with
  | none => exact fail
  | some a => exact pure

variable {g : α → Exec σ ε β}

lemma ofOption_bind {e : ε} {o : Option α}
    (hg : ∀ a, o = some a → Respects R (g a)) : Respects R (Exec.ofOption e o >>= g) := by
  cases o with
  | none => exact fail
  | some a => exact hg a rfl

lemma ofExcept {g : ε' → ε} {r : Except ε' α} : Respects R (Exec.ofExcept g r : Exec σ ε α) := by
  cases r with
  | error e => exact fail
  | ok a => exact pure

lemma read {g : σ → α} (h : ∀ s t, R s t → g s = g t) : Respects R (Exec.read g : Exec σ ε α) :=
  fun s t hst => ⟨congrArg Except.ok (h s t hst), hst⟩

lemma modify {g : σ → σ} (h : ∀ s t, R s t → R (g s) (g t)) :
    Respects R (Exec.modify g : Exec σ ε Unit) := fun s t hst => ⟨rfl, h s t hst⟩

variable {x : Exec σ ε α}

lemma run_pair (hx : Respects R x) {s t : σ} (hst : R s t) :
    ∃ r s' t', x s = (r, s') ∧ x t = (r, t') ∧ R s' t' :=
  ⟨_, _, (x t).2, rfl, Prod.ext (hx s t hst).1.symm rfl, (hx s t hst).2⟩

lemma bind (hx : Respects R x) (hg : ∀ a, Respects R (g a)) : Respects R (x >>= g) := by
  intro s t hst
  obtain ⟨r, s', t', hs, ht, hleft⟩ := hx.run_pair hst
  change (bind' x g s).1 = (bind' x g t).1 ∧ R (bind' x g s).2 (bind' x g t).2
  unfold bind'
  rw [hs, ht]
  rcases r with _ | a
  · exact ⟨rfl, hleft⟩
  · exact hg a s' t' hleft

lemma guard {p : Prop} [Decidable p] {e : ε} (hx : Respects R x) :
    Respects R (Exec.failIf p e >>= fun _ => x) := bind failIf fun _ => hx

lemma option {e : ε} {o : Option α} (hg : ∀ a, Respects R (g a)) :
    Respects R (Exec.ofOption e o >>= g) := bind ofOption hg

lemma except {f : ε' → ε} {r : Except ε' α} (hg : ∀ a, Respects R (g a)) :
    Respects R (Exec.ofExcept f r >>= g) := bind ofExcept hg

/-- A computation that reads the state at its head, and of it only what `R` fixes. -/
lemma read_bind {g : σ → Exec σ ε β} (h : ∀ s t, R s t → g s = g t)
    (hg : ∀ s, Respects R (g s)) : Respects R (Exec.read id >>= g) := by
  intro s t hst
  change (g s s).1 = (g t t).1 ∧ R (g s s).2 (g t t).2
  rw [← h s t hst]
  exact hg s s t hst

lemma zoom {ρ : Type} {get : σ → ρ} {put : σ → ρ → σ} {g : ε' → ε} {x : ρ → Except ε' α × ρ}
    (hget : ∀ s t, R s t → get s = get t) (hput : ∀ s t r, R s t → R (put s r) (put t r)) :
    Respects R (Exec.zoom get put g x) := by
  intro s t hst
  unfold Exec.zoom
  rw [← hget s t hst]
  rcases x (get s) with ⟨_ | a, r⟩
  · exact ⟨rfl, hput s t r hst⟩
  · exact ⟨rfl, hput s t r hst⟩

lemma attempt (hx : Respects R x) : Respects R (Exec.attempt x : Exec σ ε' (Except ε α)) := by
  intro s t hst
  obtain ⟨houtcome, hleft⟩ := hx s t hst
  exact ⟨congrArg Except.ok houtcome, hleft⟩

lemma attemptAll {xs : List (Exec σ ε α)} (h : ∀ x ∈ xs, Respects R x) :
    Respects R (Exec.attemptAll xs : Exec σ ε' (List (Except ε α))) := by
  induction xs with
  | nil => exact .pure
  | cons x xs ih =>
    obtain ⟨hx, hxs⟩ := List.forall_mem_cons.mp h
    exact .bind hx.attempt fun _ => .bind (ih hxs) fun _ => .pure

lemma mapError {x : Exec σ ε' α} (hx : Respects R x) (g : ε' → ε) :
    Respects R (Exec.mapError g x) := by
  intro s t hst
  obtain ⟨r, s', t', hs, ht, hleft⟩ := hx.run_pair hst
  unfold Exec.mapError
  rw [hs, ht]
  rcases r with _ | a
  · exact ⟨rfl, hleft⟩
  · exact ⟨rfl, hleft⟩

lemma ite {p : Prop} [Decidable p] {y : Exec σ ε α} (hx : Respects R x)
    (hy : Respects R y) : Respects R (if p then x else y) := by
  split_ifs
  · exact hx
  · exact hy

lemma run_eq (hx : Respects R x) {s s' t : σ} {r : Except ε α} (hst : R s t)
    (hrun : x.run s = (r, s')) : ∃ t', x.run t = (r, t') ∧ R s' t' := by
  obtain ⟨houtcome, hleft⟩ := hx s t hst
  change x s = _ at hrun
  rw [hrun] at houtcome hleft
  exact ⟨(x t).2, Prod.ext houtcome.symm rfl, hleft⟩

lemma run_eq_left (hx : Respects R x) {s t t' : σ} {r : Except ε α}
    (hst : R s t) (hrun : x.run t = (r, t')) : ∃ s', x.run s = (r, s') ∧ R s' t' := by
  obtain ⟨houtcome, hleft⟩ := hx s t hst
  change x t = _ at hrun
  rw [hrun] at houtcome hleft
  exact ⟨(x s).2, Prod.ext houtcome rfl, hleft⟩

lemma outcome (hx : Respects R x) {s t : σ} (hst : R s t) :
    Agrees R (x.outcome s) (x.outcome t) := by
  obtain ⟨r, s', t', hs, ht, hleft⟩ := hx.run_pair hst
  unfold Exec.outcome
  rw [hs, ht]
  rcases r with _ | a
  · exact .error _
  · exact .ok hleft

end Respects

/-- From the states `s` and `t` the one has the outcome of the other and leaves a related
state. -/
def Matches (R : σ → σ → Prop) (x y : Exec σ ε α) (s t : σ) : Prop :=
  (x s).1 = (y t).1 ∧ R (x s).2 (y t).2

namespace Matches

variable {R : σ → σ → Prop} {s t : σ}

lemma read_bind {f : σ → β} {g g' : β → Exec σ ε α} (h : Matches R (g (f s)) (g' (f t)) s t) :
    Matches R (Exec.read f >>= g) (Exec.read f >>= g') s t := h

lemma ofExcept_bind {γ : Type} {Q : β → γ → Prop} {f : ε' → ε} {r : Except ε' β}
    {r' : Except ε' γ} {g : β → Exec σ ε α} {g' : γ → Exec σ ε α} (hst : R s t)
    (h : Agrees Q r r') (hg : ∀ b c, r = .ok b → Q b c → Matches R (g b) (g' c) s t) :
    Matches R (Exec.ofExcept f r >>= g) (Exec.ofExcept f r' >>= g') s t := by
  cases h with
  | error e => exact ⟨rfl, hst⟩
  | ok h => exact hg _ _ rfl h

end Matches

/-! ## Invariants -/

/-- `x` keeps `P`, whether it succeeds or fails. -/
def Preserves (P : σ → Prop) (x : Exec σ ε α) : Prop :=
  ∀ s, P s → wp x (fun _ => P) (fun _ => P) s

namespace Preserves

variable {P : σ → Prop}

lemma pure {a : α} : Preserves P (Pure.pure a : Exec σ ε α) := fun _ h => h

lemma fail {e : ε} : Preserves P (Exec.fail e : Exec σ ε α) := fun _ h => h

lemma read {f : σ → α} : Preserves P (Exec.read f : Exec σ ε α) := fun _ h => h

lemma failIf {p : Prop} [Decidable p] {e : ε} : Preserves P (Exec.failIf p e : Exec σ ε Unit) := by
  intro s h
  simp [h]

lemma ofOption {e : ε} {o : Option α} : Preserves P (Exec.ofOption e o : Exec σ ε α) := by
  intro s h
  simp [h]

lemma ofExcept {f : ε' → ε} {r : Except ε' α} : Preserves P (Exec.ofExcept f r : Exec σ ε α) := by
  intro s h
  simp [h]

variable {x : Exec σ ε α}

lemma attempt (hx : Preserves P x) : Preserves P (Exec.attempt x : Exec σ ε' (Except ε α)) := by
  intro s h
  rw [wp_attempt]
  exact hx s h

lemma modify {f : σ → σ} (h : ∀ s, P s → P (f s)) :
    Preserves P (Exec.modify f : Exec σ ε Unit) := h

lemma bind {f : α → Exec σ ε β} (hx : Preserves P x)
    (hf : ∀ a, Preserves P (f a)) : Preserves P (x >>= f) := by
  intro s h
  rw [wp_bind]
  exact wp_mono (hx s h) (fun a s' hs' => hf a s' hs') (fun _ _ hs' => hs')

lemma attemptAll {xs : List (Exec σ ε α)} (h : ∀ x ∈ xs, Preserves P x) :
    Preserves P (Exec.attemptAll xs : Exec σ ε' (List (Except ε α))) := by
  induction xs with
  | nil => exact .pure
  | cons x xs ih =>
    obtain ⟨hx, hxs⟩ := List.forall_mem_cons.mp h
    exact .bind hx.attempt fun _ => .bind (ih hxs) fun _ => .pure

lemma of_readOnly (hx : ReadOnly x) : Preserves P x := by
  intro s h
  refine wp_mono (hx s) (fun _ _ hs' => ?_) (fun _ _ hs' => ?_)
  · rwa [hs']
  · rwa [hs']

lemma zoom_run {P' : τ → Prop} {get : σ → τ} {put : σ → τ → σ} {f : ε' → ε} {x : Exec τ ε' α}
    (hx : Preserves P' x) (hget : ∀ s, P s → P' (get s)) (hput : ∀ s t, P s → P' t → P (put s t)) :
    Preserves P (Exec.zoom get put f x.run) := by
  intro s h
  rw [wp_zoom_run]
  exact wp_mono (hx (get s) (hget s h)) (fun _ t ht => hput s t h ht) (fun _ t ht => hput s t h ht)

lemma ite {p : Prop} [Decidable p] {y : Exec σ ε α} (hx : Preserves P x)
    (hy : Preserves P y) : Preserves P (if p then x else y) := by
  split_ifs
  · exact hx
  · exact hy

lemma run (hx : Preserves P x) {s : σ} (h : P s) : P (x.run s).2 :=
  wp_snd.mp (hx s h)

end Preserves

/-! ## What a success did -/

/-- A success of `x` relates the state it started from to the state it left. -/
def Ensures (R : σ → σ → Prop) (x : Exec σ ε α) : Prop :=
  ∀ s, wp x (fun _ s' => R s s') (fun _ _ => True) s

namespace Ensures

variable {R R₁ R₂ : σ → σ → Prop}

variable {x : Exec σ ε α}

lemma of_run (hx : Ensures R x) {s s' : σ} {a : α} (hrun : x.run s = (.ok a, s')) : R s s' :=
  (wp_iff.mp (hx s)).1 a s' hrun

lemma mono (hx : Ensures R₁ x) (h : ∀ s s', R₁ s s' → R s s') : Ensures R x := fun s =>
  wp_mono (hx s) (fun _ s' => h s s') (fun _ _ h => h)

lemma of_readOnly (hx : ReadOnly x) (hrefl : ∀ s, R s s) : Ensures R x := by
  intro s
  refine wp_mono (hx s) (fun _ s' hs' => ?_) (fun _ _ _ => trivial)
  rw [hs']
  exact hrefl s

variable {f : α → Exec σ ε β}

lemma bind (hx : Ensures R₁ x)
    (hf : ∀ a, Ensures R₂ (f a)) (h : ∀ s t u, R₁ s t → R₂ t u → R s u) : Ensures R (x >>= f) := by
  intro s
  rw [wp_bind]
  refine wp_mono (hx s) (fun a t hst => ?_) (fun _ _ h => h)
  exact wp_mono (hf a t) (fun _ u htu => h s t u hst htu) (fun _ _ h => h)

lemma check (hx : ReadOnly x) (hf : ∀ a, Ensures R (f a)) : Ensures R (x >>= f) := by
  intro s
  rw [wp_bind]
  refine wp_mono (hx s) (fun a t ht => ?_) (fun _ _ _ => trivial)
  subst ht
  exact hf a t

lemma guard {p : Prop} [Decidable p] {e : ε} (hx : Ensures R x) :
    Ensures R (failIf p e >>= fun _ => x) := check .failIf fun _ => hx

variable {put : σ → τ → σ}

lemma zoom {get : σ → τ} {f : ε' → ε} {x : τ → Except ε' α × τ}
    (h : ∀ s t, R s (put s t)) : Ensures R (Exec.zoom get put f x) := by
  intro s
  rw [wp_zoom]
  exact ⟨fun _ t _ => h s t, fun _ _ _ => trivial⟩

lemma attempt_zoom {get : σ → τ} {f : ε' → ε} {x : τ → Except ε' α × τ}
    (h : ∀ s t, R s (put s t)) :
    Ensures R (Exec.attempt (Exec.zoom get put f x : Exec σ ε α) : Exec σ ε (Except ε α)) := by
  intro s
  rw [wp_attempt, wp_zoom]
  exact ⟨fun _ t _ => h s t, fun _ t _ => h s t⟩

lemma mapError {x : Exec σ ε' α} (hx : Ensures R x) (f : ε' → ε) :
    Ensures R (Exec.mapError f x) := by
  intro s
  rw [wp_mapError]
  exact hx s

lemma ite {p : Prop} [Decidable p] {y : Exec σ ε α} (hx : Ensures R x) (hy : Ensures R y) :
    Ensures R (if p then x else y) := by
  split_ifs
  · exact hx
  · exact hy

end Ensures

end Exec
