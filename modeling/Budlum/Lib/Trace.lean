import Mathlib

/-!
# Runs that emit events

A step takes a state to a state and emits a list of events. A trace is a run of steps
with everything they emitted, in order.
-/

/-- A run of `step`, and the events it emitted. -/
inductive Trace {σ ε : Type} (step : σ → List ε → σ → Prop) : σ → List ε → σ → Prop
  | nil (s : σ) : Trace step s [] s
  | snoc {s t u : σ} {es es' : List ε} (h : Trace step s es t) (hstep : step t es' u) :
      Trace step s (es ++ es') u

namespace Trace

variable {σ ε : Type} {step step' : σ → List ε → σ → Prop} {s t u : σ} {es es' : List ε}

lemma single (h : step s es t) : Trace step s es t := (nil s).snoc h

lemma append (h : Trace step s es t) (h' : Trace step t es' u) : Trace step s (es ++ es') u := by
  induction h' with
  | nil => rwa [List.append_nil]
  | snoc _ hstep ih =>
    rw [← List.append_assoc]
    exact ih.snoc hstep

end Trace
