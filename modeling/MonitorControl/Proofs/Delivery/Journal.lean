/-
Actions that are watched while they run.

What a chain or a dispatch calls, in which order and with what, is not to be seen in
its result. To talk about the calls, the actions that it is given are replaced by
ones that note in a journal what they were called with and what came of it; chain
and dispatch themselves stay as they are, since they run in any monad.

A note must not change what it is about. `Watches` says that an action with a
journal is, without the journal, the action itself, and it is kept by everything
that programs are made of. So a theorem about a journal is one about the program
that nobody watches.
-/
import MonitorControl.Delivery.Transport

set_option autoImplicit false

namespace MonitorControl

variable {m : Type → Type} {ε α β σ : Type}

/-! ## Notes -/

/-- **A noted action**: it is carried out, and a note of its result goes to the end of the
journal. -/
def noted [Monad m] (note : α → ε) (action : m α) : StateT (List ε) m α := fun journal => do
  let a ← action
  return (a, journal ++ [note a])

/-- Actions in sequence: the second finds the result, the journal and the state of the first. -/
theorem bind_apply (x : StateT (List ε) (StateM σ) α) (f : α → StateT (List ε) (StateM σ) β)
    (journal : List ε) (s : σ) :
    (x >>= f) journal s = f (x journal s).1.1 (x journal s).1.2 (x journal s).2 := rfl

/-- The same without a journal. -/
theorem bind_state_apply (x : StateM σ α) (f : α → StateM σ β) (s : σ) :
    (x >>= f) s = f (x s).1 (x s).2 := rfl

theorem noted_apply (note : α → ε) (action : StateM σ α) (journal : List ε) (s : σ) :
    noted note action journal s =
      (((action s).1, journal ++ [note (action s).1]), (action s).2) := rfl

/-- A transport that notes every command it is handed, and what came of it. -/
def Transport.noting [Monad m]
    (note : Command → Target → Option Text → Except TransportError Unit → ε) (t : Transport m) :
    Transport (StateT (List ε) m) where
  name := t.name
  bound := t.bound
  send := fun command target monitor =>
    noted (note command target monitor) (t.send command target monitor)
  probe := StateT.lift t.probe

/-! ## Watching changes nothing -/

/-- **An action with a journal watches another** if it is that action once the journal is forgotten,
whatever was in the journal. -/
def Watches [Monad m] (x : StateT (List ε) m α) (action : m α) : Prop :=
  ∀ journal, Prod.fst <$> x.run journal = action

namespace Watches

section

variable [Monad m] [LawfulMonad m]

theorem noted (note : α → ε) (action : m α) :
    Watches (MonitorControl.noted note action) action := by
  intro journal
  show Prod.fst <$> (action >>= fun a => pure (a, journal ++ [note a])) = action
  rw [map_bind]
  simp only [map_pure, bind_pure]

theorem pure (a : α) : Watches (Pure.pure a : StateT (List ε) m α) (Pure.pure a) := by
  intro journal
  rw [StateT.run_pure, map_pure]

/-- Actions that are watched one by one are watched in sequence. -/
theorem bind {x : StateT (List ε) m α} {action : m α} {f : α → StateT (List ε) m β}
    {next : α → m β} (hx : Watches x action) (hf : ∀ a, Watches (f a) (next a)) :
    Watches (x >>= f) (action >>= next) := by
  intro journal
  have hnext : ∀ p : α × List ε, Prod.fst <$> (f p.1).run p.2 = next p.1 := fun p => hf p.1 p.2
  rw [StateT.run_bind, map_bind]
  simp only [hnext]
  rw [← hx journal, bind_map_left]

/-- A loop is watched if each of its steps is. -/
theorem foldlM {step : β → α → StateT (List ε) m β} {action : β → α → m β}
    (hstep : ∀ b a, Watches (step b a) (action b a)) (as : List α) (b : β) :
    Watches (as.foldlM step b) (as.foldlM action b) := by
  induction as generalizing b with
  | nil => exact .pure b
  | cons a as ih =>
    rw [List.foldlM_cons, List.foldlM_cons]
    exact .bind (hstep b a) ih

end

/-- A watched run has the result and the end of the run itself, besides its journal. -/
theorem run_eq {x : StateT (List ε) (StateM σ) α} {action : StateM σ α} (h : Watches x action)
    (journal : List ε) (s : σ) :
    x journal s = (((action s).1, (x journal s).1.2), (action s).2) := by
  rw [← h journal]
  rfl

end Watches

end MonitorControl
