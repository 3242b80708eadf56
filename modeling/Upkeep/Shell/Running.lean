/-!
# Running — computations that stop on the way

A running computation over a state is done, has paused, or waits for input that is not there yet.
Whoever runs it sees the state at every stop, may change it and goes on from there. `RunM` is the
monad of such computations; between two stops it is an ordinary state monad.
-/

namespace Upkeep.Shell

/-- A computation that has been started. -/
inductive Running (σ α : Type) where
  | done (value : α) (state : σ)
  | paused (state : σ) (resume : σ → Running σ α)
  | waiting (state : σ) (resume : σ → Running σ α)

namespace Running

variable {σ α β : Type}

/-- The state at the present stop. -/
def state : Running σ α → σ
  | .done _ s => s
  | .paused s _ => s
  | .waiting s _ => s

/-- Goes on with another computation when the first one is done. -/
def bind : Running σ α → (α → σ → Running σ β) → Running σ β
  | .done a s, f => f a s
  | .paused s k, f => .paused s fun s => (k s).bind f
  | .waiting s k, f => .waiting s fun s => (k s).bind f

/-- Goes on over at most so many pauses, up to the end or to a wait. -/
def advance : Nat → Running σ α → Running σ α
  | budget + 1, .paused s k => advance budget (k s)
  | _, r => r

/-- The computation after a change of the state where it has stopped. One that is done stays as
it is. -/
def withState (f : σ → σ) : Running σ α → Running σ α
  | .done a s => .done a (f s)
  | .paused s k => .paused (f s) k
  | .waiting s k => .waiting (f s) k

/-- Goes on from a wait. -/
def wake : Running σ α → Running σ α
  | .waiting s k => k s
  | r => r

end Running

/-- What can be run over a state. -/
def RunM (σ α : Type) := σ → Running σ α

namespace RunM

variable {σ α β : Type}

instance : Monad (RunM σ) where
  pure a := fun s => .done a s
  bind x f := fun s => (x s).bind f

instance : MonadStateOf σ (RunM σ) where
  get := fun s => .done s s
  set s := fun _ => .done () s
  modifyGet f := fun s => let (a, s) := f s; .done a s

/-- Lets others go on. -/
def pause : RunM σ Unit := fun s => .paused s fun s => .done () s

/-- Waits for input. -/
def wait : RunM σ Unit := fun s => .waiting s fun s => .done () s

end RunM

end Upkeep.Shell
