import DeviceRegistry.Encoder.Call

/-! Work on a state that it shares with other work. It stops where others may take their turn:
between two transactions, and while it waits for the encoder. There it holds nothing: the state is
handed out, and whatever the state has become by then is what the work goes on with. -/
namespace DeviceRegistry

/-- Where a piece of work stands. -/
inductive Progress (σ α : Type) where
  | finished (value : α) (state : σ)
  /-- Lets others take their turn, and goes on. -/
  | paused (state : σ) (resume : σ → Progress σ α)
  /-- Waits for the encoder, and goes on with its answer and the time it took. -/
  | calling (call : EncoderCall) (state : σ)
      (resume : Except EncoderError call.Answer → Duration → σ → Progress σ α)

namespace Progress

variable {σ α β : Type}

def bind (p : Progress σ α) (f : α → σ → Progress σ β) : Progress σ β :=
  match p with
  | .finished a s => f a s
  | .paused s resume => .paused s fun s => (resume s).bind f
  | .calling call s resume => .calling call s fun r d s => (resume r d s).bind f

/-- Runs a piece of work to its end; nobody else takes a turn at its pauses. `answer` performs the
calls and tells the state that each leaves behind. -/
def run {m : Type → Type} [Monad m]
    (answer : (call : EncoderCall) → σ → m (Except EncoderError call.Answer × Duration × σ)) :
    Progress σ α → m (α × σ)
  | .finished a s => pure (a, s)
  | .paused s resume => run answer (resume s)
  | .calling call s resume => do
    let (r, d, s) ← answer call s
    run answer (resume r d s)

end Progress

/-- Work on a shared state of type `σ` that may call the encoder. -/
def Flow (σ α : Type) : Type := σ → Progress σ α

namespace Flow

variable {σ α : Type}

instance : Monad (Flow σ) where
  pure a := fun s => .finished a s
  bind p f := fun s => (p s).bind f

instance : MonadStateOf σ (Flow σ) where
  get := fun s => .finished s s
  set s := fun _ => .finished () s
  modifyGet f := fun s => let (a, s) := f s; .finished a s

/-- A turn for others. -/
def pause : Flow σ Unit := fun s => .paused s fun s => .finished () s

/-- One call to the encoder. -/
def call (c : EncoderCall) : Flow σ (Except EncoderError c.Answer × Duration) := fun s =>
  .calling c s fun r d s => .finished (r, d) s

/-- Work that calls nobody. -/
def ofStep {ε : Type} (step : EStateM ε σ α) : ExceptT ε (Flow σ) α := fun s =>
  match step s with
  | .ok a s => .finished (.ok a) s
  | .error e s => .finished (.error e) s

end Flow
end DeviceRegistry
