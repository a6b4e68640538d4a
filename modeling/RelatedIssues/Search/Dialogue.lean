import RelatedIssues.Event

namespace RelatedIssues

-- A call for one page of a search, by a cursor or by an offset.
inductive Call where
  | enhanced (query : String) (fields : List String) (size : Int) (token : Option String)
  | legacy (query : String) (fields : List String) (start size : Int)
  deriving DecidableEq, Repr

namespace Call

def query : Call → String
  | enhanced query .. => query
  | legacy query .. => query

def isLegacy : Call → Bool
  | enhanced .. => false
  | legacy .. => true

end Call

-- A page, or the failure to get one.
abbrev Reply := Except Failure Json

-- A dialogue with a search service: calls whose replies decide how it goes on, and events that are told on the way. It
-- knows nothing of the client that runs it.
inductive Dialogue (α : Type) where
  | done (a : α)
  | tell (e : Event) (rest : Dialogue α)
  | ask (call : Call) (next : Reply → Dialogue α)

-- A client answers calls, and what it answers may depend on what happened before.
structure Client (σ : Type) where
  answer : σ → Call → Reply × σ

structure Run (σ α : Type) where
  calls  : List Call
  events : List Event
  state  : σ
  value  : α

def Run.map {σ α β : Type} (f : α → β) (r : Run σ α) : Run σ β :=
  { r with value := f r.value }

namespace Run

variable {α β γ σ : Type} {f : α → β} {g : β → γ} {r : Run σ α}

theorem map_map : (r.map f).map g = r.map fun a => g (f a) :=
  rfl

end Run

namespace Dialogue

variable {α β σ : Type}

def bind : Dialogue α → (α → Dialogue β) → Dialogue β
  | done a, f => f a
  | tell e rest, f => tell e (rest.bind f)
  | ask call next, f => ask call fun reply => (next reply).bind f

def map (f : α → β) (d : Dialogue α) : Dialogue β :=
  d.bind fun a => done (f a)

def call (c : Call) : Dialogue Reply :=
  ask c done

instance : Monad Dialogue where
  pure := done
  bind := bind

def run (client : Client σ) (s : σ) : Dialogue α → Run σ α
  | done a => { calls := [], events := [], state := s, value := a }
  | tell e rest =>
    let r := run client s rest
    { r with events := e :: r.events }
  | ask call next =>
    let r := run client (client.answer s call).2 (next (client.answer s call).1)
    { r with calls := call :: r.calls }

variable {client : Client σ} {s : σ}

@[simp]
theorem run_done {a : α} : (done a).run client s = ⟨[], [], s, a⟩ :=
  rfl

@[simp]
theorem calls_run_tell {e : Event} {rest : Dialogue α} :
    ((tell e rest).run client s).calls = (rest.run client s).calls :=
  rfl

@[simp]
theorem events_run_tell {e : Event} {rest : Dialogue α} :
    ((tell e rest).run client s).events = e :: (rest.run client s).events :=
  rfl

@[simp]
theorem value_run_tell {e : Event} {rest : Dialogue α} :
    ((tell e rest).run client s).value = (rest.run client s).value :=
  rfl

@[simp]
theorem state_run_tell {e : Event} {rest : Dialogue α} :
    ((tell e rest).run client s).state = (rest.run client s).state :=
  rfl

-- A run of two dialogues in a row is a run of the first and a run of the second.
theorem run_bind {d : Dialogue α} {f : α → Dialogue β} :
    (d.bind f).run client s =
      let r := d.run client s
      let r' := (f r.value).run client r.state
      ⟨r.calls ++ r'.calls, r.events ++ r'.events, r'.state, r'.value⟩ := by
  induction d generalizing s with
  | done a => rfl
  | tell e rest ih => simp [bind, run, ih]
  | ask call next ih => simp [bind, run, ih]

theorem run_map {d : Dialogue α} {f : α → β} : (d.map f).run client s = (d.run client s).map f := by
  rw [map, run_bind]
  simp [Run.map]

end Dialogue
end RelatedIssues
