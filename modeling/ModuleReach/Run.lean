import ModuleReach.Note

/-!
# Runs

The result of a computation that may end early in a fault and that takes notes on its way.  The notes taken before a fault
are kept.

## Main definitions

* `Run α` — the notes of a computation and its outcome, a value or a fault.
* `Run.note`, `Run.fail`, `Run.noting` — a run that takes a note, one that ends in a fault, and one with
  notes put before its own.

## Main results

* `Run.outcome_bind`, `Run.notes_bind` — a run in two parts ends as its second part does if the first
  succeeds, and then has the notes of both.
-/

namespace ModuleReach

/-- The notes of a computation and its outcome. -/
@[ext] structure Run (α : Type) where
  notes : List Note
  outcome : Except Fault α

namespace Run

variable {α β : Type}

/-- The run that only takes a note. -/
def note (n : Note) : Run Unit := ⟨[n], .ok ()⟩

/-- The run that ends in a fault. -/
def fail (f : Fault) : Run α := ⟨[], .error f⟩

/-- The run of a computation that takes no notes. -/
def ofExcept (outcome : Except Fault α) : Run α := ⟨[], outcome⟩

/-- The run with notes put before its own. -/
def noting (notes : List Note) (r : Run α) : Run α := ⟨notes ++ r.notes, r.outcome⟩

/-- The run that continues with the value of another one. -/
def bind (r : Run α) (f : α → Run β) : Run β :=
  match r.outcome with
  | .ok a => (f a).noting r.notes
  | .error e => ⟨r.notes, .error e⟩

instance : Monad Run where
  pure a := ⟨[], .ok a⟩
  bind := bind

@[simp] theorem outcome_pure (a : α) : (pure a : Run α).outcome = .ok a := rfl

@[simp] theorem notes_pure (a : α) : (pure a : Run α).notes = [] := rfl

@[simp] theorem outcome_noting (notes : List Note) (r : Run α) :
    (r.noting notes).outcome = r.outcome := rfl

@[simp] theorem notes_noting (notes : List Note) (r : Run α) :
    (r.noting notes).notes = notes ++ r.notes := rfl

@[simp] theorem noting_nil (r : Run α) : r.noting [] = r := rfl

theorem outcome_bind (r : Run α) (f : α → Run β) :
    (r >>= f).outcome = r.outcome.bind fun a => (f a).outcome := by
  change (Run.bind r f).outcome = _
  unfold Run.bind
  cases r.outcome <;> rfl

theorem notes_bind (r : Run α) (f : α → Run β) :
    (r >>= f).notes = r.notes ++
      match r.outcome with
      | .ok a => (f a).notes
      | .error _ => [] := by
  change (Run.bind r f).notes = _
  unfold Run.bind
  cases r.outcome <;> simp

@[simp] theorem pure_bind (a : α) (f : α → Run β) : (pure a : Run α) >>= f = f a := rfl

@[simp] theorem outcome_note (n : Note) : (note n).outcome = .ok () := rfl

@[simp] theorem outcome_fail (f : Fault) : (fail f : Run α).outcome = .error f := rfl

@[simp] theorem outcome_ofExcept (o : Except Fault α) : (ofExcept o).outcome = o := rfl

end Run

end ModuleReach
