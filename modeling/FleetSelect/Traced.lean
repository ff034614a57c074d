import FleetSelect.Event
import FleetSelect.Failure

namespace FleetSelect

/-- The events of a computation and its result. -/
structure Traced (α : Type) where
  events : List Event
  result : Except Failure α

namespace Traced

variable {α β : Type}

protected def pure (a : α) : Traced α :=
  ⟨[], .ok a⟩

protected def bind (x : Traced α) (f : α → Traced β) : Traced β :=
  match x.result with
  | .ok a => ⟨x.events ++ (f a).events, (f a).result⟩
  | .error e => ⟨x.events, .error e⟩

instance : Monad Traced where
  pure := Traced.pure
  bind := Traced.bind

def emit (e : Event) : Traced Unit :=
  ⟨[e], .ok ()⟩

def emitAll (es : List Event) : Traced Unit :=
  ⟨es, .ok ()⟩

def fail (e : Failure) : Traced α :=
  ⟨[], .error e⟩

@[simp] theorem result_pure (a : α) : (pure a : Traced α).result = .ok a := rfl

theorem bind_of_ok {x : Traced α} {a : α} (h : x.result = .ok a) (f : α → Traced β) :
    x >>= f = ⟨x.events ++ (f a).events, (f a).result⟩ := by
  simp only [bind, Traced.bind, h]

theorem bind_of_error {x : Traced α} {e : Failure} (h : x.result = .error e) (f : α → Traced β) :
    x >>= f = ⟨x.events, .error e⟩ := by
  simp only [bind, Traced.bind, h]

@[simp] theorem result_bind (x : Traced α) (f : α → Traced β) :
    (x >>= f).result = x.result >>= fun a => (f a).result := by
  cases h : x.result with
  | ok a => rw [bind_of_ok h]; rfl
  | error e => rw [bind_of_error h]; rfl

@[simp] theorem emit_bind (e : Event) (f : Unit → Traced β) :
    emit e >>= f = ⟨e :: (f ()).events, (f ()).result⟩ := rfl

@[simp] theorem emitAll_bind (es : List Event) (f : Unit → Traced β) :
    emitAll es >>= f = ⟨es ++ (f ()).events, (f ()).result⟩ := rfl

end Traced

end FleetSelect
