/-!
# Programs that work in place

A program changes a state as it goes. When it fails it stops where it is: what it wrote before stays written.
-/

namespace ShadeGraph

abbrev InPlace (σ ε α : Type) := ExceptT ε (StateM σ) α

namespace InPlace

variable {σ τ ε ε' α β : Type}

/-- What a program returns and the state it leaves, also when it fails. -/
def exec (p : InPlace σ ε α) (s : σ) : Except ε α × σ := Id.run (StateT.run (ExceptT.run p) s)

/-- Runs a program on a part of the state. The part is put back as the program leaves it, also when it fails. -/
def onPart (part : τ) (putBack : τ → σ → σ) (wrap : ε → ε') (p : InPlace τ ε α) : InPlace σ ε' α := do
  let (result, left) := p.exec part
  modify (putBack left)
  result.mapError wrap

@[simp] theorem exec_pure (a : α) (s : σ) : exec (pure a : InPlace σ ε α) s = (.ok a, s) := rfl

@[simp] theorem exec_throw (e : ε) (s : σ) : exec (throw e : InPlace σ ε α) s = (.error e, s) := rfl

@[simp] theorem exec_get (s : σ) : exec (get : InPlace σ ε σ) s = (.ok s, s) := rfl

@[simp] theorem exec_modify (f : σ → σ) (s : σ) : exec (modify f : InPlace σ ε Unit) s = (.ok (), f s) := rfl

@[simp] theorem exec_liftM (x : Except ε α) (s : σ) : exec (liftM x : InPlace σ ε α) s = (x, s) := rfl

theorem exec_bind (p : InPlace σ ε α) (f : α → InPlace σ ε β) (s : σ) :
    exec (p >>= f) s = match exec p s with
      | (.ok a, s') => exec (f a) s'
      | (.error e, s') => (.error e, s') := by
  unfold exec ExceptT.run StateT.run Id.run
  simp only [bind, ExceptT.bind, ExceptT.mk, StateT.bind, ExceptT.bindCont]
  rcases p s with ⟨result, s'⟩
  cases result <;> rfl

end InPlace

end ShadeGraph
