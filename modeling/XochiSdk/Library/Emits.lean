import Mathlib.Data.List.Basic

/-!
# Computations that emit

A value together with the effects emitted on the way to it, oldest first: what a function
with an append-only effect log computes.
-/

namespace XochiSdk.Library

structure Emits (ε α : Type) where
  value : α
  log : List ε

namespace Emits

variable {ε α β : Type}

instance : Monad (Emits ε) where
  pure a := ⟨a, []⟩
  bind x f := ⟨(f x.value).value, x.log ++ (f x.value).log⟩

def emit (e : ε) : Emits ε Unit := ⟨(), [e]⟩

@[simp] theorem value_pure (a : α) : (pure a : Emits ε α).value = a := rfl

@[simp] theorem log_pure (a : α) : (pure a : Emits ε α).log = [] := rfl

@[simp] theorem value_bind (x : Emits ε α) (f : α → Emits ε β) :
    (x >>= f).value = (f x.value).value := rfl

@[simp] theorem log_bind (x : Emits ε α) (f : α → Emits ε β) :
    (x >>= f).log = x.log ++ (f x.value).log := rfl

@[simp] theorem value_map (x : Emits ε α) (f : α → β) : (f <$> x).value = f x.value := rfl

@[simp] theorem log_map (x : Emits ε α) (f : α → β) : (f <$> x).log = x.log := by
  change x.log ++ [] = x.log
  simp

@[simp] theorem value_emit (e : ε) : (emit e).value = () := rfl

@[simp] theorem log_emit (e : ε) : (emit e).log = [e] := rfl

end Emits

end XochiSdk.Library
