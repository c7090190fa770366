import Lookalike.Failure

/-!
# Events

What happens on the way to a result and is worth a line in a log. A computation with events
carries them along with its result, in the order in which they happen.

## Main definitions

* `Event` — what can happen; `Event.level`, `Event.origin` and `Event.message` make its line.
* `Traced` — a result with the events on the way to it.
-/

namespace Lookalike

inductive Event where
  | unparsed
  | indexed (tokens kgrams fingerprints : Nat)
  | skipped (path : String) (failure : Failure)
  | scanned (files pairs reported : Nat)

namespace Event

inductive Level where
  | debug
  | info
  | warn
  deriving DecidableEq, Repr

def Level.name : Level → String
  | .debug => "DEBUG"
  | .info => "INFO"
  | .warn => "WARN"

def level : Event → Level
  | .unparsed => .debug
  | .indexed _ _ _ => .debug
  | .skipped _ _ => .warn
  | .scanned _ _ _ => .info

/-- The part of the program that an event comes from. -/
def origin : Event → String
  | .unparsed => "codetwin::parser"
  | .indexed _ _ _ | .skipped _ _ | .scanned _ _ _ => "codetwin::similarity"

/-- The message about an event. The time that has passed is given as text. -/
def message (elapsed : String) : Event → String
  | .unparsed => "Python source contains syntax errors, discarding tokens"
  | .indexed tokens kgrams fingerprints =>
    "Indexed " ++ toString tokens ++ " tokens into " ++ toString kgrams ++ " k-grams and " ++
      toString fingerprints ++ " fingerprints"
  | .skipped path failure => "Skipping " ++ path ++ ": " ++ failure.message
  | .scanned files pairs reported =>
    "Similarity analysis completed in " ++ elapsed ++ ": " ++ toString files ++ " files, " ++
      toString pairs ++ " pairs, " ++ toString reported ++ " reported"

end Event

/-- A result with the events on the way to it. -/
structure Traced (α : Type) where
  value : α
  events : List Event

namespace Traced

def event (e : Event) : Traced Unit := ⟨(), [e]⟩

instance : Monad Traced where
  pure a := ⟨a, []⟩
  bind t f :=
    let u := f t.value
    ⟨u.value, t.events ++ u.events⟩

@[simp, grind =] theorem value_pure {α : Type} (a : α) : (pure a : Traced α).value = a := rfl

@[simp, grind =] theorem value_bind {α β : Type} (t : Traced α) (f : α → Traced β) :
    (t >>= f).value = (f t.value).value := rfl

@[simp, grind =] theorem value_map {α β : Type} (f : α → β) (t : Traced α) :
    (f <$> t).value = f t.value := rfl

def forEach {α β : Type} (f : α → Traced β) : List α → Traced (List β)
  | [] => pure []
  | x :: xs => do
    let y ← f x
    let ys ← forEach f xs
    return y :: ys

@[simp] theorem value_forEach {α β : Type} (f : α → Traced β) (xs : List α) :
    (forEach f xs).value = xs.map fun x => (f x).value := by
  induction xs with
  | nil => rfl
  | cons x xs ih => simp [forEach, ih]

end Traced

end Lookalike
