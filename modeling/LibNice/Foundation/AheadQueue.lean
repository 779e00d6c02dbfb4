import LibNice.Foundation.Run

/-!
Bounded queues with a write-ahead area.

* `AheadQueue`: a queue, and what has been stored ahead of its end.
* `AheadQueue.Op`, `AheadQueue.Ret`, `AheadQueue.Step`: the operations, what they return and
  what they do to a queue of a given capacity.
* `AheadQueue.stored`, `AheadQueue.shift`: the write-ahead area after a store and after the
  end of the queue has moved.
-/

namespace LibNice.Foundation

variable {α : Type*}

/-- A queue, the next element to be read first, and the elements stored some places behind
its end. -/
structure AheadQueue (α : Type*) where
  queue : List α
  ahead : ℕ → Option α

namespace AheadQueue

/-- Nothing is queued or stored. -/
def empty : AheadQueue α := ⟨[], fun _ => none⟩

/-- The write-ahead area with `xs` stored from offset `k` on. -/
def stored (ahead : ℕ → Option α) (k : ℕ) (xs : List α) : ℕ → Option α :=
  fun i => if k ≤ i ∧ i < k + xs.length then xs[i - k]? else ahead i

/-- The write-ahead area when the end of the queue has moved `n` places. -/
def shift (ahead : ℕ → Option α) (n : ℕ) : ℕ → Option α := fun i => ahead (n + i)

/-- An operation. -/
inductive Op (α : Type*) where
  | read (n : ℕ)
  | readOffset (n offset : ℕ)
  | consumeReadData (n : ℕ)
  | write (xs : List α)
  | writeOffset (xs : List α) (offset : ℕ)
  | consumeWriteBuffer (n : ℕ)
deriving DecidableEq, Repr

/-- What an operation returns. -/
inductive Ret (α : Type*) where
  | none
  | count (n : ℕ)
  | copied (xs : List α)
deriving DecidableEq, Repr

/-- What the operations do to a queue of the given capacity. -/
inductive Step (capacity : ℕ) (a : AheadQueue α) : Op α × Ret α → AheadQueue α → Prop
  | read (n : ℕ) :
      Step capacity a (.read n, .copied (a.queue.take n)) { a with queue := a.queue.drop n }
  | readOffset (n offset : ℕ) :
      Step capacity a (.readOffset n offset, .copied ((a.queue.drop offset).take n)) a
  | consumeReadData {n : ℕ} (h : n ≤ a.queue.length) :
      Step capacity a (.consumeReadData n, .none) { a with queue := a.queue.drop n }
  /-- As much is appended as fits. -/
  | write {xs : List α} {n : ℕ} (hn : n = min xs.length (capacity - a.queue.length)) :
      Step capacity a (.write xs, .count n)
        { queue := a.queue ++ xs.take n, ahead := shift a.ahead n }
  /-- As much is stored as fits behind the offset. -/
  | writeOffset {xs : List α} {offset n : ℕ}
      (hn : n = min xs.length (capacity - a.queue.length - offset)) :
      Step capacity a (.writeOffset xs offset, .count n)
        { a with ahead := stored a.ahead offset (xs.take n) }
  /-- What was stored at the first offsets is appended; elsewhere anything may be there. -/
  | consumeWriteBuffer {n : ℕ} {xs : List α} (hlen : xs.length = n)
      (hroom : a.queue.length + n ≤ capacity)
      (hxs : ∀ i x, i < n → a.ahead i = some x → xs[i]? = some x) :
      Step capacity a (.consumeWriteBuffer n, .none)
        { queue := a.queue ++ xs, ahead := shift a.ahead n }

end AheadQueue

end LibNice.Foundation
