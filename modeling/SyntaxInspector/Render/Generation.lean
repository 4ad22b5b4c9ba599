/-!
# Generations

Passes are numbered by a counter that only grows. A token remembers the number of its pass and is
cancelled as soon as the counter has moved on.
-/

namespace SyntaxInspector

/-- The number of the current pass. -/
structure Counter where
  /-- Passes started so far. -/
  current : Nat := 0
  deriving DecidableEq, Inhabited

/-- The stamp of a pass. -/
structure Token where
  /-- The pass the token was taken in. -/
  stamp : Nat
  /-- Whether the token belongs to no counter that could move on. -/
  detached : Bool := false
  deriving DecidableEq, Inhabited

namespace Counter

/-- A token for the current pass. -/
def token (c : Counter) : Token := ⟨c.current, false⟩

/-- Starts a new pass. -/
def next (c : Counter) : Counter := ⟨c.current + 1⟩

@[simp] theorem current_next (c : Counter) : c.next.current = c.current + 1 := rfl

@[simp] theorem stamp_token (c : Counter) : c.token.stamp = c.current := rfl

end Counter

namespace Token

/-- A token that nothing cancels. -/
def free : Token := ⟨0, true⟩

/-- Whether a newer pass has started. -/
def isCancelled (t : Token) (c : Counter) : Bool := !t.detached && c.current != t.stamp

@[simp] theorem isCancelled_free (c : Counter) : free.isCancelled c = false := rfl

end Token

end SyntaxInspector
