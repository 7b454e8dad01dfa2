import RecordMapper.Error

/-! # Contexts

A context says how long an operation may go on. It carries a token, by which it can be canceled, and
perhaps a deadline. Contexts derived from it get tokens of their own; canceling reaches all that is
derived from a context, and nothing else, whether it was derived before or after.

A context is a plain value that knows the tokens it descends from. Which tokens are canceled is kept
in one place, the `Cancellations`.
-/

namespace RecordMapper

/-- A point on a clock. -/
abbrev Instant := Int

/-- How long an operation may go on. -/
structure Context where
  /-- The token by which it is canceled. -/
  token : Nat
  /-- The tokens of the contexts that it is derived from, the nearest first. -/
  ancestors : List Nat
  /-- When it ends, if it does by itself. -/
  deadline? : Option Instant
deriving DecidableEq

/-- The tokens given out so far and those canceled. -/
structure Cancellations where
  /-- The number of tokens given out. -/
  issued : Nat
  /-- The canceled tokens. -/
  canceled : List Nat
deriving DecidableEq

namespace Context

/-- Whether the context or one that it is derived from is canceled. -/
def isCanceled (cx : Context) (c : Cancellations) : Bool :=
  (cx.token :: cx.ancestors).any c.canceled.contains

/-- Whether the deadline has come. -/
def isExpired (cx : Context) (now : Instant) : Bool := cx.deadline?.any (· ≤ now)

/-- Lets an operation go on or says why it may not; being canceled counts before the deadline. -/
def check (cx : Context) (c : Cancellations) (now : Instant) : Except Error Unit :=
  if cx.isCanceled c then .error (.of (.canceled false))
  else if cx.isExpired now then .error (.of (.canceled true))
  else .ok ()

end Context

namespace Cancellations

/-- No tokens are given out. -/
def empty : Cancellations := ⟨0, []⟩

/-- A context that is derived from nothing and never ends by itself. -/
def background (c : Cancellations) : Context × Cancellations :=
  (⟨c.issued, [], none⟩, { c with issued := c.issued + 1 })

/-- A context derived from `cx` with the same deadline. -/
def child (c : Cancellations) (cx : Context) : Context × Cancellations :=
  (⟨c.issued, cx.token :: cx.ancestors, cx.deadline?⟩, { c with issued := c.issued + 1 })

/-- A context derived from `cx` that ends at the earlier one of its deadline and the given one. -/
def withDeadline (c : Cancellations) (cx : Context) (deadline : Instant) :
    Context × Cancellations :=
  let (derived, c) := c.child cx
  ({ derived with deadline? := some ((cx.deadline?.map (min · deadline)).getD deadline) }, c)

/-- Cancels a context. -/
def cancel (c : Cancellations) (cx : Context) : Cancellations :=
  { c with canceled := cx.token :: c.canceled }

end Cancellations

end RecordMapper
