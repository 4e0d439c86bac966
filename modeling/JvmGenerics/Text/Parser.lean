/-!
# Reading a text from its front

A text parser consumes a beginning of the characters it is given and answers a
value together with the characters left over, or stops with a reason and with
the characters that were still ahead of it. The place of a failure is therefore
known without counting while reading: it is what has been consumed by then.
-/

namespace JvmGenerics

/-- A failed parse: why it stopped, and the characters that were still ahead. -/
structure Stop (ε : Type) where
  ahead : List Char
  reason : ε
deriving DecidableEq

/-- A parser of values in `α` that stops with reasons in `ε`. -/
abbrev TextParser (ε α : Type) := StateT (List Char) (Except (Stop ε)) α

namespace TextParser

variable {ε α : Type}

def stop (reason : ε) : TextParser ε α :=
  fun text => .error ⟨text, reason⟩

/-- The next character, left in place; `none` at the end of the text. -/
def peek : TextParser ε (Option Char) :=
  fun text => .ok (text.head?, text)

/-- Consume `wanted` if it comes next, and tell whether it did. -/
def eat (wanted : Char) : TextParser ε Bool
  | [] => .ok (false, [])
  | next :: rest => if next = wanted then .ok (true, rest) else .ok (false, next :: rest)

/-- Consume `wanted`, or stop in front of whatever else comes next. -/
def expect (wanted : Char) (reason : ε) : TextParser ε Unit
  | [] => .error ⟨[], reason⟩
  | next :: rest => if next = wanted then .ok ((), rest) else .error ⟨next :: rest, reason⟩

def takeWhile (accepts : Char → Bool) : TextParser ε (List Char) :=
  fun text => .ok (text.takeWhile accepts, text.dropWhile accepts)

/-- Consume as `takeWhile` does, but stop where the run would be empty. -/
def takeWhile1 (accepts : Char → Bool) (reason : ε) : TextParser ε (List Char)
  | [] => .error ⟨[], reason⟩
  | next :: rest =>
    if accepts next then .ok (next :: rest.takeWhile accepts, rest.dropWhile accepts)
    else .error ⟨next :: rest, reason⟩

def finish (reason : ε) : TextParser ε Unit
  | [] => .ok ((), [])
  | next :: rest => .error ⟨next :: rest, reason⟩

/-- Repeat `item` until it answers `none`, at most `rounds` times. -/
def collectWithin (stuck : ε) (item : TextParser ε (Option α)) : Nat → TextParser ε (List α)
  | 0 => stop stuck
  | rounds + 1 => do
    match ← item with
    | none => return []
    | some first => return first :: (← collectWithin stuck item rounds)

/-- Repeat `item` until it answers `none`, and gather what it answered before.

An item that consumes at least one character can be met at most once for every
character left, and one more round ends the list, so the bound is never felt;
`stuck` would be reported for an item that keeps answering without consuming. -/
def collect (stuck : ε) (item : TextParser ε (Option α)) : TextParser ε (List α) :=
  fun text => collectWithin stuck item (text.length + 1) text

/-- Consume `wanted` if the text goes on with it, and tell whether it did. -/
def eatText (wanted : List Char) : TextParser ε Bool := fun text =>
  if wanted.isPrefixOf text then .ok (true, text.drop wanted.length) else .ok (false, text)

/-- Run a parser if it succeeds; consume nothing if it would stop. -/
def attempt (parser : TextParser ε α) : TextParser ε (Option α) := fun text =>
  match parser text with
  | .ok (value, rest) => .ok (some value, rest)
  | .error _ => .ok (none, text)

/-- Run a parser on a whole text and keep its value. -/
def parse (parser : TextParser ε α) (text : List Char) : Except (Stop ε) α :=
  (parser text).map Prod.fst

end TextParser

end JvmGenerics
