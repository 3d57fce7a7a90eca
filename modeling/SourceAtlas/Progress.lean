import SourceAtlas.Text.Basic

/-!
# Progress

The latest messages of a running analysis, newest first. Only as many as the capacity are kept.
-/

namespace SourceAtlas

structure Progress where
  capacity : Nat
  entries : List Text
  deriving DecidableEq, Repr

namespace Progress

def defaultCapacity : Nat := 10

/-- No messages yet. At least one message can be kept. -/
def ofCapacity (capacity : Nat) : Progress := ⟨max capacity 1, []⟩

def push (p : Progress) (message : Text) : Progress :=
  { p with entries := (message :: p.entries).take p.capacity }

def latest? (p : Progress) : Option Text := p.entries.head?

def clear (p : Progress) : Progress := { p with entries := [] }

/-- The messages, each with a newline. -/
def render (p : Progress) : Text := p.entries.flatMap fun m => m ++ ['\n']

end Progress

end SourceAtlas
