import SourceAtlas.Pattern.Program

/-!
# Searching a text

All ways through a program advance together, one character at a time, in order of preference. At
each place an address is visited once, by the way that is preferred, so a search takes time
proportional to the text and the program. The leftmost match wins, and among the matches that
start there the preferred one.
-/

namespace SourceAtlas.Pattern

/-- Where slots were last noted. -/
abbrev Slots := Array (Option Nat)

/-- A place in a text: how many characters precede it, and its two neighbours. -/
structure Place where
  offset : Nat
  before : Option Char
  after : Option Char

namespace Assertion

def isWord (words : WordClass) (c : Option Char) : Bool :=
  match words with
  | .unicode => c.any Unicode.isWord
  | .ascii => c.any CharSet.asciiWord.mem

def holds (place : Place) : Assertion → Bool
  | textStart => place.before.isNone
  | textEnd => place.after.isNone
  | lineStart => place.before.all (· == '\n')
  | lineEnd => place.after.all (· == '\n')
  | crlfLineStart =>
    place.before.all fun c => c == '\n' || (c == '\r' && place.after != some '\n')
  | crlfLineEnd =>
    place.after.all fun c => c == '\r' || (c == '\n' && place.before != some '\r')
  | wordBoundary w => isWord w place.before != isWord w place.after
  | noWordBoundary w => isWord w place.before == isWord w place.after
  | wordStart w => !isWord w place.before && isWord w place.after
  | wordEnd w => isWord w place.before && !isWord w place.after
  | wordStartHalf w => !isWord w place.before
  | wordEndHalf w => !isWord w place.after

end Assertion

/-- The ways that wait at one place for a character or have accepted, preferred ones first, and
the addresses visited there. -/
structure Front where
  visited : Array Bool
  threads : Array (Nat × Slots)

namespace Front

def empty (program : Program) : Front := ⟨Array.replicate program.size false, #[]⟩

/-- Follows the ways on the stack up to where they need a character. -/
def follow (program : Program) (place : Place) : Nat → List (Nat × Slots) → Front → Front
  | 0, _, front => front
  | _ + 1, [], front => front
  | fuel + 1, (address, slots) :: stack, front =>
    if front.visited.getD address true then follow program place fuel stack front
    else
      let front := { front with visited := front.visited.setIfInBounds address true }
      match program[address]? with
      | none => follow program place fuel stack front
      | some (.jump target) => follow program place fuel ((target, slots) :: stack) front
      | some (.split first second) =>
        follow program place fuel ((first, slots) :: (second, slots) :: stack) front
      | some (.save slot) =>
        follow program place fuel
          ((address + 1, slots.setIfInBounds slot (some place.offset)) :: stack) front
      | some (.assert condition) =>
        if condition.holds place then
          follow program place fuel ((address + 1, slots) :: stack) front
        else follow program place fuel stack front
      | some (.char _) | some .accept =>
        follow program place fuel stack
          { front with threads := front.threads.push (address, slots) }

/-- Adds a way and all that it branches into. An address adds at most two to the stack. -/
def add (program : Program) (place : Place) (address : Nat) (slots : Slots) (front : Front) :
    Front :=
  follow program place (2 * program.size + 2) [(address, slots)] front

/-- Takes the ways in order past the next character, up to the first one that has accepted. -/
def advance (program : Program) (place : Place) (c : Option Char) :
    List (Nat × Slots) → Front → Front × Option Slots
  | [], next => (next, none)
  | (address, slots) :: threads, next =>
    match program[address]?, c with
    | some .accept, _ => (next, some slots)
    | some (.char set), some c =>
      advance program place (some c) threads
        (if set.mem c then next.add program place (address + 1) slots else next)
    | _, _ => advance program place c threads next

end Front

/-- Goes through the text. New ways start at each place until a match is known. -/
def searchFrom (program : Program) (start : Slots) (offset : Nat) (before : Option Char)
    (front : Front) (best : Option Slots) (t : Text) : Option Slots :=
  let place : Place := ⟨offset, before, t.head?⟩
  let front := if best.isNone then front.add program place 0 start else front
  match t with
  | [] => (Front.advance program place none front.threads.toList (.empty program)).2.or best
  | c :: rest =>
    let (next, found) :=
      Front.advance program ⟨offset + 1, some c, rest.head?⟩ (some c) front.threads.toList
        (.empty program)
    let best := found.or best
    if next.threads.isEmpty && best.isSome then best
    else searchFrom program start (offset + 1) (some c) next best rest

/-- Where the slots are in the first match of a program in a text. -/
def search (program : Program) (slots : Nat) (t : Text) : Option Slots :=
  searchFrom program (Array.replicate slots none) 0 none (.empty program) none t

end SourceAtlas.Pattern
