import SourceAtlas.Text.Utf8

/-!
# Globs

A glob is a pattern for whole paths. `?` stands for one byte and `*` for any bytes, slashes
included; `**` between slashes stands for any number of whole components; brackets stand for one
byte of a set, and braces for one of several globs.

Paths are matched byte by byte. The meaning of a glob is the set of what may remain of a path
after it: `Glob.accepts` asks whether nothing may remain.
-/

namespace SourceAtlas

namespace Glob

inductive Token where
  | literal (c : Char)
  /-- One byte. -/
  | any
  /-- Any bytes. -/
  | zeroOrMore
  /-- Any number of components at the start, each with its slash. -/
  | leadingComponents
  /-- A slash and all that follows. -/
  | trailingComponents
  /-- A slash, any number of components and the slash behind them. -/
  | innerComponents
  /-- One byte in the ranges, or outside of them. -/
  | oneOf (negated : Bool) (ranges : List (Char × Char))
  | alternatives (branches : List (List Token))
  deriving BEq, Repr, Inhabited

open Text (Bytes)

def slash : UInt8 := 0x2F

/-- The ends of a list of bytes, the longest first. -/
def ends : Bytes → List Bytes
  | [] => [[]]
  | b :: bytes => (b :: bytes) :: ends bytes

/-- The ends behind the slashes of a list of bytes. -/
def endsBehindSlashes : Bytes → List Bytes
  | [] => []
  | b :: bytes => if b = slash then bytes :: endsBehindSlashes bytes else endsBehindSlashes bytes

/-- What follows `start` in bytes that start with it. -/
def dropStart? : Bytes → Bytes → Option Bytes
  | [], bytes => some bytes
  | _ :: _, [] => none
  | a :: start, b :: bytes => if a = b then dropStart? start bytes else none

/-- Whether a byte is in a range of characters. A range is taken as that of the bytes that stand
beside the dash when its two ends are written as UTF-8; the other bytes of the ends are in it
too. -/
def inRange (b : UInt8) (range : Char × Char) : Bool :=
  let low := Text.encodeChar range.1
  let high := Text.encodeChar range.2
  low.contains b || high.contains b ||
    (low.getLast?.any (· ≤ b) && high.head?.any (b ≤ ·))

mutual

/-- Whether an alternative is written by no token at all; such alternatives do not count. -/
def Token.isVoid : Token → Bool
  | .alternatives branches => areVoid branches
  | _ => false

def isVoid : List Token → Bool
  | [] => true
  | token :: tokens => token.isVoid && isVoid tokens

def areVoid : List (List Token) → Bool
  | [] => true
  | branch :: branches => isVoid branch && areVoid branches

end

mutual

/-- What may remain of some bytes after a token. -/
def Token.rests (bytes : Bytes) : Token → List Bytes
  | .literal c => (dropStart? (Text.encodeChar c) bytes).toList
  | .any =>
    match bytes with
    | [] => []
    | _ :: rest => [rest]
  | .zeroOrMore => ends bytes
  | .leadingComponents => bytes :: endsBehindSlashes bytes
  | .trailingComponents =>
    match bytes with
    | [] => []
    | b :: rest => if b = slash then ends rest else []
  | .innerComponents =>
    match bytes with
    | [] => []
    | b :: rest => if b = slash then rest :: endsBehindSlashes rest else []
  | .oneOf negated ranges =>
    match bytes with
    | [] => []
    | b :: rest => if ranges.any (inRange b) != negated then [rest] else []
  | .alternatives branches =>
    if areVoid branches then [bytes] else restsOfBranches bytes branches

/-- What may remain of one of some bytes after all tokens. -/
def restsAfter (starts : List Bytes) : List Token → List Bytes
  | [] => starts
  | token :: tokens => restsAfter ((starts.flatMap fun bytes => token.rests bytes).eraseDups) tokens

/-- What may remain of some bytes after one of the branches that count. -/
def restsOfBranches (bytes : Bytes) : List (List Token) → List Bytes
  | [] => []
  | branch :: branches =>
    (if isVoid branch then [] else restsAfter [bytes] branch) ++ restsOfBranches bytes branches

end

end Glob

structure Glob where
  tokens : List Glob.Token
  deriving BEq, Repr

namespace Glob

/-- Whether the whole of a path is of the form of the glob. A glob that consists of `**` alone
stands for every path. -/
def accepts (glob : Glob) (path : Text) : Bool :=
  match glob.tokens with
  | [.leadingComponents] => true
  | tokens => (restsAfter [Text.encode path] tokens).contains []

end Glob

end SourceAtlas
