/-!
# Prefix codes

Codes for symbols in which no code word is the beginning of another, as binary trees. A code is
given by the lengths of its words alone: shorter words come first, words of one length ascend with
their symbols.

## Main definitions

* `Code` — a binary tree with symbols at its leaves
* `Code.ofLengths?` — the code with given lengths of its words
* `Code.read` — the symbol whose word bits begin with
-/

namespace Isolation.Zip

/-- A prefix code; `free` marks words that stand for nothing. -/
inductive Code
  | free
  | leaf (symbol : Nat)
  | node (zero one : Code)
  deriving Inhabited, Repr

/-- Why decompression stops early: the data is not well-formed, or there is no more of it. -/
inductive Stop
  | corrupt
  | ended
  deriving DecidableEq, Repr

namespace Code

/-- Gives a symbol a word, most significant bit first; none if the word is taken. -/
def add? (symbol : Nat) : List Bool → Code → Option Code
  | [], free => some (leaf symbol)
  | [], _ => none
  | false :: word, free => (add? symbol word free).map fun zero => node zero free
  | true :: word, free => (add? symbol word free).map fun one => node free one
  | false :: word, node zero one => (add? symbol word zero).map fun zero => node zero one
  | true :: word, node zero one => (add? symbol word one).map fun one => node zero one
  | _ :: _, leaf _ => none

/-- The word of a given length with a given value. -/
def word (length value : Nat) : List Bool :=
  (List.range length).map fun i => value / 2 ^ (length - 1 - i) % 2 = 1

/-- Symbols with the lengths of their words, shorter words first and symbols ascending. -/
def ordered (lengths : List Nat) : List (Nat × Nat) :=
  let used := lengths.zipIdx.filter fun pair => pair.1 ≠ 0
  (List.range 16).flatMap fun length => used.filter fun pair => pair.1 = length

/-- Assigns words one after the other: each is the one before it plus one, extended by zeros. -/
def assign? : List (Nat × Nat) → Nat → Nat → Code → Option Code
  | [], _, _, code => some code
  | (length, symbol) :: rest, previous, next, code => do
    let value := next * 2 ^ (length - previous)
    -- no word of this length is left
    if 2 ^ length ≤ value then none
    else assign? rest length (value + 1) (← code.add? symbol (word length value))

/-- The share of all words that a code with given lengths takes, in units of the longest words. -/
def weight (lengths : List Nat) : Nat :=
  (lengths.filter (· ≠ 0)).foldl (fun sum length => sum + 2 ^ (15 - length)) 0

/-- The code with given lengths of its words, where zero means no word. It must use every word,
unless there is one symbol at most. -/
def ofLengths? (lengths : List Nat) : Option Code :=
  if weight lengths ≠ 2 ^ 15 ∧ 1 < (lengths.filter (· ≠ 0)).length then none
  else assign? (ordered lengths) 0 0 free

/-- The symbol whose word the bits begin with, and the bits after the word. -/
def read : Code → List Bool → Except Stop (Nat × List Bool)
  | leaf symbol, bits => .ok (symbol, bits)
  | free, _ => .error .corrupt
  | node _ _, [] => .error .ended
  | node zero one, bit :: bits => if bit then one.read bits else zero.read bits

end Code

end Isolation.Zip
