import Isolation.Json.Token

/-!
# Documents as trees

A document is a tree of arrays and objects over leaves that are kept as they are written. It is read
from its tokens by a machine with one step for each token, which keeps the unfinished arrays and
objects on a stack, so that nesting has no limit here.

## Main definitions

* `Json.Node` — documents
* `Node.tokens`, `Node.render` — a document as it is written
* `Node.Reading.step?` — one token
* `Node.ofTokens?`, `Node.parse?` — reading tokens and bytes
-/

namespace Isolation.Json

/-- A document. Strings and the keys of objects hold the bytes between their quotes; keys may
repeat. -/
inductive Node
  | null
  | bool (b : Bool)
  | number (n : Number)
  | string (raw : List UInt8)
  | array (items : List Node)
  | object (members : List (List UInt8 × Node))
  deriving Inhabited, Repr

namespace Node

mutual

/-- The tokens of a document. -/
def tokens : Node → List Token
  | null => [.null]
  | bool b => [.bool b]
  | number n => [.number n]
  | string raw => [.string raw]
  | array items => .openArray :: itemTokens items
  | object members => .openObject :: memberTokens members

/-- The tokens of the items of an array up to its end. -/
def itemTokens : List Node → List Token
  | [] => [.closeArray]
  | item :: items => item.tokens ++ moreItemTokens items

/-- The tokens of further items of an array up to its end. -/
def moreItemTokens : List Node → List Token
  | [] => [.closeArray]
  | item :: items => .comma :: item.tokens ++ moreItemTokens items

/-- The tokens of the members of an object up to its end. -/
def memberTokens : List (List UInt8 × Node) → List Token
  | [] => [.closeObject]
  | (key, value) :: members => .string key :: .colon :: value.tokens ++ moreMemberTokens members

/-- The tokens of further members of an object up to its end. -/
def moreMemberTokens : List (List UInt8 × Node) → List Token
  | [] => [.closeObject]
  | (key, value) :: members =>
    .comma :: .string key :: .colon :: value.tokens ++ moreMemberTokens members

end

/-- A document as it is written, without blanks. -/
def render (node : Node) : List UInt8 := node.tokens.flatMap Token.render

/-- An array or an object that is not finished, with its parts so far, last first. In `member` the
key is known and the value is being read. -/
inductive Unfinished
  | array (items : List Node)
  | object (members : List (List UInt8 × Node))
  | member (members : List (List UInt8 × Node)) (key : List UInt8)

/-- What may come next. -/
inductive Expected
  | value
  | itemOrEnd
  | keyOrEnd
  | key
  | colon
  | separator
  | nothing
  deriving DecidableEq, Repr

/-- The state of reading: the unfinished arrays and objects, innermost first, what may come next,
and the document once it is complete. -/
structure Reading where
  unfinished : List Unfinished := []
  expected : Expected := .value
  result : Option Node := none

namespace Reading

/-- A value is complete: it belongs to the innermost unfinished container, or is the document. -/
def complete? (node : Node) : List Unfinished → Option Reading
  | [] => some { expected := .nothing, result := some node }
  | .array items :: outer =>
    some { unfinished := .array (node :: items) :: outer, expected := .separator }
  | .member members key :: outer =>
    some { unfinished := .object ((key, node) :: members) :: outer, expected := .separator }
  | .object _ :: _ => none

/-- A token where a value may begin. -/
def value? (state : Reading) : Token → Option Reading
  | .null => complete? .null state.unfinished
  | .bool b => complete? (.bool b) state.unfinished
  | .number n => complete? (.number n) state.unfinished
  | .string raw => complete? (.string raw) state.unfinished
  | .openArray => some { unfinished := .array [] :: state.unfinished, expected := .itemOrEnd }
  | .openObject => some { unfinished := .object [] :: state.unfinished, expected := .keyOrEnd }
  | _ => none

/-- A token where a key may stand. -/
def key? (state : Reading) : Token → Option Reading
  | .string raw =>
    match state.unfinished with
    | .object members :: outer =>
      some { unfinished := .member members raw :: outer, expected := .colon }
    | _ => none
  | _ => none

/-- A token where the innermost array or object may end. -/
def close? (state : Reading) (token : Token) : Option Reading :=
  match token, state.unfinished with
  | .closeArray, .array items :: outer => complete? (.array items.reverse) outer
  | .closeObject, .object members :: outer => complete? (.object members.reverse) outer
  | _, _ => none

/-- A comma between items or members. -/
def comma? (state : Reading) : Option Reading :=
  match state.unfinished with
  | .array _ :: _ => some { state with expected := .value }
  | .object _ :: _ => some { state with expected := .key }
  | _ => none

/-- One token. -/
def step? (state : Reading) (token : Token) : Option Reading :=
  match state.expected with
  | .value => state.value? token
  | .itemOrEnd => if token = .closeArray then state.close? token else state.value? token
  | .keyOrEnd => if token = .closeObject then state.close? token else state.key? token
  | .key => state.key? token
  | .colon => if token = .colon then some { state with expected := .value } else none
  | .separator => if token = .comma then state.comma? else state.close? token
  | .nothing => none

end Reading

/-- The document that tokens make up. -/
def ofTokens? (tokens : List Token) : Option Node :=
  (tokens.foldlM Reading.step? {}).bind Reading.result

/-- The document that is written in some bytes. -/
def parse? (bytes : List UInt8) : Option Node := (Token.scan? bytes).bind ofTokens?

end Node

end Isolation.Json
