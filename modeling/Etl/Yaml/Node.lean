import Etl.Yaml.Token

/-!
YAML texts as trees. A text holds at most one document; an empty place counts as an empty plain
scalar.
-/

namespace Etl.Yaml

inductive Node where
  | scalar (plain : Bool) (text : String)
  | list (items : List Node)
  | map (entries : List (Node × Node))

namespace Node

/-- The value of a place where nothing is written. -/
def nothing : Node := scalar true ""

/-- Whether a value is missing before one of these tokens. -/
def isAbsent (ends : List Token) : List Token → Bool
  | [] => true
  | t :: _ => ends.contains t

mutual

/-- Reads the node at the start of a run of tokens. A list whose hyphens stand no deeper than the
key it belongs to has no brackets of its own; `fuel` bounds the tokens looked at. -/
def arrange (indentless : Bool) : Nat → List Token → Option (Node × List Token)
  | 0, _ => none
  | _, [] => none
  | fuel + 1, t :: rest =>
    match t with
    | .scalar plain text => some (scalar plain text, rest)
    | .openList => arrangeFlowList fuel true rest
    | .openMap => arrangeFlowMap fuel true rest
    | .sequenceStart => arrangeList fuel rest
    | .mappingStart => arrangeMap fuel rest
    | .entry => if indentless then arrangeBareList fuel (.entry :: rest) else none
    | _ => none

/-- Reads a node, or nothing before one of the given tokens. -/
def arrangeValue (indentless : Bool) (ends : List Token) :
    Nat → List Token → Option (Node × List Token)
  | 0, _ => none
  | fuel + 1, tokens =>
    if isAbsent ends tokens then some (nothing, tokens) else arrange indentless fuel tokens

/-- The entries of a block list. -/
def arrangeList : Nat → List Token → Option (Node × List Token)
  | 0, _ => none
  | _, .blockEnd :: rest => some (list [], rest)
  | fuel + 1, .entry :: rest => do
    let (item, rest) ← arrangeValue false [.entry, .blockEnd] fuel rest
    match ← arrangeList fuel rest with
    | (list items, rest) => return (list (item :: items), rest)
    | _ => none
  | _, _ => none

/-- The entries of a list without brackets of its own. -/
def arrangeBareList : Nat → List Token → Option (Node × List Token)
  | 0, _ => none
  | fuel + 1, .entry :: rest => do
    let (item, rest) ← arrangeValue false [.entry, .key, .value, .blockEnd] fuel rest
    match ← arrangeBareList fuel rest with
    | (list items, rest) => return (list (item :: items), rest)
    | _ => none
  | _, rest => some (list [], rest)

/-- The entries of a block map. -/
def arrangeMap : Nat → List Token → Option (Node × List Token)
  | 0, _ => none
  | _, .blockEnd :: rest => some (map [], rest)
  | fuel + 1, .key :: rest => do
    let (key, rest) ← arrangeValue true [.key, .value, .blockEnd] fuel rest
    let (value, rest) ← match rest with
      | .value :: rest => arrangeValue true [.key, .value, .blockEnd] fuel rest
      | rest => some (nothing, rest)
    match ← arrangeMap fuel rest with
    | (map entries, rest) => return (map ((key, value) :: entries), rest)
    | _ => none
  | _, _ => none

/-- The items of a list in brackets; a key makes an item a map of one entry. A key that is empty
takes the mark after it away. -/
def arrangeFlowList : Nat → Bool → List Token → Option (Node × List Token)
  | 0, _, _ => none
  | _, _, .closeList :: rest => some (list [], rest)
  | fuel + 1, first, tokens => do
    let tokens ← if first then some tokens else match tokens with
      | .comma :: rest => some rest
      | _ => none
    match tokens with
    | .closeList :: rest => return (list [], rest)
    | _ =>
      let (item, rest) ← match tokens with
        | .key :: rest => do
          let bare := isAbsent [.value, .comma, .closeList] rest
          let (entry, rest) ←
            if bare then arrangeFlowValue .closeList nothing fuel (rest.drop 1)
            else arrangeFlowEntry .closeList fuel rest
          some (map [entry], rest)
        | tokens => arrange false fuel tokens
      match ← arrangeFlowList fuel false rest with
      | (list items, rest) => return (list (item :: items), rest)
      | _ => none

/-- The entries of a map in brackets. A node that is not marked as a key is one without a value. -/
def arrangeFlowMap : Nat → Bool → List Token → Option (Node × List Token)
  | 0, _, _ => none
  | _, _, .closeMap :: rest => some (map [], rest)
  | fuel + 1, first, tokens => do
    let tokens ← if first then some tokens else match tokens with
      | .comma :: rest => some rest
      | _ => none
    match tokens with
    | .closeMap :: rest => return (map [], rest)
    | _ =>
      let (entry, rest) ← match tokens with
        | .key :: rest => arrangeFlowEntry .closeMap fuel rest
        | tokens => do
          let (key, rest) ← arrange false fuel tokens
          some ((key, nothing), rest)
      match ← arrangeFlowMap fuel false rest with
      | (map entries, rest) => return (map (entry :: entries), rest)
      | _ => none

/-- A key and its value inside brackets. -/
def arrangeFlowEntry (close : Token) : Nat → List Token → Option ((Node × Node) × List Token)
  | 0, _ => none
  | fuel + 1, tokens => do
    let (key, rest) ← arrangeValue false [.value, .comma, close] fuel tokens
    arrangeFlowValue close key fuel rest

/-- The value of a key inside brackets. -/
def arrangeFlowValue (close : Token) (key : Node) :
    Nat → List Token → Option ((Node × Node) × List Token)
  | 0, _ => none
  | fuel + 1, tokens => do
    let (value, rest) ← match tokens with
      | .value :: rest => arrangeValue false [.comma, close] fuel rest
      | rest => some (nothing, rest)
    return ((key, value), rest)

end

/-- Passes the marks after which no further document may come. -/
def endsWell : List Token → Bool
  | [] => true
  | .documentEnd :: rest => endsWell rest
  | _ => false

/-- The one document of a list of tokens. -/
def ofTokens? (tokens : List Token) : Option Node := do
  let fuel := 4 * tokens.length + 4
  let (node, rest) ← match tokens with
    | [] => some (nothing, [])
    | .documentStart :: rest =>
      arrangeValue false [.documentStart, .documentEnd] fuel rest
    | tokens => arrange false fuel tokens
  if endsWell rest then return node else none

/-- The tree of a text. -/
def ofText? (text : String) : Option Node := do ofTokens? (← Token.scan text)

end Node

end Etl.Yaml
