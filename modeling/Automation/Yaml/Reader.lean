import Automation.Tree.Basic
import Automation.Yaml.Token
/-!
# Trees of block-structured documents

`readTree?` reads a document of block mappings and sequences, in which the columns of the entries
show what belongs together, and of flow collections in brackets. JSON texts are such documents.
Plain scalars stay undecided (`Tree.plain`), and an absent value is the empty one. A mapping whose
keys are not all scalars, and a collection nested too deep, are well-formed but unusable.
-/

namespace Automation.Yaml

/-- The deepest nesting of collections that can be used. -/
def maxDepth : Nat := 128

/-- The tree of a value that is not there. -/
def absent : Tree := .plain ""

/-- The text of a scalar. -/
def scalarText? : Tree → Option String
  | .string s => some s
  | .plain s => some s
  | _ => none

/-- The mapping of keys to values. -/
def mappingOf (entries : List (Tree × Tree)) : Tree :=
  .ofNamed (entries.map fun (key, value) => (scalarText? key, value))

mutual

/-- A value. `inBlock` tells whether a block collection may come, and `isLoose` whether the dashes
of a sequence may stand at the column of the mapping that it is in. -/
def node (inBlock isLoose : Bool) (depth : Nat) : Nat → List Mark → Option (Tree × List Mark)
  | 0, _ => none
  | fuel + 1, tokens =>
    match tokens with
    | .scalar isPlain text :: rest => some (if isPlain then .plain text else .string text, rest)
    | .openSequence :: rest => do
      let (items, rest) ← flowItems (depth - 1) fuel rest
      return (Tree.within depth (.sequence false items), rest)
    | .openMapping :: rest => do
      let (entries, rest) ← flowEntries (depth - 1) fuel rest
      return (Tree.within depth (mappingOf entries), rest)
    | .blockSequence :: rest =>
      if inBlock then do
        let (items, rest) ← blockItems (depth - 1) fuel rest
        return (Tree.within depth (.sequence false items), rest)
      else none
    | .blockMapping :: rest =>
      if inBlock then do
        let (entries, rest) ← blockEntries (depth - 1) fuel rest
        return (Tree.within depth (mappingOf entries), rest)
      else none
    | .dash :: _ =>
      if isLoose then do
        let (items, rest) ← looseItems (depth - 1) fuel tokens
        return (Tree.within depth (.sequence false items), rest)
      else none
    | _ => none
termination_by structural fuel _ => fuel

/-- A value, or an absent one if a mark comes that cannot begin it. -/
def nodeBefore (stops : List Mark) (inBlock isLoose : Bool) (depth : Nat) :
    Nat → List Mark → Option (Tree × List Mark)
  | 0, _ => none
  | fuel + 1, tokens =>
    if tokens.head?.any stops.contains then some (absent, tokens)
    else node inBlock isLoose depth fuel tokens
termination_by structural fuel _ => fuel

/-- The items of a block sequence up to its end. -/
def blockItems (depth : Nat) : Nat → List Mark → Option (List Tree × List Mark)
  | 0, _ => none
  | fuel + 1, tokens =>
    match tokens with
    | .dash :: rest => do
      let (item, rest) ← nodeBefore [.dash, .blockEnd] true false depth fuel rest
      let (items, rest) ← blockItems depth fuel rest
      return (item :: items, rest)
    | .blockEnd :: rest => some ([], rest)
    | _ => none
termination_by structural fuel _ => fuel

/-- The items of a sequence whose dashes stand at the column of the mapping that it is in. -/
def looseItems (depth : Nat) : Nat → List Mark → Option (List Tree × List Mark)
  | 0, _ => none
  | fuel + 1, tokens =>
    match tokens with
    | .dash :: rest => do
      let (item, rest) ← nodeBefore [.dash, .key, .value, .blockEnd] true false depth fuel rest
      let (items, rest) ← looseItems depth fuel rest
      return (item :: items, rest)
    | _ => some ([], tokens)
termination_by structural fuel _ => fuel

/-- The entries of a block mapping up to its end. -/
def blockEntries (depth : Nat) : Nat → List Mark → Option (List (Tree × Tree) × List Mark)
  | 0, _ => none
  | fuel + 1, tokens =>
    match tokens with
    | .key :: rest => do
      let stops : List Mark := [.key, .value, .blockEnd]
      let (key, rest) ← nodeBefore stops true true depth fuel rest
      let (value, rest) ← valueBefore stops true depth fuel rest
      let (entries, rest) ← blockEntries depth fuel rest
      return ((key, value) :: entries, rest)
    | .blockEnd :: rest => some ([], rest)
    | _ => none
termination_by structural fuel _ => fuel

/-- The value of a key after its colon; without a colon it is absent. -/
def valueBefore (stops : List Mark) (inBlock : Bool) (depth : Nat) :
    Nat → List Mark → Option (Tree × List Mark)
  | 0, _ => none
  | fuel + 1, tokens =>
    match tokens with
    | .value :: rest => nodeBefore stops inBlock inBlock depth fuel rest
    | _ => some (absent, tokens)
termination_by structural fuel _ => fuel

/-- The items of a flow sequence up to its bracket. -/
def flowItems (depth : Nat) : Nat → List Mark → Option (List Tree × List Mark)
  | 0, _ => none
  | fuel + 1, tokens =>
    match tokens with
    | .closeSequence :: rest => some ([], rest)
    | _ => do
      let (item, rest) ← flowItem depth fuel tokens
      match rest with
      | .closeSequence :: rest => return ([item], rest)
      | .comma :: rest =>
        let (items, rest) ← flowItems depth fuel rest
        return (item :: items, rest)
      | _ => none
termination_by structural fuel _ => fuel

/-- An item of a flow sequence. It may be a key and its value, which are a mapping. -/
def flowItem (depth : Nat) : Nat → List Mark → Option (Tree × List Mark)
  | 0, _ => none
  | fuel + 1, tokens =>
    match tokens with
    | .key :: rest => do
      let stops : List Mark := [.comma, .closeSequence]
      let (key, rest) ← nodeBefore (.value :: stops) false false (depth - 1) fuel rest
      let (value, rest) ← valueBefore stops false (depth - 1) fuel rest
      return (Tree.within depth (mappingOf [(key, value)]), rest)
    | _ => node false false depth fuel tokens
termination_by structural fuel _ => fuel

/-- The entries of a flow mapping up to its bracket. -/
def flowEntries (depth : Nat) : Nat → List Mark → Option (List (Tree × Tree) × List Mark)
  | 0, _ => none
  | fuel + 1, tokens =>
    match tokens with
    | .closeMapping :: rest => some ([], rest)
    | _ => do
      let (entry, rest) ← flowEntry depth fuel tokens
      match rest with
      | .closeMapping :: rest => return ([entry], rest)
      | .comma :: rest =>
        let (entries, rest) ← flowEntries depth fuel rest
        return (entry :: entries, rest)
      | _ => none
termination_by structural fuel _ => fuel

/-- An entry of a flow mapping. One that is no key has no value. -/
def flowEntry (depth : Nat) : Nat → List Mark → Option ((Tree × Tree) × List Mark)
  | 0, _ => none
  | fuel + 1, tokens =>
    match tokens with
    | .key :: rest => do
      let stops : List Mark := [.comma, .closeMapping]
      let (key, rest) ← nodeBefore (.value :: stops) false false depth fuel rest
      let (value, rest) ← valueBefore stops false depth fuel rest
      return ((key, value), rest)
    | _ => do
      let (key, rest) ← node false false depth fuel tokens
      return ((key, absent), rest)
termination_by structural fuel _ => fuel

end

/-- A document: its value, after a sign of its start if there is one. An empty document has none. -/
def document (fuel : Nat) (tokens : List Mark) : Option (Tree × List Mark) :=
  match tokens with
  | [] => some (absent, [])
  | .documentStart :: rest =>
    if rest.isEmpty then some (absent, [])
    else nodeBefore [.documentStart, .documentEnd] true false maxDepth fuel rest
  | _ => node true false maxDepth fuel tokens

/-- The tree of a text that holds one document. -/
def readTree? (s : String) : Option Tree := do
  let tokens ← scan? s
  let (t, rest) ← document (4 * tokens.length + 4) tokens
  if rest.all (· == .documentEnd) then some t else none

end Automation.Yaml
