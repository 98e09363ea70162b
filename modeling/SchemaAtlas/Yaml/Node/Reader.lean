import SchemaAtlas.Yaml.Node
import SchemaAtlas.Yaml.Token

/-!
# Reading YAML documents

The document that the tokens of a text make up.  A part of a document is read
off the front of what is left of the tokens; `Document.ofText` reads a whole
text, which has to hold a single document.
-/

namespace SchemaAtlas.Yaml

namespace Node

/-- The tokens before which the value of a block mapping is left out. -/
def endsBlockValue : List Token → Bool
  | .key :: _ | .value :: _ | .blockEnd :: _ | [] => true
  | _ => false

/-- The tokens before which an entry of a block sequence is left out. -/
def endsBlockItem : List Token → Bool
  | .blockEntry :: _ | .blockEnd :: _ | [] => true
  | _ => false

/-- The tokens before which an entry of a sequence without indentation of its
own is left out. -/
def endsBareItem : List Token → Bool
  | .blockEntry :: _ | .key :: _ | .value :: _ | .blockEnd :: _ | [] => true
  | _ => false

/-- The tokens before which a part of a flow collection is left out. -/
def endsFlowPart : List Token → Bool
  | .flowEntry :: _ | .flowSequenceEnd :: _ | .flowMappingEnd :: _ | [] => true
  | _ => false

/-- The tokens before which the key of a flow mapping is left out. -/
def endsFlowKey : List Token → Bool
  | .value :: _ => true
  | tokens => endsFlowPart tokens

/-- Where a part of a document stands. -/
inductive Place where
  | block
  /-- As the key or value of a block mapping, where a sequence needs no
  indentation of its own. -/
  | blockPair
  | flow
deriving DecidableEq

/-- Reads a part of a document that may be left out before certain tokens. -/
def orAbsent (leftOut : List Token → Bool)
    (readPart : List Token → Except Fault (Node × List Token))
    (tokens : List Token) : Except Fault (Node × List Token) :=
  if leftOut tokens then .ok (absent, tokens) else readPart tokens

/-- Reads the key of a pair in a flow sequence.  Where it is left out, the
token that shows so is passed over, and plays no other part. -/
def pairKey (readPart : List Token → Except Fault (Node × List Token)) :
    List Token → Except Fault (Node × List Token)
  | .value :: rest | .flowEntry :: rest | .flowSequenceEnd :: rest =>
      .ok (absent, rest)
  | tokens => readPart tokens

/-- Reads the value behind a key, if there is a colon. -/
def behindColon (leftOut : List Token → Bool)
    (readPart : List Token → Except Fault (Node × List Token)) :
    List Token → Except Fault (Node × List Token)
  | .value :: rest => orAbsent leftOut readPart rest
  | tokens => .ok (absent, tokens)

/-- Passes over the comma before an entry of a flow collection other than the
first. -/
def behindComma (first : Bool) (tokens : List Token) :
    Except Fault (List Token) :=
  if first then .ok tokens
  else
    match tokens with
    | .flowEntry :: rest => .ok rest
    | _ => .error .badCollection

/-- Takes the properties off the front of some tokens: a number and a tag, in
either order. -/
def readProperties (handles : Handles) (tokens : List Token) :
    Except Fault (Properties × List Token) := do
  let resolved := fun (written : WrittenTag) =>
    match Tag.ofWritten? handles written with
    | some tag => Except.ok tag
    | none => .error .unknownHandle
  match tokens with
  | .anchor number :: .tag written :: rest
  | .tag written :: .anchor number :: rest =>
      pure (⟨some number, some (← resolved written)⟩, rest)
  | .anchor number :: rest => pure (⟨some number, none⟩, rest)
  | .tag written :: rest => pure (⟨none, some (← resolved written)⟩, rest)
  | _ => pure (⟨none, none⟩, tokens)

/-- A part with what is said in front of it, if anything is. -/
def withProperties (properties : Properties) (part : Node) : Node :=
  if properties = ⟨none, none⟩ then part else .marked properties part

/-- The part at the front of tokens that begin no part: where something is
said in front of it, it is left out. -/
def leftOut (properties : Properties) (tokens : List Token) :
    Except Fault (Node × List Token) :=
  if properties = ⟨none, none⟩ then .error .missingNode
  else .ok (absent, tokens)

mutual

/-- Reads the part of a document that stands at the front of some tokens. -/
def read (handles : Handles) :
    (rounds : Nat) → Place → List Token → Except Fault (Node × List Token)
  | 0, _, _ => .error .missingNode
  | _ + 1, _, .reference number :: rest => .ok (.reference number, rest)
  | rounds + 1, place, tokens => do
      let (properties, tokens) ← readProperties handles tokens
      let (part, rest) ← readContent handles rounds place properties tokens
      pure (withProperties properties part, rest)

/-- Reads a part of a document from behind its properties. -/
def readContent (handles : Handles) :
    (rounds : Nat) → Place → Properties → List Token →
      Except Fault (Node × List Token)
  | 0, _, _, _ => .error .missingNode
  | rounds + 1, place, properties, tokens =>
      match tokens with
      | .scalar style letters :: rest => .ok (.scalar style letters, rest)
      | .flowSequenceStart :: rest =>
          (readFlowItems handles rounds true rest).map fun (items, rest) =>
            (.sequence items, rest)
      | .flowMappingStart :: rest =>
          (readFlowEntries handles rounds true rest).map
            fun (entries, rest) => (.mapping entries, rest)
      | .blockSequenceStart :: rest =>
          if place = .flow then leftOut properties tokens
          else
            (readBlockItems handles rounds rest).map fun (items, rest) =>
              (.sequence items, rest)
      | .blockMappingStart :: rest =>
          if place = .flow then leftOut properties tokens
          else
            (readBlockEntries handles rounds rest).map
              fun (entries, rest) => (.mapping entries, rest)
      | .blockEntry :: _ =>
          if place = .blockPair then
            (readBareItems handles rounds tokens).map fun (items, rest) =>
              (.sequence items, rest)
          else leftOut properties tokens
      | _ => leftOut properties tokens

/-- Reads the entries of a block sequence and its end. -/
def readBlockItems (handles : Handles) :
    (rounds : Nat) → List Token → Except Fault (List Node × List Token)
  | 0, _ => .error .badCollection
  | rounds + 1, tokens =>
      match tokens with
      | .blockEntry :: rest => do
          let (item, rest) ←
            orAbsent endsBlockItem (read handles rounds .block) rest
          let (items, rest) ← readBlockItems handles rounds rest
          pure (item :: items, rest)
      | .blockEnd :: rest => .ok ([], rest)
      | _ => .error .badCollection

/-- Reads the entries of a sequence without indentation of its own, which ends
where they end. -/
def readBareItems (handles : Handles) :
    (rounds : Nat) → List Token → Except Fault (List Node × List Token)
  | 0, _ => .error .badCollection
  | rounds + 1, tokens =>
      match tokens with
      | .blockEntry :: rest => do
          let (item, rest) ←
            orAbsent endsBareItem (read handles rounds .block) rest
          let (items, rest) ← readBareItems handles rounds rest
          pure (item :: items, rest)
      | _ => .ok ([], tokens)

/-- Reads the entries of a block mapping and its end. -/
def readBlockEntries (handles : Handles) :
    (rounds : Nat) → List Token → Except Fault (List (Node × Node) × List Token)
  | 0, _ => .error .badCollection
  | rounds + 1, tokens =>
      match tokens with
      | .key :: rest => do
          let (key, rest) ←
            orAbsent endsBlockValue (read handles rounds .blockPair) rest
          let (value, rest) ←
            behindColon endsBlockValue (read handles rounds .blockPair) rest
          let (entries, rest) ← readBlockEntries handles rounds rest
          pure ((key, value) :: entries, rest)
      | .blockEnd :: rest => .ok ([], rest)
      | _ => .error .badCollection

/-- Reads the items of a flow sequence and its end; a pair among them is a
mapping of its own. -/
def readFlowItems (handles : Handles) :
    (rounds : Nat) → (first : Bool) → List Token →
      Except Fault (List Node × List Token)
  | 0, _, _ => .error .badCollection
  | _, _, .flowSequenceEnd :: rest => .ok ([], rest)
  | rounds + 1, first, tokens => do
      let tokens ← behindComma first tokens
      match tokens with
      | .flowSequenceEnd :: rest => pure ([], rest)
      | .key :: rest =>
          let (key, rest) ← pairKey (read handles rounds .flow) rest
          let (value, rest) ←
            behindColon endsFlowPart (read handles rounds .flow) rest
          let (items, rest) ← readFlowItems handles rounds false rest
          pure (.mapping [(key, value)] :: items, rest)
      | _ =>
          let (item, rest) ← read handles rounds .flow tokens
          let (items, rest) ← readFlowItems handles rounds false rest
          pure (item :: items, rest)

/-- Reads the entries of a flow mapping and its end; an entry without a colon
has no value. -/
def readFlowEntries (handles : Handles) :
    (rounds : Nat) → (first : Bool) → List Token →
      Except Fault (List (Node × Node) × List Token)
  | 0, _, _ => .error .badCollection
  | _, _, .flowMappingEnd :: rest => .ok ([], rest)
  | rounds + 1, first, tokens => do
      let tokens ← behindComma first tokens
      match tokens with
      | .flowMappingEnd :: rest => pure ([], rest)
      | .key :: rest =>
          let (key, rest) ←
            orAbsent endsFlowKey (read handles rounds .flow) rest
          let (value, rest) ←
            behindColon endsFlowPart (read handles rounds .flow) rest
          let (entries, rest) ← readFlowEntries handles rounds false rest
          pure ((key, value) :: entries, rest)
      | _ =>
          let (key, rest) ← read handles rounds .flow tokens
          let (entries, rest) ← readFlowEntries handles rounds false rest
          pure ((key, absent) :: entries, rest)

end

/-- How many rounds reading some tokens can take. -/
def roundsFor (tokens : List Token) : Nat := 3 * tokens.length + 3

/-! ## Directives -/

/-- Whether a document in a version of the language can be read. -/
def isKnownVersion (major minor : Nat) : Bool :=
  major = 1 && (minor = 1 || minor = 2)

/-- Takes the directives off the front of some tokens.  The version is given
at most once, and so is every handle. -/
def readDirectives : (versionGiven : Bool) → Handles → List Token →
    Except Fault (Handles × List Token)
  | versionGiven, handles, .directive (.version major minor) :: rest =>
      if versionGiven then .error .badDirective
      else if isKnownVersion major minor then readDirectives true handles rest
      else .error .wrongVersion
  | versionGiven, handles, .directive (.handle letters start) :: rest =>
      if (handles.lookup letters).isSome then .error .badDirective
      else readDirectives versionGiven ((letters, start) :: handles) rest
  | _, handles, tokens => .ok (handles, tokens)

end Node

namespace Document

/-- The tokens behind the marks at the end of a document. -/
def behind (tokens : List Token) : List Token :=
  tokens.dropWhile (· == .documentEnd)

/-- The tokens before which the content of a document is left out. -/
def endsContent : List Token → Bool
  | .directive _ :: _ | .documentStart :: _ | .documentEnd :: _ | [] => true
  | _ => false

/-- Reads the content of a document.  Behind directives there has to be the
mark of its start, and behind this mark the content may be left out. -/
def readContent (tokens : List Token) : Except Fault (Node × List Token) :=
  match tokens with
  | [] => .ok (.absent, [])
  | .directive _ :: _ | .documentStart :: _ => do
      let (handles, tokens) ← Node.readDirectives false [] tokens
      match tokens with
      | .documentStart :: rest =>
          Node.orAbsent endsContent
            (Node.read (handles ++ Tag.standardHandles)
              (Node.roundsFor rest) .block)
            rest
      | _ => throw .badDirective
  | tokens =>
      Node.read Tag.standardHandles (Node.roundsFor tokens) .block tokens

/-- The only document in some tokens.  No tokens at all are a document that is
left out. -/
def ofTokens (tokens : List Token) : Except Fault Document := do
  let (content, rest) ← readContent tokens
  if (behind rest).isEmpty then pure (.ofNode content) else throw .extraDocument

def ofText (text : String) : Except Fault Document :=
  (Token.ofText text).bind ofTokens

end Document

end SchemaAtlas.Yaml
