import SchemaAtlas.Json.Quoted
import SchemaAtlas.Json.Numeral

/-!
# Decoding JSON data of a given shape

A `Decoder` takes data of one shape from JSON, in two ways: from a value, and
straight from text.  Reading from text decodes while it reads, so of a wrong
shape early on and broken text later the wrong shape is reported, and the
other way round.

Records may be written as objects or as lists of their fields in order.
Unknown members are passed over without being decoded.  Arrays and objects may
be nested to a depth of 127.
-/

namespace SchemaAtlas.Json

/-- Takes something from the front of a text; the state is the text that is
left. -/
abbrev Reader (α : Type) := StateT (List Char) (Except Fault) α

/-- The blanks that may stand between the parts of JSON text. -/
def isSpace (letter : Char) : Bool :=
  letter = ' ' || letter = '\n' || letter = '\t' || letter = '\r'

def skipSpace (text : List Char) : List Char := text.dropWhile isSpace

/-- How many arrays and objects may be open at once. -/
def deepestNesting : Nat := 127

/-- Reads the rest of a word of which the first letter has been seen. -/
def readWord : List Char → List Char → Except Fault (List Char)
  | [], text => .ok text
  | _ :: _, [] => .error .endInValue
  | wanted :: word, letter :: text =>
      if letter = wanted then readWord word text else .error .badWord

/-- Reads a word from behind its first letter and gives what the word means. -/
def wordFor {α : Type} (word : String) (meaning : α) (text : List Char) :
    Except Fault (α × List Char) :=
  (readWord word.toList text).map fun rest => (meaning, rest)

/-- Reads a string from behind its opening quote. -/
def readString (text : List Char) : Except Fault (String × List Char) :=
  (unquoteLetters text).map fun (letters, rest) => (String.ofList letters, rest)

/-! ## Arrays and objects, whatever they hold -/

/-- Where an array or object goes on: at the next element, or behind its end. -/
inductive Onward where
  | next (text : List Char)
  | done (text : List Char)

/-- Looks for the next item of an array, or its end. -/
def nextItem (first : Bool) (text : List Char) : Except Fault Onward :=
  match skipSpace text with
  | [] => .error .endInList
  | ']' :: rest => .ok (.done rest)
  | ',' :: rest =>
      if first then .ok (.next (',' :: rest))
      else
        match skipSpace rest with
        | [] => .error .endInValue
        | ']' :: _ => .error .trailingComma
        | rest => .ok (.next rest)
  | rest => if first then .ok (.next rest) else .error .noListEnd

/-- Looks for the next member of an object, or its end; a member is left at
the letter behind its opening quote. -/
def nextMember (first : Bool) (text : List Char) : Except Fault Onward :=
  match skipSpace text with
  | [] => .error .endInObject
  | '}' :: rest => .ok (.done rest)
  | ',' :: rest =>
      if first then .error .keyNotString
      else
        match skipSpace rest with
        | [] => .error .endInValue
        | '"' :: rest => .ok (.next rest)
        | '}' :: _ => .error .trailingComma
        | _ => .error .keyNotString
  | '"' :: rest => if first then .ok (.next rest) else .error .noObjectEnd
  | _ => if first then .error .keyNotString else .error .noObjectEnd

/-- Reads the colon between a key and its value. -/
def readColon (text : List Char) : Except Fault (List Char) :=
  match skipSpace text with
  | [] => .error .endInObject
  | ':' :: rest => .ok rest
  | _ => .error .noColon

/-- Reads the items of an array from behind its bracket.  Every item takes at
least one letter, so as many rounds as the text has letters suffice. -/
def readItems {α : Type} (item : Reader α) :
    (rounds : Nat) → (first : Bool) → Reader (List α)
  | 0, _ => fun _ => .error .endInList
  | rounds + 1, first => fun text => do
      match ← nextItem first text with
      | .done rest => pure ([], rest)
      | .next rest =>
          let (value, rest) ← item rest
          let (values, rest) ← readItems item rounds false rest
          pure (value :: values, rest)

/--
Reads the members of an object from behind its brace, changing a state by each
of them.  `enter` sees the key before the colon is read, and gives the reader
of the member's change.
-/
def readMembers {σ : Type}
    (enter : σ → String → Except Fault (Reader (σ → σ))) :
    (rounds : Nat) → (first : Bool) → σ → Reader σ
  | 0, _, _ => fun _ => .error .endInObject
  | rounds + 1, first, state => fun text => do
      match ← nextMember first text with
      | .done rest => pure (state, rest)
      | .next rest =>
          let (key, rest) ← readString rest
          let change ← enter state key
          let rest ← readColon rest
          let (change, rest) ← change rest
          readMembers enter rounds false (change state) rest

/-- Checks that an array ends here. -/
def endArray (text : List Char) : Except Fault (List Char) :=
  match skipSpace text with
  | [] => .error .endInList
  | ']' :: rest => .ok rest
  | ',' :: rest =>
      match skipSpace rest with
      | ']' :: _ => .error .trailingComma
      | _ => .error .trailingCharacters
  | _ => .error .trailingCharacters

/-! ## Values of any shape -/

/-- Reads any value.  `inner` reads what stands inside its arrays and objects;
without it none may be opened. -/
def readValueWith (inner : Option (Reader Value)) : Reader Value := fun text =>
  match skipSpace text with
  | [] => .error .endInValue
  | 'n' :: rest => wordFor "ull" .null rest
  | 't' :: rest => wordFor "rue" (.bool true) rest
  | 'f' :: rest => wordFor "alse" (.bool false) rest
  | '-' :: rest =>
      (readNumber true rest).map fun (number, rest) => (.number number, rest)
  | '"' :: rest =>
      (readString rest).map fun (letters, rest) => (.string letters, rest)
  | '[' :: rest =>
      match inner with
      | none => .error .tooDeep
      | some inner =>
          (readItems inner (rest.length + 1) true rest).map
            fun (items, rest) => (.array items, rest)
  | '{' :: rest =>
      match inner with
      | none => .error .tooDeep
      | some inner =>
          let enter := fun (_ : List (String × Value)) (key : String) =>
            .ok fun text =>
              (inner text).map fun (value, rest) => (putEntry key value, rest)
          (readMembers enter (rest.length + 1) true [] rest).map
            fun (members, rest) => (.object members, rest)
  | letter :: rest =>
      if isDigit letter then
        (readNumber false (letter :: rest)).map fun (number, rest) =>
          (.number number, rest)
      else .error .noValue

/-- Reads any value in which at most `depth` arrays and objects are open at
once. -/
def readValue : (depth : Nat) → Reader Value
  | 0 => readValueWith none
  | depth + 1 => readValueWith (some (readValue depth))

/-- An array or object that is being passed over. -/
inductive Enclosure where
  | array
  | object
deriving DecidableEq

/-- What the skipping of a value looks for next: a value, or what may follow
one. -/
inductive Awaited where
  | value
  | separator (afterValue : Bool)

/-- Passes over the word, number or string at the front of a text; `none` if
an array or object starts there instead. -/
def skipScalar : List Char → Except Fault (Option (List Char))
  | [] => .error .endInValue
  | 'n' :: rest => (readWord "ull".toList rest).map some
  | 't' :: rest => (readWord "rue".toList rest).map some
  | 'f' :: rest => (readWord "alse".toList rest).map some
  | '-' :: rest => (skipNumber rest).map some
  | '"' :: rest => (skipString rest).map some
  | '[' :: _ => .ok none
  | '{' :: _ => .ok none
  | letter :: rest =>
      if isDigit letter then (skipNumber (letter :: rest)).map some
      else .error .noValue

/-- Passes over a key and its colon, from before the key's opening quote. -/
def skipKey (text : List Char) : Except Fault (List Char) :=
  match skipSpace text with
  | [] => .error .endInObject
  | '"' :: rest => (skipString rest).bind readColon
  | _ => .error .keyNotString

/-- Passes over a value of any depth, keeping the list of what encloses the
place.  Every second round takes at least one letter. -/
def skipRounds : (rounds : Nat) → List Enclosure → Awaited → List Char →
    Except Fault (List Char)
  | 0, _, _, _ => .error .endInValue
  | rounds + 1, enclosing, .value, text => do
      let text := skipSpace text
      match ← skipScalar text with
      | some rest =>
          if enclosing.isEmpty then pure rest
          else skipRounds rounds enclosing (.separator true) rest
      | none =>
          let opened :=
            if text.head? = some '[' then Enclosure.array else .object
          skipRounds rounds (opened :: enclosing) (.separator false)
            (text.drop 1)
  | _ + 1, [], .separator _, text => .ok text
  | rounds + 1, .array :: outer, .separator afterValue, text =>
      match skipSpace text with
      | [] => .error .endInList
      | ']' :: rest =>
          if outer.isEmpty then .ok rest
          else skipRounds rounds outer (.separator true) rest
      | ',' :: rest =>
          skipRounds rounds (.array :: outer) .value
            (if afterValue then rest else ',' :: rest)
      | rest =>
          if afterValue then .error .noListEnd
          else skipRounds rounds (.array :: outer) .value rest
  | rounds + 1, .object :: outer, .separator afterValue, text =>
      match skipSpace text with
      | [] => .error .endInObject
      | '}' :: rest =>
          if outer.isEmpty then .ok rest
          else skipRounds rounds outer (.separator true) rest
      | ',' :: rest => do
          let rest ← skipKey (if afterValue then rest else ',' :: rest)
          skipRounds rounds (.object :: outer) .value rest
      | rest =>
          if afterValue then .error .noObjectEnd
          else do
            let rest ← skipKey rest
            skipRounds rounds (.object :: outer) .value rest

/-- Passes over a value of any depth. -/
def skipValue : Reader Unit := fun text =>
  (skipRounds (2 * text.length + 2) [] .value text).map fun rest => ((), rest)

/-! ## Decoders -/

/-- Takes data of one shape from JSON. -/
structure Decoder (α : Type) where
  /-- Decodes a value. -/
  fromValue : Value → Except Fault α
  /-- Reads text in which at most `depth` more arrays and objects may be
  opened. -/
  fromText : (depth : Nat) → Reader α

namespace Decoder

/-- Reports the value at the front of a text as one of the wrong type. -/
def refuse {α : Type} (expected : String) (text : List Char) : Except Fault α :=
  let report := fun (found : Found) =>
    (.error (.wrongType found expected) : Except Fault α)
  match skipSpace text with
  | [] => .error .endInValue
  | 'n' :: rest => (readWord "ull".toList rest).bind fun _ => report .null
  | 't' :: rest =>
      (readWord "rue".toList rest).bind fun _ => report (.bool true)
  | 'f' :: rest =>
      (readWord "alse".toList rest).bind fun _ => report (.bool false)
  | '-' :: rest =>
      (readNumber true rest).bind fun (number, _) => report (.number number)
  | '"' :: rest =>
      (readString rest).bind fun (letters, _) => report (.string letters)
  | '[' :: _ => report .sequence
  | '{' :: _ => report .mapping
  | letter :: rest =>
      if isDigit letter then
        (readNumber false (letter :: rest)).bind fun (number, _) =>
          report (.number number)
      else .error .noValue

/-- Reports a value as one of the wrong type. -/
def refuseValue {α : Type} (expected : String) (value : Value) :
    Except Fault α :=
  .error (.wrongType (.ofValue value) expected)

/-- Decodes a whole text; nothing but blanks may follow the data. -/
def ofText {α : Type} (decoder : Decoder α) (text : String) :
    Except Fault α := do
  let (value, rest) ← decoder.fromText deepestNesting text.toList
  if (skipSpace rest).isEmpty then pure value else .error .trailingCharacters

def map {α β : Type} (change : α → β) (decoder : Decoder α) : Decoder β where
  fromValue := fun value => (decoder.fromValue value).map change
  fromText := fun depth text =>
    (decoder.fromText depth text).map fun (value, rest) => (change value, rest)

def any : Decoder Value where
  fromValue := .ok
  fromText := readValue

def string : Decoder String where
  fromValue
    | .string letters => .ok letters
    | other => refuseValue "a string" other
  fromText := fun _ text =>
    match skipSpace text with
    | '"' :: rest => readString rest
    | rest => refuse "a string" rest

def bool : Decoder Bool where
  fromValue
    | .bool value => .ok value
    | other => refuseValue "a boolean" other
  fromText := fun _ text =>
    match skipSpace text with
    | 't' :: rest => wordFor "rue" true rest
    | 'f' :: rest => wordFor "alse" false rest
    | rest => refuse "a boolean" rest

/-- An integer of 64 bits without sign, from a number. -/
def countOf : Number → Except Fault Nat
  | .integer (.ofNat value) => .ok value
  | .integer value => .error (.wrongValue (.number (.integer value)) "usize")
  | number => .error (.wrongType (.number number) "usize")

def count : Decoder Nat where
  fromValue
    | .number number => countOf number
    | other => refuseValue "usize" other
  fromText := fun _ text =>
    let read := fun (negative : Bool) (text : List Char) => do
      let (number, rest) ← readNumber negative text
      let value ← countOf number
      pure (value, rest)
    match skipSpace text with
    | '-' :: rest => read true rest
    | letter :: rest =>
        if isDigit letter then read false (letter :: rest)
        else refuse "usize" (letter :: rest)
    | [] => .error .endInValue

/-- Either `null`, which gives `default`, or what the decoder takes. -/
def orNull {α : Type} (default : α) (decoder : Decoder α) : Decoder α where
  fromValue
    | .null => .ok default
    | other => decoder.fromValue other
  fromText := fun depth text =>
    match skipSpace text with
    | 'n' :: rest => wordFor "ull" default rest
    | rest => decoder.fromText depth rest

/-- Opens one more array or object, if the depth allows it. -/
def deeper {α : Type} (depth : Nat) (read : (depth : Nat) → Reader α) :
    Reader α :=
  match depth with
  | 0 => fun _ => .error .tooDeep
  | depth + 1 => read depth

def list {α : Type} (item : Decoder α) : Decoder (List α) where
  fromValue
    | .array items => items.mapM item.fromValue
    | other => refuseValue "a sequence" other
  fromText := fun depth text =>
    match skipSpace text with
    | '[' :: rest =>
        deeper depth
          (fun depth => readItems (item.fromText depth) (rest.length + 1) true)
          rest
    | rest => refuse "a sequence" rest

/-- A dictionary; of a repeated key the last value counts. -/
def dict {α : Type} (item : Decoder α) : Decoder (Dict α) where
  fromValue
    | .object members => do
        let pairs ← members.mapM fun (key, value) => do
          pure (key, ← item.fromValue value)
        pure (Dict.ofList pairs)
    | other => refuseValue "a map" other
  fromText := fun depth text =>
    match skipSpace text with
    | '{' :: rest =>
        let read := fun (depth : Nat) =>
          readMembers (fun _ key => .ok fun text => do
            let (value, rest) ← item.fromText depth text
            pure (fun (dict : Dict α) => dict.insert key value, rest))
            (rest.length + 1) true Dict.empty
        deeper depth read rest
    | rest => refuse "a map" rest

/-! ### Records -/

/-- One field of a record that is being decoded, the state of which has type
`σ`. -/
structure Field (σ : Type) where
  name : String
  /-- Whether the field may be left out. -/
  optional : Bool
  /-- Whether the field has been seen. -/
  seen : σ → Bool
  /-- Decodes the value of the field into a change of the state. -/
  value : Decoder (σ → σ)

/-- What a record of the given name and number of fields is called in a
message. -/
def recordName (name : String) : String := "struct " ++ name

/-- What the list form of a record is called in a message. -/
def recordList (name : String) (fields : Nat) : String :=
  recordName name ++ " with " ++ toString fields ++
    (if fields = 1 then " element" else " elements")

/-- The value of a field that has no default. -/
def need {α : Type} (name : String) : Option α → Except Fault α
  | some value => .ok value
  | none => .error (.missingField name)

/-- Takes the fields of a record from the items of a list, in order. -/
def fieldsOfItems {σ : Type} (expected : String) :
    (position : Nat) → List (Field σ) → List Value → σ →
      Except Fault (σ × List Value)
  | _, [], items, state => .ok (state, items)
  | position, field :: fields, [], state =>
      if field.optional then
        fieldsOfItems expected (position + 1) fields [] state
      else .error (.wrongLength position expected)
  | position, field :: fields, item :: items, state => do
      let change ← field.value.fromValue item
      fieldsOfItems expected (position + 1) fields items (change state)

/-- Takes the fields of a record from the members of an object, in the order
of the members. -/
def fieldsOfMembers {σ : Type} (fields : List (Field σ)) :
    List (String × Value) → σ → Except Fault σ
  | [], state => .ok state
  | (key, value) :: rest, state =>
      match fields.find? (fun field => field.name == key) with
      | none => fieldsOfMembers fields rest state
      | some field =>
          if field.seen state then .error (.duplicateField key)
          else do
            let change ← field.value.fromValue value
            fieldsOfMembers fields rest (change state)

/-- Reads the fields of a record from the text of a list, from behind its
bracket. -/
def readFieldList {σ : Type} (expected : String) (depth : Nat) :
    (position : Nat) → List (Field σ) → σ → Reader σ
  | _, [], state => fun text => (endArray text).map fun rest => (state, rest)
  | position, field :: fields, state => fun text => do
      match ← nextItem (position == 0) text with
      | .done rest =>
          let missing :=
            ((field :: fields).findIdx? fun field => !field.optional).map
              (position + ·)
          match missing with
          | some position => .error (.wrongLength position expected)
          | none => pure (state, rest)
      | .next rest =>
          let (change, rest) ← field.value.fromText depth rest
          readFieldList expected depth (position + 1) fields (change state) rest

/--
A record with the given fields, from an object or a list.  `finish` makes the
record from the state in which all fields are; it refuses a state that lacks a
field without default.
-/
def record {σ α : Type} (name : String) (fields : List (Field σ)) (start : σ)
    (finish : σ → Except Fault α) : Decoder α where
  fromValue
    | .array items => do
        let (state, left) ←
          fieldsOfItems (recordList name fields.length) 0 fields items start
        let made ← finish state
        if left.isEmpty then pure made
        else .error (.wrongLength items.length "fewer elements in array")
    | .object members => do finish (← fieldsOfMembers fields members start)
    | other => refuseValue (recordName name) other
  fromText := fun depth text =>
    match skipSpace text with
    | '[' :: rest =>
        deeper depth (fun depth text => do
          let (state, rest) ←
            readFieldList (recordList name fields.length) depth 0 fields
              start text
          pure (← finish state, rest)) rest
    | '{' :: rest =>
        let enter := fun (depth : Nat) (state : σ) (key : String) =>
          match fields.find? (fun field => field.name == key) with
          | none =>
              (.ok fun text =>
                skipValue text |>.map fun (_, rest) => (id, rest))
          | some field =>
              if field.seen state then .error (.duplicateField key)
              else .ok (field.value.fromText depth)
        deeper depth (fun depth text => do
          let (state, rest) ←
            readMembers (enter depth) (rest.length + 1) true start text
          pure (← finish state, rest)) rest
    | rest => refuse (recordName name) rest

/-! ### Choices -/

/-- The alternative with a given name. -/
def chooseNamed {α : Type} (alternatives : List (String × α)) (name : String) :
    Except Fault α :=
  match findEntry name alternatives with
  | some chosen => .ok chosen
  | none => .error (.unknownChoice name (alternatives.map Prod.fst))

/-- One of several named alternatives: its name, or an object that gives the
name the value `null`. -/
def choice {α : Type} (alternatives : List (String × α)) : Decoder α where
  fromValue
    | .string name => chooseNamed alternatives name
    | .object [(name, value)] => do
        let chosen ← chooseNamed alternatives name
        match value with
        | .null => pure chosen
        | other => refuseValue "unit" other
    | .object _ => .error (.wrongValue .mapping "map with a single key")
    | other => refuseValue "string or map" other
  fromText := fun depth text =>
    match skipSpace text with
    | [] => .error .endInValue
    | '"' :: rest => do
        let (name, rest) ← readString rest
        pure (← chooseNamed alternatives name, rest)
    | '{' :: rest =>
        deeper depth (fun _ text => do
          let (name, rest) ←
            (match skipSpace text with
              | [] => .error .endInObject
              | '"' :: rest => readString rest
              | '}' :: _ => .error .noValue
              | _ => .error .keyNotString)
          let chosen ← chooseNamed alternatives name
          let rest ← readColon rest
          let (_, rest) ←
            (match skipSpace rest with
              | 'n' :: rest => wordFor "ull" () rest
              | rest => refuse "unit" rest)
          match skipSpace rest with
          | [] => .error .endInObject
          | '}' :: rest => pure (chosen, rest)
          | _ => .error .noValue) rest
    | _ => .error .noValue

end Decoder

end SchemaAtlas.Json
