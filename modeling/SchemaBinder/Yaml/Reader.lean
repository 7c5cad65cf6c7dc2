import SchemaBinder.Setting.Settled
import SchemaBinder.Text.Blank
import SchemaBinder.Yaml.Token
/-!
# Reading YAML

`Yaml.read?` reads a text with one document; a text without any is a plain text of no
characters.

A document is read from its tokens by recursive descent.  Each part comes with what has been
said behind it and with the tokens behind it.  Every call uses up some fuel and at
least one token, so as much fuel as there are tokens is enough.

An anchor names the value behind it for the aliases that follow.  An alias inside its own anchor
has no value.  What a document means must not be out of all proportion to its size: each
occurrence of an alias counts, inside every value that an alias stands for again, and the count
is bounded by `maxRepetition` times the size of the document.
-/

namespace SchemaBinder.Yaml

/-- A value of a document. -/
structure Node where
  /-- The value. -/
  value : Setting
  /-- The occurrences of aliases in it. -/
  repetitions : Nat
  /-- The scalars, aliases, starts and ends of collections that it is written with. -/
  size : Nat

/-- What a document has said before a place. -/
structure Context where
  /-- The meanings of the handles of tags. -/
  handles : List (String × String)
  /-- The values behind anchors.  One that is not complete has no value yet. -/
  anchors : List (String × Option Node)

/-! ## Tags -/

/-- The start of the tags of the language itself. -/
def coreTag : String := "tag:yaml.org,2002:"

/-- The handles that every document has. -/
def standardHandles : List (String × String) := [("!", "!"), ("!!", coreTag)]

/-- The full text of a tag. -/
def Context.tagText? (ctx : Context) (t : Mark.Tag) : Option String :=
  if t.handle = "" then some t.suffix
  else (Assoc.get? t.handle ctx.handles).map (· ++ t.suffix)

/-- Does a tag belong to the document and not to the language? -/
def isOwnTag (tag : String) : Bool := Text.hasStart "!" tag

/-- The value of a scalar whose tag is not its own, where any type will do. -/
def coreScalar (tag s : String) : Setting :=
  match Text.dropStart? coreTag tag with
  | some "null" => if Setting.Plain.isNull s then .null else .unknown
  | some "bool" => (Setting.Plain.bool? s).elim .unknown .bool
  | some "int" => ((Setting.Plain.whole? s).bind Setting.Plain.ofWhole?).getD .unknown
  | some "float" => (Setting.Plain.number? s).getD .unknown
  | _ => .text s

/-- The value of a scalar. -/
def scalarValue (tag : Option String) (isPlain : Bool) (s : String) : Setting :=
  let bare : Setting := if isPlain then .plain s else .text s
  match tag with
  | none => bare
  | some t => .marked (if isOwnTag t then .unknown else coreScalar t s) bare

/-- The tag of a scalar that is written out.  A lone exclamation mark leaves the scalar as it is. -/
def scalarTag? (tag : Option String) : Option String := tag.filter (· ≠ "!")

/-- The value of a collection. -/
def collectionValue (tag : Option String) (bare : Setting) : Setting :=
  match tag with
  | some t => if isOwnTag t then .marked .unknown bare else bare
  | none => bare

/-! ## Values -/

/-- The properties in front of a value. -/
structure Properties where
  /-- The anchor. -/
  anchor : Option String
  /-- The tag. -/
  tag : Option String

/-- Are there any properties? -/
def Properties.isSome (p : Properties) : Bool := p.anchor.isSome || p.tag.isSome

/-- The properties in front of a value: an anchor and a tag in any order. -/
def properties? (ctx : Context) : List Token → Option (Properties × List Token)
  | .anchor a :: .tag t :: ts => (ctx.tagText? t).map fun t => (⟨a, t⟩, ts)
  | .tag t :: .anchor a :: ts => (ctx.tagText? t).map fun t => (⟨a, t⟩, ts)
  | .anchor a :: ts => some (⟨a, none⟩, ts)
  | .tag t :: ts => (ctx.tagText? t).map fun t => (⟨none, t⟩, ts)
  | ts => some (⟨none, none⟩, ts)

/-- Gives an anchor its value. -/
def Context.bind (ctx : Context) (anchor : Option String) (node : Option Node) : Context :=
  match anchor with
  | some a => { ctx with anchors := (a, node) :: ctx.anchors }
  | none => ctx

/-- The scalar of no characters. -/
def emptyNode : Node := ⟨.plain "", 0, 1⟩

/-- The value of an alias. -/
def Context.aliasNode? (ctx : Context) (name : String) : Option Node :=
  (Assoc.get? name ctx.anchors).map fun node =>
    match node with
    | some n => ⟨n.value, n.repetitions + 1, 1⟩
    | none => ⟨.unknown, 1, 1⟩

/-- All counts added up. -/
def total (counts : List Nat) : Nat := counts.foldl (· + ·) 0

/-- A list. -/
def listNode (tag : Option String) (items : List Node) : Node where
  value := collectionValue tag (.list (items.map (·.value)))
  repetitions := total (items.map (·.repetitions))
  size := total (items.map (·.size)) + 2

/-- The text of a key. -/
def keyText? (key : Node) : Option String :=
  match key.value.bare with
  | .text s => some s
  | .plain s => some s
  | _ => none

/-- A table.  It has no value if one of its keys is no text. -/
def tableNode (tag : Option String) (fields : List (Node × Node)) : Node where
  value := collectionValue tag
    (match fields.mapM fun (k, v) => (keyText? k).map (·, v.value) with
      | some pairs => .table pairs
      | none => .unknown)
  repetitions := total (fields.map fun (k, v) => k.repetitions + v.repetitions)
  size := total (fields.map fun (k, v) => k.size + v.size) + 2

/-- Does a value that is left out stand before these tokens, in a block mapping? -/
def endsBlockValue : List Token → Bool
  | .key :: _ | .value :: _ | .blockEnd :: _ => true
  | _ => false

/-- Does a value that is left out stand before these tokens, in a block sequence? -/
def endsEntry (indented : Bool) (ts : List Token) : Bool :=
  match ts with
  | .entry :: _ | .blockEnd :: _ => true
  | .key :: _ | .value :: _ => !indented
  | _ => false

/-- Does a value that is left out stand before these tokens, in a flow collection? -/
def endsFlowValue (inList : Bool) : List Token → Bool
  | .comma :: _ => true
  | .closeList :: _ => inList
  | .closeTable :: _ => !inList
  | _ => false

mutual

/-- A value.  `block` tells whether it may be a block collection, and `loose` whether it may be
a block sequence that is not indented further than its key. -/
def node? (block loose : Bool) : Nat → Context → List Token → Option (Node × Context × List Token)
  | 0, _, _ => none
  | _ + 1, ctx, .alias_ name :: ts => (ctx.aliasNode? name).map fun n => (n, ctx, ts)
  | fuel + 1, ctx, ts => do
    let (p, ts) ← properties? ctx ts
    let opened := ctx.bind p.anchor none
    let close := fun (n : Node) (inner : Context) (ts : List Token) =>
      some (n, inner.bind p.anchor (some n), ts)
    match ts with
    | .scalar isPlain s :: ts => close ⟨scalarValue (scalarTag? p.tag) isPlain s, 0, 1⟩ ctx ts
    | .openList :: ts =>
      let (items, inner, ts) ← flowItems? true fuel opened ts
      close (listNode p.tag items) inner ts
    | .openTable :: ts =>
      let (fields, inner, ts) ← flowFields? true fuel opened ts
      close (tableNode p.tag fields) inner ts
    | .sequenceStart :: ts =>
      if !block then none
      else
        let (items, inner, ts) ← entries? true fuel opened ts
        close (listNode p.tag items) inner ts
    | .mappingStart :: ts =>
      if !block then none
      else
        let (fields, inner, ts) ← blockFields? fuel opened ts
        close (tableNode p.tag fields) inner ts
    | ts =>
      if loose && (match ts with | .entry :: _ => true | _ => false) then
        let (items, inner, ts) ← entries? false fuel opened ts
        close (listNode p.tag items) inner ts
      else if p.isSome then close ⟨scalarValue p.tag true "", 0, 1⟩ ctx ts
      else none

/-- The entries of a block sequence.  One that is indented ends with a token of its own. -/
def entries? (indented : Bool) : Nat → Context → List Token → Option (List Node × Context × List Token)
  | 0, _, _ => none
  | fuel + 1, ctx, .entry :: ts => do
    let (item, ctx, ts) ←
      if endsEntry indented ts then some (emptyNode, ctx, ts)
      else node? true false fuel ctx ts
    let (items, ctx, ts) ← entries? indented fuel ctx ts
    return (item :: items, ctx, ts)
  | _ + 1, ctx, ts =>
    match indented, ts with
    | true, .blockEnd :: ts => some ([], ctx, ts)
    | true, _ => none
    | false, ts => some ([], ctx, ts)

/-- The fields of a block mapping. -/
def blockFields? : Nat → Context → List Token →
    Option (List (Node × Node) × Context × List Token)
  | 0, _, _ => none
  | _ + 1, ctx, .blockEnd :: ts => some ([], ctx, ts)
  | fuel + 1, ctx, .key :: ts => do
    let (k, ctx, ts) ←
      if endsBlockValue ts then some (emptyNode, ctx, ts) else node? true true fuel ctx ts
    let (v, ctx, ts) ← blockValue? fuel ctx ts
    let (fields, ctx, ts) ← blockFields? fuel ctx ts
    return ((k, v) :: fields, ctx, ts)
  | _ + 1, _, _ => none

/-- The value behind a key of a block mapping. -/
def blockValue? : Nat → Context → List Token → Option (Node × Context × List Token)
  | 0, _, _ => none
  | fuel + 1, ctx, .value :: ts =>
    if endsBlockValue ts then some (emptyNode, ctx, ts) else node? true true fuel ctx ts
  | _ + 1, ctx, ts => some (emptyNode, ctx, ts)

/-- The items of a flow sequence.  A comma stands before each but the first. -/
def flowItems? (first : Bool) : Nat → Context → List Token → Option (List Node × Context × List Token)
  | 0, _, _ => none
  | _ + 1, ctx, .closeList :: ts => some ([], ctx, ts)
  | fuel + 1, ctx, ts => do
    let ts ← match first, ts with
      | true, ts => some ts
      | false, .comma :: ts => some ts
      | false, _ => none
    match ts with
    | .closeList :: ts => return ([], ctx, ts)
    | .key :: ts =>
      let (item, ctx, ts) ← flowPair? fuel ctx ts
      let (items, ctx, ts) ← flowItems? false fuel ctx ts
      return (item :: items, ctx, ts)
    | ts =>
      let (item, ctx, ts) ← node? false false fuel ctx ts
      let (items, ctx, ts) ← flowItems? false fuel ctx ts
      return (item :: items, ctx, ts)

/-- A table of one field that stands as an item of a flow sequence, from behind the front of its
key on. -/
def flowPair? : Nat → Context → List Token → Option (Node × Context × List Token)
  | 0, _, _ => none
  | fuel + 1, ctx, ts => do
    let (k, ctx, ts) ← match ts with
      | .value :: ts => some (emptyNode, ctx, ts)
      | .comma :: ts => some (emptyNode, ctx, ts)
      | .closeList :: ts => some (emptyNode, ctx, ts)
      | ts => node? false false fuel ctx ts
    let (v, ctx, ts) ← flowValue? true fuel ctx ts
    return (tableNode none [(k, v)], ctx, ts)

/-- The value behind a key of a flow mapping, or of a pair in a flow sequence. -/
def flowValue? (inList : Bool) : Nat → Context → List Token → Option (Node × Context × List Token)
  | 0, _, _ => none
  | fuel + 1, ctx, .value :: ts =>
    if endsFlowValue inList ts then some (emptyNode, ctx, ts) else node? false false fuel ctx ts
  | _ + 1, ctx, ts => some (emptyNode, ctx, ts)

/-- The fields of a flow mapping.  A comma stands before each but the first. -/
def flowFields? (first : Bool) : Nat → Context → List Token →
    Option (List (Node × Node) × Context × List Token)
  | 0, _, _ => none
  | _ + 1, ctx, .closeTable :: ts => some ([], ctx, ts)
  | fuel + 1, ctx, ts => do
    let ts ← match first, ts with
      | true, ts => some ts
      | false, .comma :: ts => some ts
      | false, _ => none
    match ts with
    | .closeTable :: ts => return ([], ctx, ts)
    | .key :: ts =>
      let (k, ctx, ts) ← match ts with
        | .value :: _ | .comma :: _ | .closeTable :: _ => some (emptyNode, ctx, ts)
        | ts => node? false false fuel ctx ts
      let (v, ctx, ts) ← flowValue? false fuel ctx ts
      let (fields, ctx, ts) ← flowFields? false fuel ctx ts
      return ((k, v) :: fields, ctx, ts)
    | ts =>
      let (k, ctx, ts) ← node? false false fuel ctx ts
      let (fields, ctx, ts) ← flowFields? false fuel ctx ts
      return ((k, emptyNode) :: fields, ctx, ts)

end

/-! ## Documents -/

/-- The directives at the top of a document. -/
structure Header where
  /-- Has the version been told? -/
  hasVersion : Bool
  /-- The meanings of handles that it gives. -/
  handles : List (String × String)

/-- Is a version known? -/
def isKnownVersion (major minor : Nat) : Bool := major == 1 && (minor == 1 || minor == 2)

/-- The directives at the front of tokens, and what follows them. -/
def header? (h : Header) : List Token → Option (Header × List Token)
  | .directive (.version major minor) :: ts =>
    if h.hasVersion || !isKnownVersion major minor then none
    else header? { h with hasVersion := true } ts
  | .directive (.handle handle start) :: ts =>
    if (Assoc.get? handle h.handles).isSome then none
    else header? { h with handles := h.handles ++ [(handle, start)] } ts
  | ts => some (h, ts)

/-- Do tokens start with what cannot be part of a document? -/
def isOutside : List Token → Bool
  | [] | .directive _ :: _ | .documentStart :: _ | .documentEnd :: _ => true
  | _ => false

/-- The value of a document with given handles, and what follows it. -/
def document? (handles : List (String × String)) (ts : List Token) :
    Option (Node × List Token) :=
  if isOutside ts then some (emptyNode, ts)
  else
    let ctx : Context := ⟨handles ++ standardHandles, []⟩
    (node? true false (2 * ts.length + 2) ctx ts).map fun (n, _, ts) => (n, ts)

/-- The first document of a text, and what follows it. -/
def firstDocument? (ts : List Token) : Option (Node × List Token) := do
  match ts with
  | .directive _ :: _ | .documentStart :: _ =>
    let (h, ts) ← header? ⟨false, []⟩ ts
    match ts with
    | .documentStart :: ts => document? h.handles ts
    | _ => none
  | .documentEnd :: _ => none
  | ts => document? [] ts

/-- Are tokens nothing but the ends of a document? -/
def isOver (ts : List Token) : Bool :=
  ts.all fun t => match t with | .documentEnd => true | _ => false

/-- The bound on repetitions for each unit of size. -/
def maxRepetition : Nat := 100

/-- The value that a text writes. -/
def read? (text : String) : Option Setting := do
  let ts ← Token.scan? (← source? text)
  if ts.isEmpty then return .plain ""
  else
    let (node, rest) ← firstDocument? ts
    if isOver rest && node.repetitions ≤ maxRepetition * node.size then some node.value else none

end SchemaBinder.Yaml
