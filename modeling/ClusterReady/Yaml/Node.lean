import ClusterReady.Yaml.Token

/-!
# YAML documents as trees

`Node.read` builds the tree of the one document in a text.  An alias stands for the tree of its
anchor; inside of that tree it stands for a `cycle`.
-/

namespace ClusterReady.Yaml

inductive Node where
  | scalar (text : String) (style : Style) (tag : Option String)
  | sequence (items : List Node) (tag : Option String)
  | mapping (entries : List (Node × Node)) (tag : Option String)
  /-- An alias inside of the tree that it stands for. -/
  | cycle
deriving Inhabited, Repr

namespace Node

/-- What stands where nothing is written. -/
def empty : Node := .scalar "" .plain none

/-- The anchors of a document.  Each has a number, and a name means its latest anchor. -/
structure Anchors where
  names : List (String × Nat) := []
  trees : List (Nat × Node) := []
  count : Nat := 0

namespace Anchors

/-- Begins the tree of an anchor. -/
def start (a : Anchors) : Option String → Anchors
  | some name => { a with names := (name, a.count) :: a.names, count := a.count + 1 }
  | none => a

/-- Ends the tree that was begun when the anchors were `before`. -/
def finish (a before : Anchors) (name : Option String) (tree : Node) : Anchors :=
  match name with
  | some _ => { a with trees := (before.count, tree) :: a.trees }
  | none => a

/-- The tree that an alias stands for. -/
def find? (a : Anchors) (name : String) : Option Node :=
  (a.names.lookup name).map fun number => (a.trees.lookup number).getD .cycle

end Anchors

/-- The beginnings that the handles of tags stand for. -/
abbrev Handles := List (String × String)

/-- The handles that every document has. -/
def standardHandles : Handles := [("!", "!"), ("!!", "tag:yaml.org,2002:")]

/-- A tag in full. -/
def fullTag (handles : Handles) (t : TagText) : Except Malformed String :=
  if t.handle.isEmpty then .ok t.suffix
  else match handles.lookup t.handle with
    | some start => .ok (start ++ t.suffix)
    | none => .error .undefinedTagHandle

/-- The anchor and the tag in front of a node, in either order, and what follows. -/
def properties : List Token → Option String × Option TagText × List Token
  | .anchor name :: .tag text :: rest => (some name, some text, rest)
  | .tag text :: .anchor name :: rest => (some name, some text, rest)
  | .anchor name :: rest => (some name, none, rest)
  | .tag text :: rest => (none, some text, rest)
  | tokens => (none, none, tokens)

theorem length_properties_le (tokens : List Token) :
    (properties tokens).2.2.length ≤ tokens.length := by
  unfold properties
  split <;> simp <;> omega

/-- What has been read, the anchors after it, and the tokens that follow. -/
abbrev Reading (α : Type) := α × Anchors × List Token

/-- Whether a node of a block mapping is missing in front of this token. -/
def endsBlockNode : Token → Bool
  | .key | .value | .blockEnd => true
  | _ => false

/-- Whether an entry of a block sequence is missing in front of this token. -/
def endsBlockEntry : Token → Bool
  | .blockEntry | .blockEnd => true
  | _ => false

/-- Whether an entry is missing in a sequence that is as far in as the mapping around it. -/
def endsIndentlessEntry : Token → Bool
  | .blockEntry | .key | .value | .blockEnd => true
  | _ => false

def endsListKey : Token → Bool
  | .value | .flowEntry | .flowSequenceEnd => true
  | _ => false

def endsListValue : Token → Bool
  | .flowEntry | .flowSequenceEnd => true
  | _ => false

def endsObjectKey : Token → Bool
  | .value | .flowEntry | .flowMappingEnd => true
  | _ => false

def endsObjectValue : Token → Bool
  | .flowEntry | .flowMappingEnd => true
  | _ => false

/-- A node of which only the properties are written. -/
def missing (optional : Bool) (tag : Option String) (a : Anchors) (tokens : List Token) :
    Except Malformed (Reading Node) :=
  if optional then .ok (.scalar "" .plain tag, a, tokens) else .error .expectedNode

mutual

/-- Reads a node; `block` where it may be a block collection, `indentless` where it may be a
sequence without a start of its own. -/
def node (handles : Handles) (block indentless : Bool) (a : Anchors) (tokens : List Token) :
    Except Malformed (Reading Node) :=
  match tokens with
  | .alias name :: rest =>
    match a.find? name with
    | some tree => .ok (tree, a, rest)
    | none => .error .unknownAlias
  | tokens =>
    let found := properties tokens
    have := length_properties_le tokens
    match found.2.1.mapM (fullTag handles) with
    | .error fault => .error fault
    | .ok tag =>
      match content handles block indentless (found.1.isSome || found.2.1.isSome) tag
          (a.start found.1) found.2.2 with
      | .error fault => .error fault
      | .ok (tree, after, rest) => .ok (tree, after.finish a found.1 tree, rest)
termination_by 8 * tokens.length + 3

/-- Reads what follows the properties of a node; without properties something must follow. -/
def content (handles : Handles) (block indentless optional : Bool) (tag : Option String)
    (a : Anchors) (tokens : List Token) : Except Malformed (Reading Node) :=
  match tokens with
  | .scalar text style :: rest =>
    .ok (.scalar text style (if tag = some "!" then none else tag), a, rest)
  | .flowSequenceStart :: rest => do
    let (items, a, rest) ← listItems handles [] true a rest
    return (.sequence items tag, a, rest)
  | .flowMappingStart :: rest => do
    let (entries, a, rest) ← objectEntries handles [] true a rest
    return (.mapping entries tag, a, rest)
  | .blockSequenceStart :: rest =>
    if block then do
      let (items, a, rest) ← blockItems handles false [] a rest
      return (.sequence items tag, a, rest)
    else missing optional tag a tokens
  | .blockMappingStart :: rest =>
    if block then do
      let (entries, a, rest) ← blockEntries handles [] a rest
      return (.mapping entries tag, a, rest)
    else missing optional tag a tokens
  | .blockEntry :: rest =>
    if indentless then do
      let (items, a, rest) ← blockItems handles true [] a (.blockEntry :: rest)
      return (.sequence items tag, a, rest)
    else missing optional tag a tokens
  | _ => missing optional tag a tokens
termination_by 8 * tokens.length + 2

/-- Reads a node, or nothing where a token stands that ends it. -/
def nodeUnless (handles : Handles) (stop : Token → Bool) (block indentless : Bool) (a : Anchors)
    (tokens : List Token) : Except Malformed (Reading Node) :=
  if tokens.head?.any stop then .ok (empty, a, tokens)
  else node handles block indentless a tokens
termination_by 8 * tokens.length + 4

/-- Reads the value of a key, if there is one. -/
def valueUnless (handles : Handles) (stop : Token → Bool) (block : Bool) (a : Anchors)
    (tokens : List Token) : Except Malformed (Reading Node) :=
  match tokens with
  | .value :: rest => nodeUnless handles stop block block a rest
  | _ => .ok (empty, a, tokens)
termination_by 8 * tokens.length + 0

/-- Reads the entries of a block sequence. -/
def blockItems (handles : Handles) (indentless : Bool) (done : List Node) (a : Anchors)
    (tokens : List Token) : Except Malformed (Reading (List Node)) :=
  match tokens with
  | .blockEntry :: rest => do
    let stop := if indentless then endsIndentlessEntry else endsBlockEntry
    let (item, a, rest') ← nodeUnless handles stop true false a rest
    if rest'.length ≤ rest.length then blockItems handles indentless (item :: done) a rest'
    else .error .expectedEntry
  | .blockEnd :: rest =>
    if indentless then .ok (done.reverse, a, tokens) else .ok (done.reverse, a, rest)
  | _ => if indentless then .ok (done.reverse, a, tokens) else .error .expectedEntry
termination_by 8 * tokens.length + 0

/-- Reads the entries of a block mapping. -/
def blockEntries (handles : Handles) (done : List (Node × Node)) (a : Anchors)
    (tokens : List Token) : Except Malformed (Reading (List (Node × Node))) :=
  match tokens with
  | .key :: rest => do
    let (key, a, rest') ← nodeUnless handles endsBlockNode true true a rest
    if rest'.length ≤ rest.length then
      let (value, a, rest'') ← valueUnless handles endsBlockNode true a rest'
      if rest''.length ≤ rest.length then blockEntries handles ((key, value) :: done) a rest''
      else .error .expectedKey
    else .error .expectedKey
  | .blockEnd :: rest => .ok (done.reverse, a, rest)
  | _ => .error .expectedKey
termination_by 8 * tokens.length + 0
decreasing_by
  all_goals simp only [List.length_cons]
  all_goals omega

/-- Reads the items of a flow sequence; between two of them stands a comma. -/
def listItems (handles : Handles) (done : List Node) (first : Bool) (a : Anchors)
    (tokens : List Token) : Except Malformed (Reading (List Node)) :=
  match tokens with
  | .flowSequenceEnd :: rest => .ok (done.reverse, a, rest)
  | .flowEntry :: rest =>
    if first then listItem handles done a (.flowEntry :: rest)
    else listItem handles done a rest
  | tokens => if first then listItem handles done a tokens else .error .expectedListCommaOrEnd
termination_by 8 * tokens.length + 6

/-- Reads the end of a flow sequence or an item, which may be a mapping of one entry. -/
def listItem (handles : Handles) (done : List Node) (a : Anchors) (tokens : List Token) :
    Except Malformed (Reading (List Node)) :=
  match tokens with
  | .flowSequenceEnd :: rest => .ok (done.reverse, a, rest)
  | .key :: rest => do
    let (key, a, rest') ←
      if rest.head?.any endsListKey then pure (empty, a, rest.drop 1)
      else node handles false false a rest
    if rest'.length ≤ rest.length then
      let (value, a, rest'') ← valueUnless handles endsListValue false a rest'
      if rest''.length ≤ rest.length then
        listItems handles (.mapping [(key, value)] none :: done) false a rest''
      else .error .expectedListCommaOrEnd
    else .error .expectedListCommaOrEnd
  | tokens => do
    let (item, a, rest) ← node handles false false a tokens
    if rest.length < tokens.length then listItems handles (item :: done) false a rest
    else .error .expectedListCommaOrEnd
termination_by 8 * tokens.length + 5

/-- Reads the entries of a flow mapping; between two of them stands a comma. -/
def objectEntries (handles : Handles) (done : List (Node × Node)) (first : Bool) (a : Anchors)
    (tokens : List Token) : Except Malformed (Reading (List (Node × Node))) :=
  match tokens with
  | .flowMappingEnd :: rest => .ok (done.reverse, a, rest)
  | .flowEntry :: rest =>
    if first then objectEntry handles done a (.flowEntry :: rest)
    else objectEntry handles done a rest
  | tokens => if first then objectEntry handles done a tokens else .error .expectedObjectCommaOrEnd
termination_by 8 * tokens.length + 6

/-- Reads the end of a flow mapping or an entry, which may be a key alone. -/
def objectEntry (handles : Handles) (done : List (Node × Node)) (a : Anchors)
    (tokens : List Token) : Except Malformed (Reading (List (Node × Node))) :=
  match tokens with
  | .flowMappingEnd :: rest => .ok (done.reverse, a, rest)
  | .key :: rest => do
    let (key, a, rest') ← nodeUnless handles endsObjectKey false false a rest
    if rest'.length ≤ rest.length then
      let (value, a, rest'') ← valueUnless handles endsObjectValue false a rest'
      if rest''.length ≤ rest.length then
        objectEntries handles ((key, value) :: done) false a rest''
      else .error .expectedObjectCommaOrEnd
    else .error .expectedObjectCommaOrEnd
  | tokens => do
    let (key, a, rest) ← node handles false false a tokens
    if rest.length < tokens.length then objectEntries handles ((key, empty) :: done) false a rest
    else .error .expectedObjectCommaOrEnd
termination_by 8 * tokens.length + 5

end

/-- Reads the directives in front of a document. -/
def directives (version : Bool) (handles : Handles) :
    List Token → Except Malformed (Handles × List Token)
  | .versionDirective major minor :: rest =>
    if version || major ≠ 1 || (minor ≠ 1 && minor ≠ 2) then .error .version
    else directives true handles rest
  | .tagDirective handle start :: rest =>
    if (handles.lookup handle).isSome then .error .directive
    else directives version ((handle, start) :: handles) rest
  | tokens => .ok (handles, tokens)

/-- Whether a document without content ends in front of this token. -/
def endsDocument : Token → Bool
  | .versionDirective .. | .tagDirective .. | .documentStart | .documentEnd => true
  | _ => false

/-- Reads the first document. -/
def document (tokens : List Token) : Except Malformed (Reading Node) :=
  match tokens with
  | [] => .ok (empty, {}, [])
  | .versionDirective .. :: _ | .tagDirective .. :: _ | .documentStart :: _ => do
    let (handles, rest) ← directives false [] tokens
    match rest with
    | .documentStart :: rest =>
      if rest.isEmpty then .ok (empty, {}, [])
      else nodeUnless (handles ++ standardHandles) endsDocument true false {} rest
    | _ => .error .expectedDocumentStart
  | _ => node standardHandles true false {} tokens

/-- The tree of the one document in a text. -/
def read (text : String) : Except Malformed Node := do
  let (tree, _, rest) ← document (← Token.scan text)
  if rest.all (· == .documentEnd) then return tree else .error .severalDocuments

/-- Reads the documents that are left. -/
def documents (tokens : List Token) : Except Malformed (List Node) :=
  if tokens.isEmpty then .ok []
  else do
    let (tree, _, after) ← document tokens
    let rest := after.dropWhile (· == .documentEnd)
    if rest.length < tokens.length then return tree :: (← documents rest)
    else .error .expectedDocumentStart
termination_by tokens.length

/-- The trees of all documents in a text; a text without any holds an empty one. -/
def readAll (text : String) : Except Malformed (List Node) := do
  let trees ← documents (← Token.scan text)
  return if trees.isEmpty then [empty] else trees

end Node

end ClusterReady.Yaml
