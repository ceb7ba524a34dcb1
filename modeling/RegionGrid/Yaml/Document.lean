import RegionGrid.Yaml.Graph
import RegionGrid.Yaml.Token

/-!
# Documents

The graph that the tokens of a document form. An alias stands for the node of its anchor, which may
still be incomplete when the alias is read, and tags are known.

The grammar is read by one function for each form of collection. A collection is read as long as
its items take tokens, so reading ends with the tokens.
-/

namespace RegionGrid.Yaml

/-- The only document of a text: its nodes, and the one that holds the others. -/
structure Document where
  graph : Graph
  root : Nat

namespace Document

/-- The nodes read so far, and those that have anchors. -/
private structure Draft where
  graph : Graph := #[]
  anchors : List (String × Nat) := []

namespace Draft

/-- Adds a node, which gets the number after the others. An anchor can be given only once. -/
private def add (anchor? : Option String) (node : Node) : Draft → Except Fault (Nat × Draft)
  | ⟨graph, anchors⟩ =>
    match anchor? with
    | none => .ok (graph.size, ⟨graph.push node, anchors⟩)
    | some name =>
      if (anchors.lookup name).isSome then .error .malformed
      else .ok (graph.size, ⟨graph.push node, (name, graph.size) :: anchors⟩)

/-- Adds the node that stands where there is nothing. -/
private def addEmpty : Draft → Nat × Draft
  | ⟨graph, anchors⟩ => (graph.size, ⟨graph.push ⟨.null, .scalar ""⟩, anchors⟩)

/-- Sets what a node holds. -/
private def fill (node : Nat) (content : Content) : Draft → Draft
  | ⟨graph, anchors⟩ => ⟨graph.fill node content, anchors⟩

end Draft

/-- What may stand in front of the content of a node. -/
private structure Properties where
  anchor? : Option String := none
  tag? : Option (Option String × String) := none

/-- Whether a node has properties; then it may have no content of its own. -/
private def Properties.areGiven (p : Properties) : Bool := p.anchor?.isSome || p.tag?.isSome

private def properties : List Token → Properties × List Token
  | .anchor name :: .tag handle suffix :: rest => (⟨some name, some (handle, suffix)⟩, rest)
  | .tag handle suffix :: .anchor name :: rest => (⟨some name, some (handle, suffix)⟩, rest)
  | .anchor name :: rest => (⟨some name, none⟩, rest)
  | .tag handle suffix :: rest => (⟨none, some (handle, suffix)⟩, rest)
  | tokens => ({}, tokens)

private theorem length_properties_le (tokens : List Token) :
    (properties tokens).2.length ≤ tokens.length := by
  unfold properties
  split <;> simp only [List.length_cons] <;> omega

/-- Whether a node has no content of its own before one of the given tokens, or at the end. -/
private def startsWith (stops : List Token) : List Token → Bool
  | token :: _ => stops.contains token
  | [] => false

/-- The fault of meeting a token that does not belong here. -/
private def unexpected : List Token → Fault
  | .invalid fault :: _ => fault
  | _ => .malformed

/-- What is known around a node. -/
private structure Setting where
  /-- The URIs that the handles of tags stand for. -/
  handles : List (String × String)
  /-- How many collections may still be opened inside each other. -/
  room : Nat

/-- The setting inside a collection. -/
private def Setting.inner (setting : Setting) : Except Fault Setting :=
  match setting.room with
  | 0 => .error .tooDeep
  | room + 1 => .ok { setting with room }

/-- The tag that a node is given, if it is given one; a lone exclamation mark gives none. -/
private def Setting.tag? (setting : Setting) (p : Properties) : Except Fault (Option Tag) :=
  match p.tag? with
  | none | some (none, "!") => .ok none
  | some (none, uri) => .ok (some (.ofUri uri))
  | some (some handle, suffix) =>
    match setting.handles.lookup handle with
    | some uri => .ok (if uri ++ suffix == "!" then none else some (.ofUri (uri ++ suffix)))
    | none => .error .malformed

/-- Where a node stands. -/
private structure Place where
  /-- Whether the node may be a block collection. -/
  inBlock : Bool
  /-- Whether a block sequence may start without being indented. -/
  afterKey : Bool := false

private def blockStops : List Token := [.blockEntry, .blockEnd]
private def indentlessStops : List Token := [.blockEntry, .key, .value, .blockEnd]
private def pairStops : List Token := [.key, .value, .blockEnd]
private def flowItemStops : List Token := [.flowEntry, .flowSequenceEnd]
private def flowPairStops : List Token := [.flowEntry, .flowMappingEnd]

mutual

/--
Reads a node. Its properties are looked at first, then its first token, and last whether its anchor
was given before.
-/
private def read (setting : Setting) (place : Place) (draft : Draft) (tokens : List Token) :
    Except Fault (Nat × Draft × List Token) :=
  match tokens with
  | .reference name :: rest =>
    match draft.anchors.lookup name with
    | some node => .ok (node, draft, rest)
    | none => .error .malformed
  | tokens => do
    have shorter := length_properties_le tokens
    let p := (properties tokens).1
    if let (.invalid fault :: _, false) :=
      ((properties tokens).2, p.anchor?.isSome && p.tag?.isSome) then throw fault
    let tag? ← setting.tag? p
    let sequence (start : Nat) (items : List Nat) (draft : Draft) (rest : List Token) :=
      (start, draft.fill start (.sequence items), rest)
    let mapping (start : Nat) (entries : List (Nat × Nat)) (draft : Draft) (rest : List Token) :=
      (start, draft.fill start (.mapping entries), rest)
    match h : (properties tokens).2 with
    | .scalar text plain :: rest =>
      let tag := tag?.getD (if plain || p.tag?.isSome then .ofPlain text else .string)
      let (node, draft) ← draft.add p.anchor? ⟨tag, .scalar text⟩
      return (node, draft, rest)
    | .flowSequenceStart :: rest =>
      have : rest.length < tokens.length := by rw [h, List.length_cons] at shorter; omega
      let (node, draft) ← draft.add p.anchor? ⟨tag?.getD .sequence, .sequence []⟩
      let (items, draft, rest) ← readFlowItems (← setting.inner) draft rest true
      return sequence node items draft rest
    | .flowMappingStart :: rest =>
      have : rest.length < tokens.length := by rw [h, List.length_cons] at shorter; omega
      let (node, draft) ← draft.add p.anchor? ⟨tag?.getD .mapping, .mapping []⟩
      let (entries, draft, rest) ← readFlowPairs (← setting.inner) draft rest true
      return mapping node entries draft rest
    | .blockEntry :: rest =>
      if place.afterKey then
        have : rest.length < tokens.length := by rw [h, List.length_cons] at shorter; omega
        let (node, draft) ← draft.add p.anchor? ⟨tag?.getD .sequence, .sequence []⟩
        let (items, draft, rest) ←
          readIndentlessItems (← setting.inner) draft (.blockEntry :: rest)
        return sequence node items draft rest
      else if p.areGiven then
        let (node, draft) ← draft.add p.anchor? ⟨tag?.getD .null, .scalar ""⟩
        return (node, draft, .blockEntry :: rest)
      else throw .malformed
    | .blockSequenceStart :: rest =>
      if place.inBlock then
        have : rest.length < tokens.length := by rw [h, List.length_cons] at shorter; omega
        let (node, draft) ← draft.add p.anchor? ⟨tag?.getD .sequence, .sequence []⟩
        let (items, draft, rest) ← readBlockItems (← setting.inner) draft rest
        return sequence node items draft rest
      else throw .malformed
    | .blockMappingStart :: rest =>
      if place.inBlock then
        have : rest.length < tokens.length := by rw [h, List.length_cons] at shorter; omega
        let (node, draft) ← draft.add p.anchor? ⟨tag?.getD .mapping, .mapping []⟩
        let (entries, draft, rest) ← readBlockPairs (← setting.inner) draft rest
        return mapping node entries draft rest
      else throw .malformed
    | .invalid fault :: _ => throw fault
    | rest =>
      if p.areGiven then
        let (node, draft) ← draft.add p.anchor? ⟨tag?.getD .null, .scalar ""⟩
        return (node, draft, rest)
      else throw .malformed
termination_by 4 * tokens.length + 1

/-- Reads a node, which is empty before one of the given tokens. -/
private def readUnless (stops : List Token) (setting : Setting) (place : Place) (draft : Draft)
    (tokens : List Token) : Except Fault (Nat × Draft × List Token) :=
  if startsWith stops tokens then
    let (node, draft) := draft.addEmpty
    .ok (node, draft, tokens)
  else read setting place draft tokens
termination_by 4 * tokens.length + 2

/-- Reads the value of a pair, which is empty if there is no colon. -/
private def readValue (stops : List Token) (setting : Setting) (place : Place) (draft : Draft)
    (tokens : List Token) : Except Fault (Nat × Draft × List Token) :=
  match tokens with
  | .value :: rest => readUnless stops setting place draft rest
  | _ =>
    let (node, draft) := draft.addEmpty
    .ok (node, draft, tokens)
termination_by 4 * tokens.length + 2

/-- Reads the items of a block sequence. -/
private def readBlockItems (setting : Setting) (draft : Draft) (tokens : List Token) :
    Except Fault (List Nat × Draft × List Token) :=
  match tokens with
  | .blockEnd :: rest => .ok ([], draft, rest)
  | .blockEntry :: rest => do
    let (item, draft, rest') ← readUnless blockStops setting ⟨true, false⟩ draft rest
    if _h : rest'.length ≤ rest.length then
      let (items, draft, rest) ← readBlockItems setting draft rest'
      return (item :: items, draft, rest)
    else throw .malformed
  | _ => .error (unexpected tokens)
termination_by 4 * tokens.length

/-- Reads the items of a block sequence that is not indented; it ends without a token of its own. -/
private def readIndentlessItems (setting : Setting) (draft : Draft) (tokens : List Token) :
    Except Fault (List Nat × Draft × List Token) :=
  match tokens with
  | .blockEntry :: rest => do
    let (item, draft, rest') ← readUnless indentlessStops setting ⟨true, false⟩ draft rest
    if _h : rest'.length ≤ rest.length then
      let (items, draft, rest) ← readIndentlessItems setting draft rest'
      return (item :: items, draft, rest)
    else throw .malformed
  | _ => .ok ([], draft, tokens)
termination_by 4 * tokens.length

/-- Reads the entries of a block mapping. -/
private def readBlockPairs (setting : Setting) (draft : Draft) (tokens : List Token) :
    Except Fault (List (Nat × Nat) × Draft × List Token) :=
  match tokens with
  | .blockEnd :: rest => .ok ([], draft, rest)
  | .key :: rest => do
    let (key, draft, rest₁) ← readUnless pairStops setting ⟨true, true⟩ draft rest
    if _h₁ : rest₁.length ≤ rest.length then
      let (value, draft, rest₂) ← readValue pairStops setting ⟨true, true⟩ draft rest₁
      if _h₂ : rest₂.length ≤ rest.length then
        let (entries, draft, rest) ← readBlockPairs setting draft rest₂
        return ((key, value) :: entries, draft, rest)
      else throw .malformed
    else throw .malformed
  | _ => .error (unexpected tokens)
termination_by 4 * tokens.length
decreasing_by all_goals (try rw [List.length_cons]); omega

/-- Reads the items of a flow sequence; a pair among them is a mapping with one entry. -/
private def readFlowItems (setting : Setting) (draft : Draft) (tokens : List Token)
    (first : Bool) : Except Fault (List Nat × Draft × List Token) :=
  match tokens with
  | .flowSequenceEnd :: rest => .ok ([], draft, rest)
  | .flowEntry :: rest =>
    if first then .error .malformed else readFlowItems setting draft rest true
  | .key :: rest =>
    if !first then .error .malformed
    else do
      let (item, draft) ← draft.add none ⟨.mapping, .mapping []⟩
      let inner ← setting.inner
      let (key, draft, rest₁) ← readUnless (.value :: flowItemStops) inner ⟨false, false⟩ draft rest
      if _h₁ : rest₁.length ≤ rest.length then
        let (value, draft, rest₂) ← readValue flowItemStops inner ⟨false, false⟩ draft rest₁
        if _h₂ : rest₂.length ≤ rest.length then
          let draft := draft.fill item (.mapping [(key, value)])
          let (items, draft, rest) ← readFlowItems setting draft rest₂ false
          return (item :: items, draft, rest)
        else throw .malformed
      else throw .malformed
  | tokens =>
    if !first then .error (unexpected tokens)
    else do
      let (item, draft, rest) ← read setting ⟨false, false⟩ draft tokens
      if _h : rest.length < tokens.length then
        let (items, draft, rest) ← readFlowItems setting draft rest false
        return (item :: items, draft, rest)
      else throw .malformed
termination_by 4 * tokens.length + 3
decreasing_by all_goals (try rw [List.length_cons]); omega

/-- Reads the entries of a flow mapping. -/
private def readFlowPairs (setting : Setting) (draft : Draft) (tokens : List Token)
    (first : Bool) : Except Fault (List (Nat × Nat) × Draft × List Token) :=
  match tokens with
  | .flowMappingEnd :: rest => .ok ([], draft, rest)
  | .flowEntry :: rest =>
    if first then .error .malformed else readFlowPairs setting draft rest true
  | .key :: rest =>
    if !first then .error .malformed
    else do
      let (key, draft, rest₁) ←
        readUnless (.value :: flowPairStops) setting ⟨false, false⟩ draft rest
      if _h₁ : rest₁.length ≤ rest.length then
        let (value, draft, rest₂) ← readValue flowPairStops setting ⟨false, false⟩ draft rest₁
        if _h₂ : rest₂.length ≤ rest.length then
          let (entries, draft, rest) ← readFlowPairs setting draft rest₂ false
          return ((key, value) :: entries, draft, rest)
        else throw .malformed
      else throw .malformed
  | tokens =>
    if !first then .error (unexpected tokens)
    else do
      let (key, draft, rest) ← read setting ⟨false, false⟩ draft tokens
      if _h : rest.length < tokens.length then
        let (value, draft) := draft.addEmpty
        let (entries, draft, rest) ← readFlowPairs setting draft rest false
        return ((key, value) :: entries, draft, rest)
      else throw .malformed
termination_by 4 * tokens.length + 3
decreasing_by all_goals (try rw [List.length_cons]); omega

end

/-- What the directives of a document have said so far. -/
private structure Directives where
  versionGiven : Bool := false
  handles : List (String × String) := []

/-- Reads the directives in front of a document. -/
private def readDirectives (seen : Directives) :
    List Token → Except Fault (Directives × List Token)
  | .directive (.version major) :: rest =>
    if seen.versionGiven || major ≠ 1 then .error .malformed
    else readDirectives { seen with versionGiven := true } rest
  | .directive (.tag handle uri) :: rest =>
    if (seen.handles.lookup handle).isSome then .error .malformed
    else readDirectives { seen with handles := (handle, uri) :: seen.handles } rest
  | .directive .reserved :: rest => readDirectives seen rest
  | tokens => .ok (seen, tokens)

/-- The handles that every document knows unless it says otherwise. -/
private def standardHandles : List (String × String) := [("!", "!"), ("!!", Tag.standardUri)]

/-- How many collections may be nested in a document. -/
def mostNested : Nat := 485

/-- The tokens of a text hold nothing after the end of its first document. -/
private def expectEnd (tokens : List Token) : Except Fault Unit := do
  match tokens.dropWhile (· == .documentEnd) with
  | [] => return
  | rest =>
    let (_, rest) ← readDirectives {} rest
    throw (unexpected rest)

/-- Whether a document has no content before the next token. -/
private def isEmptyBefore : List Token → Bool
  | [] | .directive _ :: _ | .documentStart :: _ | .documentEnd :: _ => true
  | _ => false

/-- Reads a document whose directives have been read. -/
private def readContent (handles : List (String × String)) (tokens : List Token) :
    Except Fault Document := do
  let (root, draft, rest) ← read ⟨handles, mostNested⟩ ⟨true, false⟩ {} tokens
  expectEnd rest
  return ⟨draft.graph, root⟩

/-- The only document that tokens form; none if they form no document. -/
def ofTokens (tokens : List Token) : Except Fault (Option Document) :=
  match tokens with
  | [] => .ok none
  | .directive _ :: _ | .documentStart :: _ => do
    let (directives, rest) ← readDirectives {} tokens
    match rest with
    | .documentStart :: rest =>
      if isEmptyBefore rest then
        expectEnd rest
        return some ⟨#[⟨.null, .scalar ""⟩], 0⟩
      else readContent (directives.handles ++ standardHandles) rest
    | _ => throw (unexpected rest)
  | _ => readContent standardHandles tokens

end Document

end RegionGrid.Yaml
