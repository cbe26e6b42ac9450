import MarkupRules.Yaml.Reading
import MarkupRules.Yaml.Tokens

/-!
# Documents

A text is read as one document: directives and a marker may stand before its node, and a marker
behind it. A second document is an error; what is behind the first and no document is not.

* `Opening.of?` -- how the next document starts;
* `readRoot` -- the node of a document;
* `read?` -- the value that a text stands for.
-/

namespace MarkupRules.Yaml

/-! ## 1. The start and the end of a document -/

/-- What comes next outside of the documents. -/
inductive Opening where
  /-- The end of the text. -/
  | finish
  /-- A document, its start `marked` or not, with these handles explained. -/
  | document (marked : Bool) (handles : List String) (rest : List Token)

/-- The handles that directives explain in front of a marked document, and its tokens. There is one
    version at most, and each handle is explained once; `version` and `handles` say what has been
    met. -/
def readDirectives? (version : Bool) (handles : List String) :
    List Token → Option (List String × List Token)
  | .directive true _ :: rest => if version then none else readDirectives? true handles rest
  | .directive false none :: rest => readDirectives? version handles rest
  | .directive false (some handle) :: rest =>
    if handles.contains handle then none else readDirectives? version (handle :: handles) rest
  | .documentStart :: rest => some (handles, rest)
  | _ => none

/-- Whether a token stands outside of the nodes. -/
def Token.isOutside : Token → Bool
  | .directive _ _ | .documentStart | .documentEnd | .finish => true
  | _ => false

/-- How the next document starts. If `bare`, it needs neither a directive nor a marker. -/
def Opening.of? (bare : Bool) : List Token → Option Opening
  | [] => none
  | .documentEnd :: rest => Opening.of? bare rest
  | .finish :: _ => some .finish
  | t :: rest =>
    if bare && !t.isOutside then some (.document false [] (t :: rest))
    else (readDirectives? false [] (t :: rest)).map fun (handles, rest) =>
      .document true handles rest

/-- What follows a document, and whether its end is marked. Without that no directive follows. -/
def closeDocument? : List Token → Option (Bool × List Token)
  | [] => none
  | .documentEnd :: rest => some (true, rest)
  | .directive _ _ :: _ => none
  | ts => some (false, ts)

/-! ## 2. Nodes of documents -/

theorem length_lt_succ (ts : List Token) : ts.length < ts.length + 1 :=
  Nat.lt_succ_self _

theorem length_le_succ (ts : List Token) : ts.length ≤ ts.length + 1 :=
  Nat.le_succ _

/-- The node of a document. One that is marked can be empty. -/
def readRoot (marked : Bool) (handles : List String) (ts : List Token) : ReadingAny Node ts :=
  match ts.head? with
  | none => none
  | some t =>
    if marked && t.isOutside then some ⟨.empty, {}, ts, length_lt_succ ts⟩
    else (readNode true false { handles := handles } ts).map (·.weaken (length_le_succ ts))

/-- Whether a token starts a node. -/
def Token.startsNode : Token → Bool
  | .scalar _ _ | .bracketOpen | .braceOpen | .sequenceStart | .mappingStart => true
  | _ => false

/-- Whether the node of a further document starts. -/
def rootStarts (marked : Bool) (handles : List String) (ts : List Token) : Bool :=
  let (p, start) := readProperties ts
  match start with
  | [] => false
  | t :: _ =>
    marked && t.isOutside && p.isNone ||
      (t.startsNode || !p.isNone) && Names.allows { handles := handles } p

/-- Whether a further document follows. -/
def anotherFollows (bare : Bool) (ts : List Token) : Bool :=
  match Opening.of? bare ts with
  | some (.document marked handles rest) => rootStarts marked handles rest
  | _ => false

/-- The value that a text stands for, if it is one document. Its collections are nested at most
    2000 deep. -/
def read? (text : String) : Option Value := do
  match ← Opening.of? true (tokens (glyphs text)) with
  | .finish => Node.empty.value?
  | .document marked handles ts =>
    let root ← readRoot marked handles ts
    let (bare, rest) ← closeDocument? root.rest
    if !root.names.moderate || 2000 < root.value.depth || anotherFollows bare rest then none
    else root.value.value?

end MarkupRules.Yaml
