import CloudProvider.Json.Token

/-!
# JSON texts with their faults

A `Document` is a JSON text taken apart, in the order in which it is written, faults included: where
the text goes wrong stands `Document.broken`, and nothing after it is kept.

* `Document.read`: the document of any text.
* `Document.toJson?`: the value of a document without faults, nested at most so deep.
* `Json.read?`: the value of a JSON text.
-/

namespace CloudProvider

/-- A JSON text taken apart. -/
inductive Document where
  | null
  | bool (b : Bool)
  | number (n : Numeral)
  /-- A quoted text, or nothing if it holds an escaped surrogate outside a pair. -/
  | text (s : Option String)
  | array (items : List Document)
  | object (members : List (Option String × Document))
  /-- The place from which on the text is no JSON. -/
  | broken
  deriving Repr, Inhabited

/-- A document, and whether something follows it in the text. -/
structure Reading where
  value : Document
  trailing : Bool

namespace Document

/-- A container that is not closed yet, with its contents in reverse. -/
inductive Frame where
  | array (items : List Document)
  | object (members : List (Option String × Document)) (name : Option String)

/-- A container closed after one more item. -/
def Frame.close (d : Document) : Frame → Document
  | .array items => .array (d :: items).reverse
  | .object members name => .object ((name, d) :: members).reverse

/-- A container in which a fault follows one more item. -/
def Frame.breakAfter (d : Document) : Frame → Document
  | .array items => .array (.broken :: d :: items).reverse
  | .object members name => .object ((none, .broken) :: (name, d) :: members).reverse

/-- What the text may go on with. -/
inductive Expecting where
  | value
  /-- The first item of an array, or its end. -/
  | item
  /-- The first member of an object, or its end. -/
  | member
  /-- The name of a member, after the ones that were read. -/
  | name (members : List (Option String × Document))
  | colon (members : List (Option String × Document)) (name : Option String)
  /-- The end, or a comma, after a value. -/
  | more (d : Document)

/-- The whole document when the innermost container is `d`. -/
def enclose (d : Document) (frames : List Frame) : Document :=
  frames.foldl (fun d f => f.close d) d

/-- The document of a text that goes wrong at this point. -/
def abandon (frames : List Frame) : Expecting → Document
  | .value | .item => enclose .broken frames
  | .member => enclose (.object [(none, .broken)]) frames
  | .name members => enclose (.object ((none, .broken) :: members).reverse) frames
  | .colon members name => enclose (.object ((name, .broken) :: members).reverse) frames
  | .more d =>
    match frames with
    | [] => d
    | f :: outer => enclose (f.breakAfter d) outer

/-- A value without parts, if a token is one. -/
def scalar? : Token → Option Document
  | .null => some .null
  | .bool b => some (.bool b)
  | .number n => some (.number n)
  | .text s => some (.text s)
  | _ => none

/-- The state after a token where a value may stand. -/
def takeValue (frames : List Frame) (t : Token) : Option (List Frame × Expecting) :=
  match t with
  | .openBracket => some (.array [] :: frames, .item)
  | .openBrace => some (frames, .member)
  | t => (scalar? t).map fun d => (frames, .more d)

/-- The state after a token, if the text may go on with it. -/
def take (frames : List Frame) (expecting : Expecting) (t : Token) :
    Option (List Frame × Expecting) :=
  match expecting, t with
  | .value, t => takeValue frames t
  | .item, .closeBracket =>
    match frames with
    | .array _ :: outer => some (outer, .more (.array []))
    | _ => none
  | .item, t => takeValue frames t
  | .member, .closeBrace => some (frames, .more (.object []))
  | .member, .text s => some (frames, .colon [] s)
  | .name members, .text s => some (frames, .colon members s)
  | .colon members name, .colon => some (.object members name :: frames, .value)
  | .more d, .comma =>
    match frames with
    | .array items :: outer => some (.array (d :: items) :: outer, .value)
    | .object members name :: outer => some (outer, .name ((name, d) :: members))
    | [] => none
  | .more d, .closeBracket =>
    match frames with
    | .array items :: outer => some (outer, .more (.array (d :: items).reverse))
    | _ => none
  | .more d, .closeBrace =>
    match frames with
    | .object members name :: outer => some (outer, .more (.object ((name, d) :: members).reverse))
    | _ => none
  | _, _ => none

/-- The reading of the rest of a text. -/
def build (frames : List Frame) (expecting : Expecting) : List Token → Reading
  | [] => ⟨abandon frames expecting, false⟩
  | t :: ts =>
    match take frames expecting t with
    | some (frames, expecting) => build frames expecting ts
    | none => ⟨abandon frames expecting, true⟩

/-- **The document of a text**, and whether something follows it. -/
def read (s : String) : Reading :=
  build [] .value (Token.ofChars s.toList)

/-! ## Faults -/

mutual

/-- Whether a document has no fault, whatever its numbers, escapes and depth. -/
def isWhole : Document → Bool
  | .array items => itemsWhole items
  | .object members => membersWhole members
  | .broken => false
  | _ => true

def itemsWhole : List Document → Bool
  | [] => true
  | d :: ds => d.isWhole && itemsWhole ds

def membersWhole : List (Option String × Document) → Bool
  | [] => true
  | (_, d) :: ms => d.isWhole && membersWhole ms

end

/-! ## Values -/

mutual

/-- The value of a document without faults that nests at most `depth` containers: its numbers are
not too large, its escapes form characters, and of a repeated name the last member counts. -/
def toJson? (depth : Nat) : Document → Option Json
  | .null => some .null
  | .bool b => some (.bool b)
  | .number n => n.value?
  | .text s => s.map .str
  | .array items =>
    match depth with
    | 0 => none
    | depth + 1 => (itemsToJson? depth items).map .arr
  | .object members =>
    match depth with
    | 0 => none
    | depth + 1 => (membersToJson? depth members).map Json.object
  | .broken => none

def itemsToJson? (depth : Nat) : List Document → Option (List Json)
  | [] => some []
  | d :: ds => (d.toJson? depth).bind fun j => (itemsToJson? depth ds).map (j :: ·)

def membersToJson? (depth : Nat) :
    List (Option String × Document) → Option (List (String × Json))
  | [] => some []
  | (name, d) :: ms =>
    name.bind fun k => (d.toJson? depth).bind fun j =>
      (membersToJson? depth ms).map ((k, j) :: ·)

end

end Document

/-- How many containers a JSON text may nest. -/
def Json.maxDepth : Nat := 127

/-- **The value of a JSON text**, or nothing if the text is not one. -/
def Json.read? (s : String) : Option Json :=
  let reading := Document.read s
  if reading.trailing then none else reading.value.toJson? maxDepth

end CloudProvider
