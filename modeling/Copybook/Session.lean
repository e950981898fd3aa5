import Copybook.Layout.Template
import Copybook.Record.Access

/-!
Several records at work, some of them over the same bytes.

Each record remembers the value of every field it has read, with the bytes that it was decoded from, so that
a field which has not changed need not be decoded again; and it keeps every accessor that it has made. The bytes
can change in other ways than through the record: a remembered value counts only as long as the bytes are the
same.
-/

namespace Copybook

-- A value that has been read, and the bytes it was decoded from.
structure Cell where
  raw : Bytes
  value : Value

-- What a record remembers: the values read and the accessors made, by the path of the access.
structure Memory where
  cells : List (List Key × Cell) := []
  accessors : List (List Key × Place) := []

namespace Memory

def cell? (m : Memory) (path : List Key) : Option Cell :=
  m.cells.lookup path

def accessor? (m : Memory) (path : List Key) : Option Place :=
  m.accessors.lookup path

def forget (m : Memory) (path : List Key) : Memory :=
  { m with cells := m.cells.filter fun entry => entry.1 != path }

def store (m : Memory) (path : List Key) (c : Cell) : Memory :=
  { m with cells := (path, c) :: (m.forget path).cells }

def keep (m : Memory) (p : Place) : Memory :=
  { m with accessors := (p.path, p) :: m.accessors }

end Memory

-- An access to a record: it may fail, and what it has remembered up to then stays.
abbrev Access := ExceptT AccessFault (StateM Memory)

-- How the parts of a record are reached over the bytes of a buffer.
abbrev Reader := Codec → Bytes → Reach Access

namespace Reader

-- Decodes a field unless the value of these very bytes is remembered.
def remembered (codec : Codec) (buffer : Bytes) (s : Spot) : Access Value := do
  let raw ← MonadExcept.ofExcept (s.bytes buffer)
  let known := ((← get).cell? s.path).filter fun cell => cell.raw == raw
  match known with
  | some cell => return cell.value
  | none =>
    let v ← MonadExcept.ofExcept (s.decode codec raw)
    modify (·.store s.path ⟨raw, v⟩)
    return v

-- The accessor that has been made for a place, or a new one.
def kept (p : Place) : Access Place := do
  match (← get).accessor? p.path with
  | some q => return q
  | none =>
    modify (·.keep p)
    return p

def remembering : Reader := fun codec buffer => ⟨remembered codec buffer, kept⟩

-- Decodes a field from the bytes it has now, and makes every accessor anew.
def direct : Reader := fun codec buffer =>
  ⟨fun s => MonadExcept.ofExcept (s.read codec buffer), pure⟩

end Reader

-- A record at work: its layout, the number of its buffer, and what it remembers.
structure Handle where
  layout : Layout
  buffer : Nat
  memory : Memory

-- The layouts, all buffers there have been, those with names, and the records with theirs.
structure Session where
  layouts : List Layout
  buffers : List Bytes
  named : List (Text × Nat)
  records : List (Text × Handle)

-- The bytes of a new record.
inductive Origin
  | fresh
  | copy (data : Bytes)
  | shared (name : Text)

-- What can be asked of a field or an accessor.
inductive Query
  | get
  | contains (v : Value)
  | length
  | shown
  | elements
  | plain
  | keys
  | values
  | items
  | bytes
  | text

-- What can be done to a record.
inductive Change
  | set (path : List Value) (v : Value)
  | update (path : List Value) (values : List (Text × Value))
  | poke (start : Nat) (data : Bytes)
  | resize (length : Nat)

inductive Step
  | makeBuffer (name : Text) (data : Bytes)
  | makeRecord (name : Text) (layout : Nat) (origin : Origin)
  | change (record : Text) (change : Change)
  | ask (record : Text) (path : List Value) (query : Query)

inductive Reply
  | done
  | found (f : Found)
  | founds (fs : List Found)
  | fields (fields : List (Text × Found))
  | names (names : List Text)
  | flag (b : Bool)
  | count (n : Nat)
  | value (v : Value)
  | text (s : Text)
  | bytes (b : Bytes)

namespace Session

def start (layouts : List Layout) : Session :=
  ⟨layouts, [], [], []⟩

def bytes (s : Session) (number : Nat) : Bytes :=
  s.buffers.getD number []

-- The bytes of a record.
def bufferOf? (s : Session) (record : Text) : Option Bytes :=
  (s.records.lookup record).map fun handle => s.bytes handle.buffer

-- Gives a name a meaning, or another one.
def bind {α : Type} (name : Text) (a : α) (known : List (Text × α)) : List (Text × α) :=
  (name, a) :: known.filter fun entry => entry.1 != name

def addBuffer (s : Session) (b : Bytes) : Session × Nat :=
  ({ s with buffers := s.buffers ++ [b] }, s.buffers.length)

def setBuffer (s : Session) (number : Nat) (b : Bytes) : Session :=
  { s with buffers := s.buffers.set number b }

def addRecord (s : Session) (name : Text) (layout : Layout) (number : Nat) : Session :=
  { s with records := bind name ⟨layout, number, {}⟩ s.records }

-- A record over a buffer of its own, or over one that it shares.
def makeRecord (s : Session) (name : Text) (layout : Layout) : Origin → Except AccessFault Unit × Session
  | .fresh =>
    let (s, number) := s.addBuffer layout.template
    (.ok (), s.addRecord name layout number)
  | .copy data =>
    match layout.check data with
    | .ok () =>
      let (s, number) := s.addBuffer data
      (.ok (), s.addRecord name layout number)
    | .error e => (.error e, s)
  | .shared buffer =>
    match s.named.lookup buffer with
    | none => (.error .notAccessor, s)
    | some number =>
      match layout.check (s.bytes number) with
      | .ok () => (.ok (), s.addRecord name layout number)
      | .error e => (.error e, s)

-- The answer of an accessor.
def query (reach : Reach Access) (codec : Codec) (buffer : Bytes) (p : Place) : Query → Access Reply
  | .get => return .found (.accessor p)
  | .contains v => .flag <$> p.contains reach v
  | .length => return .count p.count
  | .shown => do
    let v ← p.toValue reach
    if !v.isShowable then throw (.field (.digits .written))
    let kind := if p.isArray then "Occurrences(".toList else "Record(".toList
    return .text (kind ++ v.quoted ++ [')'])
  | .elements =>
    if p.isArray then .founds <$> p.occurrences reach
    else do return .names ((← p.items reach).map (·.1))
  | .plain => .value <$> p.toValue reach
  | .keys => fieldsOnly p do return .names ((← p.items reach).map (·.1))
  | .values => fieldsOnly p do return .founds ((← p.items reach).map (·.2))
  | .items => fieldsOnly p do return .fields (← p.items reach)
  | .bytes => fieldsOnly p do return .bytes (p.bytes buffer)
  | .text => fieldsOnly p do
    let s ← MonadExcept.ofExcept ((codec.decode (p.bytes buffer)).mapError AccessFault.field)
    return .text s
where
  -- Occurrences do not offer what only groups have.
  fieldsOnly (p : Place) (answer : Access Reply) : Access Reply :=
    if p.isArray then throw .notOffered else answer

def ask (reach : Reach Access) (codec : Codec) (buffer : Bytes) (root : Place) (path : List Value)
    (q : Query) : Access Reply := do
  match q, ← root.navigate reach path with
  | .get, found => return .found found
  | q, .accessor p => query reach codec buffer p q
  | _, .value _ => throw .notAccessor

-- Sets a field through an accessor: the new bytes. The value that was remembered for it goes.
def assign (layout : Layout) (buffer : Bytes) (p : Place) (key v : Value) : Access Bytes := do
  let s ← MonadExcept.ofExcept (p.assignee key v)
  let b ← MonadExcept.ofExcept (s.write layout.codec buffer v)
  modify (·.forget s.path)
  return b

-- Sets fields one after another. What has been set before one fails stays set.
def assignAll (layout : Layout) (p : Place) (buffer : Bytes) (values : List (Text × Value)) :
    StateM Memory (Except AccessFault Unit × Bytes) :=
  match values with
  | [] => return (.ok (), buffer)
  | (name, v) :: rest => do
    match ← (assign layout buffer p (.text name) v).run with
    | .ok buffer => assignAll layout p buffer rest
    | .error e => return (.error e, buffer)

-- The bytes after a change, and whether all of it was done.
def change (reach : Reach Access) (layout : Layout) (buffer : Bytes) :
    Change → StateM Memory (Except AccessFault Unit × Bytes)
  | .set path v => do
    match path.getLast? with
    | none => return (.error .notAccessor, buffer)
    | some key =>
      let root := Place.root layout
      match ← (do assign layout buffer (← root.accessor reach path.dropLast) key v : Access Bytes).run with
      | .ok b => return (.ok (), b)
      | .error e => return (.error e, buffer)
  | .update path values => do
    match ← ((Place.root layout).accessor reach path : Access Place).run with
    | .error e => return (.error e, buffer)
    | .ok p =>
      if p.isArray then return (.error .notOffered, buffer)
      else assignAll layout p buffer values
  | .poke start data => return (.ok (), Bytes.splice buffer start (start + data.length) data)
  | .resize length => return (.ok (), Bytes.fit length buffer)

-- One step, fields being read as `read` says.
def stepWith (read : Reader) (s : Session) : Step → Except AccessFault Reply × Session
  | .makeBuffer name data =>
    let (s, number) := s.addBuffer data
    (.ok .done, { s with named := bind name number s.named })
  | .makeRecord name layout origin =>
    match s.layouts[layout]? with
    | none => (.error .notAccessor, s)
    | some layout =>
      let (result, s) := s.makeRecord name layout origin
      (result.map fun () => .done, s)
  | .change record c =>
    match s.records.lookup record with
    | none => (.error .notAccessor, s)
    | some handle =>
      let buffer := s.bytes handle.buffer
      let ((result, buffer), memory) :=
        (change (read handle.layout.codec buffer) handle.layout buffer c).run handle.memory
      let s := s.setBuffer handle.buffer buffer
      (result.map fun () => .done,
        { s with records := bind record { handle with memory := memory } s.records })
  | .ask record path q =>
    match s.records.lookup record with
    | none => (.error .notAccessor, s)
    | some handle =>
      let buffer := s.bytes handle.buffer
      let codec := handle.layout.codec
      let (result, memory) :=
        (ask (read codec buffer) codec buffer (Place.root handle.layout) path q).run.run handle.memory
      (result, { s with records := bind record { handle with memory := memory } s.records })

-- The replies to steps taken one after another, each with the session after it.
def runWith (read : Reader) (s : Session) : List Step → List (Except AccessFault Reply × Session)
  | [] => []
  | st :: steps =>
    let (reply, s) := s.stepWith read st
    (reply, s) :: runWith read s steps

-- Steps of records that remember.
def run : Session → List Step → List (Except AccessFault Reply × Session) :=
  runWith .remembering

end Session

end Copybook
