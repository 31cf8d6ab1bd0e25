import Mathlib.Data.List.Basic

/-!
# Documents written call by call

JSON values, the calls of a streaming writer that write them, the nesting
rules of the writer, and a reader that gives the value back.
-/

namespace LanShield.Library

inductive JsonScalar where
  | string (text : String)
  | number (value : Int)
  | boolean (value : Bool)
  deriving DecidableEq, Repr

inductive Json where
  | scalar (value : JsonScalar)
  | array (elements : List Json)
  | object (members : List (String × Json))

/-- A call of a streaming writer. -/
inductive JsonCall where
  | beginObject
  | endObject
  | beginArray
  | endArray
  | name (name : String)
  | value (value : JsonScalar)
  deriving DecidableEq, Repr

namespace Json

def isContainer : Json → Bool
  | scalar _ => false
  | array _ => true
  | object _ => true

mutual

/-- The calls that write a value. -/
def calls : Json → List JsonCall
  | scalar value => [.value value]
  | array elements => .beginArray :: (elementsCalls elements ++ [.endArray])
  | object members => .beginObject :: (membersCalls members ++ [.endObject])

def elementsCalls : List Json → List JsonCall
  | [] => []
  | element :: rest => calls element ++ elementsCalls rest

def membersCalls : List (String × Json) → List JsonCall
  | [] => []
  | (name, value) :: rest => .name name :: (calls value ++ membersCalls rest)

end

theorem elementsCalls_eq (elements : List Json) :
    elementsCalls elements = elements.flatMap calls := by
  induction elements with
  | nil => rfl
  | cons element rest inductionHypothesis =>
      rw [elementsCalls, inductionHypothesis, List.flatMap_cons]

end Json

/-- What stands open around the next call. -/
inductive JsonScope where
  | emptyDocument
  | nonemptyDocument
  | emptyArray
  | nonemptyArray
  | emptyObject
  | danglingName
  | nonemptyObject
  deriving DecidableEq, Repr

namespace JsonScope

/-- The scope behind a value; only an array or an object may be the `root`. -/
def beforeValue (root : Bool) : JsonScope → Option JsonScope
  | emptyDocument => if root then some nonemptyDocument else none
  | nonemptyDocument => none
  | emptyArray => some nonemptyArray
  | nonemptyArray => some nonemptyArray
  | emptyObject => none
  | danglingName => some nonemptyObject
  | nonemptyObject => none

/-- The scope behind a name. -/
def beforeName : JsonScope → Option JsonScope
  | emptyObject => some danglingName
  | nonemptyObject => some danglingName
  | _ => none

def isArray : JsonScope → Bool
  | emptyArray => true
  | nonemptyArray => true
  | _ => false

def isObject : JsonScope → Bool
  | emptyObject => true
  | nonemptyObject => true
  | _ => false

end JsonScope

/-- A call of the writer, whose innermost scope comes first; `none` is a
nesting problem. -/
def writeCall : List JsonScope → JsonCall → Option (List JsonScope)
  | [], _ => none
  | scope :: outer, .beginObject =>
      (scope.beforeValue true).map fun after => .emptyObject :: after :: outer
  | scope :: outer, .endObject =>
      if scope.isObject then some outer else none
  | scope :: outer, .beginArray =>
      (scope.beforeValue true).map fun after => .emptyArray :: after :: outer
  | scope :: outer, .endArray =>
      if scope.isArray then some outer else none
  | scope :: outer, .name _ =>
      scope.beforeName.map fun after => after :: outer
  | scope :: outer, .value _ =>
      (scope.beforeValue false).map fun after => after :: outer

/-- The scopes after some calls, if none of them is a nesting problem. -/
def writeCalls (scopes : List JsonScope) (calls : List JsonCall) :
    Option (List JsonScope) :=
  calls.foldlM writeCall scopes

private theorem writeCalls_append (scopes : List JsonScope)
    (calls later : List JsonCall) :
    writeCalls scopes (calls ++ later) =
      (writeCalls scopes calls).bind fun after => writeCalls after later :=
  List.foldlM_append

private theorem writeCalls_cons (scopes : List JsonScope) (call : JsonCall)
    (later : List JsonCall) :
    writeCalls scopes (call :: later) =
      (writeCall scopes call).bind fun after => writeCalls after later :=
  List.foldlM_cons

/-- An array or an object that has not ended, and the name that waits for its
value. -/
inductive JsonFrame where
  | array (elements : List Json)
  | object (members : List (String × Json)) (name : Option String)

/-- The innermost frame comes first. -/
structure JsonReader where
  frames : List JsonFrame
  document : Option Json

namespace JsonReader

/-- A value has been read. -/
def add (value : Json) (reader : JsonReader) : Option JsonReader :=
  match reader.frames, reader.document with
  | [], none => some ⟨[], some value⟩
  | [], some _ => none
  | .array elements :: outer, _ =>
      some { reader with frames := .array (elements ++ [value]) :: outer }
  | .object members (some name) :: outer, _ =>
      some
        { reader with
          frames := .object (members ++ [(name, value)]) none :: outer }
  | .object _ none :: _, _ => none

def readCall (reader : JsonReader) : JsonCall → Option JsonReader
  | .beginObject =>
      some { reader with frames := .object [] none :: reader.frames }
  | .beginArray =>
      some { reader with frames := .array [] :: reader.frames }
  | .endObject =>
      match reader.frames with
      | .object members none :: outer =>
          add (.object members) { reader with frames := outer }
      | _ => none
  | .endArray =>
      match reader.frames with
      | .array elements :: outer =>
          add (.array elements) { reader with frames := outer }
      | _ => none
  | .name name =>
      match reader.frames with
      | .object members none :: outer =>
          some
            { reader with frames := .object members (some name) :: outer }
      | _ => none
  | .value value => add (.scalar value) reader

def readCalls (reader : JsonReader) (calls : List JsonCall) :
    Option JsonReader :=
  calls.foldlM readCall reader

private theorem readCalls_append (reader : JsonReader)
    (calls later : List JsonCall) :
    reader.readCalls (calls ++ later) =
      (reader.readCalls calls).bind fun after => after.readCalls later :=
  List.foldlM_append

private theorem readCalls_cons (reader : JsonReader) (call : JsonCall)
    (later : List JsonCall) :
    reader.readCalls (call :: later) =
      (reader.readCall call).bind fun after => after.readCalls later :=
  List.foldlM_cons

end JsonReader

/-- The document some calls have written. -/
def readDocument (calls : List JsonCall) : Option Json :=
  (JsonReader.readCalls ⟨[], none⟩ calls).bind fun reader =>
    if reader.frames.isEmpty then reader.document else none

namespace Json

mutual

/-- A writer accepts a value wherever it expects one. -/
private theorem writeCalls_calls :
    ∀ (value : Json) {scope after : JsonScope} (outer : List JsonScope),
      scope.beforeValue value.isContainer = some after →
        writeCalls (scope :: outer) value.calls = some (after :: outer)
  | scalar value, scope, after, outer, expected => by
      replace expected : scope.beforeValue false = some after := expected
      rw [calls, writeCalls_cons, writeCall, expected]
      rfl
  | array elements, scope, after, outer, expected => by
      replace expected : scope.beforeValue true = some after := expected
      obtain ⟨ended, isArray, written⟩ :=
        @writeCalls_elementsCalls elements (after :: outer) .emptyArray rfl
      rw [calls, writeCalls_cons, writeCall, expected, Option.map_some,
        Option.bind_some, writeCalls_append, written, Option.bind_some,
        writeCalls_cons, writeCall, if_pos isArray]
      rfl
  | object members, scope, after, outer, expected => by
      replace expected : scope.beforeValue true = some after := expected
      obtain ⟨ended, isObject, written⟩ :=
        @writeCalls_membersCalls members (after :: outer) .emptyObject rfl
      rw [calls, writeCalls_cons, writeCall, expected, Option.map_some,
        Option.bind_some, writeCalls_append, written, Option.bind_some,
        writeCalls_cons, writeCall, if_pos isObject]
      rfl

private theorem writeCalls_elementsCalls :
    ∀ (elements : List Json) (outer : List JsonScope) {scope : JsonScope},
      scope.isArray = true →
        ∃ after : JsonScope, after.isArray = true ∧
          writeCalls (scope :: outer) (elementsCalls elements) =
            some (after :: outer)
  | [], outer, scope, isArray => ⟨scope, isArray, rfl⟩
  | element :: rest, outer, scope, isArray => by
      have expected :
          scope.beforeValue element.isContainer = some .nonemptyArray := by
        cases scope with
        | emptyArray => rfl
        | nonemptyArray => rfl
        | _ => cases isArray
      obtain ⟨after, ended, written⟩ :=
        @writeCalls_elementsCalls rest outer .nonemptyArray rfl
      refine ⟨after, ended, ?_⟩
      rw [elementsCalls, writeCalls_append,
        writeCalls_calls element outer expected, Option.bind_some, written]

private theorem writeCalls_membersCalls :
    ∀ (members : List (String × Json)) (outer : List JsonScope)
      {scope : JsonScope},
      scope.isObject = true →
        ∃ after : JsonScope, after.isObject = true ∧
          writeCalls (scope :: outer) (membersCalls members) =
            some (after :: outer)
  | [], outer, scope, isObject => ⟨scope, isObject, rfl⟩
  | (name, value) :: rest, outer, scope, isObject => by
      have named : scope.beforeName = some .danglingName := by
        cases scope with
        | emptyObject => rfl
        | nonemptyObject => rfl
        | _ => cases isObject
      obtain ⟨after, ended, written⟩ :=
        @writeCalls_membersCalls rest outer .nonemptyObject rfl
      refine ⟨after, ended, ?_⟩
      rw [membersCalls, writeCalls_cons, writeCall, named, Option.map_some,
        Option.bind_some, writeCalls_append,
        @writeCalls_calls value .danglingName .nonemptyObject outer rfl,
        Option.bind_some, written]

end

mutual

/-- A reader has read a value when it has read its calls. -/
private theorem readCalls_calls :
    ∀ (value : Json) {reader after : JsonReader},
      reader.add value = some after →
        reader.readCalls value.calls = some after
  | scalar value, reader, after, added => by
      rw [calls, JsonReader.readCalls_cons, JsonReader.readCall, added]
      rfl
  | array elements, reader, after, added => by
      have read :=
        @readCalls_elementsCalls elements reader.frames reader.document []
      rw [calls, JsonReader.readCalls_cons, JsonReader.readCall,
        Option.bind_some, JsonReader.readCalls_append, read,
        Option.bind_some, JsonReader.readCalls_cons]
      change (reader.add (array elements)).bind _ = some after
      rw [added]
      rfl
  | object members, reader, after, added => by
      have read :=
        @readCalls_membersCalls members reader.frames reader.document []
      rw [calls, JsonReader.readCalls_cons, JsonReader.readCall,
        Option.bind_some, JsonReader.readCalls_append, read,
        Option.bind_some, JsonReader.readCalls_cons]
      change (reader.add (object members)).bind _ = some after
      rw [added]
      rfl

private theorem readCalls_elementsCalls :
    ∀ (elements : List Json) {outer : List JsonFrame}
      {document : Option Json} {earlier : List Json},
      JsonReader.readCalls ⟨.array earlier :: outer, document⟩
          (elementsCalls elements) =
        some ⟨.array (earlier ++ elements) :: outer, document⟩
  | [], outer, document, earlier => by
      rw [List.append_nil]
      rfl
  | element :: rest, outer, document, earlier => by
      have added :
          JsonReader.add element ⟨.array earlier :: outer, document⟩ =
            some ⟨.array (earlier ++ [element]) :: outer, document⟩ :=
        rfl
      rw [elementsCalls, JsonReader.readCalls_append,
        readCalls_calls element added, Option.bind_some,
        readCalls_elementsCalls rest, List.append_assoc]
      rfl

private theorem readCalls_membersCalls :
    ∀ (members : List (String × Json)) {outer : List JsonFrame}
      {document : Option Json} {earlier : List (String × Json)},
      JsonReader.readCalls ⟨.object earlier none :: outer, document⟩
          (membersCalls members) =
        some ⟨.object (earlier ++ members) none :: outer, document⟩
  | [], outer, document, earlier => by
      rw [List.append_nil]
      rfl
  | (name, value) :: rest, outer, document, earlier => by
      have added :
          JsonReader.add value
              ⟨.object earlier (some name) :: outer, document⟩ =
            some
              ⟨.object (earlier ++ [(name, value)]) none :: outer,
                document⟩ :=
        rfl
      rw [membersCalls, JsonReader.readCalls_cons, JsonReader.readCall,
        Option.bind_some, JsonReader.readCalls_append,
        readCalls_calls value added, Option.bind_some,
        readCalls_membersCalls rest, List.append_assoc]
      rfl

end

/-- The calls make a whole document: the writer has no nesting problem, may
be closed, and the document is the value. -/
structure Writes (made : List JsonCall) (value : Json) : Prop where
  complete :
    writeCalls [.emptyDocument] made = some [.nonemptyDocument]
  document : readDocument made = some value

theorem writes_calls {value : Json} (container : value.isContainer = true) :
    Writes value.calls value where
  complete := by
    apply writeCalls_calls value []
    rw [container]
    rfl
  document := by
    have added :
        JsonReader.add value ⟨[], none⟩ = some ⟨[], some value⟩ :=
      rfl
    rw [readDocument, readCalls_calls value added]
    rfl

end Json

end LanShield.Library
