import JsonBinding.Json.Skip
import JsonBinding.OrderedMap
/-!
Lists, maps, records and variants in JSON text. A record may be written as an object or as the array
of its fields in order. Fields of other names are skipped in an object; fields that are not required
may be left out. The first thing that is wrong, from left to right, is what a reader reports.
-/
namespace JsonBinding.Json

variable {α : Type}

/-- Whether an array goes on, and the text where its next item starts. -/
def nextItem? (isFirst : Bool) (text : List Char) : Except Fault (Option (List Char)) :=
  match skipSpace text with
  | [] => .error .earlyEnd
  | ']' :: _ => .ok none
  | c :: rest =>
    if isFirst then .ok (some (c :: rest))
    else if c = ',' then
      match skipSpace rest with
      | [] => .error .earlyEnd
      | ']' :: _ => .error .malformed
      | next => .ok (some next)
    else .error .malformed

def readItems (item : List Char → Except Fault (α × List Char)) :
    (steps : Nat) → (isFirst : Bool) → List Char → Except Fault (List α × List Char)
  | 0, _, _ => .error .earlyEnd
  | steps + 1, isFirst, text => do
    match ← nextItem? isFirst text with
    | none => return ([], text)
    | some next =>
      let (first, rest) ← item next
      let (others, rest) ← readItems item steps false rest
      return (first :: others, rest)

def readArray (item : List Char → Except Fault (α × List Char)) :
    List Char → Except Fault (List α × List Char) :=
  readToken "a sequence" fun c rest =>
    if c = '[' then
      some do
        let (items, rest) ← readItems item (rest.length + 1) true rest
        return (items, ← expectMark ']' rest)
    else none

/-- Reads the next key of an object, if the object goes on. -/
def nextKey? (isFirst : Bool) (text : List Char) : Except Fault (Option (String × List Char)) :=
  match skipSpace text with
  | [] => .error .earlyEnd
  | '}' :: _ => .ok none
  | c :: rest =>
    if isFirst then
      if c = '"' then (readQuoted rest).map some else .error .malformed
    else if c = ',' then
      match skipSpace rest with
      | [] => .error .earlyEnd
      | '"' :: rest => (readQuoted rest).map some
      | _ => .error .malformed
    else .error .malformed

def readEntries (value : List Char → Except Fault (α × List Char)) :
    (steps : Nat) → (isFirst : Bool) → List Char → Except Fault (List (String × α) × List Char)
  | 0, _, _ => .error .earlyEnd
  | steps + 1, isFirst, text => do
    match ← nextKey? isFirst text with
    | none => return ([], text)
    | some (key, rest) =>
      let (first, rest) ← value (← expectMark ':' rest)
      let (others, rest) ← readEntries value steps false rest
      return ((key, first) :: others, rest)

/-- Reads an object as a map; a repeated key keeps its first place and its last value. -/
def readMap (value : List Char → Except Fault (α × List Char)) :
    List Char → Except Fault (OrderedMap String α × List Char) :=
  readToken "a map" fun c rest =>
    if c = '{' then
      some do
        let (entries, rest) ← readEntries value (rest.length + 1) true rest
        return (OrderedMap.ofList entries, ← expectMark '}' rest)
    else none

structure FieldForm (α : Type) where
  name : String
  isRequired : Bool
  /-- Reads the value of the field into a record. -/
  read : α → List Char → Except Fault (α × List Char)

structure RecordForm (α : Type) where
  /-- What messages call the record. -/
  name : String
  /-- The record before any field is read. -/
  blank : α
  fields : List (FieldForm α)

namespace RecordForm

/-- What messages call the record where its fields are counted. -/
def counted (form : RecordForm α) : String :=
  form.name ++ " with " ++ toString form.fields.length ++
    (if form.fields.length = 1 then " element" else " elements")

def missing? (form : RecordForm α) (seen : List String) : Option String :=
  (form.fields.find? fun field => field.isRequired && !seen.contains field.name).map (·.name)

/-- Reads fields by name up to the brace, in at most `steps` steps; `seen` are those read so far. -/
def readNamed (form : RecordForm α) :
    (steps : Nat) → (isFirst : Bool) → (seen : List String) → α → List Char →
      Except Fault (α × List Char)
  | 0, _, _, _, _ => .error .earlyEnd
  | steps + 1, isFirst, seen, record, text => do
    match ← nextKey? isFirst text with
    | none =>
      match form.missing? seen with
      | some name => throw (.form (.missingField name))
      | none => return (record, text)
    | some (key, rest) =>
      match form.fields.find? (·.name = key) with
      | some field =>
        if seen.contains key then throw (.form (.duplicateField key))
        else
          let (record, rest) ← field.read record (← expectMark ':' rest)
          form.readNamed steps false (key :: seen) record rest
      | none =>
        let rest ← skipValue (← expectMark ':' rest)
        form.readNamed steps false seen record rest

/-- Reads fields by position up to the bracket; `index` counts those read so far. -/
def readPositional (form : RecordForm α) :
    List (FieldForm α) → (index : Nat) → α → List Char → Except Fault (α × List Char)
  | [], _, record, text => .ok (record, text)
  | field :: fields, index, record, text => do
    match ← nextItem? (index == 0) text with
    | some next =>
      let (record, rest) ← field.read record next
      form.readPositional fields (index + 1) record rest
    | none =>
      if field.isRequired then throw (.form (.invalidLength index form.counted))
      else form.readPositional fields (index + 1) record text

def read (form : RecordForm α) : List Char → Except Fault (α × List Char) :=
  readToken form.name fun c rest =>
    if c = '{' then
      some do
        let (record, rest) ← form.readNamed (rest.length + 1) true [] form.blank rest
        return (record, ← expectMark '}' rest)
    else if c = '[' then
      some do
        let (record, rest) ← form.readPositional form.fields 0 form.blank rest
        return (record, ← expectMark ']' rest)
    else none

end RecordForm

/-- One of several forms of a value, told by its name. -/
structure VariantForm (α : Type) where
  name : String
  /-- What the name stands for when it is written alone. -/
  alone : Except FormFault α
  /-- Reads the content of the variant. -/
  read : List Char → Except Fault (α × List Char)

namespace VariantForm

/-- A variant without content; where content must stand, it is null. -/
def unit (name : String) (value : α) : VariantForm α where
  name
  alone := .ok value
  read text := (readNull text).map fun (_, rest) => (value, rest)

def withContent (name expected : String) (read : List Char → Except Fault (α × List Char)) :
    VariantForm α where
  name
  alone := .error (.invalidType .bareVariant expected)
  read

def named (forms : List (VariantForm α)) (name : String) : Except Fault (VariantForm α) :=
  match forms.find? (·.name = name) with
  | some form => .ok form
  | none => .error (.form (.unknownVariant name (forms.map (·.name))))

end VariantForm

/-- Reads a variant: its name alone, or an object whose one key is its name. -/
def readVariant (forms : List (VariantForm α)) (text : List Char) :
    Except Fault (α × List Char) :=
  match skipSpace text with
  | [] => .error .earlyEnd
  | '"' :: rest => do
    let (name, rest) ← readQuoted rest
    let form ← VariantForm.named forms name
    match form.alone with
    | .ok value => return (value, rest)
    | .error fault => throw (.form fault)
  | '{' :: rest => do
    let (name, rest) ← readStringAs "variant identifier" rest
    let form ← VariantForm.named forms name
    let (value, rest) ← form.read (← expectMark ':' rest)
    return (value, ← expectMark '}' rest)
  | _ => .error .malformed

def readWhole (value : List Char → Except Fault (α × List Char)) (text : List Char) :
    Except Fault α := do
  let (value, rest) ← value text
  if skipSpace rest = [] then return value else throw .malformed

end JsonBinding.Json
