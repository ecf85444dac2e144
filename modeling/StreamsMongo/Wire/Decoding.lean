import StreamsMongo.Codec.QueryCommon
import StreamsMongo.Wire.Reading

set_option autoImplicit false

namespace StreamsMongo.Wire

open Bytes
open QueryCommon (Target)

section Decoder

variable {A C : Type} (lib : ElementLibrary) (rt : SplRuntime)

def isSimpleType (e : BSONElement) : Except Stopped Bool := do
  match ← inMemory e.type with
  | .numberLong | .numberDouble | .numberInt | .string | .bool | .date | .jstOID => return true
  | _ => return false

def handlePrimitive (p : PrimType) (e : BSONElement) (target : Target p.Value) :
    Except Stopped (Target p.Value) := do
  if ← isSimpleType e then
    return QueryCommon.handlePrimitive rt p (← readValue lib (fun _ => throw .outside) e) target
  else return target

def readElements (read : BSONElement → Except Stopped (Target A))
    (add : C → BSONElement → A → Except Stopped C) (obj : Pointer) (attr : C) :
    Except Stopped C := do
  BSONObjIterator.forEach lib (fun attr e => do
    let inner ← read e
    if inner.valueApplied then add attr e inner.attr else return attr)
    obj.length (← BSONObjIterator.start obj) attr

def handleBSONArray (read : BSONElement → Except Stopped (Target A)) (add : C → A → C)
    (getSize : C → Nat) (e : BSONElement) (target : Target C) : Except Stopped (Target C) := do
  if (← inMemory e.type) = .array then
    let attr ← readElements lib read (fun attr _ inner => return add attr inner)
      (← lib.embeddedObject e) target.attr
    return { attr, valueApplied := if getSize attr > 0 then true else target.valueApplied }
  else return target

def handleBSONObjectAsMap (read : BSONElement → Except Stopped (Target A)) (e : BSONElement)
    (target : Target (Finmap fun _ : String => A)) :
    Except Stopped (Target (Finmap fun _ : String => A)) := do
  if (← inMemory e.type) = .object then
    let attr ← readElements lib read (fun attr e inner => do
      return rt.mapAdd attr (← inMemory (fieldName? e)).chars inner) (← lib.embeddedObject e)
      target.attr
    return { attr, valueApplied := if attr.entries.card > 0 then true else target.valueApplied }
  else return target

mutual

def handleBSONObject :
    (t : SplType) → BSONElement → Target t.Value → Except Stopped (Target t.Value)
  | .prim p, e, target => handlePrimitive lib rt p e target
  | .list t, e, target =>
      handleBSONArray (C := List t.Value) lib
        (fun e => handleBSONObject t e ⟨t.cleared, false⟩)
        (fun attr inner => attr ++ [inner]) List.length e target
  | .set t, e, target =>
      handleBSONArray (C := Finset t.Value) lib
        (fun e => handleBSONObject t e ⟨t.cleared, false⟩)
        (fun attr inner => insert inner attr) Finset.card e target
  | .map t, e, target =>
      handleBSONObjectAsMap lib rt (fun e => handleBSONObject t e ⟨t.cleared, false⟩) e target
  | .tuple attrs, e, target => do
      if (← inMemory e.type) = .object then
        let inner ← handleBSONObjectAsTuple attrs (← lib.embeddedObject e) target
        return .applied inner.attr
      else return target

def handleBSONObjectAsTuple :
    (attrs : Attributes) → Pointer → Target attrs.Value → Except Stopped (Target attrs.Value)
  | .nil, _, target => return target
  | .cons name t rest, bo, target => do
      let head : Target t.Value ←
        match lib.getField bo name with
        | some e => handleBSONObject t e ⟨target.attr.1, target.valueApplied⟩
        | none => pure ⟨target.attr.1, target.valueApplied⟩
      let tail ← handleBSONObjectAsTuple rest bo ⟨target.attr.2, head.valueApplied⟩
      return ⟨(head.attr, tail.attr), tail.valueApplied⟩

end

end Decoder

structure DocumentLibrary extends ElementLibrary where
  getFieldDotted : Pointer → String → Option BSONElement
  wrap : BSONElement → FieldName → Except Stopped Pointer
  jsonString : Pointer → String

-- `be.type() == Object ? be.embeddedObject() : BSONObj()`
def objectAt (lib : DocumentLibrary) (be : BSONElement) : Except Stopped Pointer := do
  if (← inMemory be.type) = .object then lib.embeddedObject be else return objdata []

section Attribute

variable (lib : DocumentLibrary) (rt : SplRuntime) (appendDate : AppendDate) (attrName : FieldName)

def initBSONObject (attrNameNotInBO : Bool) (findPath : Option String) (queryResultBO : Pointer) :
    Except Stopped (Option Pointer) := do
  match findPath with
  | some path =>
      match lib.getFieldDotted queryResultBO path with
      | none => return none
      | some be =>
          let queryResultBO ← objectAt lib be
          if attrNameNotInBO then return some (← lib.wrap be attrName)
          else return some queryResultBO
  | none =>
      if attrNameNotInBO then
        let b0 ← BSONObjBuilder.start
        let b0 ← b0.append appendDate .append attrName.chars (.bsonObj queryResultBO)
        return some (← b0.obj)
      else return some queryResultBO

def readAttribute (attrNameNotInBO : Bool) (findPath : Option String) (t : SplType)
    (queryResultBO : Pointer) (attr0 : t.Value) : Except Stopped (Target t.Value) := do
  match ← initBSONObject lib appendDate attrName attrNameNotInBO findPath queryResultBO with
  | none => return ⟨attr0, false⟩
  | some bo0 =>
      match lib.getField bo0 attrName with
      | some e => handleBSONObject lib.toElementLibrary rt t e ⟨attr0, false⟩
      | none => return ⟨attr0, false⟩

def queryDocumentField (findPath : Option String) (t : SplType) (queryResultBO : Pointer)
    (attr0 : t.Value) : Except Stopped (Target t.Value) :=
  readAttribute lib rt appendDate attrName false findPath t queryResultBO attr0

def queryDocumentMultipleFields (findPath : Option String) (t : SplType) (queryResultBO : Pointer)
    (attr0 : t.Value) : Except Stopped (Target t.Value) :=
  readAttribute lib rt appendDate attrName true findPath t queryResultBO attr0

end Attribute

section Refinement

variable {A C : Type} {lib : ElementLibrary} (documented : lib.Documented) (rt : SplRuntime)

theorem isSimpleType_element (be : StreamsMongo.BSONElement) (rest : List UInt8) :
    isSimpleType ⟨element be ++ rest⟩ = .ok be.2.isSimpleType := by
  obtain ⟨name, value⟩ := be
  rw [isSimpleType, type_element]
  cases value <;> rfl

theorem Holds.notSimple {fields : BSONObj} {value : BSONValue} (holds : Holds fields value) :
    value.isSimpleType = false := by
  cases holds <;> rfl

theorem getField_mem (fields : BSONObj) (name : FieldName) (value : BSONValue)
    (held : BSONObj.getField fields name = some value) : (name, value) ∈ fields := by
  induction fields with
  | nil => cases held
  | cons be fields ih =>
    rw [BSONObj.getField_cons] at held
    split_ifs at held with same
    · subst same
      cases held
      exact List.mem_cons_self
    · exact List.mem_cons_of_mem be (ih held)

section Fields

variable (fields : BSONObj) (terminated : AllTerminated fields)
  (short : (objdata fields).length < 2 ^ 31) (behind : List UInt8) (name : FieldName)

include documented terminated short

theorem ElementLibrary.Documented.missing_element
    (held : BSONObj.getField fields name = none) :
    lib.getField (objdata fields ++ behind) name = none := by
  have found := documented.getField fields behind name terminated short
  rwa [held] at found

theorem ElementLibrary.Documented.found_element (value : BSONValue)
    (held : BSONObj.getField fields name = some value) :
    ∃ after, lib.getField (objdata fields ++ behind) name =
      some ⟨element (name, value) ++ after⟩ ∧ (name, value) ∈ fields := by
  have found := documented.getField fields behind name terminated short
  rw [held] at found
  obtain ⟨after, found⟩ := found
  exact ⟨after, found, getField_mem fields name value held⟩

end Fields

include documented

theorem handlePrimitive_element (p : PrimType) (be : StreamsMongo.BSONElement) (rest : List UInt8)
    (readable : Readable be) (target : Target p.Value) :
    handlePrimitive lib rt p ⟨element be ++ rest⟩ target =
      .ok (QueryCommon.handlePrimitive rt p be.2 target) := by
  rw [handlePrimitive, isSimpleType_element]
  cases simple : be.2.isSimpleType with
  | false =>
    simp only [QueryCommon.handlePrimitive, simple, ok_bind, Bool.false_eq_true, if_false]
    rfl
  | true =>
    have read := readValue_element documented (fun _ => throw .outside) be.1 be.2 rest
      readable.terminated readable.bounded
      fun fields holds => absurd simple (by rw [holds.notSimple]; simp)
    simp only [read, ok_bind, if_true]
    rfl

section Loops

variable (read : BSONElement → Except Stopped (Target A)) (read' : BSONValue → Target A)
  (reads : ∀ be : StreamsMongo.BSONElement, ∀ rest, Readable be →
    read ⟨element be ++ rest⟩ = .ok (read' be.2))

include reads

theorem readElements_objdata (fields : BSONObj) (terminated : AllTerminated fields)
    (bounded : (objdata fields).length ≤ BSONObjMaxInternalSize)
    (add : C → BSONElement → A → Except Stopped C) (add' : C → StreamsMongo.BSONElement → A → C)
    (adds : ∀ be, ∀ attr inner rest,
      add attr ⟨element be ++ rest⟩ inner = .ok (add' attr be inner))
    (pointer : Pointer) (begins : objdata fields <+: pointer) (attr : C) :
    readElements lib read add pointer attr =
      .ok (QueryCommon.readElements read' add' fields attr) := by
  refine forEach_objdata documented _ _ fields terminated (short_of_bounded bounded) ?_ pointer
    begins attr
  intro be member attr rest
  rw [reads be rest (readable_of_mem fields terminated bounded be member), ok_bind]
  cases applied : (read' be.2).valueApplied with
  | false =>
    simp only [applied, Bool.false_eq_true, if_false]
    rfl
  | true => simp only [applied, if_true, adds be]

theorem handleBSONArray_element (add : C → A → C) (getSize : C → Nat)
    (be : StreamsMongo.BSONElement) (rest : List UInt8) (readable : Readable be)
    (target : Target C) :
    handleBSONArray lib read add getSize ⟨element be ++ rest⟩ target =
      .ok (QueryCommon.handleBSONArray read' add getSize be.2 target) := by
  obtain ⟨name, value⟩ := be
  rw [handleBSONArray, type_element]
  cases value with
  | array fields =>
    obtain ⟨pointer, opened, begins⟩ :=
      documented.opened name (.array fields) fields rest (.inr rfl) readable.bounded
    have loop := readElements_objdata documented read read' reads fields readable.terminated
      readable.bounded (fun attr _ inner => return add attr inner)
      (fun attr _ inner => add attr inner) (fun _ _ _ _ => rfl) pointer begins target.attr
    simp only [inMemory_some, ok_bind, opened, loop]
    rfl
  | _ => rfl

theorem handleBSONObjectAsMap_element (be : StreamsMongo.BSONElement) (rest : List UInt8)
    (readable : Readable be) (target : Target (Finmap fun _ : String => A)) :
    handleBSONObjectAsMap lib rt read ⟨element be ++ rest⟩ target =
      .ok (QueryCommon.handleBSONObjectAsMap rt read' be.2 target) := by
  obtain ⟨name, value⟩ := be
  rw [handleBSONObjectAsMap, type_element]
  cases value with
  | object fields =>
    obtain ⟨pointer, opened, begins⟩ :=
      documented.opened name (.object fields) fields rest (.inl rfl) readable.bounded
    have loop := readElements_objdata documented read read' reads fields readable.terminated
      readable.bounded
      (fun attr e inner => do return rt.mapAdd attr (← inMemory (fieldName? e)).chars inner)
      (fun attr be inner => rt.mapAdd attr be.1.chars inner)
      (fun be attr inner rest => by rw [fieldName?_element]; rfl) pointer begins target.attr
    simp only [inMemory_some, ok_bind, opened, loop]
    rfl
  | _ => rfl

end Loops

mutual

theorem handleBSONObject_element : (t : SplType) → (be : StreamsMongo.BSONElement) →
    (rest : List UInt8) → Readable be → (target : Target t.Value) →
    handleBSONObject lib rt t ⟨element be ++ rest⟩ target =
      .ok (QueryCommon.handleBSONObject rt t be.2 target)
  | .prim p, be, rest, readable, target =>
    handlePrimitive_element documented rt p be rest readable target
  | .list t, be, rest, readable, target =>
    handleBSONArray_element documented _ _
      (fun be rest readable => handleBSONObject_element t be rest readable _)
      _ _ be rest readable target
  | .set t, be, rest, readable, target =>
    handleBSONArray_element documented _ _
      (fun be rest readable => handleBSONObject_element t be rest readable _)
      _ _ be rest readable target
  | .map t, be, rest, readable, target =>
    handleBSONObjectAsMap_element documented rt _ _
      (fun be rest readable => handleBSONObject_element t be rest readable _)
      be rest readable target
  | .tuple attrs, (name, value), rest, readable, target => by
    rw [handleBSONObject, type_element]
    cases value with
    | object fields =>
      obtain ⟨pointer, opened, begins⟩ :=
        documented.opened name (.object fields) fields rest (.inl rfl) readable.bounded
      have inner := handleBSONObjectAsTuple_objdata attrs fields readable.terminated
        readable.bounded pointer begins target
      simp only [inMemory_some, ok_bind, opened, inner]
      rfl
    | _ => rfl

theorem handleBSONObjectAsTuple_objdata : (attrs : Attributes) → (fields : BSONObj) →
    AllTerminated fields → (objdata fields).length ≤ BSONObjMaxInternalSize →
    (pointer : Pointer) → objdata fields <+: pointer → (target : Target attrs.Value) →
    handleBSONObjectAsTuple lib rt attrs pointer target =
      .ok (QueryCommon.handleBSONObjectAsTuple rt attrs fields target)
  | .nil, _, _, _, _, _, _ => rfl
  | .cons name t attrs, fields, terminated, bounded, pointer, begins, target => by
    have later := handleBSONObjectAsTuple_objdata attrs fields terminated bounded pointer begins
    obtain ⟨rest, rfl⟩ := begins
    have short := short_of_bounded bounded
    rw [handleBSONObjectAsTuple, QueryCommon.handleBSONObjectAsTuple]
    cases held : BSONObj.getField fields name with
    | none =>
      have missing := documented.missing_element fields terminated short rest name held
      simp only [missing, pure_bind, later, ok_bind]
      rfl
    | some value =>
      obtain ⟨after, found, member⟩ :=
        documented.found_element fields terminated short rest name value held
      have first := handleBSONObject_element t (name, value) after
        (readable_of_mem fields terminated bounded _ member)
      simp only [found, first, later, ok_bind]
      rfl

end

end Refinement

end StreamsMongo.Wire
