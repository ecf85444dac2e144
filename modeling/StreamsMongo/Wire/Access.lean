import StreamsMongo.Wire.Decoding

set_option autoImplicit false

namespace StreamsMongo

open Bytes Wire

namespace BSONValue

theorem embedded_terminated (e : BSONValue) (terminated : Terminated e) :
    AllTerminated e.embeddedObject := by
  cases e with
  | object fields | array fields => exact terminated
  | _ => trivial

theorem element_le_data (e : BSONValue) (be : BSONElement) (member : be ∈ e.embeddedObject) :
    (element be).length ≤ (data e).length := by
  cases e with
  | object fields | array fields =>
    have part := element_le_elements fields be member
    have size := length_objdata fields
    change (element be).length ≤ (objdata fields).length
    omega
  | _ => cases member

variable {root e : BSONValue} (within : root.Within e)

include within

theorem Within.terminated (terminated : Terminated root) : Terminated e := by
  induction within with
  | self => exact terminated
  | field e be _ member ih => exact (e.embedded_terminated ih).of_mem be member

theorem Within.shorter : (data e).length ≤ (data root).length := by
  induction within with
  | self => exact Nat.le_refl _
  | field e be _ member ih =>
    have inside := data_lt_element be
    have part := e.element_le_data be member
    omega

end BSONValue

namespace Wire

/-- A path leads to an element of the document, and `wrap` makes a document of an element. -/
structure DocumentLibrary.Documented (lib : DocumentLibrary) (drv : DriverLibrary) : Prop extends
    lib.toElementLibrary.Documented where
  getFieldDotted (fields : BSONObj) (rest : List UInt8) (path : String) : AllTerminated fields →
    (objdata fields).length ≤ BSONObjMaxInternalSize →
    match drv.getFieldDotted fields path with
    | some value => ∃ e name after, BSONValue.Within (.object fields) e ∧
        (name, value) ∈ e.embeddedObject ∧
        lib.getFieldDotted (objdata fields ++ rest) path = some ⟨element (name, value) ++ after⟩
    | none => lib.getFieldDotted (objdata fields ++ rest) path = none
  wrap (be : StreamsMongo.BSONElement) (rest : List UInt8) (newName : FieldName) :
    Terminated be.2 → (element be).length < 2 ^ 31 → Fits [(newName, be.2)] →
      lib.wrap ⟨element be ++ rest⟩ newName = .ok (objdata [(newName, be.2)])
  jsonString (fields : BSONObj) (rest : List UInt8) : AllTerminated fields →
    (objdata fields).length ≤ BSONObjMaxInternalSize →
      lib.jsonString (objdata fields ++ rest) = drv.jsonString fields

section Refinement

variable {lib : DocumentLibrary} {drv : DriverLibrary} (documented : lib.Documented drv)
  (rt : SplRuntime) (appendDate : AppendDate) (attrName : FieldName)

def RoomFor (drv : DriverLibrary) (attrName : FieldName) (attrNameNotInBO : Bool)
    (findPath : Option String) (queryResultBO : BSONObj) : Prop :=
  attrNameNotInBO = true → ∀ bo0,
    QueryCommon.initBSONObject drv attrName attrNameNotInBO findPath queryResultBO = some bo0 →
      Fits bo0

-- A document of the cursor is an object over memory.
def Begins (fields : BSONObj) (pointer : Pointer) : Prop :=
  AllTerminated fields ∧ (objdata fields).length ≤ BSONObjMaxInternalSize ∧
    objdata fields <+: pointer

structure Searched (fields : BSONObj) (pointer : Pointer) : Prop where
  terminated : AllTerminated fields
  short : (objdata fields).length < 2 ^ 31
  readable : ∀ be ∈ fields, Readable be
  begins : objdata fields <+: pointer

theorem Begins.searched {fields : BSONObj} {pointer : Pointer} (begins : Begins fields pointer) :
    Searched fields pointer := by
  obtain ⟨terminated, bounded, behind⟩ := begins
  exact ⟨terminated, short_of_bounded bounded, readable_of_mem fields terminated bounded, behind⟩

theorem searched_alone (value : BSONValue) (terminated : Terminated value)
    (bounded : (data value).length ≤ BSONObjMaxInternalSize) (fits : Fits [(attrName, value)]) :
    Searched [(attrName, value)] (objdata [(attrName, value)]) := by
  refine ⟨⟨terminated, trivial⟩, fits.short, fun be member => ?_, List.prefix_rfl⟩
  have short := element_short _ fits.short be member
  rw [List.mem_singleton.mp member] at short ⊢
  exact ⟨terminated, short, bounded⟩

theorem filed_document (fields : BSONObj) (fits : Fits [(attrName, .object fields)])
    (pointer : Pointer) (begins : objdata fields <+: pointer) :
    (do let b0 ← BSONObjBuilder.start
        let b0 ← b0.append appendDate .append attrName.chars (.bsonObj pointer)
        return some (← b0.obj)) = Except.ok (some (objdata [(attrName, .object fields)])) := by
  obtain ⟨behind, rfl⟩ := begins
  have short := fits.short
  have size := length_objdata [(attrName, .object fields)]
  have part : (objdata fields).length < (elements [(attrName, .object fields)]).length :=
    data_lt_elements [(attrName, .object fields)] _ (List.mem_singleton_self _)
  have copy : [copied (objdata fields ++ behind)].flatten = data (.object fields) := by
    rw [copied_objdata fields behind (by omega)]
    exact List.flatten_singleton
  obtain ⟨start, b0, begun, wrote, ended⟩ := built_alone attrName (.object fields) _ copy fits
  have filed : BSONObjBuilder.append appendDate start .append attrName.chars
      (.bsonObj (objdata fields ++ behind)) = .ok b0 := wrote
  simp only [begun, filed, ended, bind, Except.bind]
  rfl

include documented

theorem objectAt_begins (be : StreamsMongo.BSONElement) (after : List UInt8)
    (readable : Readable be) :
    ∃ pointer, objectAt lib ⟨element be ++ after⟩ = .ok pointer ∧
      Begins (if be.2.type = .object then be.2.embeddedObject else []) pointer := by
  obtain ⟨name, value⟩ := be
  have none : Begins [] (objdata []) := ⟨trivial, by decide, List.prefix_rfl⟩
  rw [objectAt, type_element]
  cases value with
  | object fields =>
    obtain ⟨pointer, opened, begins⟩ :=
      documented.opened name (.object fields) fields after (.inl rfl) readable.bounded
    exact ⟨pointer, opened, readable.terminated, readable.bounded, begins⟩
  | _ => exact ⟨objdata [], rfl, none⟩

theorem found_dotted (fields : BSONObj) (pointer : Pointer) (begins : Begins fields pointer)
    (path : String) (value : BSONValue) (held : drv.getFieldDotted fields path = some value) :
    ∃ name after, lib.getFieldDotted pointer path = some ⟨element (name, value) ++ after⟩ ∧
      Readable (name, value) := by
  obtain ⟨terminated, bounded, rest, rfl⟩ := begins
  have short := short_of_bounded bounded
  have found := documented.getFieldDotted fields rest path terminated bounded
  rw [held] at found
  obtain ⟨e, name, after, within, member, found⟩ := found
  have ends : Terminated e := within.terminated terminated
  have part := e.element_le_data (name, value) member
  have inside := data_lt_element (name, value)
  have shorter : (data e).length ≤ (objdata fields).length := within.shorter
  exact ⟨name, after, found, (e.embedded_terminated ends).of_mem (name, value) member, by omega,
    by omega⟩

theorem missing_dotted (fields : BSONObj) (pointer : Pointer) (begins : Begins fields pointer)
    (path : String) (held : drv.getFieldDotted fields path = none) :
    lib.getFieldDotted pointer path = none := by
  obtain ⟨terminated, bounded, rest, rfl⟩ := begins
  have found := documented.getFieldDotted fields rest path terminated bounded
  rwa [held] at found

theorem initBSONObject_begins (attrNameNotInBO : Bool) (findPath : Option String)
    (fields : BSONObj) (pointer : Pointer) (begins : Begins fields pointer)
    (room : RoomFor drv attrName attrNameNotInBO findPath fields) :
    match QueryCommon.initBSONObject drv attrName attrNameNotInBO findPath fields with
    | some bo0 => ∃ pointer', initBSONObject lib appendDate attrName attrNameNotInBO findPath
        pointer = .ok (some pointer') ∧ Searched bo0 pointer'
    | none => initBSONObject lib appendDate attrName attrNameNotInBO findPath pointer =
        .ok none := by
  cases findPath with
  | none =>
    cases attrNameNotInBO with
    | false => exact ⟨pointer, rfl, begins.searched⟩
    | true =>
      have fits := room rfl _ rfl
      refine ⟨_, filed_document appendDate attrName fields fits pointer begins.2.2, ?_⟩
      exact searched_alone attrName (.object fields) begins.1 begins.2.1 fits
  | some path =>
    rw [QueryCommon.initBSONObject]
    cases held : drv.getFieldDotted fields path with
    | none =>
      have missing := missing_dotted documented fields pointer begins path held
      simp only [initBSONObject, missing]
      rfl
    | some value =>
      obtain ⟨name, after, found, readable⟩ :=
        found_dotted documented fields pointer begins path value held
      obtain ⟨inner, opened, inside⟩ := objectAt_begins documented (name, value) after readable
      cases attrNameNotInBO with
      | false =>
        refine ⟨inner, ?_, inside.searched⟩
        simp only [initBSONObject, found, ok_bind, opened]
        rfl
      | true =>
        have fits : Fits [(attrName, value)] :=
          room rfl _ (by simp [QueryCommon.initBSONObject, held])
        have wrapped := documented.wrap (name, value) after attrName readable.terminated
          readable.short fits
        refine ⟨objdata [(attrName, value)], ?_,
          searched_alone attrName value readable.terminated readable.bounded fits⟩
        simp only [initBSONObject, found, ok_bind, opened, wrapped]
        rfl

theorem readAttribute_begins (attrNameNotInBO : Bool) (findPath : Option String) (t : SplType)
    (fields : BSONObj) (pointer : Pointer) (begins : Begins fields pointer)
    (room : RoomFor drv attrName attrNameNotInBO findPath fields) (attr0 : t.Value) :
    readAttribute lib rt appendDate attrName attrNameNotInBO findPath t pointer attr0 =
      .ok (QueryCommon.readAttribute rt drv attrName attrNameNotInBO findPath t fields attr0) := by
  have searched := initBSONObject_begins documented appendDate attrName attrNameNotInBO findPath
    fields pointer begins room
  rw [readAttribute, QueryCommon.readAttribute]
  cases opened : QueryCommon.initBSONObject drv attrName attrNameNotInBO findPath fields with
  | none =>
    rw [opened] at searched
    rw [searched]
    rfl
  | some bo0 =>
    rw [opened] at searched
    obtain ⟨pointer', searched, terminated, short, readable, behind, rfl⟩ := searched
    rw [searched]
    cases held : BSONObj.getField bo0 attrName with
    | none =>
      have missing := documented.missing_element bo0 terminated short behind attrName held
      simp only [ok_bind, missing, held]
      rfl
    | some value =>
      obtain ⟨after, found, member⟩ :=
        documented.found_element bo0 terminated short behind attrName value held
      have decoded := handleBSONObject_element documented.toDocumented rt t (attrName, value)
        after (readable _ member) ⟨attr0, false⟩
      simp only [ok_bind, found, held, decoded]

end Refinement

end Wire

end StreamsMongo
