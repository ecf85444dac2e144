import StreamsMongo.Codec.Encoder
import StreamsMongo.Wire.Building

set_option autoImplicit false

namespace StreamsMongo.Wire

open Bytes

-- The encoder's code, with the driver's builders as they are.
section Encoder

variable (appendDate : AppendDate) (rt : SplRuntime)

def buildBSONObjectFromListOrSet {A : Type}
    (build : A → Except Stopped (AppendFunction × CppValue)) (values : List A) :
    Except Stopped BSONArrayBuilder := do
  let start ← BSONObjBuilder.start
  values.foldlM (fun b value => do
    let (_, inner) ← build value
    b.append appendDate inner) { b := start }

def buildBSONObjectFromMap {A : Type}
    (build : A → Except Stopped (AppendFunction × CppValue)) (values : List (Σ _ : String, A)) :
    Except Stopped BSONObjBuilder := do
  let start ← BSONObjBuilder.start
  values.foldlM (fun b value => do
    let (appendFunction, inner) ← build value.2
    b.append appendDate appendFunction value.1 inner) start

mutual

def buildBSONObject : (t : SplType) → t.Value → Except Stopped (AppendFunction × CppValue)
  | .prim p, value => do
      let inner ← lift (BSONCommon.handlePrimitive rt p value)
      return (.append, .lower inner)
  | .list t, value => do
      let b ← buildBSONObjectFromListOrSet appendDate (buildBSONObject t) value
      return (.appendArray, .bsonArray (← b.b.obj))
  | .set t, value => do
      let b ← buildBSONObjectFromListOrSet appendDate (buildBSONObject t) (rt.setOrder t value)
      return (.appendArray, .bsonArray (← b.b.obj))
  | .map t, value => do
      let b ← buildBSONObjectFromMap appendDate (buildBSONObject t) (rt.mapOrder t value)
      return (.append, .bsonObj (← b.obj))
  | .tuple attrs, value => do
      let b ← buildBSONObjectFromTuple attrs value (← BSONObjBuilder.start)
      return (.append, .bsonObj (← b.obj))

def buildBSONObjectFromTuple :
    (attrs : Attributes) → attrs.Value → BSONObjBuilder → Except Stopped BSONObjBuilder
  | .nil, _, b => .ok b
  | .cons name t rest, (value, values), b => do
      let (appendFunction, inner) ← buildBSONObject t value
      let b ← b.append appendDate appendFunction name.chars inner
      buildBSONObjectFromTuple rest values b

end

-- For SPL data; the document of a JSON text is the driver library's.
def buildBSONObjectWithKey (attrName : Option String) (t : SplType) (value : t.Value) :
    Except Stopped (List UInt8) := do
  match attrName with
  | some name =>
      let start ← BSONObjBuilder.start
      let (appendFunction, value) ← buildBSONObject appendDate rt t value
      let b ← start.append appendDate appendFunction name value
      b.obj
  | none =>
      let (_, value) ← buildBSONObject appendDate rt t value
      return value.asBSONObj

end Encoder

section Values

abbrev FitsValue (made : AppendFunction × StreamsMongo.CppValue) : Prop := Fits made.2.asBSONObj

abbrev Lowered (made : AppendFunction × StreamsMongo.CppValue) (low : AppendFunction × CppValue) :
    Prop :=
  low = (made.1, .lower made.2)

theorem fits_nil : Fits [] := by
  change 4 + (objdata []).length ≤ BufferMaxSize
  decide

theorem Fits.inner {obj : BSONObj} {name : FieldName} {function : AppendFunction}
    {value : StreamsMongo.CppValue} (fits : Fits (obj ++ [(name, function.element value)])) :
    Fits value.asBSONObj := by
  have part : (objdata value.asBSONObj).length ≤ (data (function.element value)).length ∨
      value.asBSONObj = [] := by
    cases function <;> cases value <;>
      simp [AppendFunction.element, CppValue.appended, data, objdata,
        StreamsMongo.CppValue.asBSONObj]
  rcases part with part | none
  · rw [fits_iff, elements_append, List.length_append] at fits
    simp only [elements, List.length_append, List.length_cons] at fits
    rw [Fits]
    omega
  · rw [none]
    exact fits_nil

theorem handlePrimitive_plain (rt : SplRuntime) (p : PrimType) (value : p.Value)
    (inner : StreamsMongo.CppValue)
    (built : BSONCommon.handlePrimitive rt p value = .ok inner) : inner.asBSONObj = [] := by
  cases p with
  | complex32 | complex64 => cases built
  | int i =>
    cases built
    cases i <;> rfl
  | _ =>
    cases built
    rfl

end Values

section Appending

theorem appended_last {obj after : BSONObj} {function : AppendFunction} {fieldName : String}
    {inner : StreamsMongo.CppValue}
    (appended : StreamsMongo.BSONObjBuilder.append obj function fieldName inner = .ok after) :
    ∃ name, after = obj ++ [(name, function.element inner)] := by
  rw [StreamsMongo.BSONObjBuilder.append, Loops.bind_eq_ok] at appended
  obtain ⟨name, _, same⟩ := appended
  cases same
  exact ⟨name, rfl⟩

theorem arrayAppended_last {ideal after : StreamsMongo.BSONArrayBuilder}
    {inner : StreamsMongo.CppValue} (appended : ideal.append inner = .ok after) :
    after.b = ideal.b ++ [(indexName ideal.i, AppendFunction.append.element inner)] := by
  rw [StreamsMongo.BSONArrayBuilder.append_ok] at appended
  cases appended
  rfl

variable {appendDate : AppendDate} (documented : appendDate.Documented)
  {made : Except Raised (AppendFunction × StreamsMongo.CppValue)}
  {low : Except Stopped (AppendFunction × CppValue)}
  (builds : Keeps FitsValue Lowered made low)

include documented builds

theorem appended_keeps {builder : BSONObjBuilder} {obj : BSONObj}
    (represents : builder.Represents obj) (fieldName : String) :
    Keeps Fits (fun obj builder => builder.Represents obj)
      (do let (appendFunction, inner) ← made
          StreamsMongo.BSONObjBuilder.append obj appendFunction fieldName inner)
      (do let (appendFunction, inner) ← low
          builder.append appendDate appendFunction fieldName inner) := by
  refine builds.bind ?_ ?_
  · rintro ⟨function, inner⟩ _ - holds rfl
    exact append_keeps documented represents function fieldName inner holds
  · rintro ⟨function, inner⟩ after - appended fits
    obtain ⟨name, rfl⟩ := appended_last appended
    exact fits.inner

omit documented builds in
theorem appended_grows {obj after : BSONObj} {fieldName : String}
    (appended : (do let (appendFunction, inner) ← made
                    StreamsMongo.BSONObjBuilder.append obj appendFunction fieldName inner) =
      Except.ok after) (fits : Fits after) : Fits obj := by
  rw [Loops.bind_eq_ok] at appended
  obtain ⟨_, _, last⟩ := appended
  obtain ⟨name, rfl⟩ := appended_last last
  exact fits.front

end Appending

def BSONArrayBuilder.Represents (builder : BSONArrayBuilder)
    (ideal : StreamsMongo.BSONArrayBuilder) : Prop :=
  builder.i = ideal.i ∧ builder.b.Represents ideal.b

section Loops

variable {A : Type} {appendDate : AppendDate} (documented : appendDate.Documented)
  {build : A → Except Raised (AppendFunction × StreamsMongo.CppValue)}
  {low : A → Except Stopped (AppendFunction × CppValue)}
  (builds : ∀ x, Keeps FitsValue Lowered (build x) (low x))

include documented builds

theorem buildBSONObjectFromMap_keeps (values : List (Σ _ : String, A)) :
    Keeps Fits (fun obj builder => builder.Represents obj)
      (BSONCommon.buildBSONObjectFromMap build values)
      (buildBSONObjectFromMap appendDate low values) := by
  obtain ⟨start, begun, represents⟩ := start_represents
  rw [buildBSONObjectFromMap, begun]
  refine Limits.Keeps.foldlM values ?_ ?_ [] start fits_nil represents
  · intro obj builder value _ _ represents
    exact appended_keeps documented (builds value.2) represents value.1
  · intro obj value after appended fits
    exact appended_grows appended fits

omit builds in
theorem arrayAppend_keeps {builder : BSONArrayBuilder} {ideal : StreamsMongo.BSONArrayBuilder}
    (represents : builder.Represents ideal) (value : StreamsMongo.CppValue)
    (inner : Fits value.asBSONObj) :
    Keeps (fun ideal => Fits ideal.b) (fun ideal builder => builder.Represents ideal)
      (ideal.append value) (builder.append appendDate (.lower value)) := by
  obtain ⟨numbered, represents⟩ := represents
  have writes := append_keeps documented represents .append (toString ideal.i) value inner
  rw [BSONArrayBuilder.append, numbered]
  exact writes.map (fun _ => Iff.rfl) fun _ _ represents => ⟨rfl, represents⟩

theorem buildBSONObjectFromListOrSet_keeps (values : List A) :
    Keeps (fun ideal => Fits ideal.b)
      (fun (ideal : StreamsMongo.BSONArrayBuilder) (builder : BSONArrayBuilder) =>
        builder.Represents ideal)
      (BSONCommon.buildBSONObjectFromListOrSet build values)
      (buildBSONObjectFromListOrSet appendDate low values) := by
  obtain ⟨start, begun, represents⟩ := start_represents
  let empty : BSONArrayBuilder := { b := start }
  have fresh : empty.Represents {} := ⟨rfl, represents⟩
  rw [buildBSONObjectFromListOrSet, begun]
  refine Limits.Keeps.foldlM values ?_ ?_ _ empty fits_nil fresh
  · intro ideal builder value _ _ represents
    refine (builds value).bind ?_ ?_
    · rintro ⟨function, inner⟩ _ - holds rfl
      exact arrayAppend_keeps documented represents inner holds
    · rintro ⟨function, inner⟩ after - appended fits
      rw [arrayAppended_last appended] at fits
      exact fits.inner
  · intro ideal value after appended fits
    rw [Loops.bind_eq_ok] at appended
    obtain ⟨_, _, last⟩ := appended
    rw [arrayAppended_last last] at fits
    exact fits.front

end Loops

section Encoding

variable {appendDate : AppendDate} (documented : appendDate.Documented) (rt : SplRuntime)

-- Ending a builder takes no room.
theorem array_keeps {ideal : Except Raised StreamsMongo.BSONArrayBuilder}
    {limited : Except Stopped BSONArrayBuilder}
    (loop : Keeps (fun ideal => Fits ideal.b)
      (fun (ideal : StreamsMongo.BSONArrayBuilder) (builder : BSONArrayBuilder) =>
        builder.Represents ideal) ideal limited) :
    Keeps FitsValue Lowered
      (do let b ← ideal
          return (.appendArray, .bsonArray b.b))
      (do let b ← limited
          return (.appendArray, .bsonArray (← b.b.obj))) := by
  refine loop.bind ?_ ?_
  · intro ideal builder _ fits represents
    rw [done_cannot_fail builder.b ideal.b represents.2]
    exact .ok _ _ fits rfl
  · rintro ideal _ - ⟨⟩ fits
    exact fits

theorem object_keeps {ideal : Except Raised BSONObj} {limited : Except Stopped BSONObjBuilder}
    (loop : Keeps Fits (fun obj builder => builder.Represents obj) ideal limited) :
    Keeps FitsValue Lowered
      (do let b ← ideal
          return (.append, .bsonObj b))
      (do let b ← limited
          return (.append, .bsonObj (← b.obj))) := by
  refine loop.bind ?_ ?_
  · intro obj builder _ fits represents
    rw [done_cannot_fail builder obj represents]
    exact .ok _ _ fits rfl
  · rintro obj _ - ⟨⟩ fits
    exact fits

theorem tuple_fits : (attrs : Attributes) → (values : attrs.Value) → (obj result : BSONObj) →
    BSONCommon.buildBSONObjectFromTuple rt attrs values obj = .ok result → Fits result → Fits obj
  | .nil, _, _, _, built, fits => by
    cases built
    exact fits
  | .cons name t rest, (value, values), obj, result, built, fits => by
    rw [BSONCommon.buildBSONObjectFromTuple, Loops.bind_eq_ok] at built
    obtain ⟨⟨function, inner⟩, _, built⟩ := built
    obtain ⟨after, appended, later⟩ := (Loops.bind_eq_ok _ _ result).mp built
    have within := tuple_fits rest values after result later fits
    obtain ⟨_, rfl⟩ := appended_last appended
    exact within.front

include documented

mutual

theorem buildBSONObject_keeps : (t : SplType) → (value : t.Value) →
    Keeps FitsValue Lowered (BSONCommon.buildBSONObject rt t value)
      (buildBSONObject appendDate rt t value)
  | .prim p, value => by
    rw [BSONCommon.buildBSONObject, buildBSONObject]
    cases handled : BSONCommon.handlePrimitive rt p value with
    | error e => exact .error e
    | ok inner =>
      have plain : FitsValue (.append, inner) := by
        rw [FitsValue, handlePrimitive_plain rt p value inner handled]
        exact fits_nil
      exact .ok _ _ plain rfl
  | .list t, value => by
    rw [BSONCommon.buildBSONObject, buildBSONObject]
    exact array_keeps (buildBSONObjectFromListOrSet_keeps documented (buildBSONObject_keeps t)
      value)
  | .set t, value => by
    rw [BSONCommon.buildBSONObject, buildBSONObject]
    exact array_keeps (buildBSONObjectFromListOrSet_keeps documented (buildBSONObject_keeps t)
      (rt.setOrder t value))
  | .map t, value => by
    rw [BSONCommon.buildBSONObject, buildBSONObject]
    exact object_keeps (buildBSONObjectFromMap_keeps documented (buildBSONObject_keeps t)
      (rt.mapOrder t value))
  | .tuple attrs, value => by
    obtain ⟨start, begun, represents⟩ := start_represents
    rw [BSONCommon.buildBSONObject, buildBSONObject, begun]
    exact object_keeps (buildBSONObjectFromTuple_keeps attrs value [] start fits_nil represents)

theorem buildBSONObjectFromTuple_keeps : (attrs : Attributes) → (values : attrs.Value) →
    (obj : BSONObj) → (builder : BSONObjBuilder) → Fits obj → builder.Represents obj →
    Keeps Fits (fun obj builder => builder.Represents obj)
      (BSONCommon.buildBSONObjectFromTuple rt attrs values obj)
      (buildBSONObjectFromTuple appendDate rt attrs values builder)
  | .nil, _, obj, builder, fits, represents => .ok obj builder fits represents
  | .cons name t rest, (value, values), obj, builder, fits, represents => by
    rw [BSONCommon.buildBSONObjectFromTuple, buildBSONObjectFromTuple]
    refine (buildBSONObject_keeps t value).bind ?_ ?_
    · rintro ⟨function, inner⟩ _ - holds rfl
      refine (append_keeps documented represents function name.chars inner holds).bind ?_ ?_
      · intro obj builder _ fits represents
        exact buildBSONObjectFromTuple_keeps rest values obj builder fits represents
      · intro obj result _ later
        exact tuple_fits rt rest values obj result later
    · rintro ⟨function, inner⟩ result - built fits
      obtain ⟨after, appended, later⟩ := (Loops.bind_eq_ok _ _ result).mp built
      have within := tuple_fits rt rest values after result later fits
      obtain ⟨_, rfl⟩ := appended_last appended
      exact within.inner

end

theorem buildBSONObjectWithKey_keeps (lib : DriverLibrary) (attrName : Option String)
    (t : SplType) (value : t.Value) :
    Keeps Fits (fun obj bytes => bytes = objdata obj)
      (BSONCommon.buildBSONObjectWithKey rt lib attrName (.value t value))
      (buildBSONObjectWithKey appendDate rt attrName t value) := by
  have builds := buildBSONObject_keeps documented rt t value
  cases attrName with
  | some name =>
    obtain ⟨start, begun, represents⟩ := start_represents
    rw [buildBSONObjectWithKey, begun]
    have ended : ∀ obj builder, BSONObjBuilder.Represents builder obj →
        ∃ bytes, builder.obj = .ok bytes ∧ bytes = objdata obj :=
      fun obj builder represents => ⟨_, done_cannot_fail builder obj represents, rfl⟩
    have filed := (appended_keeps documented builds represents name).finish ended
    simp only [bind_assoc] at filed
    exact filed
  | none =>
    exact builds.map (fun _ => Iff.rfl) fun made low lowered => by
      rw [lowered, CppValue.asBSONObj_lower]

/-- Room is the one thing that bytes need and documents do not. -/
theorem built_bytes_iff (lib : DriverLibrary) (attrName : Option String) (t : SplType)
    (value : t.Value) :
    (∀ bytes, buildBSONObjectWithKey appendDate rt attrName t value = .ok bytes ↔
      ∃ obj, BSONCommon.buildBSONObjectWithKey rt lib attrName (.value t value) = .ok obj ∧
        Fits obj ∧ bytes = objdata obj) ∧
    ∀ stopped, buildBSONObjectWithKey appendDate rt attrName t value = .error stopped →
      Full stopped ∨
        ∃ e, BSONCommon.buildBSONObjectWithKey rt lib attrName (.value t value) = .error e ∧
          stopped = .raised e :=
  have keeps := buildBSONObjectWithKey_keeps documented rt lib attrName t value
  ⟨keeps.eq_ok_iff, keeps.stopped⟩

end Encoding

def wordsBytes : List UInt8 :=
  [31, 0, 0, 0, 4, 107, 0, 23, 0, 0, 0, 2, 48, 0, 3, 0, 0, 0, 111, 107, 0, 2, 49, 0, 1, 0, 0, 0,
    0, 0, 0]

theorem built_bytes_iff_words :
    ∃ obj, BSONCommon.buildBSONObjectWithKey SplRuntime.plain DriverLibrary.plain (some "k")
        (.value (.list (.prim .rstring)) ["ok", ""]) = .ok obj ∧
      Fits obj ∧ wordsBytes = objdata obj :=
  ((built_bytes_iff AppendDate.plain_documented SplRuntime.plain DriverLibrary.plain (some "k")
    (.list (.prim .rstring)) ["ok", ""]).1 wordsBytes).mp rfl

end StreamsMongo.Wire
