import StreamsMongo.Wire.Builders

set_option autoImplicit false

namespace StreamsMongo.Wire

open Bytes

section Layout

@[simp] theorem elements_nil : elements [] = [] := rfl

theorem elements_cons (be : BSONElement) (rest : BSONObj) :
    elements (be :: rest) = element be ++ elements rest := rfl

@[simp] theorem elements_append (obj other : BSONObj) :
    elements (obj ++ other) = elements obj ++ elements other := by
  induction obj with
  | nil => rfl
  | cons be obj ih => rw [List.cons_append, elements_cons, elements_cons, ih, List.append_assoc]

@[simp] theorem length_length (n : Nat) : (length n).length = 4 := length_writeLE _

theorem length_enclose (bytes : List UInt8) : (enclose bytes).length = 4 + bytes.length + 1 := by
  simp [enclose, Nat.add_assoc]

theorem read_length (n : Nat) (rest : List UInt8) :
    readLE 32 (length n ++ rest) = some (BitVec.ofNat 32 n) :=
  readLE_writeLE 32 (by decide) _ rest

theorem length_objdata (obj : BSONObj) : (objdata obj).length = 4 + (elements obj).length + 1 :=
  length_enclose _

section Memory

variable (obj : BSONObj) (behind : List UInt8)

theorem objdata_append : objdata obj ++ behind =
    length (objdata obj).length ++ (elements obj ++ (BSONType.eoo.typeByte :: behind)) := by
  rw [length_objdata, objdata, enclose]
  simp

theorem read_objdata :
    readLE 32 (objdata obj ++ behind) = some (BitVec.ofNat 32 (objdata obj).length) := by
  rw [objdata_append, read_length]

theorem copied_objdata (short : (objdata obj).length < 2 ^ 31) :
    copied (objdata obj ++ behind) = objdata obj := by
  rw [copied, read_objdata, Option.getD_some, BitVec.toNat_ofNat, Nat.mod_eq_of_lt (by omega),
    List.take_left]

end Memory

end Layout

def Fits (obj : BSONObj) : Prop := sizeofHolder + (objdata obj).length ≤ BufferMaxSize

theorem fits_iff (obj : BSONObj) :
    Fits obj ↔ sizeofHolder + 4 + (elements obj).length + 1 ≤ BufferMaxSize := by
  rw [Fits, length_objdata]
  omega

theorem Fits.short {obj : BSONObj} (fits : Fits obj) : (objdata obj).length < 2 ^ 31 := by
  have limit : BufferMaxSize < 2 ^ 31 := by decide
  rw [Fits] at fits
  omega

theorem Fits.front {obj other : BSONObj} (fits : Fits (obj ++ other)) : Fits obj := by
  rw [fits_iff, elements_append, List.length_append] at fits
  rw [fits_iff]
  omega

theorem Fits.last {obj : BSONObj} {name : FieldName} {value : BSONValue}
    (fits : Fits (obj ++ [(name, value)])) : (data value).length < 2 ^ 31 := by
  have limit : BufferMaxSize < 2 ^ 31 := by decide
  have part : (data value).length ≤ (elements [(name, value)]).length := by
    simp only [elements, List.length_append, List.length_cons]
    omega
  rw [fits_iff, elements_append, List.length_append] at fits
  omega

/-- Behind the holder and the place of the length stand the elements. -/
def BSONObjBuilder.Represents (builder : BSONObjBuilder) (obj : BSONObj) : Prop :=
  ∃ gap : List UInt8, gap.length = sizeofHolder + 4 ∧ builder.b.data = gap ++ elements obj

section Writes

variable {r : Nat}

theorem appendAll_ok (pieces : List (List UInt8)) (b : BufBuilder r)
    (within : b.data.length + pieces.flatten.length + r ≤ BufferMaxSize) :
    ∃ b', pieces.foldlM BufBuilder.appendBuf b = .ok b' ∧ b'.data = b.data ++ pieces.flatten := by
  induction pieces generalizing b with
  | nil => exact ⟨b, rfl, by simp⟩
  | cons src pieces ih =>
    rw [List.flatten_cons, List.length_append] at within
    obtain ⟨b', wrote, grown⟩ := (appendBuf_keeps b src).1 (by omega)
    obtain ⟨result, later, all⟩ := ih b' (by rw [grown, List.length_append]; omega)
    refine ⟨result, ?_, by rw [all, grown, List.append_assoc, List.flatten_cons]⟩
    rw [List.foldlM_cons, wrote]
    exact later

theorem appendAll_full (pieces : List (List UInt8)) (b : BufBuilder r)
    (past : BufferMaxSize < b.data.length + pieces.flatten.length + r) :
    ∃ e, pieces.foldlM BufBuilder.appendBuf b = .error e ∧ Full e := by
  induction pieces generalizing b with
  | nil =>
    have fits := b.fits
    have bounded := b.bounded
    simp only [List.flatten_nil, List.length_nil] at past
    omega
  | cons src pieces ih =>
    rw [List.foldlM_cons]
    by_cases within : b.data.length + src.length + r ≤ BufferMaxSize
    · obtain ⟨b', wrote, grown⟩ := (appendBuf_keeps b src).1 within
      rw [List.flatten_cons, List.length_append] at past
      rw [wrote]
      exact ih b' (by rw [grown, List.length_append]; omega)
    · obtain ⟨e, stopped, full⟩ := (appendBuf_keeps b src).2 (by omega)
      exact ⟨e, by rw [stopped]; rfl, full⟩

end Writes

section Appending

abbrev Keeps {A B : Type} (fits : A → Prop) (related : A → B → Prop) (ideal : Except Raised A)
    (limited : Except Stopped B) : Prop :=
  Limits.Keeps Stopped.raised Full fits related ideal limited

theorem checkFieldName_keeps (fieldName : String) :
    Keeps (fun _ => True) (fun (name : FieldName) (_ : Unit) => name.chars = fieldName)
      (StreamsMongo.checkFieldName fieldName) (BSONObjBuilder.checkFieldName fieldName) := by
  rw [StreamsMongo.checkFieldName, BSONObjBuilder.checkFieldName]
  by_cases dirty : nul ∈ fieldName.toList
  · rw [dif_pos dirty, if_pos ((zero_mem_utf8 fieldName).mpr dirty)]
    exact .error _
  · rw [dif_neg dirty, if_neg (mt (zero_mem_utf8 fieldName).mp dirty)]
    exact .ok _ _ trivial rfl

variable {builder : BSONObjBuilder} {obj : BSONObj}

theorem appendElement_keeps (represents : builder.Represents obj) (fieldName : String)
    (value : BSONValue) (pieces : List (List UInt8)) (written : pieces.flatten = data value) :
    Keeps Fits (fun obj builder => builder.Represents obj)
      (do let name ← StreamsMongo.checkFieldName fieldName
          return obj ++ [(name, value)])
      (builder.appendElement value.type fieldName pieces) := by
  obtain ⟨gap, wide, holds⟩ := represents
  refine (checkFieldName_keeps fieldName).bind ?_ fun _ _ _ _ _ => trivial
  rintro name _ - - rfl
  let all := [value.type.typeByte] :: cstring (utf8 name.chars) :: pieces
  have flat : all.flatten = elements [(name, value)] := by
    simp [all, written, elements, Wire.name]
  have size : builder.b.data.length + all.flatten.length + 1 =
      sizeofHolder + 4 + (elements (obj ++ [(name, value)])).length + 1 := by
    rw [holds, flat, elements_append]
    simp only [List.length_append]
    omega
  refine ⟨?_, ?_, by rintro e ⟨⟩⟩
  · rintro _ ⟨⟩ fits
    rw [fits_iff, ← size] at fits
    obtain ⟨b, wrote, grown⟩ := appendAll_ok all builder.b fits
    refine ⟨⟨b⟩, by simp only [all] at wrote; rw [wrote]; rfl, gap, wide, ?_⟩
    rw [grown, holds, flat, List.append_assoc, ← elements_append]
  · rintro _ ⟨⟩ beyond
    rw [fits_iff, ← size] at beyond
    obtain ⟨e, stopped, full⟩ := appendAll_full all builder.b (by omega)
    exact ⟨e, by simp only [all] at stopped; rw [stopped]; rfl, full⟩

theorem toInt_keeps {A B : Type} {fits : A → Prop} {related : A → B → Prop}
    {ideal : Except Raised A} (n : Nat) (next : Nat → Except Stopped B)
    (continues : Keeps fits related ideal (next n))
    (small : ∀ a, ideal = .ok a → fits a → n < 2 ^ 31) :
    Keeps fits related ideal (toInt n >>= next) := by
  rw [toInt]
  split_ifs with int
  · exact continues
  · exact ⟨fun a made holds => absurd (small a made holds) int,
      fun _ _ _ => ⟨_, rfl, .noInt⟩, fun _ _ => ⟨_, rfl, .inr .noInt⟩⟩

theorem last_small {fieldName : String} {value : BSONValue} {n : Nat}
    (counted : n ≤ (data value).length) (made : BSONObj)
    (appended : (do let name ← StreamsMongo.checkFieldName fieldName
                    return obj ++ [(name, value)]) = Except.ok made) (fits : Fits made) :
    n < 2 ^ 31 := by
  rw [Loops.bind_eq_ok] at appended
  obtain ⟨name, _, same⟩ := appended
  cases same
  exact Nat.lt_of_le_of_lt counted fits.last

def CppValue.lower : StreamsMongo.CppValue → CppValue
  | .bool val => .bool val
  | .int n => .int n
  | .unsigned n => .unsigned n
  | .longLong n => .longLong n
  | .double n => .double n
  | .stdString str => .stdString str
  | .date dt => .date dt
  | .binData subtype bytes => .binData subtype bytes
  | .bsonObj obj => .bsonObj (objdata obj)
  | .bsonArray arr => .bsonArray (objdata arr)

theorem CppValue.asBSONObj_lower (value : StreamsMongo.CppValue) :
    (CppValue.lower value).asBSONObj = objdata value.asBSONObj := by
  cases value <;> rfl

theorem append_keeps {appendDate : AppendDate} (documented : appendDate.Documented)
    (represents : builder.Represents obj) (function : AppendFunction) (fieldName : String)
    (value : StreamsMongo.CppValue) (inner : Fits value.asBSONObj) :
    Keeps Fits (fun obj builder => builder.Represents obj)
      (StreamsMongo.BSONObjBuilder.append obj function fieldName value)
      (builder.append appendDate function fieldName (.lower value)) := by
  have copy := copied_objdata value.asBSONObj [] inner.short
  rw [List.append_nil] at copy
  have writes := appendElement_keeps represents fieldName (function.element value)
  cases function with
  | appendArray =>
    refine writes [copied (CppValue.lower value).asBSONObj] ?_
    rw [CppValue.asBSONObj_lower, copy]
    exact List.flatten_singleton
  | append =>
    cases value with
    | bool val => exact writes [[if val then 1 else 0]] List.flatten_singleton
    | int n | unsigned n | longLong n | double n =>
      exact writes [writeLE n] List.flatten_singleton
    | date dt =>
      change Keeps _ _ _ (appendDate builder fieldName dt)
      rw [documented]
      exact writes [writeLE dt] List.flatten_singleton
    | stdString str =>
      refine toInt_keeps _ _ (writes [length ((utf8 str).length + 1), cstring (utf8 str)] ?_)
        (last_small ?_)
      · simp [AppendFunction.element, CppValue.appended, data, text]
      · simp [AppendFunction.element, CppValue.appended, data, text]
    | binData subtype bytes =>
      refine toInt_keeps _ _ (writes [length bytes.length, [subtype], bytes] ?_) (last_small ?_)
      · simp [AppendFunction.element, CppValue.appended, data]
      · simp only [AppendFunction.element, CppValue.appended, data, List.length_append]
        omega
    | bsonObj obj | bsonArray obj =>
      refine writes [copied (objdata obj)] ?_
      rw [show copied (objdata obj) = objdata obj from copy]
      exact List.flatten_singleton

end Appending

section Whole

theorem reserveBytes_ok {r : Nat} (b : BufBuilder r) (bytes : Nat)
    (within : b.data.length + r + bytes ≤ BufferMaxSize) :
    ∃ b', b.reserveBytes bytes = .ok b' ∧ b'.data = b.data := by
  obtain ⟨size, grown⟩ := ensure_ok b _ within
  exact ⟨_, by rw [BufBuilder.reserveBytes, grown]; rfl, rfl⟩

theorem start_represents :
    ∃ builder, BSONObjBuilder.start = .ok builder ∧ builder.Represents [] := by
  let empty : BufBuilder 0 := ⟨[], sizeofHolder + 512, by decide, by decide⟩
  obtain ⟨held, holder, heldData⟩ :=
    (appendBuf_keeps empty (List.replicate sizeofHolder 0)).1 (by decide)
  have holds : held.data = List.replicate sizeofHolder 0 := heldData
  obtain ⟨sized, place, sizedData⟩ :=
    (appendBuf_keeps held (List.replicate 4 0)).1 (by rw [holds]; decide)
  obtain ⟨reserved, room, same⟩ := reserveBytes_ok sized 1 (by rw [sizedData, holds]; decide)
  refine ⟨⟨reserved⟩, ?_, List.replicate sizeofHolder 0 ++ List.replicate 4 0, by simp, ?_⟩
  · change (do let b ← empty.appendBuf _; _) = _
    rw [holder]
    change (do let b ← held.appendBuf _; _) = _
    rw [place]
    change (do return BSONObjBuilder.mk (← sized.reserveBytes 1)) = _
    rw [room]
    rfl
  · rw [same, sizedData, holds, elements_nil, List.append_nil]

/-- The reserved byte is there for the EOO, so ending a document needs no room. -/
theorem done_cannot_fail (builder : BSONObjBuilder) (obj : BSONObj)
    (represents : builder.Represents obj) : builder.obj = .ok (objdata obj) := by
  obtain ⟨gap, wide, holds⟩ := represents
  have room := builder.b.fits
  have bounded := builder.b.bounded
  obtain ⟨b, wrote, ended⟩ := (appendBuf_keeps
    (BufBuilder.claimReservedBytes (r := 0) 1 builder.b) [BSONType.eoo.typeByte]).1 (by
      simp only [BufBuilder.claimReservedBytes, List.length_singleton]
      omega)
  have whole : b.data = gap ++ (elements obj ++ [BSONType.eoo.typeByte]) := by
    rw [ended, ← List.append_assoc, ← holds]
    rfl
  have counted : b.data.length - sizeofHolder = 4 + (elements obj).length + 1 := by
    rw [whole]
    simp only [List.length_append, List.length_singleton]
    omega
  have behind : b.data.drop (sizeofHolder + 4) = elements obj ++ [BSONType.eoo.typeByte] := by
    rw [whole, ← wide, List.drop_left]
  rw [BSONObjBuilder.obj, wrote]
  change Except.ok _ = _
  rw [counted, behind, objdata, enclose, List.append_assoc]

theorem built_alone (name : FieldName) (value : BSONValue) (pieces : List (List UInt8))
    (written : pieces.flatten = data value) (fits : Fits [(name, value)]) :
    ∃ start b, BSONObjBuilder.start = .ok start ∧
      start.appendElement value.type name.chars pieces = .ok b ∧
      b.obj = .ok (objdata [(name, value)]) := by
  obtain ⟨start, begun, represents⟩ := start_represents
  have made : (do
      let name ← StreamsMongo.checkFieldName name.chars
      return ([] : BSONObj) ++ [(name, value)]) = Except.ok [(name, value)] := by
    rw [checkFieldName_chars]
    rfl
  have writes := appendElement_keeps represents name.chars value pieces written
  obtain ⟨b, wrote, holds⟩ := writes.returns _ made fits
  exact ⟨start, b, begun, wrote, done_cannot_fail b _ holds⟩

end Whole

end StreamsMongo.Wire
