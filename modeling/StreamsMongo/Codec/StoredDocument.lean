import StreamsMongo.Codec.RoundTrip

set_option autoImplicit false

namespace StreamsMongo

open BSONCommon QueryCommon

def idName : FieldName := ⟨"_id", by decide⟩

/-- The document as the server keeps it: an identifier is put in front when it has none. -/
def serverStore (oid : BitVec 96) (doc : BSONObj) : BSONObj :=
  if doc.hasElement idName then doc else (idName, .jstOID oid) :: doc

theorem getField_serverStore (oid : BitVec 96) (doc : BSONObj) (name : FieldName)
    (other : name ≠ idName) : (serverStore oid doc).getField name = doc.getField name := by
  unfold serverStore
  split_ifs with stored
  · rfl
  · rw [BSONObj.getField_cons, if_neg (Ne.symm other)]

theorem refDecode_jstOID (rt : SplRuntime) (t : SplType) (oid : BitVec 96) :
    refDecode rt t (.jstOID oid) = none := by
  cases t with
  | prim p => cases p <;> rfl
  | _ => rfl

theorem refDecodeAttributes_cons (rt : SplRuntime) (attrs : Attributes) (be : BSONElement)
    (bo : BSONObj) (unknown : be.1 ∉ attrs.names) :
    refDecodeAttributes rt attrs (be :: bo) = refDecodeAttributes rt attrs bo := by
  match attrs with
  | .nil => rfl
  | .cons name t rest =>
    rw [Attributes.names, List.mem_cons, not_or] at unknown
    simp only [refDecodeAttributes, BSONObj.getField_cons, if_neg unknown.1,
      refDecodeAttributes_cons rt rest be bo unknown.2]
    rfl

theorem hasElement_of_mem (doc : BSONObj) (name : FieldName) (member : name ∈ doc.map Prod.fst) :
    doc.hasElement name = true := by
  induction doc with
  | nil => cases member
  | cons be rest ih =>
    rw [BSONObj.hasElement, BSONObj.getField_cons]
    by_cases here : be.1 = name
    · rw [if_pos here]
      rfl
    · rw [if_neg here]
      rcases List.mem_cons.mp member with same | later
      · exact absurd same.symm here
      · exact ih later

theorem refDecode_serverStore (rt : SplRuntime) (oid : BitVec 96) (t : SplType)
    (document : keyLess t = false) (value : t.Value) (function : AppendFunction)
    (inner : CppValue) (built : buildBSONObject rt t value = .ok (function, inner)) :
    refDecode rt t (.object (serverStore oid inner.asBSONObj)) = refDecode rt t inner.appended := by
  cases t with
  | prim p => cases document
  | list t => cases document
  | set t => cases document
  | map t =>
    simp only [buildBSONObject, Loops.bind_eq_ok, Loops.pure_eq_ok] at built
    obtain ⟨b, _, same⟩ := built
    cases same
    change refDecode rt (.map t) (.object (serverStore oid b)) = refDecode rt (.map t) (.object b)
    unfold serverStore
    split_ifs with stored
    · rfl
    · simp only [refDecode, refMap_object, List.filterMap_cons, refDecode_jstOID, Option.map_none]
      rfl
  | tuple attrs =>
    simp only [buildBSONObject, Loops.bind_eq_ok, Loops.pure_eq_ok] at built
    obtain ⟨b, made, same⟩ := built
    cases same
    obtain ⟨fields, same, names⟩ := buildBSONObjectFromTuple_names rt attrs value [] b made
    rw [List.nil_append] at same
    subst same
    change some (refDecodeAttributes rt attrs (serverStore oid b)) =
      some (refDecodeAttributes rt attrs b)
    unfold serverStore
    split_ifs with stored
    · rfl
    · rw [refDecodeAttributes_cons]
      intro named
      rw [← names] at named
      exact stored (hasElement_of_mem b idName named)

theorem queryDocumentField_attr (rt : SplRuntime) (lib : DriverLibrary) (attrName : FieldName)
    (t : SplType) (bo : BSONObj) (be : BSONValue) (found : bo.getField attrName = some be) :
    (queryDocumentField rt lib attrName none t bo t.cleared).attr =
      (refDecode rt t be).getD t.cleared := by
  rw [queryDocumentField, readAttribute_cleared, Target.ofOption_attr]
  change ((bo.getField attrName).bind (refDecode rt t)).getD t.cleared = _
  rw [found]
  rfl

theorem queryDocumentMultipleFields_attr (rt : SplRuntime) (lib : DriverLibrary)
    (attrName : FieldName) (t : SplType) (bo : BSONObj) :
    (queryDocumentMultipleFields rt lib attrName none t bo t.cleared).attr =
      (refDecode rt t (.object bo)).getD t.cleared := by
  have found : BSONObj.getField [(attrName, .object bo)] attrName = some (.object bo) := by simp
  rw [queryDocumentMultipleFields, readAttribute_cleared, Target.ofOption_attr]
  change ((BSONObj.getField [(attrName, .object bo)] attrName).bind
    (refDecode rt t)).getD t.cleared = _
  rw [found]
  rfl

theorem buildBSONObject_returns (rt : SplRuntime) (t : SplType) (exact : t.ExactLeaves)
    (value : t.Value) (clean : t.KeysClean value) :
    ∃ function inner, buildBSONObject rt t value = .ok (function, inner) := by
  obtain ⟨⟨function, inner⟩, built⟩ :=
    (buildBSONObject_settles rt t exact.supported value).returns clean
  exact ⟨function, inner, built⟩

theorem stored_unkeyed (rt : SplRuntime) (lib : DriverLibrary) (oid : BitVec 96) (t : SplType)
    (wellFormed : t.WellFormed) (exact : t.ExactLeaves) (value : t.Value)
    (clean : t.KeysClean value) (document : keyLess t = false) (attrName : FieldName) :
    ∃ doc, buildBSONObjectWithKey rt lib none (.value t value) = .ok doc ∧
      (queryDocumentMultipleFields rt lib attrName none t (serverStore oid doc) t.cleared).attr =
        t.prune value := by
  obtain ⟨function, inner, built⟩ := buildBSONObject_returns rt t exact value clean
  refine ⟨inner.asBSONObj, ?_, ?_⟩
  · simp only [buildBSONObjectWithKey, Data.build, built]
    rfl
  · rw [queryDocumentMultipleFields_attr, refDecode_serverStore rt oid t document value _ _ built,
      refDecode_build rt t wellFormed exact value _ _ built, t.kept_getD_cleared]

theorem stored_keyed (rt : SplRuntime) (lib : DriverLibrary) (t : SplType)
    (wellFormed : t.WellFormed) (exact : t.ExactLeaves) (value : t.Value)
    (clean : t.KeysClean value) (key : FieldName) :
    ∃ be, buildBSONObjectWithKey rt lib (some key.chars) (.value t value) = .ok [(key, be)] ∧
      (refDecode rt t be).getD t.cleared = t.prune value := by
  obtain ⟨function, inner, built⟩ := buildBSONObject_returns rt t exact value clean
  refine ⟨inner.appended, ?_, ?_⟩
  · rw [buildBSONObjectWithKey, Data.build, built]
    change BSONObjBuilder.append [] function key.chars inner = _
    rw [BSONObjBuilder.append, checkFieldName_chars,
      buildBSONObject_element rt t value function inner built]
    rfl
  · rw [refDecode_build rt t wellFormed exact value _ _ built, t.kept_getD_cleared]

/-- A value comes back from under its key exactly when no container in it holds an empty one. -/
theorem keyed_round_trip_iff (rt : SplRuntime) (lib : DriverLibrary) (t : SplType)
    (wellFormed : t.WellFormed) (exact : t.ExactLeaves) (value : t.Value)
    (clean : t.KeysClean value) (key : FieldName) :
    ∃ doc, buildBSONObjectWithKey rt lib (some key.chars) (.value t value) = .ok doc ∧
      ((queryDocumentField rt lib key none t doc t.cleared).attr = value ↔ t.Full value) := by
  obtain ⟨be, built, read⟩ := stored_keyed rt lib t wellFormed exact value clean key
  refine ⟨_, built, ?_⟩
  rw [queryDocumentField_attr rt lib key t _ be (by simp), read]
  exact t.prune_eq_self value

def nestedLists : SplType := .list (.list (.prim .boolean))

def sampleKey : FieldName := ⟨"k", by decide⟩

theorem keyed_round_trip_iff_nested :
    ∃ doc, buildBSONObjectWithKey SplRuntime.plain DriverLibrary.plain (some sampleKey.chars)
        (.value nestedLists [[true], [false, true]]) = .ok doc ∧
      ((queryDocumentField SplRuntime.plain DriverLibrary.plain sampleKey none nestedLists doc
        nestedLists.cleared).attr = [[true], [false, true]] ↔
          nestedLists.Full [[true], [false, true]]) :=
  keyed_round_trip_iff SplRuntime.plain DriverLibrary.plain nestedLists trivial trivial
    [[true], [false, true]] (fun _ _ _ _ => trivial) sampleKey

theorem nested_empty_list_lost :
    nestedLists.WellFormed ∧ nestedLists.ExactLeaves ∧ nestedLists.KeysClean [[]] ∧
      buildBSONObjectWithKey SplRuntime.plain DriverLibrary.plain (some sampleKey.chars)
        (.value nestedLists [[]]) = .ok [(sampleKey, .array [(indexName 0, .array [])])] ∧
      (queryDocumentField SplRuntime.plain DriverLibrary.plain sampleKey none nestedLists
        [(sampleKey, .array [(indexName 0, .array [])])] nestedLists.cleared).attr ≠ [[]] := by
  refine ⟨trivial, trivial, fun _ _ _ _ => trivial, rfl, ?_⟩
  intro same
  cases same

theorem insert_query_prunes (rt : SplRuntime) (lib : DriverLibrary) (oid : BitVec 96)
    (t : SplType) (wellFormed : t.WellFormed) (exact : t.ExactLeaves) (value : t.Value)
    (clean : t.KeysClean value) :
    (keyLess t = false → ∀ attrName : FieldName,
      ∃ doc, buildBSONObjectWithKey rt lib none (.value t value) = .ok doc ∧
        (queryDocumentMultipleFields rt lib attrName none t (serverStore oid doc)
          t.cleared).attr = t.prune value) ∧
    (∀ key : FieldName, key ≠ idName →
      ∃ doc, buildBSONObjectWithKey rt lib (some key.chars) (.value t value) = .ok doc ∧
        (queryDocumentField rt lib key none t (serverStore oid doc) t.cleared).attr =
          t.prune value) := by
  constructor
  · exact fun document attrName =>
      stored_unkeyed rt lib oid t wellFormed exact value clean document attrName
  · intro key other
    obtain ⟨be, built, read⟩ := stored_keyed rt lib t wellFormed exact value clean key
    refine ⟨_, built, ?_⟩
    rw [queryDocumentField_attr rt lib key t _ be, read]
    rw [getField_serverStore oid _ key other]
    simp

def orderAttributes : Attributes :=
  .cons ⟨"item", by decide⟩ (.prim .rstring)
    (.cons ⟨"lines", by decide⟩ (.list (.list (.prim (.int .int32)))) .nil)

def order : (SplType.tuple orderAttributes).Value := ("bolt", [[3#32], []], ())

theorem insert_query_prunes_order :
    (∃ doc, buildBSONObjectWithKey SplRuntime.plain DriverLibrary.plain none
        (.value (.tuple orderAttributes) order) = .ok doc ∧
      (queryDocumentMultipleFields SplRuntime.plain DriverLibrary.plain sampleKey none
        (.tuple orderAttributes) (serverStore 7#96 doc) orderAttributes.cleared).attr =
          (SplType.tuple orderAttributes).prune order) ∧
    (∃ doc, buildBSONObjectWithKey SplRuntime.plain DriverLibrary.plain (some sampleKey.chars)
        (.value (.tuple orderAttributes) order) = .ok doc ∧
      (queryDocumentField SplRuntime.plain DriverLibrary.plain sampleKey none
        (.tuple orderAttributes) (serverStore 7#96 doc) orderAttributes.cleared).attr =
          (SplType.tuple orderAttributes).prune order) := by
  have prunes := insert_query_prunes SplRuntime.plain DriverLibrary.plain 7#96
    (.tuple orderAttributes) ⟨by decide, trivial, trivial, trivial⟩ ⟨trivial, trivial, trivial⟩
    order ⟨trivial, fun _ _ _ _ => trivial, trivial⟩
  exact ⟨prunes.1 rfl sampleKey, prunes.2 sampleKey (by decide)⟩

end StreamsMongo
