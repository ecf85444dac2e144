import StreamsMongo.Codec.RoundTrip

set_option autoImplicit false

namespace StreamsMongo

open QueryCommon (Target)

def PrimType.ConvertedExactly : PrimType → Prop
  | .blob | .boolean | .int _ | .float64 | .enum _ _ | .rstring | .ustring | .xml => True
  | _ => False

structure SplRuntime.CastsBack (rt : SplRuntime) : Prop where
  ustring : ∀ value, rt.ustringOfString (rt.rstringOfUString value) = value
  xml : ∀ value, rt.xmlOfString (rt.rstringOfXml value) = value

theorem SplRuntime.plain_castsBack : SplRuntime.plain.CastsBack :=
  ⟨fun _ => rfl, fun _ => rfl⟩

namespace BSONCommon

theorem handlePrimitive_ok (rt : SplRuntime) (p : PrimType) (exact : p.ConvertedExactly)
    (value : p.Value) : ∃ inner, handlePrimitive rt p value = .ok inner := by
  cases p with
  | blob | boolean | int | float64 | enum | rstring | ustring | xml => exact ⟨_, rfl⟩
  | _ => exact absurd exact id

-- Binary data is not a simple type, so the outer test keeps the decoder away from it.
theorem leafValue_blob (rt : SplRuntime) (be : BSONValue) :
    QueryCommon.leafValue rt .blob be = none := by
  cases be <;> rfl

theorem leafValue_encoded (rt : SplRuntime) (casts : rt.CastsBack) (p : PrimType)
    (exact : p.ConvertedExactly) (simple : p ≠ .blob) (value : p.Value) (inner : CppValue)
    (built : handlePrimitive rt p value = .ok inner) :
    QueryCommon.leafValue rt p inner.appended = some value := by
  cases p with
  | blob => exact absurd rfl simple
  | boolean | float64 | rstring | int i | enum first rest =>
    refine leafValue_handlePrimitive rt _ ?_ value inner built
    exact trivial
  | ustring =>
    cases built
    exact congrArg some (casts.ustring value)
  | xml =>
    cases built
    exact congrArg some (casts.xml value)
  | _ => exact absurd exact id

theorem leaf_round_trip_iff (rt : SplRuntime) (casts : rt.CastsBack) (p : PrimType)
    (exact : p.ConvertedExactly) (value attr : p.Value) (b : BSONObj) (name : FieldName) :
    ∃ inner be, handlePrimitive rt p value = .ok inner ∧
      BSONObjBuilder.append b .append name.chars inner = .ok (b ++ [(name, be)]) ∧
      (QueryCommon.handlePrimitive rt p be ⟨attr, false⟩ = ⟨value, true⟩ ↔ p ≠ .blob) := by
  obtain ⟨inner, built⟩ := handlePrimitive_ok rt p exact value
  refine ⟨inner, inner.appended, built, ?_, ?_⟩
  · rw [BSONObjBuilder.append, checkFieldName_chars]
    rfl
  rw [QueryCommon.handlePrimitive_eq]
  constructor
  · intro applied isBlob
    subst isBlob
    rw [leafValue_blob] at applied
    have flags := congrArg Target.valueApplied applied
    exact Bool.false_ne_true flags
  · intro simple
    rw [leafValue_encoded rt casts p exact simple value inner built]
    rfl

theorem leaf_round_trip_iff_rstring :
    ∃ inner be, handlePrimitive .plain .rstring "a\x00b" = .ok inner ∧
      BSONObjBuilder.append [] .append "name" inner = .ok [(⟨"name", by decide⟩, be)] ∧
      (QueryCommon.handlePrimitive .plain .rstring be ⟨"", false⟩ = ⟨"a\x00b", true⟩ ↔
        PrimType.rstring ≠ .blob) :=
  leaf_round_trip_iff .plain SplRuntime.plain_castsBack .rstring trivial "a\x00b" "" []
    ⟨"name", by decide⟩

theorem blob_not_decoded :
    ¬ ∀ (rt : SplRuntime) (p : PrimType) (value attr : p.Value), rt.CastsBack →
      p.ConvertedExactly → ∃ inner, handlePrimitive rt p value = .ok inner ∧
        QueryCommon.handlePrimitive rt p inner.appended ⟨attr, false⟩ = ⟨value, true⟩ := by
  intro decoded
  obtain ⟨inner, built, applied⟩ :=
    decoded .plain .blob [0x61] [] SplRuntime.plain_castsBack trivial
  rw [QueryCommon.handlePrimitive_eq, leafValue_blob] at applied
  have flags := congrArg Target.valueApplied applied
  exact Bool.false_ne_true flags

end BSONCommon

end StreamsMongo
