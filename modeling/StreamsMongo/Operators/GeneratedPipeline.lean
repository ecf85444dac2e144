import StreamsMongo.Codec.EncoderRefinement
import StreamsMongo.Operators.DocumentText
import StreamsMongo.Operators.Pipeline

set_option autoImplicit false

namespace StreamsMongo

open Lenses

section Insert

open BSONCommon

variable (rt : SplRuntime) (lib : DriverLibrary)

theorem buildBSONObjectWithKey_settles (t : SplType) (supported : t.Supported) (value : t.Value)
    (key : Option String) :
    Loops.Settles (t.KeysClean value ∧ ∀ name, key = some name → nul ∉ name.toList) nulInName
      (buildBSONObjectWithKey rt lib key (.value t value)) := by
  have element := buildBSONObject_settles rt t supported value
  cases key with
  | none => exact (element.bind fun _ => Loops.Settles.ok nulInName _).congr (by simp)
  | some name =>
    exact (element.bind fun made => BSONObjBuilder.append_settles [] made.1 name made.2).congr
      (by simp)

end Insert

section Query

open DecoderText Query

variable {S O I M : Type} (rt : SplRuntime) (lib : DriverLibrary)

-- What a reader of the attributes makes of a document, by the text printed for it.
def Reads [DecidableEq S] (fresh : (p : PrimType) → p.Value) (node : Nat → List Nat → O)
    (query : O) (attrs : Attributes) (queryResultBO : BSONObj) (read : attrs.Value) : Prop :=
  ∀ (tuple : I) (env : Env S M) (otuple : Lens M attrs.Value) (m : M),
    env .otuple = some (.variable (.tuple attrs) otuple) →
    env .queryResultBO = some (.object queryResultBO) → otuple.get m = attrs.cleared →
    (documentProgram node query (fun _ => []) (Schema.fields attrs) 0).foldlM
        (fun m reading => reading.exec rt lib fresh tuple env m) m = some (otuple.put m read)

theorem stored_reads [DecidableEq S] (fresh : (p : PrimType) → p.Value)
    (node : Nat → List Nat → O) (query : O) (attrs : Attributes) (oid : BitVec 96)
    (insertion : Insertion) (accepted : insertion.Accepted) (doc : BSONObj)
    (built : insertion.build rt lib = .ok doc) :
    Reads (S := S) (I := I) (M := M) rt lib fresh node query attrs (serverStore oid doc)
      (attrs.collect rt (insertion.field rt)) := by
  intro tuple env otuple m tupleKnown result empty
  have cleared := inputDerived_cleared (Schema.fields attrs) tuple attrs.cleared
    (fields_inputDerived attrs tuple)
  have runs := documentProgram_exec rt lib fresh tuple node query (fun _ => [])
    (serverStore oid doc) tupleKnown result (Schema.fields attrs) 0 Lens.whole attrs.from_start m
  have stored := getField_stored rt lib oid insertion accepted doc built
  rw [Lens.comp_whole, empty, decodeDocument_cleared rt lib _ tuple _ _ cleared,
    fields_overlay rt lib (insertion.field rt) _ stored attrs tuple] at runs
  exact runs

end Query

section Generated

variable {S O N P I M : Type} [DecidableEq S] [DecidableEq N] (rt : SplRuntime)
  (lib : DriverLibrary) (call : EncoderText.Call S O) (t : SplType) (value : t.Value)

def CleanCall : Prop :=
  t.KeysClean value ∧ ∀ key, call.key = some key → nul ∉ key.1.toList

/-- The text raises for a name with a null byte and for nothing else. -/
theorem generated_text_converts (data : call.data = .value t value) (wellFormed : t.WellFormed)
    (insertNode : List Nat → O) (env : EncoderText.Env S) (inScope : call.InScope env)
    (fresh : (p : PrimType) → p.Value) (queryNode : Nat → List Nat → P) (query : P) :
    let run := (call.text insertNode).exec rt lib call.source env
    let insertion : Insertion := ⟨call.key.map Prod.fst, t, value⟩
    (¬ CleanCall call t value → run = .error (.raised nulInName)) ∧
    (CleanCall call t value → ∃ inside doc, run = .ok ⟨inside, env⟩ ∧
      inside .bsonObj = some (.bsonObj doc) ∧
      ∀ (oid : BitVec 96) (attrs : Attributes),
        Reads (S := N) (I := I) (M := M) rt lib fresh queryNode query attrs
          (serverStore oid doc) (attrs.collect rt (insertion.field rt))) := by
  intro run insertion
  have yields : EncoderText.Yields env (insertion.build rt lib) run := by
    have made := (call.text_yields rt lib insertNode env inScope).2
    rw [data] at made
    exact made
  have settles : Loops.Settles (CleanCall call t value) nulInName (insertion.build rt lib) := by
    refine (buildBSONObjectWithKey_settles rt lib t (call.supported t value data) value _).congr ?_
    simp [CleanCall, insertion]
  constructor
  · intro unclean
    rw [settles.raises unclean] at yields
    exact yields
  · intro clean
    obtain ⟨doc, built⟩ := settles.returns clean
    rw [built] at yields
    obtain ⟨inside, ran, bound, _⟩ := yields
    have accepted : insertion.Accepted :=
      ⟨wellFormed, fun noKey => call.keyed (Option.map_eq_none_iff.mp noKey) t value data⟩
    exact ⟨inside, doc, ran, bound, fun oid attrs =>
      stored_reads rt lib fresh queryNode query attrs oid insertion accepted doc built⟩

end Generated

def orderCall : EncoderText.Call Unit Unit where
  data := .value (.tuple orderAttributes) order
  cppExpr := [((), ())]
  key := none
  supported t value same := by
    cases same
    exact order_supported
  keyed _ t value same := by
    cases same
    rfl

def tupleEnv (attrs : Attributes) (queryResultBO : BSONObj) : DecoderText.Env Unit attrs.Value
  | .otuple => some (.variable (.tuple attrs) Lens.whole)
  | .queryResultBO => some (.object queryResultBO)
  | _ => none

theorem generated_text_converts_orders :
    ∃ inside doc, (orderCall.text (fun _ => ())).exec .plain .plain orderCall.source
        EncoderText.nestedEnv = .ok ⟨inside, EncoderText.nestedEnv⟩ ∧
      inside .bsonObj = some (.bsonObj doc) ∧
      (Query.documentProgram (fun _ _ => ()) () (fun _ => [])
          (Query.Schema.fields stockAttributes : Query.Schema Unit stockAttributes) 0).foldlM
        (fun m reading => reading.exec .plain .plain PrimType.cleared ()
          (tupleEnv stockAttributes (serverStore 9#96 doc)) m) stockAttributes.cleared =
        some (stockAttributes.collect .plain
          ((Insertion.mk none ⟨.tuple orderAttributes, order⟩).field .plain)) := by
  have converts := generated_text_converts (N := Unit) (P := Unit) (I := Unit)
    (M := stockAttributes.Value) .plain .plain orderCall (.tuple orderAttributes) order rfl
    ⟨by decide, trivial, trivial, trivial⟩ (fun _ => ()) EncoderText.nestedEnv ⟨rfl, nofun⟩
    PrimType.cleared (fun _ _ => ()) ()
  obtain ⟨inside, doc, ran, bound, reads⟩ := converts.2 ⟨⟨trivial, fun _ _ _ _ => trivial, trivial⟩,
    nofun⟩
  exact ⟨inside, doc, ran, bound, reads 9#96 stockAttributes ()
    (tupleEnv stockAttributes (serverStore 9#96 doc)) Lens.whole stockAttributes.cleared rfl rfl
    rfl⟩

end StreamsMongo
