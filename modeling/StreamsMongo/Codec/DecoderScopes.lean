import StreamsMongo.Codec.DecoderText
import StreamsMongo.Codec.EncoderScopes

set_option autoImplicit false

namespace StreamsMongo

open Scopes

variable {S O : Type} [DecidableEq S] [DecidableEq O]

namespace DecoderText

section Rules

variable (block inner : Block (Name S) O) (enclosing blocks : List (Block (Name S) O))

theorem ifThen_scoped (test : Test S O) (body : Body S O) (resolved : Resolved blocks test.uses)
    (runs : check ([] :: blocks) body.text = some (inner :: blocks)) :
    check blocks (Statement.ifThen test body).text = some blocks := by
  rw [Statement.text, check_mention_append _ _ _ resolved]
  exact check_block blocks inner _ runs

theorem each_scoped (it be : Name S) (origin : O) (body : Body S O) (differs : be ≠ it)
    (resolved : Resolved blocks [(be, origin)])
    (runs : check ([(it, origin)] :: blocks) body.text = some (inner :: blocks)) :
    check blocks (Statement.each (it, origin) (be, origin) body).text = some blocks := by
  have uses : Resolved ([(it, origin)] :: blocks) [(be, origin), (it, origin)] := by
    simp_all
  rw [Statement.text]
  apply check_block blocks inner
  rw [List.singleton_append, check_declare _ _ _ _ _ (by simp), check_mention_append _ _ _ uses]
  exact runs

theorem statement_scoped (first : Statement S O) (rest : Body S O)
    (runs : check blocks first.text = some blocks) :
    check blocks (Body.statement first rest).text = check blocks rest.text := by
  rw [Body.text]
  exact check_append_eq _ _ _ _ runs

theorem declare_scoped (name : Name S) (origin : O) (initializer : Initializer S O)
    (rest : Body S O) (before : Resolved (block :: enclosing) initializer.uses.1)
    (absent : name ∉ block.map Prod.fst)
    (after : Resolved (((name, origin) :: block) :: enclosing) initializer.uses.2) :
    check (block :: enclosing) (Body.declare (name, origin) initializer rest).text =
      check (((name, origin) :: block) :: enclosing) rest.text := by
  rw [Body.text, check_mention_append _ _ _ before, List.singleton_append,
    check_declare _ _ _ _ _ absent, check_mention_append _ _ _ after]

end Rules

def partNames (seq : Nat) (origin flag : O) : List (Use S O) :=
  [(.attr seq, origin), (.be seq, origin), (.valueApplied, flag)]

section Leaves

variable (seq : Nat) (origin flag : O) (blocks : List (Block (Name S) O))
  (resolved : Resolved blocks (partNames seq origin flag))

include resolved

theorem assignText_scoped :
    check blocks (assignText (.attr seq, origin) (.be seq, origin) (.valueApplied, flag)) =
      some blocks := by
  simp only [partNames, resolved_cons] at resolved
  rw [assignText, check_mention_append _ _ _ (by simp [resolved])]
  exact check_block blocks [] _ (check_mention _ _ (by simp [resolved]))

theorem leafText_scoped (p : PrimType) :
    check blocks (leafText (.attr seq, origin) (.be seq, origin) (.valueApplied, flag) origin p) =
      some blocks := by
  have assigns := assignText_scoped seq origin flag blocks resolved
  simp only [partNames, resolved_cons] at resolved
  cases p with
  | complex32 | complex64 => rfl
  | boolean | float32 | float64 | rstring | ustring | xml => exact assigns
  | int i =>
    rw [leafText, handleInt, check_append_eq _ _ _ _ assigns, check_append_eq _ _ _ _ assigns]
    exact assigns
  | enum first rest =>
    rw [leafText, handleEnum, check_mention_append _ _ _ (by simp [resolved])]
    apply check_block blocks []
    rw [check_block_append _ [] _ _ (check_mention _ _ (by simp [resolved]))]
    exact check_block _ [] _ rfl
  | blob =>
    rw [leafText, handleBlob, check_mention_append _ _ _ (by simp [resolved])]
    apply check_block blocks [(.blobData, origin), (.length, origin)]
    rw [List.cons_append, check_declare _ _ _ _ _ (by simp), List.singleton_append,
      check_declare _ _ _ _ _ (by simp)]
    exact check_mention _ _ (by simp [resolved])
  | decimal d =>
    rw [leafText, handleDecimal, check_mention_append _ _ _ (by simp [resolved])]
    apply check_block blocks [(.value, origin)]
    rw [List.singleton_append, check_declare _ _ _ _ _ (by simp)]
    exact check_mention _ _ (by simp [resolved])
  | timestamp =>
    have date : check ([] :: blocks) ([.declare .tsInMillis origin] ++
        mention [(.be seq, origin), (.attr seq, origin), (.tsInMillis, origin),
          (.tsInMillis, origin), (.valueApplied, flag)]) =
            some ([(.tsInMillis, origin)] :: blocks) := by
      rw [List.singleton_append, check_declare _ _ _ _ _ (by simp)]
      exact check_mention _ _ (by simp [resolved])
    rw [leafText, handleTimestamp, List.append_assoc,
      check_mention_append _ _ _ (by simp [resolved]), check_block_append _ _ _ _ date,
      check_mention_append _ _ _ (by simp [resolved])]
    exact check_block blocks [] _ (check_mention _ _ (by simp [resolved]))

end Leaves

section Handlers

def Scoped (handled : Statement S O) (uses : List (Use S O)) : Prop :=
  ∀ blocks : List (Block (Name S) O), Resolved blocks uses →
    check blocks handled.text = some blocks

variable (node : List Nat → O) (seq : Nat) (path : List Nat) (flag : O)

theorem handlePrimitive_scoped (p : PrimType) :
    Scoped (S := S) (handlePrimitive node p seq path flag) (partNames seq (node path) flag) := by
  intro blocks resolved
  have known := resolved
  simp only [partNames, resolved_cons] at known
  apply ifThen_scoped [(.cppExpr seq, node path)] blocks
  · simp [Test.uses, known]
  · rw [declare_scoped _ _ _ _ _ _ (by simp [Initializer.uses, known]) (by simp)
      (by simp [Initializer.uses]), statement_scoped]
    · rfl
    · exact leafText_scoped seq (node path) flag _ (by simp [partNames, known]) p

section Elements

variable (type : BSONType) (member : Use S O → Initializer S O) (key : Option (Use S O))
  (inner : Statement S O) (element : List Nat)
  (members : ∀ cppExpr, (member cppExpr).uses = ([cppExpr], []))
  (keys : ∀ u ∈ key.toList, u = (.be (seq + 1), node element))
  (innerScoped : Scoped inner (partNames (seq + 1) (node element) (node element)))

include members keys innerScoped

-- What the loop declares: its iterator, and in every round an element, its attribute and its flag.
theorem handleElement_scoped (blocks : List (Block (Name S) O))
    (resolved : Resolved blocks [(.attr seq, node path), (.cppExpr seq, node path)]) :
    check ([(.it seq, node path)] :: blocks)
        (handleElement node member key inner seq path element).text =
      some ([(.valueApplied, node element), (.be (seq + 1), node element),
        (.attr (seq + 1), node element), (.it seq, node path)] :: blocks) := by
  simp only [resolved_cons] at resolved
  have keyed : Resolved ([] :: [(.valueApplied, node element), (.be (seq + 1), node element),
      (.attr (seq + 1), node element), (.it seq, node path)] :: blocks) key.toList := by
    intro u found
    rw [keys u found]
    simp
  rw [handleElement, declare_scoped _ _ _ _ _ _ (by simp [members, resolved]) (by simp)
      (by simp [members]),
    declare_scoped _ _ _ _ _ _ (by simp [Initializer.uses]) (by simp) (by simp [Initializer.uses]),
    declare_scoped _ _ _ _ _ _ (by simp [Initializer.uses]) (by simp) (by simp [Initializer.uses]),
    statement_scoped _ _ _ (innerScoped _ (by simp [partNames])), statement_scoped]
  · rfl
  · apply ifThen_scoped []
    · simp [Test.uses]
    · rw [statement_scoped]
      · rfl
      · rw [Statement.text]
        apply check_mention
        simp [resolved, keyed]

theorem handleElements_scoped :
    Scoped (handleElements node type member key inner seq path element flag)
      (partNames seq (node path) flag) := by
  intro blocks resolved
  simp only [partNames, resolved_cons] at resolved
  apply ifThen_scoped [(.cppExpr seq, node path)] blocks
  · simp [Test.uses, resolved]
  · rw [declare_scoped _ _ _ _ _ _ (by simp [Initializer.uses, resolved]) (by simp)
      (by simp [Initializer.uses]), statement_scoped, statement_scoped]
    · rfl
    · apply ifThen_scoped []
      · simp [Test.uses, resolved]
      · rw [statement_scoped]
        · rfl
        · exact check_mention _ _ (by simp [resolved])
    · refine each_scoped _ _ _ _ _ _ (by simp) (by simp [resolved])
        (handleElement_scoped node seq path member key inner element members keys innerScoped _ ?_)
      simp [resolved]

end Elements

-- The element of an attribute's name is declared around the text for the type.
theorem withElement_scoped (handled : Statement S O) (attrName : FieldName)
    (innerScoped : Scoped handled (partNames seq (node path) flag)) :
    Scoped (withElement node (some attrName) seq path handled)
      [(.attr seq, node path), (.bo seq, node path), (.valueApplied, flag)] := by
  intro blocks resolved
  simp only [resolved_cons] at resolved
  apply ifThen_scoped [(.be seq, node path)] blocks
  · simp [Test.uses, resolved]
  · rw [declare_scoped _ _ _ _ _ _ (by simp [Initializer.uses]) (by simp)
      (by simp [Initializer.uses, resolved]), statement_scoped]
    · rfl
    · exact innerScoped _ (by simp [partNames, resolved])

end Handlers

mutual

theorem handleBSONObject_scoped (node : List Nat → O) : (t : SplType) → (seq : Nat) →
    (path : List Nat) → (flag : O) →
    Scoped (S := S) (handleBSONObject node t none seq path flag) (partNames seq (node path) flag)
  | .prim p, seq, path, flag => handlePrimitive_scoped node seq path flag p
  | .list t, seq, path, flag | .set t, seq, path, flag =>
      handleElements_scoped node seq path flag .array .valueType none _ (path ++ [0])
        (fun _ => rfl) (fun _ member => by cases member)
        (handleBSONObject_scoped node t (seq + 1) (path ++ [0]) (node (path ++ [0])))
  | .map t, seq, path, flag =>
      handleElements_scoped node seq path flag .object .mappedType _ _ (path ++ [0])
        (fun _ => rfl) (fun _ member => List.mem_singleton.mp member)
        (handleBSONObject_scoped node t (seq + 1) (path ++ [0]) (node (path ++ [0])))
  | .tuple attrs, seq, path, flag => by
      intro blocks resolved
      have known := resolved
      simp only [partNames, resolved_cons] at known
      apply ifThen_scoped []
      · simp [Test.uses, known]
      · exact handleBSONObjectAsTuple_scoped node attrs seq path flag 0 _ resolved.inside

theorem handleBSONObjectAsTuple_scoped (node : List Nat → O) : (attrs : Attributes) →
    (seq : Nat) → (path : List Nat) → (flag : O) → (i : Nat) →
    (blocks : List (Block (Name S) O)) → Resolved blocks (partNames seq (node path) flag) →
    check blocks (handleBSONObjectAsTuple node attrs seq path flag i).text = some blocks
  | .nil, seq, path, flag, i, blocks, resolved => by
      simp only [partNames, resolved_cons] at resolved
      rw [handleBSONObjectAsTuple, statement_scoped]
      · rfl
      · exact check_mention _ _ (by simp [resolved])
  | .cons name t rest, seq, path, flag, i, blocks, resolved => by
      have known := resolved
      simp only [partNames, resolved_cons] at known
      have inner := withElement_scoped node (seq + 1) (path ++ [i]) flag _ name
        (handleBSONObject_scoped node t (seq + 1) (path ++ [i]) flag)
      rw [handleBSONObjectAsTuple, statement_scoped]
      · exact handleBSONObjectAsTuple_scoped node rest seq path flag (i + 1) blocks resolved
      · apply check_block blocks
        rw [declare_scoped _ _ _ _ _ _ (by simp [Initializer.uses, known]) (by simp)
            (by simp [Initializer.uses]),
          declare_scoped _ _ _ _ _ _ (by simp [Initializer.uses]) (by simp)
            (by simp [Initializer.uses, known]),
          declare_scoped _ _ _ _ _ _ (by simp [Initializer.uses]) (by simp)
            (by simp [Initializer.uses, known]),
          handleBSONObject_named, statement_scoped _ _ _ (inner _ (by simp [known]))]
        rfl

end

section Attribute

variable (node : List Nat → O) (query : O) (attrName : FieldName) (attrNameNotInBO : Bool)
  (findPath : Option (List (Use S O)))

def attributeNames : Block (Name S) O :=
  (match findPath with
    | some _ => [(.queryResultBO, node []), (.beOf attrName, node [])]
    | none => []) ++ [(.valueApplied, node []), (.attr 0, node [])]

def objectNames : Block (Name S) O :=
  (.bo 0, node []) :: if attrNameNotInBO && findPath.isNone then [(.b 0, node [])] else []

variable (blocks : List (Block (Name S) O))
  (sources : ∀ u ∈ findPath.getD [], ∃ name, u.1 = .given name)
  (resolved : Resolved blocks ((.otuple, query) :: (.queryResultBO, query) :: findPath.getD []))

include sources resolved

theorem findText_scoped : check ([(.valueApplied, node []), (.attr 0, node [])] :: blocks)
    (findText node query attrName findPath) =
      some (attributeNames node attrName findPath :: blocks) := by
  cases findPath with
  | none => rfl
  | some path =>
    simp only [Option.getD_some, resolved_cons] at resolved sources
    have later : Resolved ([(.beOf attrName, node []), (.valueApplied, node []),
        (.attr 0, node [])] :: blocks) path := by
      refine resolved.2.2.inside.past blocks [_, _, _] [] path ?_
      intro u member
      obtain ⟨name, same⟩ := sources u member
      simp [same]
    rw [findText, List.singleton_append, check_declare _ _ _ _ _ (by simp),
      check_mention_append _ _ _ (by simp [resolved, later]),
      check_mention_append _ _ _ (by simp), List.singleton_append,
      check_declare _ _ _ _ _ (by simp)]
    exact check_mention _ _ (by simp)

omit sources in
theorem objectText_scoped : check (attributeNames node attrName findPath :: blocks)
    (objectText node query attrName attrNameNotInBO findPath) =
      some ((objectNames node attrNameNotInBO findPath ++ attributeNames node attrName findPath) ::
        blocks) := by
  simp only [resolved_cons] at resolved
  cases attrNameNotInBO with
  | false =>
    cases findPath with
    | none =>
      rw [objectText, List.singleton_append, check_declare _ _ _ _ _ (by simp [attributeNames])]
      exact check_mention _ _ (by simp [attributeNames, resolved])
    | some path =>
      rw [objectText, List.singleton_append, check_declare _ _ _ _ _ (by simp [attributeNames])]
      exact check_mention _ _ (by simp [attributeNames])
  | true =>
    cases findPath with
    | none =>
      rw [objectText, List.singleton_append, check_declare _ _ _ _ _ (by simp [attributeNames]),
        check_mention_append _ _ _ (by simp [attributeNames, resolved]), List.singleton_append,
        check_declare _ _ _ _ _ (by simp [attributeNames])]
      exact check_mention _ _ (by simp [attributeNames])
    | some path =>
      rw [objectText, List.singleton_append, check_declare _ _ _ _ _ (by simp [attributeNames])]
      exact check_mention _ _ (by simp [attributeNames])

theorem attributeText_scoped (t : SplType) :
    check blocks (attributeText node query attrName attrNameNotInBO findPath t) = some blocks := by
  have opened : attributeText node query attrName attrNameNotInBO findPath t =
      block ([.declare (.attr 0) (node [])] ++ (mention [(.otuple, query)] ++
        ([.declare .valueApplied (node [])] ++ (findText node query attrName findPath ++
          (objectText node query attrName attrNameNotInBO findPath ++
            (handleBSONObject node t (some attrName) 0 [] (node [])).text))))) := by
    simp [attributeText, initBSONObject, endBSONObject, block]
  have found := findText_scoped node query attrName findPath blocks sources resolved
  have wrapped := objectText_scoped node query attrName attrNameNotInBO findPath blocks resolved
  have handled := withElement_scoped (S := S) node 0 [] (node []) _ attrName
    (handleBSONObject_scoped node t 0 [] (node []))
  simp only [resolved_cons] at resolved
  rw [opened]
  apply check_block blocks
    (objectNames node attrNameNotInBO findPath ++ attributeNames node attrName findPath)
  rw [List.singleton_append, check_declare _ _ _ _ _ (by simp),
    check_mention_append _ _ _ (by simp [resolved]), List.singleton_append,
    check_declare _ _ _ _ _ (by simp), check_append_eq _ _ _ _ found,
    check_append_eq _ _ _ _ wrapped, handleBSONObject_named]
  apply handled
  cases attrNameNotInBO <;> cases findPath <;> simp [objectNames, attributeNames]

end Attribute

end DecoderText

/-- Every use of a name means the declaration made for its part of the type. -/
theorem generated_text_hygienic (node : List Nat → O) :
    (∀ (t : SplType) (cppExpr : EncoderText.Uses S O) (seq : Nat) (path : List Nat)
        (block : Block (EncoderText.Name S) O) (enclosing : List (Block (EncoderText.Name S) O)),
      (∀ u ∈ cppExpr, ∃ name, u.1 = .given name) → (∀ d ∈ block, ∃ name, d.1 = .given name) →
      Resolved (block :: enclosing) cppExpr →
      ∃ added, check (block :: enclosing) (EncoderText.buildBSONObject node t cppExpr seq path).1 =
          some ((added ++ block) :: enclosing) ∧
        Resolved ((added ++ block) :: enclosing)
          (EncoderText.buildBSONObject node t cppExpr seq path).2) ∧
    (∀ (attrName : Option (EncoderText.Uses S O)) (splType : Option SplType)
        (cppExpr : EncoderText.Uses S O) (block : Block (EncoderText.Name S) O)
        (enclosing : List (Block (EncoderText.Name S) O)),
      (∀ u ∈ attrName.getD [] ++ cppExpr, ∃ name, u.1 = .given name) →
      (∀ d ∈ block, ∃ name, d.1 = .given name) →
      Resolved (block :: enclosing) (attrName.getD [] ++ cppExpr) →
      ∃ added, check (block :: enclosing)
          (EncoderText.buildBSONObjectWithKey node attrName splType cppExpr) =
        some (((.bsonObj, node []) :: (added ++ block)) :: enclosing)) ∧
    (∀ (t : SplType) (query : O) (attrName : FieldName) (attrNameNotInBO : Bool)
        (findPath : Option (List (DecoderText.Use S O)))
        (blocks : List (Block (DecoderText.Name S) O)),
      (∀ u ∈ findPath.getD [], ∃ name, u.1 = .given name) →
      Resolved blocks ((.otuple, query) :: (.queryResultBO, query) :: findPath.getD []) →
      check blocks (DecoderText.attributeText node query attrName attrNameNotInBO findPath t) =
        some blocks) := by
  have below : ∀ (name : EncoderText.Name S) (seq : Nat), (∃ source, name = .given source) →
      name.Below seq := by
    intro name seq given
    obtain ⟨source, rfl⟩ := given
    trivial
  refine ⟨?_, ?_, ?_⟩
  · intro t cppExpr seq path block enclosing sources empty resolved
    obtain ⟨added, runs, _, _, handed⟩ := EncoderText.buildBSONObject_scoped node t cppExpr seq path
      block enclosing (fun d member => below d.1 seq (empty d member))
      (fun u member => below u.1 seq (sources u member)) resolved
    exact ⟨added, runs, handed⟩
  · intro attrName splType cppExpr block enclosing sources empty resolved
    obtain ⟨added, runs, _⟩ := EncoderText.buildBSONObjectWithKey_scoped node splType cppExpr block
      enclosing attrName (fun d member => below d.1 0 (empty d member))
      (fun u member => below u.1 0 (sources u member)) resolved
    exact ⟨added, runs⟩
  · intro t query attrName attrNameNotInBO findPath blocks sources resolved
    exact DecoderText.attributeText_scoped node query attrName attrNameNotInBO findPath blocks
      sources resolved t

def sampleAttribute : FieldName := ⟨"entries", by decide⟩

def alternatingType (name : FieldName) : SplType :=
  .map (.list (.tuple (.cons name (.set (.tuple (.cons name (.prim .blob) .nil))) .nil)))

theorem generated_text_hygienic_alternating :
    (∃ added, check [[(.given (), none)]]
        (EncoderText.buildBSONObject some (alternatingType sampleAttribute) [(.given (), none)] 0
          []).1 = some [added ++ [(.given (), none)]] ∧
      Resolved [added ++ [(.given (), none)]] [(EncoderText.Name.b 0, some [])]) ∧
    (∃ added, check [[(.given (), none)]]
        (EncoderText.buildBSONObjectWithKey some (some [(.given (), none)])
          (some (alternatingType sampleAttribute)) [(.given (), none)]) =
      some [(.bsonObj, some []) :: (added ++ [(.given (), none)])]) ∧
    check [[(.otuple, none), (.queryResultBO, none), (.given (), none)]]
        (DecoderText.attributeText some none sampleAttribute true (some [(.given (), none)])
          (alternatingType sampleAttribute)) =
      some [[(.otuple, none), (.queryResultBO, none), (.given (), none)]] :=
  have hygienic := generated_text_hygienic (S := Unit) (some : List Nat → Option (List Nat))
  ⟨hygienic.1 (alternatingType sampleAttribute) [(.given (), none)] 0 [] [(.given (), none)] []
      (by simp) (by simp) (by simp),
    hygienic.2.1 (some [(.given (), none)]) (some (alternatingType sampleAttribute))
      [(.given (), none)] [(.given (), none)] [] (by simp) (by simp) (by simp),
    hygienic.2.2 (alternatingType sampleAttribute) none sampleAttribute true
      (some [(.given (), none)]) _ (by simp) (by simp)⟩

end StreamsMongo
