import StreamsMongo.Codec.EncoderScopes
import StreamsMongo.Operators.WriteRuns
import StreamsMongo.Operators.WriteText

set_option autoImplicit false

namespace StreamsMongo.Write

open Scopes

variable {n : Nat}

def parameters : Block Name (Origin n) := [ofProcess .port, ofProcess .tuple]

def members : Operator → Block Name (Origin n)
  | .insert => [ofMember .metric]
  | .update | .delete => [ofMember .metric, ofMember .findQueryBOMember]

def Template.WellScoped {Ext Tup : Type} {op : Operator} (getCppTupleName : Nat → String)
    (template : Template Ext Tup op n) : Prop :=
  ∃ block, check [parameters, members op] (processText getCppTupleName template) =
    some [block, members op]

section Context

-- What every assignment may use without having declared it.
def context (op : Operator) (numberOfInputPorts : Nat) : Uses n :=
  [ofProcess .tuple, ofProcess .port, ofProcess .otuplePtr, ofProcess .errorFound] ++
    (members op ++ (List.range numberOfInputPorts).map fun i => ofProcess (.iport i))

def Local : Name → Prop
  | .given .findQueryBO | .given .connPtr | .given .errorMsg => True
  | .given _ => False
  | _ => True

variable (op : Operator) (numberOfInputPorts : Nat)

theorem context_foreign (u : Name × Origin n) (member : u ∈ context op numberOfInputPorts) :
    ¬ Local u.1 := by
  simp only [context, List.mem_append, List.mem_cons, List.not_mem_nil, or_false, List.mem_map]
    at member
  rcases member with (rfl | rfl | rfl | rfl) | member | ⟨i, _, rfl⟩
  · exact id
  · exact id
  · exact id
  · exact id
  · cases op with
    | insert =>
      rw [List.mem_singleton.mp member]
      exact id
    | update | delete => rcases List.mem_pair.mp member with rfl | rfl <;> exact id
  · exact id

theorem context_past (added block : Block Name (Origin n))
    (enclosing : List (Block Name (Origin n))) (declares : ∀ d ∈ added, Local d.1)
    (resolved : Resolved (block :: enclosing) (context op numberOfInputPorts)) :
    Resolved ((added ++ block) :: enclosing) (context op numberOfInputPorts) := by
  refine resolved.past enclosing added block _ ?_
  intro u member same
  obtain ⟨d, declared, named⟩ := List.mem_map.mp same
  have here := declares d declared
  rw [named] at here
  exact context_foreign op numberOfInputPorts u member here

theorem shared_context : ∀ u ∈ [ofMember .metric, ofProcess .otuplePtr, ofProcess .errorFound,
    ofProcess .tuple, ofProcess .port], u ∈ (context op numberOfInputPorts : Uses n) := by
  intro u member
  simp only [List.mem_cons, List.not_mem_nil, or_false] at member
  rcases member with rfl | rfl | rfl | rfl | rfl <;> cases op <;> simp [context, members]

theorem printed_context (fragments : List Fragment)
    (known : ∀ port ∈ readPorts fragments, port < numberOfInputPorts) :
    ∀ u ∈ (printed fragments : Uses n), u ∈ context op numberOfInputPorts := by
  intro u member
  obtain ⟨port, read, rfl⟩ := List.mem_map.mp member
  simp only [context, List.mem_append, List.mem_map, List.mem_range]
  exact Or.inr (Or.inr ⟨port, known port read, rfl⟩)

end Context

section Request

theorem branches_scoped (i : Fin n) (blocks : List (Block Name (Origin n)))
    (known : Resolved blocks ([ofMember .metric, ofProcess .otuplePtr, ofProcess .errorFound,
      ofProcess .tuple, ofProcess .port] ++
        [ofAssignment i .connPtr, ofAssignment i .errorMsg])) :
    check blocks (block (mention [ofMember .metric]) ++
      block (mention [ofProcess .errorFound, ofAssignment i .errorMsg, ofProcess .otuplePtr] ++
        (block (mention [ofProcess .otuplePtr]) ++
          mention [ofProcess .otuplePtr, ofAssignment i .errorMsg]))) = some blocks := by
  have counted : Resolved blocks [ofMember .metric] :=
    Resolved.of_subset _ _ _ known (by simp)
  have created : Resolved blocks [ofProcess .otuplePtr] :=
    Resolved.of_subset _ _ _ known (by simp)
  have tested : Resolved blocks
      [ofProcess .errorFound, ofAssignment i .errorMsg, ofProcess .otuplePtr] :=
    Resolved.of_subset _ _ _ known (by simp)
  have assigned : Resolved blocks [ofProcess .otuplePtr, ofAssignment i .errorMsg] :=
    Resolved.of_subset _ _ _ known (by simp)
  rw [check_block_append blocks [] _ _ (check_mention _ _ (counted.inside _ _))]
  refine check_block blocks [] _ ?_
  rw [check_mention_append _ _ _ (tested.inside _ _),
    check_block_append _ [] _ _ (check_mention _ _ (created.inside _ _).inside)]
  exact check_mention _ _ (assigned.inside _ _)

variable (op : Operator) (numberOfInputPorts : Nat) (i : Fin n)
  (block : Block Name (Origin n)) (enclosing : List (Block Name (Origin n)))

theorem declareFor_scoped (name : Variable) (rest : Text n)
    (absent : .given name ∉ block.map Prod.fst) :
    check (block :: enclosing) (declareFor i name ++ rest) =
      check ((ofAssignment i name :: block) :: enclosing) rest :=
  check_declare enclosing block (.given name) (.assignment i []) rest absent

variable (resolved : Resolved (block :: enclosing) (context op numberOfInputPorts))
  (db collection : List Fragment) (dbKnown : ∀ port ∈ readPorts db, port < numberOfInputPorts)

include resolved

theorem context_declared (name : Variable) (isLocal : Local (.given name)) :
    Resolved ((ofAssignment i name :: block) :: enclosing) (context op numberOfInputPorts) :=
  context_past op numberOfInputPorts [ofAssignment i name] block enclosing (by
    intro d member
    rw [List.mem_singleton.mp member]
    exact isLocal) resolved

theorem printed_resolved (fragments : List Fragment)
    (known : ∀ port ∈ readPorts fragments, port < numberOfInputPorts) :
    Resolved (block :: enclosing) (printed fragments) :=
  Resolved.of_subset _ _ _ resolved (printed_context op numberOfInputPorts fragments known)

include dbKnown

theorem connectText_scoped (absent : .given .connPtr ∉ block.map Prod.fst) :
    check (block :: enclosing) (connectText i db) =
      some ((ofAssignment i .connPtr :: block) :: enclosing) := by
  have declared := context_declared op numberOfInputPorts i block enclosing resolved .connPtr
    trivial
  have database := printed_resolved op numberOfInputPorts _ enclosing declared db dbKnown
  have connection : Resolved ((ofAssignment i .connPtr :: block) :: enclosing)
      [ofAssignment i .connPtr] := by
    simp [ofAssignment]
  -- The branches declare nothing.
  have inside : ∀ blocks : List (Block Name (Origin n)), Resolved blocks [ofAssignment i .connPtr] →
      check blocks (Scopes.block (Scopes.block (mention [ofAssignment i .connPtr]) ++
        Scopes.block [])) = some blocks := by
    intro blocks connection
    refine check_block blocks [] _ ?_
    have first := check_mention _ _ (connection.inside _ _).inside
    rw [check_block_append _ [] _ _ first]
    exact check_block _ [] _ rfl
  rw [connectText, declareFor_scoped i block enclosing .connPtr _ absent,
    check_mention_append _ _ _ database, check_mention_append _ _ _ connection]
  exact inside _ connection

omit dbKnown

theorem resultText_scoped (absent : .given .errorMsg ∉ block.map Prod.fst)
    (connection : Resolved (block :: enclosing) [ofAssignment i .connPtr]) :
    check (block :: enclosing) (resultText i) =
      some ((ofAssignment i .errorMsg :: block) :: enclosing) := by
  have declared := context_declared op numberOfInputPorts i block enclosing resolved .errorMsg
    trivial
  have shared := Resolved.of_subset _ _ _ declared (shared_context op numberOfInputPorts)
  have message : Resolved ((ofAssignment i .errorMsg :: block) :: enclosing)
      [ofAssignment i .connPtr, ofAssignment i .errorMsg] := by
    simpa [ofAssignment] using connection
  rw [resultText, declareFor_scoped i block enclosing .errorMsg _ absent,
    check_mention_append _ _ _ message]
  exact branches_scoped i _ ((resolved_append _ _ _).mpr ⟨shared, message⟩)

theorem requestText_scoped (documents : Uses n)
    (noConnection : .given .connPtr ∉ block.map Prod.fst)
    (noMessage : .given .errorMsg ∉ block.map Prod.fst)
    (dbKnown : ∀ port ∈ readPorts db, port < numberOfInputPorts)
    (collectionKnown : ∀ port ∈ readPorts collection, port < numberOfInputPorts)
    (handed : Resolved (block :: enclosing) documents)
    (apart : ∀ u ∈ documents, u.1 ≠ .given .connPtr) :
    check (block :: enclosing) (requestText .off i db collection documents) =
      some ((ofAssignment i .errorMsg :: ofAssignment i .connPtr :: block) :: enclosing) := by
  have connects := connectText_scoped op numberOfInputPorts i block enclosing resolved db dbKnown
    noConnection
  have declared := context_declared op numberOfInputPorts i block enclosing resolved .connPtr
    trivial
  have connection : Resolved ((ofAssignment i .connPtr :: block) :: enclosing)
      [ofAssignment i .connPtr] := by
    simp [ofAssignment]
  have passed : Resolved ((ofAssignment i .connPtr :: block) :: enclosing) documents :=
    handed.past enclosing [ofAssignment i .connPtr] block _ (by
      intro u member same
      exact apart u member (List.mem_singleton.mp same))
  have arguments : Resolved ((ofAssignment i .connPtr :: block) :: enclosing)
      (ofAssignment i .connPtr :: (printed db ++ printed collection ++ documents)) := by
    refine (resolved_append _ [ofAssignment i .connPtr] _).mpr ⟨connection, ?_⟩
    refine (resolved_append _ _ _).mpr ⟨(resolved_append _ _ _).mpr ⟨?_, ?_⟩, passed⟩
    · exact printed_resolved op numberOfInputPorts _ enclosing declared db dbKnown
    · exact printed_resolved op numberOfInputPorts _ enclosing declared collection collectionKnown
  rw [requestText, check_append_eq _ _ _ _ connects, profilingText, Profiling.level,
    List.nil_append, check_mention_append _ _ _ arguments]
  exact resultText_scoped op numberOfInputPorts i _ enclosing declared
    (by simpa [ofAssignment] using noMessage) connection

end Request

section Operations

variable {Ext Tup In : Type} (op : Operator) (numberOfInputPorts : Nat) (i : Fin n)
  (blocks : List (Block Name (Origin n)))
  (resolved : Resolved blocks (context op numberOfInputPorts))

theorem findQueryText_scoped (findQuery : Option (FindParameter Ext Tup)) (keeps : op ≠ .insert)
    (block : Block Name (Origin n)) (enclosing : List (Block Name (Origin n)))
    (resolved : Resolved (block :: enclosing) (context op numberOfInputPorts))
    (absent : .given .findQueryBO ∉ block.map Prod.fst) :
    check (block :: enclosing) (findQueryText findQuery i) =
      some ((ofAssignment i .findQueryBO :: block) :: enclosing) := by
  have declared := context_declared op numberOfInputPorts i block enclosing resolved .findQueryBO
    trivial
  have built : Resolved ((ofAssignment i .findQueryBO :: block) :: enclosing)
      [ofProcess .tuple] :=
    Resolved.of_subset _ _ _ declared (by simp [context])
  have stored : Resolved ((ofAssignment i .findQueryBO :: block) :: enclosing)
      [ofMember .findQueryBOMember] := by
    refine Resolved.of_subset _ _ _ declared ?_
    cases op with
    | insert => exact absurd rfl keeps
    | update | delete => simp [context, members]
  refine (declareFor_scoped i block enclosing .findQueryBO _ absent).trans ?_
  cases findQuery with
  | none => exact check_mention _ _ stored
  | some expr =>
    by_cases streams : hasStreamAttributes expr.fragments = true
    · simp only [streams, if_true]
      exact check_mention _ _ built
    · simp only [streams]
      exact check_mention _ _ stored

theorem local_of_seq (name : Name) (numbered : name.seq?.isSome = true) : Local name := by
  cases name with
  | given name => cases numbered
  | b seq | cppExpr seq | values seq | value seq | tupleData seq | bsonObj => trivial

theorem printed_below (fragments : List Fragment) :
    ∀ u ∈ (printed fragments : Uses n), u.1.Below 0 := by
  intro u member
  obtain ⟨port, _, rfl⟩ := List.mem_map.mp member
  trivial

theorem sources_context (args : WriteArguments In)
    (known : ∀ port ∈ readPorts args.fragments, port < numberOfInputPorts) :
    ∀ u ∈ (args.key.map fun key => printed key.fragments).getD [] ++
      (printed args.data.fragments : Uses n), u ∈ context op numberOfInputPorts ∧ u.1.Below 0 := by
  simp only [WriteArguments.fragments, readPorts, List.filterMap_append, List.mem_append] at known
  have printedKnown (fragments : List Fragment)
      (each : ∀ port ∈ readPorts fragments, port < numberOfInputPorts) (u : Name × Origin n)
      (member : u ∈ printed fragments) : u ∈ context op numberOfInputPorts ∧ u.1.Below 0 :=
    ⟨printed_context op numberOfInputPorts fragments each u member,
      printed_below fragments u member⟩
  intro u member
  rcases List.mem_append.mp member with key | data
  · cases given : args.key with
    | none =>
      rw [given] at key
      cases key
    | some expr =>
      rw [given] at key known
      refine printedKnown expr.fragments (fun port read => known port (Or.inl (Or.inr ?_))) u key
      rwa [Option.toList_some, List.flatMap_singleton]
  · exact printedKnown args.data.fragments (fun port read => known port (Or.inr read)) u data

include resolved

theorem document_scoped (args : WriteArguments In)
    (known : ∀ port ∈ readPorts args.fragments, port < numberOfInputPorts) :
    ∃ block, check ([] :: blocks) (args.text i) = some (block :: blocks) ∧
      Resolved (block :: blocks) [(.bsonObj, .assignment i [])] ∧
      Resolved (block :: blocks) (context op numberOfInputPorts) ∧
      ∀ name, .given name ∉ block.map Prod.fst := by
  have sources := sources_context (n := n) op numberOfInputPorts args known
  obtain ⟨added, runs, levels⟩ := EncoderText.buildBSONObjectWithKey_scoped (.assignment i)
    args.data.splType (printed args.data.fragments) [] blocks
    (args.key.map fun key => printed key.fragments) (by simp)
    (fun u member => (sources u member).2)
    (Resolved.of_subset _ _ _ (resolved.inside _ _) fun u member => (sources u member).1)
  rw [List.append_nil] at runs
  have locals : ∀ d ∈ (.bsonObj, .assignment i []) :: added, Local d.1 := by
    intro d member
    rcases List.mem_cons.mp member with rfl | member
    · trivial
    · exact local_of_seq d.1 (levels d member)
  refine ⟨(.bsonObj, .assignment i []) :: added, runs, by simp, ?_, ?_⟩
  · have past := context_past op numberOfInputPorts _ [] blocks locals (resolved.inside _ _)
    rwa [List.append_nil] at past
  · intro name member
    rcases List.mem_cons.mp member with same | member
    · cases same
    · obtain ⟨d, declared, same⟩ := List.mem_map.mp member
      have numbered := levels d declared
      rw [same] at numbered
      cases numbered

theorem guardText_scoped (guard : Option Int) (rest : Text n) :
    check blocks (guardText guard ++ rest) = check blocks rest := by
  cases guard with
  | none => rfl
  | some port =>
    exact check_mention_append _ _ _
      (Resolved.of_subset _ _ _ resolved (by simp [context]))

end Operations

section Assignments

variable {Ext Tup : Type} {op : Operator} (getCppTupleName : Nat → String)
  (template : Template Ext Tup op n) (i : Fin n)

theorem arguments_known {In : Type} (args : WriteArguments In) (numberOfInputPorts : Nat)
    (known : ∀ port ∈ readPorts args.fragments, port < numberOfInputPorts) :
    (∀ port ∈ readPorts args.db.fragments, port < numberOfInputPorts) ∧
      ∀ port ∈ readPorts args.collection.fragments, port < numberOfInputPorts := by
  simp only [WriteArguments.fragments, readPorts, List.filterMap_append, List.mem_append]
    at known ⊢
  exact ⟨fun port read => known port (Or.inl (Or.inl (Or.inl read))),
    fun port read => known port (Or.inl (Or.inl (Or.inr read)))⟩

-- With braces around it, the text of an operation declares nothing outside of them.
theorem bracedText_scoped (braces : op ≠ .delete) (off : template.profiling = .off)
    (blocks : List (Block Name (Origin n)))
    (resolved : Resolved blocks (context op template.numberOfInputPorts))
    (call : Operation (Arrival Ext Tup) op)
    (known : ∀ port ∈ readPorts call.fragments, port < template.numberOfInputPorts) :
    check blocks (call.text getCppTupleName template i) = some blocks := by
  cases call with
  | insertDocument args =>
    obtain ⟨block, runs, document, inner, fresh⟩ :=
      document_scoped .insert template.numberOfInputPorts i blocks resolved args known
    have parts := arguments_known args _ known
    have request := requestText_scoped .insert template.numberOfInputPorts i block blocks inner
      args.db.fragments args.collection.fragments _ (fresh _) (fresh _) parts.1
      parts.2 document (by simp)
    rw [Operation.text, off, guardText_scoped .insert _ blocks resolved]
    exact check_block blocks _ _ ((check_append_eq _ _ _ _ runs).trans request)
  | updateDocument function args =>
    obtain ⟨block, runs, document, inner, fresh⟩ :=
      document_scoped .update template.numberOfInputPorts i blocks resolved args known
    have parts := arguments_known args _ known
    have query := findQueryText_scoped .update template.numberOfInputPorts i template.findQuery
      (by decide) block blocks inner (fresh _)
    have declared := context_declared .update template.numberOfInputPorts i block blocks inner
      .findQueryBO trivial
    have handed : Resolved ((ofAssignment i .findQueryBO :: block) :: blocks)
        [ofAssignment i .findQueryBO, (.bsonObj, .assignment i [])] := by
      simpa [ofAssignment] using document
    have request := requestText_scoped .update template.numberOfInputPorts i _ blocks declared
      args.db.fragments args.collection.fragments _
      (by simpa [ofAssignment] using fresh .connPtr) (by simpa [ofAssignment] using fresh .errorMsg)
      parts.1 parts.2 handed (by simp [ofAssignment])
    rw [Operation.text, off, guardText_scoped .update _ blocks resolved]
    have queried := (check_append_eq _ _ _ _ query).trans request
    exact check_block blocks _ _ ((check_append_eq _ _ _ _ runs).trans queried)
  | removeDocument function db collection => exact absurd rfl braces

theorem emitted_operation {t : SplType} (assignment : Assignment (Arrival Ext Tup) op t)
    (call : Operation (Arrival Ext Tup) op) (isCall : assignment.operation? = some call) :
    assignment.emitted getCppTupleName template i = call.text getCppTupleName template i := by
  cases assignment with
  | unassigned | asIs init => cases isCall
  | operation other =>
    cases isCall
    rfl

theorem emitted_scoped (blocks : List (Block Name (Origin n)))
    (resolved : Resolved blocks (context op template.numberOfInputPorts))
    (runs : ∀ call, (template.assignment i).operation? = some call →
      check blocks (call.text getCppTupleName template i) = some blocks) :
    check blocks ((template.assignment i).emitted getCppTupleName template i) = some blocks := by
  have known := template.initPortsExist i
  generalize template.assignment i = assignment at runs
  generalize template.attributes i = t at assignment
  cases assignment with
  | unassigned => rfl
  | asIs init =>
    refine check_mention _ _ ((resolved_append _ [ofProcess .otuplePtr] _).mpr ⟨?_, ?_⟩)
    · exact Resolved.of_subset _ _ _ resolved (by simp [context])
    · exact Resolved.of_subset _ _ _ resolved (printed_context op _ _ known)
  | operation call => exact runs call rfl

theorem assignments_scoped (blocks : List (Block Name (Origin n)))
    (resolved : Resolved blocks (context op template.numberOfInputPorts))
    (runs : ∀ i call, (template.assignment i).operation? = some call →
      check blocks (call.text getCppTupleName template i) = some blocks) (rest : List (Fin n)) :
    check blocks (rest.flatMap fun i =>
      (template.assignment i).emitted getCppTupleName template i) = some blocks := by
  induction rest with
  | nil => rfl
  | cons i rest ih =>
    have first := emitted_scoped getCppTupleName template i blocks resolved (runs i)
    rw [List.flatMap_cons, check_append_eq _ _ _ _ first]
    exact ih

end Assignments

section Delete

variable {Ext Tup : Type} (getCppTupleName : Nat → String)
  (template : Template Ext Tup .delete n) (block : Block Name (Origin n))
  (enclosing : List (Block Name (Origin n)))

def operationNames (i : Fin n) : Block Name (Origin n) :=
  [ofAssignment i .errorMsg, ofAssignment i .connPtr, ofAssignment i .findQueryBO]

theorem removeText_twice (i : Fin n) (call : Operation (Arrival Ext Tup) .delete)
    (declared : .given .findQueryBO ∈ block.map Prod.fst) :
    check (block :: enclosing) (call.text getCppTupleName template i) = none := by
  cases call with
  | removeDocument function db collection =>
    exact check_declare_twice enclosing block (.given .findQueryBO) (.assignment i []) _ declared

variable (resolved : Resolved (block :: enclosing) (context .delete template.numberOfInputPorts))

include resolved

theorem removeText_scoped (off : template.profiling = .off) (i : Fin n)
    (call : Operation (Arrival Ext Tup) .delete)
    (known : ∀ port ∈ readPorts call.fragments, port < template.numberOfInputPorts)
    (absent : ∀ name, Local (.given name) → .given name ∉ block.map Prod.fst) :
    check (block :: enclosing) (call.text getCppTupleName template i) =
      some ((operationNames i ++ block) :: enclosing) := by
  cases call with
  | removeDocument function db collection =>
    have query := findQueryText_scoped .delete template.numberOfInputPorts i template.findQuery
      (by decide) block enclosing resolved (absent .findQueryBO trivial)
    have declared := context_declared .delete template.numberOfInputPorts i block enclosing resolved
      .findQueryBO trivial
    simp only [Operation.fragments, readPorts, List.filterMap_append, List.mem_append] at known
    have request := requestText_scoped .delete template.numberOfInputPorts i _ enclosing declared
      db.fragments collection.fragments [ofAssignment i .findQueryBO]
      (by simpa [ofAssignment] using absent .connPtr trivial)
      (by simpa [ofAssignment] using absent .errorMsg trivial)
      (fun port read => known port (Or.inl read)) (fun port read => known port (Or.inr read))
      (by simp [ofAssignment]) (by simp [ofAssignment])
    rw [Operation.text, off]
    exact (check_append_eq _ _ _ _ query).trans request

theorem context_operationNames (i : Fin n) :
    Resolved ((operationNames i ++ block) :: enclosing)
      (context .delete template.numberOfInputPorts) := by
  refine context_past .delete _ (operationNames i) block enclosing ?_ resolved
  intro d member
  simp only [operationNames, List.mem_cons, List.not_mem_nil, or_false] at member
  rcases member with rfl | rfl | rfl <;> trivial

-- The assignments after the first operation: any other operation declares its names again.
theorem assignments_after (rest : List (Fin n))
    (declared : .given .findQueryBO ∈ block.map Prod.fst) :
    check (block :: enclosing) (rest.flatMap fun i =>
        (template.assignment i).emitted getCppTupleName template i) =
      if rest.any fun i => (template.assignment i).operation?.isSome then none
      else some (block :: enclosing) := by
  induction rest with
  | nil => rfl
  | cons i rest ih =>
    rw [List.flatMap_cons, List.any_cons]
    cases isCall : (template.assignment i).operation? with
    | some call =>
      have refused := removeText_twice getCppTupleName template block enclosing i call declared
      rw [emitted_operation getCppTupleName template i _ call isCall,
        check_append_none _ _ _ refused]
      rfl
    | none =>
      have first := emitted_scoped getCppTupleName template i (block :: enclosing) resolved
        fun call isSome => by rw [isCall] at isSome; cases isSome
      rw [check_append_eq _ _ _ _ first, ih]
      rfl

theorem assignments_from (off : template.profiling = .off) (rest : List (Fin n))
    (absent : ∀ name, Local (.given name) → .given name ∉ block.map Prod.fst) :
    check (block :: enclosing) (rest.flatMap fun i =>
        (template.assignment i).emitted getCppTupleName template i) =
      match rest.filter fun i => (template.assignment i).operation?.isSome with
      | [] => some (block :: enclosing)
      | [i] => some ((operationNames i ++ block) :: enclosing)
      | _ => none := by
  induction rest with
  | nil => rfl
  | cons i rest ih =>
    rw [List.flatMap_cons, List.filter_cons]
    cases isCall : (template.assignment i).operation? with
    | some call =>
      have first := removeText_scoped getCppTupleName template block enclosing resolved off i call
        (template.portsExist i call isCall) absent
      have later := context_operationNames template block enclosing resolved i
      rw [emitted_operation getCppTupleName template i _ call isCall, check_append_eq _ _ _ _ first,
        assignments_after getCppTupleName template _ enclosing later rest
          (by simp [operationNames, ofAssignment])]
      cases others : rest.filter fun i => (template.assignment i).operation?.isSome with
      | nil =>
        have quiet : (rest.any fun i => (template.assignment i).operation?.isSome) = false := by
          simpa using List.filter_eq_nil_iff.mp others
        rw [quiet]
        rfl
      | cons j others' =>
        have member : j ∈ rest.filter fun i => (template.assignment i).operation?.isSome := by
          simp [others]
        have again : (rest.any fun i => (template.assignment i).operation?.isSome) = true :=
          List.any_eq_true.mpr ⟨j, (List.mem_filter.mp member).1, (List.mem_filter.mp member).2⟩
        rw [again]
        rfl
    | none =>
      have first := emitted_scoped getCppTupleName template i (block :: enclosing) resolved
        fun call isSome => by rw [isCall] at isSome; cases isSome
      rw [check_append_eq _ _ _ _ first, ih]
      rfl

end Delete

section Locals

variable (enclosing : List (Block Name (Origin n))) (numberOfInputPorts : Nat)

def ports : Nat → Block Name (Origin n)
  | 0 => parameters
  | i + 1 => ofProcess (.iport i) :: ports i

def locals : Block Name (Origin n) :=
  ofProcess .errorFound :: ofProcess .otuplePtr :: ports numberOfInputPorts

theorem ports_names (name : Name)
    (member : name ∈ (ports numberOfInputPorts : Block Name (Origin n)).map Prod.fst) :
    name = .given .port ∨ name = .given .tuple ∨
      ∃ i < numberOfInputPorts, name = .given (.iport i) := by
  induction numberOfInputPorts with
  | zero =>
    simp only [ports, parameters, List.map_cons, List.map_nil, List.mem_cons, List.not_mem_nil,
      or_false] at member
    rcases member with rfl | rfl
    · exact Or.inl rfl
    · exact Or.inr (Or.inl rfl)
  | succ k ih =>
    rcases List.mem_cons.mp member with rfl | member
    · exact Or.inr (Or.inr ⟨k, Nat.lt_succ_self k, rfl⟩)
    · rcases ih member with port | tuple | ⟨i, earlier, same⟩
      · exact Or.inl port
      · exact Or.inr (Or.inl tuple)
      · exact Or.inr (Or.inr ⟨i, Nat.lt_succ_of_lt earlier, same⟩)

theorem resolve_ports (name : Name) (notPort : ∀ i, name ≠ .given (.iport i)) :
    resolve (ports numberOfInputPorts :: enclosing) name =
      resolve (parameters :: enclosing) name := by
  induction numberOfInputPorts with
  | zero => rfl
  | succ k ih => rw [ports, ofProcess, resolve_cons, if_neg (notPort k), ih]

theorem resolve_iport (i : Nat) (known : i < numberOfInputPorts) :
    resolve (ports numberOfInputPorts :: enclosing) (.given (.iport i)) = some .process := by
  induction numberOfInputPorts with
  | zero => cases known
  | succ k ih =>
    rw [ports, ofProcess, resolve_cons]
    by_cases last : i = k
    · rw [if_pos (by rw [last])]
    · rw [if_neg (by simpa using last)]
      exact ih (by omega)

theorem inputPorts_scoped :
    check (parameters :: enclosing) ((List.range numberOfInputPorts).flatMap inputPortText) =
      some (ports numberOfInputPorts :: enclosing) := by
  induction numberOfInputPorts with
  | zero => rfl
  | succ k ih =>
    have absent : .given (.iport k) ∉ (ports k : Block Name (Origin n)).map Prod.fst := by
      intro member
      rcases ports_names k _ member with same | same | ⟨i, earlier, same⟩
      · cases same
      · cases same
      · cases same
        exact Nat.lt_irrefl k earlier
    have tuple : Resolved (ports (k + 1) :: enclosing) [ofProcess .tuple] := by
      intro u member
      rw [List.mem_singleton.mp member, resolve_ports enclosing (k + 1) _ (by simp [ofProcess])]
      simp [parameters, ofProcess]
    rw [List.range_succ, List.flatMap_append, List.flatMap_singleton,
      check_append_eq _ _ _ _ ih, inputPortText, check_declare enclosing _ _ _ _ absent]
    exact check_mention _ _ tuple

theorem locals_context (op : Operator) :
    Resolved [locals numberOfInputPorts, members op]
      (context op numberOfInputPorts : Uses n) := by
  have past : ∀ name : Name, name ≠ .given .errorFound → name ≠ .given .otuplePtr →
      resolve [locals numberOfInputPorts, members op] name =
        resolve [(ports numberOfInputPorts : Block Name (Origin n)), members op] name := by
    intro name notFound notTuple
    rw [locals, ofProcess, ofProcess, resolve_cons, if_neg notFound, resolve_cons, if_neg notTuple]
  have outside : ∀ name : Name, name ≠ .given .errorFound → name ≠ .given .otuplePtr →
      (∀ i, name ≠ .given (.iport i)) →
      resolve [locals numberOfInputPorts, members op] name =
        resolve [(parameters : Block Name (Origin n)), members op] name := by
    intro name notFound notTuple notPort
    rw [past name notFound notTuple, resolve_ports _ _ name notPort]
  intro u member
  simp only [context, List.mem_append, List.mem_cons, List.not_mem_nil, or_false, List.mem_map,
    List.mem_range] at member
  rcases member with (rfl | rfl | rfl | rfl) | member | ⟨i, known, rfl⟩
  · exact (outside (.given .tuple) (by simp) (by simp) (by simp)).trans rfl
  · exact (outside (.given .port) (by simp) (by simp) (by simp)).trans rfl
  · simp [locals, ofProcess]
  · simp [locals, ofProcess]
  · cases op with
    | insert =>
      rw [List.mem_singleton.mp member]
      exact (outside (.given .metric) (by simp) (by simp) (by simp)).trans rfl
    | update | delete =>
      rcases List.mem_pair.mp member with rfl | rfl
      · exact (outside (.given .metric) (by simp) (by simp) (by simp)).trans rfl
      · exact (outside (.given .findQueryBOMember) (by simp) (by simp) (by simp)).trans rfl
  · exact (past (.given (.iport i)) (by simp) (by simp)).trans
      (resolve_iport _ numberOfInputPorts i known)

theorem locals_names (name : Variable) (isLocal : Local (.given name)) :
    .given name ∉ (locals numberOfInputPorts : Block Name (Origin n)).map Prod.fst := by
  intro member
  simp only [locals, ofProcess, List.map_cons, List.mem_cons] at member
  rcases member with same | same | member
  · cases same
    exact isLocal
  · cases same
    exact isLocal
  · rcases ports_names numberOfInputPorts _ member with same | same | ⟨i, _, same⟩ <;>
      · cases same
        exact isLocal

end Locals

section Process

variable {Ext Tup : Type} {op : Operator} (getCppTupleName : Nat → String)
  (template : Template Ext Tup op n)

theorem processText_start :
    check [parameters, members op] (processText getCppTupleName template) =
      check [locals template.numberOfInputPorts, members op]
        (((List.finRange n).flatMap fun i =>
          (template.assignment i).emitted getCppTupleName template i) ++
          mention [ofProcess .errorFound, ofProcess .otuplePtr]) := by
  have absent : ∀ name : Variable, name = .otuplePtr ∨ name = .errorFound →
      .given name ∉ (ports template.numberOfInputPorts : Block Name (Origin n)).map Prod.fst := by
    intro name declared member
    rcases ports_names _ _ member with same | same | ⟨i, _, same⟩ <;>
      rcases declared with rfl | rfl <;> cases same
  have errorFound : .given .errorFound ∉ ((ofProcess .otuplePtr ::
      ports template.numberOfInputPorts : Block Name (Origin n))).map Prod.fst := by
    simpa [ofProcess] using absent .errorFound (Or.inr rfl)
  rw [processText, check_append_eq _ _ _ _ (inputPorts_scoped _ template.numberOfInputPorts)]
  refine (check_declare _ _ _ _ _ (absent .otuplePtr (Or.inl rfl))).trans ?_
  exact check_declare _ _ _ _ _ errorFound

theorem final_mention (block : Block Name (Origin n))
    (resolved : Resolved [block, members op] (context op template.numberOfInputPorts)) :
    check [block, members op] (mention [ofProcess .errorFound, ofProcess .otuplePtr]) =
      some [block, members op] :=
  check_mention _ _ (Resolved.of_subset _ _ _ resolved (by simp [context]))

section Profiling

variable (level : Variable) (named : template.profiling.level = some level)

include named

theorem request_mentions (i : Fin n) (db collection : List Fragment) (documents : Uses n) :
    .use (.given level) .driver ∈ requestText template.profiling i db collection documents := by
  simp [requestText, profilingText, named, mention, ofDriver]

theorem emitted_mentions (i : Fin n) (call : Operation (Arrival Ext Tup) op)
    (isCall : (template.assignment i).operation? = some call) :
    .use (.given level) .driver ∈ (template.assignment i).emitted getCppTupleName template i := by
  rw [emitted_operation getCppTupleName template i _ call isCall]
  have request := request_mentions template level named i
  cases call with
  | insertDocument args | updateDocument function args =>
    simp [Operation.text, block, request]
  | removeDocument function db collection =>
    simp [Operation.text, request]

end Profiling

section Undeclared

-- The enumerators of the driver are not among the names that `process` declares.
variable (level : Variable) (enumerator : level = .profileSlow ∨ level = .profileAll)

include enumerator

theorem requestText_undeclared (profiling : Profiling) (i : Fin n) (db collection : List Fragment)
    (documents : Uses n) :
    ¬ Declares (.given level) (requestText profiling i db collection documents) := by
  have profiled : ¬ Declares (.given level) (profilingText profiling i db) := by
    unfold profilingText
    cases profiling.level with
    | none => exact declares_nil _
    | some level => exact declares_mention _ _
  rcases enumerator with rfl | rfl <;>
    simp [requestText, connectText, resultText, declareFor, profiled]

theorem findQueryText_undeclared (findQuery : Option (FindParameter Ext Tup)) (i : Fin n) :
    ¬ Declares (.given level) (findQueryText findQuery i) := by
  have stored (streams : Bool) : ¬ Declares (.given level) (if streams = true then
      mention [ofProcess .tuple] else mention [ofMember .findQueryBOMember] : Text n) := by
    cases streams <;> exact declares_mention _ _
  cases findQuery with
  | none => rcases enumerator with rfl | rfl <;> simp [findQueryText, declareFor]
  | some expr => rcases enumerator with rfl | rfl <;> simp [findQueryText, declareFor, stored]

theorem emitted_undeclared (i : Fin n) {t : SplType}
    (assignment : Assignment (Arrival Ext Tup) op t) :
    ¬ Declares (.given level) (assignment.emitted getCppTupleName template i) := by
  have guarded (guard : Option Int) : ¬ Declares (.given level) (guardText guard : Text n) := by
    cases guard with
    | none => exact declares_nil _
    | some port => exact declares_mention _ _
  cases assignment with
  | unassigned => exact declares_nil _
  | asIs init => exact declares_mention _ _
  | operation call =>
    have request := requestText_undeclared level enumerator template.profiling i
    have query := findQueryText_undeclared level enumerator template.findQuery i
    cases call with
    | insertDocument args | updateDocument function args =>
      have document : ¬ Declares (.given level) (args.text i) :=
        EncoderText.buildBSONObjectWithKey_undeclared level _ _ _ _
      simp [Assignment.emitted, Operation.text, guarded, document, query, request]
    | removeDocument function db collection =>
      simp [Assignment.emitted, Operation.text, query, request]

theorem processText_undeclared :
    ¬ Declares (.given level) (processText getCppTupleName template) := by
  have input (i : Nat) : ¬ Declares (.given level) (inputPortText i : Text n) := by
    rcases enumerator with rfl | rfl <;> simp [inputPortText]
  have emitted (i : Fin n) := emitted_undeclared getCppTupleName template level enumerator i
    (template.assignment i)
  rcases enumerator with rfl | rfl <;> simp [processText, input, emitted]

end Undeclared

theorem not_wellScoped_of_profiling (on : template.profiling ≠ .off) (i : Fin n)
    (call : Operation (Arrival Ext Tup) op)
    (isCall : (template.assignment i).operation? = some call) :
    ¬ template.WellScoped getCppTupleName := by
  have refused (level : Variable) (enumerator : level = .profileSlow ∨ level = .profileAll)
      (named : template.profiling.level = some level) :
      check [parameters, members op] (processText getCppTupleName template) = none := by
    have used := emitted_mentions getCppTupleName template level named i call isCall
    refine check_undeclared _ (.given level) .driver _ ?_
      (processText_undeclared getCppTupleName template level enumerator) ?_
    · rcases enumerator with rfl | rfl <;> cases op <;> rfl
    · simp only [processText, List.mem_append, List.mem_flatMap]
      exact Or.inr (Or.inr (Or.inl ⟨i, List.mem_finRange i, used⟩))
  rintro ⟨block, runs⟩
  have none : check [parameters, members op] (processText getCppTupleName template) = none := by
    cases level : template.profiling with
    | off => exact absurd level on
    | slow => exact refused .profileSlow (Or.inl rfl) (congrArg Profiling.level level)
    | all => exact refused .profileAll (Or.inr rfl) (congrArg Profiling.level level)
  rw [none] at runs
  cases runs

theorem deleteText_iff (template : Template Ext Tup .delete n) (off : template.profiling = .off) :
    template.WellScoped getCppTupleName ↔
      ((List.finRange n).countP fun i => (template.assignment i).operation?.isSome) ≤ 1 := by
  have resolved : Resolved [locals template.numberOfInputPorts, members .delete]
      (context .delete template.numberOfInputPorts : Uses n) := locals_context _ .delete
  have assignments := assignments_from getCppTupleName template _ [members .delete] resolved off
    (List.finRange n) (locals_names template.numberOfInputPorts)
  rw [Template.WellScoped, processText_start, List.countP_eq_length_filter]
  cases operations : (List.finRange n).filter fun i =>
      (template.assignment i).operation?.isSome with
  | nil =>
    rw [operations] at assignments
    refine iff_of_true ⟨locals template.numberOfInputPorts, ?_⟩ (Nat.zero_le 1)
    exact (check_append_eq _ _ _ _ assignments).trans (final_mention template _ resolved)
  | cons i later =>
    rw [operations] at assignments
    cases later with
    | nil =>
      refine iff_of_true ⟨operationNames i ++ locals template.numberOfInputPorts, ?_⟩
        (Nat.le_refl 1)
      exact (check_append_eq _ _ _ _ assignments).trans
        (final_mention template _ (context_operationNames template _ _ resolved i))
    | cons j later =>
      refine iff_of_false ?_ (by simp)
      intro wellScoped
      obtain ⟨block, runs⟩ := wellScoped
      rw [check_append_none _ _ _ assignments] at runs
      cases runs

theorem processText_scoped (runs : ∀ i call, (template.assignment i).operation? = some call →
      check [locals template.numberOfInputPorts, members op]
        (call.text getCppTupleName template i) =
          some [locals template.numberOfInputPorts, members op]) :
    template.WellScoped getCppTupleName := by
  have resolved : Resolved [locals template.numberOfInputPorts, members op]
      (context op template.numberOfInputPorts : Uses n) := locals_context _ op
  have assignments := assignments_scoped getCppTupleName template _ resolved runs
    (List.finRange n)
  refine ⟨locals template.numberOfInputPorts, ?_⟩
  rw [processText_start, check_append_eq _ _ _ _ assignments]
  exact final_mention template _ resolved

/-- Delete has no braces around an operation, and the profiling level is never qualified. -/
theorem process_well_scoped_iff :
    template.WellScoped getCppTupleName ↔
      ((List.finRange n).countP fun i => (template.assignment i).operation?.isSome) = 0 ∨
      template.profiling = .off ∧ (op ≠ .delete ∨
        ((List.finRange n).countP fun i => (template.assignment i).operation?.isSome) ≤ 1) := by
  by_cases quiet : ((List.finRange n).countP fun i =>
      (template.assignment i).operation?.isSome) = 0
  · refine iff_of_true (processText_scoped getCppTupleName template ?_) (Or.inl quiet)
    intro i call isCall
    have none := List.countP_eq_zero.mp quiet i (List.mem_finRange i)
    simp [isCall] at none
  · by_cases off : template.profiling = .off
    · by_cases braces : op = .delete
      · subst braces
        rw [deleteText_iff getCppTupleName template off]
        simp [off, quiet]
      · refine iff_of_true (processText_scoped getCppTupleName template ?_)
          (Or.inr ⟨off, Or.inl braces⟩)
        exact fun i call isCall => bracedText_scoped getCppTupleName template i braces off _
          (locals_context _ op) call (template.portsExist i call isCall)
    · obtain ⟨i, _, isCall⟩ := List.countP_pos_iff.mp (Nat.pos_of_ne_zero quiet)
      obtain ⟨call, isCall⟩ := Option.isSome_iff_exists.mp isCall
      refine iff_of_false
        (not_wellScoped_of_profiling getCppTupleName template off i call isCall) ?_
      simp [off, quiet]

end Process

section Sample

def removeTwice (numberOfInputPorts : Nat) : Template Unit Unit .delete 2 where
  numberOfInputPorts := numberOfInputPorts
  attributes _ := .prim .rstring
  assignment _ :=
    .operation (.removeDocument .removeDocument (literal "streams") (literal "sample"))
  findQuery := none
  noFindQuery := noFindQuery_none Unit Unit .delete
  portsExist i call isCall port member := by
    cases isCall
    cases member
  queryPortsExist := queryPortsExist_none Unit Unit numberOfInputPorts
  profiling := .off
  init _ := []
  initPortsExist i port member := by cases member

theorem findQueryBO_declared_twice :
    (removeTwice 1).errors tupleName = [] ∧
      check [parameters, members .delete] (processText tupleName (removeTwice 1)) = none ∧
      ¬ (removeTwice 1).WellScoped tupleName := by
  have refused : check [parameters, members .delete] (processText tupleName (removeTwice 1)) =
      none := by
    decide
  refine ⟨rfl, refused, ?_⟩
  intro wellScoped
  obtain ⟨block, runs⟩ := wellScoped
  rw [refused] at runs
  cases runs

def insertProfiled (profiling : Profiling) : Template Unit Unit .insert 2 where
  toSpecification := insertSpec emptyDocuments
  profiling := profiling
  init _ := []
  initPortsExist i port member := by cases member

example : (insertProfiled .slow).errors tupleName = [] ∧
    check [parameters, members .insert] (processText tupleName (insertProfiled .slow)) = none := by
  decide

end Sample

end StreamsMongo.Write
