import StreamsMongo.Operators.WriteRuns

set_option autoImplicit false

namespace StreamsMongo.Write

section PortNumber

variable (getCppTupleName : Nat → String)

def matchingPorts (numberOfInputPorts : Nat) (cppExpr : String) : List Nat :=
  (List.range numberOfInputPorts).filter fun i => contains cppExpr (getCppTupleName i)

theorem portNumber_eq (numberOfInputPorts : Nat) (cppExpr : String) :
    portNumber getCppTupleName numberOfInputPorts cppExpr =
      match matchingPorts getCppTupleName numberOfInputPorts cppExpr with
      | [] => (-1, [])
      | first :: later =>
          ((first : Int), List.replicate later.length (.multiplePorts cppExpr)) := by
  induction numberOfInputPorts with
  | zero => rfl
  | succ i ih =>
    have round : portNumber getCppTupleName (i + 1) cppExpr =
        searchPort getCppTupleName cppExpr (portNumber getCppTupleName i cppExpr) i := by
      simp [portNumber, List.range_succ]
    have ports : matchingPorts getCppTupleName (i + 1) cppExpr =
        matchingPorts getCppTupleName i cppExpr ++
          if contains cppExpr (getCppTupleName i) then [i] else [] := by
      simp [matchingPorts, List.range_succ, List.filter_cons]
    rw [round, ih, ports]
    by_cases found : contains cppExpr (getCppTupleName i) = true
    · cases matchingPorts getCppTupleName i cppExpr with
      | nil => simp [searchPort, found]
      | cons first later =>
        have seen : (first : Int) ≠ -1 := by omega
        simp [searchPort, found, seen, List.replicate_succ']
    · simp [searchPort, found]

theorem reference_contained (fragments : List Fragment) (port : Nat)
    (read : port ∈ readPorts fragments) :
    contains (getCppExpression getCppTupleName fragments) (getCppTupleName port) = true := by
  obtain ⟨fragment, member, reads⟩ := List.mem_filterMap.mp read
  cases fragment with
  | text cpp => cases reads
  | stream other access =>
    cases reads
    obtain ⟨before, after, rfl⟩ := List.append_of_mem member
    refine decide_eq_true ⟨(getCppExpression getCppTupleName before).toList,
      access.toList ++ (getCppExpression getCppTupleName after).toList, ?_⟩
    simp [getCppExpression, Fragment.print]

theorem portNumber_read (numberOfInputPorts : Nat) (fragments : List Fragment)
    (accepted : (portNumber getCppTupleName numberOfInputPorts
      (getCppExpression getCppTupleName fragments)).2 = [])
    (port : Nat) (read : port ∈ readPorts fragments) (known : port < numberOfInputPorts) :
    (portNumber getCppTupleName numberOfInputPorts
      (getCppExpression getCppTupleName fragments)).1 = port := by
  have matched : port ∈ matchingPorts getCppTupleName numberOfInputPorts
      (getCppExpression getCppTupleName fragments) :=
    List.mem_filter.mpr
      ⟨List.mem_range.mpr known, reference_contained getCppTupleName fragments port read⟩
  rw [portNumber_eq] at accepted ⊢
  cases ports : matchingPorts getCppTupleName numberOfInputPorts
      (getCppExpression getCppTupleName fragments) with
  | nil =>
    rw [ports] at matched
    cases matched
  | cons first later =>
    rw [ports] at accepted matched
    -- A second match would have been reported.
    have alone : later = [] := List.length_eq_zero_iff.mp (by simpa using accepted)
    rw [alone, List.mem_singleton] at matched
    rw [matched]

end PortNumber

section Guards

variable (getCppTupleName : Nat → String) (numberOfInputPorts : Nat) {In : Type} {op : Operator}

def Operation.dataReads : Operation In op → List Nat
  | .insertDocument args | .updateDocument _ args => readPorts args.data.fragments
  | .removeDocument .. => []

theorem portGuard_streams (several : 1 < numberOfInputPorts) (fragments : List Fragment)
    (streams : readPorts fragments ≠ []) :
    portGuard getCppTupleName numberOfInputPorts fragments =
      (some (portNumber getCppTupleName numberOfInputPorts
          (getCppExpression getCppTupleName fragments)).1,
        (portNumber getCppTupleName numberOfInputPorts
          (getCppExpression getCppTupleName fragments)).2) := by
  have guarded : (decide (numberOfInputPorts > 1) && hasStreamAttributes fragments) = true := by
    simp [several, hasStreamAttributes, streams]
  rw [portGuard, if_pos guarded]

theorem dataReads_read (call : Operation In op) (port : Nat) (read : port ∈ call.dataReads) :
    port ∈ readPorts call.fragments := by
  cases call with
  | insertDocument args | updateDocument function args =>
    simp only [Operation.dataReads, readPorts] at read
    simp only [Operation.fragments, WriteArguments.fragments, readPorts, List.filterMap_append,
      List.mem_append]
    exact Or.inr read
  | removeDocument function db collection => cases read

theorem guard_read (call : Operation In op)
    (accepted : call.errors getCppTupleName numberOfInputPorts = [])
    (several : 1 < numberOfInputPorts) (port : Nat) (read : port ∈ call.dataReads)
    (known : port < numberOfInputPorts) :
    call.guard getCppTupleName numberOfInputPorts = some (port : Int) := by
  cases call with
  | insertDocument args | updateDocument function args =>
    have guarded := portGuard_streams getCppTupleName numberOfInputPorts several
      args.data.fragments (List.ne_nil_of_mem read)
    have silent := (List.append_eq_nil_iff.mp accepted).2
    rw [guarded] at silent
    rw [Operation.guard, guarded]
    exact congrArg some
      (portNumber_read getCppTupleName numberOfInputPorts _ silent port read known)
  | removeDocument function db collection => cases read

theorem guard_unread (call : Operation In op) (unread : call.dataReads = []) :
    call.guard getCppTupleName numberOfInputPorts = none := by
  cases call with
  | insertDocument args | updateDocument function args =>
    have streams : hasStreamAttributes args.data.fragments = false := by
      simpa [hasStreamAttributes, Operation.dataReads] using unread
    simp [Operation.guard, portGuard, streams]
  | removeDocument function db collection => rfl

end Guards

variable {Ext Tup : Type} {op : Operator} {n : Nat} (spec : Specification Ext Tup op n)

def Specification.queryReads : List Nat :=
  match spec.findQuery with
  | some expr => readPorts expr.fragments
  | none => []

def Specification.reads (call : Operation (Arrival Ext Tup) op) : List Nat :=
  readPorts call.fragments ++ spec.queryReads

def Specification.OnePort (call : Operation (Arrival Ext Tup) op) : Prop :=
  spec.numberOfInputPorts ≤ 1 ∨ spec.reads call = [] ∨
    ∃ port ∈ call.dataReads, ∀ read ∈ spec.reads call, read = port

variable (getCppTupleName : Nat → String)

def Specification.PortSafe : Prop :=
  ∀ port < spec.numberOfInputPorts, ∀ i, executes spec getCppTupleName port i = true →
    ∀ call, (spec.assignment i).operation? = some call → ∀ read ∈ spec.reads call, read = port

theorem reads_known (i : Fin n) (call : Operation (Arrival Ext Tup) op)
    (isCall : (spec.assignment i).operation? = some call) (port : Nat)
    (read : port ∈ spec.reads call) : port < spec.numberOfInputPorts := by
  rcases List.mem_append.mp read with argument | query
  · exact spec.portsExist i call isCall port argument
  · have known := spec.queryPortsExist
    unfold Specification.queryReads at query
    cases given : spec.findQuery with
    | none =>
      rw [given] at query
      cases query
    | some expr =>
      rw [given] at query known
      exact known expr rfl port query

theorem call_errors (accepted : spec.errors getCppTupleName = []) (i : Fin n)
    (call : Operation (Arrival Ext Tup) op) (isCall : (spec.assignment i).operation? = some call) :
    call.errors getCppTupleName spec.numberOfInputPorts = [] := by
  have each := List.flatMap_eq_nil_iff.mp (List.append_eq_nil_iff.mp accepted).2 i
    (List.mem_finRange i)
  rw [isCall] at each
  exact each

theorem executes_iff (port : Nat) (i : Fin n) (call : Operation (Arrival Ext Tup) op)
    (isCall : (spec.assignment i).operation? = some call) :
    executes spec getCppTupleName port i = true ↔
      admits (call.guard getCppTupleName spec.numberOfInputPorts) port = true := by
  rw [executes, isCall, Option.any_some]

-- With several ports, the guard admits the tuples of the port that the data is read from.
theorem executes_data (accepted : spec.errors getCppTupleName = [])
    (several : 1 < spec.numberOfInputPorts) (i : Fin n) (call : Operation (Arrival Ext Tup) op)
    (isCall : (spec.assignment i).operation? = some call) (source : Nat)
    (data : source ∈ call.dataReads) (port : Nat) :
    executes spec getCppTupleName port i = true ↔ port = source := by
  have known := spec.portsExist i call isCall source (dataReads_read call source data)
  have silent := call_errors spec getCppTupleName accepted i call isCall
  rw [executes_iff spec getCppTupleName port i call isCall,
    guard_read getCppTupleName spec.numberOfInputPorts call silent several source data known]
  simp [admits]

theorem executes_unread (i : Fin n) (call : Operation (Arrival Ext Tup) op)
    (isCall : (spec.assignment i).operation? = some call) (unread : call.dataReads = [])
    (port : Nat) : executes spec getCppTupleName port i = true := by
  rw [executes_iff spec getCppTupleName port i call isCall,
    guard_unread getCppTupleName spec.numberOfInputPorts call unread]
  rfl

theorem onePort_iff (accepted : spec.errors getCppTupleName = []) (i : Fin n)
    (call : Operation (Arrival Ext Tup) op) (isCall : (spec.assignment i).operation? = some call) :
    (∀ port < spec.numberOfInputPorts, executes spec getCppTupleName port i = true →
      ∀ read ∈ spec.reads call, read = port) ↔ spec.OnePort call := by
  by_cases several : 1 < spec.numberOfInputPorts
  · have guarded := executes_data spec getCppTupleName accepted several i call isCall
    constructor
    · intro safe
      refine Or.inr ?_
      cases streams : call.dataReads with
      | nil =>
        -- The operation runs for a tuple of any other port as well.
        refine Or.inl (List.eq_nil_iff_forall_not_mem.mpr fun read member => ?_)
        have always := executes_unread spec getCppTupleName i call isCall streams
        have first := safe 0 (by omega) (always 0) read member
        have second := safe 1 several (always 1) read member
        omega
      | cons port later =>
        have data : port ∈ call.dataReads := by simp [streams]
        have known := spec.portsExist i call isCall port (dataReads_read call port data)
        exact Or.inr ⟨port, List.mem_cons_self, safe port known ((guarded port data port).mpr rfl)⟩
    · rintro (single | unread | ⟨source, data, same⟩) port _ executed read member
      · omega
      · rw [unread] at member
        cases member
      · rw [(guarded source data port).mp executed]
        exact same read member
  · refine iff_of_true ?_ (Or.inl (Nat.le_of_not_lt several))
    intro port arrives _ read member
    have here := reads_known spec i call isCall read member
    omega

section Entered

variable (rt : SplRuntime) (lib : DriverLibrary)

def Effect.enters {t : SplType} : Effect t → Bool
  | .succeeded _ | .failed _ _ => true
  | .stopped entered _ _ => entered
  | _ => false

theorem apply_entered (progress : Progress spec) (i : Fin n) (effect : Effect (spec.attributes i)) :
    (progress.apply i effect).entered = progress.entered ++ if effect.enters then [i] else [] := by
  cases effect with
  | skipped | assigned value => simp [Progress.apply, Effect.enters]
  | succeeded call | failed call errorMsg => simp [Progress.apply, Effect.enters]
  | stopped entered issued stop => rfl

theorem execute_enters (query : Arrival Ext Tup → Except Raised BSONObj)
    (arrival : Arrival Ext Tup) (driver : Driver) (hasTuple : Bool) (i : Fin n)
    (enters : ((spec.assignment i).execute rt lib getCppTupleName spec query arrival driver
      hasTuple).enters = true) : executes spec getCppTupleName arrival.port i = true := by
  unfold executes
  generalize spec.assignment i = assignment at enters
  generalize spec.attributes i = t at assignment
  cases assignment with
  | unassigned => cases enters
  | asIs init =>
    simp only [Assignment.execute] at enters
    cases hasTuple with
    | false => cases enters
    | true =>
      cases made : init arrival with
      | ok value | error e =>
        rw [if_pos rfl, made] at enters
        cases enters
  | operation call =>
    have path := call.execute_path spec rt lib getCppTupleName query arrival driver
    rw [Assignment.execute] at enters
    generalize call.execute rt lib getCppTupleName spec query arrival driver = effect at enters path
    cases path with
    | rejected closed => cases enters
    | unbuilt _ admitted | unconnected _ admitted | unanswered _ _ admitted => exact admitted
    | succeeded _ admitted | failed _ _ admitted => exact admitted

theorem foldl_entered (state : State) (input : Arrival Ext Tup × (Fin n → Driver))
    (rest : List (Fin n)) (progress : Progress spec)
    (before : ∀ i ∈ progress.entered, executes spec getCppTupleName input.1.port i = true) :
    ∀ i ∈ (rest.foldl (assign rt lib getCppTupleName spec (findQueryBO rt lib spec state) input.1
      input.2) progress).entered, executes spec getCppTupleName input.1.port i = true := by
  refine foldl_assign_invariant spec rt lib getCppTupleName _ input.1 input.2
    (fun progress => ∀ i ∈ progress.entered, executes spec getCppTupleName input.1.port i = true) ?_
    rest progress before
  intro progress j before i member
  rw [apply_entered, List.mem_append] at member
  rcases member with earlier | now
  · exact before i earlier
  · split_ifs at now with enters
    · rw [List.mem_singleton.mp now]
      exact execute_enters spec getCppTupleName rt lib _ input.1 _ _ j enters
    · cases now

theorem process_entered (state : State) (input : Arrival Ext Tup × (Fin n → Driver)) (i : Fin n)
    (entered : i ∈ (process rt lib getCppTupleName spec state input).2.entered) :
    executes spec getCppTupleName input.1.port i = true :=
  foldl_entered spec getCppTupleName rt lib state input (List.finRange n) (started spec state) nofun
    i entered

end Entered

/-- Every operation has to take all that it reads from the port of its data. -/
theorem one_port_iff (accepted : spec.errors getCppTupleName = []) :
    (spec.PortSafe getCppTupleName ↔
      ∀ i call, (spec.assignment i).operation? = some call → spec.OnePort call) ∧
    (spec.PortSafe getCppTupleName →
      ∀ (rt : SplRuntime) (lib : DriverLibrary) (state : State)
        (input : Arrival Ext Tup × (Fin n → Driver)), input.1.port < spec.numberOfInputPorts →
      ∀ i ∈ (process rt lib getCppTupleName spec state input).2.entered,
      ∀ call, (spec.assignment i).operation? = some call →
      ∀ read ∈ spec.reads call, read = input.1.port) := by
  constructor
  · constructor
    · intro safe i call isCall
      rw [← onePort_iff spec getCppTupleName accepted i call isCall]
      intro port arrives executed
      exact safe port arrives i executed call isCall
    · intro onePort port arrives i executed call isCall
      exact (onePort_iff spec getCppTupleName accepted i call isCall).mpr (onePort i call isCall)
        port arrives executed
  · intro safe rt lib state input arrives i entered call isCall
    exact safe input.1.port arrives i
      (process_entered spec getCppTupleName rt lib state input i entered) call isCall

section TwoPorts

def insertEach : Specification Unit String .insert 2 where
  numberOfInputPorts := 2
  attributes _ := .prim .rstring
  assignment i := .operation (.insertDocument ⟨literal "streams", literal "sample", none,
    .asJson ⟨[.stream i ".get_document()"], Arrival.tuple⟩⟩)
  findQuery := none
  noFindQuery _ := rfl
  portsExist i call isCall port member := by
    cases isCall
    cases List.mem_singleton.mp member
    exact i.isLt
  queryPortsExist := nofun

theorem one_port_iff_each :
    insertEach.PortSafe tupleName ∧
      (process SplRuntime.plain DriverLibrary.plain tupleName insertEach ⟨[], 0⟩
        (⟨(), "{}", 1⟩, fun _ => ⟨.ok (), fun _ => .ok ""⟩)).2.entered = [1] ∧
      insertEach.reads (.insertDocument ⟨literal "streams", literal "sample", none,
        .asJson ⟨[.stream 1 ".get_document()"], Arrival.tuple⟩⟩) = [1] := by
  refine ⟨((one_port_iff insertEach tupleName rfl).1).mpr ?_, rfl, rfl⟩
  intro i call isCall
  cases isCall
  exact Or.inr (Or.inr ⟨i, List.mem_singleton_self _, fun _ member => List.mem_singleton.mp member⟩)

def queryOfPort0 : FindParameter Unit String where
  type := .prim .rstring
  fragments := [.stream 0 ".get_query()"]
  atStart _ := ("" : String)
  eval := Arrival.tuple
  attributeFree := nofun

def deleteSpec : Specification Unit String .delete 1 where
  numberOfInputPorts := 2
  attributes _ := .prim .rstring
  assignment _ :=
    .operation (.removeDocument .removeDocument (literal "streams") (literal "sample"))
  findQuery := some queryOfPort0
  noFindQuery := nofun
  portsExist i call isCall port member := by
    cases isCall
    cases member
  queryPortsExist := by
    intro expr given port member
    cases given
    cases List.mem_singleton.mp member
    exact Nat.zero_lt_two

theorem query_of_other_port :
    deleteSpec.errors tupleName = [] ∧
      (process SplRuntime.plain DriverLibrary.plain tupleName deleteSpec ⟨[], 0⟩
        (⟨(), "{}", 1⟩, fun _ => ⟨.ok (), fun _ => .ok ""⟩)).2.entered = [0] ∧
      deleteSpec.reads (.removeDocument .removeDocument (literal "streams") (literal "sample")) =
        [0] ∧
      ¬ deleteSpec.PortSafe tupleName := by
  refine ⟨rfl, rfl, rfl, ?_⟩
  intro safe
  have same := safe 1 Nat.one_lt_two 0 rfl _ rfl 0 (List.mem_singleton_self _)
  cases same

end TwoPorts

end StreamsMongo.Write
