import StreamsMongo.Codec.Encoder
import StreamsMongo.Operators.WriteRuns

set_option autoImplicit false

namespace StreamsMongo.Write

section Documents

variable {In : Type} (rt : SplRuntime) (lib : DriverLibrary)

def DataArgument.Supported : DataArgument In → Prop
  | .value t _ => t.Supported
  | .asJson _ => True

def DataArgument.Clean (tuple : In) : DataArgument In → Prop
  | .value t expr => t.KeysClean (expr.eval tuple)
  | .asJson expr => ∃ obj, lib.fromjson (expr.eval tuple) = .ok obj

def WriteArguments.Clean (args : WriteArguments In) (tuple : In) : Prop :=
  args.data.Clean lib tuple ∧ ∀ key ∈ args.key, nul ∉ (key.eval tuple).toList

theorem data_returns_iff (data : DataArgument In) (supported : data.Supported) (tuple : In) :
    (∃ made, (data.eval tuple).build rt lib = .ok made) ↔ data.Clean lib tuple := by
  cases data with
  | value t expr =>
    have settles := BSONCommon.buildBSONObject_settles rt t supported (expr.eval tuple)
    exact settles.returns_iff
  | asJson expr =>
    exact Loops.bind_total_returns_iff (lib.fromjson (expr.eval tuple)) _ fun obj => ⟨_, rfl⟩

theorem bsonObj_returns_iff (args : WriteArguments In) (supported : args.data.Supported)
    (tuple : In) : (∃ obj, args.bsonObj rt lib tuple = .ok obj) ↔ args.Clean lib tuple := by
  rw [WriteArguments.Clean, ← data_returns_iff rt lib args.data supported tuple]
  unfold WriteArguments.bsonObj BSONCommon.buildBSONObjectWithKey
  cases args.key with
  | none =>
    simp only [Option.not_mem_none, false_imp_iff, implies_true, and_true]
    exact Loops.bind_total_returns_iff _ _ fun made => ⟨_, rfl⟩
  | some key =>
    simp only [Option.mem_some_iff, forall_eq']
    have appends := fun made : AppendFunction × CppValue =>
      (BSONObjBuilder.append_settles [] made.1 (key.eval tuple) made.2).returns_iff
    exact Loops.bind_returns_iff _ _ appends

end Documents

section FindQuery

variable {Ext Tup : Type} (rt : SplRuntime) (lib : DriverLibrary)

def FindClean : (t : SplType) → t.Value → Prop
  | .prim .rstring, text => ∃ obj, lib.fromjson (QueryCommon.cString text) = .ok obj
  | t, value => t.KeysClean value

theorem findQueryFromJson_returns_iff (text : String) :
    (∃ obj, QueryCommon.findQueryFromJson lib text = .ok obj) ↔
      ∃ obj, lib.fromjson (QueryCommon.cString text) = .ok obj := by
  rw [QueryCommon.findQueryFromJson]
  cases lib.fromjson (QueryCommon.cString text) with
  | ok obj => exact Iff.rfl
  | error e => cases e <;> exact ⟨nofun, nofun⟩

theorem buildFindFieldsBO_returns_iff (t : SplType) (supported : t.Supported) (value : t.Value) :
    (∃ obj, QueryCommon.buildFindFieldsBO rt t value = .ok obj) ↔ t.KeysClean value := by
  rw [← (BSONCommon.buildBSONObject_settles rt t supported value).returns_iff]
  exact Loops.bind_total_returns_iff _ _ fun made => ⟨_, rfl⟩

theorem buildFindQueryBO_returns_iff (t : SplType) (supported : t.Supported) (value : t.Value) :
    (∃ obj, QueryCommon.buildFindQueryBO rt lib t value = .ok obj) ↔ FindClean lib t value := by
  -- Every type but `rstring` is encoded like the `findFields` map.
  have built := buildFindFieldsBO_returns_iff rt t supported value
  cases t with
  | prim p =>
    cases p with
    | rstring => exact findQueryFromJson_returns_iff lib value
    | _ => exact built
  | _ => exact built

def findQuerySupported (param : Option (FindParameter Ext Tup)) : Prop :=
  ∀ expr ∈ param, expr.type.Supported

def findQueryClean (param : Option (FindParameter Ext Tup)) (arrival : Arrival Ext Tup) : Prop :=
  ∀ expr ∈ param, hasStreamAttributes expr.fragments = true →
    FindClean lib expr.type (expr.eval arrival)

theorem currentBO_returns_iff (param : Option (FindParameter Ext Tup))
    (supported : findQuerySupported param) (member : BSONObj) (arrival : Arrival Ext Tup) :
    (∃ obj, QueryCommon.currentBO (QueryCommon.buildFindQueryBO rt lib) param member arrival =
      .ok obj) ↔ findQueryClean lib param arrival := by
  cases param with
  | none => exact iff_of_true ⟨member, rfl⟩ nofun
  | some expr =>
    have built := buildFindQueryBO_returns_iff rt lib expr.type (supported expr rfl)
      (expr.eval arrival)
    unfold QueryCommon.currentBO findQueryClean
    cases streams : hasStreamAttributes expr.fragments with
    | true => simpa [streams] using built
    | false => simp [streams]

end FindQuery

def Operation.Supported {In : Type} {op : Operator} : Operation In op → Prop
  | .insertDocument args | .updateDocument _ args => args.data.Supported
  | .removeDocument .. => True

variable {Ext Tup : Type} {op : Operator} {n : Nat} (spec : Specification Ext Tup op n)

section DriverCall

variable (rt : SplRuntime) (lib : DriverLibrary)

def Operation.Clean (arrival : Arrival Ext Tup) : Operation (Arrival Ext Tup) op → Prop
  | .insertDocument args => args.Clean lib arrival
  | .updateDocument _ args => args.Clean lib arrival ∧ findQueryClean lib spec.findQuery arrival
  | .removeDocument .. => findQueryClean lib spec.findQuery arrival

theorem driverCall_returns_iff (state : State) (arrival : Arrival Ext Tup)
    (call : Operation (Arrival Ext Tup) op) (supported : call.Supported)
    (querySupported : findQuerySupported spec.findQuery) :
    (∃ issued, call.driverCall rt lib (findQueryBO rt lib spec state) arrival = .ok issued) ↔
      call.Clean spec lib arrival := by
  have query := currentBO_returns_iff rt lib spec.findQuery querySupported state.findQueryBO arrival
  cases call with
  | insertDocument args =>
    rw [Operation.Clean, ← bsonObj_returns_iff rt lib args supported arrival]
    exact Loops.bind_total_returns_iff _ _ fun bsonObj => ⟨_, rfl⟩
  | updateDocument function args =>
    rw [Operation.Clean, ← bsonObj_returns_iff rt lib args supported arrival, ← query]
    refine Loops.bind_returns_iff (args.bsonObj rt lib arrival) _ fun bsonObj => ?_
    exact Loops.bind_total_returns_iff _ _ fun document => ⟨_, rfl⟩
  | removeDocument function db collection =>
    rw [Operation.Clean, ← query]
    exact Loops.bind_total_returns_iff _ _ fun document => ⟨_, rfl⟩

end DriverCall

section Reporting

variable (rt : SplRuntime) (lib : DriverLibrary) (getCppTupleName : Nat → String) (state : State)
  (input : Arrival Ext Tup × (Fin n → Driver))

def Failed (i : Fin n) : Prop :=
  ∃ call, (spec.assignment i).operation? = some call ∧
    admits (call.guard getCppTupleName spec.numberOfInputPorts) input.1.port = true ∧
    match call.driverCall rt lib (findQueryBO rt lib spec state) input.1 with
    | .error _ => True
    | .ok issued => ∃ errorMsg, (input.2 i).getLastError issued = .ok errorMsg ∧ errorMsg ≠ ""

def Assignment.errorMsg {In : Type} : {t : SplType} → Assignment In op t → t.Value → String
  | _, .operation _, errorMsg => errorMsg
  | _, _, _ => ""

structure Reported (outcome : Outcome spec) : Prop where
  attempted : outcome.entered =
    (List.finRange n).filter (executes spec getCppTupleName input.1.port)
  submitted : (∃ i, Failed spec rt lib getCppTupleName state input i) →
    ∃ otuple, outcome.submitted = some otuple ∧
      ∀ i, executes spec getCppTupleName input.1.port i = true →
        (Failed spec rt lib getCppTupleName state input i ↔
          (spec.assignment i).errorMsg (otuple i) ≠ "")

structure Connected : Prop where
  connection : ∀ i, (input.2 i).connection = .ok ()
  getLastError : ∀ i issued, ∃ errorMsg, (input.2 i).getLastError issued = .ok errorMsg

structure Specification.Supported : Prop where
  operations : ∀ i call, (spec.assignment i).operation? = some call → call.Supported
  findQuery : findQuerySupported spec.findQuery

theorem failed_iff_answer (quiet : Quiet spec rt lib getCppTupleName state input) (i : Fin n) :
    Failed spec rt lib getCppTupleName state input i ↔
      failedAnswer (answer spec rt lib getCppTupleName state input i) = true := by
  have returns := quiet i
  unfold Failed answer
  generalize (spec.assignment i).operation? = operation at returns
  cases operation with
  | none => exact ⟨nofun, nofun⟩
  | some call =>
    by_cases admitted : admits (call.guard getCppTupleName spec.numberOfInputPorts) input.1.port
    · obtain ⟨issued, errorMsg, built, _, answered⟩ := returns call rfl admitted
      simp [admitted, built, answered, failedAnswer]
    · simp [admitted, failedAnswer]

theorem Assignment.errorMsg_text {In : Type} (call : Operation In op) (errorMsg : String) :
    (Assignment.operation call).errorMsg (if errorMsg = "" then (SplType.prim .rstring).cleared
      else (Assignment.operation call).text errorMsg) = errorMsg := by
  split_ifs with silent
  · exact silent.symm
  · rfl

theorem reported_errorMsg (i : Fin n)
    (executed : executes spec getCppTupleName input.1.port i = true) :
    (spec.assignment i).errorMsg (reported spec rt lib getCppTupleName state input i) ≠ "" ↔
      failedAnswer (answer spec rt lib getCppTupleName state input i) = true := by
  unfold reported
  unfold executes at executed
  generalize answer spec rt lib getCppTupleName state input i = given
  generalize spec.assignment i = assignment at executed
  generalize spec.attributes i = t at assignment
  cases assignment with
  | unassigned => cases executed
  | asIs init => cases executed
  | operation call =>
    cases given with
    | none => exact ⟨fun differs => absurd rfl differs, nofun⟩
    | some a =>
      rw [show failedAnswer (some a) = decide (a.2 ≠ "") from rfl, decide_eq_true_iff]
      exact not_congr (Eq.congr_left (Assignment.errorMsg_text call a.2))

theorem quiet_of_clean (supported : spec.Supported) (connected : Connected input)
    (clean : ∀ i call, (spec.assignment i).operation? = some call →
      admits (call.guard getCppTupleName spec.numberOfInputPorts) input.1.port = true →
      call.Clean spec lib input.1) : Quiet spec rt lib getCppTupleName state input := by
  intro i call isCall admitted
  obtain ⟨issued, built⟩ := (driverCall_returns_iff spec rt lib state input.1 call
    (supported.operations i call isCall) supported.findQuery).mpr (clean i call isCall admitted)
  obtain ⟨errorMsg, answered⟩ := connected.getLastError i issued
  exact ⟨issued, errorMsg, built, connected.connection i, answered⟩

theorem process_raised (noAsIs : NoAsIs spec) (i : Fin n) (call : Operation (Arrival Ext Tup) op)
    (isCall : (spec.assignment i).operation? = some call)
    (admitted : admits (call.guard getCppTupleName spec.numberOfInputPorts) input.1.port = true)
    (e : Raised)
    (raised : call.driverCall rt lib (findQueryBO rt lib spec state) input.1 = .error e) :
    (process rt lib getCppTupleName spec state input).2.submitted = none := by
  have stops : effect spec rt lib getCppTupleName state input i =
      .stopped true none (.raised e) := by
    unfold effect
    generalize spec.assignment i = assignment at isCall
    generalize spec.attributes i = t at assignment
    cases assignment with
    | unassigned => cases isCall
    | asIs init => cases isCall
    | operation other =>
      cases isCall
      simp [Assignment.execute, Operation.execute, admitted, raised]
  have stopped := foldl_assign_stopped spec rt lib getCppTupleName state input noAsIs
    (started spec state) (List.finRange n) i (List.mem_finRange i) ⟨_, _, _, stops⟩
  rw [Option.isSome_iff_ne_none, ne_eq, ← Option.isNone_iff_eq_none] at stopped
  simp [process, Progress.finish, stopped]

end Reporting

/-- An exception is the one failure that is not reported. -/
theorem failures_reported_iff (rt : SplRuntime) (lib : DriverLibrary)
    (getCppTupleName : Nat → String) (supported : spec.Supported) (noAsIs : NoAsIs spec)
    (state : State) (input : Arrival Ext Tup × (Fin n → Driver)) (connected : Connected input) :
    Reported spec rt lib getCppTupleName state input
        (process rt lib getCppTupleName spec state input).2 ↔
      ∀ i call, (spec.assignment i).operation? = some call →
        admits (call.guard getCppTupleName spec.numberOfInputPorts) input.1.port = true →
        call.Clean spec lib input.1 := by
  constructor
  · intro reported i call isCall admitted
    rw [← driverCall_returns_iff spec rt lib state input.1 call
      (supported.operations i call isCall) supported.findQuery]
    cases built : call.driverCall rt lib (findQueryBO rt lib spec state) input.1 with
    | ok issued => exact ⟨issued, rfl⟩
    | error e =>
      have failed : Failed spec rt lib getCppTupleName state input i :=
        ⟨call, isCall, admitted, by rw [built]; trivial⟩
      obtain ⟨otuple, submitted, _⟩ := reported.submitted ⟨i, failed⟩
      rw [process_raised spec rt lib getCppTupleName state input noAsIs i call isCall admitted e
        built] at submitted
      cases submitted
  · intro clean
    have quiet := quiet_of_clean spec rt lib getCppTupleName state input supported connected clean
    rw [process_quiet spec rt lib getCppTupleName state input noAsIs quiet]
    refine ⟨rfl, ?_⟩
    rintro ⟨i, failed⟩
    have found : ((List.finRange n).any fun i =>
        failedAnswer (answer spec rt lib getCppTupleName state input i)) = true :=
      List.any_eq_true.mpr ⟨i, List.mem_finRange i,
        (failed_iff_answer spec rt lib getCppTupleName state input quiet i).mp failed⟩
    refine ⟨reported spec rt lib getCppTupleName state input, if_pos found, ?_⟩
    intro j executed
    rw [failed_iff_answer spec rt lib getCppTupleName state input quiet j,
      reported_errorMsg spec rt lib getCppTupleName state input j executed]

theorem failures_reported_iff_duplicate :
    Reported (insertSpec emptyDocuments) SplRuntime.plain DriverLibrary.plain tupleName ⟨[], 0⟩
      (answering ![("" : String), "E11000 duplicate key"])
      (process SplRuntime.plain DriverLibrary.plain tupleName (insertSpec emptyDocuments) ⟨[], 0⟩
        (answering ![("" : String), "E11000 duplicate key"])).2 := by
  refine (failures_reported_iff (insertSpec emptyDocuments) SplRuntime.plain DriverLibrary.plain
    tupleName ⟨?_, nofun⟩ (fun _ => rfl) ⟨[], 0⟩ _ ⟨fun _ => rfl, fun _ _ => ⟨_, rfl⟩⟩).mpr ?_
  · intro i call isCall
    cases isCall
    trivial
  · intro i call isCall admitted
    cases isCall
    exact ⟨⟨[], rfl⟩, nofun⟩

def invalidFirst : Fin 2 → String := ![("hello" : String), "{}"]

-- The first document does not parse, so the second insert is never attempted and nothing is told.
theorem invalid_json_not_reported :
    executes (insertSpec invalidFirst) tupleName 0 1 = true ∧
    Failed (insertSpec invalidFirst) SplRuntime.plain DriverLibrary.plain tupleName ⟨[], 0⟩
      (answering fun _ => "") 0 ∧
    (process SplRuntime.plain DriverLibrary.plain tupleName (insertSpec invalidFirst) ⟨[], 0⟩
      (answering fun _ => "")).2 =
        ⟨[0], [], none, some (.raised (.msgassert "code FailedToParse"))⟩ ∧
    ¬ Reported (insertSpec invalidFirst) SplRuntime.plain DriverLibrary.plain tupleName ⟨[], 0⟩
      (answering fun _ => "") (process SplRuntime.plain DriverLibrary.plain tupleName
        (insertSpec invalidFirst) ⟨[], 0⟩ (answering fun _ => "")).2 := by
  refine ⟨rfl, ⟨_, rfl, rfl, trivial⟩, rfl, ?_⟩
  intro reported
  exact absurd reported.attempted (by decide)

end StreamsMongo.Write
