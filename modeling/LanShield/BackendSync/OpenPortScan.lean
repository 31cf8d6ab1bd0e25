import LanShield.BackendSync.OpenPortsFinder
import Mathlib.Data.List.Nodup
import Mathlib.Data.List.Perm.Basic

/-!
# What the scan for open ports finds

The jobs' synchronized blocks take effect one behind the other, and each
enters one answer into the map.  What the map holds in the end depends on the
answers only: for every uid one record with all ports it was reported for.
-/

namespace LanShield.BackendSync

open LanShield.Library

/-! ## Records up to their stamps -/

/-- A record without its random uuid and its time. -/
def OpenPorts.unstamped (openPorts : OpenPorts) : OpenPorts :=
  { openPorts with uuid := 0, timeOpenPortsObserved := 0 }

private theorem OpenPorts.unstamped_addPort (protocol : PortProtocol)
    (port : Nat)
    (openPorts : OpenPorts) :
    (openPorts.addPort protocol port).unstamped =
      openPorts.unstamped.addPort protocol port := by
  cases protocol <;> rfl

/-- An answer that is entered into the map. -/
structure Answer where
  uid : Int
  protocol : PortProtocol
  port : Nat
  deriving DecidableEq, Repr

/-- The ports of a uid among the answers. -/
def portsOf (answers : List Answer) (uid : Int) (protocol : PortProtocol) :
    Finset Nat :=
  ((answers.filter fun answer =>
      answer.uid = uid ∧ answer.protocol = protocol).map
    Answer.port).toFinset

private theorem mem_portsOf {answers : List Answer} {uid : Int}
    {protocol : PortProtocol} {port : Nat} :
    port ∈ portsOf answers uid protocol ↔
      ⟨uid, protocol, port⟩ ∈ answers := by
  simp only [portsOf, List.mem_toFinset, List.mem_map, List.mem_filter,
    decide_eq_true_eq]
  constructor
  · rintro ⟨answer, ⟨member, rfl, rfl⟩, rfl⟩
    exact member
  · intro member
    exact ⟨_, ⟨member, rfl, rfl⟩, rfl⟩

private theorem portsOf_concat (answers : List Answer) (answer : Answer)
    (uid : Int)
    (protocol : PortProtocol) :
    portsOf (answers ++ [answer]) uid protocol =
      if answer.uid = uid ∧ answer.protocol = protocol then
        insert answer.port (portsOf answers uid protocol)
      else
        portsOf answers uid protocol := by
  ext port
  split
  · next same =>
    obtain ⟨rfl, rfl⟩ := same
    rw [mem_portsOf, Finset.mem_insert, mem_portsOf, List.mem_append,
      List.mem_singleton, or_comm]
    cases answer
    simp
  · next other =>
    rw [mem_portsOf, mem_portsOf, List.mem_append, List.mem_singleton]
    constructor
    · rintro (member | rfl)
      · exact member
      · exact absurd ⟨rfl, rfl⟩ other
    · exact Or.inl

/-- The record of a uid with these ports. -/
def recordOf (device : Device) (uid : Int) (tcpPorts udpPorts : Finset Nat) :
    OpenPorts :=
  let packageName := getPackageNameFromUid uid device.packageManager
  { uuid := 0
    packageLabel := getPackageLabel packageName device.packageManager
    packageName
    udpPorts
    tcpPorts
    timeOpenPortsObserved := 0
    shouldSync := true
    scheduledForDeletion := false }

/-- The record of a uid after these answers. -/
def recordAfter (device : Device) (answers : List Answer) (uid : Int) :
    OpenPorts :=
  recordOf device uid (portsOf answers uid .tcp) (portsOf answers uid .udp)

private theorem recordAfter_concat_other {device : Device}
    {answers : List Answer}
    {answer : Answer} {uid : Int} (other : uid ≠ answer.uid) :
    recordAfter device (answers ++ [answer]) uid =
      recordAfter device answers uid := by
  simp [recordAfter, portsOf_concat, other.symm]

private theorem recordAfter_concat_same (device : Device)
    (answers : List Answer)
    (answer : Answer) :
    recordAfter device (answers ++ [answer]) answer.uid =
      (recordAfter device answers answer.uid).addPort answer.protocol
        answer.port := by
  obtain ⟨uid, protocol, port⟩ := answer
  cases protocol <;>
    simp [recordAfter, recordOf, portsOf_concat, OpenPorts.addPort]

/-! ## The map after a list of answers -/

/-- The map holds one record for each of the uids, by the order in which they
came up. -/
structure PortMap.Holds (device : Device) (answers : List Answer)
    (uids : List Int) (map : PortMap) : Prop where
  nodup : uids.Nodup
  mem_uids : ∀ uid, uid ∈ uids ↔ ∃ answer ∈ answers, answer.uid = uid
  numbered : map.openPortsByUid = uids.zipIdx
  created :
    map.created.map OpenPorts.unstamped =
      uids.map (recordAfter device answers)

private theorem lookup_zipIdx_of_mem :
    ∀ {keys : List Int} {key : Int} (start : Nat), key ∈ keys →
      ∃ index, keys[index]? = some key ∧
        (keys.zipIdx start).lookup key = some (start + index)
  | head :: rest, key, start, member => by
      rw [List.zipIdx_cons, List.lookup_cons]
      by_cases first : key = head
      · subst first
        exact ⟨0, rfl, by simp⟩
      · have later := (List.mem_cons.mp member).resolve_left first
        obtain ⟨index, here, found⟩ :=
          lookup_zipIdx_of_mem (start + 1) later
        refine ⟨index + 1, here, ?_⟩
        have different : (key == head) = false := beq_false_of_ne first
        rw [different]
        exact found.trans (congrArg some (by omega))

private theorem lookup_zipIdx_of_not_mem :
    ∀ {keys : List Int} {key : Int} (start : Nat), key ∉ keys →
      (keys.zipIdx start).lookup key = none
  | [], _, _, _ => rfl
  | head :: rest, key, start, absent => by
      rw [List.mem_cons, not_or] at absent
      have different : (key == head) = false := beq_false_of_ne absent.1
      rw [List.zipIdx_cons, List.lookup_cons, different]
      exact lookup_zipIdx_of_not_mem (start + 1) absent.2

private theorem filterMap_zipIdx {Key Item : Type} {items : List Item} :
    ∀ {keys : List Key} (start : Nat),
      items.length = start + keys.length →
        (keys.zipIdx start).filterMap (fun entry => items[entry.2]?) =
          items.drop start
  | [], start, length_eq => by
      have none : items.drop start = [] :=
        List.drop_of_length_le length_eq.le
      rw [none]
      rfl
  | head :: rest, start, length_eq => by
      rw [List.length_cons] at length_eq
      have inside : start < items.length := by omega
      have later :=
        @filterMap_zipIdx Key Item items rest (start + 1) (by omega)
      rw [List.zipIdx_cons, List.filterMap_cons,
        List.drop_eq_getElem_cons inside, later]
      simp [inside]

private theorem modify_concat {Item : Type} (change : Item → Item)
    (last : Item) :
    ∀ items : List Item,
      (items ++ [last]).modify items.length change = items ++ [change last]
  | [] => rfl
  | head :: rest => congrArg (List.cons head) (modify_concat change last rest)

section Record

variable {device : Device} {uid : Int} {protocol : PortProtocol}
  {port number : Nat} {map : PortMap}

private theorem PortMap.record_of_some (found : map.get uid = some number) :
    map.record device uid protocol port = map.add number protocol port := by
  rw [PortMap.record, PortMap.getOrPut, found]

private theorem PortMap.record_of_none (missing : map.get uid = none) :
    map.record device uid protocol port =
      ((map.create device uid).put uid map.created.length).add
        map.created.length protocol port := by
  rw [PortMap.record, PortMap.getOrPut, missing]

end Record

namespace PortMap.Holds

variable {device : Device} {answers : List Answer} {uids : List Int}
  {map : PortMap}

private theorem length_created (holds : map.Holds device answers uids) :
    map.created.length = uids.length := by
  simpa using congrArg List.length holds.created

/-- The records of the map are those that were created. -/
private theorem values_eq (holds : map.Holds device answers uids) :
    map.values = map.created := by
  rw [PortMap.values, holds.numbered, filterMap_zipIdx 0]
  · exact List.drop_zero
  · rw [holds.length_created, Nat.zero_add]

theorem empty (device : Device) :
    PortMap.empty.Holds device [] [] where
  nodup := List.nodup_nil
  mem_uids := by simp
  numbered := rfl
  created := rfl

/-- One more answer for a uid that has a record. -/
private theorem record_old (holds : map.Holds device answers uids)
    {answer : Answer}
    (old : answer.uid ∈ uids) :
    (map.record device answer.uid answer.protocol answer.port).Holds device
      (answers ++ [answer]) uids := by
  obtain ⟨index, here, found⟩ := lookup_zipIdx_of_mem 0 old
  rw [← holds.numbered, Nat.zero_add] at found
  rw [PortMap.record_of_some found]
  refine ⟨holds.nodup, ?_, holds.numbered, ?_⟩
  · intro uid
    rw [holds.mem_uids]
    constructor
    · rintro ⟨other, member, rfl⟩
      exact ⟨other, List.mem_append_left _ member, rfl⟩
    · rintro ⟨other, member, rfl⟩
      rcases List.mem_append.mp member with earlier | last
      · exact ⟨other, earlier, rfl⟩
      · rw [List.mem_singleton.mp last]
        exact (holds.mem_uids _).mp old
  · apply List.ext_getElem?
    intro position
    have before := congrArg (fun records => records[position]?) holds.created
    simp only [List.getElem?_map] at before
    rw [PortMap.add, List.getElem?_map, List.getElem?_modify,
      List.getElem?_map]
    by_cases same : index = position
    · subst same
      rw [here] at before ⊢
      obtain ⟨record, stored, unstamped⟩ := Option.map_eq_some_iff.mp before
      simp [stored, OpenPorts.unstamped_addPort, unstamped,
        recordAfter_concat_same]
    · cases there : uids[position]? with
      | none =>
          rw [there] at before
          simpa [same] using before
      | some uid =>
          have other : uid ≠ answer.uid := by
            rintro rfl
            have inside := (List.getElem?_eq_some_iff.mp here).1
            have equal := here.trans there.symm
            exact same ((List.getElem?_inj inside holds.nodup).mp equal)
          rw [there] at before
          simp [same, before, recordAfter_concat_other other]

/-- The first answer for a uid. -/
private theorem record_new (holds : map.Holds device answers uids)
    {answer : Answer}
    (new : answer.uid ∉ uids) :
    (map.record device answer.uid answer.protocol answer.port).Holds device
      (answers ++ [answer]) (uids ++ [answer.uid]) := by
  have missing : map.get answer.uid = none := by
    rw [PortMap.get, holds.numbered]
    exact lookup_zipIdx_of_not_mem 0 new
  have last :
      (createInstance device map.created.length
          (getPackageNameFromUid answer.uid device.packageManager)
          (getPackageLabel
            (getPackageNameFromUid answer.uid device.packageManager)
            device.packageManager)).unstamped =
        recordAfter device answers answer.uid := by
    have none (protocol : PortProtocol) :
        portsOf answers answer.uid protocol = ∅ := by
      apply Finset.eq_empty_of_forall_notMem
      intro port member
      apply new
      apply (holds.mem_uids _).mpr
      exact ⟨_, mem_portsOf.mp member, rfl⟩
    rw [recordAfter, none, none]
    rfl
  have others :
      uids.map (recordAfter device (answers ++ [answer])) =
        uids.map (recordAfter device answers) := by
    apply List.map_congr_left
    intro uid member
    apply recordAfter_concat_other
    rintro rfl
    exact new member
  rw [PortMap.record_of_none missing]
  refine ⟨?_, ?_, ?_, ?_⟩
  · have appended := holds.nodup.concat new
    rwa [List.concat_eq_append] at appended
  · intro uid
    rw [List.mem_append, holds.mem_uids, List.mem_singleton]
    simp only [List.mem_append, List.mem_singleton, or_and_right,
      exists_or, exists_eq_left]
    exact or_congr_right eq_comm
  · rw [List.zipIdx_append, ← holds.numbered, ← holds.length_created]
    simp [PortMap.add, PortMap.put, PortMap.create]
  · have whole :
        ((map.create device answer.uid).created.modify map.created.length
            (OpenPorts.addPort answer.protocol answer.port)) =
          map.created ++
            [(createInstance device map.created.length
                (getPackageNameFromUid answer.uid device.packageManager)
                (getPackageLabel
                  (getPackageNameFromUid answer.uid device.packageManager)
                  device.packageManager)).addPort
              answer.protocol answer.port] := by
      rw [PortMap.create]
      exact modify_concat _ _ _
    rw [PortMap.add, PortMap.put, whole, List.map_append, List.map_append,
      others, ← holds.created, List.map_singleton, List.map_singleton,
      OpenPorts.unstamped_addPort, last, recordAfter_concat_same]

theorem record (holds : map.Holds device answers uids) (answer : Answer) :
    ∃ after,
      (map.record device answer.uid answer.protocol answer.port).Holds device
        (answers ++ [answer]) after := by
  by_cases old : answer.uid ∈ uids
  · exact ⟨uids, holds.record_old old⟩
  · exact ⟨_, holds.record_new old⟩

end PortMap.Holds

/-! ## Blocks as wholes -/

/-- What is left of a block, done at once. -/
def blockEffect (device : Device) (port : Nat) (step : MapStep)
    (map : PortMap) : PortMap :=
  match step with
  | .get uid protocol => map.record device uid protocol port
  | .create uid protocol =>
      ((map.create device uid).put uid map.created.length).add
        map.created.length protocol port
  | .put uid number protocol =>
      (map.put uid number).add number protocol port
  | .add number protocol => map.add number protocol port

/-- What one step inside of a block does, and what is left. -/
private theorem blockEffect_advance (device : Device) (port : Nat)
    (step : MapStep)
    (map : PortMap) :
    blockEffect device port step map =
      ((advanceBlock device port map step).2.elim id
          (blockEffect device port)) (advanceBlock device port map step).1 := by
  cases step with
  | get uid protocol =>
      cases found : map.get uid with
      | some number =>
          rw [blockEffect, PortMap.record_of_some found, advanceBlock, found]
          rfl
      | none =>
          rw [blockEffect, PortMap.record_of_none found, advanceBlock, found]
          rfl
  | create uid protocol => rfl
  | put uid number protocol => rfl
  | add number protocol => rfl

theorem hasEffect (device : Device) :
    Monitor.HasEffect (scanProgram device) (blockEffect device) where
  continues := by
    intro port step map after later advances
    have whole := blockEffect_advance device port step map
    have advanced :
        advanceBlock device port map step = (after, some later) :=
      advances
    rw [advanced] at whole
    exact whole
  ends := by
    intro port step map after advances
    have whole := blockEffect_advance device port step map
    have advanced : advanceBlock device port map step = (after, none) :=
      advances
    rw [advanced] at whole
    exact whole

/-- The block that enters an answer. -/
def Answer.block (answer : Answer) : Nat × MapStep :=
  (answer.port, .get answer.uid answer.protocol)

private theorem holds_replay (device : Device) (answers : List Answer) :
    ∃ uids,
      (Monitor.replay (blockEffect device) PortMap.empty
          (answers.map Answer.block)).Holds device answers uids := by
  induction answers using List.reverseRecOn with
  | nil => exact ⟨[], PortMap.Holds.empty device⟩
  | append_singleton answers answer inductionHypothesis =>
      obtain ⟨uids, holds⟩ := inductionHypothesis
      rw [List.map_append, List.map_singleton]
      rw [Answer.block, Monitor.replay_concat]
      exact holds.record answer

/-! ## The answers of a job -/

/-- The answers to these checks, as far as they are entered. -/
def answersOf (device : Device) (port : Nat) (checks : List PortCheck) :
    List Answer :=
  checks.filterMap fun check =>
    (connectionOwner device port check).toOption.bind fun uid =>
      if uid ≠ invalidUid then some ⟨uid, check.protocol, port⟩ else none

section Checks

variable {device : Device} {port : Nat} {check : PortCheck}
  {checks : List PortCheck} {uid : Int}

private theorem answersOf_of_invalid
    (answers : connectionOwner device port check = .ok uid)
    (invalid : uid = invalidUid) :
    answersOf device port (check :: checks) =
      answersOf device port checks := by
  subst invalid
  rw [answersOf, List.filterMap_cons, answers]
  rfl

private theorem answersOf_of_valid
    (answers : connectionOwner device port check = .ok uid)
    (valid : uid ≠ invalidUid) :
    answersOf device port (check :: checks) =
      ⟨uid, check.protocol, port⟩ :: answersOf device port checks := by
  have kept :
      ((Except.ok uid : Except SecurityException Int).toOption.bind
          fun uid =>
            if uid ≠ invalidUid then
              some (⟨uid, check.protocol, port⟩ : Answer)
            else
              none) =
        some ⟨uid, check.protocol, port⟩ :=
    if_pos valid
  rw [answersOf, List.filterMap_cons, answers, kept]
  rfl

private theorem toOption_eq_some {Failure Value : Type}
    {outcome : Except Failure Value} {value : Value} :
    outcome.toOption = some value ↔ outcome = .ok value := by
  cases outcome with
  | error failure => simp [Except.toOption]
  | ok other => simp [Except.toOption]

private theorem mem_answersOf {answer : Answer} :
    answer ∈ answersOf device port checks ↔
      answer.port = port ∧ answer.uid ≠ invalidUid ∧
        ∃ check ∈ checks,
          check.protocol = answer.protocol ∧
            connectionOwner device port check = .ok answer.uid := by
  rw [answersOf, List.mem_filterMap]
  constructor
  · rintro ⟨check, member, entered⟩
    obtain ⟨uid, answers, kept⟩ := Option.bind_eq_some_iff.mp entered
    by_cases valid : uid ≠ invalidUid
    · rw [if_pos valid] at kept
      obtain rfl := Option.some.inj kept
      exact
        ⟨rfl, valid, check, member, rfl, toOption_eq_some.mp answers⟩
    · rw [if_neg valid] at kept
      cases kept
  · rintro ⟨rfl, valid, check, member, same, answers⟩
    refine ⟨check, member, ?_⟩
    rw [answers]
    refine (if_pos valid).trans ?_
    rw [same]

end Checks

/-! ## The answers on their way -/

/-- The answers a job has not entered yet. -/
def pendingAt (device : Device) (port : Nat) : JobPoint → List Answer
  | .launched => answersOf device port portChecks
  | .asking checks => answersOf device port checks
  | .answered uid check checks =>
      ⟨uid, check.protocol, port⟩ :: answersOf device port checks
  | .cancelled checks => answersOf device port checks

/-- Where a job stands, or will stand behind its block. -/
def outsidePoint : Monitor.Point JobPoint MapStep → JobPoint
  | .outside here => here
  | .inside _ behind => behind

section Moves

variable {device : Device} {port : Nat} {thrown thrown' : Bool}
  {here there behind : JobPoint} {first : MapStep}

/-- Everything a job does outside of its blocks. -/
inductive JobMove (device : Device) (thrown : Bool) (port : Nat) :
    JobPoint → Monitor.Move JobPoint MapStep Bool → Prop where
  | begin (calm : thrown = false) :
      JobMove device thrown port .launched
        (.go (.asking portChecks) thrown)
  | drop (late : thrown = true) :
      JobMove device thrown port .launched
        (.go (.cancelled portChecks) thrown)
  | finish : JobMove device thrown port (.asking []) .rest
  | throws {check : PortCheck} {checks : List PortCheck}
      {failure : SecurityException}
      (fails : connectionOwner device port check = .error failure) :
      JobMove device thrown port (.asking (check :: checks))
        (.go (.cancelled (check :: checks)) true)
  | owned {check : PortCheck} {checks : List PortCheck} {uid : Int}
      (answers : connectionOwner device port check = .ok uid)
      (valid : uid ≠ invalidUid) :
      JobMove device thrown port (.asking (check :: checks))
        (.go (.answered uid check checks) thrown)
  | free {check : PortCheck} {checks : List PortCheck} {uid : Int}
      (answers : connectionOwner device port check = .ok uid)
      (invalid : uid = invalidUid) :
      JobMove device thrown port (.asking (check :: checks))
        (.go (.asking checks) thrown)
  | enter {uid : Int} {check : PortCheck} {checks : List PortCheck} :
      JobMove device thrown port (.answered uid check checks)
        (.enter (.get uid check.protocol) (.asking checks))
  | gone {checks : List PortCheck} :
      JobMove device thrown port (.cancelled checks) .rest

private theorem nextMove_cases (device : Device) (thrown : Bool) (port : Nat)
    (here : JobPoint) :
    JobMove device thrown port here (nextMove device thrown port here) := by
  cases here with
  | launched =>
      cases thrown with
      | false => exact .begin rfl
      | true => exact .drop rfl
  | asking checks =>
      cases checks with
      | nil => exact .finish
      | cons check checks =>
          cases answers : connectionOwner device port check with
          | error failure =>
              rw [nextMove, answers]
              exact .throws answers
          | ok uid =>
              rw [nextMove, answers]
              dsimp only
              split
              · next valid => exact .owned answers valid
              · next invalid =>
                exact .free answers (Decidable.not_not.mp invalid)
  | answered uid check checks => exact .enter
  | cancelled checks => exact .gone

private theorem pendingAt_go
    (next : nextMove device thrown port here = .go there thrown') :
    pendingAt device port there = pendingAt device port here := by
  have move := nextMove_cases device thrown port here
  rw [next] at move
  cases move with
  | begin calm => rfl
  | drop late => rfl
  | throws fails => rfl
  | owned answers valid => exact (answersOf_of_valid answers valid).symm
  | free answers invalid => exact (answersOf_of_invalid answers invalid).symm

private theorem pendingAt_enter
    (next : nextMove device thrown port here = .enter first behind) :
    ∃ answer : Answer,
      answer.block = (port, first) ∧
        pendingAt device port here =
          answer :: pendingAt device port behind ∧
        ∃ checks, behind = .asking checks := by
  have move := nextMove_cases device thrown port here
  rw [next] at move
  cases move with
  | enter => exact ⟨⟨_, _, port⟩, rfl, rfl, _, rfl⟩

/-- No job gives up when every question is answered. -/
private theorem nextMove_clean
    (allAnswer :
      ∀ check, ∃ uid, connectionOwner device port check = .ok uid)
    (next : nextMove device false port here = .go there thrown') :
    thrown' = false ∧ ∀ checks, there ≠ .cancelled checks := by
  have move := nextMove_cases device false port here
  rw [next] at move
  cases move with
  | begin calm => exact ⟨rfl, by simp⟩
  | drop late => cases late
  | throws fails =>
      obtain ⟨uid, answers⟩ := allAnswer _
      rw [fails] at answers
      cases answers
  | owned answers valid => exact ⟨rfl, by simp⟩
  | free answers invalid => exact ⟨rfl, by simp⟩

end Moves

/-- The checks of the job for a port, if there is one. -/
def jobChecks (port : Nat) : List PortCheck :=
  if 1 ≤ port ∧ port ≤ 65535 then portChecks else []

/-- Each job has entered some of its answers, in their order, and has the
others still before it. -/
structure Underway (device : Device)
    (system : Monitor.System Nat JobPoint MapStep Bool PortMap)
    (answers : List Answer) : Prop where
  entered : system.entered = answers.map Answer.block
  progress :
    ∀ port,
      answers.filter (fun answer => answer.port = port) ++
          pendingAt device port (outsidePoint (system.point port)) =
        answersOf device port (jobChecks port)

/-- No job has thrown or been given up. -/
structure NoneGivenUp
    (system : Monitor.System Nat JobPoint MapStep Bool PortMap) : Prop where
  flag : system.flag = false
  point :
    ∀ port checks, outsidePoint (system.point port) ≠ .cancelled checks

section Jobs

variable {device : Device} {port : Nat} {answers : List Answer}
  {system after : Monitor.System Nat JobPoint MapStep Bool PortMap}

/-- A step that enters nothing leaves what is before each job. -/
private theorem Underway.of_pending
    (underway : Underway device system answers)
    (entered : after.entered = system.entered)
    (same :
      ∀ port,
        pendingAt device port (outsidePoint (after.point port)) =
          pendingAt device port (outsidePoint (system.point port))) :
    Underway device after answers where
  entered := entered.trans underway.entered
  progress := by
    intro port
    rw [same]
    exact underway.progress port

/-- A move of one job leaves what is before the others. -/
private theorem pendingAt_update {here : Monitor.Point JobPoint MapStep}
    (same :
      pendingAt device port (outsidePoint here) =
        pendingAt device port (outsidePoint (system.point port))) :
    ∀ other,
      pendingAt device other
          (outsidePoint (Function.update system.point port here other)) =
        pendingAt device other (outsidePoint (system.point other)) :=
  (Function.forall_update_iff system.point fun other point =>
      pendingAt device other (outsidePoint point) =
        pendingAt device other (outsidePoint (system.point other))).mpr
    ⟨same, fun _ _ => rfl⟩

theorem Underway.step (underway : Underway device system answers)
    (stepped : (scanProgram device).StepCase system port after) :
    ∃ answers', Underway device after answers' := by
  cases stepped with
  | go stands next =>
      refine ⟨answers, underway.of_pending rfl (pendingAt_update ?_)⟩
      rw [stands]
      exact pendingAt_go next
  | enter stands next free =>
      obtain ⟨answer, block, pending, -⟩ := pendingAt_enter next
      refine ⟨answers ++ [answer], ?_, fun other => ?_⟩
      · rw [List.map_append, List.map_singleton, block, underway.entered]
      · have progress := underway.progress other
        have owner : answer.port = port := congrArg Prod.fst block
        rw [List.filter_append]
        by_cases same : other = port
        · subst same
          rw [stands, outsidePoint, pending] at progress
          simpa [owner, outsidePoint] using progress
        · have different : port ≠ other := fun equal => same equal.symm
          simpa [owner, different, same] using progress
  | stay => exact ⟨answers, underway⟩
  | proceed stands advances =>
      refine ⟨answers, underway.of_pending rfl (pendingAt_update ?_)⟩
      rw [stands]
      rfl
  | finish stands advances =>
      refine ⟨answers, underway.of_pending rfl (pendingAt_update ?_)⟩
      rw [stands]
      rfl

/-- A move of one job does not give up another. -/
theorem NoneGivenUp.update (none : NoneGivenUp system)
    {here : Monitor.Point JobPoint MapStep}
    (goesOn : ∀ checks, outsidePoint here ≠ .cancelled checks) :
    ∀ other checks,
      outsidePoint (Function.update system.point port here other) ≠
        .cancelled checks :=
  (Function.forall_update_iff system.point fun _ point =>
      ∀ checks, outsidePoint point ≠ .cancelled checks).mpr
    ⟨goesOn, fun other _ => none.point other⟩

theorem NoneGivenUp.step
    (allAnswer :
      ∀ port check, ∃ uid, connectionOwner device port check = .ok uid)
    (none : NoneGivenUp system)
    (stepped : (scanProgram device).StepCase system port after) :
    NoneGivenUp after := by
  cases stepped with
  | go stands next =>
      rw [none.flag] at next
      obtain ⟨flag, clean⟩ := nextMove_clean (allAnswer port) next
      exact ⟨flag, none.update clean⟩
  | enter stands next free =>
      obtain ⟨-, -, -, rest, rfl⟩ := pendingAt_enter next
      refine ⟨none.flag, none.update fun checks => ?_⟩
      simp [outsidePoint]
  | stay => exact none
  | proceed stands advances =>
      refine ⟨none.flag, none.update fun checks => ?_⟩
      have before := none.point port checks
      rw [stands] at before
      exact before
  | finish stands advances =>
      refine ⟨none.flag, none.update fun checks => ?_⟩
      have before := none.point port checks
      rw [stands] at before
      exact before

end Jobs

/-! ## Every scan comes to its end -/

def JobPoint.weight : JobPoint → Nat
  | .launched => 25
  | .asking checks => 6 * checks.length
  | .answered _ _ checks => 6 * checks.length + 5
  | .cancelled _ => 0

def MapStep.weight : MapStep → Nat
  | .get _ _ => 4
  | .create _ _ => 3
  | .put _ _ _ => 2
  | .add _ _ => 1

def pointWeight : Monitor.Point JobPoint MapStep → Nat
  | .outside here => here.weight
  | .inside step behind => step.weight + behind.weight

/-- Inside of a block the steps go down to the last one. -/
private theorem weight_advance {device : Device} {port : Nat}
    {step later : MapStep}
    {map after : PortMap}
    (advances : advanceBlock device port map step = (after, some later)) :
    later.weight < step.weight := by
  cases step with
  | get uid protocol =>
      cases found : map.get uid with
      | some number =>
          rw [advanceBlock, found] at advances
          cases advances
          simp [MapStep.weight]
      | none =>
          rw [advanceBlock, found] at advances
          cases advances
          simp [MapStep.weight]
  | create uid protocol =>
      cases advances
      simp [MapStep.weight]
  | put uid number protocol =>
      cases advances
      simp [MapStep.weight]
  | add number protocol => cases advances

private theorem MapStep.weight_pos (step : MapStep) : 0 < step.weight := by
  cases step <;> simp [weight]

theorem lowers (device : Device) :
    Monitor.Lowers (scanProgram device) JobPoint.Over pointWeight where
  rests := by
    intro thrown port here
    have move := nextMove_cases device thrown port here
    constructor
    · intro rests
      have rests : nextMove device thrown port here = .rest := rests
      rw [rests] at move
      cases move with
      | finish => rfl
      | gone => trivial
    · intro isOver
      cases here with
      | launched => exact isOver.elim
      | asking checks =>
          subst isOver
          rfl
      | answered uid check checks => exact isOver.elim
      | cancelled checks => rfl
  go := by
    intro thrown port here there thrown' next
    have next : nextMove device thrown port here = .go there thrown' := next
    have move := nextMove_cases device thrown port here
    rw [next] at move
    cases move <;>
      simp [pointWeight, JobPoint.weight, portChecks, Nat.mul_succ]
  enter := by
    intro thrown port here first behind next
    have next : nextMove device thrown port here = .enter first behind := next
    have move := nextMove_cases device thrown port here
    rw [next] at move
    cases move with
    | enter =>
        simp only [pointWeight, JobPoint.weight, MapStep.weight]
        omega
  proceed := by
    intro port step map after later behind advances
    exact Nat.add_lt_add_right (weight_advance advances) _
  finish := by
    intro port step map after behind advances
    exact Nat.lt_add_of_pos_left step.weight_pos

private theorem exclusive_launchedScan : Monitor.Exclusive launchedScan := by
  intro port
  simp [launchedScan]

private theorem exclusive_scan (device : Device) (schedule : List Nat) :
    Monitor.Exclusive (scan device schedule) :=
  run_invariant
    (fun _ _ exclusive => Monitor.Program.step_cases.exclusive exclusive)
    schedule exclusive_launchedScan

private theorem exists_scanOver (device : Device) (schedule : List Nat) :
    ∃ later, ScanOver device (schedule ++ later) := by
  have idle :
      ∀ port, port ∉ Finset.Icc 1 65535 →
        Monitor.Done JobPoint.Over (scan device schedule) port := by
    intro port outside
    apply Monitor.done_run (lowers device)
    have none : ¬ (1 ≤ port ∧ port ≤ 65535) := by
      rwa [Finset.mem_Icc] at outside
    refine ⟨.asking [], ?_, rfl⟩
    rw [launchedScan]
    dsimp only
    rw [if_neg none]
  obtain ⟨later, isOver⟩ :=
    Monitor.exists_completion (lowers device)
      (exclusive_scan device schedule) idle
  refine ⟨later, fun port => ?_⟩
  have ended := isOver port
  rw [scan, run, List.foldl_append]
  exact ended

/-! ## What is found in the end -/

/-- The uid was reported for the port, at the IPv4 or the IPv6 wildcard
address. -/
def Reported (device : Device) (uid : Int) (protocol : PortProtocol)
    (port : Nat) : Prop :=
  uid ≠ invalidUid ∧ 1 ≤ port ∧ port ≤ 65535 ∧
    (device.getConnectionOwnerUid protocol.ipProto ⟨.ipv4, port⟩
          ⟨.ipv4, 0⟩ = .ok uid ∨
      device.getConnectionOwnerUid protocol.ipProto ⟨.ipv6, port⟩
          ⟨.ipv6, 0⟩ = .ok uid)

/-- One record for each uid that owns a port, with the ports it was reported
for. -/
def FindsPorts (device : Device) (result : List OpenPorts) : Prop :=
  ∃ (uids : List Int) (ports : Int → PortProtocol → Finset Nat),
    uids.Nodup ∧
      (∀ uid, uid ∈ uids ↔ ∃ protocol port, Reported device uid protocol port) ∧
      (∀ uid protocol port,
        port ∈ ports uid protocol ↔ Reported device uid protocol port) ∧
      (result.map OpenPorts.unstamped).Perm
        (uids.map fun uid =>
          recordOf device uid (ports uid .tcp) (ports uid .udp))

section Result

variable {device : Device} {answers : List Answer}

/-- Two complete results differ in their order and their stamps at most. -/
private theorem FindsPorts.perm {first second : List OpenPorts}
    (firstFinds : FindsPorts device first)
    (secondFinds : FindsPorts device second) :
    (first.map OpenPorts.unstamped).Perm
      (second.map OpenPorts.unstamped) := by
  obtain ⟨uids, ports, nodup, owners, members, found⟩ := firstFinds
  obtain ⟨otherUids, otherPorts, otherNodup, otherOwners, otherMembers,
    otherFound⟩ := secondFinds
  have ports_eq : ports = otherPorts := by
    funext uid protocol
    ext port
    rw [members, otherMembers]
  have uids_perm : uids.Perm otherUids := by
    apply (List.perm_ext_iff_of_nodup nodup otherNodup).mpr
    intro uid
    rw [owners, otherOwners]
  subst ports_eq
  exact found.trans ((uids_perm.map _).trans otherFound.symm)

private theorem connectionOwner_ipv4 (port : Nat) (protocol : PortProtocol) :
    connectionOwner device port ⟨protocol, .ipv4⟩ =
      device.getConnectionOwnerUid protocol.ipProto ⟨.ipv4, port⟩
        ⟨.ipv4, 0⟩ := by
  have other : ¬ Wildcard.ipv4.hostAddress = "::" := by decide
  rw [connectionOwner, if_neg other]

private theorem connectionOwner_ipv6 (port : Nat) (protocol : PortProtocol) :
    connectionOwner device port ⟨protocol, .ipv6⟩ =
      device.getConnectionOwnerUid protocol.ipProto ⟨.ipv6, port⟩
        ⟨.ipv6, 0⟩ := by
  have same : Wildcard.ipv6.hostAddress = "::" := rfl
  rw [connectionOwner, if_pos same]

private theorem mem_portChecks (check : PortCheck) : check ∈ portChecks := by
  obtain ⟨protocol, host⟩ := check
  cases protocol <;> cases host <;> decide

private theorem mem_answersOf_jobChecks (answer : Answer) :
    answer ∈ answersOf device answer.port (jobChecks answer.port) ↔
      Reported device answer.uid answer.protocol answer.port := by
  rw [mem_answersOf, Reported, ← connectionOwner_ipv4,
    ← connectionOwner_ipv6]
  by_cases range : 1 ≤ answer.port ∧ answer.port ≤ 65535
  · rw [jobChecks, if_pos range]
    constructor
    · rintro ⟨-, valid, ⟨protocol, host⟩, -, rfl, answers⟩
      refine ⟨valid, range.1, range.2, ?_⟩
      cases host with
      | ipv4 => exact Or.inl answers
      | ipv6 => exact Or.inr answers
    · rintro ⟨valid, -, -, answers | answers⟩
      · exact ⟨rfl, valid, _, mem_portChecks _, rfl, answers⟩
      · exact ⟨rfl, valid, _, mem_portChecks _, rfl, answers⟩
  · rw [jobChecks, if_neg range]
    constructor
    · rintro ⟨-, -, check, impossible, -⟩
      cases impossible
    · rintro ⟨-, lower, upper, -⟩
      exact absurd ⟨lower, upper⟩ range

/-- A map that holds every reported answer, and no other, is complete. -/
private theorem PortMap.Holds.findsPorts {uids : List Int} {map : PortMap}
    (holds : map.Holds device answers uids)
    (complete :
      ∀ answer : Answer,
        answer ∈ answers ↔
          Reported device answer.uid answer.protocol answer.port) :
    FindsPorts device map.values := by
  refine ⟨uids, portsOf answers, holds.nodup, ?_, ?_, ?_⟩
  · intro uid
    rw [holds.mem_uids]
    constructor
    · rintro ⟨answer, member, rfl⟩
      exact ⟨_, _, (complete answer).mp member⟩
    · rintro ⟨protocol, port, reported⟩
      exact ⟨⟨uid, protocol, port⟩, (complete _).mpr reported, rfl⟩
  · intro uid protocol port
    rw [mem_portsOf]
    exact complete ⟨uid, protocol, port⟩
  · rw [holds.values_eq, holds.created]
    exact List.Perm.refl _

/-- What the jobs have entered when they are over. -/
private theorem findOpenPorts_findsPorts
    (allAnswer :
      ∀ port check, ∃ uid, connectionOwner device port check = .ok uid)
    {schedule : List Nat} (isOver : ScanOver device schedule) :
    FindsPorts device (findOpenPorts device schedule) := by
  have linearized :
      Monitor.Linearized (blockEffect device) PortMap.empty
        (scan device schedule) := by
    apply Monitor.linearized_run (hasEffect device)
    refine ⟨exclusive_launchedScan, fun _ => rfl, ?_⟩
    intro port step behind stands
    cases stands
  have clean : NoneGivenUp (scan device schedule) := by
    apply run_invariant
      (fun _ _ none => none.step allAnswer Monitor.Program.step_cases)
    refine ⟨rfl, fun port checks => ?_⟩
    rw [launchedScan, outsidePoint]
    split <;> simp
  have underway :
      ∃ answers, Underway device (scan device schedule) answers := by
    apply
      @run_invariant _ _ _ fun system =>
        ∃ answers, Underway device system answers
    · rintro system port ⟨answers, underway⟩
      exact underway.step Monitor.Program.step_cases
    · refine ⟨[], rfl, fun port => ?_⟩
      rw [launchedScan, outsidePoint, jobChecks]
      split <;> rfl
  obtain ⟨answers, entered, progress⟩ := underway
  have free : (scan device schedule).owner = none := by
    cases owner : (scan device schedule).owner with
    | none => rfl
    | some port =>
        obtain ⟨here, stands, -⟩ := isOver port
        exact
          absurd owner (linearized.exclusive.not_owner stands)
  have complete (answer : Answer) :
      answer ∈ answers ↔
        Reported device answer.uid answer.protocol answer.port := by
    rw [← mem_answersOf_jobChecks, ← progress]
    obtain ⟨here, stands, ended⟩ := isOver answer.port
    have nothing :
        pendingAt device answer.port
          (outsidePoint ((scan device schedule).point answer.port)) = [] := by
      have kept := clean.point answer.port
      rw [stands, outsidePoint] at kept ⊢
      cases here with
      | launched => exact ended.elim
      | asking checks =>
          subst ended
          rfl
      | answered uid check checks => exact ended.elim
      | cancelled checks => exact absurd rfl (kept checks)
    rw [nothing, List.append_nil, List.mem_filter]
    simp
  obtain ⟨uids, holds⟩ := holds_replay device answers
  rw [← entered, ← linearized.free free] at holds
  have found := holds.findsPorts complete
  obtain ⟨owners, ports, nodup, owned, members, records⟩ := found
  refine ⟨owners, ports, nodup, owned, members, ?_⟩
  exact ((List.mergeSort_perm _ _).map _).trans records

/-! ## One port after the other -/

/-- The map once these answers have been entered. -/
def enter (device : Device) (map : PortMap) (answers : List Answer) :
    PortMap :=
  answers.foldl
    (fun map answer =>
      map.record device answer.uid answer.protocol answer.port)
    map

private theorem enter_append (map : PortMap) (earlier later : List Answer) :
    enter device map (earlier ++ later) =
      enter device (enter device map earlier) later :=
  List.foldl_append

private theorem enter_eq_replay (answers : List Answer) :
    enter device PortMap.empty answers =
      Monitor.replay (blockEffect device) PortMap.empty
        (answers.map Answer.block) := by
  rw [Monitor.replay, List.foldl_map]
  rfl

private theorem checkPort_ok
    (allAnswer :
      ∀ port check, ∃ uid, connectionOwner device port check = .ok uid)
    (port : Nat) (map : PortMap) :
    checkPort device port map =
      .ok (enter device map (answersOf device port portChecks)) := by
  rw [checkPort]
  induction portChecks generalizing map with
  | nil => rfl
  | cons check checks inductionHypothesis =>
      obtain ⟨uid, answers⟩ := allAnswer port check
      rw [List.foldlM_cons, answers]
      by_cases valid : uid ≠ invalidUid
      · have first :
            answersOf device port (check :: checks) =
              [⟨uid, check.protocol, port⟩] ++
                answersOf device port checks :=
          answersOf_of_valid answers valid
        rw [first, enter_append, ← inductionHypothesis]
        exact congrArg (fun program => program >>= _) (if_pos valid)
      · rw [answersOf_of_invalid answers (Decidable.not_not.mp valid),
          ← inductionHypothesis]
        exact congrArg (fun program => program >>= _) (if_neg valid)

private theorem scanInOrder_ok
    (allAnswer :
      ∀ port check, ∃ uid, connectionOwner device port check = .ok uid) :
    scanInOrder device =
      .ok
        (enter device PortMap.empty
          ((List.range' 1 65535).flatMap fun port =>
            answersOf device port portChecks)) := by
  rw [scanInOrder]
  generalize PortMap.empty = map
  generalize List.range' 1 65535 = ports
  induction ports generalizing map with
  | nil => rfl
  | cons port ports inductionHypothesis =>
      rw [List.foldlM_cons, checkPort_ok allAnswer, List.flatMap_cons,
        enter_append, ← inductionHypothesis]
      rfl

private theorem scanInOrder_findsPorts
    (allAnswer :
      ∀ port check, ∃ uid, connectionOwner device port check = .ok uid) :
    ∃ map, scanInOrder device = .ok map ∧ FindsPorts device map.values := by
  refine ⟨_, scanInOrder_ok allAnswer, ?_⟩
  rw [enter_eq_replay]
  obtain ⟨uids, holds⟩ := holds_replay device _
  apply holds.findsPorts
  intro answer
  rw [← mem_answersOf_jobChecks, List.mem_flatMap]
  constructor
  · rintro ⟨port, inRange, member⟩
    obtain rfl := (mem_answersOf.mp member).1
    obtain ⟨lower, upper⟩ := List.mem_range'_1.mp inRange
    rwa [jobChecks, if_pos ⟨lower, Nat.le_of_lt_succ upper⟩]
  · intro member
    by_cases range : 1 ≤ answer.port ∧ answer.port ≤ 65535
    · rw [jobChecks, if_pos range] at member
      exact
        ⟨answer.port,
          List.mem_range'_1.mpr ⟨range.1, Nat.lt_succ_of_le range.2⟩,
          member⟩
    · rw [jobChecks, if_neg range] at member
      cases member

end Result

/-- Every scan in which all questions are answered can be brought to its end;
then it has found, up to the order and the stamps, what the scan of one port
after the other finds: for each uid that owns a port, all its ports. -/
theorem findOpenPorts_eq_inOrder {device : Device}
    (allAnswer :
      ∀ ipProto localSocket remoteSocket, ∃ uid,
        device.getConnectionOwnerUid ipProto localSocket remoteSocket =
          .ok uid) :
    (∀ schedule, ∃ later, ScanOver device (schedule ++ later)) ∧
      ∀ schedule, ScanOver device schedule →
        FindsPorts device (findOpenPorts device schedule) ∧
          ∃ map, scanInOrder device = .ok map ∧
            ((findOpenPorts device schedule).map
                OpenPorts.unstamped).Perm
              (map.values.map OpenPorts.unstamped) := by
  have answered (port : Nat) (check : PortCheck) :
      ∃ uid, connectionOwner device port check = .ok uid :=
    allAnswer _ _ _
  refine ⟨exists_scanOver device, fun schedule isOver => ?_⟩
  have found := findOpenPorts_findsPorts answered isOver
  obtain ⟨map, computed, inOrder⟩ := scanInOrder_findsPorts answered
  exact ⟨found, map, computed, found.perm inOrder⟩

/-- A device with a shell server and a debug bridge that the system owns. -/
def shellDevice : Device where
  getConnectionOwnerUid ipProto localSocket _ :=
    .ok
      (if ipProto = 6 ∧ (localSocket.port = 22 ∨ localSocket.port = 5555) then
        1000
      else
        invalidUid)
  packageManager :=
    { getPackagesForUid := fun _ => none
      getNameForUid := fun _ => none
      getApplicationLabel := fun _ => none }
  randomUUID number := Fin.ofNat _ number
  currentTimeMillis number := 1000 * number
  compareIgnoreCase _ _ := .eq

theorem findOpenPorts_eq_inOrder_shellDevice :
    (∀ schedule, ∃ later, ScanOver shellDevice (schedule ++ later)) ∧
      ∀ schedule, ScanOver shellDevice schedule →
        FindsPorts shellDevice (findOpenPorts shellDevice schedule) ∧
          ∃ map, scanInOrder shellDevice = .ok map ∧
            ((findOpenPorts shellDevice schedule).map
                OpenPorts.unstamped).Perm
              (map.values.map OpenPorts.unstamped) :=
  findOpenPorts_eq_inOrder fun _ _ _ => ⟨_, rfl⟩

end LanShield.BackendSync
