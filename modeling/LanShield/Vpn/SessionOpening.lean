import LanShield.Vpn.NioPrograms

/-!
# Opening and registering a session

What holds of the table and of the session objects while the packet thread
takes a step, and how it opens a session, puts it into the table and
registers its channel.
-/

namespace LanShield.Vpn

open LanShield.Library LanShield.Java LanShield.Transport Program

/-- The engine while the packet thread takes a step. -/
structure Working (kept guarded : Prop) (engine : Engine) : Prop where
  placed : engine.Placed
  gone : kept → engine.Gone
  sound : guarded → ∀ id, (engine.sessions id).Sound
  running : guarded → engine.nioThread = .running

section Rules

variable {kept guarded : Prop} {id : Nat} {engine : Engine} {Value : Type}

theorem Working.steady {before after : Engine}
    (working : Working kept guarded before)
    (steady : Steady guarded before after) :
    Working kept guarded after where
  placed := working.placed.steady steady
  gone holds := (working.gone holds).steady steady
  sound holds id :=
    (steady.objects id).sound holds (working.sound holds id)
  running holds := steady.nioThread.trans (working.running holds)

theorem Working.keepSessionAlive (working : Working kept guarded engine)
    (held : engine.Held id) (live : kept → id ∉ engine.closed) :
    Working kept guarded (engine.keepSessionAlive id) where
  placed := working.placed.keepSessionAlive held
  gone holds := (working.gone holds).keepSessionAlive (live holds)
  sound := working.sound
  running := working.running

/-- A session still in the table has not been closed. -/
theorem Working.live (working : Working kept guarded engine) (holds : kept)
    (inTable : engine.InTable id) : id ∉ engine.closed :=
  fun member => (working.gone holds id member).2 inTable

theorem Working.allocate {object : SessionObject}
    (working : Working kept guarded engine) (wired : object.Wired)
    (invalid : object.session.selectionkey.isValid = false)
    (unregistered : object.isRegistered = false) (sound : object.Sound) :
    Working kept guarded (engine.allocate object) where
  placed := working.placed.allocate wired invalid unregistered
  gone holds := (working.gone holds).allocate working.placed
  sound holds id := by
    by_cases fresh : id = engine.allocated
    · rw [fresh, Engine.allocate_self]
      exact sound
    · show (Function.update engine.sessions engine.allocated object id).Sound
      rw [Function.update_of_ne fresh]
      exact working.sound holds id
  running := working.running

theorem Working.removeAborted (working : Working kept guarded engine)
    (inTable : engine.InTable id)
    (cancelled :
      (engine.sessions id).session.selectionkey.isValid = false)
    (aborting : (engine.sessions id).session.abortingConnection = true) :
    Working kept guarded (engine.removeEntry id) :=
  ⟨working.placed.removeEntry inTable cancelled,
    fun holds => (working.gone holds).removeEntry aborting,
    working.sound, working.running⟩

section First

variable {Last : Type} {returns : Last → Engine → Prop}
  {throws : Engine → Prop}

/-- A program may go on from every state a steady one can leave. -/
theorem ends_steady {program : Running Value} {next : Value → Running Last}
    (respected : Respects (Steady guarded) program)
    (thrown : ∀ after, Steady guarded engine after → throws after)
    (right :
      ∀ value after, Steady guarded engine after →
        Ends returns throws (next value) after) :
    Ends returns throws (program >>= next) engine :=
  (respected.ends.imp (fun _ _ steady => steady) thrown).bind right

theorem ends_platformCall {call : OpeningCall} {answers : Answers}
    {next : Unit → Running Last} (thrown : throws engine)
    (right : Ends returns throws (next ()) engine) :
    Ends returns throws (platformCall call answers >>= next) engine := by
  rw [platformCall]
  by_cases fails : answers.failure = some call
  · rw [if_pos fails]
    exact thrown
  · rw [if_neg fails]
    exact right

/-- A socket channel that cannot connect is closed. -/
theorem ends_connectSocket {answers : Answers} {next : Unit → Running Last}
    (thrown : throws (engine.updateObject id SessionObject.closeChannel))
    (right :
      Ends returns throws (next ())
        (engine.updateObject id (connectTcp answers.connected))) :
    Ends returns throws (connectSocket answers id >>= next) engine := by
  rw [connectSocket]
  by_cases fails : answers.failure = some .connect
  · rw [if_pos fails]
    exact thrown
  · rw [if_neg fails]
    exact right

/-- What the table has may be used with the engine it was read in. -/
theorem ends_getSession {key : SessionKey}
    {next : Option Nat → Running Last}
    (right : Ends returns throws (next (engine.table key)) engine) :
    Ends returns throws (getSession key >>= next) engine :=
  right

theorem ends_readSession {next : Session → Running Last}
    (right :
      Ends returns throws (next (engine.sessions id).session) engine) :
    Ends returns throws (readSession id >>= next) engine :=
  right

theorem ends_readObject {next : SessionObject → Running Last}
    (right : Ends returns throws (next (engine.sessions id)) engine) :
    Ends returns throws (readObject id >>= next) engine :=
  right

theorem ends_allocateSession {object : SessionObject}
    {next : Nat → Running Last}
    (right :
      Ends returns throws (next engine.allocated)
        (engine.allocate object)) :
    Ends returns throws (allocateSession object >>= next) engine :=
  right

end First

end Rules

/-- A session object for a 5-tuple the table has nothing for. -/
structure Opened (kept guarded : Prop) (key : SessionKey) (id : Nat)
    (engine : Engine) : Prop where
  working : Working kept guarded engine
  allocated : id < engine.allocated
  key_eq : engine.getSessionKey id = key
  absent : engine.table key = none
  unregistered : (engine.sessions id).isRegistered = false
  live : id ∉ engine.closed

/-- The session the table has for a 5-tuple.  It is still to be registered
if it is `fresh`. -/
structure Created (kept guarded fresh : Prop) (key : SessionKey) (id : Nat)
    (engine : Engine) : Prop where
  working : Working kept guarded engine
  inTable : engine.InTable id
  key_eq : engine.getSessionKey id = key
  unregistered : fresh → (engine.sessions id).isRegistered = false

section Opening

variable {kept guarded fresh : Prop} {key : SessionKey} {id : Nat}
  {engine : Engine}

theorem Opened.steady {before after : Engine}
    (opened : Opened kept guarded key id before)
    (steady : Steady guarded before after) :
    Opened kept guarded key id after where
  working := opened.working.steady steady
  allocated := steady.allocated ▸ opened.allocated
  key_eq := (Engine.getSessionKey_steady steady id).trans opened.key_eq
  absent := steady.table ▸ opened.absent
  unregistered :=
    (steady.objects id).isRegistered.trans opened.unregistered
  live := steady.closed ▸ opened.live

theorem Created.steady {before after : Engine}
    (created : Created kept guarded fresh key id before)
    (steady : Steady guarded before after) :
    Created kept guarded fresh key id after where
  working := created.working.steady steady
  inTable := (Engine.inTable_steady steady).mpr created.inTable
  key_eq := (Engine.getSessionKey_steady steady id).trans created.key_eq
  unregistered holds :=
    (steady.objects id).isRegistered.trans (created.unregistered holds)

/-- A connected session is put into the table. -/
theorem Opened.keepSessionAlive
    (opened : Opened kept guarded key id engine)
    (attached : (engine.sessions id).Attached) :
    Created kept guarded fresh key id (engine.keepSessionAlive id) where
  working := by
    apply opened.working.keepSessionAlive ?_ fun _ => opened.live
    refine ⟨opened.allocated, attached, ?_⟩
    intro other found
    rw [opened.key_eq, opened.absent] at found
    cases found
  inTable := Engine.inTable_keepSessionAlive
  key_eq := opened.key_eq
  unregistered _ := opened.unregistered

private theorem newSession_invalid :
    (newSession key).selectionkey.isValid = false :=
  rfl

theorem newSession_headers : (newSession key).HeadersComplete := by
  refine ⟨?_, ?_⟩
  · intro header last
    exact (Option.some_ne_none header last.symm).elim
  · intro header last
    exact (Option.some_ne_none header last.symm).elim

theorem newSession_small : (newSession key).maxSegmentSize < 2 ^ 15 := by
  show (0 : Int) < 2 ^ 15
  decide

theorem Working.openSession {object : SessionObject}
    (working : Working kept guarded engine)
    (absent : engine.table key = none)
    (session_eq : object.session = newSession key)
    (unregistered : object.isRegistered = false)
    (kind : object.channel.isSocket = decide (key.protocol = .tcp)) :
    Opened kept guarded key engine.allocated
      (engine.allocate object) where
  working := by
    apply working.allocate
    · refine ⟨?_, ?_⟩
      · rw [session_eq]
        exact kind
      · rw [session_eq, newSession_invalid]
        exact nofun
    · rw [session_eq, newSession_invalid]
    · exact unregistered
    · refine ⟨?_, ?_, ?_, ?_, ?_⟩
      · rw [session_eq]
        exact newSession_headers
      · rw [session_eq]
        exact newSession_small
      · rw [unregistered]
        exact nofun
      · rw [unregistered]
        exact nofun
      · rw [unregistered]
        exact nofun
  allocated := Nat.lt_succ_self _
  key_eq := by
    rw [Engine.getSessionKey]
    rw [Engine.allocate_self, session_eq]
    rfl
  absent := absent
  unregistered := by
    rw [Engine.allocate_self]
    exact unregistered
  live member := Nat.lt_irrefl _ (working.placed.closed _ member)

private theorem connectUdp_step (object : SessionObject) :
    ObjectStep guarded object (connectUdp object) := by
  rw [connectUdp]
  cases channel_eq : object.channel with
  | socket channel =>
      apply ObjectStep.ofConnection
      · rw [channel_eq]
        rfl
      · rw [channel_eq]
        rfl
      · exact fun _ _ _ => .inl rfl
  | datagram channel =>
      apply ObjectStep.ofConnection
      · rw [channel_eq]
        rfl
      · rw [channel_eq]
        rfl
      · exact nofun

/-- A channel that is not connected at once is about to be. -/
private theorem connectTcp_pending {connected : Bool} {object : SessionObject}
    {after : SocketChannel}
    (same : (connectTcp connected object).channel = .socket after) :
    connected = true ∨ after.isConnectionPending = true := by
  rw [connectTcp] at same
  cases channel_eq : object.channel with
  | socket channel =>
      rw [channel_eq] at same
      cases same
      cases connected with
      | true => exact .inl rfl
      | false => exact .inr rfl
  | datagram channel =>
      rw [channel_eq] at same
      cases same

private theorem connectUdp_attached :
    ((engine.updateObject id connectUdp).sessions id).Attached := by
  rw [Engine.updateObject_self]
  exact fun _ _ _ => .inl rfl

private theorem connectTcp_attached {connected : Bool} :
    ((engine.updateObject id (connectTcp connected)).sessions
      id).Attached := by
  rw [Engine.updateObject_self]
  exact fun _ same _ => connectTcp_pending same

private theorem connectTcp_step (connected : Bool) (object : SessionObject) :
    ObjectStep guarded object (connectTcp connected object) := by
  apply ObjectStep.ofConnection
  · cases object.channel with
    | socket channel => rfl
    | datagram channel => rfl
  · cases object.channel with
    | socket channel => rfl
    | datagram channel => rfl
  · intro _ after same
    exact connectTcp_pending same

theorem Opened.connectUdp (opened : Opened kept guarded key id engine)
    (fresh : Prop) :
    Created kept guarded fresh key id
      ((engine.updateObject id connectUdp).keepSessionAlive id) :=
  (opened.steady (Steady.update (connectUdp_step _))).keepSessionAlive
    connectUdp_attached

theorem Opened.connectTcp (opened : Opened kept guarded key id engine)
    (connected : Bool) :
    Opened kept guarded key id
      (engine.updateObject id (connectTcp connected)) :=
  opened.steady (Steady.update (connectTcp_step connected _))

private theorem respects_startFlow (length : Int) (connected : Bool) :
    Respects (Steady guarded) (startFlow length connected id) := by
  apply respects_updateSession
  intro session
  exact .plain rfl rfl rfl rfl rfl rfl rfl rfl

/-- A session the table already has is not fresh. -/
theorem Working.found (working : Working kept guarded engine)
    (found : engine.table key = some id) (known : ¬ fresh) :
    Created kept guarded fresh key id engine := by
  obtain ⟨key_eq, _⟩ := working.placed.placed key id found
  refine ⟨working, ?_, key_eq, fun isFresh => (known isFresh).elim⟩
  rw [Engine.InTable]
  rw [key_eq]
  exact found

private theorem ends_openUdp (working : Working kept guarded engine)
    (udp : key.protocol = .udp) (absent : engine.table key = none)
    (length : Int) (answers : Answers) :
    Ends (Created kept guarded fresh key) (Working kept guarded)
      (do
        platformCall .openChannel answers
        let id ← allocateSession (newUdpObject key)
        platformCall .configureChannel answers
        platformCall .connect answers
        modify (Engine.updateObject id connectUdp)
        keepSessionAlive id
        startFlow length false id
        platformCall .insertFlow answers
        return id) engine := by
  have kind :
      (newUdpObject key).channel.isSocket =
        decide (key.protocol = .tcp) := by
    rw [udp]
    rfl
  have opened := working.openSession absent rfl rfl kind
  have created := opened.connectUdp fresh
  apply ends_platformCall working
  apply ends_allocateSession
  apply ends_platformCall opened.working
  apply ends_platformCall opened.working
  apply ends_modify_bind
  apply ends_modify_bind
  apply ends_steady (respects_startFlow length false)
  · intro after steady
    exact (created.steady steady).working
  · intro _ after steady
    have started := created.steady steady
    apply ends_platformCall started.working
    exact ends_pure started

private theorem ends_openTcp (working : Working kept guarded engine)
    (tcp : key.protocol = .tcp) (absent : engine.table key = none)
    (length : Int) (answers : Answers) :
    Ends (Created kept guarded fresh key) (Working kept guarded)
      (do
        platformCall .openChannel answers
        let id ← allocateSession (newTcpObject key)
        platformCall .configureChannel answers
        connectSocket answers id
        startFlow length answers.connected id
        platformCall .insertFlow answers
        keepSessionAlive id
        return id) engine := by
  have kind :
      (newTcpObject key).channel.isSocket =
        decide (key.protocol = .tcp) := by
    rw [tcp]
    rfl
  have opened := working.openSession absent rfl rfl kind
  have connected := opened.connectTcp answers.connected
  apply ends_platformCall working
  apply ends_allocateSession
  apply ends_platformCall opened.working
  apply ends_connectSocket
  · exact (opened.steady (.update (ObjectStep.closeChannel _))).working
  apply ends_steady (respects_startFlow length answers.connected)
  · intro after steady
    exact (connected.steady steady).working
  · intro _ after steady
    have started := connected.steady steady
    apply ends_platformCall started.working
    apply ends_modify_bind
    apply ends_pure
    apply started.keepSessionAlive
    apply (steady.objects _).attached
    exact connectTcp_attached

theorem ends_createNewUDPSession (working : Working kept guarded engine)
    (udp : key.protocol = .udp)
    (isFresh : fresh → engine.table key = none) (length : Int)
    (answers : Answers) :
    Ends (Created kept guarded fresh key) (Working kept guarded)
      (createNewUDPSession key length answers) engine := by
  apply ends_getSession
  cases existing : engine.table key with
  | some id =>
      apply ends_pure
      apply working.found existing
      intro holds
      exact Option.some_ne_none id (existing.symm.trans (isFresh holds))
  | none => exact ends_openUdp working udp existing length answers

theorem ends_createNewTCPSession (working : Working kept guarded engine)
    (tcp : key.protocol = .tcp)
    (isFresh : fresh → engine.table key = none) (length : Int)
    (answers : Answers) :
    Ends (Created kept guarded fresh key) (Working kept guarded)
      (createNewTCPSession key length answers) engine := by
  apply ends_getSession
  cases existing : engine.table key with
  | some id =>
      apply ends_pure
      apply working.found existing
      intro holds
      exact Option.some_ne_none id (existing.symm.trans (isFresh holds))
  | none => exact ends_openTcp working tcp existing length answers

end Opening

section Registering

variable {kept guarded : Prop} {id : Nat} {engine : Engine}

/-- A session of the table that can be registered. -/
structure Announced (id : Nat) (engine : Engine) : Prop where
  inTable : engine.InTable id
  lastIp : (engine.sessions id).session.lastIpHeader.isSome = true
  lastTcp :
    (engine.sessions id).session.protocol = .tcp →
      (engine.sessions id).session.lastTcpHeader.isSome = true
  lastUdp :
    (engine.sessions id).session.protocol = .udp →
      (engine.sessions id).session.lastUdpHeader.isSome = true

theorem Announced.steady {before after : Engine}
    (announced : Announced id before)
    (steady : Steady guarded before after) : Announced id after := by
  have object := steady.objects id
  refine
    ⟨(Engine.inTable_steady steady).mpr announced.inTable,
      object.announced announced.lastIp, ?_, ?_⟩
  · intro tcp
    exact
      object.knownTcp
        (announced.lastTcp (object.protocol_eq.symm.trans tcp))
  · intro udp
    exact
      object.knownUdp
        (announced.lastUdp (object.protocol_eq.symm.trans udp))

theorem Working.register (working : Working kept guarded engine)
    (announced : Announced id engine)
    (isOpen : (engine.sessions id).channel.isOpen = true) :
    Working kept guarded
      (engine.updateObject id NioThread.registered) where
  placed :=
    working.placed.register announced.inTable isOpen announced.lastIp
  gone holds := (working.gone holds).register
  sound holds other := by
    by_cases same : other = id
    · rw [same, Engine.updateObject_self]
      have sound := working.sound holds id
      exact
        ⟨⟨sound.headers.ip, sound.headers.tcp⟩, sound.small,
          fun _ => announced.lastIp, fun _ => announced.lastTcp,
          fun _ => announced.lastUdp⟩
    · rw [Engine.updateObject_of_ne same]
      exact working.sound holds other
  running := working.running

theorem Announced.register (announced : Announced id engine) :
    Announced id (engine.updateObject id NioThread.registered) := by
  refine ⟨Engine.inTable_register.mpr announced.inTable, ?_, ?_, ?_⟩
  · rw [Engine.updateObject_self]
    exact announced.lastIp
  · rw [Engine.updateObject_self]
    exact announced.lastTcp
  · rw [Engine.updateObject_self]
    exact announced.lastUdp

/-- A registered session is still the one in the table. -/
theorem ends_registerSession (working : Working kept guarded engine)
    (announced : Announced id engine) (answers : Answers) :
    Ends
      (fun _ after =>
        Working kept guarded after ∧ Announced id after)
      (Working kept guarded) (NioThread.registerSession answers id)
      engine := by
  apply ends_platformCall working
  have object_eq :
      Ends
        (fun _ after =>
          Working kept guarded after ∧ Announced id after)
        (Working kept guarded)
        (if (engine.sessions id).channel.isOpen then
          modify (Engine.updateObject id NioThread.registered)
        else
          throw .io : Running Unit) engine := by
    by_cases isOpen : (engine.sessions id).channel.isOpen = true
    · rw [if_pos isOpen]
      exact
        ends_modify
          ⟨working.register announced isOpen, announced.register⟩
    · rw [if_neg isOpen]
      exact ends_throw working
  exact object_eq

end Registering

end LanShield.Vpn
