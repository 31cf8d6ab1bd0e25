import LanShield.Transport.BuiltPackets
import LanShield.Vpn.SteadyPrograms

/-!
# The session table under both threads

What holds of the table, the session objects and the packet thread's
position in every state of the engine.  A session whose key is valid is in
the table; a session the packet thread holds is in the table under its key,
or nothing is.
-/

namespace LanShield.Vpn

open LanShield.Library LanShield.Java LanShield.Transport Program

/-- What is known of the packets the packet thread holds.  They come from
the parsers, and a SYN has been answered. -/
def PacketThread.Stored : PacketThread → Prop
  | .createUdp datagram | .enterUdp datagram _ _ =>
      datagram.ipHeader.HasRoom → datagram.ipHeader.Complete
  | .enterTcp segment _ =>
      (segment.ipHeader.HasRoom → segment.ipHeader.Complete) ∧
        segment.tcpheader.Parsed
  | .createTcp syn packet _ | .populate syn packet _ _ =>
      syn.ipHeader.Complete ∧ syn.tcpheader.Complete ∧
        packet.transportHeader.maxSegmentSize < 2 ^ 15
  | .idle | .keepUdp _ | .resendAck _ | .keepFin _ | .abort _ => True

namespace Engine

/-- The table has the session under its key. -/
def InTable (engine : Engine) (id : Nat) : Prop :=
  engine.table (engine.getSessionKey id) = some id

/-- The table has no other session under the key of this one. -/
structure Held (engine : Engine) (id : Nat) : Prop where
  allocated : id < engine.allocated
  attached : (engine.sessions id).Attached
  only :
    ∀ other, engine.table (engine.getSessionKey id) = some other →
      other = id

/-- A session in the table that is still to be registered. -/
structure Unregistered (engine : Engine) (id : Nat)
    (protocol : SessionProtocol) : Prop where
  inTable : engine.InTable id
  isRegistered : (engine.sessions id).isRegistered = false
  protocol_eq : (engine.sessions id).session.protocol = protocol

/-- The table and the session objects fit together. -/
structure Placed (engine : Engine) : Prop where
  wired : ∀ id, (engine.sessions id).Wired
  placed :
    ∀ key id, engine.table key = some id →
      engine.getSessionKey id = key ∧ id < engine.allocated
  isValid :
    ∀ id, (engine.sessions id).session.selectionkey.isValid = true →
      engine.InTable id
  announced :
    ∀ id, (engine.sessions id).isRegistered = true →
      (engine.sessions id).session.lastIpHeader.isSome = true
  attached :
    ∀ id, engine.InTable id ∨ (engine.sessions id).isRegistered = true →
      (engine.sessions id).Attached
  closed : ∀ id ∈ engine.closed, id < engine.allocated

/-- A session that `closeSession` has removed is aborting and not in the
table. -/
def Gone (engine : Engine) : Prop :=
  ∀ id ∈ engine.closed,
    (engine.sessions id).session.abortingConnection = true ∧
      ¬ engine.InTable id

/-- What holds where the packet thread stands. -/
def Standing (engine : Engine) : PacketThread → Prop
  | .idle | .createTcp .. | .resendAck _ => True
  | .createUdp datagram => engine.table datagram.sessionKey = none
  | .enterUdp _ newSession id =>
      engine.Held id ∧ (newSession = true → engine.Unregistered id .udp)
  | .populate _ _ _ id => engine.Unregistered id .tcp
  | .keepUdp id | .enterTcp _ id | .keepFin id | .abort id =>
      engine.Held id

namespace Placed

variable {engine : Engine} {id : Nat}

/-- What the table has is all it has under that key. -/
theorem held (placed : engine.Placed) {key : SessionKey}
    (found : engine.table key = some id) : engine.Held id := by
  obtain ⟨key_eq, allocated⟩ := placed.placed key id found
  have inTable : engine.InTable id := by
    rw [InTable]
    rw [key_eq]
    exact found
  refine ⟨allocated, placed.attached id (.inl inTable), ?_⟩
  intro other same
  exact Option.some.inj (same.symm.trans inTable)

end Placed

section Steady

variable {guarded : Prop} {before after : Engine} {id : Nat}

theorem getSessionKey_steady (steady : Steady guarded before after)
    (id : Nat) : after.getSessionKey id = before.getSessionKey id :=
  (steady.objects id).key

theorem inTable_steady (steady : Steady guarded before after) :
    after.InTable id ↔ before.InTable id := by
  unfold InTable
  rw [steady.table, getSessionKey_steady steady]

theorem Held.steady (held : before.Held id)
    (steady : Steady guarded before after) : after.Held id := by
  refine ⟨?_, (steady.objects id).attached held.attached, ?_⟩
  · rw [steady.allocated]
    exact held.allocated
  · rw [steady.table, getSessionKey_steady steady]
    exact held.only

theorem Unregistered.steady {protocol : SessionProtocol}
    (unregistered : before.Unregistered id protocol)
    (steady : Steady guarded before after) :
    after.Unregistered id protocol :=
  ⟨(inTable_steady steady).mpr unregistered.inTable,
    (steady.objects id).isRegistered.trans unregistered.isRegistered,
    (steady.objects id).protocol_eq.trans unregistered.protocol_eq⟩

theorem Placed.steady (placed : before.Placed)
    (steady : Steady guarded before after) : after.Placed where
  wired id := (steady.objects id).wired (placed.wired id)
  placed key id found := by
    rw [getSessionKey_steady steady, steady.allocated]
    rw [steady.table] at found
    exact placed.placed key id found
  isValid id valid :=
    (inTable_steady steady).mpr
      (placed.isValid id ((steady.objects id).isValid valid))
  announced id registered :=
    (steady.objects id).announced
      (placed.announced id
        ((steady.objects id).isRegistered.symm.trans registered))
  attached id inTable := by
    rw [inTable_steady steady, (steady.objects id).isRegistered] at inTable
    exact (steady.objects id).attached (placed.attached id inTable)
  closed id member := by
    rw [steady.closed] at member
    rw [steady.allocated]
    exact placed.closed id member

theorem Gone.steady (gone : before.Gone)
    (steady : Steady guarded before after) : after.Gone := by
  intro id member
  rw [steady.closed] at member
  obtain ⟨aborting, absent⟩ := gone id member
  refine ⟨(steady.objects id).aborting aborting, ?_⟩
  rw [inTable_steady steady]
  exact absent

theorem Standing.steady {thread : PacketThread}
    (standing : before.Standing thread)
    (steady : Steady guarded before after) : after.Standing thread := by
  cases thread with
  | idle => trivial
  | createUdp datagram =>
      have absent : before.table datagram.sessionKey = none := standing
      show after.table datagram.sessionKey = none
      rw [steady.table]
      exact absent
  | enterUdp datagram newSession id =>
      exact
        ⟨Held.steady standing.1 steady,
          fun isNew => (standing.2 isNew).steady steady⟩
  | keepUdp id => exact Held.steady standing steady
  | createTcp syn packet data => trivial
  | resendAck id => trivial
  | populate syn packet data id => exact Unregistered.steady standing steady
  | enterTcp segment id => exact Held.steady standing steady
  | keepFin id => exact Held.steady standing steady
  | abort id => exact Held.steady standing steady

end Steady

section Threads

variable {engine : Engine} (packetThread : PacketThread)
  (nioThread : NioThread)

/-- The same sessions and table with the threads at other places. -/
def withThreads (engine : Engine) (packetThread : PacketThread)
    (nioThread : NioThread) : Engine :=
  { engine with packetThread := packetThread, nioThread := nioThread }

theorem Held.withThreads {id : Nat} (held : engine.Held id) :
    (engine.withThreads packetThread nioThread).Held id :=
  ⟨held.allocated, held.attached, held.only⟩

theorem Unregistered.withThreads {id : Nat} {protocol : SessionProtocol}
    (unregistered : engine.Unregistered id protocol) :
    (engine.withThreads packetThread nioThread).Unregistered id protocol :=
  ⟨unregistered.inTable, unregistered.isRegistered,
    unregistered.protocol_eq⟩

theorem Placed.withThreads (placed : engine.Placed) :
    (engine.withThreads packetThread nioThread).Placed :=
  ⟨placed.wired, placed.placed, placed.isValid, placed.announced,
    placed.attached, placed.closed⟩

theorem Standing.withThreads {thread : PacketThread}
    (standing : engine.Standing thread) :
    (engine.withThreads packetThread nioThread).Standing thread := by
  cases thread with
  | idle => trivial
  | createUdp datagram => exact standing
  | enterUdp datagram newSession id =>
      exact
        ⟨Held.withThreads packetThread nioThread standing.1,
          fun isNew =>
            (standing.2 isNew).withThreads packetThread nioThread⟩
  | keepUdp id => exact Held.withThreads packetThread nioThread standing
  | createTcp syn packet data => trivial
  | resendAck id => trivial
  | populate syn packet data id =>
      exact Unregistered.withThreads packetThread nioThread standing
  | enterTcp segment id =>
      exact Held.withThreads packetThread nioThread standing
  | keepFin id => exact Held.withThreads packetThread nioThread standing
  | abort id => exact Held.withThreads packetThread nioThread standing

end Threads

section Removing

variable {engine : Engine} {id other : Nat}

/-- The entry of a session is removed from the table. -/
def removeEntry (id : Nat) (engine : Engine) : Engine :=
  { engine with
    table := Function.update engine.table (engine.getSessionKey id) none
    closed := engine.closed ++ [id] }

/-- Closing a held session removes it, or finds nothing. -/
theorem closeSession_held (held : engine.Held id) :
    engine.closeSession (engine.getSessionKey id) = engine ∨
      engine.InTable id ∧
        engine.closeSession (engine.getSessionKey id) =
          (engine.updateObject id
            SessionObject.closeChannel).removeEntry id := by
  rw [closeSession]
  cases found : engine.table (engine.getSessionKey id) with
  | none => exact .inl rfl
  | some removed =>
      have same := held.only removed found
      rw [same] at found
      refine .inr ⟨found, ?_⟩
      rw [same]
      unfold removeEntry getSessionKey updateObject
      dsimp only
      rw [Function.update_self]
      rfl

/-- Without an entry nothing is in the table but what was. -/
private theorem inTable_removeEntry
    (inTable : (engine.removeEntry id).InTable other) :
    engine.InTable other ∧
      engine.getSessionKey other ≠ engine.getSessionKey id := by
  have found :
      Function.update engine.table (engine.getSessionKey id) none
          (engine.getSessionKey other) =
        some other :=
    inTable
  by_cases same : engine.getSessionKey other = engine.getSessionKey id
  · rw [same, Function.update_self] at found
    cases found
  · rw [Function.update_of_ne same] at found
    exact ⟨found, same⟩

/-- Another session stays in the table. -/
theorem InTable.removeEntry (inTable : engine.InTable other)
    (removed : engine.InTable id) (different : other ≠ id) :
    (engine.removeEntry id).InTable other := by
  have apart : engine.getSessionKey other ≠ engine.getSessionKey id := by
    intro same
    rw [InTable] at inTable removed
    rw [same, removed] at inTable
    exact different (Option.some.inj inTable).symm
  show
    Function.update engine.table (engine.getSessionKey id) none
        (engine.getSessionKey other) =
      some other
  rw [Function.update_of_ne apart]
  exact inTable

theorem Placed.removeEntry (placed : engine.Placed)
    (inTable : engine.InTable id)
    (cancelled :
      (engine.sessions id).session.selectionkey.isValid = false) :
    (engine.removeEntry id).Placed where
  wired := placed.wired
  placed key other found := by
    have before : engine.table key = some other := by
      by_cases same : key = engine.getSessionKey id
      · have found' :
            Function.update engine.table (engine.getSessionKey id) none
                key =
              some other :=
          found
        rw [same, Function.update_self] at found'
        cases found'
      · rw [← Function.update_of_ne same none engine.table]
        exact found
    exact placed.placed key other before
  isValid other valid := by
    apply (placed.isValid other valid).removeEntry inTable
    intro same
    rw [same] at valid
    exact Bool.false_ne_true (cancelled.symm.trans valid)
  announced := placed.announced
  attached other known := by
    rcases known with inTable | registered
    · exact
        placed.attached other (.inl (inTable_removeEntry inTable).1)
    · exact placed.attached other (.inr registered)
  closed other member := by
    rcases List.mem_append.mp member with earlier | last
    · exact placed.closed other earlier
    · rw [List.mem_singleton.mp last]
      exact (placed.placed _ id inTable).2

theorem Gone.removeEntry (gone : engine.Gone)
    (aborting : (engine.sessions id).session.abortingConnection = true) :
    (engine.removeEntry id).Gone := by
  intro other member
  rcases List.mem_append.mp member with earlier | last
  · obtain ⟨aborting, absent⟩ := gone other earlier
    refine ⟨aborting, ?_⟩
    intro inTable
    exact absent (inTable_removeEntry inTable).1
  · rw [List.mem_singleton.mp last]
    refine ⟨aborting, ?_⟩
    intro inTable
    exact (inTable_removeEntry inTable).2 rfl

theorem Held.removeEntry (held : engine.Held other) :
    (engine.removeEntry id).Held other := by
  refine ⟨held.allocated, held.attached, ?_⟩
  intro found same
  have found' :
      Function.update engine.table (engine.getSessionKey id) none
          (engine.getSessionKey other) =
        some found :=
    same
  by_cases apart : engine.getSessionKey other = engine.getSessionKey id
  · rw [apart, Function.update_self] at found'
    cases found'
  · rw [Function.update_of_ne apart] at found'
    exact held.only found found'

theorem Unregistered.removeEntry {protocol : SessionProtocol}
    (unregistered : engine.Unregistered other protocol)
    (inTable : engine.InTable id)
    (registered : (engine.sessions id).isRegistered = true) :
    (engine.removeEntry id).Unregistered other protocol := by
  refine
    ⟨unregistered.inTable.removeEntry inTable ?_,
      unregistered.isRegistered, unregistered.protocol_eq⟩
  intro same
  have absent := unregistered.isRegistered
  rw [same, registered] at absent
  cases absent

theorem Standing.removeEntry {thread : PacketThread}
    (standing : engine.Standing thread) (inTable : engine.InTable id)
    (registered : (engine.sessions id).isRegistered = true) :
    (engine.removeEntry id).Standing thread := by
  cases thread with
  | idle => trivial
  | createUdp datagram =>
      have absent : engine.table datagram.sessionKey = none := standing
      show
        Function.update engine.table (engine.getSessionKey id) none
            datagram.sessionKey =
          none
      by_cases same : datagram.sessionKey = engine.getSessionKey id
      · rw [same, Function.update_self]
      · rw [Function.update_of_ne same]
        exact absent
  | enterUdp datagram newSession other =>
      exact
        ⟨Held.removeEntry standing.1,
          fun isNew =>
            (standing.2 isNew).removeEntry inTable registered⟩
  | keepUdp other => exact Held.removeEntry standing
  | createTcp syn packet data => trivial
  | resendAck other => trivial
  | populate syn packet data other =>
      exact Unregistered.removeEntry standing inTable registered
  | enterTcp segment other => exact Held.removeEntry standing
  | keepFin other => exact Held.removeEntry standing
  | abort other => exact Held.removeEntry standing

end Removing

section Adding

variable {engine : Engine} {id other : Nat}

theorem inTable_keepSessionAlive :
    (engine.keepSessionAlive id).InTable id :=
  Function.update_self ..

private theorem found_keepSessionAlive {key : SessionKey}
    (found : (engine.keepSessionAlive id).table key = some other) :
    engine.table key = some other ∨
      key = engine.getSessionKey id ∧ other = id := by
  have found' :
      Function.update engine.table (engine.getSessionKey id) (some id)
          key =
        some other :=
    found
  by_cases same : key = engine.getSessionKey id
  · rw [same, Function.update_self] at found'
    exact .inr ⟨same, (Option.some.inj found').symm⟩
  · rw [Function.update_of_ne same] at found'
    exact .inl found'

theorem InTable.keepSessionAlive (inTable : engine.InTable other)
    (held : engine.Held id) :
    (engine.keepSessionAlive id).InTable other := by
  by_cases same : engine.getSessionKey other = engine.getSessionKey id
  · have itself : other = id := by
      apply held.only
      rw [← same]
      exact inTable
    rw [itself]
    exact inTable_keepSessionAlive
  · show
      Function.update engine.table (engine.getSessionKey id) (some id)
          (engine.getSessionKey other) =
        some other
    rw [Function.update_of_ne same]
    exact inTable

theorem Placed.keepSessionAlive (placed : engine.Placed)
    (held : engine.Held id) : (engine.keepSessionAlive id).Placed where
  wired := placed.wired
  placed key other found := by
    rcases found_keepSessionAlive found with before | ⟨same, itself⟩
    · exact placed.placed key other before
    · rw [itself]
      exact ⟨same.symm, held.allocated⟩
  isValid other valid :=
    InTable.keepSessionAlive (placed.isValid other valid) held
  announced := placed.announced
  attached other known := by
    rcases known with inTable | registered
    · rcases found_keepSessionAlive inTable with before | ⟨_, itself⟩
      · exact placed.attached other (.inl before)
      · rw [itself]
        exact held.attached
    · exact placed.attached other (.inr registered)
  closed := placed.closed

/-- A session that has not been closed may be put back. -/
theorem Gone.keepSessionAlive (gone : engine.Gone)
    (live : id ∉ engine.closed) : (engine.keepSessionAlive id).Gone := by
  intro other member
  obtain ⟨aborting, absent⟩ := gone other member
  refine ⟨aborting, ?_⟩
  intro inTable
  rcases found_keepSessionAlive inTable with before | ⟨_, itself⟩
  · exact absent before
  · exact live (itself ▸ member)

end Adding

section Allocating

variable {engine : Engine} {object : SessionObject} {id : Nat}

private theorem allocate_sessions (older : id < engine.allocated) :
    (engine.allocate object).sessions id = engine.sessions id :=
  Function.update_of_ne (Nat.ne_of_lt older) ..

theorem allocate_self :
    (engine.allocate object).sessions engine.allocated = object :=
  Function.update_self ..

/-- Nothing in the table is newer than the objects allocated so far. -/
theorem Placed.absent (placed : engine.Placed) (key : SessionKey) :
    engine.table key ≠ some engine.allocated :=
  fun found => Nat.lt_irrefl _ (placed.placed key _ found).2

theorem Placed.allocate (placed : engine.Placed) (wired : object.Wired)
    (invalid : object.session.selectionkey.isValid = false)
    (unregistered : object.isRegistered = false) :
    (engine.allocate object).Placed where
  wired id := by
    by_cases fresh : id = engine.allocated
    · rw [fresh, allocate_self]
      exact wired
    · show (Function.update engine.sessions engine.allocated object id).Wired
      rw [Function.update_of_ne fresh]
      exact placed.wired id
  placed key id found := by
    obtain ⟨key_eq, older⟩ := placed.placed key id found
    refine ⟨?_, Nat.lt_succ_of_lt older⟩
    rw [getSessionKey]
    rw [allocate_sessions older]
    exact key_eq
  isValid id valid := by
    by_cases fresh : id = engine.allocated
    · rw [fresh, allocate_self, invalid] at valid
      cases valid
    · have same :
          (engine.allocate object).sessions id = engine.sessions id :=
        Function.update_of_ne fresh ..
      rw [InTable, getSessionKey]
      rw [same] at valid ⊢
      exact placed.isValid id valid
  announced id registered := by
    by_cases fresh : id = engine.allocated
    · rw [fresh, allocate_self, unregistered] at registered
      cases registered
    · have same :
          (engine.allocate object).sessions id = engine.sessions id :=
        Function.update_of_ne fresh ..
      rw [same] at registered ⊢
      exact placed.announced id registered
  attached id known := by
    by_cases fresh : id = engine.allocated
    · rw [fresh] at known
      rcases known with inTable | registered
      · exact (placed.absent _ inTable).elim
      · rw [allocate_self, unregistered] at registered
        cases registered
    · have same :
          (engine.allocate object).sessions id = engine.sessions id :=
        Function.update_of_ne fresh ..
      rw [InTable, getSessionKey] at known
      rw [same] at known ⊢
      exact placed.attached id known
  closed id member := Nat.lt_succ_of_lt (placed.closed id member)

theorem Gone.allocate (gone : engine.Gone) (placed : engine.Placed) :
    (engine.allocate object).Gone := by
  intro id member
  have older := placed.closed id member
  rw [InTable, getSessionKey]
  rw [allocate_sessions older]
  exact gone id member

end Allocating

section Registering

variable {engine : Engine} {id other : Nat}

private theorem getSessionKey_register :
    (engine.updateObject id NioThread.registered).getSessionKey other =
      engine.getSessionKey other := by
  unfold getSessionKey
  by_cases same : other = id
  · rw [same, updateObject_self]
    rfl
  · rw [updateObject_of_ne same]

theorem inTable_register :
    (engine.updateObject id NioThread.registered).InTable other ↔
      engine.InTable other := by
  rw [InTable]
  rw [getSessionKey_register]
  rfl

theorem Placed.register (placed : engine.Placed)
    (inTable : engine.InTable id)
    (isOpen : (engine.sessions id).channel.isOpen = true)
    (announced :
      (engine.sessions id).session.lastIpHeader.isSome = true) :
    (engine.updateObject id NioThread.registered).Placed where
  wired other := by
    by_cases same : other = id
    · rw [same, updateObject_self]
      exact ⟨(placed.wired id).kind, fun _ => isOpen⟩
    · rw [updateObject_of_ne same]
      exact placed.wired other
  placed key other found := by
    rw [getSessionKey_register]
    exact placed.placed key other found
  isValid other valid := by
    rw [inTable_register]
    by_cases same : other = id
    · rw [same]
      exact inTable
    · rw [updateObject_of_ne same] at valid
      exact placed.isValid other valid
  announced other registered := by
    by_cases same : other = id
    · rw [same, updateObject_self]
      exact announced
    · rw [updateObject_of_ne same] at registered ⊢
      exact placed.announced other registered
  attached other known := by
    by_cases same : other = id
    · rw [same, updateObject_self]
      exact placed.attached id (.inl inTable)
    · rw [inTable_register, updateObject_of_ne same] at known
      rw [updateObject_of_ne same]
      exact placed.attached other known
  closed := placed.closed

theorem Gone.register (gone : engine.Gone) :
    (engine.updateObject id NioThread.registered).Gone := by
  intro other member
  obtain ⟨aborting, absent⟩ := gone other member
  rw [inTable_register]
  refine ⟨?_, absent⟩
  by_cases same : other = id
  · rw [same, updateObject_self]
    rw [same] at aborting
    exact aborting
  · rw [updateObject_of_ne same]
    exact aborting

end Registering

end Engine

end LanShield.Vpn
