import LanShield.Vpn.PacketOrigins
import LanShield.VpnService.PacketFirewall
import LanShield.VpnService.ParserAgreement

/-!
# Every session was allowed

A session of the engine was opened by a packet that `PolicyEngine` has let
through, and it is between the addresses the decision was made for.  For a
packet without IPv4 options the ports are those of the decision, too.
-/

namespace LanShield.VpnService

open LanShield.Library LanShield.Java LanShield.Transport
open LanShield.Vpn

/-- The reading moves the position, and changes nothing else. -/
def Rewinds {Value : Type} (reading : Reading Value) : Prop :=
  ∀ buffer value after,
    reading buffer = .ok (value, after) → after.rewind = buffer.rewind

section Rewinds

variable {Value Result : Type}

private theorem rewinds_pure (value : Value) : Rewinds (pure value) := by
  intro buffer other after read
  obtain ⟨-, rfl⟩ := Reading.pure_eq_ok.mp read
  rfl

theorem Rewinds.bind {first : Reading Value} {next : Value → Reading Result}
    (left : Rewinds first) (right : ∀ value, Rewinds (next value)) :
    Rewinds (first >>= next) := by
  intro buffer result after read
  rw [Reading.bind_eq_ok] at read
  obtain ⟨value, middle, readFirst, readNext⟩ := read
  rw [right value middle result after readNext]
  exact left buffer value middle readFirst

private theorem rewinds_throw (exception : JavaException) :
    Rewinds (Reading.throw exception : Reading Value) := by
  intro buffer value after read
  cases read

private theorem rewinds_get : Rewinds (get : Reading ByteBuffer) := by
  intro buffer value after read
  cases read
  rfl

theorem Rewinds.ite {condition : Prop} [Decidable condition]
    {yes no : Reading Value} (left : Rewinds yes) (right : Rewinds no) :
    Rewinds (if condition then yes else no) := by
  split
  · exact left
  · exact right

private theorem rewinds_getBytes (count : Nat) :
    Rewinds (Reading.getBytes count) := by
  intro buffer value after read
  obtain ⟨-, -, rfl⟩ := Reading.getBytes_eq_ok.mp read
  rfl

private theorem rewinds_setPosition (index : Nat) :
    Rewinds (Reading.setPosition index) := by
  intro buffer value after read
  rw [Reading.setPosition] at read
  split at read
  · cases read
    rfl
  · cases read

private theorem rewinds_absolute
    (read : ByteBuffer → Except JavaException Value) :
    Rewinds (Reading.absolute read) := by
  intro buffer value after parsed
  obtain ⟨-, rfl⟩ := Reading.absolute_eq_ok.mp parsed
  rfl

end Rewinds

namespace IPHeader

private theorem rewinds_parseInetAddress (addressSize : Nat) :
    Rewinds (parseInetAddress addressSize) := by
  intro buffer value after read
  obtain ⟨-, -, rfl⟩ := parseInetAddress_eq_ok.mp read
  rfl

private theorem rewinds_parsePorts (protocol sourcePortOffset : Nat) :
    Rewinds (parsePorts protocol sourcePortOffset) := by
  apply Rewinds.ite
  · apply (rewinds_setPosition _).bind
    intro _
    apply ((rewinds_getBytes 2).bind fun _ => rewinds_pure _).bind
    intro sourcePort
    apply ((rewinds_getBytes 2).bind fun _ => rewinds_pure _).bind
    intro destinationPort
    exact rewinds_pure _
  · exact rewinds_pure _

private theorem rewinds_parseCanDoDpi (protocol version : Nat) (size : Int) :
    Rewinds (parseCanDoDpi protocol version size) := by
  have afterLength (ipHeaderLength : Nat) :
      Rewinds (do
        let rawPacket ← get
        if rawPacket.limit < ipHeaderLength + 13 then
          Reading.throw (.illegalArgument "Truncated TCP packet")
        else
          let dataOffsetAndNs ←
            Reading.absolute (·.getAt (ipHeaderLength + 12))
          let tcpHeaderLength := dataOffsetAndNs.toNat / 16 * 4
          return decide
            (((ipHeaderLength + tcpHeaderLength : Nat) : Int) < size)) := by
    apply rewinds_get.bind
    intro rawPacket
    apply Rewinds.ite
    · exact rewinds_throw _
    · apply (rewinds_absolute _).bind
      intro dataOffsetAndNs
      exact rewinds_pure _
  apply Rewinds.ite
  · apply Rewinds.ite
    · apply (rewinds_absolute _).bind
      intro first
      exact afterLength _
    · exact afterLength _
  · exact rewinds_pure _

private theorem rewinds_parseIPHeader
    (addressSize sourceOffset protocolOffset sourcePortOffset version :
      Nat) :
    Rewinds
      (parseIPHeader addressSize sourceOffset protocolOffset
        sourcePortOffset version) := by
  apply (rewinds_setPosition _).bind
  intro _
  apply ((rewinds_getBytes 1).bind fun _ => rewinds_pure _).bind
  intro protocolByte
  apply (rewinds_setPosition _).bind
  intro _
  apply (rewinds_parseInetAddress _).bind
  intro sourceIp
  apply (rewinds_parseInetAddress _).bind
  intro destinationIp
  apply (rewinds_absolute _).bind
  intro length
  apply (rewinds_parsePorts _ _).bind
  intro ports
  apply (rewinds_parseCanDoDpi _ _ _).bind
  intro canDoDpi
  exact rewinds_pure _

/-- The packet behind its parsed header, rewound, is the packet. -/
private theorem rewinds_ofPacket : Rewinds ofPacket := by
  intro packet judged after parsed
  rcases ofPacket_cases parsed with ⟨-, parsed⟩ | ⟨-, parsed⟩
  · exact rewinds_parseIPHeader _ _ _ _ _ packet judged after parsed
  · exact rewinds_parseIPHeader _ _ _ _ _ packet judged after parsed

end IPHeader

/-- The protocol number of a session. -/
def sessionProtocolNumber : SessionProtocol → Nat
  | .tcp => 6
  | .udp => 17

/-- The session is between the endpoints of the header a decision was made
for. -/
structure Authorises (packet : ByteBuffer) (packetHeader : IPHeader)
    (key : SessionKey) : Prop where
  protocol : packetHeader.protocol = sessionProtocolNumber key.protocol
  source :
    InetAddress.getByAddress key.sourceIp.getBytes =
      .ok packetHeader.source.address
  destination :
    InetAddress.getByAddress key.destIp.getBytes =
      .ok packetHeader.destination.address
  ports :
    PortsAtFixedOffset packet →
      packetHeader.source.port = key.sourcePort ∧
        packetHeader.destination.port = key.destPort

/-- What a session is opened for is what `forwardedPacket` reads. -/
structure ForwardedPacket.Names (forwarded : ForwardedPacket)
    (key : SessionKey) : Prop where
  protocol :
    protocolNumber forwarded.protocol = sessionProtocolNumber key.protocol
  source : forwarded.sourceIP = key.sourceIp
  destination : forwarded.destinationIP = key.destIp
  sourcePort : forwarded.sourcePort = key.sourcePort
  destinationPort : forwarded.destinationPort = key.destPort

section Endpoints

variable {packet : ByteBuffer} {packetHeader : IPHeader}
  {forwarded : ForwardedPacket} {key : SessionKey}

private theorem ports_of_portsAt {first second : Nat}
    (same : portsAt packet first = portsAt packet second) :
    slice packet.array first 2 = slice packet.array second 2 ∧
      slice packet.array (first + 2) 2 =
        slice packet.array (second + 2) 2 := by
  have halves (start : Nat) :
      slice packet.array start 2 = (portsAt packet start).take 2 ∧
        slice packet.array (start + 2) 2 =
          (portsAt packet start).drop 2 := by
    rw [portsAt, slice, slice, slice, List.take_take, List.drop_take,
      List.drop_drop]
    exact ⟨rfl, rfl⟩
  obtain ⟨firstSource, firstDestination⟩ := halves first
  obtain ⟨secondSource, secondDestination⟩ := halves second
  rw [firstSource, firstDestination, secondSource, secondDestination, same]
  exact ⟨rfl, rfl⟩

/-- Reports made from the same bytes but for the ports. -/
private theorem authorises_of_fields
    {protocolOffset sourceOffset addressSize first second : Nat}
    (judgement :
      JudgedFrom packet packetHeader protocolOffset sourceOffset
        addressSize first)
    (forwarding :
      ForwardedFrom packet forwarded protocolOffset sourceOffset
        addressSize second)
    (names : forwarded.Names key)
    (samePorts :
      PortsAtFixedOffset packet →
        portsAt packet first = portsAt packet second) :
    Authorises packet packetHeader key where
  protocol := by
    rw [judgement.protocol, forwarding.protocol, names.protocol]
  source := by
    rw [← names.source, forwarding.source]
    exact judgement.source
  destination := by
    rw [← names.destination, forwarding.destination]
    exact judgement.destination
  ports := by
    intro fixedOffset
    have transport :
        packetHeader.protocol = 6 ∨ packetHeader.protocol = 17 := by
      rw [judgement.protocol, forwarding.protocol, names.protocol]
      cases key.protocol with
      | tcp => exact Or.inl rfl
      | udp => exact Or.inr rfl
    obtain ⟨source_eq, destination_eq⟩ := judgement.ports transport
    obtain ⟨source, destination⟩ := ports_of_portsAt (samePorts fixedOffset)
    rw [source_eq, destination_eq, source, destination,
      ← forwarding.sourcePort, ← forwarding.destinationPort]
    exact ⟨names.sourcePort, names.destinationPort⟩

private theorem authorises_of_names {afterJudged afterForwarded : ByteBuffer}
    (judges : IPHeader.ofPacket packet = .ok (packetHeader, afterJudged))
    (forwards : forwardedPacket packet = .ok (forwarded, afterForwarded))
    (names : forwarded.Names key) : Authorises packet packetHeader key := by
  rcases ofPacket_fields judges with
    ⟨judgedVersion, judgement⟩ | ⟨judgedVersion, judgement⟩
  · rcases forwardedPacket_fields forwards with
      ⟨-, forwarding⟩ | ⟨six, -⟩
    · refine authorises_of_fields judgement forwarding names ?_
      rintro (six | samePorts)
      · rw [judgedVersion] at six
        cases six
      · exact samePorts
    · rw [judgedVersion] at six
      cases six
  · rcases forwardedPacket_fields forwards with
      ⟨four, -⟩ | ⟨-, forwarding⟩
    · rw [judgedVersion] at four
      cases four
    · exact authorises_of_fields judgement forwarding names fun _ => rfl

/-- What the packet thread may be about to create a session for. -/
private theorem permits_authorised {after : ByteBuffer}
    (judges : IPHeader.ofPacket packet = .ok (packetHeader, after)) :
    PacketHandling.Permits (Authorises packet packetHeader)
      after.rewind := by
  have rewound : after.rewind.rewind = packet.rewind :=
    IPHeader.rewinds_ofPacket packet packetHeader after judges
  constructor
  · intro ipHeader behindIp tcpheader data readIp tcp readTcp
    rw [rewound] at readIp
    have forwards :
        forwardedPacket packet =
          .ok
            (⟨.tcp, ipHeader.getSourceIP, ipHeader.getDestinationIP,
                tcpheader.sourcePort, tcpheader.destinationPort⟩,
              data) := by
      rw [forwardedPacket, Reading.modify_bind,
        Reading.bind_of_eq_ok readIp, tcp, transportPorts]
      rw [Reading.bind_of_eq_ok (Reading.bind_of_eq_ok readTcp)]
      rfl
    exact
      authorises_of_names judges forwards ⟨rfl, rfl, rfl, rfl, rfl⟩
  · intro ipHeader behindIp udpheader data readIp udp readUdp
    rw [rewound] at readIp
    have forwards :
        forwardedPacket packet =
          .ok
            (⟨.udp, ipHeader.getSourceIP, ipHeader.getDestinationIP,
                udpheader.sourcePort, udpheader.destinationPort⟩,
              data) := by
      rw [forwardedPacket, Reading.modify_bind,
        Reading.bind_of_eq_ok readIp, udp, transportPorts]
      rw [Reading.bind_of_eq_ok (Reading.bind_of_eq_ok readUdp)]
      rfl
    exact
      authorises_of_names judges forwards ⟨rfl, rfl, rfl, rfl, rfl⟩

end Endpoints

/-- A field was read as it was at some moment since the packet was read. -/
def ReadAt (platform : Platform) (arrived : Firewall)
    (during : List FirewallEvent) (app : PacketApp)
    (packageManager : InstalledPackages) (reads : DecisionReads)
    (field : DecisionField) : Prop :=
  ∃ moment,
    moment <+: during ∧
      field.Agrees reads
        ((run (Firewall.step platform) arrived moment).readsNow app
          packageManager)

/-- `PolicyEngine` lets the packet through, with fields each of which was so
at some moment since the packet was read. -/
def LetThrough (platform : Platform) (arrived : Firewall)
    (during : List FirewallEvent) (packet : ByteBuffer)
    (answers : PacketAnswers) (packetHeader : IPHeader) : Prop :=
  ∃ after app reads,
    IPHeader.ofPacket packet = .ok (packetHeader, after) ∧
      packetApp packetHeader answers = some app ∧
        (∀ field,
          ReadAt platform arrived during app answers.packageManager reads
            field) ∧
          PolicyEngine.Passes (decisionInput packetHeader app reads)

/-- Some packet of the run was let through for the 5-tuple. -/
def AuthorisedIn (platform : Platform) (start : Firewall)
    (events : List FirewallEvent) (key : SessionKey) : Prop :=
  ∃ earlier packet answers during later packetHeader,
    events = earlier ++ .packet packet answers :: during ++ later ∧
      LetThrough platform
          (run (Firewall.step platform) start
            (earlier ++ [.packet packet answers]))
          during packet answers packetHeader ∧
        Authorises packet packetHeader key

section Runs

variable {platform : Platform} {start : Firewall}
  {handled : List FirewallEvent} {firewall : Firewall}

theorem ReadAt.append {arrived : Firewall} {during : List FirewallEvent}
    {app : PacketApp} {packageManager : InstalledPackages}
    {reads : DecisionReads} {field : DecisionField}
    (read :
      ReadAt platform arrived during app packageManager reads field)
    (event : FirewallEvent) :
    ReadAt platform arrived (during ++ [event]) app packageManager reads
      field := by
  obtain ⟨moment, isPrefix, agrees⟩ := read
  exact ⟨moment, isPrefix.trans (List.prefix_append _ _), agrees⟩

theorem AuthorisedIn.append {key : SessionKey}
    (authorised : AuthorisedIn platform start handled key)
    (event : FirewallEvent) :
    AuthorisedIn platform start (handled ++ [event]) key := by
  obtain
    ⟨earlier, packet, answers, during, later, packetHeader, rfl, rest⟩ :=
    authorised
  exact
    ⟨earlier, packet, answers, during, later ++ [event], packetHeader,
      by simp, rest⟩

/-- The packet that is judged was read earlier, and what has been read for it
was so since then. -/
def JudgedIn (platform : Platform) (start : Firewall)
    (handled : List FirewallEvent) (judging : Judging) : Prop :=
  ∃ earlier packet during,
    handled = earlier ++ .packet packet judging.answers :: during ∧
      IPHeader.ofPacket packet =
          .ok (judging.packetHeader, judging.packetBuffer) ∧
        packetApp judging.packetHeader judging.answers =
            some judging.app ∧
          ∀ field, field ∉ judging.unread →
            ReadAt platform
              (run (Firewall.step platform) start
                (earlier ++ [.packet packet judging.answers]))
              during judging.app judging.answers.packageManager
              judging.reads field

/-- All sessions were allowed, and so is the one the packet thread is about
to create. -/
structure AllAuthorised (platform : Platform) (start : Firewall)
    (handled : List FirewallEvent) (firewall : Firewall) : Prop where
  reached : firewall = run (Firewall.step platform) start handled
  sessions :
    ∀ id, id < firewall.engine.allocated →
      AuthorisedIn platform start handled (firewall.engine.getSessionKey id)
  next : firewall.engine.Permitted (AuthorisedIn platform start handled)
  judging :
    ∀ judging, firewall.judging = some judging →
      JudgedIn platform start handled judging

theorem JudgedIn.append {judging : Judging}
    (judged : JudgedIn platform start handled judging)
    (event : FirewallEvent) :
    JudgedIn platform start (handled ++ [event]) judging := by
  obtain ⟨earlier, packet, during, rfl, parsed, found, read⟩ := judged
  refine ⟨earlier, packet, during ++ [event], by simp, parsed, found, ?_⟩
  intro field known
  exact (read field known).append event

/-- Sessions were added for 5-tuples that were allowed. -/
theorem AllAuthorised.opened {engine : Engine}
    {opened : SessionKey → Prop} {own : Nat → Prop}
    {event : FirewallEvent}
    (all : AllAuthorised platform start handled firewall)
    (origins : Openings opened own firewall.engine engine)
    (allowed : ∀ key, opened key → AuthorisedIn platform start handled key) :
    ∀ id, id < engine.allocated →
      AuthorisedIn platform start (handled ++ [event])
        (engine.getSessionKey id) := by
  intro id below
  by_cases older : id < firewall.engine.allocated
  · rw [origins.older id older]
    exact (all.sessions id older).append event
  · have new := origins.newer id (Nat.le_of_not_lt older) below
    exact (allowed _ new).append event

/-- What does not concern the engine or the packet that is judged. -/
theorem AllAuthorised.unchanged {after : Firewall} {event : FirewallEvent}
    (all : AllAuthorised platform start handled firewall)
    (stepped : firewall.step platform event = after)
    (engine : after.engine = firewall.engine)
    (judging : after.judging = firewall.judging) :
    AllAuthorised platform start (handled ++ [event]) after where
  reached := by rw [run_concat, ← all.reached, stepped]
  sessions := by
    rw [engine]
    exact fun id below => (all.sessions id below).append event
  next := by
    rw [engine]
    exact fun key opening => (all.next key opening).append event
  judging := by
    rw [judging]
    exact fun judged same => (all.judging judged same).append event

/-- A packet that has been read. -/
theorem AllAuthorised.handlePacket {packet : ByteBuffer}
    {answers : PacketAnswers}
    (all : AllAuthorised platform start handled firewall)
    (reads : firewall.Reads) :
    AllAuthorised platform start (handled ++ [.packet packet answers])
      (firewall.handlePacket packet answers) := by
  have stepped :
      firewall.step platform (.packet packet answers) =
        firewall.handlePacket packet answers :=
    if_pos reads
  rw [Firewall.handlePacket] at stepped ⊢
  cases parsed : IPHeader.ofPacket packet with
  | error exception =>
      rw [parsed] at stepped
      exact all.unchanged stepped rfl rfl
  | ok result =>
      obtain ⟨packetHeader, after⟩ := result
      rw [parsed] at stepped
      dsimp only at stepped ⊢
      cases found : packetApp packetHeader answers with
      | none =>
          rw [found] at stepped
          exact all.unchanged stepped rfl rfl
      | some app =>
          rw [found] at stepped
          dsimp only at stepped ⊢
          refine
            { reached := by rw [run_concat, ← all.reached, stepped]
              sessions := fun id below => (all.sessions id below).append _
              next := fun key opening => (all.next key opening).append _
              judging := ?_ }
          intro judging judged
          cases judged
          refine ⟨handled, packet, [], rfl, parsed, found, ?_⟩
          intro field known
          exact absurd field.mem_inOrder known

/-- One more field is read, as it is at this moment. -/
theorem AllAuthorised.readField {judging : Judging} {field : DecisionField}
    {later : List DecisionField}
    (all : AllAuthorised platform start handled firewall)
    (judged : firewall.judging = some judging)
    (unread : judging.unread = field :: later) :
    AllAuthorised platform start (handled ++ [.shouldForwardPacket])
      (firewall.readField judging field later) := by
  have stepped :
      firewall.step platform .shouldForwardPacket =
        firewall.readField judging field later := by
    rw [Firewall.step, Firewall.judge, judged]
    dsimp only
    rw [unread]
  refine
    { reached := by rw [run_concat, ← all.reached, stepped]
      sessions := fun id below => (all.sessions id below).append _
      next := fun key opening => (all.next key opening).append _
      judging := ?_ }
  intro judging' same
  cases same
  obtain ⟨earlier, packet, during, split, parsed, found, read⟩ :=
    all.judging judging judged
  refine
    ⟨earlier, packet, during ++ [.shouldForwardPacket], by simp [split],
      parsed, found, ?_⟩
  intro other known
  by_cases own : other = field
  · subst own
    refine ⟨during, List.prefix_append _ _, ?_⟩
    have now :
        run (Firewall.step platform)
            (run (Firewall.step platform) start
              (earlier ++ [.packet packet judging.answers]))
            during =
          firewall := by
      rw [all.reached, split, ← run_append, List.append_assoc]
      rfl
    dsimp only
    rw [now]
    exact other.agrees_read _ _
  · have before : other ∉ judging.unread := by
      rw [unread]
      exact fun member =>
        (List.mem_cons.mp member).elim own known
    obtain ⟨moment, isPrefix, agrees⟩ := read other before
    refine
      ⟨moment, isPrefix.trans (List.prefix_append _ _), ?_⟩
    exact
      DecisionField.Agrees.trans (DecisionField.agrees_read_other own _ _)
        agrees

/-- A packet that is let through is handed to the engine. -/
theorem AllAuthorised.handleDecision {judging : Judging}
    (all : AllAuthorised platform start handled firewall)
    (judged : firewall.judging = some judging)
    (complete : judging.unread = []) :
    AllAuthorised platform start (handled ++ [.shouldForwardPacket])
      (firewall.handleDecision platform judging) := by
  have stepped :
      firewall.step platform .shouldForwardPacket =
        firewall.handleDecision platform judging := by
    rw [Firewall.step, Firewall.judge, judged]
    dsimp only
    rw [complete]
  have reached :
      firewall.handleDecision platform judging =
        run (Firewall.step platform) start
          (handled ++ [.shouldForwardPacket]) := by
    rw [run_concat, ← all.reached, stepped]
  rw [Firewall.handleDecision] at reached ⊢
  split at reached
  case isFalse blocked =>
    rw [if_neg blocked]
    exact
      { reached := reached
        sessions := fun id below => (all.sessions id below).append _
        next := fun key opening => (all.next key opening).append _
        judging := fun judging none => by cases none }
  case isTrue forwarded =>
    rw [if_pos forwarded]
    obtain ⟨earlier, packet, during, split, parsed, found, read⟩ :=
      all.judging judging judged
    have passes := PolicyEngine.decide_forwards_iff.mp forwarded
    have letThrough :
        LetThrough platform
          (run (Firewall.step platform) start
            (earlier ++ [.packet packet judging.answers]))
          during packet judging.answers judging.packetHeader := by
      refine
        ⟨judging.packetBuffer, judging.app, judging.reads, parsed, found, ?_,
          passes⟩
      intro field
      apply read field
      rw [complete]
      exact List.not_mem_nil
    have step :=
      @origins_handlePacket (Authorises packet judging.packetHeader)
        firewall.engine judging.packetBuffer.rewind
        (permits_authorised parsed) judging.answers.opening
    refine
      { reached := reached
        sessions := ?_
        next := ?_
        judging := fun judging none => by cases none }
    · dsimp only
      rw [engineStep]
      split
      · exact all.opened step.1 fun _ impossible => impossible.elim
      · exact fun id below => (all.sessions id below).append _
    · dsimp only
      rw [engineStep]
      split
      · intro key opening
        exact
          ⟨earlier, packet, judging.answers, during,
            [.shouldForwardPacket], judging.packetHeader,
            by simp [split], letThrough, step.2 key opening⟩
      · exact fun key opening => (all.next key opening).append _

theorem AllAuthorised.step
    (all : AllAuthorised platform start handled firewall)
    (event : FirewallEvent) :
    AllAuthorised platform start (handled ++ [event])
      (firewall.step platform event) := by
  cases event with
  | packet packet answers =>
      by_cases reads : firewall.Reads
      · rw [Firewall.step, if_pos reads]
        exact all.handlePacket reads
      · exact all.unchanged rfl (by rw [Firewall.step, if_neg reads])
          (by rw [Firewall.step, if_neg reads])
  | shouldForwardPacket =>
      rw [Firewall.step, Firewall.judge]
      cases judged : firewall.judging with
      | none =>
          refine all.unchanged ?_ rfl rfl
          rw [Firewall.step, Firewall.judge, judged]
      | some judging =>
          dsimp only
          cases unread : judging.unread with
          | nil => exact all.handleDecision judged unread
          | cons field later => exact all.readField judged unread
  | observe observed => exact all.unchanged rfl rfl rfl
  | notification event => exact all.unchanged rfl rfl rfl
  | proceed answers =>
      have step :=
        @origins_proceed
          (AuthorisedIn platform start (handled ++ [.proceed answers]))
          firewall.engine answers
      exact
        { reached := by rw [run_concat, ← all.reached]
          sessions := all.opened step.1 all.next
          next := step.2
          judging := fun judging same =>
            (all.judging judging same).append _ }
  | select ready id =>
      have step := @origins_select firewall.engine ready id
      refine
        { reached := by rw [run_concat, ← all.reached]
          sessions :=
            all.opened step.toOpenings fun _ impossible => impossible.elim
          next := ?_
          judging := fun judging same =>
            (all.judging judging same).append _ }
      intro key opening
      have before : firewall.engine.packetThread.opening = some key := by
        rw [← step.packetThread]
        exact opening
      exact (all.next key before).append _

/-- In every run of the packet loop, its observers and both threads of the
engine, each session was opened by a packet that `PolicyEngine` let through
with settings each of which was so at some moment since the packet was read,
for the session's protocol and addresses and, unless IPv4 options hide them,
its ports. -/
theorem session_authorised (platform : Platform)
    (notifications : Notifications) (packetIds : Nat → Int)
    (events : List FirewallEvent) (id : Nat)
    (opened :
      id <
        (run (Firewall.step platform)
          (Firewall.start notifications packetIds)
          events).engine.allocated) :
    AuthorisedIn platform (Firewall.start notifications packetIds) events
      ((run (Firewall.step platform)
        (Firewall.start notifications packetIds)
        events).engine.getSessionKey id) := by
  have initially :
      AllAuthorised platform (Firewall.start notifications packetIds) []
        (Firewall.start notifications packetIds) := by
    refine
      { reached := rfl
        sessions := fun id below => absurd below (Nat.not_lt_zero id)
        next := ?_
        judging := fun judging none => by cases none }
    intro key opening
    cases opening
  have history :=
    @run_history_invariant _ _ (Firewall.step platform) (fun _ _ => True)
      (AllAuthorised platform (Firewall.start notifications packetIds))
      (fun handled firewall event _ all => all.step event)
      events [] (Firewall.start notifications packetIds) initially
      (StepsMeet.of_forall (fun _ _ => trivial) events _)
  exact history.sessions id opened

/-- A query that opens a session; the default policy becomes stricter once it
has been read. -/
def forwardedQuery : List FirewallEvent :=
  [.packet udpQuery (ownedBy "a")] ++
    List.replicate 4 .shouldForwardPacket ++
      [.observe (.defaultForwardPolicy .block)] ++
        List.replicate 5 .shouldForwardPacket ++ [.proceed quickAnswers]

theorem session_authorised_forwardedQuery :
    (run (Firewall.step samplePlatform)
            (Firewall.start sampleNotifications fun _ => 0)
            forwardedQuery).engine.allocated =
        1 ∧
      AuthorisedIn samplePlatform
        (Firewall.start sampleNotifications fun _ => 0) forwardedQuery
        ((run (Firewall.step samplePlatform)
          (Firewall.start sampleNotifications fun _ => 0)
          forwardedQuery).engine.getSessionKey 0) :=
  ⟨by decide +kernel,
    session_authorised samplePlatform sampleNotifications (fun _ => 0)
      forwardedQuery 0 (by decide +kernel)⟩

end Runs

end LanShield.VpnService
