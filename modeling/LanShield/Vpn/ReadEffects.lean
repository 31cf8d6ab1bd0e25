import LanShield.Vpn.SocketChannelReader
import Mathlib.Logic.Relation

/-!
# What the reader can do to a connection

Every method of `SocketChannelReader` amounts to a sequence of the effects
below.  A fact about reading is proved for each effect, and holds of the
methods by composition.
-/

namespace LanShield.Vpn

open LanShield.Library LanShield.Transport SocketChannelReader

/-- One effect of `pumpToClient`. -/
inductive PumpEffect : TcpConnection → TcpConnection → Prop
  | segment
      (connection : TcpConnection) (ipHeader : IPHeader)
      (tcpheader : TCPHeader) (packetBody rest : List UInt8) :
      connection.session.receivingStream = packetBody ++ rest →
      packetBody ≠ [] →
      (packetBody.length : Int) ≤
        connection.session.clientWindow -
          unsigned32
            (connection.session.sendNext -
              connection.session.sendUnack) →
      PumpEffect connection
        (sendSegment ipHeader tcpheader packetBody
          { connection with
            session :=
              { connection.session with receivingStream := rest } })
  | finish
      (connection : TcpConnection) (ipHeader : IPHeader)
      (tcpheader : TCPHeader) :
      connection.session.upstreamEof = true →
      connection.session.receivingStream = [] →
      connection.session.abortingConnection = false →
      PumpEffect connection
        ((sendFin ipHeader tcpheader connection).updateSession
          fun session => { session with abortingConnection := true })
  | interest (connection : TcpConnection) (interested : Bool) :
      PumpEffect connection
        (connection.updateSession fun session =>
          { session with
            selectionkey :=
              session.selectionkey.changeInterest .read interested })

/-- One effect of `readTCP`. -/
inductive ReadEffect : TcpConnection → TcpConnection → Prop
  | pump {before after : TcpConnection} :
      PumpEffect before after → ReadEffect before after
  | stage
      (connection : TcpConnection) (chunk : List UInt8)
      (lastSegment : Bool) :
      connection.session.abortingConnection = false →
      connection.session.upstreamEof = false →
      ReadEffect connection
        { connection with
          channel :=
            { connection.channel with
              received := connection.channel.received ++ chunk }
          session :=
            { connection.session with
              hasReceivedLastSegment := lastSegment
              receivingStream :=
                connection.session.receivingStream ++ chunk } }
  | endUpstream (connection : TcpConnection) :
      ReadEffect connection
        { connection with
          channel := { connection.channel with atEnd := true }
          session := { connection.session with upstreamEof := true } }
  | abort (connection : TcpConnection) :
      ReadEffect connection
        (connection.updateSession fun session =>
          { session with abortingConnection := true })

abbrev PumpEffects : TcpConnection → TcpConnection → Prop :=
  Relation.ReflTransGen PumpEffect

abbrev ReadEffects : TcpConnection → TcpConnection → Prop :=
  Relation.ReflTransGen ReadEffect

/-- A view of the connection that every effect leaves alone is left alone by
a sequence of them. -/
theorem Effects.view_eq {View : Type*}
    {effect : TcpConnection → TcpConnection → Prop}
    {view : TcpConnection → View}
    (kept : ∀ before after, effect before after →
      view after = view before)
    {before after : TcpConnection}
    (effects : Relation.ReflTransGen effect before after) :
    view after = view before := by
  induction effects with
  | refl => rfl
  | tail _ step inductionHypothesis =>
      exact (kept _ _ step).trans inductionHypothesis

/-- A predicate every effect preserves is preserved by a sequence of them.
-/
theorem Effects.preserve
    {effect : TcpConnection → TcpConnection → Prop}
    {holds : TcpConnection → Prop}
    (preserved : ∀ before after, effect before after →
      holds before → holds after)
    {before after : TcpConnection}
    (effects : Relation.ReflTransGen effect before after)
    (initially : holds before) : holds after := by
  induction effects with
  | refl => exact initially
  | tail _ step inductionHypothesis =>
      exact preserved _ _ step inductionHypothesis

private theorem drop_eq_self_of_take_eq_nil {items : List UInt8}
    {count : Nat} (nothing : items.take count = []) :
    items.drop count = items := by
  have rejoined := List.take_append_drop count items
  rw [nothing, List.nil_append] at rejoined
  exact rejoined

theorem pumpStaged_effects
    (ipHeader : IPHeader) (tcpheader : TCPHeader) (segMax : Int)
    (rounds : Nat) (connection : TcpConnection) :
    PumpEffects connection
      (pumpStaged ipHeader tcpheader segMax rounds connection) := by
  induction rounds generalizing connection with
  | zero =>
      exact .refl
  | succ rounds inductionHypothesis =>
      rw [pumpStaged]
      split
      · dsimp only [Session.getReceivedData]
        split
        · exact .refl
        · next room =>
          split
          · next empty =>
            rw [drop_eq_self_of_take_eq_nil (List.isEmpty_iff.mp empty)]
          · next nonempty =>
            refine .head ?_ (inductionHypothesis _)
            refine
              .segment connection ipHeader tcpheader _ _
                (List.take_append_drop _ _).symm
                (fun empty => nonempty (List.isEmpty_iff.mpr empty)) ?_
            have length_le :=
              List.length_take_le
                (min
                  (connection.session.clientWindow -
                    unsigned32
                      (connection.session.sendNext -
                        connection.session.sendUnack))
                  segMax).toNat
                connection.session.receivingStream
            omega
      · exact .refl

private theorem afterPump_effects
    (ipHeader : IPHeader) (tcpheader : TCPHeader)
    (connection : TcpConnection) :
    PumpEffects connection
      (afterPump ipHeader tcpheader connection) := by
  unfold afterPump
  dsimp only
  split
  · next finished =>
    simp only [Bool.and_eq_true, Bool.not_eq_true', Session.hasReceivedData,
      decide_eq_false_iff_not, Nat.not_lt, Nat.le_zero_eq,
      List.length_eq_zero_iff] at finished
    obtain ⟨⟨ended, empty⟩, notAborting⟩ := finished
    exact
      .single (.finish connection ipHeader tcpheader ended empty notAborting)
  · split
    · exact .single (.interest connection true)
    · exact .refl

theorem pumpToClient_effects (connection : TcpConnection) :
    PumpEffects connection (pumpToClient connection) := by
  rw [pumpToClient]
  split
  · exact (pumpStaged_effects _ _ _ _ _).trans (afterPump_effects _ _ _)
  · exact .refl

theorem PumpEffects.read {before after : TcpConnection}
    (effects : PumpEffects before after) : ReadEffects before after :=
  Relation.ReflTransGen.mono (fun _ _ => ReadEffect.pump) _ _ effects

/-- The end of the upstream stream is noted where the channel reports it. -/
def EndNoted (connection : TcpConnection) : Prop :=
  connection.session.upstreamEof = connection.channel.atEnd

theorem EndNoted.pump {before after : TcpConnection}
    (noted : EndNoted before) (effect : PumpEffect before after) :
    EndNoted after := by
  cases effect with
  | segment ipHeader tcpheader packetBody rest => exact noted
  | finish ipHeader tcpheader => exact noted
  | interest interested => exact noted

theorem EndNoted.read {before after : TcpConnection}
    (effect : ReadEffect before after) (noted : EndNoted before) :
    EndNoted after := by
  cases effect with
  | pump effect => exact noted.pump effect
  | stage chunk lastSegment => exact noted
  | endUpstream => exact rfl
  | abort => exact noted

/-- As long as the upstream stream goes on, the pump does not abort. -/
theorem pumpToClient_goes_on {connection : TcpConnection}
    (open_ : connection.session.upstreamEof = false)
    (notAborting : connection.session.abortingConnection = false) :
    (pumpToClient connection).session.upstreamEof = false ∧
      (pumpToClient connection).session.abortingConnection = false := by
  refine
    @Effects.preserve PumpEffect
      (fun connection =>
        connection.session.upstreamEof = false ∧
          connection.session.abortingConnection = false)
      ?_ _ _ (pumpToClient_effects connection) ⟨open_, notAborting⟩
  rintro before after effect ⟨still_open, still_running⟩
  cases effect with
  | segment ipHeader tcpheader packetBody rest =>
      exact ⟨still_open, still_running⟩
  | finish ipHeader tcpheader ended =>
      rw [still_open] at ended
      cases ended
  | interest interested => exact ⟨still_open, still_running⟩

private theorem readLoop_effects
    (outcomes : List ReadOutcome) :
    ∀ connection : TcpConnection,
      EndNoted connection →
        connection.session.abortingConnection = false →
          ReadEffects connection (readLoop outcomes connection).1 := by
  induction outcomes with
  | nil =>
      intro connection _ _
      rw [readLoop]
      split
      · exact .single (.pump (.interest connection false))
      · exact .refl
  | cons outcome later inductionHypothesis =>
      intro connection noted notAborting
      have ended : ReadEffects connection
          (endUpstream
            { connection with
              channel := { connection.channel with atEnd := true } }) :=
        .head (.endUpstream connection) (pumpToClient_effects _).read
      have ended_again (atEnd : connection.channel.atEnd = true) :
          { connection.channel with atEnd := true } =
            connection.channel := by
        rw [← atEnd]
      rw [readLoop]
      split
      · exact .single (.pump (.interest connection false))
      · cases outcome with
        | data chunk =>
            by_cases atEnd : connection.channel.atEnd = true
            · simp only [SocketChannel.read, if_pos atEnd]
              rw [ended_again atEnd] at ended
              exact ended
            · simp only [SocketChannel.read, if_neg atEnd]
              have open_ : connection.session.upstreamEof = false := by
                rw [noted]
                exact Bool.eq_false_iff.mpr atEnd
              have staged :=
                ReadEffect.stage connection chunk.bytes
                  (decide (chunk.bytes.length < maxReceiveBufferSize))
                  notAborting open_
              have pumped :=
                (pumpToClient_effects _).read.head staged
              have noted_later :=
                @Effects.preserve ReadEffect EndNoted
                  (fun _ _ => EndNoted.read) _ _ pumped noted
              refine pumped.trans (inductionHypothesis _ noted_later ?_)
              refine (pumpToClient_goes_on ?_ ?_).2
              · exact open_
              · exact notAborting
        | nothing =>
            by_cases atEnd : connection.channel.atEnd = true
            · simp only [SocketChannel.read, if_pos atEnd]
              rw [ended_again atEnd] at ended
              exact ended
            · simp only [SocketChannel.read, if_neg atEnd]
              exact .refl
        | endOfStream =>
            exact ended
        | failure exception =>
            cases exception with
            | notYetConnected => exact .refl
            | closedByInterrupt => exact .refl
            | closedChannel => exact .refl
            | other => exact .single (.abort connection)

theorem readTCP_effects
    (outcomes : List ReadOutcome) {connection : TcpConnection}
    (noted : EndNoted connection) :
    ReadEffects connection (readTCP outcomes connection).1 := by
  rw [readTCP]
  split
  · exact .refl
  · next notAborting =>
    exact
      readLoop_effects outcomes connection noted
        (Bool.eq_false_iff.mpr notAborting)

/-- What `read` does with the connection `readTCP` leaves: it renews the
interest in reading, and removes an aborting session. -/
theorem read_ended (outcomes : List ReadOutcome)
    (connection : TcpConnection) :
    ∃ key,
      key.isValid =
          (readTCP outcomes connection).1.session.selectionkey.isValid ∧
        (read outcomes connection).1 =
          let subscribed :=
            (readTCP outcomes connection).1.updateSession fun session =>
              { session with selectionkey := key }
          if subscribed.session.abortingConnection then
            subscribed.removeAborted
          else
            subscribed := by
  rw [SocketChannelReader.read]
  dsimp only
  by_cases room :
      (readTCP outcomes connection).1.session.receivingStreamSize <
        stagingCap
  · rw [if_pos room]
    refine ⟨_, SelectionKey.isValid_changeInterest .read true _, ?_⟩
    exact apply_ite Prod.fst _ _ _
  · rw [if_neg room]
    refine ⟨_, rfl, ?_⟩
    exact apply_ite Prod.fst _ _ _

/-- Reading removes an aborting session. -/
theorem read_aborting {outcomes : List ReadOutcome}
    {connection : TcpConnection}
    (aborting : connection.session.abortingConnection = true) :
    (read outcomes connection).1.session.selectionkey.isValid = false := by
  have skipped : readTCP outcomes connection = (connection, 0) :=
    if_pos aborting
  obtain ⟨key, _, ended⟩ := read_ended outcomes connection
  rw [skipped] at ended
  rw [ended.trans (if_pos aborting), TcpConnection.removeAborted_session]
  rfl

/-- Where the key is still valid behind `read`, the session was kept. -/
theorem read_kept {outcomes : List ReadOutcome}
    {connection : TcpConnection}
    (valid :
      (read outcomes connection).1.session.selectionkey.isValid = true) :
    ∃ key,
      (read outcomes connection).1 =
          (readTCP outcomes connection).1.updateSession (fun session =>
            { session with selectionkey := key }) ∧
        (readTCP outcomes connection).1.session.abortingConnection =
          false := by
  obtain ⟨key, _, ended⟩ := read_ended outcomes connection
  refine ⟨key, ?_⟩
  rw [ended] at valid ⊢
  dsimp only at valid ⊢
  split at valid
  · rw [TcpConnection.removeAborted_session] at valid
    cases valid
  · next notAborting =>
    exact ⟨if_neg notAborting, Bool.eq_false_iff.mpr notAborting⟩

/-- A session whose key is still valid behind `read` is not aborting. -/
theorem read_valid {outcomes : List ReadOutcome}
    {connection : TcpConnection}
    (valid :
      (read outcomes connection).1.session.selectionkey.isValid = true) :
    (read outcomes connection).1.session.abortingConnection = false := by
  obtain ⟨key, kept, notAborting⟩ := read_kept valid
  rw [kept]
  exact notAborting

end LanShield.Vpn
