import LiveQuery.Proofs.Lifetime

/-!
# Episodes of a socket

What a turn of an agent adds to the record of its socket is an episode (`Agent.Episode`): the
socket opens and is greeted, a ping or a queued message is sent, an item is read and perhaps
answered, or the socket is left. An episode says which link the agent has before and after, so that
the acknowledgment and the timers can be told from the record. Every turn is an episode of one
socket, or leaves all of them alone (`Agent.Fits.deed`).

The laws of records that episodes keep are drawn from this in `SocketLaws`.
-/

namespace LiveQuery

/-! ## The record of a socket -/

namespace Switchboard

variable (sb : Switchboard) (k : Nat)

/-- The entries about a socket, in order. -/
def record : List JournalEntry :=
  (sb.journal.filter fun entry => entry.notice.isTraffic k).reverse

/-- Without its times the record is the dealings. -/
theorem record_notices : (sb.record k).map JournalEntry.notice = sb.dealings k := by
  unfold record dealings
  rw [List.map_reverse, List.filter_map]
  rfl

theorem record_eq_nil : sb.record k = [] ↔ sb.dealings k = [] := by
  rw [← record_notices, List.map_eq_nil_iff]

/-- What some dealing tells, some entry of the record tells. -/
theorem any_dealings (p : Notice → Bool) :
    (sb.dealings k).any p = (sb.record k).any fun e => p e.notice := by
  rw [← record_notices, List.any_map]
  rfl

variable {sb k}

theorem record_congr {sb' : Switchboard} (h : sb'.journal = sb.journal) :
    sb'.record k = sb.record k := by
  unfold record
  rw [h]

/-- Notices that are not about the socket leave its record as it is. -/
theorem record_of_news {sb' : Switchboard} {news : List JournalEntry}
    (hjournal : sb'.journal = news ++ sb.journal)
    (hnews : ∀ entry ∈ news, entry.notice.isTraffic k = false) : sb'.record k = sb.record k := by
  have hnone : news.filter (fun entry => entry.notice.isTraffic k) = [] :=
    List.filter_eq_nil_iff.2 fun entry he => Bool.eq_false_iff.1 (hnews entry he)
  unfold record
  rw [hjournal, List.filter_append, hnone, List.nil_append]

theorem note_record {notice : Notice} (h : notice.isTraffic k = false) :
    (sb.note notice).record k = sb.record k := by
  have hjournal : (sb.note notice).journal = [⟨sb.now, notice⟩] ++ sb.journal := rfl
  exact record_of_news hjournal fun entry he => by rwa [List.mem_singleton.1 he]

theorem withSession_record (session : Session) :
    (sb.withSession session).record k = sb.record k := by
  refine record_of_news (congrArg Switchboard.journal (sb.withSession_eq session)) fun entry he => ?_
  rcases sb.mem_changes session he with ⟨m, -, hm⟩ | hm
  · rw [hm]
    rfl
  · rw [hm]
    rfl

theorem apply_record (effect : Effect) : (sb.apply effect).record k = sb.record k := by
  cases effect with
  | deliver consumer item =>
    by_cases h : sb.listening consumer = true
    · rw [sb.apply_deliver h]
      exact note_record rfl
    · rw [sb.apply_deliver_of_gone h]
  | resolve handshake result => exact note_record rfl

theorem commit_record (result : Session × List Effect) :
    (sb.commit result).record k = sb.record k := by
  unfold commit
  rw [foldl_apply_view _ _ (·.record k) fun sb effect => apply_record effect]
  exact withSession_record _

/-- Ending a subscription is not about sockets. -/
theorem record_endOne (sb : Switchboard) (epoch : Nat) (id : String) (error : SubscribeError)
    (notify : Bool) : (sb.endOne epoch id error notify).2.lines = sb.lines ∧
      ∀ k, (sb.endOne epoch id error notify).2.record k = sb.record k := by
  unfold endOne
  split
  · exact ⟨rfl, fun _ => rfl⟩
  · exact ⟨commit_lines .., fun _ => commit_record _⟩

variable {sb' : Switchboard} {news : List Notice}

/-- Traffic over a socket adds to its record. -/
theorem Traffic.record (h : sb.Traffic k news sb') :
    sb'.record k = sb.record k ++ news.reverse.map (JournalEntry.mk sb.now) := by
  have hall : (news.map (JournalEntry.mk sb.now)).filter (fun entry => entry.notice.isTraffic k) =
      news.map (JournalEntry.mk sb.now) := by
    refine List.filter_eq_self.2 fun entry he => ?_
    obtain ⟨notice, hnotice, rfl⟩ := List.mem_map.1 he
    exact h.own notice hnotice
  unfold Switchboard.record
  rw [h.journal, List.filter_append, hall, List.reverse_append, List.map_reverse]

theorem Traffic.record_elsewhere (h : sb.Traffic k news sb') {s : Nat} (hs : s ≠ k) :
    sb'.record s = sb.record s := by
  refine record_of_news h.journal fun entry he => ?_
  obtain ⟨notice, hnotice, rfl⟩ := List.mem_map.1 he
  exact Notice.isTraffic_elsewhere (h.own notice hnotice) hs

end Switchboard

/-! ## What an item tells the agent -/

namespace Incoming

/-- Is an item that was read an acknowledgment? -/
def acknowledges : Except DecodeError Incoming → Bool
  | .ok (.message (.connectionAck _)) => true
  | _ => false

/-- Is an item that was read a close frame? -/
def closes : Except DecodeError Incoming → Bool
  | .ok (.closed _) => true
  | _ => false

/-- What an item that was read is answered with: a ping with a pong. -/
def answer? : Except DecodeError Incoming → Option Message
  | .ok (.message (.ping payload)) => some (.pong payload)
  | _ => none

theorem answer?_eq_some {item : Except DecodeError Incoming} {m : Message} :
    answer? item = some m ↔ ∃ payload, item = .ok (.message (.ping payload)) ∧ m = .pong payload := by
  constructor
  · intro h
    unfold answer? at h
    split at h
    · exact ⟨_, rfl, (Option.some.inj h).symm⟩
    · cases h
  · rintro ⟨payload, rfl, rfl⟩
    rfl

end Incoming

/-- The link after an item that is no close frame was read. -/
def Link.after (link : Link) (now : Nat) (item : Except DecodeError Incoming) : Link :=
  { link.heard now with acknowledged := link.acknowledged || Incoming.acknowledges item }

/-- Everything but an acknowledgment leaves the link as it is, but for the sign of life. -/
theorem Link.after_eq {link : Link} {now : Nat} {item : Except DecodeError Incoming}
    (h : link.acknowledged = true ∨ Incoming.acknowledges item = false) :
    link.after now item = link.heard now := by
  have hsame : (link.acknowledged || Incoming.acknowledges item) = link.acknowledged := by
    rcases h with h | h
    · rw [h, Bool.true_or]
    · rw [h, Bool.or_false]
  unfold after
  rw [hsame]
  rfl

namespace Agent

/-- The link of the socket that the agent serves. -/
def link? (a : Agent) : Option Link :=
  match a.stage with
  | .serving link => some link
  | _ => none

variable {a : Agent}

theorem link?_of_serving {link : Link} (hs : a.stage = .serving link) : a.link? = some link := by
  unfold link?
  rw [hs]

theorem link?_eq_some {link : Link} : a.link? = some link ↔ a.stage = .serving link := by
  unfold link?
  cases a.stage <;> simp

theorem link?_eq_none (h : ∀ link, a.stage ≠ .serving link) : a.link? = none := by
  apply Option.eq_none_iff_forall_ne_some.2
  intro link hlink
  exact h link (link?_eq_some.1 hlink)

theorem socket?_eq_map : a.socket? = a.link?.map Link.socket := by
  unfold socket? link?
  cases a.stage <;> rfl

theorem socket?_of_link? {link : Link} (h : a.link? = some link) :
    a.socket? = some link.socket := by
  rw [socket?_eq_map, h]
  rfl

/-- Whoever has a link owns its socket alone. -/
theorem Owns.socket {sb : Switchboard} {k : Nat} (h : a.Owns sb k) {link : Link}
    (hlink : a.link? = some link) : link.socket = k := by
  rw [Owns, socket?_eq_map, hlink] at h
  rcases h with h | ⟨hnone, -⟩
  · exact Option.some.inj h
  · cases hnone

/-- Whoever has no link owns the socket that opens next. -/
theorem Owns.next {sb : Switchboard} {k : Nat} (h : a.Owns sb k) (hlink : a.link? = none) :
    k = sb.lines.length := by
  rw [Owns, socket?_eq_map, hlink] at h
  rcases h with h | ⟨-, hk⟩
  · cases h
  · exact hk

/-! ## Episodes -/

/-- What an agent does last before it leaves its socket. -/
inductive LastWord (sb : Switchboard) (k : Nat) (link : Link) : List Notice → Prop
  /-- It leaves at once. -/
  | none : LastWord sb k link []
  /-- It read something other than a ping. -/
  | heard {item : Except DecodeError Incoming} (hcalm : link.isCalm sb.now = true)
      (hanswer : Incoming.answer? item = none) : LastWord sb k link [.received k item]
  /-- It read a ping and could not answer. -/
  | unanswered {item : Except DecodeError Incoming} {m : Message} {arrived : Bool}
      (hcalm : link.isCalm sb.now = true) (hanswer : Incoming.answer? item = some m) :
      LastWord sb k link [.received k item, .sent k (.message m) arrived true]
  /-- It could not send a ping that was due. -/
  | unpinged {arrived : Bool} (hack : isDue sb.now link.waitingFor = false)
      (hpong : isDue sb.now link.heartbeat.pongDue = false)
      (hping : isDue sb.now link.heartbeat.nextPing = true) :
      LastWord sb k link [.sent k (.message (.ping sb.settings.pingPayload)) arrived true]

/-- What a turn adds to the record of a socket: the link of the agent before, what is added, and the
link after. -/
inductive Episode (a : Agent) (sb : Switchboard) (k : Nat) :
    Option Link → List Notice → Option Link → Prop
  /-- The socket opened and was greeted. -/
  | greets {arrived : Bool} (hat : a.told = false) :
      Episode a sb k none
        [.opened k, .sent k (.message (.connectionInit a.params)) arrived false]
        (some { socket := k
                ackDeadline := sb.settings.ackTimeout.map (sb.now + ·)
                heartbeat := .start sb.settings.pingInterval sb.settings.pongTimeout sb.now })
  /-- The socket opened, but the greeting failed. -/
  | snubbed {arrived seen : Bool} (hat : a.told = false) :
      Episode a sb k none
        [.opened k, .sent k (.message (.connectionInit a.params)) arrived true, .dropped k seen]
        none
  /-- A ping that was due is sent. -/
  | pings {link : Link} {arrived : Bool} (hat : a.told = false)
      (hack : isDue sb.now link.waitingFor = false)
      (hpong : isDue sb.now link.heartbeat.pongDue = false)
      (hping : isDue sb.now link.heartbeat.nextPing = true) :
      Episode a sb k (some link)
        [.sent k (.message (.ping sb.settings.pingPayload)) arrived false]
        (some { link with heartbeat := link.heartbeat.pinged sb.now })
  /-- The next message of the outgoing queue is sent. -/
  | sends {link : Link} {m : Message} {rest : List Message} {arrived failed : Bool}
      (hat : a.told = false) (hcalm : link.isCalm sb.now = true)
      (hqueue : sb.session.outgoing = some (m :: rest)) :
      Episode a sb k (some link) [.sent k (.message m) arrived failed] (some link)
  /-- An item is read, and answered if it is a ping. -/
  | hears {link : Link} {item : Except DecodeError Incoming} {arrived : Bool}
      (hat : a.told = false) (hcalm : link.isCalm sb.now = true)
      (hitem : Incoming.closes item = false) :
      Episode a sb k (some link)
        (.received k item ::
          (Incoming.answer? item).toList.map fun m => .sent k (.message m) arrived false)
        (some (link.after sb.now item))
  /-- The socket is left. -/
  | leaves {link : Link} {last exit : List Notice} (hlast : LastWord sb k link last)
      (hexit : Exit k exit) : Episode a sb k (some link) (last ++ exit) none

/-- The agent has the same socket after an episode, if it has one. -/
theorem Episode.socket {sb : Switchboard} {k : Nat} {link? : Option Link} {link' : Link}
    {news : List Notice} (h : a.Episode sb k link? news (some link'))
    (hlink : ∀ link, link? = some link → link.socket = k) : link'.socket = k := by
  cases h with
  | greets => rfl
  | sends => exact hlink _ rfl
  | pings | hears =>
    have hsocket := hlink _ rfl
    exact hsocket

/-- Agents do not change their parameters. -/
theorem Move.params {sb : Switchboard} {t : Turn} (h : a.Move sb t) :
    ∀ a' ∈ t.1, a'.params = a.params := by
  cases h with
  | leave | hangUp | ended => exact nofun
  | _ =>
    intro a' ha'
    obtain rfl := Option.some.inj ha'
    rfl

/-- What a turn does to the records of sockets. -/
inductive Deed (a : Agent) (sb : Switchboard) (t : Turn) : Prop
  /-- It leaves them alone. -/
  | apart (hlink : a.link? = none) (hlink' : t.1.bind link? = none)
      (hrecord : ∀ s, t.2.record s = sb.record s)
  /-- It is an episode of one socket. -/
  | episode {k : Nat} {news : List Notice} (hown : a.Owns sb k)
      (h : a.Episode sb k a.link? news (t.1.bind link?))
      (hrecord : t.2.record k = sb.record k ++ news.map (JournalEntry.mk sb.now))
      (helse : ∀ s, s ≠ k → t.2.record s = sb.record s) (hbound : k < t.2.lines.length)

section Deeds

variable {sb sb₁ : Switchboard} {link : Link} {t : Turn}

/-- Giving up is not about sockets. -/
theorem record_giveUp (a : Agent) (sb : Switchboard) (error : ConnectionError) :
    (a.giveUp sb error).2.lines = sb.lines ∧
      ∀ s, (a.giveUp sb error).2.record s = sb.record s := by
  unfold giveUp Switchboard.terminate
  split
  · exact ⟨rfl, fun _ => rfl⟩
  · exact ⟨Switchboard.commit_lines .., fun _ => Switchboard.commit_record _⟩

/-- Nor is asking the retry budget. -/
theorem record_lose (a : Agent) (sb : Switchboard) (error : ConnectionError)
    (acknowledged : Bool) : (a.lose sb error acknowledged).1.bind link? = none ∧
      (a.lose sb error acknowledged).2.lines = sb.lines ∧
      ∀ s, (a.lose sb error acknowledged).2.record s = sb.record s := by
  unfold lose Switchboard.suspend
  dsimp only
  generalize (if acknowledged = true then 0 else a.attempt) = attempt
  split
  · exact ⟨rfl, a.record_giveUp sb _⟩
  · cases sb.isOutdated a.epoch with
    | true => exact ⟨rfl, rfl, fun _ => rfl⟩
    | false =>
      -- the change of phase and the retry are noted, and neither is about a socket
      refine ⟨rfl, Switchboard.withSession_lines .., fun s => ?_⟩
      exact (Switchboard.note_record rfl).trans (Switchboard.withSession_record _)

/-- Traffic over one socket that is an episode makes the turn one. -/
theorem Deed.of_traffic {k : Nat} {news : List Notice} (hown : a.Owns sb k)
    (h : sb.Traffic k news sb₁) (hepisode : a.Episode sb k a.link? news.reverse (t.1.bind link?))
    (hlines : t.2.lines = sb₁.lines) (hrecord : ∀ s, t.2.record s = sb₁.record s) :
    a.Deed sb t := by
  refine .episode hown hepisode ?_ (fun s hs => ?_) ?_
  · rw [hrecord, h.record]
  · rw [hrecord, h.record_elsewhere hs]
  · rw [hlines]
    exact h.bound

/-- A socket that is dropped after some traffic is left. -/
theorem deed_loseLink (hs : a.stage = .serving link) {news : List Notice}
    (hlast : LastWord sb link.socket link news.reverse) (h : sb.Traffic link.socket news sb₁)
    (link' : Link) (hsocket : link'.socket = link.socket) (error : ConnectionError) :
    a.Deed sb (a.loseLink sb₁ link' error) := by
  unfold loseLink
  rw [hsocket]
  obtain ⟨seen, hdrop⟩ := sb₁.traffic_drop link.socket h.bound
  obtain ⟨hlink, hlines, hrecord⟩ :=
    a.record_lose (sb₁.drop link.socket) error link'.acknowledged
  refine .of_traffic (Or.inl (socket?_of_serving hs)) (h.trans hdrop) ?_ hlines hrecord
  rw [hlink, link?_of_serving hs, List.reverse_append]
  exact .leaves hlast (.dropped seen)

/-- A socket that is closed after some traffic is left. -/
theorem deed_close (hs : a.stage = .serving link) {news : List Notice}
    (hlast : LastWord sb link.socket link news.reverse) (h : sb.Traffic link.socket news sb₁)
    (code : CloseCode) (reason : String) (hnone : t.1 = none)
    (hlines : t.2.lines = (sb₁.close link.socket code reason).lines)
    (hrecord : ∀ s, t.2.record s = (sb₁.close link.socket code reason).record s) :
    a.Deed sb t := by
  obtain ⟨arrived, failed, hclose, -⟩ := sb₁.exact_close link.socket h.bound code reason
  refine .of_traffic (Or.inl (socket?_of_serving hs)) (h.trans hclose) ?_ hlines hrecord
  rw [hnone, link?_of_serving hs, List.reverse_append]
  exact .leaves hlast (.closed ..)

theorem deed_reject (hs : a.stage = .serving link) {news : List Notice}
    (hlast : LastWord sb link.socket link news.reverse) (h : sb.Traffic link.socket news sb₁)
    (link' : Link) (hsocket : link'.socket = link.socket) (error : ConnectionError) :
    a.Deed sb (a.reject sb₁ link' error) := by
  unfold reject
  rw [hsocket]
  obtain ⟨hlines, hrecord⟩ :=
    a.record_giveUp (sb₁.close link.socket .badResponse "Bad response") error
  exact deed_close hs hlast h .badResponse "Bad response" rfl hlines hrecord

/-- Going on with a socket after some traffic, and perhaps a change of the session. -/
theorem deed_serve {link' : Link} {k : Nat} {news : List Notice} (hown : a.Owns sb k)
    (h : sb.Traffic k news sb₁) (hepisode : a.Episode sb k a.link? news.reverse (some link'))
    {sb₂ : Switchboard} (hlines : sb₂.lines = sb₁.lines)
    (hrecord : ∀ s, sb₂.record s = sb₁.record s) : a.Deed sb (a.serve sb₂ link') :=
  .of_traffic hown h hepisode hlines hrecord

/-- The transport is done, and the socket that opened is greeted. -/
theorem deed_opened (hat : a.told = false) {number : Nat} {due : Option Nat}
    (hs : a.stage = .opening number due) : a.Deed sb (a.opened sb number) := by
  have hlink : a.link? = none := link?_eq_none (by simp [hs])
  have hsocket : a.socket? = none := socket?_of_opening hs
  unfold opened
  cases hopen : sb.finishOpen number with
  | error e =>
    obtain ⟨hlink', -, hrecord⟩ := a.record_lose sb (.openFailed e) false
    exact .apart hlink hlink' hrecord
  | ok result =>
    obtain ⟨k, sb₁⟩ := result
    obtain ⟨rfl, hopened, -⟩ := Switchboard.exchange_finishOpen hopen
    have hnow : sb₁.now = sb.now := hopened.now
    have hsettings : sb₁.settings = sb.settings := hopened.settings
    obtain ⟨arrived, hsent⟩ := sb₁.exchange_send sb.lines.length hopened.bound
      (.message (.connectionInit a.params))
    -- the opening and the greeting are one turn, and so one episode
    have hall := hopened.toTraffic.trans hsent.toTraffic
    have hown : a.Owns sb sb.lines.length := Or.inr ⟨hsocket, rfl⟩
    dsimp only
    unfold greet
    cases hsend : sb₁.send sb.lines.length (.message (.connectionInit a.params)) with
    | mk failure sb₂ =>
      rw [hsend] at hall
      cases failure with
      | none =>
        have hsame : sb₂.now = sb.now ∧ sb₂.settings = sb.settings := ⟨hall.now, hall.settings⟩
        refine deed_serve hown hall ?_ rfl fun _ => rfl
        rw [hlink, hsame.1, hsame.2]
        exact .greets hat
      | some e =>
        -- nobody was greeted, and the agent never had a link
        obtain ⟨seen, hdrop⟩ := sb₂.traffic_drop sb.lines.length hall.bound
        obtain ⟨hlink', hlines, hrecord⟩ := a.record_lose (sb₂.drop sb.lines.length)
          (.initFailed (.transport e)) false
        refine .of_traffic hown (hall.trans hdrop) ?_ hlines hrecord
        rw [hlink, hlink']
        exact .snubbed hat

/-- A ping that is due is sent, or the socket is lost over it. -/
theorem deed_ping (hat : a.told = false) (hs : a.stage = .serving link)
    (hbound : link.socket < sb.lines.length) (hack : isDue sb.now link.waitingFor = false)
    (hpong : isDue sb.now link.heartbeat.pongDue = false)
    (hping : isDue sb.now link.heartbeat.nextPing = true) : a.Deed sb (a.ping sb link) := by
  obtain ⟨arrived, hsent⟩ :=
    sb.exchange_send link.socket hbound (.message (.ping sb.settings.pingPayload))
  unfold ping
  cases hsend : sb.send link.socket (.message (.ping sb.settings.pingPayload)) with
  | mk failure sb₁ =>
    rw [hsend] at hsent
    cases failure with
    | some e =>
      exact deed_loseLink hs (.unpinged hack hpong hping) hsent.toTraffic link rfl _
    | none =>
      refine deed_serve (Or.inl (socket?_of_serving hs)) hsent.toTraffic ?_ rfl fun _ => rfl
      rw [link?_of_serving hs, show sb₁.now = sb.now from hsent.now]
      exact .pings hat hack hpong hping

/-- A message of the outgoing queue is sent, and the agent goes on whether that failed or not. -/
theorem deed_sends {m : Message} {rest : List Message} (h : a.Sends sb link m rest)
    (hbound : link.socket < sb.lines.length) (hqueue : sb.session.outgoing = some (m :: rest)) :
    a.Deed sb
      (a.sendNext { sb with session := { sb.session with outgoing := some rest } } link m) := by
  obtain ⟨arrived, hsent⟩ := Switchboard.exchange_send
    { sb with session := { sb.session with outgoing := some rest } } link.socket hbound
    (.message m)
  have hown : a.Owns sb link.socket := Or.inl (socket?_of_serving h.stage)
  have hepisode (failed : Bool) : a.Episode sb link.socket a.link?
      [.sent link.socket (.message m) arrived failed] (some link) := by
    rw [link?_of_serving h.stage]
    exact .sends h.told h.calm hqueue
  -- taking the message off the queue is no traffic
  have hdeed {failed : Bool} {sb₁ sb₂ : Switchboard}
      (hsent : Switchboard.Traffic link.socket [.sent link.socket (.message m) arrived failed]
        { sb with session := { sb.session with outgoing := some rest } } sb₁)
      (hlines : sb₂.lines = sb₁.lines) (hrecord : ∀ s, sb₂.record s = sb₁.record s) :
      a.Deed sb (a.serve sb₂ link) := by
    refine .episode hown (hepisode failed) ?_ (fun s hs => ?_) ?_
    · exact (hrecord _).trans hsent.record
    · exact (hrecord s).trans (hsent.record_elsewhere hs)
    · exact hlines ▸ hsent.bound
  unfold sendNext
  split
  · next sb₁ heq =>
    rw [heq] at hsent
    exact hdeed hsent.toTraffic rfl fun _ => rfl
  · next e sb₁ heq =>
    rw [heq] at hsent
    split
    · next id hid =>
      -- the subscription of the message ends, which is no traffic either
      obtain ⟨hlines, hrecord⟩ := sb₁.record_endOne a.epoch id (.sendFailed e) false
      exact hdeed hsent.toTraffic hlines hrecord
    · exact hdeed hsent.toTraffic rfl fun _ => rfl

section Reads

variable {frame : Frame} {rest : List Frame} {item : Except DecodeError Incoming}

/-- A socket from which a close frame was read is left. -/
theorem deed_receiveClose (h : a.Reads sb link frame rest)
    (hread : sb.Traffic link.socket [.received link.socket item]
      (sb.hear link.socket item rest)) (hanswer : Incoming.answer? item = none)
    (content : CloseFrame) :
    a.Deed sb (a.receiveClose (sb.hear link.socket item rest) link content) := by
  unfold receiveClose
  dsimp only
  split
  · obtain ⟨seen, hdrop⟩ := Switchboard.traffic_drop _ link.socket hread.bound
    obtain ⟨hlines, hrecord⟩ := a.record_giveUp
      ((sb.hear link.socket item rest).drop link.socket) (.closed content.code content.reason)
    refine .of_traffic (Or.inl (socket?_of_serving h.stage)) (hread.trans hdrop) ?_ hlines hrecord
    rw [link?_of_serving h.stage]
    exact .leaves (.heard h.calm hanswer) (.dropped seen)
  · exact deed_loseLink h.stage (.heard h.calm hanswer) hread link rfl _

/-- The agent goes on after an item that asks for no answer, and perhaps after a change of the
session. -/
theorem deed_heard (h : a.Reads sb link frame rest)
    (hread : sb.Traffic link.socket [.received link.socket item]
      (sb.hear link.socket item rest))
    (hitem : Incoming.closes item = false) (hanswer : Incoming.answer? item = none)
    {sb₁ : Switchboard} (hlines : sb₁.lines = (sb.hear link.socket item rest).lines)
    (hrecord : ∀ s, sb₁.record s = (sb.hear link.socket item rest).record s) :
    a.Deed sb (a.serve sb₁ (link.after sb.now item)) := by
  have hepisode : a.Episode sb link.socket (some link)
      (.received link.socket item :: (Incoming.answer? item).toList.map fun m =>
        .sent link.socket (.message m) false false) (some (link.after sb.now item)) :=
    .hears h.told h.calm hitem
  rw [hanswer] at hepisode
  refine deed_serve (Or.inl (socket?_of_serving h.stage)) hread ?_ hlines hrecord
  rw [link?_of_serving h.stage]
  exact hepisode

/-- The same with what the session makes of the item. -/
theorem deed_commit (h : a.Reads sb link frame rest)
    (hread : sb.Traffic link.socket [.received link.socket item]
      (sb.hear link.socket item rest))
    (hitem : Incoming.closes item = false) (hanswer : Incoming.answer? item = none)
    (result : Session × List Effect) {link' : Link} (hlink : link' = link.after sb.now item) :
    a.Deed sb (a.serveUnlessOutdated link'
      (true, (sb.hear link.socket item rest).commit result)) := by
  rw [hlink]
  exact deed_heard h hread hitem hanswer (Switchboard.commit_lines ..)
    fun s => Switchboard.commit_record _

theorem deed_receive (h : a.Reads sb link frame rest) (hcur : sb.isOutdated a.epoch = false)
    (m : Message)
    (hread : sb.Traffic link.socket [.received link.socket (.ok (.message m))]
      (sb.hear link.socket (.ok (.message m)) rest)) :
    a.Deed sb (a.receive (sb.hear link.socket (.ok (.message m)) rest)
      (link.heard sb.now) m) := by
  have hin : (sb.hear link.socket (.ok (.message m)) rest).isOutdated a.epoch = false := hcur
  have hreject (hanswer : Incoming.answer? (.ok (.message m)) = none) (error : ConnectionError) :
      a.Deed sb (a.reject (sb.hear link.socket (.ok (.message m)) rest) (link.heard sb.now) error) :=
    deed_reject h.stage (.heard h.calm hanswer) hread (link.heard sb.now) rfl error
  have hafter (hack : link.acknowledged = true ∨ Incoming.acknowledges (.ok (.message m)) = false) :
      link.heard sb.now = link.after sb.now (.ok (.message m)) := (Link.after_eq hack).symm
  have hidle (hack : link.acknowledged = true ∨ Incoming.acknowledges (.ok (.message m)) = false)
      (hanswer : Incoming.answer? (.ok (.message m)) = none) :
      a.Deed sb (a.serve (sb.hear link.socket (.ok (.message m)) rest) (link.heard sb.now)) := by
    rw [hafter hack]
    exact deed_heard h hread rfl hanswer rfl fun _ => rfl
  -- an item for a subscription is taken only after the acknowledgment
  have hroute (hanswer : Incoming.answer? (.ok (.message m)) = none) {id : String} {item : Item} :
      a.Deed sb (if (link.heard sb.now).acknowledged = true then
        a.serveUnlessOutdated (link.heard sb.now)
          ((sb.hear link.socket (.ok (.message m)) rest).route a.epoch id item)
      else a.reject (sb.hear link.socket (.ok (.message m)) rest) (link.heard sb.now)
        (.unexpectedMessage m.kind.name)) := by
    split
    · next hack =>
      unfold Switchboard.route
      rw [hin]
      exact deed_commit h hread rfl hanswer _ (hafter (Or.inl hack))
    · exact hreject hanswer _
  cases m with
  | connectionInit payload => exact hreject rfl _
  | subscribe id operation => exact hreject rfl _
  | pong payload => exact hidle (Or.inr rfl) rfl
  | next id result => exact hroute rfl
  | error id errors => exact hroute rfl
  | complete id => exact hroute rfl
  | connectionAck payload =>
    unfold receive
    dsimp only
    split
    · next hack => exact hidle (Or.inl hack) rfl
    · unfold Switchboard.acknowledge
      rw [hin]
      refine deed_commit h hread rfl rfl _ ?_
      unfold Link.after Incoming.acknowledges
      rw [Bool.or_true]
  | ping payload =>
    obtain ⟨arrived, hsent⟩ :=
      Switchboard.exchange_send _ link.socket hread.bound (.message (.pong payload))
    have hall := hread.trans hsent.toTraffic
    unfold receive
    dsimp only
    rw [show (link.heard sb.now).socket = link.socket from rfl]
    split
    · next e sb₁ heq =>
      rw [heq] at hall
      exact deed_loseLink h.stage (.unanswered h.calm rfl) hall _ rfl _
    · next sb₁ heq =>
      rw [heq] at hall
      rw [hafter (Or.inr rfl)]
      refine deed_serve (Or.inl (socket?_of_serving h.stage)) hall ?_ rfl fun _ => rfl
      rw [link?_of_serving h.stage]
      exact .hears h.told h.calm rfl

theorem deed_receiveUndecodable (h : a.Reads sb link frame rest)
    (hcur : sb.isOutdated a.epoch = false) (e : DecodeError)
    (hread : sb.Traffic link.socket [.received link.socket (.error e)]
      (sb.hear link.socket (.error e) rest)) :
    a.Deed sb (a.receiveUndecodable (sb.hear link.socket (.error e) rest)
      (link.heard sb.now) e) := by
  have hin : (sb.hear link.socket (.error e) rest).isOutdated a.epoch = false := hcur
  have hreject := fun error =>
    deed_reject h.stage (.heard h.calm rfl) hread (link.heard sb.now) rfl error
  unfold receiveUndecodable
  split
  · split
    · unfold Switchboard.endOne
      rw [hin]
      exact deed_commit h hread rfl rfl _ (Link.after_eq (Or.inr rfl)).symm
    · exact hreject _
  · exact hreject _

/-- An item that is read is taken in, or the socket is left over it. -/
theorem deed_reads (h : a.Reads sb link frame rest) (hcur : sb.isOutdated a.epoch = false)
    (hbound : link.socket < sb.lines.length) :
    a.Deed sb (a.attend (sb.hear link.socket (Incoming.ofFrame frame) rest) link
      (Incoming.ofFrame frame)) := by
  have hread := sb.traffic_hear link.socket hbound (Incoming.ofFrame frame) rest
  cases hitem : Incoming.ofFrame frame with
  | error e =>
    rw [hitem] at hread
    exact deed_receiveUndecodable h hcur e hread
  | ok incoming =>
    rw [hitem] at hread
    cases incoming with
    | message m => exact deed_receive h hcur m hread
    | closed content => exact deed_receiveClose h hread rfl content

end Reads

/-- A turn on an open socket is an episode of it. -/
theorem deed_of_service (hat : a.told = false) (hs : a.stage = .serving link)
    (hcur : sb.isOutdated a.epoch = false) (hbound : link.socket < sb.lines.length)
    (h : a.Service sb link t) (ht : a.turn sb = some t) : a.Deed sb t := by
  cases h with
  | stops htold =>
    rw [hat] at htold
    cases htold
  | givesUp htold hack =>
    obtain ⟨hlines, hrecord⟩ := a.record_giveUp (sb.close link.socket .connectionAckTimeout
      "Connection acknowledgement timeout") .ackTimeout
    exact deed_close hs .none (.refl hbound) _ _ rfl hlines hrecord
  | misses htold hack hpong => exact deed_loseLink hs .none (.refl hbound) link rfl _
  | pings htold hack hpong hping => exact deed_ping hat hs hbound hack hpong hping
  | sends htold hack hpong hping hout hnext =>
    exact deed_sends ⟨hat, hs, Link.isCalm_iff.2 ⟨hack, hpong, hping⟩, hnext⟩ hbound hout
  | listens htold hack hpong hping hnext h =>
    rcases listen_cases hat hs (Link.isCalm_iff.2 ⟨hack, hpong, hping⟩) hnext h with
      ⟨line, error, rfl⟩ | ⟨frame, rest, hreads⟩
    · exact deed_loseLink hs .none (sb.traffic_setLine link.socket hbound line) link rfl error
    · rw [turn_of_reads hreads] at ht
      obtain rfl := Option.some.inj ht
      exact deed_reads hreads hcur hbound

end Deeds

/-- Every turn is an episode of one socket, or leaves all sockets alone. -/
theorem Fits.deed {sb : Switchboard} (hfits : a.Fits sb) {t : Turn} (ht : a.turn sb = some t) :
    a.Deed sb t := by
  cases hat : a.told with
  | true =>
    rw [turn_of_told_eq sb hat] at ht
    obtain rfl := Option.some.inj ht
    cases hs : a.stage with
    | serving link =>
      -- whoever was told to stop says goodbye before anything else
      rw [farewell_of_serving sb hs]
      exact deed_close hs .none (.refl (hfits.bound link hs)) _ _ rfl rfl fun _ => rfl
    | ready | opening | backoff =>
      have hlink : a.link? = none := link?_eq_none (by simp [hs])
      rw [farewell_of_idle sb (by rw [socket?_eq_map, hlink]; rfl)]
      exact .apart hlink rfl fun _ => rfl
  | false =>
    have hcur := hfits.isOutdated hat
    cases conduct_of_turn ht with
    | leaves htold =>
      rw [hat] at htold
      cases htold
    | asks hs =>
      unfold openSocket
      rw [hat, hcur]
      exact .apart (link?_eq_none (by simp [hs])) rfl fun _ => Switchboard.note_record rfl
    | wakes htold hs hdue => exact .apart (link?_eq_none (by simp [hs])) rfl fun _ => rfl
    | learns htold hs hdue => exact deed_opened hat hs
    | serves hs h => exact deed_of_service hat hs hcur (hfits.bound _ hs) h ht

end Agent

end LiveQuery
