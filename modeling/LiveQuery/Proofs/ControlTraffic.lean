import LiveQuery.Proofs.Budget
import LiveQuery.Proofs.Envelope
import LiveQuery.Proofs.WireDiscipline

/-!
# Control traffic

Pings, pongs and acknowledgments are about a socket and not about subscriptions. On every socket
the pongs of the client answer the pings that it read, each at once and with the payload of its ping
(`AnswersPings`). A pong that cannot be sent is the last thing on its socket, and the agent reckons
with a loss (`Client.Pongs`). A pong of the server, and an acknowledgment after the first one,
change nothing but the timers of the agent that reads it, however many of them come
(`Client.Idles`, `Client.Unmoved`). The three together are `Client.ControlTraffic`, and hold after
every run (`Client.controlTraffic_run`).
-/

namespace LiveQuery

open Json (Value Members ShapeError)

/-! ## The payload of a ping -/

/-- What an optional member that holds an object is read from: one that is absent or null is none. -/
theorem Json.Members.optionalField_asMembers_iff {ms : Members} {name : String}
    {payload : Option Members} : ms.optionalField name Value.asMembers = .ok payload ↔
      match payload with
      | none => Members.find? name ms = none ∨ Members.find? name ms = some .null
      | some members => Members.find? name ms = some (.object members) := by
  rw [Members.optionalField, Members.field]
  cases Members.find? name ms with
  | none => cases payload <;> simp [bind, Except.bind, pure, Except.pure]
  | some v =>
    cases v <;> cases payload <;> simp [bind, Except.bind, pure, Except.pure, Value.asOption,
      Value.asMembers, Except.map]

namespace Message

/-- A ping is read from an object of that type. Its payload is an object, and absent or null if it
has none. -/
theorem decode_ping_iff {data : Bytes} {payload : Option Members} :
    decode data = .ok (.ping payload) ↔ ∃ ms, Value.parse data = .ok (.object ms) ∧
      Members.find? "type" ms = some (.string "ping") ∧
      match payload with
      | none => Members.find? "payload" ms = none ∨ Members.find? "payload" ms = some .null
      | some members => Members.find? "payload" ms = some (.object members) := by
  have hread {ms : Members} (h : Enveloped ms .ping) : ofValue (.object ms) = .ok (.ping payload) ↔
      ms.optionalField "payload" Value.asMembers = .ok payload := by
    rw [h.ofValue_eq]
    show (ms.optionalField "payload" Value.asMembers >>= _) = _ ↔ _
    rw [bind_eq_ok]
    constructor
    · rintro ⟨payload', hpayload, h⟩
      cases h
      exact hpayload
    · intro hpayload
      exact ⟨payload, hpayload, rfl⟩
  constructor
  · intro h
    obtain ⟨ms, hparse⟩ := exists_object_of_decode h
    obtain ⟨henveloped, hvalue⟩ := (decode_eq_ok_iff hparse).1 h
    exact ⟨ms, hparse, henveloped.type,
      Members.optionalField_asMembers_iff.1 ((hread henveloped).1 hvalue)⟩
  · rintro ⟨ms, hparse, htype, hpayload⟩
    have henveloped : Enveloped ms .ping := ⟨htype, nofun⟩
    exact (decode_eq_ok_iff hparse).2
      ⟨henveloped, (hread henveloped).2 (Members.optionalField_asMembers_iff.2 hpayload)⟩

end Message

/-! ## Pings and pongs in the dealings with a socket -/

namespace Notice

/-- The payload of a ping that was read. -/
def ping? : Notice → Option (Option Members)
  | .received _ (.ok (.message (.ping payload))) => some payload
  | _ => none

/-- The payload of a pong that was sent, even if that failed. -/
def pong? : Notice → Option (Option Members)
  | .sent _ (.message (.pong payload)) _ _ => some payload
  | _ => none

variable {k : Nat}

theorem ping?_received {item : Except DecodeError Incoming} (h : Incoming.answer? item = none) :
    (received k item).ping? = none := by
  cases hping : (received k item).ping? with
  | none => rfl
  | some payload =>
    unfold ping? at hping
    split at hping
    · next heq =>
      cases heq
      cases h
    · cases hping

theorem pong?_sent {m : Message} {arrived failed : Bool} (h : ∀ payload, m ≠ .pong payload) :
    (sent k (.message m) arrived failed).pong? = none := by
  cases m with
  | pong payload => exact absurd rfl (h payload)
  | _ => rfl

/-- Is a notice neither a ping that was read nor a pong that was sent? -/
def isOther (notice : Notice) : Bool := notice.ping?.isNone && notice.pong?.isNone

theorem isOther_iff {notice : Notice} :
    notice.isOther = true ↔ notice.ping? = none ∧ notice.pong? = none := by
  rw [isOther, Bool.and_eq_true, Option.isNone_iff_eq_none, Option.isNone_iff_eq_none]

end Notice

theorem Exit.isOther {k : Nat} {exit : List Notice} (h : Exit k exit) :
    ∀ notice ∈ exit, notice.isOther = true := by
  cases h with
  | dropped seen => exact List.forall_mem_singleton.2 rfl
  | closed frame arrived failed seen =>
    exact List.forall_mem_cons.2 ⟨rfl, List.forall_mem_singleton.2 rfl⟩

/-- In the dealings with a socket pings are answered, and nothing but pings is. -/
structure AnswersPings (k : Nat) (dealings : List Notice) : Prop where
  /-- The pongs that were sent are as many as the pings that were read, with the same payloads in
  the same order. -/
  payloads : dealings.filterMap Notice.pong? = dealings.filterMap Notice.ping?
  /-- Each ping is answered at once. If the pong cannot be sent the socket is left. -/
  atOnce : ∀ {before after : List Notice} {payload : Option Members},
    dealings = before ++ .received k (.ok (.message (.ping payload))) :: after →
      ∃ arrived failed rest, after = .sent k (.message (.pong payload)) arrived failed :: rest ∧
        (failed = true → Exit k rest)

/-- No pong failed to be sent. -/
def UnfailedPongs (dealings : List Notice) : Prop :=
  ∀ s payload arrived, .sent s (.message (.pong payload)) arrived true ∉ dealings

namespace UnfailedPongs

variable {old news : List Notice}

theorem of_other (h : ∀ notice ∈ news, notice.isOther = true) : UnfailedPongs news := by
  intro s payload arrived hmem
  cases h _ hmem

theorem append (h : UnfailedPongs old) (h' : UnfailedPongs news) : UnfailedPongs (old ++ news) := by
  intro s payload arrived hmem
  rcases List.mem_append.1 hmem with hmem | hmem
  · exact h s payload arrived hmem
  · exact h' s payload arrived hmem

end UnfailedPongs

namespace AnswersPings

variable {k : Nat} {old news : List Notice}

/-- Dealings without pings and pongs. -/
theorem of_other (h : ∀ notice ∈ news, notice.isOther = true) : AnswersPings k news where
  payloads := by
    have hpong : news.filterMap Notice.pong? = [] :=
      List.filterMap_eq_nil_iff.2 fun notice hn => (Notice.isOther_iff.1 (h notice hn)).2
    have hping : news.filterMap Notice.ping? = [] :=
      List.filterMap_eq_nil_iff.2 fun notice hn => (Notice.isOther_iff.1 (h notice hn)).1
    rw [hpong, hping]
  atOnce := by
    intro before after payload hsplit
    have hother := h (.received k (.ok (.message (.ping payload))))
      (hsplit ▸ List.mem_append_right _ (List.mem_cons_self ..))
    cases hother

/-- A ping and its answer, over which the socket is left if it fails. -/
theorem of_ping (payload : Option Members) (arrived : Bool) {failed : Bool} {exit : List Notice}
    (hother : ∀ notice ∈ exit, notice.isOther = true) (hexit : failed = true → Exit k exit) :
    AnswersPings k (.received k (.ok (.message (.ping payload))) ::
      .sent k (.message (.pong payload)) arrived failed :: exit) := by
  constructor
  · show payload :: exit.filterMap Notice.pong? = payload :: exit.filterMap Notice.ping?
    rw [(of_other hother (k := k)).payloads]
  · intro before after payload' hsplit
    cases before with
    | nil =>
      cases hsplit
      exact ⟨arrived, failed, exit, rfl, hexit⟩
    | cons first before =>
      -- there is no other ping
      obtain ⟨-, hsplit⟩ := List.cons.inj hsplit
      have hmem : .received k (.ok (.message (.ping payload'))) ∈
          .sent k (.message (.pong payload)) arrived failed :: exit :=
        hsplit ▸ List.mem_append_right _ (List.mem_cons_self ..)
      rcases List.mem_cons.1 hmem with heq | hmem
      · cases heq
      · cases hother _ hmem

/-- More dealings after some in which no pong failed. -/
theorem append (h : AnswersPings k old) (hsent : UnfailedPongs old) (h' : AnswersPings k news) :
    AnswersPings k (old ++ news) where
  payloads := by rw [List.filterMap_append, List.filterMap_append, h.payloads, h'.payloads]
  atOnce := by
    intro before after payload hsplit
    rcases split_of_append hsplit with ⟨after', hold⟩ | ⟨before', rfl, hnew⟩
    · obtain ⟨arrived, failed, rest, rfl, -⟩ := h.atOnce hold
      have hafter : after = .sent k (.message (.pong payload)) arrived failed :: (rest ++ news) := by
        rw [hold, List.append_assoc] at hsplit
        exact (List.cons.inj (List.append_cancel_left hsplit)).2.symm
      refine ⟨arrived, failed, rest ++ news, hafter, ?_⟩
      rintro rfl
      refine absurd ?_ (hsent k payload arrived)
      rw [hold]
      exact List.mem_append_right _ (List.mem_cons_of_mem _ (List.mem_cons_self ..))
    · exact h'.atOnce hnew

end AnswersPings

/-- An episode answers the ping that it reads, and goes on with the socket only if that did not
fail. -/
theorem Agent.Episode.answersPings {a : Agent} {sb : Switchboard} {k : Nat} {link? link'? : Option Link}
    {news : List Notice} (h : a.Episode sb k link? news link'?)
    (hqueue : ∀ {queue : List Message}, sb.session.outgoing = some queue →
      ∀ {m : Message}, m ∈ queue → m.id?.isSome = true) :
    AnswersPings k news ∧ (link'? ≠ none → UnfailedPongs news) := by
  have hother {news : List Notice} (h : ∀ notice ∈ news, notice.isOther = true) :
      AnswersPings k news ∧ (link'? ≠ none → UnfailedPongs news) :=
    ⟨.of_other h, fun _ => .of_other h⟩
  have hread {item : Except DecodeError Incoming} (hanswer : Incoming.answer? item = none) :
      (Notice.received k item).isOther = true :=
    Notice.isOther_iff.2 ⟨Notice.ping?_received hanswer, rfl⟩
  cases h with
  | greets => exact hother (List.forall_mem_cons.2 ⟨rfl, List.forall_mem_singleton.2 rfl⟩)
  | snubbed =>
    exact hother (List.forall_mem_cons.2 ⟨rfl, List.forall_mem_cons.2
      ⟨rfl, List.forall_mem_singleton.2 rfl⟩⟩)
  | pings => exact hother (List.forall_mem_singleton.2 rfl)
  | sends hat hcalm hout =>
    -- what is queued is for subscriptions
    have hid := hqueue hout (List.mem_cons_self ..)
    refine hother (List.forall_mem_singleton.2 (Notice.isOther_iff.2 ⟨rfl, Notice.pong?_sent ?_⟩))
    rintro payload rfl
    cases hid
  | hears hat hcalm hclosed =>
    rename_i link item arrived
    cases hanswer : Incoming.answer? item with
    | none => exact hother (List.forall_mem_singleton.2 (hread hanswer))
    | some m =>
      obtain ⟨payload, rfl, rfl⟩ := Incoming.answer?_eq_some.1 hanswer
      refine ⟨.of_ping payload arrived (List.forall_mem_nil _) nofun,
        fun _ s payload' arrived' hmem => ?_⟩
      simp at hmem
  | leaves hlast hexit =>
    refine ⟨?_, fun hne => absurd rfl hne⟩
    cases hlast with
    | none => exact .of_other hexit.isOther
    | heard hcalm hanswer => exact .of_other (List.forall_mem_cons.2 ⟨hread hanswer, hexit.isOther⟩)
    | unanswered hcalm hanswer =>
      obtain ⟨payload, rfl, rfl⟩ := Incoming.answer?_eq_some.1 hanswer
      exact .of_ping payload _ hexit.isOther fun _ => hexit
    | unpinged => exact .of_other (List.forall_mem_cons.2 ⟨rfl, hexit.isOther⟩)

namespace Client

variable {c c' : Client} {e : Event}

/-- On every socket pings are answered, and nothing but pings is. -/
theorem answersPings_run (settings : Settings) (transport : Transport) {newId : Nat → String}
    (hid : Function.Injective newId) (es : List Event) (k : Nat) :
    AnswersPings k (((create settings transport newId).run es).board.dealings k) := by
  have hrecorded : ((create settings transport newId).run es).Recorded
      (fun _ link record => AnswersPings link.socket (record.map JournalEntry.notice) ∧
        UnfailedPongs (record.map JournalEntry.notice))
      fun k record => AnswersPings k (record.map JournalEntry.notice) := by
    refine recorded_run settings transport hid es fun es _ a ha k link'? news h hbefore => ?_
    have hqueue {queue : List Message}
        (hout : ((create settings transport newId).run es).board.session.outgoing = some queue)
        {m : Message} (hm : m ∈ queue) : m.id?.isSome = true :=
      named_of_outgoing (coherent_run settings transport hid es)
        (queued_run settings transport hid es) hout hm
    generalize (create settings transport newId).run es = c at h hbefore hqueue ⊢
    obtain ⟨hnew, hunfailed⟩ := h.answersPings hqueue
    have hnotices : (c.board.record k ++ news.map (JournalEntry.mk c.board.now)).map
        JournalEntry.notice = (c.board.record k).map JournalEntry.notice ++ news := by
      rw [List.map_append, List.map_map]
      exact congrArg _ (List.map_id _)
    obtain ⟨hsocket, hold, hsent⟩ : (∀ link, a.link? = some link → link.socket = k) ∧
        AnswersPings k ((c.board.record k).map JournalEntry.notice) ∧
        UnfailedPongs ((c.board.record k).map JournalEntry.notice) := by
      cases hlink : a.link? with
      | none =>
        rw [hlink] at hbefore
        have hnil : c.board.record k = [] := hbefore
        rw [hnil]
        have hnone := List.forall_mem_nil fun notice : Notice => notice.isOther = true
        exact ⟨fun _ heq => absurd heq.symm (Option.some_ne_none _), .of_other hnone,
          .of_other hnone⟩
      | some link =>
        rw [hlink] at hbefore
        obtain ⟨rfl, hold⟩ := hbefore
        exact ⟨fun link' heq => by rw [← Option.some.inj heq], hold⟩
    have hall := hold.append hsent hnew
    cases link'? with
    | none =>
      rw [After, hnotices]
      exact hall
    | some link' =>
      rw [After, hnotices, h.socket hsocket]
      exact ⟨hall, hsent.append (hunfailed (Option.some_ne_none _))⟩
  rw [← Switchboard.record_notices]
  exact hrecorded.every (fun k => .of_other (List.forall_mem_nil _)) (fun _ _ _ h => h.1)
    (fun _ _ h => h) k

end Client

/-! ## What control traffic leaves alone -/

/-- An agent but for its keep-alive timers, which are set back. -/
def Agent.stilled (a : Agent) : Agent :=
  match a.stage with
  | .serving link => { a with stage := .serving { link with heartbeat := .start 0 none 0 } }
  | _ => a

theorem Agent.stilled_serving {a : Agent} {link : Link} (hs : a.stage = .serving link)
    (heartbeat : Heartbeat) :
    ({ a with stage := .serving { link with heartbeat } } : Agent).stilled = a.stilled := by
  have hstilled : a.stilled =
      { a with stage := .serving { link with heartbeat := .start 0 none 0 } } := by
    rw [stilled, hs]
  rw [hstilled]
  rfl

/-- Does an item tell an agent nothing? A pong does not, nor does an acknowledgment of a socket that
was acknowledged. -/
def Incoming.isIdle (acknowledged : Bool) : Except DecodeError Incoming → Bool
  | .ok (.message (.pong _)) => true
  | .ok (.message (.connectionAck _)) => acknowledged
  | _ => false

namespace Client

variable {c c' c'' : Client} {e : Event} {a : Agent} {link : Link} {frame : Frame}
  {rest : List Frame}

/-- A turn changes only the agents and what they share. -/
theorem perform_of_isTurn (he : e.isTurn = true) : c.perform e =
    { c with agents := (c.perform e).agents, board := (c.perform e).board } := by
  rcases c.perform_cases he with heq | ⟨pre, a, post, o, board, -, -, heq⟩
  · rw [heq]
  · rw [heq]

/-- Only sockets, the journal and keep-alive timers have changed. The session with its phase, epoch,
roster and queues is as it was, and so are the handshakes, the consumers with what they have not
polled, the calls of the transport and of the retry policy, and the agents. -/
structure Unmoved (c c' : Client) : Prop where
  rest : c' = { c with
    agents := c'.agents
    board := { c.board with lines := c'.board.lines, journal := c'.board.journal } }
  agents : c'.agents.map Agent.stilled = c.agents.map Agent.stilled

namespace Unmoved

theorem refl (c : Client) : c.Unmoved c := ⟨rfl, rfl⟩

theorem trans (h : c.Unmoved c') (h' : c'.Unmoved c'') : c.Unmoved c'' where
  rest := by
    rw [h'.rest, h.rest]
  agents := h'.agents.trans h.agents

/-- An agent puts off its timers, and there was traffic over its socket. -/
theorem of_turn {pre post : List Agent} {heartbeat : Heartbeat} {k : Nat} {news : List Notice}
    (he : e.isTurn = true) (hagents : c.agents = pre ++ a :: post) (hs : a.stage = .serving link)
    (hagents' : (c.perform e).agents =
      pre ++ { a with stage := .serving { link with heartbeat } } :: post)
    (h : c.board.Traffic k news (c.perform e).board) : c.Unmoved (c.perform e) where
  rest := by
    rw [← h.rest]
    exact perform_of_isTurn he
  agents := by
    rw [hagents', hagents, List.map_append, List.map_append, List.map_cons, List.map_cons,
      Agent.stilled_serving hs]

end Unmoved

/-- Only readings were added to the journal: nothing was sent over any socket, delivered to a
consumer, or told to a handshake. -/
def OnlyReads (c c' : Client) : Prop :=
  ∃ news, c'.board.journal = news ++ c.board.journal ∧
    ∀ entry ∈ news, entry.notice.reading?.isSome = true

theorem OnlyReads.trans (h : c.OnlyReads c') (h' : c'.OnlyReads c'') : c.OnlyReads c'' := by
  obtain ⟨news, hjournal, hnews⟩ := h
  obtain ⟨news', hjournal', hnews'⟩ := h'
  refine ⟨news' ++ news, by rw [hjournal', hjournal, List.append_assoc], fun entry he => ?_⟩
  rcases List.mem_append.1 he with he | he
  · exact hnews' entry he
  · exact hnews entry he

/-- Events in each of which some agent reads an item that tells it nothing. -/
def Idles (c : Client) : List Event → Prop
  | [] => True
  | e :: es => (∃ a link frame rest, c.ReadsIn e a link frame rest ∧
      Incoming.isIdle link.acknowledged (Incoming.ofFrame frame) = true) ∧ (c.perform e).Idles es

/-- An agent goes on after an item that tells it nothing. -/
theorem attend_of_idle (a : Agent) (sb : Switchboard)
    (h : Incoming.isIdle link.acknowledged (Incoming.ofFrame frame) = true) :
    a.attend sb link (Incoming.ofFrame frame) =
      (some { a with stage := .serving (link.heard sb.now) }, sb) := by
  generalize Incoming.ofFrame frame = item at h
  unfold Incoming.isIdle at h
  split at h
  · rfl
  · -- another acknowledgment
    exact if_pos h
  · cases h

/-- An event that reads is a turn. -/
theorem ReadsIn.isTurn (h : c.ReadsIn e a link frame rest) : e.isTurn = true := by
  have hreads : (c.perform e).board.readings ≠ c.board.readings := by
    rw [h.readings]
    simp
  exact (step_of_reads hreads).1

/-- What an agent reads that tells it nothing changes nothing. -/
theorem ReadsIn.unmoved (h : c.ReadsIn e a link frame rest) (hc : c.Coherent)
    (hidle : Incoming.isIdle link.acknowledged (Incoming.ofFrame frame) = true) :
    c.Unmoved (c.perform e) ∧ c.OnlyReads (c.perform e) := by
  obtain ⟨pre, post, hagents, hagents'⟩ := h.agents
  have hattend := attend_of_idle a (c.board.hear link.socket (Incoming.ofFrame frame) rest) hidle
  have hboard : (c.perform e).board = c.board.hear link.socket (Incoming.ofFrame frame) rest := by
    rw [h.board, hattend]
  have hbound := (hc.agents a h.agent).bound link h.reads.stage
  have hread := c.board.traffic_hear link.socket hbound (Incoming.ofFrame frame) rest
  rw [← hboard] at hread
  rw [hattend] at hagents'
  exact ⟨.of_turn h.isTurn hagents h.reads.stage hagents' hread, _, hread.journal,
    List.forall_mem_singleton.2 rfl⟩

/-- Nor do any number of such readings, by whichever agents. -/
theorem Idles.unmoved {es : List Event} (h : c.Idles es) (hc : c.Coherent) :
    c.Unmoved (c.run es) ∧ c.OnlyReads (c.run es) := by
  induction es generalizing c with
  | nil => exact ⟨.refl c, [], rfl, List.forall_mem_nil _⟩
  | cons e es ih =>
    obtain ⟨⟨a, link, frame, rest, hread, hidle⟩, hlater⟩ := h
    obtain ⟨hfirst, hreads⟩ := hread.unmoved hc hidle
    obtain ⟨hrest, hreads'⟩ := ih hlater (hc.perform e)
    rw [run_cons]
    exact ⟨hfirst.trans hrest, hreads.trans hreads'⟩

/-- An agent that reads a frame that tells it nothing can read the next one after it. -/
theorem reads_again {place : Nat} (ha : c.agents[place]? = some a) (hc : c.Coherent) {next : Frame}
    (h : a.Reads c.board link frame (next :: rest))
    (hidle : Incoming.isIdle link.acknowledged (Incoming.ofFrame frame) = true) :
    ∃ a', (c.perform (.turn place)).agents[place]? = some a' ∧
      a'.Reads (c.perform (.turn place)).board (link.heard c.board.now) next rest := by
  have hattend := attend_of_idle a
    (c.board.hear link.socket (Incoming.ofFrame frame) (next :: rest)) hidle
  have hlt := (List.getElem?_eq_some_iff.1 ha).1
  have hbound := (hc.agents a (List.mem_of_getElem? ha)).bound link h.stage
  have hline := Switchboard.line_setLine_self c.board link.socket hbound
    { c.board.line link.socket with
      pair := { (c.board.line link.socket).pair with toClient := next :: rest } }
  rw [perform_turn_of ha (Agent.turn_of_reads h), hattend]
  refine ⟨{ a with stage := .serving (link.heard c.board.now) }, ?_, ?_⟩
  · show (c.agents.take place ++ _ :: _)[place]? = _
    rw [List.getElem?_append_right (List.length_take_le _ _), List.length_take,
      Nat.min_eq_left hlt.le, Nat.sub_self]
    rfl
  · refine ⟨h.told, rfl, Link.isCalm_heard h.calm, ?_, ?_, ?_⟩
    · -- nothing was queued meanwhile
      have hqueue := h.queue
      unfold Switchboard.nextOutgoing at hqueue ⊢
      split at hqueue
      · next hout => exact if_pos hout
      · next hout =>
        rw [Option.map_eq_none_iff] at hqueue
        exact (if_neg hout).trans (Option.map_eq_none_iff.2 hqueue)
    · exact (congrArg Line.recvFaults hline).trans h.faults
    · exact congrArg (fun l : Line => l.pair.toClient) hline

/-- An agent that can read the first of some frames that tell it nothing reads them all, one a
turn. -/
theorem idles_of_reads {place : Nat} (ha : c.agents[place]? = some a) (hc : c.Coherent)
    {frames : List Frame} (h : a.Reads c.board link frame (frames ++ rest))
    (hidle : ∀ f ∈ frame :: frames,
      Incoming.isIdle link.acknowledged (Incoming.ofFrame f) = true) :
    c.Idles (List.replicate (frames.length + 1) (.turn place)) := by
  induction frames generalizing c a link frame with
  | nil => exact ⟨⟨a, link, frame, rest, readsIn_of_reads ha h, hidle frame (List.mem_cons_self ..)⟩,
      trivial⟩
  | cons next frames ih =>
    have hfirst := hidle frame (List.mem_cons_self ..)
    refine ⟨⟨a, link, frame, _, readsIn_of_reads ha h, hfirst⟩, ?_⟩
    obtain ⟨a', ha', hnext⟩ := reads_again ha hc h hfirst
    exact ih ha' (hc.perform _) hnext fun f hf => hidle f (List.mem_cons_of_mem _ hf)

/-! ## Pings that are read -/

/-- What becomes of a ping that the agent at a place reads. -/
inductive Pongs (settings : Settings) (c : Client) (place : Nat) (a : Agent) (link : Link)
    (payload : Option Members) : Prop
  /-- The pong is sent, and nothing else happens. -/
  | sent (arrived : Bool)
      (hdealings : (c.perform (.turn place)).board.dealings link.socket =
        c.board.dealings link.socket ++ [.received link.socket (.ok (.message (.ping payload))),
          .sent link.socket (.message (.pong payload)) arrived false])
      (hunmoved : c.Unmoved (c.perform (.turn place)))
  /-- The pong cannot be sent. The socket is dropped, and this is a loss that the agent reckons
  with, so that it connects again within the retry budget. -/
  | failed {arrived seen : Bool} {error : TransportError}
      (hdealings : (c.perform (.turn place)).board.dealings link.socket =
        c.board.dealings link.socket ++ [.received link.socket (.ok (.message (.ping payload))),
          .sent link.socket (.message (.pong payload)) arrived true, .dropped link.socket seen])
      (hreckoned : Reckoned settings c place a (.sendFailed "pong" (.transport error))
        (if link.acknowledged then 0 else a.attempt))

theorem pongs_of_reads {settings : Settings} {place : Nat} (ha : c.agents[place]? = some a)
    (hc : c.Coherent) (h : a.Reads c.board link frame rest) {payload : Option Members}
    (hitem : Incoming.ofFrame frame = .ok (.message (.ping payload)))
    (hlosses : ∀ {error : ConnectionError} {acknowledged : Bool} {sb : Switchboard},
      a.Loss c.board error acknowledged sb →
        Reckoned settings c place a error (if acknowledged then 0 else a.attempt)) :
    c.Pongs settings place a link payload := by
  have hbound := (hc.agents a (List.mem_of_getElem? ha)).bound link h.stage
  have hread := c.board.traffic_hear link.socket hbound (Incoming.ofFrame frame) rest
  have hperform := perform_turn_of ha (Agent.turn_of_reads h)
  rw [hitem] at hread hperform
  obtain ⟨arrived, hsent⟩ := Switchboard.exchange_send _ link.socket hread.bound
    (.message (.pong payload))
  have hall := hread.trans hsent.toTraffic
  cases hsend : (c.board.hear link.socket (.ok (.message (.ping payload))) rest).send link.socket
      (.message (.pong payload)) with
  | mk failure sb =>
    rw [hsend] at hall
    cases failure with
    | none =>
      have hattend : a.attend (c.board.hear link.socket (.ok (.message (.ping payload))) rest) link
          (.ok (.message (.ping payload))) =
            (some { a with stage := .serving (link.heard c.board.now) }, sb) := by
        unfold Agent.attend Agent.receive
        dsimp only
        rw [show (link.heard _).socket = link.socket from rfl, hsend]
        rfl
      rw [hattend] at hperform
      have hboard : (c.perform (.turn place)).board = sb := by rw [hperform]
      rw [← hboard] at hall
      refine .sent arrived hall.dealings ?_
      exact .of_turn rfl (agents_at ha) h.stage (by rw [hperform]; rfl) hall
    | some error =>
      have hloss := Agent.Loss.pongFailed h hitem hsend
      obtain ⟨seen, hdrop⟩ := sb.traffic_drop link.socket hall.bound
      have hlost := perform_turn_of ha (Agent.turn_of_loss hloss)
      obtain ⟨-, -, hrecord⟩ := a.record_lose (sb.drop link.socket)
        (.sendFailed MessageKind.pong.name (.transport error)) link.acknowledged
      have hdealings : (c.perform (.turn place)).board.dealings link.socket =
          c.board.dealings link.socket ++ [.received link.socket (.ok (.message (.ping payload))),
            .sent link.socket (.message (.pong payload)) arrived true,
            .dropped link.socket seen] := by
        rw [hlost, ← Switchboard.record_notices, hrecord, Switchboard.record_notices,
          (hall.trans hdrop).dealings]
        rfl
      exact .failed hdealings (hlosses hloss)

/-! ## After every run -/

/-- What pings, pongs and repeated acknowledgments do, and what they leave alone. -/
structure ControlTraffic (settings : Settings) (c : Client) : Prop where
  /-- The pongs on a socket are the answers to the pings that were read from it. -/
  answers : ∀ k, AnswersPings k (c.board.dealings k)
  /-- The payload of a ping is the object under `payload`, and none if nothing or null is there. A
  pong with no payload is written without that member. -/
  payloads : ∀ {data : Bytes} {payload : Option Members},
    (Message.decode data = .ok (.ping payload) ↔ ∃ ms, Value.parse data = .ok (.object ms) ∧
      Members.find? "type" ms = some (.string "ping") ∧
      match payload with
      | none => Members.find? "payload" ms = none ∨ Members.find? "payload" ms = some .null
      | some members => Members.find? "payload" ms = some (.object members)) ∧
    (Message.pong payload).toValue = .object (("type", .string "pong") ::
      (payload.map fun members => ("payload", Value.object members)).toList)
  /-- A ping that is read is answered and changes nothing else, or the answer fails and the agent
  reckons with a loss. -/
  pings : ∀ {place : Nat} {a : Agent} {link : Link} {frame : Frame} {rest : List Frame}
    {payload : Option Members}, c.agents[place]? = some a → a.Reads c.board link frame rest →
      Incoming.ofFrame frame = .ok (.message (.ping payload)) →
        c.Pongs settings place a link payload
  /-- A link counts as acknowledged exactly if an acknowledgment was read from its socket. -/
  acknowledged : ∀ a ∈ c.agents, ∀ link, a.stage = .serving link →
    (link.acknowledged = true ↔ ∃ payload,
      .received link.socket (.ok (.message (.connectionAck payload))) ∈
        c.board.dealings link.socket)
  /-- Pongs and repeated acknowledgments change nothing and send nothing, however many are read by
  whichever agents. -/
  idle : ∀ es, c.Idles es → c.Unmoved (c.run es) ∧ c.OnlyReads (c.run es)
  /-- An agent that can read the first of some that wait on its socket reads them all. -/
  reads : ∀ {place : Nat} {a : Agent} {link : Link} {frame : Frame} {frames rest : List Frame},
    c.agents[place]? = some a → a.Reads c.board link frame (frames ++ rest) →
      (∀ f ∈ frame :: frames, Incoming.isIdle link.acknowledged (Incoming.ofFrame f) = true) →
        c.Idles (List.replicate (frames.length + 1) (.turn place))

/-- After every run control traffic stays apart from the session. -/
theorem controlTraffic_run (settings : Settings) (transport : Transport) {newId : Nat → String}
    (hid : Function.Injective newId) (es : List Event) :
    ControlTraffic settings ((create settings transport newId).run es) := by
  have hc := coherent_run settings transport hid es
  have howing := owing_run settings transport hid es
  have hfirst := results_of_fed settings transport hid es
  have hanswers := answersPings_run settings transport hid es
  have hacked := acknowledged_run settings transport hid es
  obtain ⟨hmetered, hasked, hsettings⟩ := metered_run settings transport hid es
    fun honTime : (create settings transport newId).OnTime es => honTime
  generalize (create settings transport newId).run es = c at *
  obtain rfl := hsettings
  refine ⟨hanswers, fun {data payload} => ⟨Message.decode_ping_iff, by cases payload <;> rfl⟩,
    fun ha h hitem => ?_, fun a ha link hs => ?_, fun es h => h.unmoved hc,
    fun ha h hidle => idles_of_reads ha hc h hidle⟩
  · exact pongs_of_reads ha hc h hitem fun hloss => .of_loss hc howing hfirst hmetered hasked ha hloss
  · rw [hacked.live a ha link (Agent.link?_eq_some.2 hs), ← Switchboard.any_dealings,
      List.any_eq_true]
    constructor
    · rintro ⟨notice, hn, hacks⟩
      have htraffic := (List.mem_filter.1 (List.mem_reverse.1 hn)).2
      obtain ⟨payload, rfl⟩ := Notice.acknowledges_eq_true hacks htraffic
      exact ⟨payload, hn⟩
    · rintro ⟨payload, hn⟩
      exact ⟨_, hn, rfl⟩

/-- Two pings are read, one before the acknowledgment and one after it, and then a pong and another
acknowledgment wait. -/
def smallTalk : List Event :=
  greeting ++ [.serverSend 0 (.text (Message.ping none).encode), .turn 0, acknowledgment, .turn 0,
    .turn 0, .serverSend 0 (.text (Message.ping (some [("at", .bool true)])).encode), .turn 0,
    .serverSend 0 (.text (Message.pong none).encode), acknowledgment]

/-- The pings are answered with their payloads, and the agent reads what waits, which changes
nothing. -/
theorem controlTraffic_of_smallTalk : Function.Injective tally ∧
    (((create untimed {} tally).run smallTalk).board.dealings 0).filterMap Notice.pong? =
      [none, some [("at", .bool true)]] ∧
    ((create untimed {} tally).run smallTalk).Idles [.turn 0, .turn 0] ∧
    ((create untimed {} tally).run smallTalk).Unmoved
      (((create untimed {} tally).run smallTalk).run [.turn 0, .turn 0]) := by
  have htraffic := controlTraffic_run untimed {} tally_injective smallTalk
  generalize hc : (create untimed {} tally).run smallTalk = c at htraffic
  have hpings : (c.board.dealings 0).filterMap Notice.ping? = [none, some [("at", .bool true)]] := by
    rw [← hc]
    rfl
  have hagent : (c.agents[0]?.any fun a => !a.told && a.link?.any fun link =>
      link.socket == 0 && link.acknowledged && link.isCalm c.board.now &&
        (c.board.nextOutgoing a.epoch).isNone) = true := by
    rw [← hc]
    decide +kernel
  have hfaults : (c.board.line 0).recvFaults = [] := by
    rw [← hc]
    decide +kernel
  have hunread : c.board.unread 0 = [.text (Message.pong none).encode] ++
      [.text (Message.connectionAck none).encode] := by
    rw [← hc]
    decide +kernel
  obtain ⟨a, ha, hagent⟩ := (Option.any_eq_true _ _).1 hagent
  rw [Bool.and_eq_true, Bool.not_eq_true'] at hagent
  obtain ⟨hat, hlink⟩ := hagent
  obtain ⟨link, hlink, hready⟩ := (Option.any_eq_true _ _).1 hlink
  simp only [Bool.and_eq_true, beq_iff_eq, Option.isNone_iff_eq_none] at hready
  obtain ⟨⟨⟨hsocket, hack⟩, hcalm⟩, hqueue⟩ := hready
  have hreads : a.Reads c.board link (.text (Message.pong none).encode)
      ([.text (Message.connectionAck none).encode] ++ []) :=
    ⟨hat, Agent.link?_eq_some.1 hlink, hcalm, hqueue, hsocket ▸ hfaults, hsocket ▸ hunread⟩
  have hidles : c.Idles [.turn 0, .turn 0] := by
    refine htraffic.reads ha hreads fun f hf => ?_
    rw [hack]
    simp only [List.mem_cons, List.not_mem_nil, or_false] at hf
    rcases hf with rfl | rfl <;> decide +kernel
  exact ⟨tally_injective, (htraffic.answers 0).payloads.trans hpings, hidles,
    (htraffic.idle _ hidles).1⟩

end Client

end LiveQuery
