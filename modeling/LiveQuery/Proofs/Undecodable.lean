import LiveQuery.Proofs.Envelope
import LiveQuery.Proofs.Routing

/-!
# Frames that are no message

A frame that cannot be decoded may still name a subscription: its bytes are a JSON object with a
string under `id` that is not empty (`Frame.namedId?`). Such a frame should hurt that subscription
alone, and any other frame that cannot be decoded should end the session (`Client.Confines`). The
agent goes by the id that the decode error carries, and so the frame is confined exactly if the
error carries the id that the frame names (`Client.undecodable_confined_iff`). An error carries an
id only if the envelope of the message passed its checks: a frame of an unknown type names a
subscription and yet ends them all (`Client.unknown_type_ends_all`).
-/

namespace LiveQuery

/-- The bytes of a frame that is there for a message. -/
def Frame.data? : Frame → Option Bytes
  | .text s => some (Utf8.ofString s)
  | .binary data => some data
  | .close _ => none

/-- The subscription that a frame names: its bytes are a JSON object with a string under `id`
that is not empty. -/
def Frame.namedId? (frame : Frame) : Option String :=
  match frame.data?.map Json.Value.parse with
  | some (.ok (.object ms)) => (Message.idMember? ms).filter (· ≠ "")
  | _ => none

/-- The frame names the id that its decode error carries, unless that is empty. -/
theorem Frame.namedId?_of_id? {frame : Frame} {e : DecodeError} {id : String}
    (h : Incoming.ofFrame frame = .error e) (hid : e.id? = some id) :
    frame.namedId? = if id = "" then none else some id := by
  have hdata {data : Bytes} (hdecode : (Message.decode data).map Incoming.message = .error e) :
      ∃ ms, Json.Value.parse data = .ok (.object ms) ∧ Message.idMember? ms = some id := by
    refine Message.idMember?_of_decode ?_ hid
    cases hd : Message.decode data with
    | error cause =>
      rw [hd] at hdecode
      cases hdecode
      rfl
    | ok m =>
      rw [hd] at hdecode
      cases hdecode
  have hnamed {data : Bytes} (hframe : frame.data? = some data)
      (hms : ∃ ms, Json.Value.parse data = .ok (.object ms) ∧
        Message.idMember? ms = some id) :
      frame.namedId? = if id = "" then none else some id := by
    obtain ⟨ms, hparse, hmember⟩ := hms
    unfold Frame.namedId?
    simp only [hframe, Option.map_some, hparse, hmember]
    by_cases hempty : id = "" <;> simp [Option.filter, hempty]
  cases frame with
  | text s => exact hnamed rfl (hdata h)
  | binary data => exact hnamed rfl (hdata h)
  | close frame => cases h

namespace Agent

variable {a : Agent} {sb : Switchboard} {link : Link} {e : DecodeError}

/-- An undecodable frame with an id ends the subscription of the id. -/
theorem receiveUndecodable_of_id (link : Link) (hcur : sb.isOutdated a.epoch = false)
    (hack : link.acknowledged = true) {id : String} (hid : e.id? = some id) :
    a.receiveUndecodable sb link e = (some { a with stage := .serving link },
      sb.commit (sb.session.endOne id (.decodeFailed e) true)) := by
  unfold receiveUndecodable Switchboard.endOne
  simp only [hid, hack, hcur, if_true, Bool.false_eq_true, if_false]
  rfl

/-- An undecodable frame without an id ends the session. -/
theorem receiveUndecodable_of_none (hcur : sb.isOutdated a.epoch = false) (hid : e.id? = none) :
    a.receiveUndecodable sb link e = (none,
      (sb.close link.socket .badResponse "Bad response").commit
        (sb.session.terminate (.badResponse e))) := by
  have hclose : (sb.close link.socket .badResponse "Bad response").isOutdated a.epoch = false :=
    hcur
  unfold receiveUndecodable
  simp only [hid]
  exact giveUp_eq hclose _

end Agent

namespace Client

variable {c c' : Client} {a : Agent} {link : Link} {error : DecodeError}

/-! ## What should become of the session -/

/-- The agent that serves a socket goes on, with its timers put off, and so do all others. -/
def ServesOn (c c' : Client) (link : Link) : Prop :=
  ∃ pre a post, c.agents = pre ++ a :: post ∧ a.stage = .serving link ∧
    c'.agents = pre ++ { a with stage := .serving (link.heard c.board.now) } :: post

/-- Only the subscription of an id ends, with one error, and the server is told once. -/
structure EndsOnly (c c' : Client) (link : Link) (id : String) (error : DecodeError) : Prop where
  phase : c'.phase = .acknowledged
  session : c'.board.session = { c.board.session with
    roster := c.board.session.roster.erase id
    outgoing := c.board.session.outgoing.map (· ++ [.complete id]) }
  channel : ∀ n, c'.board.channel n = c.board.channel n ++
    if id = c.newId n ∧ c.board.listening n = true then [.error (.decodeFailed error)] else []
  consumers : ∀ n : Nat, id ≠ c.newId n → c'.board.consumers[n]? = c.board.consumers[n]?
  agents : c.ServesOn c' link

/-- Nothing changes but the timers of the agent: the frame is gone from its socket. -/
structure Ignores (c c' : Client) (link : Link) (rest : List Frame) (error : DecodeError) :
    Prop where
  board : c'.board = c.board.hear link.socket (.error error) rest
  agents : c.ServesOn c' link

/-- The socket is closed as after a bad response, and the session is over. -/
structure Closes (c c' : Client) (link : Link) : Prop where
  phase : c'.phase = .notStarted
  closed : ∃ news, c'.board.journal = news ++ c.board.journal ∧
    ∃ entry ∈ news, ∃ arrived failed, entry.notice =
      .sent link.socket (.close ⟨.badResponse, "Bad response"⟩) arrived failed
  agents : ∃ pre a post, c.agents = pre ++ a :: post ∧ a.stage = .serving link ∧
    c'.agents = pre ++ post

/-- An undecodable frame hurts only the subscription that it names. -/
def Confines (c c' : Client) (link : Link) (frame : Frame) (rest : List Frame)
    (error : DecodeError) : Prop :=
  match frame.namedId? with
  | some id =>
    if id ∈ c.board.session.roster.ids then c.EndsOnly c' link id error
    else c.Ignores c' link rest error
  | none => c.Closes c' link

namespace ReadsIn

variable {e : Event} {frame : Frame} {rest : List Frame} (h : c.ReadsIn e a link frame rest)
  (hc : c.Coherent) (hack : link.acknowledged = true)
  (herror : Incoming.ofFrame frame = .error error)

include h hc herror

theorem attend_of_none (hid : error.id? = none) :
    a.attend (c.board.hear link.socket (Incoming.ofFrame frame) rest) link
        (Incoming.ofFrame frame) =
      (none, ((c.board.hear link.socket (.error error) rest).close link.socket .badResponse
        "Bad response").commit (c.board.session.terminate (.badResponse error))) := by
  have hcur : (c.board.hear link.socket (.error error) rest).isOutdated a.epoch = false :=
    (hc.agents a h.agent).isOutdated h.reads.told
  rw [herror]
  exact Agent.receiveUndecodable_of_none hcur hid

/-- An undecodable frame without an id closes the socket and ends the session. -/
theorem closes (hid : error.id? = none) : c.Closes (c.perform e) link := by
  have hattend := h.attend_of_none hc herror hid
  obtain ⟨pre, post, hagents, hagents'⟩ := h.agents
  refine ⟨?_, ?_, pre, a, post, hagents, h.reads.stage, ?_⟩
  · rw [phase, h.board, hattend, Switchboard.commit_session, Session.terminate_phase]
  · rw [h.board, hattend]
    obtain ⟨news, hnews⟩ := ((c.board.hear link.socket (.error error) rest).close link.socket
      .badResponse "Bad response").commit_journal (c.board.session.terminate (.badResponse error))
    obtain ⟨seen, arrived, failed, hclose⟩ : ∃ seen arrived failed,
        ((c.board.hear link.socket (.error error) rest).close link.socket .badResponse
          "Bad response").journal =
          [⟨c.board.now, .dropped link.socket seen⟩, ⟨c.board.now, .sent link.socket
            (.close ⟨.badResponse, "Bad response"⟩) arrived failed⟩,
            ⟨c.board.now, .received link.socket (.error error)⟩] ++ c.board.journal :=
      ⟨_, _, _, rfl⟩
    rw [hnews, hclose, ← List.append_assoc]
    refine ⟨_, rfl, ⟨c.board.now, .sent link.socket (.close ⟨.badResponse, "Bad response"⟩)
      arrived failed⟩, ?_, arrived, failed, rfl⟩
    simp
  · rw [hagents', hattend]
    rfl

include hack

theorem attend_of_id {id : String} (hid : error.id? = some id) :
    a.attend (c.board.hear link.socket (Incoming.ofFrame frame) rest) link
        (Incoming.ofFrame frame) =
      (some { a with stage := .serving (link.heard c.board.now) },
        (c.board.hear link.socket (.error error) rest).commit
          (c.board.session.endOne id (.decodeFailed error) true)) := by
  have hcur : (c.board.hear link.socket (.error error) rest).isOutdated a.epoch = false :=
    (hc.agents a h.agent).isOutdated h.reads.told
  rw [herror]
  exact Agent.receiveUndecodable_of_id (link.heard c.board.now) hcur hack hid

omit hc herror hack in
theorem servesOn {sb : Switchboard}
    (hattend : a.attend (c.board.hear link.socket (Incoming.ofFrame frame) rest) link
      (Incoming.ofFrame frame) = (some { a with stage := .serving (link.heard c.board.now) }, sb)) :
    c.ServesOn (c.perform e) link := by
  obtain ⟨pre, post, hagents, hagents'⟩ := h.agents
  refine ⟨pre, a, post, hagents, h.reads.stage, ?_⟩
  rw [hagents', hattend]
  rfl

omit herror in
theorem phase_of_acknowledged : c.phase = .acknowledged :=
  ((hc.agents a h.agent).acknowledged_of_serving h.reads.told h.reads.stage).2 hack

/-- An undecodable frame with the id of no subscription changes nothing. -/
theorem ignores {id : String} (hid : error.id? = some id)
    (hreg : id ∉ c.board.session.roster.ids) : c.Ignores (c.perform e) link rest error := by
  have hattend := h.attend_of_id hc hack herror hid
  have hnone := Session.endOne_of_unknown c.board.session id (.decodeFailed error) true
    (Roster.find?_eq_none_iff.2 hreg)
  refine ⟨?_, h.servesOn hattend⟩
  rw [h.board, hattend, hnone]
  exact Switchboard.withSession_self (c.board.hear link.socket (.error error) rest)

/-- An undecodable frame with the id of a subscription ends that one. -/
theorem endsOnly {id : String} (hid : error.id? = some id)
    (hreg : id ∈ c.board.session.roster.ids) : c.EndsOnly (c.perform e) link id error := by
  have hattend := h.attend_of_id hc hack herror hid
  have hphase := h.phase_of_acknowledged hc hack
  obtain ⟨entry, hf⟩ : ∃ entry, c.board.session.roster.find? id = some entry := by
    cases hf : c.board.session.roster.find? id with
    | none => exact absurd hreg (Roster.find?_eq_none_iff.1 hf)
    | some entry => exact ⟨entry, rfl⟩
  have hsession := Session.endOne_of_registered c.board.session id (.decodeFailed error) true hf
  rw [if_pos ⟨rfl, hphase⟩] at hsession
  have hitems (n : Nat) :
      Effect.itemsFor (c.board.session.endOne id (.decodeFailed error) true).2 n =
        if id = c.newId n then [.error (.decodeFailed error)] else [] := by
    rw [Session.endOne_items, hf]
    by_cases hn : id = c.newId n
    · simp [Option.filter, hn, (hc.consumer_eq_iff hf).2 hn]
    · have hne : entry.consumer ≠ n := fun heq => hn ((hc.consumer_eq_iff hf).1 heq)
      simp [Option.filter, hn, hne]
  refine ⟨?_, ?_, fun n => ?_, fun n hn => ?_, h.servesOn hattend⟩
  · rw [phase, h.board, hattend, Switchboard.commit_session, Session.endOne_phase]
    exact hphase
  · rw [h.board, hattend, Switchboard.commit_session, hsession]
  · rw [h.board, hattend, Switchboard.commit_channel, Switchboard.hear_channel,
      Switchboard.hear_listening, hitems]
    congr 1
    by_cases hn : id = c.newId n <;> cases c.board.listening n <;> simp [hn]
  · rw [h.board, hattend, Switchboard.commit_consumers, hitems, if_neg hn,
      Agent.Advance.map_feed_nil, Switchboard.hear_consumers]

end ReadsIn

/-- The agent goes by the id in the decode error, so an undecodable frame is confined exactly if
that is the id that the frame names. -/
theorem ReadsIn.confines_iff {e : Event} {frame : Frame} {rest : List Frame}
    (h : c.ReadsIn e a link frame rest) (hc : c.Coherent) (hack : link.acknowledged = true)
    (herror : Incoming.ofFrame frame = .error error) :
    c.Confines (c.perform e) link frame rest error ↔ error.id? = frame.namedId? := by
  have hphase := h.phase_of_acknowledged hc hack
  unfold Confines
  cases hid : error.id? with
  | none =>
    have hcloses := h.closes hc herror hid
    cases hnamed : frame.namedId? with
    | none => exact iff_of_true hcloses rfl
    | some id =>
      -- the frame names a subscription, and the session ends all the same
      refine iff_of_false (fun hconfines => ?_) (Option.some_ne_none id).symm
      have hstill : (c.perform e).phase = .acknowledged := by
        dsimp only at hconfines
        split at hconfines
        · exact hconfines.phase
        · rw [phase, hconfines.board]
          exact hphase
      rw [hcloses.phase] at hstill
      cases hstill
  | some id =>
    rw [Frame.namedId?_of_id? herror hid]
    by_cases hempty : id = ""
    · -- the empty id is taken for that of a subscription
      rw [if_pos hempty]
      refine iff_of_false (fun hcloses => ?_) (Option.some_ne_none id)
      have hstill : (c.perform e).phase = .acknowledged := by
        by_cases hreg : id ∈ c.board.session.roster.ids
        · exact (h.endsOnly hc hack herror hid hreg).phase
        · rw [phase, (h.ignores hc hack herror hid hreg).board]
          exact hphase
      rw [hcloses.phase] at hstill
      cases hstill
    · rw [if_neg hempty]
      refine iff_of_true ?_ rfl
      dsimp only
      split
      · next hreg => exact h.endsOnly hc hack herror hid hreg
      · next hreg => exact h.ignores hc hack herror hid hreg

/-- When the agent of an acknowledged session reads a frame that cannot be decoded, only the
subscription that the frame names is hurt, and a frame that names none ends the session, exactly
if the decode error carries the id that the frame names. -/
theorem undecodable_confined_iff (settings : Settings) (transport : Transport) {newId : Nat → String}
    (hid : Function.Injective newId) (es : List Event) (e : Event) {link : Link} {frame : Frame}
    {rest : List Frame} {error : DecodeError}
    (hlink : ((create settings transport newId).run es).currentLink? = some link)
    (hack : link.acknowledged = true)
    (hunread : ((create settings transport newId).run es).board.unread link.socket =
      frame :: rest)
    (hread : (link.socket, .error error) ∈ ((create settings transport newId).run es).reads e) :
    ((create settings transport newId).run es).Confines
      (((create settings transport newId).run es).perform e) link frame rest error ↔
        error.id? = frame.namedId? := by
  have hc := coherent_run settings transport hid es
  rcases ((create settings transport newId).run es).reads_cases e with
    hsilent | ⟨a, link', frame', rest', h⟩
  · rw [reads_of_readings (hsilent.trans (List.append_nil _).symm)] at hread
    cases hread
  · obtain rfl : link' = link := Option.some.inj ((h.currentLink? hc).symm.trans hlink)
    obtain ⟨rfl, rfl⟩ := List.cons.inj (h.reads.unread.symm.trans hunread)
    rw [reads_of_readings h.readings, List.mem_singleton] at hread
    exact h.confines_iff hc hack (Prod.mk.inj hread).2.symm

/-- A text frame of some type for the second subscription, without a payload. -/
def addressed (kind : String) : Frame :=
  .text (Json.Value.object [("type", .string kind), ("id", .string (tally 1))]).text

/-- A `next` without a payload ends the subscription that it names, and no other. -/
theorem missing_payload_confined : Function.Injective tally ∧ ∃ link error,
    ((create untimed {} tally).run (duet ++
      [.serverSend 0 (addressed "next")])).currentLink? = some link ∧
    ((create untimed {} tally).run (duet ++ [.serverSend 0 (addressed "next")])).Confines
      (((create untimed {} tally).run (duet ++
        [.serverSend 0 (addressed "next")])).perform (.turn 0)) link (addressed "next") []
          error := by
  have hlink : ((create untimed {} tally).run (duet ++
      [.serverSend 0 (addressed "next")])).currentLink?.any (fun link =>
        link.acknowledged && link.socket == 0) = true := by
    decide +kernel
  have hunread : ((create untimed {} tally).run (duet ++
      [.serverSend 0 (addressed "next")])).board.unread 0 = [addressed "next"] := by
    decide +kernel
  have hread : (((create untimed {} tally).run (duet ++
      [.serverSend 0 (addressed "next")])).reads (.turn 0)).any (fun reading =>
        match reading with
        | (k, .error error) => k == 0 && error.id? == (addressed "next").namedId?
        | _ => false) = true := by
    decide +kernel
  obtain ⟨link, hlink, hready⟩ := (Option.any_eq_true _ _).1 hlink
  obtain ⟨hack, hsocket⟩ := (Bool.and_eq_true _ _).mp hready
  have hsocket : link.socket = 0 := beq_iff_eq.1 hsocket
  obtain ⟨⟨k, item⟩, hmem, hitem⟩ := List.any_eq_true.1 hread
  split at hitem
  · next k' error hreading =>
    obtain ⟨rfl, rfl⟩ := Prod.mk.inj hreading
    obtain ⟨hk, hid⟩ := (Bool.and_eq_true _ _).mp hitem
    have hpair : ((k, .error error) : Nat × Except DecodeError Incoming) =
        (link.socket, .error error) := by
      rw [hsocket, beq_iff_eq.1 hk]
    rw [hpair] at hmem
    have hunread : ((create untimed {} tally).run (duet ++
        [.serverSend 0 (addressed "next")])).board.unread link.socket = [addressed "next"] := by
      rw [hsocket]
      exact hunread
    refine ⟨tally_injective, link, error, hlink, ?_⟩
    exact (undecodable_confined_iff untimed {} tally_injective _ _ hlink hack hunread hmem).2
      (beq_iff_eq.1 hid)
  · cases hitem

/-- A frame of an unknown type for one subscription ends the session and all of them. -/
theorem unknown_type_ends_all :
    let c := (create untimed {} tally).run (duet ++ [.serverSend 0 (addressed "bogus")])
    c.phase = .acknowledged ∧ (addressed "bogus").namedId? = some (tally 1) ∧
      c.board.session.roster.ids = [tally 0, tally 1] ∧
      (c.perform (.turn 0)).phase = .notStarted ∧
      (c.perform (.turn 0)).board.session.roster.ids = [] ∧
      ∀ link rest error,
        ¬ c.Confines (c.perform (.turn 0)) link (addressed "bogus") rest error := by
  intro c
  have hnamed : (addressed "bogus").namedId? = some (tally 1) := by decide +kernel
  have hids : c.board.session.roster.ids = [tally 0, tally 1] := by decide +kernel
  have hover : (c.perform (.turn 0)).phase = .notStarted := by decide +kernel
  refine ⟨by decide +kernel, hnamed, hids, hover, by decide +kernel,
    fun link rest error hconfines => ?_⟩
  unfold Confines at hconfines
  rw [hnamed] at hconfines
  dsimp only at hconfines
  rw [if_pos (by rw [hids]; exact List.mem_cons_of_mem _ (List.mem_singleton_self _))]
    at hconfines
  have hstill := hconfines.phase
  rw [hover] at hstill
  cases hstill

end Client

end LiveQuery
