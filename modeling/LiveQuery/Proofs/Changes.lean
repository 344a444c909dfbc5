import LiveQuery.Proofs.CutOff
import LiveQuery.Proofs.Queue
import LiveQuery.Proofs.Routing

/-!
# What an event does to a started session

The journal tells what an event queues (`Client.queues`) and whose sends fail in it
(`Client.fails`), as it tells what is read (`Client.reads`). `Client.Change` lists what an event can
make of a session that has started, each time with the part of the event that brings it about, and
`Client.change_perform` shows that there is nothing else. What an event queues is what the outgoing
queue grows by (`Client.queues_eq`).
-/

namespace LiveQuery

/-- The message that a notice says could not be sent. -/
def Notice.failure? : Notice → Option Message
  | .sent _ (.message m) _ true => some m
  | _ => none

/-- What fails in the background is not for a subscription. -/
theorem Notice.id?_of_failure? {notice : Notice} (h : notice.isBackground = true) {m : Message}
    (hm : notice.failure? = some m) : m.id? = none := by
  unfold failure? at hm
  split at hm
  · next s m' arrived =>
    obtain rfl := Option.some.inj hm
    simpa [isBackground] using h
  · cases hm

namespace Switchboard

variable {sb sb' : Switchboard}

/-- The messages put into outgoing queues, in order. -/
def queuings (sb : Switchboard) : List Message :=
  (sb.journal.filterMap fun e => e.notice.queued?).reverse

/-- The messages that could not be sent, in order. -/
def failures (sb : Switchboard) : List Message :=
  (sb.journal.filterMap fun e => e.notice.failure?).reverse

theorem note_queuings {notice : Notice} (h : notice.queued? = none) :
    (sb.note notice).queuings = sb.queuings := by
  simp [queuings, note, h]

/-- Replacing the session records what it adds to the queue. -/
theorem withSession_queuings (sb : Switchboard) (session : Session) :
    (sb.withSession session).queuings = sb.queuings ++ sb.added session := by
  have hadded (ms : List Message) : ((ms.map fun m => (⟨sb.now, .queued m⟩ : JournalEntry)).filterMap
      fun e => e.notice.queued?) = ms := by
    rw [List.filterMap_map]
    exact List.filterMap_some
  have hmoved : (if sb.session.phase = session.phase then []
      else [(⟨sb.now, .moved sb.session.phase session.phase⟩ : JournalEntry)]).filterMap
        (fun e => e.notice.queued?) = [] := by
    split <;> rfl
  rw [withSession_eq]
  unfold queuings changes
  rw [List.filterMap_append, List.filterMap_append, List.filterMap_reverse, hadded, hmoved,
    List.append_nil, List.reverse_append, List.reverse_reverse]

theorem apply_queuings (sb : Switchboard) (effect : Effect) :
    (sb.apply effect).queuings = sb.queuings := by
  cases effect with
  | deliver n item =>
    unfold apply
    dsimp only
    split
    · exact note_queuings rfl
    · rfl
  | resolve h result => exact note_queuings rfl

theorem commit_queuings (sb : Switchboard) (result : Session × List Effect) :
    (sb.commit result).queuings = sb.queuings ++ sb.added result.1 := by
  unfold commit
  rw [foldl_apply_view _ _ queuings apply_queuings, withSession_queuings]

theorem withSession_failures (sb : Switchboard) (session : Session) :
    (sb.withSession session).failures = sb.failures := by
  rw [withSession_eq]
  unfold failures
  rw [sb.filterMap_changes session _ (fun _ _ => rfl) fun _ _ _ => rfl]

theorem commit_failures (sb : Switchboard) (result : Session × List Effect) :
    (sb.commit result).failures = sb.failures := by
  unfold commit
  rw [foldl_apply_view _ _ failures, withSession_failures]
  intro sb effect
  cases effect with
  | deliver n item =>
    unfold apply
    dsimp only
    split <;> rfl
  | resolve h result => rfl

theorem Traffic.failures {k : Nat} {news : List Notice} (h : sb.Traffic k news sb') :
    sb'.failures = sb.failures ++ (news.filterMap Notice.failure?).reverse := by
  unfold Switchboard.failures
  rw [h.journal, List.filterMap_append, List.filterMap_map, List.reverse_append]
  rfl

theorem Traffic.queuings {k : Nat} {news : List Notice} (h : sb.Traffic k news sb') :
    sb'.queuings = sb.queuings := by
  unfold Switchboard.queuings
  rw [h.journal, List.filterMap_append, List.reverse_append]
  have hnone : (news.map (⟨sb.now, ·⟩ : Notice → JournalEntry)).filterMap
      (fun e => e.notice.queued?) = [] := by
    refine List.filterMap_eq_nil_iff.2 fun entry hentry => ?_
    obtain ⟨notice, hnotice, rfl⟩ := List.mem_map.1 hentry
    exact Notice.queued?_of_isTraffic (h.own notice hnotice)
  rw [hnone]
  exact List.append_nil _

theorem abandon_queuings (sb : Switchboard) (m : Message) (error : TransportError) :
    (sb.abandon m error).queuings = sb.queuings := by
  rcases sb.abandon_cases m error with h | ⟨id, -, h⟩ <;> rw [h]
  rw [commit_queuings, added_of_same _ (Session.endOne_outgoing_silent ..), List.append_nil]

/-- What is appended to a queue is new. -/
theorem newMessages_append (queue new : List Message) :
    newMessages (some queue) (some (queue ++ new)) = new := List.drop_left

/-- A queue that gets shorter gets nothing. -/
theorem newMessages_tail (m : Message) (rest : List Message) :
    newMessages (some (m :: rest)) (some rest) = [] :=
  List.drop_eq_nil_of_le (Nat.le_succ rest.length)

/-- A queue that is given up gets nothing. -/
theorem newMessages_none (before : Option (List Message)) : newMessages before none = [] :=
  List.drop_nil

theorem newMessages_self (before : Option (List Message)) : newMessages before before = [] :=
  List.drop_length

/-- A queue that stays gets nothing. -/
theorem queuings_of_same (hqueuings : sb'.queuings = sb.queuings)
    (hout : sb'.session.outgoing = sb.session.outgoing) :
    sb'.queuings = sb.queuings ++ newMessages sb.session.outgoing sb'.session.outgoing := by
  rw [hqueuings, hout, newMessages_self, List.append_nil]

end Switchboard

namespace Agent

theorem Parting.queuings {a : Agent} {sb sb' : Switchboard}
    (h : a.Parting sb sb') : sb'.queuings = sb.queuings := by
  cases h with
  | unopened hs => rfl
  | opened hs h => exact h.queuings
  | served hs h => exact h.queuings

end Agent

namespace Client

variable {c c' : Client} {e : Event}

/-- What is queued in an event. -/
def queues (c : Client) (e : Event) : List Message :=
  (c.perform e).board.queuings.drop c.board.queuings.length

/-- What could not be sent in an event. -/
def fails (c : Client) (e : Event) : List Message :=
  (c.perform e).board.failures.drop c.board.failures.length

theorem fails_of_failures {news : List Message}
    (h : (c.perform e).board.failures = c.board.failures ++ news) : c.fails e = news := by
  unfold fails
  rw [h, List.drop_left]

/-! ## What is queued -/

/-- What a turn queues is what the outgoing queue grows by. -/
theorem queuings_of_move {a : Agent} {t : Turn} (hmove : a.Move c.board t) :
    t.2.queuings = c.board.queuings ++
      Switchboard.newMessages c.board.session.outgoing t.2.session.outgoing := by
  -- the session changes after traffic that leaves it alone
  have hcommit {sb : Switchboard} (hsession : sb.session = c.board.session)
      (hqueuings : sb.queuings = c.board.queuings) (result : Session × List Effect) :
      (sb.commit result).queuings = c.board.queuings ++
        Switchboard.newMessages c.board.session.outgoing (sb.commit result).session.outgoing := by
    rw [Switchboard.commit_queuings, Switchboard.commit_session, hqueuings, Switchboard.added,
      hsession]
  -- a queue that gets shorter gets nothing
  have hshorter {m : Message} {rest : List Message}
      (hout : c.board.session.outgoing = some (m :: rest)) :
      c.board.queuings ++ Switchboard.newMessages c.board.session.outgoing (some rest) =
        c.board.queuings := by
    rw [hout, Switchboard.newMessages_tail, List.append_nil]
  cases hmove with
  | leave | wake => exact Switchboard.queuings_of_same rfl rfl
  | ask => exact Switchboard.queuings_of_same (Switchboard.note_queuings rfl) rfl
  | hangUp hat hs h => exact Switchboard.queuings_of_same h.queuings (by rw [h.session])
  | greet hat hs hsocket hack h =>
    exact Switchboard.queuings_of_same h.queuings (by rw [h.session])
  | idle hat hs hsocket hack h =>
    exact Switchboard.queuings_of_same h.queuings (by rw [h.session])
  | ended hat h error => exact hcommit h.session h.queuings _
  | retry hat h hbudget =>
    rename_i sb attempt due retries
    rw [Switchboard.note_queuings rfl]
    refine (sb.withSession_queuings _).trans ?_
    rw [h.queuings, Switchboard.added, h.session]
    exact congrArg (fun s : Session => c.board.queuings ++
      Switchboard.newMessages c.board.session.outgoing s.outgoing)
      (Switchboard.withSession_session sb (c.board.session.suspend sb.listening)).symm
  | deliver hat hs hout h => rw [h.queuings, h.session, hshorter hout]; rfl
  | undeliverable hat hs hout h error =>
    rename_i sb
    rw [sb.abandon_queuings, sb.abandon_outgoing, h.queuings, h.session, hshorter hout]
    rfl
  | acknowledge hat hs hack hsocket hack' h => exact hcommit h.session h.queuings _
  | route hat hs hack hsocket hack' hitem h => exact hcommit h.session h.queuings _
  | endOne hat hs hack hsocket hack' hid h => exact hcommit h.session h.queuings _

/-- What a step queues is what the outgoing queue grows by. -/
theorem queuings_step (hc : c.Coherent) (hstep : Step e c c') :
    c'.board.queuings = c.board.queuings ++
      Switchboard.newMessages c.board.session.outgoing c'.board.session.outgoing := by
  have hwith {sb : Switchboard} (hsession : sb.session = c.board.session)
      (hjournal : sb.journal = c.board.journal) (session : Session) :
      (sb.withSession session).queuings = c.board.queuings ++
        Switchboard.newMessages c.board.session.outgoing
          (sb.withSession session).session.outgoing := by
    rw [sb.withSession_queuings, sb.withSession_session, Switchboard.added, hsession]
    unfold Switchboard.queuings
    rw [hjournal]
  cases hstep with
  | quiet hq =>
    refine Switchboard.queuings_of_same ?_ (by rw [hq.session])
    unfold Switchboard.queuings
    rw [hq.journal]
  | touch | pass => exact Switchboard.queuings_of_same rfl rfl
  | refuse => exact Switchboard.queuings_of_same (Switchboard.note_queuings rfl) rfl
  | launch he hp params held => refine hwith ?_ ?_ _ <;> rfl
  | enlist he hp operation => refine hwith ?_ ?_ _ <;> rfl
  | withdraw he hx hfirst =>
    rw [withdrawn_eq]
    refine hwith ?_ ?_ _ <;> rfl
  | halt hp =>
    rw [halted_board hp, Switchboard.commit_queuings, Switchboard.commit_session]
    rfl
  | turn hagents ht =>
    exact queuings_of_move ((hc.agents _ (mem_of_split hagents)).move ht)

/-! ## What becomes of the session -/

/-- What an event can make of a session that has started. -/
inductive Change (c : Client) (e : Event) : Session → Prop
  | still : Change c e c.board.session
  /-- A subscription is taken on. -/
  | taken (operation : Operation) (he : e = .subscribe operation) (hallow : c.allows e = true)
      {listening : Nat → Bool} (hlistening : ∀ entry ∈ c.board.session.roster.entries,
        listening entry.consumer = c.board.listening entry.consumer) :
      Change c e (c.board.session.subscribe listening (c.newId c.board.consumers.length) operation
        c.board.consumers.length)
  /-- A subscription is cancelled for the first time. -/
  | cancelled {n : Nat} (he : e.cancels n = true) :
      Change c e (c.board.session.cancel (c.newId n))
  /-- A caller stops the session. -/
  | halted (hstop : c.isStop e = true) : Change c e
      (({ c.board.session with epoch := c.board.session.epoch + 1 } : Session).terminate .stopped).1
  /-- The agent of the session gives up. -/
  | ended (error : ConnectionError) : Change c e (c.board.session.terminate error).1
  /-- The socket is lost, and another one follows. -/
  | lost : Change c e (c.board.session.suspend c.board.listening)
  /-- A message of the outgoing queue is sent. -/
  | sent {m : Message} {rest : List Message} (hout : c.board.session.outgoing = some (m :: rest)) :
      Change c e { c.board.session with outgoing := some rest }
  /-- A message of the outgoing queue could not be sent, which ends the subscription it is for. -/
  | unsent {m : Message} {rest : List Message} {id : String}
      (hout : c.board.session.outgoing = some (m :: rest)) (hid : m.id? = some id)
      (hfails : c.fails e = [m]) (error : TransportError) :
      Change c e (({ c.board.session with outgoing := some rest } : Session).endOne id
        (.sendFailed error) false).1
  /-- The server acknowledges. -/
  | acknowledged (hp : c.phase = .connecting) (payload : Option Json.Members) :
      Change c e (c.board.session.acknowledge c.board.listening payload).1
  /-- The server has an item for a subscription. -/
  | routed {k : Nat} {m : Message} {id : String} {item : Item}
      (hreads : c.reads e = [(k, .ok (.message m))]) (hitem : m.item? = some (id, item)) :
      Change c e (c.board.session.route c.board.listening id item).1
  /-- The server sent a subscription something undecodable. -/
  | endedOne {k : Nat} {error : DecodeError} {id : String}
      (hreads : c.reads e = [(k, .error error)]) (hid : error.id? = some id) :
      Change c e (c.board.session.endOne id (.decodeFailed error) true).1

/-- An event changes the session in one of the ways there are, and queues what the outgoing queue
grows by. -/
structure Changes (c : Client) (e : Event) (c' : Client) : Prop where
  change : c.Change e c'.board.session
  queuings : c'.board.queuings = c.board.queuings ++
    Switchboard.newMessages c.board.session.outgoing c'.board.session.outgoing

namespace Changes

/-- Neither the session nor the journal is touched. -/
theorem still (hsession : c'.board.session = c.board.session)
    (hjournal : c'.board.journal = c.board.journal) : c.Changes e c' where
  change := by rw [hsession]; exact .still
  queuings := by
    refine Switchboard.queuings_of_same ?_ (by rw [hsession])
    unfold Switchboard.queuings
    rw [hjournal]

theorem refl (c : Client) (e : Event) : c.Changes e c := still rfl rfl

/-- One step is all. -/
theorem of_step (hc : c.Coherent) (hstep : Step e c c') {s : Session} (hchange : c.Change e s)
    (hsession : c'.board.session = s) : c.Changes e c' :=
  ⟨hsession ▸ hchange, queuings_step hc hstep⟩

/-- What a caller does for a consumer alone is nothing to the session. -/
theorem modifyConsumer {n : Nat} {f : Consumer → Consumer} (h : c.Changes e c') :
    c.Changes e (c'.modifyConsumer n f) := ⟨h.change, h.queuings⟩

end Changes

section Calls

theorem subscribe_of_started (hp : c.phase ≠ .notStarted) (operation : Operation) :
    (c.subscribe operation).2 = c.enlisted operation := by
  refine subscribe_eq_enlisted ?_ operation rfl rfl
  unfold ensureStarted
  rw [if_pos hp]

theorem changes_enlisted (hc : c.Coherent) (hp : c.phase ≠ .notStarted) {operation : Operation}
    (hallow : c.allows (.subscribe operation) = true) :
    c.Changes (.subscribe operation) (c.enlisted operation) := by
  refine .of_step hc (.enlist rfl hp operation rfl) (.taken operation rfl hallow ?_)
    (c.enlisted_session operation)
  intro entry hentry
  have hlt := (hc.id_of_entry hentry).2
  rw [Switchboard.listening_eq, Switchboard.listening_eq, List.getElem?_append_left hlt]

theorem changes_withdrawn (hc : c.Coherent) {n : Nat} {x : Consumer} (he : e.cancels n = true)
    (hx : c.board.consumers[n]? = some x) (hfirst : x.cancelled = false) :
    c.Changes e (c.withdrawn n x) := by
  refine ⟨?_, queuings_step hc (.withdraw he hx hfirst)⟩
  rw [withdrawn_session]
  rcases c.board.session.withdraw_cases x with heq | heq
  · rw [heq, hc.named n x hx]
    exact .cancelled he
  · rw [heq]
    exact .still

theorem changes_halted (hc : c.Coherent) (hp : c.phase ≠ .notStarted)
    (hstop : c.isStop e = true) (handles : Nat) : c.Changes e { c.halted with handles } := by
  have hhalted : c.Changes e c.halted := .of_step hc (.halt hp) (.halted hstop) (halted_session hp)
  exact ⟨hhalted.change, hhalted.queuings⟩

/-- What a course without a turn makes of a started session. -/
theorem changes_course (hcourse : Course e c c') (hc : c.Coherent) (hp : c.phase ≠ .notStarted)
    (hallow : c.allows e = true) (he : e.isTurn = false) : c.Changes e c' := by
  cases hcourse with
  | outside hout => exact .still hout.session hout.journal
  | touch | pass => exact .still rfl rfl
  | launch _ hp' | launchFor _ _ hp' => exact absurd hp' hp
  | refuse operation hop error =>
    subst hop
    exact .of_step hc (.refuse rfl error ⟨operation, rfl⟩) .still rfl
  | enlist operation hop =>
    subst hop
    exact changes_enlisted hc hp hallow
  | withdraw he hx hfirst => exact changes_withdrawn hc he hx hfirst
  | cancel he hx hfirst =>
    subst he
    exact (changes_withdrawn hc (by simp [Event.cancels]) hx hfirst).modifyConsumer
  | halt hstop =>
    refine changes_halted hc hp ?_ _
    rcases hstop with ⟨rfl, hheld⟩ | ⟨rfl, hlast⟩
    · exact decide_eq_true hheld
    · exact decide_eq_true hlast
  | turn hagents ht hturn => rw [he] at hturn; cases hturn

/-- What a call or the other end makes of a started session. -/
theorem changes_of_call (hc : c.Coherent) (hp : c.phase ≠ .notStarted)
    (hallow : c.allows e = true) (he : e.isTurn = false) : c.Changes e (c.perform e) :=
  changes_course (c.course_perform e) hc hp hallow he

end Calls

/-- What a turn makes of the session, by cases on the move. -/
theorem change_of_move (hc : c.Coherent) {a : Agent} (ha : a ∈ c.agents) {t : Turn}
    (hmove : a.Move c.board t) (hboard : (c.perform e).board = t.2) :
    c.Change e t.2.session := by
  cases hmove with
  | leave | wake | ask => exact .still
  | hangUp hat hs h => rw [h.session]; exact .still
  | greet hat hs hsocket hack h => rw [h.session]; exact .still
  | idle hat hs hsocket hack h => rw [h.session]; exact .still
  | ended hat h error =>
    rw [Switchboard.commit_session, h.session]
    exact .ended error
  | retry hat h hbudget =>
    rename_i sb attempt due retries
    have hlistening : sb.listening = c.board.listening := Switchboard.listening_congr h.consumers
    rw [Switchboard.note_session, hlistening, h.session]
    exact (Switchboard.withSession_session sb _).symm ▸ .lost
  | deliver hat hs hout h => rw [h.session]; exact .sent hout
  | undeliverable hat hs hout h error =>
    rename_i link m rest arrived sb
    cases hid : m.id? with
    | none =>
      have habandon : sb.abandon m error = sb := by rw [Switchboard.abandon, hid]
      rw [habandon, h.session]
      exact .sent hout
    | some id =>
      have habandon : sb.abandon m error =
          sb.commit (sb.session.endOne id (.sendFailed error) false) := by
        rw [Switchboard.abandon, hid]
      have hfails : c.fails e = [m] := by
        refine fails_of_failures ?_
        rw [hboard, habandon, Switchboard.commit_failures, h.failures]
        rfl
      rw [habandon, Switchboard.commit_session, h.session]
      exact .unsent hout hid hfails error
  | acknowledge hat hs hack hsocket hack' h =>
    rename_i payload sb
    have hk := hack ▸ Holds.of_mem ha hat hs
    rw [Switchboard.commit_session, h.session, h.listening]
    exact .acknowledged (hc.connecting_of_holds hk) payload
  | route hat hs hack hsocket hack' hitem h =>
    rename_i link link' m id item sb
    have hreads : c.reads e = [(link.socket, .ok (.message m))] := by
      refine reads_of_readings ?_
      rw [hboard, Switchboard.commit_readings, h.readings]
      rfl
    rw [Switchboard.commit_session, h.session, h.listening]
    exact .routed hreads hitem
  | endOne hat hs hack hsocket hack' hid h =>
    rename_i link link' error id sb
    have hreads : c.reads e = [(link.socket, .error error)] := by
      refine reads_of_readings ?_
      rw [hboard, Switchboard.commit_readings, h.readings]
      rfl
    rw [Switchboard.commit_session, h.session]
    exact .endedOne hreads hid

/-- What an event makes of a session that has started. -/
theorem changes_perform (hc : c.Coherent) (hp : c.phase ≠ .notStarted) (e : Event) :
    c.Changes e (c.perform e) := by
  by_cases hallow : c.allows e = true
  · cases he : e.isTurn with
    | false => exact changes_of_call hc hp hallow he
    | true =>
      rcases c.perform_cases he with h | ⟨pre, a, post, o, board, hagents, ht, h⟩
      · rw [h]
        exact .refl c _
      · have ha := mem_of_split hagents
        have hchange := change_of_move hc ha ((hc.agents a ha).move ht) (e := e) (by rw [h])
        rw [h]
        exact .of_step hc (.turn hagents ht he) hchange rfl
  · rw [perform, if_neg hallow]
    exact .refl c e

/-- What an event queues is what the outgoing queue grows by. -/
theorem queues_eq (hc : c.Coherent) (hp : c.phase ≠ .notStarted) (e : Event) : c.queues e =
    Switchboard.newMessages c.board.session.outgoing (c.perform e).board.session.outgoing := by
  unfold queues
  rw [(changes_perform hc hp e).queuings, List.drop_left]

end Client

end LiveQuery
