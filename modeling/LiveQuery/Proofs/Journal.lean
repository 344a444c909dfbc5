import LiveQuery.Proofs.Session
import LiveQuery.Session.Switchboard

/-!
# What the journal tells

Views of the journal: the messages sent over a socket, the items put into the channel of a
subscription, whether a send failed, and whether the server has ended an operation since it was
asked for. Beside each view stands what one more notice does to it, and what replacing the
session and carrying out effects do to it.
-/

namespace LiveQuery

/-- Does a message ask the server for the operation of an id? -/
def Message.asksFor (id : String) : Message → Bool
  | .subscribe i _ => i == id
  | _ => false

theorem Message.asksFor_iff {id : String} {m : Message} :
    m.asksFor id = true ↔ ∃ operation, m = .subscribe id operation := by
  cases m with
  | subscribe i operation => simp [asksFor]
  | _ => simp [asksFor]

namespace Notice

/-- The message that a notice says was sent over a socket. -/
def message? (socket : Nat) : Notice → Option Message
  | .sent s (.message m) _ _ => if s = socket then some m else none
  | _ => none

/-- The item that a notice says was put into the channel of a consumer. -/
def item? (consumer : Nat) : Notice → Option Item
  | .delivered c item => if c = consumer then some item else none
  | _ => none

/-- Does a notice say that a send over a socket failed? -/
def failsOn (socket : Nat) : Notice → Bool
  | .sent s _ _ failed => s == socket && failed
  | _ => false

/-- Does a notice say that an agent took the server's last word on an id from a socket? -/
def ends (socket : Nat) (id : String) : Notice → Bool
  | .received s (.ok (.message (.complete i))) => s == socket && i == id
  | .received s (.ok (.message (.error i _))) => s == socket && i == id
  | _ => false

/-- Does a notice say that a `subscribe` for an id was put into the outgoing queue? -/
def asksFor (id : String) : Notice → Bool
  | .queued m => m.asksFor id
  | _ => false

end Notice

/-- Has an agent taken the server's last word on an id from a socket since the last `subscribe`
for the id was queued? The journal runs backwards. -/
def endedSince (socket : Nat) (id : String) : List JournalEntry → Bool
  | [] => false
  | e :: older =>
    e.notice.ends socket id || (!e.notice.asksFor id && endedSince socket id older)

namespace Switchboard

variable (sb : Switchboard)

/-- The messages sent over a socket, in order. -/
def messagesOn (socket : Nat) : List Message :=
  (sb.journal.filterMap fun e => e.notice.message? socket).reverse

/-- The items put into the channel of a consumer, in order. -/
def channel (consumer : Nat) : List Item :=
  (sb.journal.filterMap fun e => e.notice.item? consumer).reverse

/-- Has a send over a socket failed? -/
def failedOn (socket : Nat) : Bool := sb.journal.any fun e => e.notice.failsOn socket

/-- Has the server ended the operation of an id on a socket since it was asked for? -/
def endedOn (socket : Nat) (id : String) : Bool := endedSince socket id sb.journal

/-- The messages sent over a socket, followed by those in the outgoing queue. -/
def wire (socket : Nat) : List Message := sb.messagesOn socket ++ sb.session.outgoing.getD []

variable {sb} in
theorem mem_messagesOn {socket : Nat} {m : Message} : m ∈ sb.messagesOn socket ↔
    ∃ entry ∈ sb.journal, entry.notice.message? socket = some m := by
  simp [messagesOn]

/-! ## One more notice -/

section Note

variable (notice : Notice)

@[simp] theorem note_session : (sb.note notice).session = sb.session := rfl

@[simp] theorem note_consumers : (sb.note notice).consumers = sb.consumers := rfl

@[simp] theorem note_handshakes : (sb.note notice).handshakes = sb.handshakes := rfl

@[simp] theorem note_lines : (sb.note notice).lines = sb.lines := rfl

@[simp] theorem note_settings : (sb.note notice).settings = sb.settings := rfl

@[simp] theorem note_now : (sb.note notice).now = sb.now := rfl

@[simp] theorem note_opens : (sb.note notice).opens = sb.opens := rfl

@[simp] theorem note_transport : (sb.note notice).transport = sb.transport := rfl

@[simp] theorem note_line (socket : Nat) : (sb.note notice).line socket = sb.line socket := rfl

theorem note_messagesOn (socket : Nat) : (sb.note notice).messagesOn socket =
    sb.messagesOn socket ++ (notice.message? socket).toList := by
  unfold messagesOn note
  cases h : notice.message? socket with
  | none => simp [h]
  | some m => simp [h]

theorem note_channel (consumer : Nat) : (sb.note notice).channel consumer =
    sb.channel consumer ++ (notice.item? consumer).toList := by
  unfold channel note
  cases h : notice.item? consumer with
  | none => simp [h]
  | some item => simp [h]

end Note

/-! ## Replacing the session -/

section WithSession

variable (session : Session)

/-- The messages that replacing the session puts into the outgoing queue. -/
def added : List Message := newMessages sb.session.outgoing session.outgoing

/-- What replacing the session records: a change of phase, and what was queued. -/
def changes : List JournalEntry :=
  ((sb.added session).map fun m => ⟨sb.now, .queued m⟩).reverse ++
    if sb.session.phase = session.phase then []
    else [⟨sb.now, .moved sb.session.phase session.phase⟩]

theorem foldl_note_queued (ms : List Message) :
    ms.foldl (fun sb m => sb.note (.queued m)) sb =
      { sb with journal := (ms.map fun m => ⟨sb.now, .queued m⟩).reverse ++ sb.journal } := by
  induction ms generalizing sb with
  | nil => rfl
  | cons m rest ih =>
    rw [List.foldl_cons, ih]
    simp [note]

theorem withSession_eq : sb.withSession session =
    { sb with session, journal := sb.changes session ++ sb.journal } := by
  unfold withSession changes added
  simp only [foldl_note_queued]
  split <;> simp [note]

/-- Putting the same session back records nothing. -/
theorem withSession_self : sb.withSession sb.session = sb := by
  have hnone : sb.changes sb.session = [] := by
    simp [changes, added, newMessages]
  rw [withSession_eq, hnone]
  rfl

/-- The journal keeps what it has. -/
theorem mem_withSession {entry : JournalEntry} (he : entry ∈ sb.journal) :
    entry ∈ (sb.withSession session).journal := by
  rw [withSession_eq]
  exact List.mem_append_right _ he

@[simp] theorem withSession_session : (sb.withSession session).session = session := by
  rw [withSession_eq]

@[simp] theorem withSession_consumers : (sb.withSession session).consumers = sb.consumers := by
  rw [withSession_eq]

@[simp] theorem withSession_lines : (sb.withSession session).lines = sb.lines := by
  rw [withSession_eq]

@[simp] theorem withSession_settings : (sb.withSession session).settings = sb.settings := by
  rw [withSession_eq]

@[simp] theorem withSession_now : (sb.withSession session).now = sb.now := by
  rw [withSession_eq]

@[simp] theorem withSession_opens : (sb.withSession session).opens = sb.opens := by
  rw [withSession_eq]

theorem mem_changes {e : JournalEntry} (h : e ∈ sb.changes session) :
    (∃ m ∈ sb.added session, e.notice = .queued m) ∨
      e.notice = .moved sb.session.phase session.phase := by
  rcases List.mem_append.1 h with h | h
  · obtain ⟨m, hm, rfl⟩ := List.mem_map.1 (List.mem_reverse.1 h)
    exact Or.inl ⟨m, hm, rfl⟩
  · split at h
    · exact absurd h List.not_mem_nil
    · rw [List.mem_singleton.1 h]
      exact Or.inr rfl

/-- A view that passes over changes of phase and queued messages sees no difference. -/
theorem filterMap_changes {α : Type} (f : JournalEntry → Option α)
    (hq : ∀ t m, f ⟨t, .queued m⟩ = none) (hm : ∀ t p q, f ⟨t, .moved p q⟩ = none) :
    (sb.changes session ++ sb.journal).filterMap f = sb.journal.filterMap f := by
  rw [List.filterMap_append]
  refine (congrArg (· ++ _) ?_).trans (List.nil_append _)
  refine List.filterMap_eq_nil_iff.2 fun e he => ?_
  obtain ⟨t, notice⟩ := e
  rcases sb.mem_changes session he with ⟨m, -, rfl⟩ | rfl
  · exact hq t m
  · exact hm t _ _

@[simp] theorem withSession_messagesOn (socket : Nat) :
    (sb.withSession session).messagesOn socket = sb.messagesOn socket := by
  rw [withSession_eq]
  exact congrArg List.reverse (sb.filterMap_changes session _ (fun _ _ => rfl) fun _ _ _ => rfl)

@[simp] theorem withSession_channel (consumer : Nat) :
    (sb.withSession session).channel consumer = sb.channel consumer := by
  rw [withSession_eq]
  exact congrArg List.reverse (sb.filterMap_changes session _ (fun _ _ => rfl) fun _ _ _ => rfl)

@[simp] theorem withSession_failedOn (socket : Nat) :
    (sb.withSession session).failedOn socket = sb.failedOn socket := by
  rw [withSession_eq]
  have hnone : (sb.changes session).any (fun e => e.notice.failsOn socket) = false := by
    refine List.any_eq_false.2 fun e he => ?_
    rcases sb.mem_changes session he with ⟨m, -, hm⟩ | hm <;> simp [hm, Notice.failsOn]
  simp only [failedOn, List.any_append, hnone, Bool.false_or]

theorem endedSince_queued (socket : Nat) (id : String) (t : Nat) (ms : List Message)
    (older : List JournalEntry) :
    endedSince socket id ((ms.map fun m => (⟨t, .queued m⟩ : JournalEntry)).reverse ++ older) =
      (!ms.any (Message.asksFor id) && endedSince socket id older) := by
  induction ms generalizing older with
  | nil => rfl
  | cons m rest ih =>
    rw [List.map_cons, List.reverse_cons, List.append_assoc, ih]
    simp only [List.singleton_append, endedSince, Notice.ends, Notice.asksFor, Bool.false_or,
      List.any_cons, Bool.not_or]
    cases m.asksFor id <;> cases rest.any (Message.asksFor id) <;> rfl

/-- The server's last word on an id stands until the id is asked for again. -/
@[simp] theorem withSession_endedOn (socket : Nat) (id : String) :
    (sb.withSession session).endedOn socket id =
      (!(sb.added session).any (Message.asksFor id) && sb.endedOn socket id) := by
  rw [withSession_eq]
  unfold endedOn changes
  simp only [List.append_assoc, endedSince_queued]
  split <;> rfl

end WithSession

/-! ## Effects -/

end Switchboard

/-- Puts items at the end of those that wait; lost if nobody listens. -/
def Consumer.feed (items : List Item) (c : Consumer) : Consumer :=
  if c.listening then { c with unread := c.unread ++ items } else c

namespace Consumer

@[simp] theorem feed_nil (c : Consumer) : c.feed [] = c := by
  unfold feed
  split
  · rw [List.append_nil]
  · rfl

@[simp] theorem feed_listening (c : Consumer) (items : List Item) :
    (c.feed items).listening = c.listening := by
  unfold feed; split <;> rfl

@[simp] theorem feed_id (c : Consumer) (items : List Item) : (c.feed items).id = c.id := by
  unfold feed; split <;> rfl

@[simp] theorem feed_attached (c : Consumer) (items : List Item) :
    (c.feed items).attached = c.attached := by
  unfold feed; split <;> rfl

@[simp] theorem feed_cancelled (c : Consumer) (items : List Item) :
    (c.feed items).cancelled = c.cancelled := by
  unfold feed; split <;> rfl

@[simp] theorem feed_status (c : Consumer) (items : List Item) :
    (c.feed items).status = c.status := by
  unfold feed; split <;> rfl

theorem feed_unread {c : Consumer} (h : c.listening = true) (items : List Item) :
    (c.feed items).unread = c.unread ++ items := by
  unfold feed
  rw [if_pos h]

theorem feed_feed (c : Consumer) (as bs : List Item) : (c.feed as).feed bs = c.feed (as ++ bs) := by
  cases h : c.listening <;> simp [feed, h]

end Consumer

namespace Switchboard

variable (sb : Switchboard)

theorem listening_eq (n : Nat) :
    sb.listening n = (sb.consumers[n]?.map Consumer.listening).getD false := by
  unfold listening
  cases sb.consumers[n]? <;> rfl

theorem listening_iff {n : Nat} :
    sb.listening n = true ↔ ∃ c, sb.consumers[n]? = some c ∧ c.listening = true := by
  rw [listening_eq]
  cases sb.consumers[n]? <;> simp

theorem listening_congr {sb sb' : Switchboard} (h : sb'.consumers = sb.consumers) :
    sb'.listening = sb.listening := by
  funext n
  rw [listening_eq, listening_eq, h]

section Effects

theorem apply_deliver {consumer : Nat} (h : sb.listening consumer = true) (item : Item) :
    sb.apply (.deliver consumer item) =
      { sb with consumers := sb.consumers.modify consumer (·.put item) }.note
        (.delivered consumer item) := if_pos h

theorem apply_deliver_of_gone {consumer : Nat} (h : sb.listening consumer ≠ true) (item : Item) :
    sb.apply (.deliver consumer item) = sb := if_neg h

/-- Effects reach consumers, handshakes and the journal, and nothing else. -/
theorem apply_eq (effect : Effect) : ∃ consumers handshakes journal,
    sb.apply effect = { sb with consumers, handshakes, journal } := by
  cases effect with
  | deliver consumer item =>
    by_cases h : sb.listening consumer = true
    · exact ⟨_, _, _, sb.apply_deliver h item⟩
    · exact ⟨_, _, _, sb.apply_deliver_of_gone h item⟩
  | resolve handshake result => exact ⟨_, _, _, rfl⟩

theorem apply_journal (effect : Effect) : ∃ news, (sb.apply effect).journal = news ++ sb.journal := by
  cases effect with
  | deliver consumer item =>
    by_cases h : sb.listening consumer = true
    · exact ⟨[_], by rw [sb.apply_deliver h item]; rfl⟩
    · exact ⟨[], by rw [sb.apply_deliver_of_gone h item]; rfl⟩
  | resolve handshake result => exact ⟨[_], rfl⟩

theorem apply_consumers (effect : Effect) (n : Nat) : (sb.apply effect).consumers[n]? =
    sb.consumers[n]?.map (Consumer.feed (effect.item? n).toList) := by
  have hnone : Consumer.feed [] = id := funext Consumer.feed_nil
  cases effect with
  | resolve handshake result =>
    show sb.consumers[n]? = sb.consumers[n]?.map (Consumer.feed [])
    rw [hnone, Option.map_id]
    rfl
  | deliver consumer item =>
    by_cases hn : consumer = n
    · subst hn
      have hitem : (Effect.item? consumer (.deliver consumer item)).toList = [item] := by
        simp [Effect.item?]
      rw [hitem]
      by_cases hl : sb.listening consumer = true
      · rw [sb.apply_deliver hl, note_consumers, List.getElem?_modify_eq]
        rfl
      · rw [sb.apply_deliver_of_gone hl]
        rw [listening_eq] at hl
        cases hc : sb.consumers[consumer]? with
        | none => rfl
        | some c =>
          have hgone : c.listening = false := by simpa [hc] using hl
          simp [Consumer.feed, hgone]
    · have hitem : (Effect.item? n (.deliver consumer item)).toList = [] := by
        simp [Effect.item?, hn]
      rw [hitem, hnone, Option.map_id]
      by_cases hl : sb.listening consumer = true
      · rw [sb.apply_deliver hl, note_consumers, List.getElem?_modify_ne _ _ hn]
        rfl
      · rw [sb.apply_deliver_of_gone hl]
        rfl

theorem apply_listening (effect : Effect) (n : Nat) :
    (sb.apply effect).listening n = sb.listening n := by
  rw [listening_eq, listening_eq, apply_consumers, Option.map_map]
  congr 2
  funext c
  exact Consumer.feed_listening c _

theorem apply_channel (effect : Effect) (n : Nat) : (sb.apply effect).channel n =
    sb.channel n ++ if sb.listening n then (effect.item? n).toList else [] := by
  cases effect with
  | resolve handshake result =>
    have hitem : (Effect.item? n (.resolve handshake result)).toList = [] := rfl
    rw [hitem, ite_self]
    exact note_channel _ _ n
  | deliver consumer item =>
    by_cases hn : consumer = n
    · subst hn
      by_cases hl : sb.listening consumer = true
      · rw [sb.apply_deliver hl, if_pos hl, note_channel]
        simp [Notice.item?, Effect.item?, channel]
      · rw [sb.apply_deliver_of_gone hl, if_neg hl, List.append_nil]
    · have hitem : (Effect.item? n (.deliver consumer item)).toList = [] := by
        simp [Effect.item?, hn]
      rw [hitem, ite_self, List.append_nil]
      by_cases hl : sb.listening consumer = true
      · rw [sb.apply_deliver hl, note_channel]
        simp [Notice.item?, hn, channel]
      · rw [sb.apply_deliver_of_gone hl]

theorem apply_messagesOn (effect : Effect) (socket : Nat) :
    (sb.apply effect).messagesOn socket = sb.messagesOn socket := by
  unfold apply
  split
  · split <;> rfl
  · rfl

theorem apply_failedOn (effect : Effect) (socket : Nat) :
    (sb.apply effect).failedOn socket = sb.failedOn socket := by
  unfold apply
  split
  · split <;> rfl
  · rfl

theorem apply_endedOn (effect : Effect) (socket : Nat) (id : String) :
    (sb.apply effect).endedOn socket id = sb.endedOn socket id := by
  unfold apply
  split
  · split <;> rfl
  · rfl

end Effects

section Commit

variable (effects : List Effect)

theorem foldl_apply_eq : ∃ consumers handshakes journal,
    effects.foldl apply sb = { sb with consumers, handshakes, journal } := by
  induction effects generalizing sb with
  | nil => exact ⟨_, _, _, rfl⟩
  | cons effect rest ih =>
    obtain ⟨cs, hs, j, h⟩ := sb.apply_eq effect
    obtain ⟨cs', hs', j', h'⟩ := ih (sb.apply effect)
    exact ⟨cs', hs', j', by rw [List.foldl_cons, h', h]⟩

theorem foldl_apply_journal : ∃ news, (effects.foldl apply sb).journal = news ++ sb.journal := by
  induction effects generalizing sb with
  | nil => exact ⟨[], rfl⟩
  | cons effect rest ih =>
    obtain ⟨news, hnews⟩ := ih (sb.apply effect)
    obtain ⟨new, hnew⟩ := sb.apply_journal effect
    refine ⟨news ++ new, ?_⟩
    rw [List.foldl_cons, hnews, hnew, List.append_assoc]

theorem foldl_apply_consumers (n : Nat) : (effects.foldl apply sb).consumers[n]? =
    sb.consumers[n]?.map (Consumer.feed (Effect.itemsFor effects n)) := by
  induction effects generalizing sb with
  | nil =>
    have hfeed : Consumer.feed (Effect.itemsFor [] n) = id := funext Consumer.feed_nil
    rw [hfeed, Option.map_id]
    rfl
  | cons effect rest ih =>
    rw [List.foldl_cons, ih, apply_consumers, Option.map_map, Effect.itemsFor_cons]
    congr 1
    funext c
    exact Consumer.feed_feed c _ _

theorem foldl_apply_channel (n : Nat) : (effects.foldl apply sb).channel n =
    sb.channel n ++ if sb.listening n then Effect.itemsFor effects n else [] := by
  induction effects generalizing sb with
  | nil => simp
  | cons effect rest ih =>
    rw [List.foldl_cons, ih, apply_channel, apply_listening, Effect.itemsFor_cons]
    split <;> simp

/-- A view that no effect changes. -/
theorem foldl_apply_view {α : Type} (view : Switchboard → α)
    (h : ∀ sb effect, view (apply sb effect) = view sb) :
    view (effects.foldl apply sb) = view sb := by
  induction effects generalizing sb with
  | nil => rfl
  | cons effect rest ih => rw [List.foldl_cons, ih, h]

variable (result : Session × List Effect)

/-- Replacing the session and carrying out effects touches nothing of the sockets. -/
theorem commit_eq : ∃ consumers handshakes journal,
    sb.commit result = { sb with session := result.1, consumers, handshakes, journal } := by
  obtain ⟨cs, hs, j, h⟩ := (sb.withSession result.1).foldl_apply_eq result.2
  refine ⟨cs, hs, j, ?_⟩
  unfold commit
  rw [h, withSession_eq]

/-- The journal only grows. -/
theorem commit_journal : ∃ news, (sb.commit result).journal = news ++ sb.journal := by
  obtain ⟨news, hnews⟩ := (sb.withSession result.1).foldl_apply_journal result.2
  refine ⟨news ++ sb.changes result.1, ?_⟩
  unfold commit
  rw [hnews, withSession_eq, List.append_assoc]

@[simp] theorem commit_session : (sb.commit result).session = result.1 := by
  obtain ⟨_, _, _, h⟩ := sb.commit_eq result
  rw [h]

@[simp] theorem commit_lines : (sb.commit result).lines = sb.lines := by
  obtain ⟨_, _, _, h⟩ := sb.commit_eq result
  rw [h]

@[simp] theorem commit_settings : (sb.commit result).settings = sb.settings := by
  obtain ⟨_, _, _, h⟩ := sb.commit_eq result
  rw [h]

@[simp] theorem commit_now : (sb.commit result).now = sb.now := by
  obtain ⟨_, _, _, h⟩ := sb.commit_eq result
  rw [h]

@[simp] theorem commit_opens : (sb.commit result).opens = sb.opens := by
  obtain ⟨_, _, _, h⟩ := sb.commit_eq result
  rw [h]

theorem commit_consumers (n : Nat) : (sb.commit result).consumers[n]? =
    sb.consumers[n]?.map (Consumer.feed (Effect.itemsFor result.2 n)) := by
  unfold commit
  rw [foldl_apply_consumers, withSession_consumers]

theorem commit_channel (n : Nat) : (sb.commit result).channel n =
    sb.channel n ++ if sb.listening n then Effect.itemsFor result.2 n else [] := by
  unfold commit
  rw [foldl_apply_channel, withSession_channel, listening_congr (withSession_consumers ..)]

@[simp] theorem commit_messagesOn (socket : Nat) :
    (sb.commit result).messagesOn socket = sb.messagesOn socket := by
  unfold commit
  rw [foldl_apply_view _ _ (·.messagesOn socket) fun sb e => apply_messagesOn sb e socket,
    withSession_messagesOn]

@[simp] theorem commit_failedOn (socket : Nat) :
    (sb.commit result).failedOn socket = sb.failedOn socket := by
  unfold commit
  rw [foldl_apply_view _ _ (·.failedOn socket) fun sb e => apply_failedOn sb e socket,
    withSession_failedOn]

@[simp] theorem commit_endedOn (socket : Nat) (id : String) :
    (sb.commit result).endedOn socket id =
      (!(sb.added result.1).any (Message.asksFor id) && sb.endedOn socket id) := by
  unfold commit
  rw [foldl_apply_view _ _ (·.endedOn socket id) fun sb e => apply_endedOn sb e socket id,
    withSession_endedOn]

theorem commit_listening (n : Nat) : (sb.commit result).listening n = sb.listening n := by
  rw [listening_eq, listening_eq, commit_consumers, Option.map_map]
  congr 2
  funext c
  exact Consumer.feed_listening c _

end Commit

end Switchboard

end LiveQuery
