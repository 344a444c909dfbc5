import LiveQuery.Proofs.MessageReading
import LiveQuery.Proofs.RoundTrip

/-!
# Conversations over one socket

Two ends share a socket: the client sends and reads items, the server sends frames and reads
messages, and either may let go. A conversation is any sequence of such acts, and its records are
what the two ends were told. `Faithful` says what the records of a conversation have to do with
each other:

- what the server heard, followed by what it has not read yet, is what the client sent;
- the client reads one item for each frame of the server, in order, and then the end of the
  stream if the server let go;
- a send of the client fails exactly when the server let go.

`faithful_converse` proves it of every conversation that starts with a fresh pair. Behind it is a
law about any stretch of a conversation, from any pair (`Stretch`, `stretch_converse`): what was
under way before and what was sent is what was got and what is under way afterwards. One act is
such a stretch, and stretches join.

The server may also take a frame as it is, without reading it; what it holds counts as heard.
Closing the sink of the client is not among the acts: over this transport it does nothing.
-/

namespace LiveQuery

/-! ## What a frame holds -/

namespace Frame

/-- What the client reads of a frame: its message, an error of the bytes, or the close frame. -/
def item (f : Frame) : Except StreamError Incoming :=
  (Incoming.ofFrame f).mapError .undecodable

/-- The message that a frame holds, if it holds one. -/
def message? (f : Frame) : Option Message :=
  match f.item with
  | .ok (.message m) => some m
  | _ => none

/-- Only the bytes count, not the kind of the frame. -/
theorem item_text (s : String) : (text s).item = (binary (Utf8.ofString s)).item := rfl

/-- No frame ends the stream: an error of its bytes is not fatal. -/
theorem isFatal_of_item {f : Frame} {e : StreamError} (h : f.item = .error e) :
    e.isFatal = false := by
  unfold item at h
  cases hf : Incoming.ofFrame f with
  | ok item => rw [hf] at h; cases h
  | error cause =>
    rw [hf] at h
    cases h
    rfl

end Frame

namespace Message

/-- What a message has to satisfy to be read back as it was written. -/
structure Portable (m : Message) : Prop where
  canonical : m.Canonical
  named : m.id? ≠ some ""
  integral : m.toValue.Numbers Json.Number.Integral
  depth : m.toValue.depth ≤ Json.Reader.maxDepth

theorem Portable.message? {m : Message} (h : m.Portable) :
    (Outgoing.message m).frame.message? = some m := by
  have hread := decode_encode m h.canonical h.named h.integral h.depth
  simp [Frame.message?, Frame.item, Outgoing.frame, Incoming.ofFrame, hread, Except.map,
    Except.mapError]

end Message

/-- The message of an item that is sent. -/
def Outgoing.message? : Outgoing → Option Message
  | .message m => some m
  | .close _ => none

namespace SocketPair

/-! ## One act -/

/-- What an end does with its socket. -/
inductive Act where
  /-- The client sends an item. -/
  | send (item : Outgoing)
  /-- The client reads an item. -/
  | receive
  /-- The client lets go. -/
  | drop
  /-- The server sends a frame. -/
  | serve (frame : Frame)
  /-- The server takes a frame as it is. -/
  | take
  /-- The server reads a message. -/
  | read
  /-- The server sends a close frame and lets go. -/
  | close (frame : CloseFrame)
  /-- The server lets go. -/
  | leave

/-- Is it an act of the client? -/
def Act.isClient : Act → Bool
  | .send _ => true
  | .receive => true
  | .drop => true
  | _ => false

/-- Does the client let go with the act? -/
def Act.endsClient : Act → Bool
  | .drop => true
  | _ => false

/-- Does the server let go with the act? -/
def Act.endsServer : Act → Bool
  | .close _ => true
  | .leave => true
  | _ => false

/-- What an end is told about its act. -/
inductive Record where
  | sent (item : Outgoing) (error : Option StreamError)
  | received (answer : Polled (Except StreamError Incoming))
  | served (frame : Frame) (delivered : Bool)
  | taken (answer : Polled Frame)
  | heard (answer : Polled Message)
  | gone
  /-- The end had let go before, so there was no act. -/
  | absent

/-- An act of an end that is still held. -/
def perform (p : SocketPair) : Act → Record × SocketPair
  | .send item =>
    match p.sendItem item with
    | .ok p' => (.sent item none, p')
    | .error e => (.sent item (some e), p)
  | .receive => (.received p.recvItem.1, p.recvItem.2)
  | .drop => (.gone, p.dropClient)
  | .serve frame => (.served frame (p.serverSend frame).1, (p.serverSend frame).2)
  | .take => (.taken p.serverRecv.1, p.serverRecv.2)
  | .read => (.heard p.readMessage.1, p.readMessage.2)
  | .close frame =>
    (.served (.close frame) (p.serverSend (.close frame)).1, p.serverClose frame)
  | .leave => (.gone, p.dropServer)

/-- One act. -/
def act (p : SocketPair) (a : Act) : Record × SocketPair :=
  if bif a.isClient then p.client else p.server then p.perform a else (.absent, p)

/-- One act after another, with the records in their order. -/
def converse (p : SocketPair) : List Act → List Record × SocketPair
  | [] => ([], p)
  | a :: rest => ((p.act a).1 :: ((p.act a).2.converse rest).1, ((p.act a).2.converse rest).2)

/-! ## What the records tell -/

namespace Record

/-- The item that the client sent, unless that failed. -/
def sent? : Record → Option Outgoing
  | .sent item none => some item
  | _ => none

/-- The item that the client read. -/
def received? : Record → Option (Except StreamError Incoming)
  | .received (.ready item) => some item
  | _ => none

/-- The frame that the server sent, unless the client was gone. -/
def served? : Record → Option Frame
  | .served frame true => some frame
  | _ => none

/-- The message that the server got, by reading messages or in a frame that it took. -/
def heard? : Record → Option Message
  | .heard (.ready m) => some m
  | .taken (.ready frame) => frame.message?
  | _ => none

end Record

/-- The messages under way to the server. -/
def unheard (p : SocketPair) : List Message := p.toServer.filterMap Frame.message?

/-- The items under way to the client. -/
def unread (p : SocketPair) : List (Except StreamError Incoming) := p.toClient.map Frame.item

/-- The messages that the client sent, each as it is read back. -/
def carried (records : List Record) : List Message :=
  (records.filterMap Record.sent?).filterMap (·.frame.message?)

/-- The items of the frames that the server sent. -/
def offered (records : List Record) : List (Except StreamError Incoming) :=
  (records.filterMap Record.served?).map Frame.item

/-! ## The operations -/

section Operations

variable (p : SocketPair)

/-- A send arrives if the server is there, and fails otherwise. -/
theorem perform_send (item : Outgoing) : p.perform (.send item) =
    if p.server then (.sent item none, { p with toServer := p.toServer ++ [item.frame] })
    else (.sent item (some (.transport serverDropped)), p) := by
  cases h : p.server <;> simp [perform, sendItem, clientSend, h]

theorem recvItem_of_cons {f : Frame} {rest : List Frame} (h : p.toClient = f :: rest) :
    p.recvItem = (.ready f.item, { p with toClient := rest }) := by
  simp only [recvItem, clientRecv, h, Frame.item]
  cases Incoming.ofFrame f <;> rfl

theorem recvItem_of_nil (h : p.toClient = []) :
    p.recvItem = (if p.server then .pending else .ended, p) := by
  simp only [recvItem, clientRecv, h]
  cases p.server <;> rfl

/-- The messages under way are those that the frames will answer with. -/
theorem unheard_eq : p.unheard = p.answers.filterMap fun answer => (Record.heard answer).heard? := by
  rw [unheard, answers, List.filterMap_filterMap]
  apply List.filterMap_congr
  intro f _
  cases hbytes : f.content? with
  | none =>
    obtain ⟨c, rfl⟩ := Frame.content?_eq_none_iff.1 hbytes
    rfl
  | some bytes =>
    have hitem := Frame.ofFrame_of_content? hbytes
    cases hm : Message.decode bytes <;>
      simp [Frame.message?, Frame.item, Frame.answer?, hitem, hbytes, hm, Except.map,
        Except.mapError, Record.heard?]

/-- Reading a message takes frames off the line to the server, and nothing else. -/
theorem readMessage_eq : ∃ answer rest, p.readMessage = (answer, { p with toServer := rest }) ∧
    p.unheard = (Record.heard answer).heard?.toList ++ rest.filterMap Frame.message? := by
  cases h : p.answers with
  | nil =>
    refine ⟨p.idle, [], readMessage_of_answers_nil h, ?_⟩
    rw [unheard_eq, h, idle]
    cases p.client <;> rfl
  | cons answer later =>
    obtain ⟨rest, hread, hlater⟩ := readMessage_of_answers_cons h
    refine ⟨answer, rest, hread, ?_⟩
    have hrest : rest.filterMap Frame.message? =
        later.filterMap fun answer => (Record.heard answer).heard? := by
      rw [← hlater]
      exact unheard_eq { p with toServer := rest }
    rw [unheard_eq, h, hrest]
    cases hm : (Record.heard answer).heard? with
    | none => exact List.filterMap_cons_none hm
    | some m => exact List.filterMap_cons_some hm

end Operations

/-! ## What a queue passes on -/

/-- What was in a queue and what was put into it is what was got out of it, in order, and what is
left; what is left is in the queue as long as its reader holds it. -/
def Passes {α : Type} (before put got after : List α) (held : Bool) : Prop :=
  ∃ left, before ++ put = got ++ left ∧ (held = true → left = after)

namespace Passes

variable {α : Type} {before put got middle put' got' after : List α} {held held' : Bool}

theorem refl (before : List α) (held : Bool) : Passes before [] [] before held :=
  ⟨before, by simp, fun _ => rfl⟩

/-- Stretches join if nothing passes once the reader let go. -/
theorem trans (h : Passes before put got middle held) (h' : Passes middle put' got' after held')
    (hgone : held = false → put' = [] ∧ got' = []) (hheld : held' = true → held = true) :
    Passes before (put ++ put') (got ++ got') after held' := by
  obtain ⟨left, heq, hleft⟩ := h
  obtain ⟨left', heq', hleft'⟩ := h'
  cases held with
  | true =>
    -- what the first stretch left is what the second one found
    rw [hleft rfl] at heq
    refine ⟨left', ?_, hleft'⟩
    rw [← List.append_assoc, heq, List.append_assoc, heq', List.append_assoc]
  | false =>
    obtain ⟨rfl, rfl⟩ := hgone rfl
    refine ⟨left, ?_, fun h => absurd (hheld h) (by decide)⟩
    rw [List.append_nil, List.append_nil]
    exact heq

/-- What was got is a prefix of what there was to get. -/
theorem got_prefix (h : Passes before put got after held) : got <+: before ++ put := by
  obtain ⟨left, heq, -⟩ := h
  exact ⟨left, heq.symm⟩

theorem eq (h : Passes before put got after held) (hheld : held = true) :
    before ++ put = got ++ after := by
  obtain ⟨left, heq, hleft⟩ := h
  rw [heq, hleft hheld]

end Passes

/-! ## Stretches of a conversation -/

/-- What acts do to the two ends and the two queues between them, whatever went before. -/
structure Stretch (p : SocketPair) (acts : List Act) (records : List Record) (p' : SocketPair) :
    Prop where
  client : p'.client = (p.client && !acts.any Act.endsClient)
  server : p'.server = (p.server && !acts.any Act.endsServer)
  toServer : Passes p.unheard (carried records) (records.filterMap Record.heard?) p'.unheard
    p'.server
  toClient : Passes p.unread (offered records) (records.filterMap Record.received?) p'.unread
    p'.client
  /-- Nothing passes to a server that let go. -/
  unserved : p.server = false → carried records = [] ∧ records.filterMap Record.heard? = []
  /-- Nothing passes to a client that let go. -/
  unheld : p.client = false → offered records = [] ∧ records.filterMap Record.received? = []

namespace Stretch

variable {p p' p'' : SocketPair} {acts acts' : List Act} {records records' : List Record}

theorem refl (p : SocketPair) : Stretch p [] [] p where
  client := by simp
  server := by simp
  toServer := Passes.refl ..
  toClient := Passes.refl ..
  unserved := fun _ => ⟨rfl, rfl⟩
  unheld := fun _ => ⟨rfl, rfl⟩

theorem trans (h : Stretch p acts records p') (h' : Stretch p' acts' records' p'') :
    Stretch p (acts ++ acts') (records ++ records') p'' where
  client := by rw [h'.client, h.client, List.any_append]; simp [Bool.and_assoc]
  server := by rw [h'.server, h.server, List.any_append]; simp [Bool.and_assoc]
  toServer := by
    have hheld : p''.server = true → p'.server = true := by
      rw [h'.server]
      intro hand
      exact (Bool.and_eq_true_iff.1 hand).1
    have hjoined := h.toServer.trans h'.toServer h'.unserved hheld
    simpa only [carried, List.filterMap_append] using hjoined
  toClient := by
    have hheld : p''.client = true → p'.client = true := by
      rw [h'.client]
      intro hand
      exact (Bool.and_eq_true_iff.1 hand).1
    have hjoined := h.toClient.trans h'.toClient h'.unheld hheld
    simpa only [offered, List.filterMap_append, List.map_append] using hjoined
  unserved := by
    intro hgone
    obtain ⟨hput, hgot⟩ := h.unserved hgone
    obtain ⟨hput', hgot'⟩ := h'.unserved (by rw [h.server, hgone, Bool.false_and])
    constructor
    · simpa only [carried, List.filterMap_append, List.append_eq_nil_iff] using ⟨hput, hput'⟩
    · rw [List.filterMap_append, hgot, hgot', List.append_nil]
  unheld := by
    intro hgone
    obtain ⟨hput, hgot⟩ := h.unheld hgone
    obtain ⟨hput', hgot'⟩ := h'.unheld (by rw [h.client, hgone, Bool.false_and])
    constructor
    · simpa only [offered, List.filterMap_append, List.map_append, List.append_eq_nil_iff] using
        ⟨hput, hput'⟩
    · rw [List.filterMap_append, hgot, hgot', List.append_nil]

end Stretch

/-! ## Every act is a stretch -/

section Acts

variable {p : SocketPair}

theorem stretch_send (p : SocketPair) (item : Outgoing) :
    Stretch p [.send item] [(p.perform (.send item)).1] (p.perform (.send item)).2 := by
  rw [perform_send]
  split
  · next hserver =>
    have hput : carried [.sent item none] = [item.frame].filterMap Frame.message? := by
      simp [carried, Record.sent?, List.filterMap_cons]
    refine ⟨by simp [Act.endsClient], by simp [Act.endsServer], ?_, Passes.refl .., ?_, ?_⟩
    · refine ⟨_, rfl, fun _ => ?_⟩
      show p.unheard ++ carried [.sent item none] = _
      rw [hput, unheard, ← List.filterMap_append]
      rfl
    · exact fun hgone => absurd (hserver.symm.trans hgone) (by decide)
    · exact fun _ => ⟨rfl, rfl⟩
  · refine ⟨by simp [Act.endsClient], by simp [Act.endsServer], ?_, Passes.refl .., ?_, ?_⟩
    · exact Passes.refl ..
    · exact fun _ => ⟨rfl, rfl⟩
    · exact fun _ => ⟨rfl, rfl⟩

theorem stretch_receive (h : p.client = true) :
    Stretch p [.receive] [(p.perform .receive).1] (p.perform .receive).2 := by
  have hheld : p.client = false → False := fun hgone => by simp [h] at hgone
  simp only [perform]
  cases hc : p.toClient with
  | nil =>
    rw [recvItem_of_nil p hc]
    refine ⟨by simp [Act.endsClient], by simp [Act.endsServer], Passes.refl .., ?_, ?_, ?_⟩
    · cases p.server <;> exact Passes.refl ..
    · exact fun _ => by cases p.server <;> exact ⟨rfl, rfl⟩
    · exact fun hgone => (hheld hgone).elim
  | cons f rest =>
    rw [recvItem_of_cons p hc]
    refine ⟨by simp [Act.endsClient], by simp [Act.endsServer], Passes.refl .., ?_, ?_, ?_⟩
    · exact ⟨_, by simp [unread, hc, offered, Record.served?, Record.received?], fun _ => rfl⟩
    · exact fun _ => ⟨rfl, rfl⟩
    · exact fun hgone => (hheld hgone).elim

theorem stretch_drop (p : SocketPair) :
    Stretch p [.drop] [(p.perform .drop).1] (p.perform .drop).2 where
  client := by simp [perform, dropClient, Act.endsClient]
  server := by simp [perform, dropClient, Act.endsServer]
  toServer := Passes.refl ..
  toClient := ⟨p.unread, List.append_nil _, nofun⟩
  unserved := fun _ => ⟨rfl, rfl⟩
  unheld := fun _ => ⟨rfl, rfl⟩

theorem stretch_serve (h : p.server = true) (frame : Frame) :
    Stretch p [.serve frame] [(p.perform (.serve frame)).1] (p.perform (.serve frame)).2 := by
  have hheld : p.server = false → False := fun hgone => by simp [h] at hgone
  simp only [perform, serverSend]
  cases hclient : p.client with
  | true =>
    refine ⟨by simp [Act.endsClient, hclient], by simp [Act.endsServer], Passes.refl .., ?_, ?_, ?_⟩
    · exact ⟨_, rfl, fun _ => by simp [unread, offered, Record.served?]⟩
    · exact fun hgone => (hheld hgone).elim
    · exact fun hgone => absurd (hclient.symm.trans hgone) (by decide)
  | false =>
    refine ⟨by simp [Act.endsClient, hclient], by simp [Act.endsServer], Passes.refl .., ?_, ?_, ?_⟩
    · exact Passes.refl ..
    · exact fun hgone => (hheld hgone).elim
    · exact fun _ => ⟨rfl, rfl⟩

theorem stretch_take (h : p.server = true) :
    Stretch p [.take] [(p.perform .take).1] (p.perform .take).2 := by
  have hheld : p.server = false → False := fun hgone => by simp [h] at hgone
  simp only [perform, serverRecv]
  cases hs : p.toServer with
  | nil =>
    refine ⟨by simp [Act.endsClient], by simp [Act.endsServer], ?_, Passes.refl .., ?_, ?_⟩
    · cases p.client <;> exact Passes.refl ..
    · exact fun hgone => (hheld hgone).elim
    · exact fun _ => by cases p.client <;> exact ⟨rfl, rfl⟩
  | cons f rest =>
    refine ⟨by simp [Act.endsClient], by simp [Act.endsServer], ?_, Passes.refl .., ?_, ?_⟩
    · refine ⟨rest.filterMap Frame.message?, ?_, fun _ => rfl⟩
      cases hf : f.message? <;> simp [unheard, hs, carried, Record.sent?, Record.heard?, hf]
    · exact fun hgone => (hheld hgone).elim
    · exact fun _ => ⟨rfl, rfl⟩

theorem stretch_read (h : p.server = true) :
    Stretch p [.read] [(p.perform .read).1] (p.perform .read).2 := by
  have hheld : p.server = false → False := fun hgone => by simp [h] at hgone
  obtain ⟨answer, rest, hread, hunheard⟩ := p.readMessage_eq
  simp only [perform, hread]
  refine ⟨by simp [Act.endsClient], by simp [Act.endsServer], ?_, Passes.refl .., ?_, ?_⟩
  · refine ⟨_, ?_, fun _ => rfl⟩
    have hgot : [Record.heard answer].filterMap Record.heard? =
        (Record.heard answer).heard?.toList := by
      cases h : (Record.heard answer).heard? <;> simp [h]
    rw [hunheard, hgot]
    exact List.append_nil _
  · exact fun hgone => (hheld hgone).elim
  · exact fun _ => ⟨rfl, rfl⟩

/-- A server that lets go takes no more, and what it sent is still there for the client. -/
theorem stretch_leave (p : SocketPair) :
    Stretch p [.leave] [(p.perform .leave).1] (p.perform .leave).2 where
  client := by simp [perform, dropServer, Act.endsClient]
  server := by simp [perform, dropServer, Act.endsServer]
  toServer := ⟨p.unheard, List.append_nil _, nofun⟩
  toClient := Passes.refl ..
  unserved := fun _ => ⟨rfl, rfl⟩
  unheld := fun _ => ⟨rfl, rfl⟩

/-- Closing is sending the close frame and letting go. -/
theorem stretch_close (h : p.server = true) (frame : CloseFrame) :
    Stretch p [.close frame] [(p.perform (.close frame)).1] (p.perform (.close frame)).2 := by
  have hboth := (stretch_serve h (.close frame)).trans (stretch_leave _)
  refine ⟨?_, ?_, ?_, ?_, ?_, ?_⟩
  · exact hboth.client
  · exact hboth.server
  · exact hboth.toServer
  · exact hboth.toClient
  · exact hboth.unserved
  · exact hboth.unheld

/-- An end that let go does nothing. -/
theorem stretch_absent {a : Act} (h : (bif a.isClient then p.client else p.server) = false) :
    Stretch p [a] [.absent] p := by
  refine ⟨?_, ?_, Passes.refl .., Passes.refl .., fun _ => ⟨rfl, rfl⟩, fun _ => ⟨rfl, rfl⟩⟩
  · cases a with
    | drop => simp [show p.client = false from h]
    | _ => simp [Act.endsClient]
  · cases a with
    | close frame => simp [show p.server = false from h]
    | leave => simp [show p.server = false from h]
    | _ => simp [Act.endsServer]

theorem stretch_act (p : SocketPair) (a : Act) : Stretch p [a] [(p.act a).1] (p.act a).2 := by
  unfold act
  split
  · next h =>
    cases a with
    | send item => exact stretch_send p item
    | receive => exact stretch_receive h
    | drop => exact stretch_drop p
    | serve frame => exact stretch_serve h frame
    | take => exact stretch_take h
    | read => exact stretch_read h
    | close frame => exact stretch_close h frame
    | leave => exact stretch_leave p
  · next h => exact stretch_absent (Bool.eq_false_iff.2 h)

end Acts

theorem stretch_converse (p : SocketPair) (acts : List Act) :
    Stretch p acts (p.converse acts).1 (p.converse acts).2 := by
  induction acts generalizing p with
  | nil => exact Stretch.refl p
  | cons a rest ih => exact (stretch_act p a).trans (ih (p.act a).2)

/-! ## The next act -/

section Next

variable {p : SocketPair}

theorem act_receive (h : p.client = true) :
    p.act .receive = (.received p.recvItem.1, p.recvItem.2) := by
  simp [act, perform, Act.isClient, h]

/-- The client reads the item of the next frame; without one it learns whether more can come. -/
theorem recvItem_answer (p : SocketPair) : p.recvItem.1 =
    match p.unread with
    | item :: _ => .ready item
    | [] => if p.server then .pending else .ended := by
  cases h : p.toClient with
  | nil => simp [recvItem_of_nil p h, unread, h]
  | cons f rest => simp [recvItem_of_cons p h, unread, h]

/-- A client that reads as often as there are frames under way has read them all. -/
theorem converse_receive (p : SocketPair) (h : p.client = true) :
    let drained := p.converse (List.replicate p.unread.length .receive)
    drained.1.filterMap Record.received? = p.unread ∧ drained.2 = { p with toClient := [] } := by
  obtain ⟨toClient, toServer, client, server⟩ := p
  obtain rfl : client = true := h
  induction toClient with
  | nil => exact ⟨rfl, rfl⟩
  | cons f rest ih =>
    have hfirst : act ⟨f :: rest, toServer, true, server⟩ .receive =
        (.received (.ready f.item), ⟨rest, toServer, true, server⟩) := by
      rw [act_receive rfl, recvItem_of_cons _ rfl]
    obtain ⟨hrecords, hpair⟩ := ih
    simp only [unread, List.map_cons, List.length_cons, List.replicate_succ, converse, hfirst]
    constructor
    · exact congrArg (f.item :: ·) hrecords
    · exact hpair

/-- A server that is told to wait has passed over nothing that it could read. -/
theorem unheard_of_pending (h : p.readMessage.1 = .pending) :
    p.unheard = [] ∧ p.client = true := by
  cases ha : p.answers with
  | nil =>
    rw [readMessage_of_answers_nil ha, idle] at h
    refine ⟨by rw [unheard_eq, ha]; rfl, ?_⟩
    cases hc : p.client with
    | true => rfl
    | false => simp [hc] at h
  | cons answer later =>
    obtain ⟨rest, hread, -⟩ := readMessage_of_answers_cons ha
    have hready := isPending_of_mem_answers (ha ▸ List.mem_cons_self : answer ∈ p.answers)
    rw [hread] at h
    simp [show answer = .pending from h, Polled.isPending] at hready

end Next

/-! ## Faithful conversations -/

/-- The messages that the client sent. -/
def sentMessages (records : List Record) : List Message :=
  (records.filterMap Record.sent?).filterMap Outgoing.message?

/-- Messages that can be read back are carried as they are. -/
theorem carried_eq {records : List Record} (h : ∀ m ∈ sentMessages records, m.Portable) :
    carried records = sentMessages records := by
  apply List.filterMap_congr
  intro item hitem
  cases item with
  | message m =>
    have hsent : m ∈ sentMessages records := List.mem_filterMap.2 ⟨_, hitem, rfl⟩
    exact (h m hsent).message?
  | close c => rfl

/-- What the records of a conversation and the pair it leads to have to do with each other. -/
structure Faithful (acts : List Act) (records : List Record) (p : SocketPair) : Prop where
  /-- While the server is there, what it heard and what is under way to it is what the client
  sent, each message as it is read back. -/
  heard : acts.any Act.endsServer = false →
    records.filterMap Record.heard? ++ p.unheard = carried records
  /-- Messages that can be read back are heard as they were sent. -/
  intact : (∀ m ∈ sentMessages records, m.Portable) → acts.any Act.endsServer = false →
    records.filterMap Record.heard? ++ p.unheard = sentMessages records
  /-- A server is told to wait only if no message is under way and the client is there. -/
  awake : acts.any Act.endsServer = false → (p.act .read).1 = .heard .pending →
    p.unheard = [] ∧ acts.any Act.endsClient = false
  /-- While the client is there, what it read and what is under way to it is one item for each
  frame of the server. -/
  read : acts.any Act.endsClient = false →
    records.filterMap Record.received? ++ p.unread = offered records
  /-- A client that let go read the items of the first frames. -/
  first : records.filterMap Record.received? <+: offered records
  /-- Text and binary data of the same bytes are the same item. -/
  alike : ∀ s, (Frame.text s).item = (Frame.binary (Utf8.ofString s)).item
  /-- No item that the client read is the end of the stream. -/
  harmless : ∀ e, .error e ∈ records.filterMap Record.received? → e.isFatal = false
  /-- The client reads the item of the first frame that it has not read. When it has read them
  all, the stream has ended exactly if the server let go. -/
  next : acts.any Act.endsClient = false → (p.act .receive).1 =
    .received (match (offered records)[(records.filterMap Record.received?).length]? with
      | some item => .ready item
      | none => if acts.any Act.endsServer then .ended else .pending)
  /-- What the server sent before it let go can all be read, and then the stream ends for good. -/
  drained : acts.any Act.endsClient = false → acts.any Act.endsServer = true →
    ∃ reads, records.filterMap Record.received? ++
        (p.converse (List.replicate reads .receive)).1.filterMap Record.received? =
          offered records ∧
      (p.converse (List.replicate reads .receive)).2.act .receive =
        (.received .ended, (p.converse (List.replicate reads .receive)).2)
  /-- A send of the client fails exactly if the server let go. -/
  sends : acts.any Act.endsClient = false → ∀ item, (p.act (.send item)).1 =
    .sent item (if acts.any Act.endsServer then some (.transport serverDropped) else none)

/-- Every conversation over a fresh pair is faithful. -/
theorem faithful_converse (acts : List Act) :
    Faithful acts (converse {} acts).1 (converse {} acts).2 := by
  have h := stretch_converse {} acts
  generalize (converse {} acts).1 = records at h ⊢
  generalize (converse {} acts).2 = p at h ⊢
  have hclient : p.client = !acts.any Act.endsClient := h.client.trans (Bool.true_and _)
  have hserver : p.server = !acts.any Act.endsServer := h.server.trans (Bool.true_and _)
  have hheard : acts.any Act.endsServer = false →
      records.filterMap Record.heard? ++ p.unheard = carried records := by
    intro hthere
    exact (h.toServer.eq (by rw [hserver, hthere]; rfl)).symm
  have hread : acts.any Act.endsClient = false →
      records.filterMap Record.received? ++ p.unread = offered records := by
    intro hthere
    exact (h.toClient.eq (by rw [hclient, hthere]; rfl)).symm
  have hfirst : records.filterMap Record.received? <+: offered records := h.toClient.got_prefix
  refine ⟨hheard, ?_, ?_, hread, hfirst, Frame.item_text, ?_, ?_, ?_, ?_⟩
  · intro hportable hthere
    rw [hheard hthere, carried_eq hportable]
  · intro hthere hpending
    have hheld : p.server = true := by rw [hserver, hthere]; rfl
    simp only [act, Act.isClient, cond_false, hheld, if_true, perform, Record.heard.injEq]
      at hpending
    obtain ⟨hnone, hc⟩ := unheard_of_pending hpending
    refine ⟨hnone, ?_⟩
    rw [hclient] at hc
    simpa using hc
  · intro e he
    -- every item that was read is the item of a frame
    obtain ⟨f, -, hf⟩ := List.mem_map.1 (hfirst.subset he)
    exact Frame.isFatal_of_item hf
  · intro hthere
    have hheld : p.client = true := by rw [hclient, hthere]; rfl
    rw [act_receive hheld, recvItem_answer, ← hread hthere]
    cases hunread : p.unread with
    | nil => cases hs : acts.any Act.endsServer <;> simp [hserver, hs]
    | cons item rest => simp
  · intro hthere hgone
    have hheld : p.client = true := by rw [hclient, hthere]; rfl
    obtain ⟨hgot, hpair⟩ := converse_receive p hheld
    refine ⟨p.unread.length, by rw [hgot, hread hthere], ?_⟩
    have hempty : act { p with toClient := [] } .receive =
        (.received .ended, { p with toClient := [] }) := by
      rw [act_receive (p := { p with toClient := [] }) hheld, recvItem_of_nil _ rfl]
      simp [hserver, hgone]
    rw [hpair, hempty]
  · intro hthere item
    have hheld : p.client = true := by rw [hclient, hthere]; rfl
    simp only [act, Act.isClient, cond_true, hheld, if_true, perform_send, hserver]
    cases acts.any Act.endsServer <;> rfl

end SocketPair

end LiveQuery
