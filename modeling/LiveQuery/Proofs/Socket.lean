import LiveQuery.Proofs.Journal
import Mathlib.Order.Nat

/-!
# Traffic over one socket

What sending, receiving, dropping and closing leave alone. `Switchboard.Traffic` says that
nothing happened but traffic over one socket, and which notices it left; every view of the journal
follows from the notices. `Switchboard.Exchange` says besides that both ends are still held as
they were.
-/

namespace LiveQuery

/-! ## Sending and receiving on one line -/

namespace Line

variable (l : Line) (f : Frame)

theorem transmit_eq : ∃ toServer,
    (l.transmit f).2 = { l with pair := { l.pair with toServer } } := by
  obtain ⟨⟨toClient, toServer, client, server⟩, recvFaults, sendFault⟩ := l
  cases server with
  | true => exact ⟨_, rfl⟩
  | false => exact ⟨_, rfl⟩

/-- A send changes the fault of sending and what is under way to the server, and nothing else. -/
theorem send_eq : ∃ sendFault toServer,
    (l.send f).2 = { l with sendFault, pair := { l.pair with toServer } } := by
  unfold send
  cases l.activeSendFault with
  | none =>
    obtain ⟨toServer, h⟩ := l.transmit_eq f
    exact ⟨l.sendFault, toServer, h⟩
  | some fault =>
    dsimp only
    split
    · obtain ⟨toServer, h⟩ := { l with sendFault := some fault.spend }.transmit_eq f
      split
      · next heq =>
        rw [heq] at h
        exact ⟨_, toServer, h⟩
      · exact ⟨_, toServer, h⟩
    · exact ⟨_, l.pair.toServer, rfl⟩

theorem transmit_of_gone (h : l.pair.server = false) :
    l.transmit f = (⟨false, some SocketPair.serverDropped⟩, l) := by
  simp [transmit, SocketPair.clientSend, h]

/-- With no server at the other end every send fails. -/
theorem send_of_gone (h : l.pair.server = false) : ∃ e, (l.send f).1.error = some e := by
  unfold send
  cases l.activeSendFault with
  | none => exact ⟨_, by rw [transmit_of_gone l f h]⟩
  | some fault =>
    dsimp only
    split
    · have hgone := transmit_of_gone { l with sendFault := some fault.spend } f h
      rw [hgone]
      exact ⟨_, rfl⟩
    · exact ⟨_, rfl⟩

/-- A receive takes a fault or a frame, and nothing else. -/
theorem recv_eq : ∃ recvFaults toClient,
    l.recv.2 = { l with recvFaults, pair := { l.pair with toClient } } := by
  unfold recv SocketPair.clientRecv
  split
  · next doing later h => exact ⟨later, l.pair.toClient, rfl⟩
  · refine ⟨l.recvFaults, ?_⟩
    cases l.pair.toClient with
    | cons f rest => exact ⟨rest, rfl⟩
    | nil => cases l.pair.server <;> exact ⟨l.pair.toClient, rfl⟩

theorem recv_of_frame {f : Frame} {rest : List Frame} (h : l.recvFaults = [])
    (hf : l.pair.toClient = f :: rest) :
    l.recv = (.ready (.ok f), { l with pair := { l.pair with toClient := rest } }) := by
  simp [recv, SocketPair.clientRecv, h, hf]

theorem recv_of_end (h : l.recvFaults = []) (hf : l.pair.toClient = [])
    (hs : l.pair.server = false) : l.recv = (.ended, l) := by
  obtain ⟨⟨toClient, toServer, client, server⟩, recvFaults, sendFault⟩ := l
  cases h
  cases hf
  cases hs
  rfl

end Line

/-- A line opens with nothing under way and both ends held. -/
theorem Transport.pair_of_connect {t : Transport} {number : Nat} {line : Line}
    (h : t.connect number = .ok line) : line.pair = {} := by
  unfold connect at h
  dsimp only at h
  split at h
  · cases h
  · split at h
    · cases h; rfl
    · cases h

/-! ## Notices of traffic -/

namespace Notice

/-- Is a notice about traffic over a socket? -/
def isTraffic (socket : Nat) : Notice → Bool
  | .opened s => s == socket
  | .sent s _ _ _ => s == socket
  | .dropped s _ => s == socket
  | .received s _ => s == socket
  | _ => false

/-- Does a notice of traffic leave the open operations alone? -/
def isQuiet : Notice → Bool
  | .opened _ => true
  | .sent _ (.message m) _ failed => m.id?.isNone && !failed
  | .received _ (.ok (.message (.complete _))) => false
  | .received _ (.ok (.message (.error ..))) => false
  | .received .. => true
  | _ => false

variable {notice : Notice} {own socket : Nat}

theorem item?_of_isTraffic (h : notice.isTraffic own = true) (n : Nat) :
    notice.item? n = none := by
  cases notice <;> first | rfl | cases h

theorem asksFor_of_isTraffic (h : notice.isTraffic own = true) (id : String) :
    notice.asksFor id = false := by
  cases notice <;> first | rfl | cases h

theorem message?_elsewhere (h : notice.isTraffic own = true) (hs : socket ≠ own) :
    notice.message? socket = none := by
  cases notice with
  | sent s item arrived failed =>
    have hown : s = own := by simpa [isTraffic] using h
    cases item with
    | message m => simp [message?, hown, hs.symm]
    | close c => rfl
  | _ => rfl

theorem failsOn_elsewhere (h : notice.isTraffic own = true) (hs : socket ≠ own) :
    notice.failsOn socket = false := by
  cases notice with
  | sent s item arrived failed =>
    have hown : s = own := by simpa [isTraffic] using h
    simp [failsOn, hown, hs.symm]
  | _ => rfl

theorem ends_elsewhere (h : notice.isTraffic own = true) (hs : socket ≠ own) (id : String) :
    notice.ends socket id = false := by
  cases notice with
  | received s item =>
    have hown : s = own := by simpa [isTraffic] using h
    rcases item with e | item
    · rfl
    · cases item with
      | closed frame => rfl
      | message m => cases m <;> simp [ends, hown, hs.symm]
  | _ => rfl

theorem failsOn_of_isQuiet (h : notice.isQuiet = true) (socket : Nat) :
    notice.failsOn socket = false := by
  cases notice with
  | sent s item arrived failed =>
    cases item with
    | message m => simp_all [isQuiet, failsOn]
    | close c => cases h
  | _ => rfl

theorem ends_of_isQuiet (h : notice.isQuiet = true) (socket : Nat) (id : String) :
    notice.ends socket id = false := by
  cases notice with
  | received s item =>
    rcases item with e | item
    · rfl
    · cases item with
      | closed frame => rfl
      | message m => cases m <;> first | rfl | cases h
  | _ => rfl

theorem id?_of_isQuiet (h : notice.isQuiet = true) {m : Message}
    (hm : notice.message? socket = some m) : m.id? = none := by
  cases notice with
  | sent s item arrived failed =>
    cases item with
    | message m' =>
      simp only [message?] at hm
      split at hm
      · obtain rfl := Option.some.inj hm
        simp_all [isQuiet]
      · cases hm
    | close c => cases h
  | _ => cases hm

end Notice

namespace Switchboard

/-! ## Traffic -/

/-- Nothing happened but traffic over one socket, which may have just opened. It left some
notices, latest first. -/
structure Traffic (socket : Nat) (news : List Notice) (sb sb' : Switchboard) : Prop where
  rest : sb' = { sb with lines := sb'.lines, journal := sb'.journal }
  length : sb.lines.length ≤ sb'.lines.length
  bound : socket < sb'.lines.length
  elsewhere : ∀ s, s ≠ socket → sb'.line s = sb.line s
  journal : sb'.journal = news.map (⟨sb.now, ·⟩) ++ sb.journal
  own : ∀ notice ∈ news, notice.isTraffic socket = true

/-- Traffic that leaves both ends of the socket held as they were. -/
structure Exchange (socket : Nat) (news : List Notice) (sb sb' : Switchboard) : Prop extends
    Traffic socket news sb sb' where
  client : (sb'.line socket).pair.client = (sb.line socket).pair.client
  server : (sb'.line socket).pair.server = (sb.line socket).pair.server

namespace Traffic

variable {k : Nat} {news news' : List Notice} {sb sb' sb'' : Switchboard}

theorem session (h : Traffic k news sb sb') : sb'.session = sb.session := by rw [h.rest]

theorem consumers (h : Traffic k news sb sb') : sb'.consumers = sb.consumers := by rw [h.rest]

theorem settings (h : Traffic k news sb sb') : sb'.settings = sb.settings := by rw [h.rest]

theorem now (h : Traffic k news sb sb') : sb'.now = sb.now := by rw [h.rest]

theorem opens (h : Traffic k news sb sb') : sb'.opens = sb.opens := by rw [h.rest]

theorem listening (h : Traffic k news sb sb') : sb'.listening = sb.listening :=
  listening_congr h.consumers

theorem isOutdated (h : Traffic k news sb sb') (epoch : Nat) :
    sb'.isOutdated epoch = sb.isOutdated epoch := by
  unfold Switchboard.isOutdated
  rw [h.session]

theorem refl (hk : k < sb.lines.length) : Traffic k [] sb sb :=
  ⟨rfl, le_refl _, hk, fun _ _ => rfl, rfl, fun _ h => absurd h List.not_mem_nil⟩

theorem trans (h : Traffic k news sb sb') (h' : Traffic k news' sb' sb'') :
    Traffic k (news' ++ news) sb sb'' where
  rest := by rw [h'.rest, h.rest]
  length := h.length.trans h'.length
  bound := h'.bound
  elsewhere := fun s hs => (h'.elsewhere s hs).trans (h.elsewhere s hs)
  journal := by
    rw [h'.journal, h.journal, h.now, List.map_append, List.append_assoc]
  own := fun notice hn => (List.mem_append.1 hn).elim (h'.own notice) (h.own notice)

/-! ### Views -/

theorem messagesOn (h : Traffic k news sb sb') (s : Nat) : sb'.messagesOn s =
    sb.messagesOn s ++ (news.filterMap (Notice.message? s)).reverse := by
  simp only [Switchboard.messagesOn, h.journal, List.filterMap_append, List.filterMap_map,
    List.reverse_append]
  rfl

theorem messagesOn_elsewhere (h : Traffic k news sb sb') {s : Nat} (hs : s ≠ k) :
    sb'.messagesOn s = sb.messagesOn s := by
  have hnone : news.filterMap (Notice.message? s) = [] :=
    List.filterMap_eq_nil_iff.2 fun notice hn => Notice.message?_elsewhere (h.own notice hn) hs
  rw [h.messagesOn, hnone]
  exact List.append_nil _

theorem channel (h : Traffic k news sb sb') (n : Nat) : sb'.channel n = sb.channel n := by
  have hnone : news.filterMap (Notice.item? n) = [] :=
    List.filterMap_eq_nil_iff.2 fun notice hn => Notice.item?_of_isTraffic (h.own notice hn) n
  simp only [Switchboard.channel, h.journal, List.filterMap_append, List.filterMap_map]
  exact congrArg List.reverse ((congrArg (· ++ _) hnone).trans (List.nil_append _))

theorem failedOn (h : Traffic k news sb sb') (s : Nat) :
    sb'.failedOn s = (news.any (Notice.failsOn s) || sb.failedOn s) := by
  simp only [Switchboard.failedOn, h.journal, List.any_append, List.any_map]
  rfl

theorem failedOn_elsewhere (h : Traffic k news sb sb') {s : Nat} (hs : s ≠ k) :
    sb'.failedOn s = sb.failedOn s := by
  have hnone : news.any (Notice.failsOn s) = false :=
    List.any_eq_false.2 fun notice hn =>
      Bool.eq_false_iff.1 (Notice.failsOn_elsewhere (h.own notice hn) hs)
  rw [h.failedOn, hnone, Bool.false_or]

theorem endedSince_traffic {t : Nat} (s : Nat) (id : String) {news : List Notice}
    (hown : ∀ notice ∈ news, notice.isTraffic k = true) (older : List JournalEntry) :
    endedSince s id (news.map (⟨t, ·⟩) ++ older) =
      (news.any (Notice.ends s id) || endedSince s id older) := by
  induction news with
  | nil => rfl
  | cons notice rest ih =>
    have hasks : notice.asksFor id = false :=
      Notice.asksFor_of_isTraffic (hown notice (List.mem_cons_self ..)) id
    have hrest := ih fun n hn => hown n (List.mem_cons_of_mem _ hn)
    simp only [List.map_cons, List.cons_append, endedSince, hasks, hrest, List.any_cons,
      Bool.not_false, Bool.true_and, Bool.or_assoc]

theorem endedOn (h : Traffic k news sb sb') (s : Nat) (id : String) :
    sb'.endedOn s id = (news.any (Notice.ends s id) || sb.endedOn s id) := by
  unfold Switchboard.endedOn
  rw [h.journal, endedSince_traffic s id h.own]

theorem endedOn_elsewhere (h : Traffic k news sb sb') {s : Nat} (hs : s ≠ k) (id : String) :
    sb'.endedOn s id = sb.endedOn s id := by
  have hnone : news.any (Notice.ends s id) = false :=
    List.any_eq_false.2 fun notice hn =>
      Bool.eq_false_iff.1 (Notice.ends_elsewhere (h.own notice hn) hs id)
  rw [h.endedOn, hnone, Bool.false_or]

end Traffic

/-! ## The operations on a socket -/

section Operations

variable (sb : Switchboard) (k : Nat)

theorem line_setLine {s : Nat} (hs : s ≠ k) (l : Line) : (sb.setLine k l).line s = sb.line s := by
  unfold setLine line
  rw [List.getElem?_set_ne hs.symm]

theorem line_setLine_self (hk : k < sb.lines.length) (l : Line) :
    (sb.setLine k l).line k = l := by
  unfold setLine line
  rw [List.getElem?_set_self hk]
  rfl

theorem traffic_setLine (hk : k < sb.lines.length) (l : Line) :
    Traffic k [] sb (sb.setLine k l) where
  rest := rfl
  length := (List.length_set ..).ge
  bound := by rwa [setLine, List.length_set]
  elsewhere := fun _ hs => sb.line_setLine k hs l
  journal := rfl
  own := fun _ h => absurd h List.not_mem_nil

theorem traffic_note (hk : k < sb.lines.length) {notice : Notice}
    (h : notice.isTraffic k = true) : Traffic k [notice] sb (sb.note notice) :=
  ⟨rfl, le_refl _, hk, fun _ _ => rfl, rfl, fun _ hn => List.mem_singleton.1 hn ▸ h⟩

theorem traffic_setLine_note (hk : k < sb.lines.length) (l : Line) {notice : Notice}
    (h : notice.isTraffic k = true) : Traffic k [notice] sb ((sb.setLine k l).note notice) :=
  have hset := sb.traffic_setLine k hk l
  hset.trans (traffic_note _ k hset.bound h)

/-- The line of a socket after a send: besides faults, only what the server has may differ. -/
theorem line_send (hk : k < sb.lines.length) (item : Outgoing) : ∃ sendFault,
    (sb.send k item).2.line k =
      { sb.line k with sendFault, pair := { (sb.line k).pair with toServer := [] } } := by
  obtain ⟨sendFault, toServer, h⟩ := (sb.line k).send_eq item.frame
  refine ⟨sendFault, ?_⟩
  unfold send
  dsimp only
  rw [note_line, line_setLine_self sb k hk, h]

/-- A send leaves one notice, which says whether it failed. -/
theorem exchange_send (hk : k < sb.lines.length) (item : Outgoing) : ∃ arrived,
    Exchange k [.sent k item arrived (sb.send k item).1.isSome] sb (sb.send k item).2 := by
  obtain ⟨sendFault, hl⟩ := sb.line_send k hk item
  exact ⟨_, sb.traffic_setLine_note k hk _ (by simp [Notice.isTraffic]), by rw [hl], by rw [hl]⟩

/-- With no server at the other end every send fails. -/
theorem send_of_gone (h : (sb.line k).pair.server = false) (item : Outgoing) :
    ∃ e, (sb.send k item).1 = some e := (sb.line k).send_of_gone item.frame h

theorem traffic_drop (hk : k < sb.lines.length) : ∃ seen,
    Traffic k [.dropped k seen] sb (sb.drop k) :=
  ⟨_, sb.traffic_setLine_note k hk _ (by simp [Notice.isTraffic])⟩

theorem traffic_close (hk : k < sb.lines.length) (code : CloseCode) (reason : String) : ∃ news,
    Traffic k news sb (sb.close k code reason) := by
  obtain ⟨arrived, hsend⟩ := sb.exchange_send k hk (.close ⟨code, reason⟩)
  obtain ⟨seen, hdrop⟩ := traffic_drop (sb.send k (.close ⟨code, reason⟩)).2 k hsend.bound
  exact ⟨_, hsend.toTraffic.trans hdrop⟩

/-- Reading an item takes it off the line and leaves one notice. -/
theorem exchange_received (hk : k < sb.lines.length) (item : Except DecodeError Incoming) :
    Exchange k [.received k item] sb
      ((sb.setLine k (sb.line k).recv.2).note (.received k item)) := by
  obtain ⟨recvFaults, toClient, h⟩ := (sb.line k).recv_eq
  refine ⟨sb.traffic_setLine_note k hk _ (by simp [Notice.isTraffic]), ?_, ?_⟩
  · rw [note_line, line_setLine_self sb k hk, h]
  · rw [note_line, line_setLine_self sb k hk, h]

/-- A socket opens with nothing to read. -/
theorem pair_finishOpen {sb sb' : Switchboard} {number k : Nat}
    (h : sb.finishOpen number = .ok (k, sb')) : (sb'.line k).pair = {} := by
  unfold finishOpen at h
  cases hl : sb.transport.connect number with
  | error e => rw [hl] at h; cases h
  | ok line =>
    rw [hl] at h
    simp only [Except.ok.injEq, Prod.mk.injEq] at h
    obtain ⟨rfl, rfl⟩ := h
    have hnew : ({ sb with lines := sb.lines ++ [line] } : Switchboard).line sb.lines.length =
        line := by
      simp [Switchboard.line]
    rw [note_line, hnew, Transport.pair_of_connect hl]

/-- A socket that opens is the next one, and both its ends are held. -/
theorem exchange_finishOpen {sb sb' : Switchboard} {number k : Nat}
    (h : sb.finishOpen number = .ok (k, sb')) :
    k = sb.lines.length ∧ Exchange k [.opened k] sb sb' ∧ (sb'.line k).pair.client = true := by
  unfold finishOpen at h
  cases hl : sb.transport.connect number with
  | error e => rw [hl] at h; cases h
  | ok line =>
    rw [hl] at h
    simp only [Except.ok.injEq, Prod.mk.injEq] at h
    obtain ⟨rfl, rfl⟩ := h
    have hpair := Transport.pair_of_connect hl
    have hnew : ({ sb with lines := sb.lines ++ [line] } : Switchboard).line sb.lines.length =
        line := by
      simp [Switchboard.line]
    have hold : sb.line sb.lines.length = {} := by simp [Switchboard.line]
    refine ⟨rfl, ⟨⟨rfl, by simp, by simp, fun s hs => ?_, rfl, ?_⟩, ?_, ?_⟩, ?_⟩
    · show (sb.lines ++ [line])[s]?.getD {} = sb.lines[s]?.getD {}
      rcases lt_or_gt_of_ne hs with hlt | hgt
      · rw [List.getElem?_append_left hlt]
      · rw [List.getElem?_eq_none (by simp; omega), List.getElem?_eq_none (by omega)]
    · intro notice hn
      rw [List.mem_singleton.1 hn]
      simp [Notice.isTraffic]
    · rw [note_line, hnew, hold, hpair]
    · rw [note_line, hnew, hold, hpair]
    · rw [note_line, hnew, hpair]

end Operations

namespace Exchange

variable {k : Nat} {news news' : List Notice} {sb sb' sb'' : Switchboard}

theorem trans (h : Exchange k news sb sb') (h' : Exchange k news' sb' sb'') :
    Exchange k (news' ++ news) sb sb'' :=
  ⟨h.toTraffic.trans h'.toTraffic, h'.client.trans h.client, h'.server.trans h.server⟩

end Exchange

end Switchboard

end LiveQuery
