import LiveQuery.Proofs.Farewell
import LiveQuery.Proofs.Verdict

/-!
# The life of a socket

A socket opens, is used by one agent, and is left by it: the agent drops it, perhaps after one close
frame (`Exit`). What a turn has to do with sockets is its course (`Agent.Course`): it leaves them
alone, or goes on with one, or leaves one. So a socket that somebody has was never closed nor
dropped, and one that nobody has was left as its very last dealing (`Client.Orderly`, kept by every
event). No socket opens while the agent of the session has another (`Client.Orderly.alone`).
-/

namespace LiveQuery

/-- Does a notice tell of a close frame that was sent, or of a drop? -/
def Notice.isParting : Notice → Bool
  | .sent _ (.close _) _ _ | .dropped .. => true
  | _ => false

theorem Notice.isParting_of_isQuiet {notice : Notice} (h : notice.isQuiet = true) :
    notice.isParting = false := by
  cases notice with
  | sent s item arrived failed =>
    cases item with
    | message m => rfl
    | close frame => cases h
  | dropped => cases h
  | _ => rfl

/-- How a socket is left: it is dropped, perhaps after a close frame. -/
inductive Exit (k : Nat) : List Notice → Prop
  | dropped (seen : Bool) : Exit k [.dropped k seen]
  | closed (frame : CloseFrame) (arrived failed seen : Bool) :
      Exit k [.sent k (.close frame) arrived failed, .dropped k seen]

/-- Dealings of which none parts from the socket. -/
def Unparted (news : List Notice) : Prop := ∀ notice ∈ news, notice.isParting = false

/-- Dealings that end with the exit, and do not part from the socket before. -/
def IsLeft (k : Nat) (all : List Notice) : Prop :=
  ∃ before exit, all = before ++ exit ∧ Unparted before ∧ Exit k exit

namespace Unparted

variable {news news' : List Notice}

theorem nil : Unparted [] := fun _ h => absurd h List.not_mem_nil

theorem single {notice : Notice} (h : notice.isParting = false) : Unparted [notice] :=
  fun _ hn => List.mem_singleton.1 hn ▸ h

theorem append (h : Unparted news) (h' : Unparted news') : Unparted (news ++ news') :=
  fun notice hn => (List.mem_append.1 hn).elim (h notice) (h' notice)

theorem reverse (h : Unparted news) : Unparted news.reverse :=
  fun notice hn => h notice (List.mem_reverse.1 hn)

theorem of_quiet (h : ∀ notice ∈ news, notice.isQuiet = true) : Unparted news :=
  fun notice hn => Notice.isParting_of_isQuiet (h notice hn)

end Unparted

namespace Switchboard

variable (sb : Switchboard) (k : Nat)

/-- The client leaves a socket as its line is, with a close frame or without. The drop tells whether
the server is there, and if so, the close frame arrives, unless a send is made to fail. -/
inductive Departs (l : Line) (k : Nat) : Option CloseFrame → List Notice → Prop
  | dropped : Departs l k none [.dropped k l.pair.server]
  | closed (frame : CloseFrame) {arrived failed : Bool}
      (h : l.sendFault = none → arrived = l.pair.server ∧ failed = !l.pair.server) :
      Departs l k (some frame) [.sent k (.close frame) arrived failed, .dropped k l.pair.server]

theorem Departs.exit {l : Line} {farewell : Option CloseFrame} {exit : List Notice}
    (h : Departs l k farewell exit) : Exit k exit := by
  cases h with
  | dropped => exact .dropped _
  | closed frame => exact .closed frame _ _ _

theorem Departs.congr {l l' : Line} {farewell : Option CloseFrame} {exit : List Notice}
    (h : Departs l k farewell exit) (hserver : l.pair.server = l'.pair.server)
    (hfault : l.sendFault = l'.sendFault) : Departs l' k farewell exit := by
  cases h with
  | dropped =>
    rw [hserver]
    exact .dropped
  | closed frame hexact =>
    rw [hserver, hfault] at *
    exact .closed frame hexact

/-- Leaving a socket, with a close frame or without, is an exit. -/
theorem traffic_part (hk : k < sb.lines.length) (farewell : Option CloseFrame) :
    ∃ exit, Departs (sb.line k) k farewell exit ∧
      sb.Traffic k exit.reverse (sb.part k farewell) := by
  cases farewell with
  | none =>
    exact ⟨_, .dropped, sb.traffic_setLine_note k hk _ (by simp [Notice.isTraffic])⟩
  | some frame =>
    obtain ⟨arrived, failed, h, hexact⟩ := sb.exact_close k hk frame.code frame.reason
    exact ⟨_, .closed frame hexact, h⟩

end Switchboard

namespace Agent

variable {a : Agent} {sb sb' : Switchboard} {k : Nat}

/-- The socket is the agent's own, or the one that just opened for it. -/
def Owns (a : Agent) (sb : Switchboard) (k : Nat) : Prop :=
  a.socket? = some k ∨ a.socket? = none ∧ k = sb.lines.length

theorem socket?_of_opening {number : Nat} {due : Option Nat}
    (hs : a.stage = .opening number due) : a.socket? = none := by
  unfold socket?
  rw [hs]

/-- A loss drops the socket that the agent has, if any. -/
theorem Loss.traffic {error : ConnectionError} {acknowledged : Bool}
    (h : a.Loss sb error acknowledged sb')
    (hk : ∀ link, a.stage = .serving link → link.socket < sb.lines.length) :
    a.socket? = none ∧ sb' = sb ∨ ∃ k news seen, a.Owns sb k ∧ Unparted news ∧
      sb.Traffic k (.dropped k seen :: news) sb' := by
  -- a socket in use is dropped after some traffic
  have hserving {link : Link} {news : List Notice} {sb₁ : Switchboard}
      (hs : a.stage = .serving link) (hnews : Unparted news)
      (h : sb.Traffic link.socket news sb₁) : ∃ k news seen, a.Owns sb k ∧ Unparted news ∧
        sb.Traffic k (.dropped k seen :: news) (sb₁.drop link.socket) := by
    obtain ⟨seen, hdrop⟩ := sb₁.traffic_drop link.socket h.bound
    exact ⟨_, _, seen, Or.inl (socket?_of_serving hs), hnews, h.trans hdrop⟩
  cases h with
  | openFailed ht hs => exact Or.inl ⟨socket?_of_opening hs, rfl⟩
  | initFailed ht hs hdue hopen hsend =>
    rename_i number k due e sb₁ sb₂
    obtain ⟨rfl, hopened, -⟩ := Switchboard.exchange_finishOpen hopen
    obtain ⟨arrived, hsent⟩ := sb₁.exchange_send _ hopened.bound
      (.message (.connectionInit a.params))
    rw [hsend] at hsent
    have hall := hopened.trans hsent
    obtain ⟨seen, hdrop⟩ := sb₂.traffic_drop _ hall.bound
    exact Or.inr ⟨_, _, seen, Or.inr ⟨socket?_of_opening hs, rfl⟩,
      (Unparted.single rfl).append (.single rfl), hall.toTraffic.trans hdrop⟩
  | pongTimeout ht hs => exact Or.inr (hserving hs .nil (.refl (hk _ hs)))
  | pingFailed ht hs hack hpong hping hsend =>
    obtain ⟨arrived, hsent⟩ := sb.exchange_send _ (hk _ hs)
      (.message (.ping sb.settings.pingPayload))
    rw [hsend] at hsent
    exact Or.inr (hserving hs (.single rfl) hsent.toTraffic)
  | endOfStream ht hs => exact Or.inr (hserving hs .nil (sb.traffic_setLine _ (hk _ hs) _))
  | receiveFailed ht hs => exact Or.inr (hserving hs .nil (sb.traffic_setLine _ (hk _ hs) _))
  | closed h =>
    exact Or.inr (hserving h.stage (.single rfl) (sb.traffic_hear _ (hk _ h.stage) _ _))
  | pongFailed h hitem hsend =>
    rename_i link frame rest payload e sb₁
    have hheard := sb.traffic_hear _ (hk _ h.stage) (.ok (.message (.ping payload))) rest
    obtain ⟨arrived, hsent⟩ :=
      Switchboard.exchange_send _ _ hheard.bound (.message (.pong payload))
    rw [hsend] at hsent
    exact Or.inr (hserving h.stage ((Unparted.single rfl).append (.single rfl))
      (hheard.trans hsent.toTraffic))

/-- What ruins a session is at most read from the socket that the agent has. -/
theorem Ruin.traffic {error : ConnectionError} {farewell : Option CloseFrame}
    (h : a.Ruin sb error farewell k sb')
    (hk : ∀ link, a.stage = .serving link → link.socket < sb.lines.length) :
    a.socket? = some k ∧ (∃ news, Unparted news ∧ sb.Traffic k news sb') ∧
      (sb'.line k).pair.server = (sb.line k).pair.server ∧
      (sb'.line k).sendFault = (sb.line k).sendFault := by
  have hheard {link : Link} {frame : Frame} {rest : List Frame}
      {item : Except DecodeError Incoming} (h : a.Reads sb link frame rest) :
      a.socket? = some link.socket ∧
        (∃ news, Unparted news ∧ sb.Traffic link.socket news (sb.hear link.socket item rest)) ∧
        ((sb.hear link.socket item rest).line link.socket).pair.server =
          (sb.line link.socket).pair.server ∧
        ((sb.hear link.socket item rest).line link.socket).sendFault =
          (sb.line link.socket).sendFault := by
    have hbound := hk _ h.stage
    refine ⟨socket?_of_serving h.stage, ⟨_, .single rfl, sb.traffic_hear _ hbound _ _⟩, ?_⟩
    unfold Switchboard.hear
    rw [Switchboard.note_line, sb.line_setLine_self _ hbound]
    exact ⟨rfl, rfl⟩
  cases h with
  | fatalClose h => exact hheard h
  | ackTimeout ht hs =>
    exact ⟨socket?_of_serving hs, ⟨[], .nil, .refl (hk _ hs)⟩, rfl, rfl⟩
  | undecodable h => exact hheard h
  | misplaced h => exact hheard h

/-! ## The course of a turn -/

/-- What a turn has to do with sockets. -/
inductive Course (a : Agent) (sb : Switchboard) (t : Turn) : Prop
  /-- It leaves them alone. -/
  | apart (hsocket : t.1.bind socket? = a.socket?)
      (hdealings : ∀ s, t.2.dealings s = sb.dealings s)
  /-- It goes on with a socket. -/
  | keeps {k : Nat} {news : List Notice} (hown : a.Owns sb k) (hsocket : t.1.bind socket? = some k)
      (hnews : Unparted news) (hdealings : t.2.dealings k = sb.dealings k ++ news)
      (helse : ∀ s, s ≠ k → t.2.dealings s = sb.dealings s) (hbound : k < t.2.lines.length)
  /-- It leaves a socket. -/
  | leaves {k : Nat} {news exit : List Notice} (hown : a.Owns sb k)
      (hsocket : t.1.bind socket? = none) (hnews : Unparted news) (hexit : Exit k exit)
      (hdealings : t.2.dealings k = sb.dealings k ++ (news ++ exit))
      (helse : ∀ s, s ≠ k → t.2.dealings s = sb.dealings s) (hbound : k < t.2.lines.length)

/-- Giving up is not about sockets. -/
theorem dealings_giveUp (a : Agent) (sb : Switchboard) (error : ConnectionError) (s : Nat) :
    (a.giveUp sb error).2.dealings s = sb.dealings s ∧
      (a.giveUp sb error).2.lines = sb.lines ∧ (a.giveUp sb error).2.opens = sb.opens := by
  unfold giveUp Switchboard.terminate
  split
  · exact ⟨rfl, rfl, rfl⟩
  · exact ⟨Switchboard.commit_dealings .., Switchboard.commit_lines .., Switchboard.commit_opens ..⟩

/-- Nor is asking the retry budget. -/
theorem dealings_lose (a : Agent) (sb : Switchboard) (error : ConnectionError)
    (acknowledged : Bool) (s : Nat) :
    (a.lose sb error acknowledged).1.bind socket? = none ∧
      (a.lose sb error acknowledged).2.dealings s = sb.dealings s ∧
      (a.lose sb error acknowledged).2.lines = sb.lines := by
  unfold lose Switchboard.suspend
  dsimp only
  generalize (if acknowledged = true then 0 else a.attempt) = attempt
  split
  · obtain ⟨hdealings, hlines, -⟩ := a.dealings_giveUp sb (.retriesExhausted attempt error) s
    exact ⟨rfl, hdealings, hlines⟩
  · cases sb.isOutdated a.epoch with
    | true => exact ⟨rfl, rfl, rfl⟩
    | false =>
      refine ⟨rfl, ?_, Switchboard.withSession_lines ..⟩
      exact (Switchboard.note_dealings _ rfl).trans (Switchboard.withSession_dealings ..)

theorem Course.of_traffic {t : Turn} {news exit : List Notice} (hown : a.Owns sb k)
    (hsocket : t.1.bind socket? = none) (hnews : Unparted news) (hexit : Exit k exit)
    (h : sb.Traffic k (exit.reverse ++ news) sb')
    (hdealings : ∀ s, t.2.dealings s = sb'.dealings s) (hlines : t.2.lines = sb'.lines) :
    a.Course sb t := by
  refine .leaves hown hsocket hnews.reverse hexit ?_ (fun s hs => ?_) ?_
  · rw [hdealings, h.dealings, List.reverse_append, List.reverse_reverse]
  · rw [hdealings, h.dealings_elsewhere hs]
  · rw [hlines]
    exact h.bound

/-- A turn that goes on keeps the socket that the agent has. -/
theorem Move.course_of_goesOn {t : Turn} (hmove : a.Move sb t) (h : GoesOn t) :
    a.Course sb t := by
  have hnone {stage : Stage} (hs : a.stage = stage) (hserving : ∀ link, stage ≠ .serving link) :
      a.socket? = none := by
    unfold socket?
    rw [hs]
    split
    · next link => exact absurd rfl (hserving link)
    · rfl
  -- traffic over a socket that the agent has before and after
  have hkeeps {link link' : Link} {news : List Notice} {sb₁ sb₂ : Switchboard}
      {a' : Agent} (hown : a.Owns sb link.socket) (ht : t.1 = some a')
      (hs' : a'.stage = .serving link') (hsocket : link'.socket = link.socket)
      (h : sb₁.Traffic link.socket news sb₂) (hnews : Unparted news)
      (hbefore : ∀ s, sb₁.dealings s = sb.dealings s)
      (hafter : ∀ s, t.2.dealings s = sb₂.dealings s) (hlines : t.2.lines = sb₂.lines) :
      a.Course sb t := by
    refine .keeps hown ?_ hnews.reverse ?_ (fun s hs => ?_) ?_
    · rw [ht, Option.bind_some, socket?_of_serving hs', hsocket]
    · rw [hafter, h.dealings, hbefore]
    · rw [hafter, h.dealings_elsewhere hs, hbefore]
    · rw [hlines]
      exact h.bound
  obtain ⟨a', hsome, hstage⟩ := h
  cases hmove with
  | leave | hangUp | ended => cases hsome
  | retry =>
    obtain rfl := Option.some.inj hsome
    exact absurd rfl (hstage _)
  | ask ht hs =>
    refine .apart ?_ fun s => Switchboard.note_dealings _ rfl
    rw [hnone hs nofun]
    rfl
  | wake ht hs =>
    refine .apart ?_ fun s => rfl
    rw [hnone hs nofun]
    rfl
  | greet ht hs hsocket hack h hclient hquiet =>
    exact hkeeps (Or.inr ⟨hnone hs nofun, hsocket⟩) rfl rfl rfl h.toTraffic (.of_quiet hquiet)
      (fun _ => rfl) (fun _ => rfl) rfl
  | idle ht hs hsocket hack h hquiet =>
    exact hkeeps (Or.inl (socket?_of_serving hs)) rfl rfl hsocket h.toTraffic (.of_quiet hquiet)
      (fun _ => rfl) (fun _ => rfl) rfl
  | deliver ht hs hout h =>
    exact hkeeps (Or.inl (socket?_of_serving hs)) rfl rfl rfl h.toTraffic (.single rfl)
      (fun _ => rfl) (fun _ => rfl) rfl
  | undeliverable ht hs hout h error =>
    exact hkeeps (Or.inl (socket?_of_serving hs)) rfl rfl rfl h.toTraffic (.single rfl)
      (fun _ => rfl) (fun _ => Switchboard.abandon_dealings ..) (Switchboard.abandon_lines ..)
  | acknowledge ht hs hack hsocket hack' h =>
    exact hkeeps (Or.inl (socket?_of_serving hs)) rfl rfl hsocket h.toTraffic (.single rfl)
      (fun _ => rfl) (fun _ => Switchboard.commit_dealings ..) (Switchboard.commit_lines ..)
  | route ht hs hack hsocket hack' hitem h =>
    exact hkeeps (Or.inl (socket?_of_serving hs)) rfl rfl hsocket h.toTraffic (.single rfl)
      (fun _ => rfl) (fun _ => Switchboard.commit_dealings ..) (Switchboard.commit_lines ..)
  | endOne ht hs hack hsocket hack' hid h =>
    exact hkeeps (Or.inl (socket?_of_serving hs)) rfl rfl hsocket h.toTraffic (.single rfl)
      (fun _ => rfl) (fun _ => Switchboard.commit_dealings ..) (Switchboard.commit_lines ..)

/-- Every turn has a course, by the verdict on it. -/
theorem Fits.course (hfits : a.Fits sb) {t : Turn} (ht : a.turn sb = some t) :
    a.Course sb t := by
  cases hat : a.told with
  | true =>
    rw [turn_of_told_eq sb hat] at ht
    obtain rfl := Option.some.inj ht
    cases hsocket : a.socket? with
    | none =>
      rw [farewell_of_idle sb hsocket]
      exact .apart hsocket.symm fun _ => rfl
    | some k =>
      obtain ⟨link, hs, rfl⟩ := stage_of_socket? hsocket
      obtain ⟨arrived, failed, hclose, -⟩ :=
        sb.exact_close link.socket (hfits.bound link hs) .normalClosure "Normal Closure"
      rw [farewell_of_serving sb hs]
      exact .of_traffic (Or.inl hsocket) rfl .nil (.closed _ arrived failed _) hclose
        (fun _ => rfl) rfl
  | false =>
    cases verdict_of_turn hat (hfits.isOutdated hat) ht with
    | goesOn h => exact (hfits.move ht).course_of_goesOn h
    | loss h heq =>
      rename_i error acknowledged sb₁
      have hlose := a.dealings_lose sb₁ error acknowledged
      rw [← heq] at hlose
      rcases h.traffic hfits.bound with ⟨hnone, rfl⟩ | ⟨k, news, seen, hown, hnews, htraffic⟩
      · exact .apart ((hlose 0).1.trans hnone.symm) fun s => (hlose s).2.1
      · exact .of_traffic hown (hlose 0).1 hnews (.dropped seen) htraffic
          (fun s => (hlose s).2.1) (hlose 0).2.2
    | ruin h heq =>
      rename_i error farewell k sb₁
      obtain ⟨hsocket, ⟨news, hnews, htraffic⟩, -⟩ := h.traffic hfits.bound
      obtain ⟨exit, hexit, hpart⟩ := sb₁.traffic_part k htraffic.bound farewell
      have hgive := a.dealings_giveUp (sb₁.part k farewell) error
      rw [heq]
      exact .of_traffic (Or.inl hsocket) rfl hnews hexit.exit (htraffic.trans hpart)
        (fun s => (hgive s).1) (hgive 0).2.1

end Agent

/-! ## All sockets of a client -/

namespace Client

variable {c : Client} {k : Nat}

/-- What the journal tells of a socket goes with who has it. A socket that did not open has no
dealings, one that an agent has was not left, and the others were left for good. -/
structure Orderly (c : Client) : Prop where
  unopened : ∀ k, c.board.lines.length ≤ k → c.board.dealings k = []
  held : ∀ k ∈ c.agents.filterMap Agent.socket?, Unparted (c.board.dealings k)
  left : ∀ k ∉ c.agents.filterMap Agent.socket?, c.board.dealings k ≠ [] →
    IsLeft k (c.board.dealings k)

theorem orderly_create (settings : Settings) (transport : Transport) (newId : Nat → String) :
    (create settings transport newId).Orderly :=
  ⟨fun _ _ => rfl, fun _ hk => absurd hk List.not_mem_nil, fun _ _ h => absurd rfl h⟩

/-- The sockets of all agents are those of one and those of the others. -/
theorem mem_sockets {pre post : List Agent} {o : Option Agent} {s : Nat} :
    s ∈ (pre ++ (o.toList ++ post)).filterMap Agent.socket? ↔
      s ∈ (pre ++ post).filterMap Agent.socket? ∨ o.bind Agent.socket? = some s := by
  cases o with
  | none => simp
  | some a =>
    simp only [List.filterMap_append, Option.toList_some, List.filterMap_cons, List.mem_append,
      Option.bind_some]
    cases a.socket? with
    | none => simp
    | some s' => simp [eq_comm, or_comm, or_left_comm]

namespace Orderly

/-- What happens apart from the sockets keeps them in order. -/
theorem apart {c' : Client} (h : c.Orderly) (hapart : c.Apart c') : c'.Orderly := by
  refine ⟨fun k hk => ?_, fun k hk => ?_, fun k hk hne => ?_⟩
  · rw [hapart.dealings]
    exact h.unopened k (hapart.length ▸ hk)
  · rw [hapart.dealings]
    exact h.held k (hapart.sockets ▸ hk)
  · rw [hapart.dealings] at hne ⊢
    exact h.left k (hapart.sockets ▸ hk) hne

/-- One socket opens, gets dealings or is left, and the others stay with whom they are. -/
theorem of_one {c' : Client} (h : c.Orderly)
    (hlength : c.board.lines.length ≤ c'.board.lines.length) (hbound : k < c'.board.lines.length)
    (helse : ∀ s, s ≠ k → c'.board.dealings s = c.board.dealings s)
    (hsockets : ∀ s, s ≠ k → (s ∈ c'.agents.filterMap Agent.socket? ↔
      s ∈ c.agents.filterMap Agent.socket?))
    (hheld : k ∈ c'.agents.filterMap Agent.socket? → Unparted (c'.board.dealings k))
    (hleft : k ∉ c'.agents.filterMap Agent.socket? → IsLeft k (c'.board.dealings k)) :
    c'.Orderly := by
  refine ⟨fun s hs => ?_, fun s hs => ?_, fun s hs hne => ?_⟩
  · rw [helse s (hbound.trans_le hs).ne']
    exact h.unopened s (hlength.trans hs)
  · by_cases hsk : s = k
    · subst hsk
      exact hheld hs
    · rw [helse s hsk]
      exact h.held s ((hsockets s hsk).1 hs)
  · by_cases hsk : s = k
    · subst hsk
      exact hleft hs
    · rw [helse s hsk] at hne ⊢
      exact h.left s (fun hmem => hs ((hsockets s hsk).2 hmem)) hne

/-- The agent that has its turn holds other sockets than the others. -/
theorem turn (h : c.Orderly) (hc : c.Coherent) {pre post : List Agent} {a : Agent} {t : Turn}
    (hagents : c.agents = pre ++ a :: post) (ht : a.turn c.board = some t) :
    ({ c with agents := pre ++ (t.1.toList ++ post), board := t.2 } : Client).Orderly := by
  have hfits := hc.agents a (mem_of_split hagents)
  have hlength := ((hfits.move ht).outcome hfits hc.session).advance.length
  have hbefore (s : Nat) : s ∈ c.agents.filterMap Agent.socket? ↔
      s ∈ (pre ++ post).filterMap Agent.socket? ∨ a.socket? = some s :=
    hagents ▸ mem_sockets (o := some a)
  have hafter (s : Nat) : s ∈ (pre ++ (t.1.toList ++ post)).filterMap Agent.socket? ↔
      s ∈ (pre ++ post).filterMap Agent.socket? ∨ t.1.bind Agent.socket? = some s := mem_sockets
  -- the socket that the turn is about was not left before
  have hown {k : Nat} (hk : a.Owns c.board k) : Unparted (c.board.dealings k) := by
    rcases hk with hk | ⟨-, rfl⟩
    · exact h.held k ((hbefore k).2 (Or.inr hk))
    · rw [h.unopened _ (le_refl _)]
      exact .nil
  -- no other agent has it
  have hothers {k : Nat} (hk : a.Owns c.board k) : k ∉ (pre ++ post).filterMap Agent.socket? := by
    intro hmem
    obtain ⟨b, hb, hbs⟩ := List.mem_filterMap.1 hmem
    rcases hk with hk | ⟨-, rfl⟩
    · exact hc.socket_ne hagents hb hbs hk
    · exact lt_irrefl _ ((hc.agents b (mem_of_other hagents hb)).socket _ hbs).1
  have helsewhere {k s : Nat} (hk : a.Owns c.board k) (hs : s ≠ k) : a.socket? ≠ some s := by
    intro hsocket
    rcases hk with hk | ⟨hk, -⟩ <;> rw [hsocket] at hk
    · exact hs (Option.some.inj hk)
    · cases hk
  cases hfits.course ht with
  | apart hsocket hdealings =>
    have hsockets (s : Nat) : s ∈ (pre ++ (t.1.toList ++ post)).filterMap Agent.socket? ↔
        s ∈ c.agents.filterMap Agent.socket? := by
      rw [hafter, hbefore, hsocket]
    refine ⟨fun s hs => ?_, fun s hs => ?_, fun s hs hne => ?_⟩
    · exact (hdealings s).trans (h.unopened s (hlength.trans hs))
    · rw [hdealings]
      exact h.held s ((hsockets s).1 hs)
    · rw [hdealings] at hne ⊢
      exact h.left s (fun hmem => hs ((hsockets s).2 hmem)) hne
  | @keeps k news hk hsocket hnews hdealings helse hbound =>
    have hhere : k ∈ (pre ++ (t.1.toList ++ post)).filterMap Agent.socket? :=
      (hafter k).2 (Or.inr hsocket)
    refine h.of_one hlength hbound helse (fun s hs => ?_) (fun _ => ?_) (absurd hhere)
    · rw [hafter, hbefore, hsocket, or_iff_left (helsewhere hk hs),
        or_iff_left fun heq => hs (Option.some.inj heq).symm]
    · exact hdealings ▸ (hown hk).append hnews
  | @leaves k news exit hk hsocket hnews hexit hdealings helse hbound =>
    have hgone (s : Nat) : s ∈ (pre ++ (t.1.toList ++ post)).filterMap Agent.socket? ↔
        s ∈ (pre ++ post).filterMap Agent.socket? := by
      rw [hafter, hsocket, or_iff_left nofun]
    refine h.of_one hlength hbound helse (fun s hs => ?_)
      (fun hmem => absurd ((hgone k).1 hmem) (hothers hk)) fun _ => ?_
    · rw [hgone, hbefore, or_iff_left (helsewhere hk hs)]
    · rw [hdealings, ← List.append_assoc]
      exact ⟨_, exit, rfl, (hown hk).append hnews, hexit⟩

theorem perform (h : c.Orderly) (hc : c.Coherent) (e : Event) : (c.perform e).Orderly := by
  rcases c.turn_or_apart_perform e with ⟨pre, a, post, t, hagents, ht, heq⟩ | ⟨hapart, -⟩
  · rw [heq]
    exact h.turn hc hagents ht
  · exact h.apart hapart

/-- A socket opens only when the others that opened before it were left, or are held by agents that
were told to stop. -/
theorem alone (h : c.Orderly) (hc : c.Coherent) {e : Event} (hk : c.board.lines.length ≤ k)
    (hnew : (c.perform e).board.dealings k ≠ []) {s : Nat} (hs : c.board.dealings s ≠ []) :
    IsLeft s (c.board.dealings s) ∨ c.Leaving s := by
  have hnone := h.unopened k hk
  rcases c.turn_or_apart_perform e with ⟨pre, a, post, t, hagents, ht, heq⟩ | ⟨hapart, -⟩
  · have hmem := mem_of_split hagents
    have hfits := hc.agents a hmem
    -- it opens in the turn of an agent that has no socket
    have howner {own : Nat} (hown : a.Owns c.board own)
        (helse : ∀ s, s ≠ own → t.2.dealings s = c.board.dealings s) : a.socket? = none := by
      rcases hown with hsocket | ⟨hsocket, -⟩
      · have hne : k ≠ own := ((hfits.socket own hsocket).1.trans_le hk).ne'
        rw [heq] at hnew
        exact absurd ((helse k hne).trans hnone) hnew
      · exact hsocket
    have hsocket : a.socket? = none := by
      cases hfits.course ht with
      | apart _ hdealings =>
        rw [heq] at hnew
        exact absurd ((hdealings k).trans hnone) hnew
      | keeps hown _ _ _ helse => exact howner hown helse
      | leaves hown _ _ _ _ helse => exact howner hown helse
    have hat : a.told = false := by
      by_contra hat
      rw [Agent.turn_of_told_eq c.board (Bool.not_eq_false _ ▸ hat),
        Agent.farewell_of_idle c.board hsocket] at ht
      rw [heq, ← Option.some.inj ht] at hnew
      exact hnew hnone
    by_cases hheld : s ∈ c.agents.filterMap Agent.socket?
    · obtain ⟨b, hb, hbs⟩ := List.mem_filterMap.1 hheld
      have hne : b ≠ a := by
        rintro rfl
        rw [hsocket] at hbs
        cases hbs
      exact Or.inr ⟨b, hb, hc.told_of_other hagents hat (other_of_ne hagents hb hne), hbs⟩
    · exact Or.inl (h.left s hheld hs)
  · rw [hapart.dealings] at hnew
    exact absurd hnone hnew

end Orderly

/-- The sockets of a client are in order after every run. -/
theorem orderly_run (settings : Settings) (transport : Transport) {newId : Nat → String}
    (hid : Function.Injective newId) (es : List Event) :
    ((create settings transport newId).run es).Orderly := by
  have hall (c : Client) (hc : c.Coherent) (h : c.Orderly) (es : List Event) :
      (c.run es).Orderly := by
    induction es generalizing c with
    | nil => exact h
    | cons e es ih => exact ih _ (hc.perform e) (h.perform hc e)
  exact hall _ (coherent_create settings transport hid) (orderly_create settings transport newId) es

end Client

end LiveQuery
