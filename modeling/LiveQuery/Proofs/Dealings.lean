import LiveQuery.Proofs.Coherence

/-!
# Dealings with a socket

The dealings with a socket are what the journal says of it: that it opened, what was sent over it
and read from it, and that it was dropped (`Switchboard.dealings`). An agent has dealings with its
own socket, or with one that just opens, and with no other (`Agent.Move.elsewhere`). So a socket
that no agent holds is left alone for ever (`Client.Released.run`).
-/

namespace LiveQuery

theorem Notice.isTraffic_elsewhere {notice : Notice} {own socket : Nat}
    (h : notice.isTraffic own = true) (hs : socket ≠ own) : notice.isTraffic socket = false := by
  cases notice with
  | opened s | sent s _ _ _ | dropped s _ | received s _ =>
    have hown : s = own := by simpa [isTraffic] using h
    simp [isTraffic, hown, hs.symm]
  | _ => cases h

namespace Switchboard

variable (sb : Switchboard)

/-- The notices about a socket, in order. -/
def dealings (k : Nat) : List Notice :=
  ((sb.journal.map JournalEntry.notice).filter (Notice.isTraffic k)).reverse

variable {sb} in
theorem dealings_congr {sb' : Switchboard} (h : sb'.journal = sb.journal) (k : Nat) :
    sb'.dealings k = sb.dealings k := by
  unfold dealings
  rw [h]

/-- Notices that are not about the socket leave its dealings as they are. -/
theorem dealings_of_news {sb' : Switchboard} {news : List JournalEntry} {k : Nat}
    (hjournal : sb'.journal = news ++ sb.journal)
    (hnews : ∀ entry ∈ news, entry.notice.isTraffic k = false) :
    sb'.dealings k = sb.dealings k := by
  have hnone : (news.map JournalEntry.notice).filter (Notice.isTraffic k) = [] := by
    refine List.filter_eq_nil_iff.2 fun notice hnotice => ?_
    obtain ⟨entry, hentry, rfl⟩ := List.mem_map.1 hnotice
    exact Bool.eq_false_iff.1 (hnews entry hentry)
  unfold dealings
  rw [hjournal, List.map_append, List.filter_append, hnone, List.nil_append]

theorem note_dealings {notice : Notice} {k : Nat} (h : notice.isTraffic k = false) :
    (sb.note notice).dealings k = sb.dealings k := by
  have hjournal : (sb.note notice).journal = [⟨sb.now, notice⟩] ++ sb.journal := rfl
  exact sb.dealings_of_news hjournal fun _ he => List.mem_singleton.1 he ▸ h

@[simp] theorem withSession_dealings (session : Session) (k : Nat) :
    (sb.withSession session).dealings k = sb.dealings k := by
  refine sb.dealings_of_news (congrArg Switchboard.journal (sb.withSession_eq session))
    fun entry he => ?_
  rcases sb.mem_changes session he with ⟨m, -, hm⟩ | hm
  · rw [hm]
    rfl
  · rw [hm]
    rfl

theorem apply_dealings (effect : Effect) (k : Nat) :
    (sb.apply effect).dealings k = sb.dealings k := by
  unfold apply
  split
  · split
    · exact note_dealings _ rfl
    · rfl
  · exact note_dealings _ rfl

@[simp] theorem commit_dealings (result : Session × List Effect) (k : Nat) :
    (sb.commit result).dealings k = sb.dealings k := by
  unfold commit
  rw [foldl_apply_view _ _ (·.dealings k) fun sb e => apply_dealings sb e k, withSession_dealings]

@[simp] theorem commit_line (result : Session × List Effect) (k : Nat) :
    (sb.commit result).line k = sb.line k := by
  unfold line
  rw [commit_lines]

@[simp] theorem abandon_dealings (m : Message) (error : TransportError) (k : Nat) :
    (sb.abandon m error).dealings k = sb.dealings k := by
  rcases sb.abandon_cases m error with h | ⟨id, -, h⟩ <;> rw [h]
  rw [commit_dealings]

namespace Traffic

variable {sb} {sb' : Switchboard} {k : Nat} {news : List Notice}

/-- Traffic over a socket adds to its dealings. -/
theorem dealings (h : sb.Traffic k news sb') :
    sb'.dealings k = sb.dealings k ++ news.reverse := by
  have hnotices : (news.map (JournalEntry.mk sb.now)).map JournalEntry.notice = news := by
    rw [List.map_map]
    exact List.map_id _
  have hall : news.filter (Notice.isTraffic k) = news := List.filter_eq_self.2 h.own
  unfold Switchboard.dealings
  rw [h.journal, List.map_append, List.filter_append, hnotices, hall, List.reverse_append]

theorem dealings_elsewhere (h : sb.Traffic k news sb') {s : Nat} (hs : s ≠ k) :
    sb'.dealings s = sb.dealings s := by
  refine sb.dealings_of_news h.journal fun entry he => ?_
  obtain ⟨notice, hnotice, rfl⟩ := List.mem_map.1 he
  exact Notice.isTraffic_elsewhere (h.own notice hnotice) hs

end Traffic

end Switchboard

namespace Agent

variable {a : Agent} {sb sb' : Switchboard}

/-- What a parting leaves alone of a socket that is not the agent's. -/
theorem Parting.elsewhere (h : a.Parting sb sb') {k : Nat} (hk : k < sb.lines.length)
    (hne : a.socket? ≠ some k) : sb'.line k = sb.line k ∧ sb'.dealings k = sb.dealings k := by
  rcases h.traffic with rfl | ⟨s, news, htraffic, hs⟩
  · exact ⟨rfl, rfl⟩
  · have hks : k ≠ s := by
      rintro rfl
      rcases hs with ⟨link, hs, rfl⟩ | rfl
      · exact hne (socket?_of_serving hs)
      · exact lt_irrefl _ hk
    exact ⟨htraffic.elsewhere k hks, htraffic.dealings_elsewhere hks⟩

/-- An agent leaves the sockets that are not its own alone, by cases on the move. -/
theorem Move.elsewhere {t : Turn} (hmove : a.Move sb t) {k : Nat} (hk : k < sb.lines.length)
    (hne : a.socket? ≠ some k) : t.2.line k = sb.line k ∧ t.2.dealings k = sb.dealings k := by
  have hown {link : Link} {news : List Notice} {sb₁ sb₂ : Switchboard}
      (hs : a.stage = .serving link) (h : sb₁.Traffic link.socket news sb₂) :
      sb₂.line k = sb₁.line k ∧ sb₂.dealings k = sb₁.dealings k := by
    have hks : k ≠ link.socket := by
      rintro rfl
      exact hne (socket?_of_serving hs)
    exact ⟨h.elsewhere k hks, h.dealings_elsewhere hks⟩
  have hcommit {sb₁ : Switchboard} (result : Session × List Effect)
      (h : sb₁.line k = sb.line k ∧ sb₁.dealings k = sb.dealings k) :
      (sb₁.commit result).line k = sb.line k ∧ (sb₁.commit result).dealings k = sb.dealings k :=
    ⟨(Switchboard.commit_line ..).trans h.1, (Switchboard.commit_dealings ..).trans h.2⟩
  cases hmove with
  | leave | wake => exact ⟨rfl, rfl⟩
  | hangUp ht hs h => exact hown hs h
  | ask => exact ⟨rfl, Switchboard.note_dealings _ rfl⟩
  | greet ht hs hsocket hack h hclient hquiet =>
    have hks : k ≠ sb.lines.length := hk.ne
    rw [← hsocket] at hks
    exact ⟨h.elsewhere k hks, h.dealings_elsewhere hks⟩
  | ended ht h error => exact hcommit _ (h.elsewhere hk hne)
  | retry ht h hbudget =>
    obtain ⟨hline, hdealings⟩ := hcommit (_, []) (h.elsewhere hk hne)
    exact ⟨hline, (Switchboard.note_dealings _ rfl).trans hdealings⟩
  | idle ht hs hsocket hack h hquiet => exact hown hs h.toTraffic
  | deliver ht hs hout h =>
    have hsent := hown hs h.toTraffic
    exact hsent
  | undeliverable ht hs hout h error =>
    obtain ⟨hline, hdealings⟩ := hown hs h.toTraffic
    exact ⟨(Switchboard.abandon_line ..).trans hline,
      (Switchboard.abandon_dealings ..).trans hdealings⟩
  | acknowledge ht hs hack hsocket hack' h => exact hcommit _ (hown hs h.toTraffic)
  | route ht hs hack hsocket hack' hitem h => exact hcommit _ (hown hs h.toTraffic)
  | endOne ht hs hack hsocket hack' hid h => exact hcommit _ (hown hs h.toTraffic)

end Agent

namespace Client

variable {c c' : Client} {e : Event} {k : Nat}

/-- What happens leaves all sockets alone, the agents keep theirs, and those that were told to stop
stay. -/
structure Apart (c c' : Client) : Prop where
  sockets : c'.agents.filterMap Agent.socket? = c.agents.filterMap Agent.socket?
  stays : ∀ a ∈ c.agents, a.told = true → a ∈ c'.agents
  length : c'.board.lines.length = c.board.lines.length
  dealings : ∀ k, c'.board.dealings k = c.board.dealings k

namespace Apart

theorem refl (c : Client) : c.Apart c := ⟨rfl, fun _ ha _ => ha, rfl, fun _ => rfl⟩

theorem trans {c'' : Client} (h : c.Apart c') (h' : c'.Apart c'') : c.Apart c'' where
  sockets := h'.sockets.trans h.sockets
  stays := fun a ha hat => h'.stays a (h.stays a ha hat) hat
  length := h'.length.trans h.length
  dealings := fun k => (h'.dealings k).trans (h.dealings k)

end Apart

/-- A step is the turn of an agent, or it happens apart from the sockets. -/
theorem turn_or_apart (hstep : Step e c c') :
    (∃ pre a post t, c.agents = pre ++ a :: post ∧ a.turn c.board = some t ∧ e.isTurn = true ∧
      c' = { c with agents := pre ++ (t.1.toList ++ post), board := t.2 }) ∨ c.Apart c' := by
  have hsame (sb : Switchboard) (hlength : sb.lines.length = c.board.lines.length)
      (hdealings : ∀ k, sb.dealings k = c.board.dealings k) :
      c.Apart { c with board := sb } := ⟨rfl, fun _ h _ => h, hlength, hdealings⟩
  cases hstep with
  | turn hagents ht he => exact Or.inl ⟨_, _, _, _, hagents, ht, he, rfl⟩
  | quiet hq =>
    refine Or.inr ⟨by rw [hq.agents], fun a ha _ => ?_, hq.length,
      Switchboard.dealings_congr hq.journal⟩
    rwa [hq.agents]
  | touch | pass => exact Or.inr (hsame _ rfl fun _ => rfl)
  | launch =>
    refine Or.inr ⟨?_, fun a ha _ => List.mem_append_left _ ha,
      congrArg List.length (Switchboard.withSession_lines ..),
      Switchboard.withSession_dealings _ _⟩
    show (c.agents ++ [_]).filterMap Agent.socket? = _
    rw [List.filterMap_append]
    exact List.append_nil _
  | enlist =>
    exact Or.inr (hsame _ (congrArg List.length (Switchboard.withSession_lines ..))
      (Switchboard.withSession_dealings _ _))
  | refuse => exact Or.inr (hsame _ rfl fun _ => Switchboard.note_dealings _ rfl)
  | withdraw =>
    right
    rw [withdrawn_eq]
    exact hsame _ (congrArg List.length (Switchboard.withSession_lines ..))
      (Switchboard.withSession_dealings _ _)
  | halt =>
    refine Or.inr ⟨?_, fun a ha hat => List.mem_map.2 ⟨a, ha, ?_⟩,
      congrArg List.length (Switchboard.commit_lines ..), Switchboard.commit_dealings _ _⟩
    · show (c.agents.map _).filterMap Agent.socket? = _
      rw [List.filterMap_map]
      refine List.filterMap_congr fun a _ => ?_
      dsimp only [Function.comp]
      split <;> rfl
    · -- telling an agent again changes nothing
      split
      · rw [← hat]
      · rfl

/-- Everything but a turn happens apart from the sockets. -/
theorem apart_perform (he : e.isTurn = false) : c.Apart (c.perform e) := by
  refine perform_induction (P := c.Apart) (fun c₁ c₂ h hstep => ?_) (.refl c)
  rcases turn_or_apart hstep with ⟨-, -, -, -, -, -, he', -⟩ | hapart
  · rw [he] at he'
    cases he'
  · exact h.trans hapart

/-- An event is the turn of an agent, or it happens apart from the sockets. -/
theorem turn_or_apart_perform (c : Client) (e : Event) :
    (∃ pre a post t, c.agents = pre ++ a :: post ∧ a.turn c.board = some t ∧
      c.perform e = { c with agents := pre ++ (t.1.toList ++ post), board := t.2 }) ∨
    (c.Apart (c.perform e) ∧ (e.isTurn = true → c.perform e = c)) := by
  by_cases he : e.isTurn = true
  · rcases c.perform_cases he with h | ⟨pre, a, post, o, board, hagents, ht, h⟩
    · rw [h]
      exact Or.inr ⟨.refl c, fun _ => rfl⟩
    · exact Or.inl ⟨pre, a, post, (o, board), hagents, ht, h⟩
  · exact Or.inr ⟨apart_perform (Bool.eq_false_iff.2 he), fun he' => absurd he' he⟩

/-- A socket that opened and that no agent holds. -/
structure Released (c : Client) (k : Nat) : Prop where
  bound : k < c.board.lines.length
  free : k ∉ c.agents.filterMap Agent.socket?

namespace Released

theorem ne_socket (h : c.Released k) {a : Agent} (ha : a ∈ c.agents) : a.socket? ≠ some k :=
  fun hk => h.free (List.mem_filterMap.2 ⟨a, ha, hk⟩)

theorem perform (h : c.Released k) (hc : c.Coherent) (e : Event) :
    (c.perform e).Released k ∧ (c.perform e).board.dealings k = c.board.dealings k ∧
      (e.isTurn = true → (c.perform e).board.line k = c.board.line k) := by
  rcases c.turn_or_apart_perform e with ⟨pre, a, post, t, hagents, ht, heq⟩ | ⟨hapart, hsame⟩
  · have hmem := mem_of_split hagents
    have hfits := hc.agents a hmem
    have hmove := hfits.move ht
    have hout := hmove.outcome hfits hc.session
    obtain ⟨hline, hdealings⟩ := hmove.elsewhere h.bound (h.ne_socket hmem)
    rw [heq]
    refine ⟨⟨h.bound.trans_le hout.advance.length, fun hk => ?_⟩, hdealings, fun _ => hline⟩
    obtain ⟨b, hb, hbk⟩ := List.mem_filterMap.1 hk
    rcases mem_turned.1 hb with hb | hb
    · exact h.ne_socket (mem_of_other hagents hb) hbk
    · -- what the agent became holds its old socket or one that just opened
      rcases (hout.successor b hb).socket k hbk with hak | rfl
      · exact h.ne_socket hmem hak
      · exact lt_irrefl _ h.bound
  · refine ⟨⟨hapart.length ▸ h.bound, hapart.sockets ▸ h.free⟩, hapart.dealings k, fun he => ?_⟩
    rw [hsame he]

/-- Nobody has dealings with a released socket again. -/
theorem run (h : c.Released k) (hc : c.Coherent) (es : List Event) :
    (c.run es).Released k ∧ (c.run es).board.dealings k = c.board.dealings k := by
  induction es generalizing c with
  | nil => exact ⟨h, rfl⟩
  | cons e es ih =>
    obtain ⟨hreleased, hdealings, -⟩ := h.perform hc e
    obtain ⟨hlast, hsame⟩ := ih hreleased (hc.perform e)
    exact ⟨hlast, hsame.trans hdealings⟩

end Released

end Client

end LiveQuery
