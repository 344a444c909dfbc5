import LiveQuery.Proofs.Lifetime

/-!
# The pace of attempts to connect

The journal marks the beginning of every series of attempts, every ask for a socket and every
question to the retry policy (`Switchboard.marks`). Only an agent that was not told to stop sets
marks, apart from a start, and its stage says which: it asks when it is ready, and asks the policy
when it loses a connection within the budget (`Agent.Pace`, `Agent.Fits.pace`). Everything else that
happens passes over the marks (`Client.Lull`).
-/

namespace LiveQuery

namespace Notice

/-- Does a notice mark an attempt to connect? It tells that a series of attempts begins, that a
socket is asked for, or that the retry policy is asked. -/
def isMark : Notice → Bool
  | .opening | .retrying _ | .moved _ .connecting => true
  | _ => false

theorem isMark_of_isTraffic {notice : Notice} {k : Nat} (h : notice.isTraffic k = true) :
    notice.isMark = false := by
  cases notice with
  | opened | sent | dropped | received => rfl
  | _ => cases h

end Notice

namespace Switchboard

variable (sb : Switchboard)

/-- The marks of attempts in the journal, latest first. -/
def marks : List JournalEntry := sb.journal.filter fun entry => entry.notice.isMark

variable {sb} in
/-- News without marks leave the marks as they are. -/
theorem marks_of_news {sb' : Switchboard} {news : List JournalEntry}
    (hjournal : sb'.journal = news ++ sb.journal)
    (hnews : ∀ entry ∈ news, entry.notice.isMark = false) : sb'.marks = sb.marks := by
  have hnone : news.filter (fun entry => entry.notice.isMark) = [] :=
    List.filter_eq_nil_iff.2 fun entry he => Bool.eq_false_iff.1 (hnews entry he)
  unfold marks
  rw [hjournal, List.filter_append, hnone, List.nil_append]

theorem note_marks {notice : Notice} (h : notice.isMark = true) :
    (sb.note notice).marks = ⟨sb.now, notice⟩ :: sb.marks := List.filter_cons_of_pos h

theorem note_marks_of_not {notice : Notice} (h : notice.isMark = false) :
    (sb.note notice).marks = sb.marks :=
  List.filter_cons_of_neg (Bool.eq_false_iff.1 h)

theorem queued_marks (ms : List Message) :
    (ms.map fun m => (⟨sb.now, .queued m⟩ : JournalEntry)).reverse.filter
      (fun entry => entry.notice.isMark) = [] := by
  refine List.filter_eq_nil_iff.2 fun entry he => ?_
  obtain ⟨m, -, rfl⟩ := List.mem_map.1 (List.mem_reverse.1 he)
  nofun

/-- A session that does not begin to connect sets no mark. -/
theorem withSession_marks {session : Session}
    (h : sb.session.phase = session.phase ∨ session.phase ≠ .connecting) :
    (sb.withSession session).marks = sb.marks := by
  refine marks_of_news (congrArg Switchboard.journal (sb.withSession_eq session)) fun entry he => ?_
  unfold changes at he
  rcases List.mem_append.1 he with he | he
  · obtain ⟨m, -, rfl⟩ := List.mem_map.1 (List.mem_reverse.1 he)
    rfl
  · split at he
    · exact absurd he List.not_mem_nil
    · next hne =>
      rw [List.mem_singleton.1 he]
      have hphase := h.resolve_left hne
      revert hphase
      cases session.phase with
      | connecting => exact fun h => absurd rfl h
      | notStarted | acknowledged => exact fun _ => rfl

/-- A session that begins to connect sets a mark. -/
theorem withSession_marks_begin {session : Session} (hbefore : sb.session.phase ≠ .connecting)
    (hafter : session.phase = .connecting) : (sb.withSession session).marks =
      ⟨sb.now, .moved sb.session.phase .connecting⟩ :: sb.marks := by
  have hjournal : (sb.withSession session).journal = sb.changes session ++ sb.journal :=
    congrArg Switchboard.journal (sb.withSession_eq session)
  unfold marks
  rw [hjournal]
  unfold changes
  rw [hafter, if_neg hbefore, List.append_assoc, List.filter_append, queued_marks]
  rfl

theorem withSession_retries (session : Session) :
    (sb.withSession session).retries = sb.retries := by
  rw [withSession_eq]

theorem apply_marks (effect : Effect) : (sb.apply effect).marks = sb.marks := by
  unfold apply
  split
  · split
    · exact note_marks_of_not _ rfl
    · rfl
  · exact note_marks_of_not _ rfl

theorem apply_retries (effect : Effect) : (sb.apply effect).retries = sb.retries := by
  obtain ⟨consumers, handshakes, journal, h⟩ := sb.apply_eq effect
  rw [h]

theorem commit_marks {result : Session × List Effect}
    (h : sb.session.phase = result.1.phase ∨ result.1.phase ≠ .connecting) :
    (sb.commit result).marks = sb.marks := by
  unfold commit
  rw [foldl_apply_view _ _ marks fun sb effect => apply_marks sb effect, sb.withSession_marks h]

theorem commit_retries (result : Session × List Effect) :
    (sb.commit result).retries = sb.retries := by
  unfold commit
  rw [foldl_apply_view _ _ retries fun sb effect => apply_retries sb effect, withSession_retries]

variable {sb} in
theorem Traffic.marks {sb' : Switchboard} {k : Nat} {news : List Notice}
    (h : sb.Traffic k news sb') : sb'.marks = sb.marks := by
  refine marks_of_news h.journal fun entry he => ?_
  obtain ⟨notice, hnotice, rfl⟩ := List.mem_map.1 he
  exact Notice.isMark_of_isTraffic (h.own notice hnotice)

variable {sb} in
theorem Traffic.retries {sb' : Switchboard} {k : Nat} {news : List Notice}
    (h : sb.Traffic k news sb') : sb'.retries = sb.retries := by rw [h.rest]

end Switchboard

/-- Is the agent at work on a socket, waiting for the transport or serving? -/
def Stage.isBusy : Stage → Bool
  | .opening .. | .serving _ => true
  | .ready | .backoff _ => false

namespace Agent

variable {a : Agent} {sb sb' : Switchboard} {t : Turn}

/-! ## Turns -/

/-- What a turn marks, and how the agent goes on. -/
inductive Pace (a : Agent) (sb : Switchboard) (t : Turn) : Prop
  /-- The agent ends. -/
  | ends (hnone : t.1 = none) (hmarks : t.2.marks = sb.marks) (hretries : t.2.retries = sb.retries)
  /-- It goes on with its work. -/
  | works {a' : Agent} (hsome : t.1 = some a') (hbusy : a.stage.isBusy = true)
      (hbusy' : a'.stage.isBusy = true) (hattempt : a'.attempt = a.attempt)
      (hmarks : t.2.marks = sb.marks) (hretries : t.2.retries = sb.retries)
  /-- It asks for a socket. -/
  | asks {a' : Agent} (hsome : t.1 = some a') (hs : a.stage = .ready)
      (hbusy' : a'.stage.isBusy = true) (hattempt : a'.attempt = a.attempt)
      (hmarks : t.2.marks = ⟨sb.now, .opening⟩ :: sb.marks) (hretries : t.2.retries = sb.retries)
  /-- The wait before an attempt is over. -/
  | wakes {a' : Agent} {due : Nat} (hsome : t.1 = some a') (hs : a.stage = .backoff due)
      (hdue : due ≤ sb.now) (hs' : a'.stage = .ready) (hattempt : a'.attempt = a.attempt)
      (hmarks : t.2.marks = sb.marks) (hretries : t.2.retries = sb.retries)
  /-- It lost the connection and asked the retry policy. A loss of an acknowledged connection
  begins a new series. -/
  | retries {a' : Agent} {k : Nat} (hsome : t.1 = some a') (hbusy : a.stage.isBusy = true)
      (hk : k < sb.settings.maxReconnects)
      (hs' : a'.stage = .backoff (sb.now + sb.settings.wait sb.retries k))
      (hattempt : a'.attempt = k + 1)
      (hmarks : k = a.attempt ∧ t.2.marks = ⟨sb.now, .retrying k⟩ :: sb.marks ∨
        k = 0 ∧ t.2.marks = ⟨sb.now, .retrying k⟩ ::
          ⟨sb.now, .moved .acknowledged .connecting⟩ :: sb.marks)
      (hretries : t.2.retries = sb.retries + 1)

/-- Time and settings are not for agents to change. -/
theorem Move.clock (h : a.Move sb t) : t.2.now = sb.now ∧ t.2.settings = sb.settings := by
  cases h with
  | leave | ask | wake => exact ⟨rfl, rfl⟩
  | hangUp ht hs h => exact ⟨h.now, h.settings⟩
  | greet ht hs hsocket hack h => exact ⟨h.now, h.settings⟩
  | idle ht hs hsocket hack h => exact ⟨h.now, h.settings⟩
  | deliver ht hs hout h => exact ⟨h.now, h.settings⟩
  | undeliverable ht hs hout h error =>
    exact ⟨(Switchboard.abandon_now ..).trans h.now,
      (Switchboard.abandon_settings ..).trans h.settings⟩
  | ended ht h error =>
    exact ⟨(Switchboard.commit_now ..).trans h.now,
      (Switchboard.commit_settings ..).trans h.settings⟩
  | retry ht h =>
    exact ⟨(Switchboard.withSession_now ..).trans h.now,
      (Switchboard.withSession_settings ..).trans h.settings⟩
  | acknowledge ht hs hack hsocket hack' h | route ht hs hack hsocket hack' hitem h
  | endOne ht hs hack hsocket hack' hid h =>
    exact ⟨(Switchboard.commit_now ..).trans h.now,
      (Switchboard.commit_settings ..).trans h.settings⟩

/-- A loss tells whether the connection was acknowledged. -/
theorem Loss.isAcknowledged {error : ConnectionError} {acknowledged : Bool}
    (h : a.Loss sb error acknowledged sb') : a.isAcknowledged = acknowledged := by
  cases h with
  | openFailed ht hs | initFailed ht hs =>
    unfold Agent.isAcknowledged
    rw [hs]
  | pongTimeout ht hs | pingFailed ht hs | endOfStream ht hs | receiveFailed ht hs =>
    exact isAcknowledged_of_serving hs
  | closed h | pongFailed h => exact isAcknowledged_of_serving h.stage

theorem Loss.isBusy {error : ConnectionError} {acknowledged : Bool}
    (h : a.Loss sb error acknowledged sb') : a.stage.isBusy = true := by
  cases h with
  | openFailed ht hs | initFailed ht hs | pongTimeout ht hs | pingFailed ht hs
  | endOfStream ht hs | receiveFailed ht hs =>
    rw [hs]
    rfl
  | closed h | pongFailed h =>
    rw [h.stage]
    rfl

/-- A loss touches the sockets and the journal only, and sets no mark. -/
theorem Loss.rest {error : ConnectionError} {acknowledged : Bool}
    (h : a.Loss sb error acknowledged sb')
    (hk : ∀ link, a.stage = .serving link → link.socket < sb.lines.length) :
    sb' = { sb with lines := sb'.lines, journal := sb'.journal } ∧ sb'.marks = sb.marks := by
  rcases h.traffic hk with ⟨-, rfl⟩ | ⟨k, news, seen, -, -, htraffic⟩
  · exact ⟨rfl, rfl⟩
  · exact ⟨htraffic.rest, htraffic.marks⟩

/-- What a loss within the budget comes to, in full. -/
theorem lose_eq (hcur : sb.isOutdated a.epoch = false) (error : ConnectionError)
    {acknowledged : Bool} {k : Nat} (hk : k = if acknowledged then 0 else a.attempt)
    (hbudget : k < sb.settings.maxReconnects) : a.lose sb error acknowledged =
      (some { a with attempt := k + 1, stage := .backoff (sb.now + sb.settings.wait sb.retries k) },
        { sb.withSession (sb.session.suspend sb.listening) with
          retries := sb.retries + 1 }.note (.retrying k)) := by
  unfold lose
  dsimp only
  rw [← hk, if_neg (Nat.not_le_of_lt hbudget)]
  simp only [Switchboard.suspend, hcur, Bool.false_eq_true, if_false, Switchboard.withSession_now,
    Switchboard.withSession_settings, Switchboard.withSession_retries]

theorem marks_giveUp (a : Agent) (sb : Switchboard) (error : ConnectionError) :
    (a.giveUp sb error).2.marks = sb.marks ∧ (a.giveUp sb error).2.retries = sb.retries := by
  unfold giveUp Switchboard.terminate
  split
  · exact ⟨rfl, rfl⟩
  · refine ⟨sb.commit_marks (Or.inr ?_), Switchboard.commit_retries ..⟩
    rw [Session.terminate_phase]
    nofun

/-- A wait is over when its time has come. -/
theorem due_of_turn {due : Nat} (hs : a.stage = .backoff due) (hat : a.told = false)
    (ht : a.turn sb = some t) : due ≤ sb.now := by
  rw [turn_of_backoff hat hs] at ht
  split at ht
  · next hdue => exact hdue
  · cases ht

/-- A turn that goes on. -/
theorem Move.pace_of_goesOn (hmove : a.Move sb t) (hat : a.told = false)
    (ht : a.turn sb = some t) (h : GoesOn t) : a.Pace sb t := by
  have hbusy {link : Link} (hs : a.stage = .serving link) : a.stage.isBusy = true := by
    rw [hs]
    rfl
  -- the session of an agent that serves does not begin to connect
  have hcommit {sb₁ : Switchboard} {result : Session × List Effect} {k : Nat} {news : List Notice}
      (h : sb.Traffic k news sb₁)
      (hphase : sb₁.session.phase = result.1.phase ∨ result.1.phase ≠ .connecting) :
      (sb₁.commit result).marks = sb.marks ∧ (sb₁.commit result).retries = sb.retries :=
    ⟨(sb₁.commit_marks hphase).trans h.marks, (sb₁.commit_retries result).trans h.retries⟩
  have hacknowledged (s : Session) (listening : Nat → Bool) (payload : Option Json.Members) :
      (s.acknowledge listening payload).1.phase ≠ .connecting := by
    rw [Session.acknowledge_phase]
    nofun
  obtain ⟨a', hsome, hstage⟩ := h
  cases hmove with
  | leave | hangUp | ended => cases hsome
  | retry =>
    obtain rfl := Option.some.inj hsome
    exact absurd rfl (hstage _)
  | ask _ hs => exact .asks rfl hs rfl rfl (sb.note_marks rfl) rfl
  | wake _ hs => exact .wakes rfl hs (due_of_turn hs hat ht) rfl rfl rfl rfl
  | greet _ hs hsocket hack h =>
    refine .works rfl ?_ rfl rfl h.marks h.retries
    rw [hs]
    rfl
  | idle _ hs hsocket hack h => exact .works rfl (hbusy hs) rfl rfl h.marks h.retries
  | deliver _ hs hout h => exact .works rfl (hbusy hs) rfl rfl h.marks h.retries
  | undeliverable ht' hs hout h error =>
    rename_i link m rest arrived sb₁
    rcases sb₁.abandon_cases m error with heq | ⟨id, -, heq⟩
    · rw [heq]
      exact .works rfl (hbusy hs) rfl rfl h.marks h.retries
    · rw [heq]
      refine .works rfl (hbusy hs) rfl rfl ((sb₁.commit_marks (Or.inl ?_)).trans h.marks)
        ((sb₁.commit_retries _).trans h.retries)
      rw [Session.endOne_phase]
  | acknowledge _ hs hack hsocket hack' h =>
    obtain ⟨hmarks, hretries⟩ := hcommit h.toTraffic (Or.inr (hacknowledged _ _ _))
    exact .works rfl (hbusy hs) rfl rfl hmarks hretries
  | route _ hs hack hsocket hack' hitem h =>
    obtain ⟨hmarks, hretries⟩ := hcommit h.toTraffic (Or.inl (Session.route_phase ..).symm)
    exact .works rfl (hbusy hs) rfl rfl hmarks hretries
  | endOne _ hs hack hsocket hack' hid h =>
    obtain ⟨hmarks, hretries⟩ := hcommit h.toTraffic (Or.inl (Session.endOne_phase ..).symm)
    exact .works rfl (hbusy hs) rfl rfl hmarks hretries

/-- A turn that ruins the session marks nothing. -/
theorem Ruin.pace {error : ConnectionError} {farewell : Option CloseFrame} {k : Nat}
    (h : a.Ruin sb error farewell k sb') (hfits : a.Fits sb) :
    a.Pace sb (a.giveUp (sb'.part k farewell) error) := by
  obtain ⟨-, ⟨news, -, htraffic⟩, -⟩ := h.traffic hfits.bound
  obtain ⟨exit, -, hpart⟩ := sb'.traffic_part k htraffic.bound farewell
  have hall := htraffic.trans hpart
  obtain ⟨hmarks, hretries⟩ := a.marks_giveUp (sb'.part k farewell) error
  exact .ends rfl (hmarks.trans hall.marks) (hretries.trans hall.retries)

/-- A loss marks that the policy is asked, unless the budget is used up. -/
theorem Loss.pace {error : ConnectionError} {acknowledged : Bool}
    (h : a.Loss sb error acknowledged sb') (hfits : a.Fits sb) :
    a.Pace sb (a.lose sb' error acknowledged) := by
  have hat := h.told
  obtain ⟨hrest, hsame⟩ := h.rest hfits.bound
  have hcur : sb'.isOutdated a.epoch = false := by
    rw [hrest]
    exact hfits.isOutdated hat
  have hsession : sb'.session = sb.session := by rw [hrest]
  have hsettings : sb'.settings = sb.settings := by rw [hrest]
  have hnow : sb'.now = sb.now := by rw [hrest]
  have hretries : sb'.retries = sb.retries := by rw [hrest]
  rcases Nat.lt_or_ge (if acknowledged then 0 else a.attempt) sb.settings.maxReconnects
    with hbudget | hbudget
  · have hbudget' := hbudget
    rw [← hsettings] at hbudget'
    rw [lose_eq hcur error rfl hbudget', hnow, hsettings, hretries]
    refine .retries rfl h.isBusy hbudget rfl rfl ?_ rfl
    have hsuspend : (sb'.session.suspend sb'.listening).phase = .connecting :=
      Session.suspend_phase ..
    have hphase : sb'.session.phase = .acknowledged ↔ acknowledged = true := by
      rw [hsession, hfits.acknowledged hat, h.isAcknowledged]
    have hnote {marks : List JournalEntry} (k : Nat)
        (hmarks : (sb'.withSession (sb'.session.suspend sb'.listening)).marks = marks) :
        ({ sb'.withSession (sb'.session.suspend sb'.listening) with
          retries := sb.retries + 1 }.note (.retrying k)).marks =
            ⟨sb.now, .retrying k⟩ :: marks := by
      rw [Switchboard.note_marks _ rfl, ← hmarks, ← hnow]
      exact congrArg (fun now => (⟨now, .retrying k⟩ : JournalEntry) ::
        (sb'.withSession (sb'.session.suspend sb'.listening)).marks)
        (Switchboard.withSession_now ..)
    cases hacked : acknowledged with
    | true =>
      have hp := hphase.2 hacked
      refine Or.inr ⟨rfl, hnote 0 ?_⟩
      rw [sb'.withSession_marks_begin (by rw [hp]; nofun) hsuspend, hp, hnow, hsame]
    | false =>
      -- a session that has started and is not acknowledged is connecting
      have hp : sb'.session.phase = .connecting := by
        have hstarted := hfits.started hat
        have hnot : sb'.session.phase ≠ .acknowledged := fun hp => by
          rw [hphase.1 hp] at hacked
          cases hacked
        rw [← hsession] at hstarted
        revert hstarted hnot
        cases sb'.session.phase with
        | connecting => exact fun _ _ => rfl
        | notStarted => exact fun hne => absurd rfl hne
        | acknowledged => exact fun _ hne => absurd rfl hne
      refine Or.inl ⟨rfl, hnote a.attempt ?_⟩
      rw [sb'.withSession_marks (Or.inl (hp.trans hsuspend.symm)), hsame]
  · rw [lose_of_exhausted hcur error (by rwa [hsettings])]
    refine .ends rfl ((sb'.commit_marks (Or.inr ?_)).trans hsame)
      ((sb'.commit_retries _).trans hretries)
    rw [Session.terminate_phase]
    nofun

/-- Every turn has its pace. -/
theorem Fits.pace (hfits : a.Fits sb) (ht : a.turn sb = some t) : a.Pace sb t := by
  cases hat : a.told with
  | true =>
    rw [turn_of_told_eq sb hat] at ht
    obtain rfl := Option.some.inj ht
    cases hsocket : a.socket? with
    | none =>
      rw [farewell_of_idle sb hsocket]
      exact .ends rfl rfl rfl
    | some k =>
      obtain ⟨link, hs, rfl⟩ := stage_of_socket? hsocket
      obtain ⟨news, hclose⟩ :=
        sb.traffic_close link.socket (hfits.bound link hs) .normalClosure "Normal Closure"
      rw [farewell_of_serving sb hs]
      exact .ends rfl hclose.marks hclose.retries
  | false =>
    cases verdict_of_turn hat (hfits.isOutdated hat) ht with
    | goesOn h => exact (hfits.move ht).pace_of_goesOn hat ht h
    | ruin h heq => exact heq ▸ h.pace hfits
    | loss h heq => exact heq ▸ h.pace hfits

end Agent

/-! ## Everything else -/

namespace Client

variable {c c' : Client} {e : Event}

/-- What marks no attempt, or begins a series of them, while time stands still. -/
inductive Lull (c c' : Client) : Prop
  | still (hmarks : c'.board.marks = c.board.marks) (hnow : c'.board.now = c.board.now)
      (hsettings : c'.board.settings = c.board.settings)
      (hagents : ∀ b ∈ c'.agents, b.told = false → b ∈ c.agents)
  | begins (htold : ∀ a ∈ c.agents, a.told = true)
      (hmarks : c'.board.marks = ⟨c.board.now, .moved .notStarted .connecting⟩ :: c.board.marks)
      (hnow : c'.board.now = c.board.now) (hsettings : c'.board.settings = c.board.settings)
      (hagents : ∀ b ∈ c'.agents, b.told = false → b.attempt = 0 ∧ b.stage = .ready)

theorem lull_of_step (hc : c.Coherent) (he : e.isTurn = false) (hpass : e ≠ .pass)
    (hstep : Step e c c') : Lull c c' := by
  have hsame {sb : Switchboard} (hmarks : sb.marks = c.board.marks)
      (hnow : sb.now = c.board.now) (hsettings : sb.settings = c.board.settings) :
      Lull c { c with board := sb } :=
    .still hmarks hnow hsettings fun b hb _ => hb
  cases hstep with
  | quiet hq =>
    refine .still ?_ hq.now hq.settings fun b hb _ => ?_
    · unfold Switchboard.marks
      rw [hq.journal]
    · rwa [hq.agents] at hb
  | touch => exact hsame rfl rfl rfl
  | launch _ hp params held =>
    have htold (a : Agent) (ha : a ∈ c.agents) : a.told = true := by
      by_contra hat
      exact (hc.agents a ha).started (Bool.eq_false_iff.2 hat) hp
    refine .begins htold ?_ (Switchboard.withSession_now ..) (Switchboard.withSession_settings ..)
      fun b hb hbt => ?_
    · have hbefore : c.board.session.phase ≠ .connecting := by
        rw [show c.board.session.phase = .notStarted from hp]
        nofun
      let sb : Switchboard :=
        { c.board with handshakes := c.board.handshakes ++ [Handshake.mk none held] }
      have hbegin : (sb.withSession (sb.session.start c.board.handshakes.length)).marks =
          ⟨c.board.now, .moved c.phase .connecting⟩ :: c.board.marks :=
        sb.withSession_marks_begin hbefore (Session.start_phase ..)
      rwa [hp] at hbegin
    · rcases List.mem_append.1 hb with hb | hb
      · rw [htold b hb] at hbt
        cases hbt
      · rw [List.mem_singleton.1 hb]
        exact ⟨rfl, rfl⟩
  | enlist =>
    exact hsame (Switchboard.withSession_marks { c.board with consumers := _ }
      (Or.inl (Session.subscribe_phase ..).symm)) (Switchboard.withSession_now ..)
      (Switchboard.withSession_settings ..)
  | refuse =>
    exact hsame (Switchboard.note_marks_of_not { c.board with consumers := _ } rfl) rfl rfl
  | withdraw =>
    rw [withdrawn_eq]
    exact hsame (Switchboard.withSession_marks { c.board with consumers := _ }
      (Or.inl (Session.withdraw_phase ..).symm)) (Switchboard.withSession_now ..)
      (Switchboard.withSession_settings ..)
  | halt hp =>
    refine .still ?_ (Switchboard.commit_now ..) (Switchboard.commit_settings ..)
      fun b hb hbt => ?_
    · rw [halted_board hp]
      refine c.board.commit_marks (Or.inr ?_)
      rw [Session.terminate_phase]
      nofun
    · rw [(told_of_halted hc hb).1] at hbt
      cases hbt
  | turn _ _ hturn =>
    rw [he] at hturn
    cases hturn
  | pass heq => exact absurd heq hpass

/-- Events but turns and the passing of time are chains of such steps. -/
theorem lull_induction {P : Client → Prop} (hc : c.Coherent) (he : e.isTurn = false)
    (hpass : e ≠ .pass) (hlull : ∀ c₁ c₂, P c₁ → Lull c₁ c₂ → P c₂) (h : P c) :
    P (c.perform e) := by
  have hall : (c.perform e).Coherent ∧ P (c.perform e) :=
    perform_induction (P := fun c' => c'.Coherent ∧ P c') (fun c₁ c₂ h₁ hstep =>
      ⟨h₁.1.step hstep, hlull c₁ c₂ h₁.2 (lull_of_step h₁.1 he hpass hstep)⟩) ⟨hc, h⟩
  exact hall.2

theorem launched_retries (c : Client) (params : Option Json.Members) (held : Bool) :
    (c.launched params held).board.retries = c.board.retries :=
  Switchboard.withSession_retries { c.board with handshakes := _ } _

theorem enlisted_retries (c : Client) (operation : Operation) :
    (c.enlisted operation).board.retries = c.board.retries :=
  Switchboard.withSession_retries { c.board with consumers := _ } _

theorem withdrawn_retries (c : Client) (n : Nat) (x : Consumer) :
    (c.withdrawn n x).board.retries = c.board.retries := by
  rw [withdrawn_eq]
  exact Switchboard.withSession_retries { c.board with consumers := _ } _

theorem retries_of_course (hcourse : Course e c c') (he : e.isTurn = false) :
    c'.board.retries = c.board.retries := by
  cases hcourse with
  | outside hout => exact hout.retries
  | touch | refuse | pass => rfl
  | launch he hp params held => exact c.launched_retries params held
  | enlist operation => exact c.enlisted_retries operation
  | launchFor operation hop hp params =>
    exact (enlisted_retries _ operation).trans (c.launched_retries params false)
  | withdraw => exact c.withdrawn_retries _ _
  | cancel => exact c.withdrawn_retries _ _
  | halt => exact Switchboard.commit_retries ..
  | turn hagents ht hturn => rw [he] at hturn; cases hturn

/-- Only agents ask the retry policy. -/
theorem retries_perform (c : Client) (he : e.isTurn = false) :
    (c.perform e).board.retries = c.board.retries := retries_of_course (c.course_perform e) he

end Client

end LiveQuery
