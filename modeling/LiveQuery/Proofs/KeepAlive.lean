import LiveQuery.Proofs.SocketLaws
import LiveQuery.Proofs.Budget
import LiveQuery.Proofs.Queue
import Mathlib.Data.List.DropRight

/-!
# The keep-alive of a socket

The record of a socket tells both of its timers. The ping timer runs since the socket opened, the
last sign of life, or the last ping, whichever came last (`KeepAlive.silentSince`). The pong
deadline runs since the first ping after the last sign of life (`KeepAlive.unansweredSince`). So
pings are sent when the socket was silent for the interval, and the connection is lost when the pong
is overdue, never before (`Client.KeepsAlive`, `Client.keepsAlive_run`). What else the client sends
has no part in it.

If time passes only when nothing is left to do (`Client.OnTime`), both happen at the very time. If
the two times are the same, no ping is sent.
-/

namespace LiveQuery

/-- Whatever belongs to an exit parts from the socket. -/
theorem Exit.isParting {k : Nat} {exit : List Notice} (h : Exit k exit) {notice : Notice}
    (hn : notice ∈ exit) : notice.isParting = true := by
  cases h with
  | dropped => rw [List.mem_singleton.1 hn]; rfl
  | closed =>
    rcases List.mem_cons.1 hn with rfl | hn
    · rfl
    · rw [List.mem_singleton.1 hn]
      rfl

namespace Notice

/-- Was a ping sent? -/
def isPing : Notice → Bool
  | .sent _ (.message (.ping _)) _ _ => true
  | _ => false

/-- Was something read that is a sign of life? Everything is but a close frame. -/
def isSign : Notice → Bool
  | .received _ item => !Incoming.closes item
  | _ => false

/-- Does a silence end, and the next one begin? -/
def breaksSilence : Notice → Bool
  | .opened _ => true
  | notice => notice.isSign || notice.isPing

variable {notice : Notice}

theorem isSign_of_isPing (h : notice.isPing = true) : notice.isSign = false := by
  cases notice with
  | sent => rfl
  | _ => cases h

theorem breaksSilence_of_isPing (h : notice.isPing = true) : notice.breaksSilence = true := by
  cases notice with
  | sent => exact h
  | _ => cases h

theorem breaksSilence_of_isSign (h : notice.isSign = true) : notice.breaksSilence = true := by
  cases notice with
  | received => exact (Bool.or_false _).trans h
  | _ => cases h

theorem quiet_of_breaksSilence (h : notice.breaksSilence = false) :
    notice.isSign = false ∧ notice.isPing = false := by
  cases notice with
  | opened => cases h
  | _ => exact Bool.or_eq_false_iff.1 h

/-- Only a ping that was sent is one. -/
theorem isPing_sent {k : Nat} {m : Message} {arrived failed : Bool} (hid : m.id?.isSome = true) :
    (Notice.sent k (.message m) arrived failed).isPing = false := by
  cases m with
  | ping => cases hid
  | _ => rfl

/-- No ping parts from a socket. -/
theorem isPing_of_isParting (h : notice.isParting = true) : notice.isPing = false := by
  cases notice with
  | sent k frame =>
    cases frame with
    | message => cases h
    | close => rfl
  | _ => rfl

/-- An answer is no ping, and no sign of life from the server. -/
theorem breaksSilence_answer {k : Nat} {item : Except DecodeError Incoming} {m : Message}
    {arrived failed : Bool} (h : Incoming.answer? item = some m) :
    (Notice.sent k (.message m) arrived failed).breaksSilence = false := by
  obtain ⟨payload, -, rfl⟩ := Incoming.answer?_eq_some.1 h
  rfl

end Notice

/-! ## What a record tells about the timers -/

namespace KeepAlive

variable (settings : Settings) (record : List JournalEntry) (e : JournalEntry)

/-- Since when a socket is silent: since it opened, or the last sign of life, or the last ping. -/
def silentSince : Option Nat :=
  (record.filter fun e => e.notice.breaksSilence).getLast?.map JournalEntry.time

/-- Since when a ping has no answer: since the first one after the last sign of life. -/
def unansweredSince : Option Nat :=
  ((record.rtakeWhile fun e => !e.notice.isSign).find? fun e => e.notice.isPing).map
    JournalEntry.time

/-- The timers of a socket. -/
def heartbeat : Heartbeat where
  interval := settings.pingInterval
  pongTimeout := settings.pongTimeout
  nextPing := (silentSince record).bind (Heartbeat.pingAfter settings.pingInterval)
  pongDue := (unansweredSince record).bind fun t => settings.pongTimeout.map (t + ·)

theorem silentSince_concat : silentSince (record ++ [e]) =
    if e.notice.breaksSilence then some e.time else silentSince record := by
  unfold silentSince
  cases h : e.notice.breaksSilence with
  | true => simp [List.filter_append, h]
  | false => simp [List.filter_append, h]

theorem unansweredSince_concat : unansweredSince (record ++ [e]) =
    if e.notice.isSign then none
    else unansweredSince record <|> if e.notice.isPing then some e.time else none := by
  unfold unansweredSince
  rw [List.rtakeWhile_concat]
  cases hsign : e.notice.isSign with
  | true => rfl
  | false =>
    cases hping : e.notice.isPing with
    | true => simp [List.find?_append, hping]
    | false => simp [List.find?_append, hping]

variable {settings record e}

/-- A sign of life starts the ping timer anew and clears the pong deadline. -/
theorem heartbeat_of_sign (h : e.notice.isSign = true) :
    heartbeat settings (record ++ [e]) = (heartbeat settings record).heard e.time := by
  unfold heartbeat
  rw [silentSince_concat, unansweredSince_concat, h, Notice.breaksSilence_of_isSign h]
  rfl

/-- A ping starts the ping timer anew. It sets the pong deadline unless there is one. -/
theorem heartbeat_of_ping (h : e.notice.isPing = true) :
    heartbeat settings (record ++ [e]) = (heartbeat settings record).pinged e.time := by
  unfold heartbeat Heartbeat.pinged
  rw [silentSince_concat, unansweredSince_concat, h, Notice.isSign_of_isPing h,
    Notice.breaksSilence_of_isPing h]
  cases unansweredSince record <;> cases settings.pongTimeout <;> rfl

/-- Nothing else matters on an open socket. -/
theorem heartbeat_of_quiet (h : e.notice.breaksSilence = false) :
    heartbeat settings (record ++ [e]) = heartbeat settings record := by
  obtain ⟨hsign, hping⟩ := Notice.quiet_of_breaksSilence h
  have hnone : unansweredSince (record ++ [e]) = unansweredSince record := by
    simp [unansweredSince_concat, hsign, hping]
  unfold heartbeat
  rw [silentSince_concat, hnone, h]
  rfl

/-- A silence that began goes on or gives way to the next one. -/
theorem isSome_silentSince (h : (silentSince record).isSome = true) (later : List JournalEntry) :
    (silentSince (record ++ later)).isSome = true := by
  induction later using List.reverseRecOn with
  | nil => rwa [List.append_nil]
  | append_singleton later e ih =>
    rw [← List.append_assoc, silentSince_concat]
    split
    · rfl
    · exact ih

theorem nextPing_eq_some {due : Nat} : (heartbeat settings record).nextPing = some due ↔
    0 < settings.pingInterval ∧
      ∃ since, silentSince record = some since ∧ since + settings.pingInterval = due := by
  unfold heartbeat Heartbeat.pingAfter
  by_cases hzero : settings.pingInterval = 0
  · simp [hzero]
  · simp [hzero, Nat.pos_of_ne_zero hzero, Option.bind_eq_some_iff]

theorem pongDue_eq_some {due : Nat} : (heartbeat settings record).pongDue = some due ↔
    ∃ t, unansweredSince record = some t ∧
      ∃ timeout, settings.pongTimeout = some timeout ∧ t + timeout = due := by
  simp [heartbeat, Option.bind_eq_some_iff]

/-- The next ping is due an interval after the silence began. -/
theorem nextPing_of_silence (hinterval : 0 < settings.pingInterval) {since : Nat}
    (h : silentSince record = some since) :
    (heartbeat settings record).nextPing = some (since + settings.pingInterval) :=
  nextPing_eq_some.2 ⟨hinterval, since, h, rfl⟩

/-- The pong is due when the first ping without an answer has waited for the timeout. -/
theorem pongDue_of_ping {t timeout : Nat} (h : unansweredSince record = some t)
    (htimeout : settings.pongTimeout = some timeout) :
    (heartbeat settings record).pongDue = some (t + timeout) :=
  pongDue_eq_some.2 ⟨t, h, timeout, htimeout, rfl⟩

theorem isDue_iff {now : Nat} {timer : Option Nat} :
    isDue now timer = true ↔ ∃ due, timer = some due ∧ due ≤ now := by
  cases timer <;> simp [isDue]

/-- When a ping is due. -/
theorem isDue_nextPing {now : Nat} : isDue now (heartbeat settings record).nextPing = true ↔
    0 < settings.pingInterval ∧
      ∃ since, silentSince record = some since ∧ since + settings.pingInterval ≤ now := by
  rw [isDue_iff]
  constructor
  · rintro ⟨due, hdue, hle⟩
    obtain ⟨hinterval, since, hsince, rfl⟩ := nextPing_eq_some.1 hdue
    exact ⟨hinterval, since, hsince, hle⟩
  · rintro ⟨hinterval, since, hsince, hle⟩
    exact ⟨_, nextPing_of_silence hinterval hsince, hle⟩

/-- When the pong is overdue. -/
theorem isDue_pongDue {now : Nat} : isDue now (heartbeat settings record).pongDue = true ↔
    ∃ t timeout, unansweredSince record = some t ∧ settings.pongTimeout = some timeout ∧
      t + timeout ≤ now := by
  rw [isDue_iff]
  constructor
  · rintro ⟨due, hdue, hle⟩
    obtain ⟨t, ht, timeout, htimeout, rfl⟩ := pongDue_eq_some.1 hdue
    exact ⟨t, timeout, ht, htimeout, hle⟩
  · rintro ⟨t, timeout, ht, htimeout, hle⟩
    exact ⟨_, pongDue_of_ping ht htimeout, hle⟩

end KeepAlive

/-! ## Timers that are not late -/

/-- Neither timer is over, though it may end now. -/
structure Heartbeat.Prompt (h : Heartbeat) (now : Nat) : Prop where
  ping : ∀ due, h.nextPing = some due → now ≤ due
  pong : ∀ due, h.pongDue = some due → now ≤ due

namespace Heartbeat.Prompt

variable {h : Heartbeat} {now : Nat}

theorem pingAfter {interval due : Nat} (h : Heartbeat.pingAfter interval now = some due) :
    now ≤ due := by
  unfold Heartbeat.pingAfter at h
  split at h
  · cases h
  · obtain rfl := Option.some.inj h
    exact Nat.le_add_right _ _

theorem start (interval : Nat) (pongTimeout : Option Nat) :
    (Heartbeat.start interval pongTimeout now).Prompt now := ⟨fun _ => pingAfter, nofun⟩

theorem heard (h : Heartbeat) : (h.heard now).Prompt now := ⟨fun _ => pingAfter, nofun⟩

theorem pinged (hprompt : h.Prompt now) : (h.pinged now).Prompt now := by
  refine ⟨fun _ => pingAfter, fun due hdue => ?_⟩
  cases hpong : h.pongDue with
  | some t =>
    unfold Heartbeat.pinged at hdue
    rw [hpong] at hdue
    obtain rfl := Option.some.inj hdue
    exact hprompt.pong _ hpong
  | none =>
    unfold Heartbeat.pinged at hdue
    rw [hpong] at hdue
    obtain ⟨timeout, -, rfl⟩ := Option.map_eq_some_iff.1 hdue
    exact Nat.le_add_right _ _

end Heartbeat.Prompt

namespace KeepAlive

variable {settings : Settings} {onTime : Prop} {record : List JournalEntry} {now : Nat}
  {news : List Notice}

/-- What happens now makes no timer late. -/
theorem prompt_concat (h : (heartbeat settings record).Prompt now) (notice : Notice) :
    (heartbeat settings (record ++ [⟨now, notice⟩])).Prompt now := by
  cases hsign : notice.isSign with
  | true =>
    rw [heartbeat_of_sign (e := ⟨now, notice⟩) hsign]
    exact .heard _
  | false =>
    cases hping : notice.isPing with
    | true =>
      rw [heartbeat_of_ping (e := ⟨now, notice⟩) hping]
      exact h.pinged
    | false =>
      -- the socket opens, or the timers stay
      cases hbreaks : notice.breaksSilence with
      | false =>
        rw [heartbeat_of_quiet (e := ⟨now, notice⟩) hbreaks]
        exact h
      | true =>
        refine ⟨fun due hdue => ?_, fun due hdue => ?_⟩
        · obtain ⟨-, since, hsince, rfl⟩ := nextPing_eq_some.1 hdue
          rw [silentSince_concat, hbreaks] at hsince
          obtain rfl := Option.some.inj hsince
          exact Nat.le_add_right _ _
        · apply h.pong
          rw [pongDue_eq_some] at hdue ⊢
          rw [unansweredSince_concat, hsign, hping] at hdue
          simpa using hdue

/-- Pings are sent when they are due and the pong is not overdue, and nothing happens late if nobody
tarries. -/
def Kept (settings : Settings) (onTime : Prop) (record : List JournalEntry) : Prop :=
  ∀ older e newer, record = older ++ e :: newer →
    (e.notice.isPing = true → isDue e.time (heartbeat settings older).nextPing = true ∧
      isDue e.time (heartbeat settings older).pongDue = false) ∧
    (onTime → (heartbeat settings older).Prompt e.time)

namespace Kept

theorem nil : Kept settings onTime [] := by
  intro older e newer h
  simp at h

theorem concat {e : JournalEntry} (h : Kept settings onTime record)
    (hping : e.notice.isPing = true → isDue e.time (heartbeat settings record).nextPing = true ∧
      isDue e.time (heartbeat settings record).pongDue = false)
    (hprompt : onTime → (heartbeat settings record).Prompt e.time) :
    Kept settings onTime (record ++ [e]) := by
  intro older e' newer hsplit
  rcases List.eq_nil_or_concat' newer with rfl | ⟨newer, last, rfl⟩
  · obtain ⟨rfl, hlast⟩ := List.append_inj' hsplit rfl
    obtain rfl := List.singleton_inj.1 hlast
    exact ⟨hping, hprompt⟩
  · rw [← List.cons_append, ← List.append_assoc] at hsplit
    exact h older e' newer (List.append_inj' hsplit rfl).1

/-- Without pings there is nothing but the time to keep. -/
theorem append (h : Kept settings onTime record)
    (hprompt : onTime → (heartbeat settings record).Prompt now)
    (hnews : ∀ notice ∈ news, notice.isPing = false) :
    Kept settings onTime (record ++ news.map (JournalEntry.mk now)) := by
  induction news generalizing record with
  | nil => rwa [List.map_nil, List.append_nil]
  | cons notice news ih =>
    have hquiet := hnews notice (List.mem_cons_self ..)
    have hfirst : Kept settings onTime (record ++ [⟨now, notice⟩]) := by
      apply h.concat
      · intro hping
        rw [hquiet] at hping
        cases hping
      · exact hprompt
    have hrest := ih hfirst (fun hon => prompt_concat (hprompt hon) notice)
      fun n hn => hnews n (List.mem_cons_of_mem _ hn)
    rwa [List.append_assoc] at hrest

end Kept

end KeepAlive

/-! ## Every episode keeps the timers -/

/-- The agent has to wait only if none of its timers is over. -/
theorem Agent.calm_of_waits {a : Agent} {sb : Switchboard} {link : Link}
    (hs : a.stage = .serving link) (ht : a.turn sb = none) : link.isCalm sb.now = true := by
  rw [turn_of_serving hs] at ht
  obtain ⟨-, hack, hpong, hping, -⟩ := waits_of_serveTurn ht
  exact Link.isCalm_iff.2 ⟨hack, hpong, hping⟩

namespace Client

open KeepAlive

variable {c : Client} {e : Event} {settings : Settings} {onTime : Prop}

/-- No agent lets a timer of its socket pass. -/
def Prompt (c : Client) : Prop :=
  ∀ a ∈ c.agents, ∀ link, a.link? = some link → link.heartbeat.Prompt c.board.now

/-- The timers of a socket in use are those that its record tells, and they were kept. -/
structure Timed (settings : Settings) (onTime : Prop) (link : Link)
    (record : List JournalEntry) : Prop where
  heartbeat : link.heartbeat = heartbeat settings record
  began : (silentSince record).isSome = true
  kept : Kept settings onTime record

namespace Timed

variable {link : Link} {record : List JournalEntry} {k now : Nat}

/-- A ping is sent. -/
theorem pings (h : Timed settings onTime link record)
    (hprompt : onTime → link.heartbeat.Prompt now)
    (hpong : isDue now link.heartbeat.pongDue = false)
    (hping : isDue now link.heartbeat.nextPing = true) {notice : Notice}
    (hnotice : notice.isPing = true) :
    Timed settings onTime { link with heartbeat := link.heartbeat.pinged now }
      (record ++ [⟨now, notice⟩]) where
  heartbeat := by rw [h.heartbeat, heartbeat_of_ping (e := ⟨now, notice⟩) hnotice]
  began := isSome_silentSince h.began _
  kept := by
    rw [h.heartbeat] at hprompt hpong hping
    exact h.kept.concat (fun _ => ⟨hping, hpong⟩) hprompt

/-- A message is sent that is no ping. -/
theorem sends (h : Timed settings onTime link record)
    (hprompt : onTime → link.heartbeat.Prompt now) {notice : Notice}
    (hnotice : notice.breaksSilence = false) :
    Timed settings onTime link (record ++ [⟨now, notice⟩]) where
  heartbeat := h.heartbeat.trans (heartbeat_of_quiet (e := ⟨now, notice⟩) hnotice).symm
  began := isSome_silentSince h.began _
  kept := by
    rw [h.heartbeat] at hprompt
    apply h.kept.concat
    · intro hping
      rw [(Notice.quiet_of_breaksSilence hnotice).2] at hping
      cases hping
    · exact hprompt

/-- A sign of life is read. -/
theorem reads (h : Timed settings onTime link record)
    (hprompt : onTime → link.heartbeat.Prompt now) {item : Except DecodeError Incoming}
    (hitem : Incoming.closes item = false) :
    Timed settings onTime (link.after now item) (record ++ [⟨now, .received k item⟩]) where
  heartbeat := by
    have hsign : (Notice.received k item).isSign = true :=
      congrArg (fun b => !b) hitem
    rw [heartbeat_of_sign (e := ⟨now, .received k item⟩) hsign, ← h.heartbeat]
    rfl
  began := isSome_silentSince h.began _
  kept := by
    rw [h.heartbeat] at hprompt
    exact h.kept.concat nofun hprompt

/-- A sign of life is read, and answered if it is a ping. -/
theorem hears (h : Timed settings onTime link record)
    (hprompt : onTime → link.heartbeat.Prompt now) {item : Except DecodeError Incoming}
    (hitem : Incoming.closes item = false) (arrived failed : Bool) :
    Timed settings onTime (link.after now item)
      (record ++ (.received k item :: (Incoming.answer? item).toList.map fun m =>
        Notice.sent k (.message m) arrived failed).map (JournalEntry.mk now)) := by
  have hread := h.reads (k := k) hprompt hitem
  cases hanswer : Incoming.answer? item with
  | none => exact hread
  | some m =>
    have hlate : onTime → (link.after now item).heartbeat.Prompt now := fun _ => .heard _
    have hquiet : (Notice.sent k (.message m) arrived failed).breaksSilence = false :=
      Notice.breaksSilence_answer hanswer
    have hanswered := hread.sends hlate hquiet
    rwa [List.append_assoc] at hanswered

/-- The socket is left. -/
theorem leaves (h : Timed settings onTime link record) {sb : Switchboard}
    (hprompt : onTime → link.heartbeat.Prompt sb.now) {last exit : List Notice}
    (hlast : Agent.LastWord sb k link last) (hexit : Exit k exit) :
    Kept settings onTime (record ++ (last ++ exit).map (JournalEntry.mk sb.now)) := by
  have hexits (notice : Notice) (hn : notice ∈ exit) :=
    Notice.isPing_of_isParting (hexit.isParting hn)
  have hlate := hprompt
  rw [h.heartbeat] at hlate
  -- the last word is no ping, or one that was due
  have hquiet (hlast : ∀ notice ∈ last, notice.isPing = false) :
      Kept settings onTime (record ++ (last ++ exit).map (JournalEntry.mk sb.now)) := by
    apply h.kept.append hlate
    intro notice hnotice
    rcases List.mem_append.1 hnotice with hn | hn
    · exact hlast notice hn
    · exact hexits notice hn
  cases hlast with
  | none | heard => exact hquiet (by simp [Notice.isPing])
  | unanswered hcalm hanswer =>
    apply hquiet
    intro notice hnotice
    rcases List.mem_cons.1 hnotice with rfl | hnotice
    · rfl
    · rw [List.mem_singleton.1 hnotice]
      exact (Notice.quiet_of_breaksSilence (Notice.breaksSilence_answer hanswer)).2
  | unpinged hack hpong hping =>
    rename_i arrived
    have hsent : (Notice.sent k (.message (.ping sb.settings.pingPayload)) arrived true).isPing =
        true := rfl
    have hpinged := h.pings hprompt hpong hping hsent
    have hall := hpinged.kept.append (fun hon => prompt_concat (hlate hon) _) hexits
    rwa [List.append_assoc] at hall

end Timed

/-- Every episode keeps the timers. -/
theorem lawful_timers (hc : c.Coherent) (hq : c.Queued) (hsettings : c.board.settings = settings)
    (hprompt : onTime → c.Prompt) :
    Lawful (fun _ => Timed settings onTime) (fun _ => Kept settings onTime) c := by
  intro a ha k link'? news h hbefore
  generalize c.board.record k = record at hbefore ⊢
  cases hlink? : a.link? with
  | none =>
    rw [hlink?] at h hbefore
    obtain rfl : record = [] := hbefore
    have hopens (hnews : ∀ notice ∈ news, notice.isPing = false) :
        Kept settings onTime ([] ++ news.map (JournalEntry.mk c.board.now)) :=
      Kept.nil.append (fun _ => ⟨nofun, nofun⟩) hnews
    cases h with
    | greets =>
      refine ⟨?_, rfl, hopens (by simp [Notice.isPing])⟩
      rw [hsettings]
      rfl
    | snubbed => exact hopens (by simp [Notice.isPing])
  | some link =>
    have hlate (hon : onTime) := hprompt hon a ha link hlink?
    rw [hlink?] at h hbefore
    obtain ⟨-, htimed⟩ := hbefore
    cases h with
    | pings hat hack hpong hping => exact htimed.pings hlate hpong hping rfl
    | sends hat hcalm hqueue =>
      have hid := named_of_outgoing hc hq hqueue (List.mem_cons_self ..)
      exact htimed.sends hlate (Notice.isPing_sent hid)
    | hears hat hcalm hitem => exact htimed.hears hlate hitem _ false
    | leaves hlast hexit => exact htimed.leaves hlate hlast hexit

/-! ## Nobody tarries -/

/-- Only when a millisecond passes the clock moves. -/
theorem now_perform (hc : c.Coherent) (hpass : e ≠ .pass) :
    (c.perform e).board.now = c.board.now := by
  cases he : e.isTurn with
  | true =>
    rcases c.perform_cases he with heq | ⟨pre, a, post, o, board, hagents, ht, heq⟩
    · rw [heq]
    · rw [heq]
      exact ((hc.agents a (mem_of_split hagents)).move ht).clock.1
  | false =>
    refine lull_induction (P := fun c' => c'.board.now = c.board.now) hc he hpass
      (fun c₁ c₂ h₁ hlull => ?_) rfl
    cases hlull with
    | still _ hnow | begins _ _ hnow => exact hnow.trans h₁

/-- Something that agents see to in time: every episode leaves the link so, and if nothing is due
on a link, it stays so for another millisecond. -/
structure Minded (P : Link → Nat → Prop) : Prop where
  episode {a : Agent} {sb : Switchboard} {k : Nat} {link? : Option Link} {link' : Link}
    {news : List Notice} (h : a.Episode sb k link? news (some link'))
    (hbefore : ∀ link, link? = some link → P link sb.now) : P link' sb.now
  calm {link : Link} {now : Nat} (h : link.isCalm now = true) : P link (now + 1)

namespace Minded

variable {P : Link → Nat → Prop}

/-- If all agents have to wait, there is some time left. -/
theorem settled (hP : Minded P) (hsettled : c.isSettled = true) {a : Agent} (ha : a ∈ c.agents)
    {link : Link} (hlink : a.link? = some link) : P link (c.board.now + 1) :=
  hP.calm (Agent.calm_of_waits (Agent.link?_eq_some.1 hlink) (isSettled_iff.1 hsettled a ha))

theorem turn (hP : Minded P)
    (h : ∀ a ∈ c.agents, ∀ link, a.link? = some link → P link c.board.now) (hc : c.Coherent)
    {pre post : List Agent} {a : Agent} {t : Turn} (hagents : c.agents = pre ++ a :: post)
    (ht : a.turn c.board = some t) :
    ∀ b ∈ pre ++ (t.1.toList ++ post), ∀ link, b.link? = some link → P link t.2.now := by
  have hmem := mem_of_split hagents
  have hfits := hc.agents a hmem
  intro b hb link hlink
  rw [show t.2.now = c.board.now from (hfits.move ht).clock.1]
  rcases mem_turned.1 hb with hb | hb
  · exact h b (mem_of_other hagents hb) link hlink
  · have hnext : t.1.bind Agent.link? = some link := by
      rw [hb]
      exact hlink
    cases hfits.deed ht with
    | apart _ hlink' =>
      rw [hnext] at hlink'
      cases hlink'
    | episode _ hepisode =>
      rw [hnext] at hepisode
      exact hP.episode hepisode (h a hmem)

theorem perform (hP : Minded P)
    (h : ∀ a ∈ c.agents, ∀ link, a.link? = some link → P link c.board.now) (hc : c.Coherent)
    (e : Event) (htime : (e matches .pass) = true → c.isSettled = true) :
    ∀ a ∈ (c.perform e).agents, ∀ link, a.link? = some link → P link (c.perform e).board.now := by
  cases he : e.isTurn with
  | true =>
    rcases c.perform_cases he with heq | ⟨pre, a, post, o, board, hagents, ht, heq⟩
    · rwa [heq]
    · rw [heq]
      exact hP.turn h hc hagents ht
  | false =>
    by_cases hpass : e = .pass
    · subst hpass
      exact fun a ha link hlink => hP.settled (htime rfl) ha hlink
    · -- the clock stands still, and whoever has a socket had it before
      intro b hb link hlink
      obtain ⟨a, ha, halink, -⟩ := (c.aside_perform he).links b hb link hlink
      rw [now_perform hc hpass]
      exact h a ha link halink

end Minded

theorem OnTime.of_append {es es' : List Event} (h : c.OnTime (es ++ es')) :
    c.OnTime es ∧ (c.run es).OnTime es' := by
  induction es generalizing c with
  | nil => exact ⟨trivial, h⟩
  | cons e es ih =>
    obtain ⟨hfirst, hrest⟩ := h
    exact ⟨⟨hfirst, (ih hrest).1⟩, (ih hrest).2⟩

/-- What agents see to in time is so on every socket in use if nobody tarries. -/
theorem minded_run {P : Link → Nat → Prop} (hP : Minded P) (settings : Settings)
    (transport : Transport) {newId : Nat → String} (hid : Function.Injective newId)
    {es : List Event} (htime : (create settings transport newId).OnTime es) :
    ∀ a ∈ ((create settings transport newId).run es).agents, ∀ link, a.link? = some link →
      P link ((create settings transport newId).run es).board.now := by
  induction es using List.reverseRecOn with
  | nil => exact fun a ha => absurd ha List.not_mem_nil
  | append_singleton es e ih =>
    obtain ⟨hbefore, hlast⟩ := htime.of_append
    rw [run_append]
    exact hP.perform (ih hbefore) (coherent_run settings transport hid es) e hlast.1

/-- Agents see to the timers in time. -/
theorem minded_heartbeat : Minded fun link now => link.heartbeat.Prompt now where
  episode h hbefore := by
    cases h with
    | greets => exact .start _ _
    | pings => exact (hbefore _ rfl).pinged
    | sends => exact hbefore _ rfl
    | hears => exact .heard _
  calm h := by
    obtain ⟨-, hpong, hping⟩ := Link.isCalm_iff.1 h
    constructor
    · intro due hdue
      rw [hdue] at hping
      exact Nat.lt_of_not_le (of_decide_eq_false hping)
    · intro due hdue
      rw [hdue] at hpong
      exact Nat.lt_of_not_le (of_decide_eq_false hpong)

theorem prompt_run (settings : Settings) (transport : Transport) {newId : Nat → String}
    (hid : Function.Injective newId) {es : List Event}
    (htime : (create settings transport newId).OnTime es) :
    ((create settings transport newId).run es).Prompt :=
  minded_run minded_heartbeat settings transport hid htime

/-- The timers of all sockets are kept in every run. -/
theorem timers_run (settings : Settings) (transport : Transport) {newId : Nat → String}
    (hid : Function.Injective newId) (es : List Event) {onTime : Prop}
    (htime : onTime → (create settings transport newId).OnTime es) :
    ((create settings transport newId).run es).Recorded (fun _ => Timed settings onTime)
      fun _ => Kept settings onTime := by
  apply recorded_run settings transport hid es
  rintro es' ⟨later, rfl⟩
  apply lawful_timers (coherent_run settings transport hid es')
    (queued_run settings transport hid es')
  · exact (metered_run settings transport hid es' id).2.2
  · intro hon
    exact prompt_run settings transport hid (htime hon).of_append.1

/-! ## The keep-alive at work -/

/-- A ping is what a turn adds to the record first, if one is due. -/
theorem record_ping (a : Agent) (sb : Switchboard) {link : Link}
    (hbound : link.socket < sb.lines.length) : ∃ arrived failed rest,
    (a.ping sb link).2.record link.socket = sb.record link.socket ++
      ⟨sb.now, .sent link.socket (.message (.ping sb.settings.pingPayload)) arrived failed⟩ ::
        rest := by
  obtain ⟨arrived, hsent⟩ :=
    sb.exchange_send link.socket hbound (.message (.ping sb.settings.pingPayload))
  have hrecord := hsent.toTraffic.record
  unfold Agent.ping
  cases hsend : sb.send link.socket (.message (.ping sb.settings.pingPayload)) with
  | mk failure sb₁ =>
    rw [hsend] at hsent hrecord
    cases failure with
    | none => exact ⟨arrived, false, [], hrecord⟩
    | some e =>
      obtain ⟨seen, hdrop⟩ := sb₁.traffic_drop link.socket hsent.bound
      obtain ⟨-, -, hlose⟩ := a.record_lose (sb₁.drop link.socket)
        (.sendFailed MessageKind.ping.name (.transport e)) link.acknowledged
      refine ⟨arrived, true, [⟨sb₁.now, .dropped link.socket seen⟩], ?_⟩
      refine (hlose _).trans ?_
      rw [hdrop.record, hrecord, List.append_assoc]
      rfl

/-- The keep-alive of the sockets of a client. -/
structure KeepsAlive (settings : Settings) (onTime : Prop) (c : Client) : Prop where
  /-- The timers of a socket in use: the next ping is due when the silence has lasted for the
  interval, and the pong when the first ping without an answer has waited for the timeout. There is
  no such deadline without a timeout, or without a ping. -/
  timers : ∀ a ∈ c.agents, ∀ link, a.link? = some link →
    ∃ since, silentSince (c.board.record link.socket) = some since ∧
      link.heartbeat.nextPing = some (since + settings.pingInterval) ∧
      link.heartbeat.pongDue = (unansweredSince (c.board.record link.socket)).bind fun t =>
        settings.pongTimeout.map (t + ·)
  /-- Whenever a ping was sent, the silence had lasted for the interval, and no pong was overdue. -/
  pings : ∀ k older e newer, c.board.record k = older ++ e :: newer → e.notice.isPing = true →
    ∃ since, silentSince older = some since ∧ since + settings.pingInterval ≤ e.time ∧
      (onTime → e.time = since + settings.pingInterval) ∧
      ∀ t timeout, unansweredSince older = some t → settings.pongTimeout = some timeout →
        e.time < t + timeout
  /-- A ping that is due is sent, unless the acknowledgment or the pong is overdue. -/
  pinged : ∀ place a link, c.agents[place]? = some a → a.told = false → a.link? = some link →
    isDue c.board.now link.waitingFor = false →
    ∀ since, silentSince (c.board.record link.socket) = some since →
    since + settings.pingInterval ≤ c.board.now →
    (∀ t timeout, unansweredSince (c.board.record link.socket) = some t →
      settings.pongTimeout = some timeout → c.board.now < t + timeout) →
    ∃ arrived failed rest, (c.perform (.turn place)).board.record link.socket =
      c.board.record link.socket ++ ⟨c.board.now, .sent link.socket
        (.message (.ping settings.pingPayload)) arrived failed⟩ :: rest
  /-- A socket is lost over a pong when the first ping without an answer has waited for the
  timeout. -/
  lost : ∀ a ∈ c.agents, ∀ acknowledged sb, a.Loss c.board .pongTimeout acknowledged sb →
    ∃ link t timeout, a.link? = some link ∧
      unansweredSince (c.board.record link.socket) = some t ∧
      settings.pongTimeout = some timeout ∧ t + timeout ≤ c.board.now ∧
      (onTime → c.board.now = t + timeout)
  /-- A socket on which the pong is overdue is lost, with no further ping, unless the
  acknowledgment is overdue. -/
  loses : ∀ place a link, c.agents[place]? = some a → a.told = false → a.link? = some link →
    isDue c.board.now link.waitingFor = false →
    ∀ t timeout, unansweredSince (c.board.record link.socket) = some t →
    settings.pongTimeout = some timeout → t + timeout ≤ c.board.now →
    a.Loss c.board .pongTimeout link.acknowledged (c.board.drop link.socket) ∧
      ∃ seen, (c.perform (.turn place)).board.record link.socket =
        c.board.record link.socket ++ [⟨c.board.now, .dropped link.socket seen⟩]
  /-- If nobody tarries nothing happens on a socket after either time. -/
  timely : onTime → ∀ k older e newer, c.board.record k = older ++ e :: newer →
    (∀ since, silentSince older = some since → e.time ≤ since + settings.pingInterval) ∧
    ∀ t timeout, unansweredSince older = some t → settings.pongTimeout = some timeout →
      e.time ≤ t + timeout
  /-- Nor does the time pass over a socket in use. -/
  waits : onTime → ∀ a ∈ c.agents, ∀ link, a.link? = some link →
    (∀ since, silentSince (c.board.record link.socket) = some since →
      c.board.now ≤ since + settings.pingInterval ∧
      (c.isSettled = true → c.board.now < since + settings.pingInterval)) ∧
    ∀ t timeout, unansweredSince (c.board.record link.socket) = some t →
      settings.pongTimeout = some timeout → c.board.now ≤ t + timeout ∧
        (c.isSettled = true → c.board.now < t + timeout)

/-- The next turn of an agent sends a ping if one is due and nothing is overdue. -/
theorem turn_of_pingDue {a : Agent} {sb : Switchboard} {link : Link} (hat : a.told = false)
    (hs : a.stage = .serving link) (hack : isDue sb.now link.waitingFor = false)
    (hpong : isDue sb.now link.heartbeat.pongDue = false)
    (hping : isDue sb.now link.heartbeat.nextPing = true) :
    a.turn sb = some (a.ping sb link) := by
  rw [Agent.turn_of_serving hs]
  unfold Agent.serveTurn
  rw [hat, hack, hpong, hping]
  rfl

/-- The timers of every socket were kept, whether it is in use or not. -/
theorem Recorded.kept
    (h : c.Recorded (fun _ => Timed settings onTime) fun _ => Kept settings onTime) (k : Nat) :
    Kept settings onTime (c.board.record k) :=
  h.every (Q := fun _ => Kept settings onTime) (fun _ => .nil) (fun _ _ _ hlive => hlive.kept)
    (fun _ _ hpast => hpast) k

/-! ### From the record of one socket -/

section Recorded

variable (h : c.Recorded (fun _ => Timed settings onTime) fun _ => Kept settings onTime) {a : Agent}
  {link : Link}

include h

theorem Recorded.timers (hinterval : 0 < settings.pingInterval) (ha : a ∈ c.agents)
    (hlink : a.link? = some link) :
    ∃ since, silentSince (c.board.record link.socket) = some since ∧
      link.heartbeat.nextPing = some (since + settings.pingInterval) ∧
      link.heartbeat.pongDue = (unansweredSince (c.board.record link.socket)).bind fun t =>
        settings.pongTimeout.map (t + ·) := by
  have htimed := h.live a ha link hlink
  obtain ⟨since, hsince⟩ := Option.isSome_iff_exists.1 htimed.began
  refine ⟨since, hsince, ?_, ?_⟩
  · rw [htimed.heartbeat]
    exact nextPing_of_silence hinterval hsince
  · rw [htimed.heartbeat]
    rfl

/-- A ping is sent when its timer is due. -/
theorem Recorded.pings (hinterval : 0 < settings.pingInterval) {k : Nat}
    {older newer : List JournalEntry} {e : JournalEntry}
    (hsplit : c.board.record k = older ++ e :: newer) (hping : e.notice.isPing = true) :
    ∃ since, silentSince older = some since ∧ since + settings.pingInterval ≤ e.time ∧
      (onTime → e.time = since + settings.pingInterval) ∧
      ∀ t timeout, unansweredSince older = some t → settings.pongTimeout = some timeout →
        e.time < t + timeout := by
  obtain ⟨hwas, hkept⟩ := h.kept k older e newer hsplit
  obtain ⟨hnow, hpong⟩ := hwas hping
  obtain ⟨-, since, hsince, hle⟩ := isDue_nextPing.1 hnow
  refine ⟨since, hsince, hle, fun hon => ?_, fun t timeout ht htimeout => ?_⟩
  · -- whoever does not tarry sends it no later either
    have hlate := (hkept hon).ping _ (nextPing_of_silence hinterval hsince)
    exact le_antisymm hlate hle
  · apply Nat.lt_of_not_le
    intro hover
    rw [isDue_pongDue.2 ⟨t, timeout, ht, htimeout, hover⟩] at hpong
    cases hpong

/-- A ping that is due is sent in the next turn. -/
theorem Recorded.pinged (hinterval : 0 < settings.pingInterval) (hc : c.Coherent)
    (hsettings : c.board.settings = settings) {place : Nat} (ha : c.agents[place]? = some a)
    (hat : a.told = false) (hlink : a.link? = some link)
    (hack : isDue c.board.now link.waitingFor = false) {since : Nat}
    (hsince : silentSince (c.board.record link.socket) = some since)
    (hle : since + settings.pingInterval ≤ c.board.now)
    (hearly : ∀ t timeout, unansweredSince (c.board.record link.socket) = some t →
      settings.pongTimeout = some timeout → c.board.now < t + timeout) :
    ∃ arrived failed rest, (c.perform (.turn place)).board.record link.socket =
      c.board.record link.socket ++ ⟨c.board.now, .sent link.socket
        (.message (.ping settings.pingPayload)) arrived failed⟩ :: rest := by
  have hmem := List.mem_of_getElem? ha
  have hs := Agent.link?_eq_some.1 hlink
  have hping : isDue c.board.now link.heartbeat.nextPing = true := by
    rw [(h.live a hmem link hlink).heartbeat]
    exact isDue_nextPing.2 ⟨hinterval, since, hsince, hle⟩
  have hpong : isDue c.board.now link.heartbeat.pongDue = false := by
    rw [(h.live a hmem link hlink).heartbeat]
    apply Bool.eq_false_iff.2
    intro hover
    obtain ⟨t, timeout, ht, htimeout, hover⟩ := isDue_pongDue.1 hover
    exact absurd hover (Nat.not_le.2 (hearly t timeout ht htimeout))
  rw [perform_turn_of ha (turn_of_pingDue hat hs hack hpong hping), ← hsettings]
  exact record_ping a c.board ((hc.agents a hmem).bound link hs)

/-- The timer that runs out over a pong is the one that the record tells. -/
theorem Recorded.lost (hprompt : onTime → c.Prompt) (ha : a ∈ c.agents) {acknowledged : Bool}
    {sb : Switchboard} (hloss : a.Loss c.board .pongTimeout acknowledged sb) :
    ∃ link t timeout, a.link? = some link ∧
      unansweredSince (c.board.record link.socket) = some t ∧
      settings.pongTimeout = some timeout ∧ t + timeout ≤ c.board.now ∧
      (onTime → c.board.now = t + timeout) := by
  cases hloss with
  | pongTimeout hat hs hack hpong =>
    rename_i link
    have hlink := Agent.link?_of_serving hs
    have hlate (hon : onTime) := hprompt hon a ha link hlink
    rw [(h.live a ha link hlink).heartbeat] at hpong hlate
    obtain ⟨t, timeout, ht, htimeout, hle⟩ := isDue_pongDue.1 hpong
    refine ⟨link, t, timeout, hlink, ht, htimeout, hle, fun hon => ?_⟩
    exact le_antisymm ((hlate hon).pong _ (pongDue_of_ping ht htimeout)) hle

/-- A socket on which the pong is overdue is dropped in the next turn. -/
theorem Recorded.loses (hc : c.Coherent) {place : Nat} (ha : c.agents[place]? = some a)
    (hat : a.told = false) (hlink : a.link? = some link)
    (hack : isDue c.board.now link.waitingFor = false) {t timeout : Nat}
    (ht : unansweredSince (c.board.record link.socket) = some t)
    (htimeout : settings.pongTimeout = some timeout) (hle : t + timeout ≤ c.board.now) :
    a.Loss c.board .pongTimeout link.acknowledged (c.board.drop link.socket) ∧
      ∃ seen, (c.perform (.turn place)).board.record link.socket =
        c.board.record link.socket ++ [⟨c.board.now, .dropped link.socket seen⟩] := by
  have hmem := List.mem_of_getElem? ha
  have hs := Agent.link?_eq_some.1 hlink
  have hpong : isDue c.board.now link.heartbeat.pongDue = true := by
    rw [(h.live a hmem link hlink).heartbeat]
    exact isDue_pongDue.2 ⟨t, timeout, ht, htimeout, hle⟩
  have hloss : a.Loss c.board .pongTimeout link.acknowledged (c.board.drop link.socket) :=
    .pongTimeout hat hs hack hpong
  obtain ⟨seen, hdrop⟩ := c.board.traffic_drop link.socket ((hc.agents a hmem).bound link hs)
  refine ⟨hloss, seen, ?_⟩
  rw [perform_turn_of ha (Agent.turn_of_loss hloss)]
  exact ((a.record_lose _ _ _).2.2 _).trans hdrop.record

/-- If nobody tarries nothing happens on a socket after either time. -/
theorem Recorded.timely (hinterval : 0 < settings.pingInterval) (hon : onTime) {k : Nat}
    {older newer : List JournalEntry} {e : JournalEntry}
    (hsplit : c.board.record k = older ++ e :: newer) :
    (∀ since, silentSince older = some since → e.time ≤ since + settings.pingInterval) ∧
      ∀ t timeout, unansweredSince older = some t → settings.pongTimeout = some timeout →
        e.time ≤ t + timeout := by
  have hkept := (h.kept k older e newer hsplit).2 hon
  constructor
  · intro since hsince
    exact hkept.ping _ (nextPing_of_silence hinterval hsince)
  · intro t timeout ht htimeout
    exact hkept.pong _ (pongDue_of_ping ht htimeout)

/-- Nor does the time pass over a socket in use. -/
theorem Recorded.waits (hinterval : 0 < settings.pingInterval) (hprompt : c.Prompt)
    (ha : a ∈ c.agents) (hlink : a.link? = some link) :
    (∀ since, silentSince (c.board.record link.socket) = some since →
      c.board.now ≤ since + settings.pingInterval ∧
      (c.isSettled = true → c.board.now < since + settings.pingInterval)) ∧
    ∀ t timeout, unansweredSince (c.board.record link.socket) = some t →
      settings.pongTimeout = some timeout → c.board.now ≤ t + timeout ∧
        (c.isSettled = true → c.board.now < t + timeout) := by
  have hlate := hprompt a ha link hlink
  -- a settled client has nothing due, so that a millisecond may pass
  have hearly (hsettled : c.isSettled = true) := minded_heartbeat.settled hsettled ha hlink
  rw [(h.live a ha link hlink).heartbeat] at hlate hearly
  constructor
  · intro since hsince
    have hnext := nextPing_of_silence hinterval hsince
    exact ⟨hlate.ping _ hnext, fun hsettled => (hearly hsettled).ping _ hnext⟩
  · intro t timeout ht htimeout
    have hdue := pongDue_of_ping ht htimeout
    exact ⟨hlate.pong _ hdue, fun hsettled => (hearly hsettled).pong _ hdue⟩

end Recorded

/-- **Keep-alive timing.** In every run pings are sent after silences of the interval, and a
connection is lost over a pong when the first ping without an answer has waited for the timeout; at
these very times if nobody tarries. -/
theorem keepsAlive_run (settings : Settings) (hinterval : 0 < settings.pingInterval)
    (transport : Transport) {newId : Nat → String} (hid : Function.Injective newId)
    (es : List Event) :
    KeepsAlive settings ((create settings transport newId).OnTime es)
      ((create settings transport newId).run es) := by
  have hc := coherent_run settings transport hid es
  have hsettings := (metered_run settings transport hid es id).2.2
  have hprompt (hon : (create settings transport newId).OnTime es) :=
    prompt_run settings transport hid hon
  have htimers := timers_run settings transport hid es id
  constructor
  case timers => exact fun a ha link => htimers.timers hinterval ha
  case pings => exact fun k older e newer => htimers.pings hinterval
  case pinged =>
    intro place a link ha hat hlink hack since
    exact htimers.pinged hinterval hc hsettings ha hat hlink hack
  case lost => exact fun a ha acknowledged sb => htimers.lost hprompt ha
  case loses =>
    intro place a link ha hat hlink hack t timeout
    exact htimers.loses hc ha hat hlink hack
  case timely => exact fun hon k older e newer => htimers.timely hinterval hon
  case waits => exact fun hon a ha link => htimers.waits hinterval (hprompt hon) ha

/-- A ping after three milliseconds, and two for the pong. -/
def brisk : Settings := { untimed with pingInterval := 3, pongTimeout := some 2 }

/-- A socket opens, and the server says nothing. -/
def silence : List Event :=
  greeting ++ [.pass, .pass, .pass, .turn 0, .pass, .pass]

theorem keepsAlive_of_silence : 0 < brisk.pingInterval ∧ Function.Injective tally ∧
    (create brisk {} tally).OnTime silence ∧
    unansweredSince (((create brisk {} tally).run silence).board.record 0) = some 3 ∧
    KeepsAlive brisk ((create brisk {} tally).OnTime silence)
      ((create brisk {} tally).run silence) := by
  refine ⟨by decide, tally_injective, by decide +kernel, by decide +kernel, ?_⟩
  exact keepsAlive_run brisk (by decide) {} tally_injective silence

end Client

end LiveQuery
