import LiveQuery.Proofs.KeepAlive
import LiveQuery.Proofs.Ruin
import LiveQuery.Proofs.Changes
import LiveQuery.Proofs.WireDiscipline

/-!
# The deadline of the acknowledgment

A socket on which no acknowledgment was read (`Unacknowledged`) is given up when the timeout has
passed since it opened. What its record tells about the opening and the acknowledgments is all that
counts: neither pings nor pongs nor the calls of subscribers move the deadline, and every socket has
its own (`Client.Awaiting`). The agent then sends its last frame and the session is ruined
(`Client.Missed`), whatever else is due or unread. If time passes only when nothing is left to do
(`Client.OnTime`), this happens at the very time, unless a caller stops the session at that time too
(`Client.Overdue`). `Client.keepsDeadline_run` puts the parts together.
-/

namespace LiveQuery

/-- A socket opened at a time, and no acknowledgment was read from it. -/
structure Unacknowledged (k opened : Nat) (record : List JournalEntry) : Prop where
  opening : record.head? = some ⟨opened, .opened k⟩
  unread : (record.any fun e => e.notice.acknowledges) = false

namespace Unacknowledged

variable {k opened : Nat} {older newer : List JournalEntry}

/-- Once a socket has opened, more can only acknowledge it. -/
theorem of_append (h : Unacknowledged k opened (older ++ newer)) (hne : older ≠ []) :
    Unacknowledged k opened older where
  opening := by
    rw [← List.head?_append_of_ne_nil older hne]
    exact h.opening
  unread := by
    have hunread := h.unread
    rw [List.any_append, Bool.or_eq_false_iff] at hunread
    exact hunread.1

theorem ne_nil (h : Unacknowledged k opened older) : older ≠ [] := by
  rintro rfl
  cases h.opening

theorem unique {opened' : Nat} (h : Unacknowledged k opened older)
    (h' : Unacknowledged k opened' older) : opened' = opened := by
  have hsame := h.opening.symm.trans h'.opening
  cases hsame
  rfl

end Unacknowledged

/-! ## What happens before the deadline -/

namespace AckDeadline

/-- The last frame on a socket that was not acknowledged in time. -/
def lastFrame : CloseFrame := ⟨.connectionAckTimeout, "Connection acknowledgement timeout"⟩

variable {settings : Settings} {onTime : Prop} {k now : Nat} {record : List JournalEntry}
  {news : List Notice}

/-- While a socket is not acknowledged, what happens on it happens before the deadline, unless the
socket is left. The greeting goes with the opening. If nobody tarries nothing at all happens
later. -/
def InTime (settings : Settings) (onTime : Prop) (k : Nat) (older : List JournalEntry)
    (e : JournalEntry) : Prop :=
  ∀ opened timeout, Unacknowledged k opened older → settings.ackTimeout = some timeout →
    (e.notice.isParting = false → e.notice.greets = false → e.time < opened + timeout) ∧
    (onTime → e.time ≤ opened + timeout)

/-- All that happened on a socket happened in time. -/
def Kept (settings : Settings) (onTime : Prop) (k : Nat) (record : List JournalEntry) : Prop :=
  ∀ older e newer, record = older ++ e :: newer → InTime settings onTime k older e

theorem Kept.nil : Kept settings onTime k [] := by
  intro older e newer hsplit
  simp at hsplit

/-- What happens now is in time for all of the record so far. -/
theorem Kept.append (h : Kept settings onTime k record) (hne : record ≠ [])
    (hnews : ∀ notice ∈ news, InTime settings onTime k record ⟨now, notice⟩) :
    Kept settings onTime k (record ++ news.map (JournalEntry.mk now)) := by
  intro older e newer hsplit
  rcases split_of_append hsplit with ⟨newer', hold⟩ | ⟨older', rfl, hnew⟩
  · exact h older e newer' hold
  · have hmem : e ∈ news.map (JournalEntry.mk now) := by
      rw [hnew]
      exact List.mem_append_right _ (List.mem_cons_self ..)
    obtain ⟨notice, hnotice, rfl⟩ := List.mem_map.1 hmem
    intro opened timeout hopened
    exact hnews notice hnotice opened timeout (hopened.of_append hne)

/-- A socket opens, is greeted, and is perhaps left at once. -/
theorem kept_opening (hnews : ∀ notice ∈ news, notice.isParting = true ∨ notice.greets = true) :
    Kept settings onTime k ((.opened k :: news).map (JournalEntry.mk now)) := by
  have hfirst : Kept settings onTime k [⟨now, .opened k⟩] := by
    intro older e newer hsplit opened timeout hopened
    -- before it opens there is no record
    cases older with
    | nil => exact absurd rfl hopened.ne_nil
    | cons => simp at hsplit
  refine hfirst.append (List.cons_ne_nil _ _) fun notice hnotice opened timeout hopened htimeout => ?_
  constructor
  · intro hparting hgreets
    rcases hnews notice hnotice with h | h
    · rw [h] at hparting
      cases hparting
    · rw [h] at hgreets
      cases hgreets
  · intro _
    cases hopened.opening
    exact Nat.le_add_right _ _

end AckDeadline

/-! ## The timer of a socket in use -/

namespace Client

open AckDeadline

variable {c : Client} {e : Event} {settings : Settings} {onTime : Prop}

/-- The deadline of a socket in use is the timeout after it opened, and it was kept. -/
structure Awaiting (settings : Settings) (onTime : Prop) (link : Link)
    (record : List JournalEntry) : Prop where
  deadline : ∃ opened, record.head? = some ⟨opened, .opened link.socket⟩ ∧
    link.ackDeadline = settings.ackTimeout.map (opened + ·)
  kept : Kept settings onTime link.socket record

namespace Awaiting

variable {link : Link} {record : List JournalEntry} {now : Nat}

theorem ne_nil (h : Awaiting settings onTime link record) : record ≠ [] := by
  obtain ⟨opened, hopening, -⟩ := h.deadline
  rintro rfl
  cases hopening

/-- The deadline counts while there is no acknowledgment. -/
theorem waitingFor_iff (h : Awaiting settings onTime link record)
    (hack : link.acknowledged = record.any fun e => e.notice.acknowledges) {limit : Nat} :
    link.waitingFor = some limit ↔ ∃ opened timeout, Unacknowledged link.socket opened record ∧
      settings.ackTimeout = some timeout ∧ opened + timeout = limit := by
  obtain ⟨opened, hopening, hdeadline⟩ := h.deadline
  unfold Link.waitingFor
  rw [hack, hdeadline]
  constructor
  · intro hlimit
    split at hlimit
    · cases hlimit
    · next hunread =>
      obtain ⟨timeout, htimeout, rfl⟩ := Option.map_eq_some_iff.1 hlimit
      exact ⟨opened, timeout, ⟨hopening, Bool.eq_false_iff.2 hunread⟩, htimeout, rfl⟩
  · rintro ⟨opened', timeout, hopened, htimeout, rfl⟩
    have hsame : opened' = opened := Unacknowledged.unique ⟨hopening, hopened.unread⟩ hopened
    rw [hopened.unread, htimeout, hsame]
    rfl

theorem isDue_iff (h : Awaiting settings onTime link record)
    (hack : link.acknowledged = record.any fun e => e.notice.acknowledges) :
    isDue now link.waitingFor = true ↔ ∃ opened timeout,
      Unacknowledged link.socket opened record ∧ settings.ackTimeout = some timeout ∧
        opened + timeout ≤ now := by
  rw [KeepAlive.isDue_iff]
  constructor
  · rintro ⟨limit, hlimit, hle⟩
    obtain ⟨opened, timeout, hopened, htimeout, rfl⟩ := (h.waitingFor_iff hack).1 hlimit
    exact ⟨opened, timeout, hopened, htimeout, hle⟩
  · rintro ⟨opened, timeout, hopened, htimeout, hle⟩
    exact ⟨_, (h.waitingFor_iff hack).2 ⟨opened, timeout, hopened, htimeout, rfl⟩, hle⟩

/-- What is done while the deadline is not over is in time. -/
theorem inTime (h : Awaiting settings onTime link record)
    (hack : link.acknowledged = record.any fun e => e.notice.acknowledges)
    (hdue : isDue now link.waitingFor = false) (notice : Notice) :
    InTime settings onTime link.socket record ⟨now, notice⟩ := by
  intro opened timeout hopened htimeout
  have hearly : now < opened + timeout := by
    apply Nat.lt_of_not_le
    intro hle
    rw [(h.isDue_iff hack).2 ⟨opened, timeout, hopened, htimeout, hle⟩] at hdue
    cases hdue
  exact ⟨fun _ _ => hearly, fun _ => hearly.le⟩

/-- A socket may be left at any time, but not late if nobody tarries. -/
theorem inTime_of_parting (h : Awaiting settings onTime link record)
    (hack : link.acknowledged = record.any fun e => e.notice.acknowledges)
    (hprompt : onTime → ∀ limit, link.waitingFor = some limit → now ≤ limit) {notice : Notice}
    (hparting : notice.isParting = true) :
    InTime settings onTime link.socket record ⟨now, notice⟩ := by
  intro opened timeout hopened htimeout
  constructor
  · intro hnot
    rw [hparting] at hnot
    cases hnot
  · intro hon
    exact hprompt hon _ ((h.waitingFor_iff hack).2 ⟨opened, timeout, hopened, htimeout, rfl⟩)

/-- Something happens on the socket, and the agent goes on with it. -/
theorem goesOn (h : Awaiting settings onTime link record)
    (hack : link.acknowledged = record.any fun e => e.notice.acknowledges)
    (hdue : isDue now link.waitingFor = false) (news : List Notice) {link' : Link}
    (hsocket : link'.socket = link.socket) (hdeadline : link'.ackDeadline = link.ackDeadline) :
    Awaiting settings onTime link' (record ++ news.map (JournalEntry.mk now)) := by
  obtain ⟨opened, hopening, hlimit⟩ := h.deadline
  constructor
  · refine ⟨opened, ?_, hdeadline.trans hlimit⟩
    rw [List.head?_append_of_ne_nil record h.ne_nil, hsocket]
    exact hopening
  · rw [hsocket]
    exact h.kept.append h.ne_nil fun notice _ => h.inTime hack hdue notice

end Awaiting

/-- A socket that was in use opened once, and its deadline was kept. -/
structure Awaited (settings : Settings) (onTime : Prop) (k : Nat)
    (record : List JournalEntry) : Prop where
  opening : ∃ opened, record.head? = some ⟨opened, .opened k⟩
  kept : Kept settings onTime k record

/-- What an agent does last before it leaves a socket it does before the deadline. -/
theorem due_of_lastWord {sb : Switchboard} {k : Nat} {link : Link} {last : List Notice}
    (h : Agent.LastWord sb k link last) (hne : last ≠ []) :
    isDue sb.now link.waitingFor = false := by
  cases h with
  | none => exact absurd rfl hne
  | heard hcalm | unanswered hcalm => exact (Link.isCalm_iff.1 hcalm).1
  | unpinged hack => exact hack

/-- A socket is left. -/
theorem Awaiting.leaves {link : Link} {record : List JournalEntry} {sb : Switchboard}
    (h : Awaiting settings onTime link record)
    (hack : link.acknowledged = record.any fun e => e.notice.acknowledges)
    (hprompt : onTime → ∀ limit, link.waitingFor = some limit → sb.now ≤ limit)
    {last exit : List Notice} (hlast : Agent.LastWord sb link.socket link last)
    (hexit : Exit link.socket exit) :
    Awaited settings onTime link.socket
      (record ++ (last ++ exit).map (JournalEntry.mk sb.now)) := by
  obtain ⟨opened, hopening, -⟩ := h.deadline
  constructor
  · exact ⟨opened, (List.head?_append_of_ne_nil record h.ne_nil).trans hopening⟩
  · refine h.kept.append h.ne_nil fun notice hnotice => ?_
    rcases List.mem_append.1 hnotice with hn | hn
    · exact h.inTime hack (due_of_lastWord hlast (List.ne_nil_of_mem hn)) notice
    · exact h.inTime_of_parting hack hprompt (hexit.isParting hn)

/-- Every episode keeps the deadline. -/
theorem lawful_deadline (hsettings : c.board.settings = settings)
    (hack : c.Recorded
      (fun _ link record => link.acknowledged = record.any fun e => e.notice.acknowledges)
      fun _ _ => True)
    (hprompt : onTime → ∀ a ∈ c.agents, ∀ link, a.link? = some link →
      ∀ limit, link.waitingFor = some limit → c.board.now ≤ limit) :
    Lawful (fun _ => Awaiting settings onTime) (Awaited settings onTime) c := by
  intro a ha k link'? news h hbefore
  cases hlink? : a.link? with
  | none =>
    rw [hlink?] at h hbefore
    rw [show c.board.record k = [] from hbefore, List.nil_append]
    cases h with
    | greets =>
      refine ⟨⟨c.board.now, rfl, ?_⟩, kept_opening (by simp [Notice.greets])⟩
      rw [hsettings]
    | snubbed =>
      exact ⟨⟨c.board.now, rfl⟩, kept_opening (by simp [Notice.greets, Notice.isParting])⟩
  | some link =>
    have hacked := hack.live a ha link hlink?
    have hlate (hon : onTime) := hprompt hon a ha link hlink?
    rw [hlink?] at h hbefore
    obtain ⟨rfl, hawaiting⟩ := hbefore
    cases h with
    | pings hat hdue => exact hawaiting.goesOn hacked hdue _ rfl rfl
    | sends hat hcalm | hears hat hcalm =>
      exact hawaiting.goesOn hacked (Link.isCalm_iff.1 hcalm).1 _ rfl rfl
    | leaves hlast hexit => exact hawaiting.leaves hacked hlate hlast hexit

/-- Agents see to the deadline in time. -/
theorem minded_waitingFor :
    Minded fun link now => ∀ limit, link.waitingFor = some limit → now ≤ limit where
  episode h hbefore limit hlimit := by
    cases h with
    | greets =>
      obtain ⟨timeout, -, rfl⟩ := Option.map_eq_some_iff.1 hlimit
      exact Nat.le_add_right _ _
    | pings | sends => exact hbefore _ rfl limit hlimit
    | hears =>
      rename_i link item arrived hat hcalm hitem
      apply hbefore link rfl limit
      -- an item that is read may only end the wait
      unfold Link.waitingFor Link.after Link.heard at hlimit
      unfold Link.waitingFor
      cases hack : link.acknowledged with
      | true => simp [hack] at hlimit
      | false => simp_all
  calm h limit hlimit := by
    have hdue := (Link.isCalm_iff.1 h).1
    rw [hlimit] at hdue
    exact Nat.lt_of_not_le (of_decide_eq_false hdue)

/-- The deadlines of all sockets are kept in every run. -/
theorem deadline_run (settings : Settings) (transport : Transport) {newId : Nat → String}
    (hid : Function.Injective newId) (es : List Event) {onTime : Prop}
    (htime : onTime → (create settings transport newId).OnTime es) :
    ((create settings transport newId).run es).Recorded (fun _ => Awaiting settings onTime)
      (Awaited settings onTime) := by
  apply recorded_run settings transport hid es
  rintro es' ⟨later, rfl⟩
  apply lawful_deadline
  · exact (metered_run settings transport hid es' id).2.2
  · exact acknowledged_run settings transport hid es'
  · intro hon
    exact minded_run minded_waitingFor settings transport hid (htime hon).of_append.1

/-- The deadline of every socket was kept, whether it is in use or not. -/
theorem Recorded.inTime
    (h : c.Recorded (fun _ => Awaiting settings onTime) (Awaited settings onTime)) (k : Nat) :
    Kept settings onTime k (c.board.record k) :=
  h.every (fun _ => .nil) (fun _ _ _ hlive => hlive.kept) (fun _ _ hpast => hpast.kept) k

end Client

/-! ## What happens at the deadline -/

/-- Whatever parts from a socket that was not parted from is new. -/
theorem Unparted.mem_of_append {old news : List Notice} (h : Unparted old) {notice : Notice}
    (hn : notice ∈ old ++ news) (hparting : notice.isParting = true) : notice ∈ news := by
  rcases List.mem_append.1 hn with hn | hn
  · rw [h _ hn] at hparting
    cases hparting
  · exact hn

namespace Agent

open AckDeadline

variable {a : Agent} {sb : Switchboard} {link : Link} {t : Turn}

/-- An agent that goes on keeps the socket that it has. -/
theorem Move.link_of_goesOn (hmove : a.Move sb t) (h : GoesOn t) (hs : a.stage = .serving link) :
    ∃ link', t.1.bind link? = some link' := by
  obtain ⟨a', hsome, hstage⟩ := h
  cases hmove with
  | leave | hangUp | ended => cases hsome
  | retry =>
    obtain rfl := Option.some.inj hsome
    exact absurd rfl (hstage _)
  | ask _ hs' | wake _ hs' =>
    rw [hs] at hs'
    cases hs'
  | _ => exact ⟨_, rfl⟩

section Closes

variable {k : Nat} {frame : CloseFrame} {arrived failed : Bool}

/-- Whoever was told to stop says goodbye with a frame of its own. -/
theorem Fits.eq_normalClosure_of_close (hfits : a.Fits sb) (hat : a.told = true)
    (ht : a.turn sb = some t) (hold : Unparted (sb.dealings k))
    (hnew : .sent k (.close frame) arrived failed ∈ t.2.dealings k) :
    frame = ⟨.normalClosure, "Normal Closure"⟩ := by
  rw [turn_of_told_eq sb hat] at ht
  obtain rfl := Option.some.inj ht
  cases hsocket : a.socket? with
  | none =>
    have hsame : (a.farewell sb).dealings k = sb.dealings k := by rw [farewell_of_idle sb hsocket]
    cases hold _ (hsame ▸ hnew)
  | some s =>
    obtain ⟨link, hs, rfl⟩ := stage_of_socket? hsocket
    obtain ⟨arrived', failed', hclose, -⟩ :=
      sb.exact_close link.socket (hfits.bound link hs) .normalClosure "Normal Closure"
    rw [← farewell_of_serving sb hs] at hclose
    by_cases hk : k = link.socket
    · subst hk
      have hmem := hold.mem_of_append (hclose.dealings ▸ hnew) rfl
      simp only [List.reverse_cons, List.reverse_nil, List.nil_append, List.mem_append,
        List.mem_singleton, Notice.sent.injEq, Outgoing.close.injEq, reduceCtorEq, or_false] at hmem
      exact hmem.2.1
    · cases hold _ (hclose.dealings_elsewhere hk ▸ hnew)

/-- A turn that goes on closes nothing. -/
theorem Fits.unclosed_of_goesOn (hfits : a.Fits sb) (ht : a.turn sb = some t) (h : GoesOn t)
    (hold : Unparted (sb.dealings k)) :
    .sent k (.close frame) arrived failed ∉ t.2.dealings k := by
  intro hnew
  rw [← Switchboard.record_notices] at hold hnew
  cases hfits.deed ht with
  | apart _ _ hrecord =>
    rw [hrecord] at hnew
    cases hold _ hnew
  | episode hown hepisode hrecord helse hbound =>
    rename_i s news
    by_cases hk : k = s
    · subst hk
      rw [hrecord, List.map_append, List.map_map] at hnew
      have hmem : .sent k (.close frame) arrived failed ∈ news := by
        simpa [Function.comp_def] using hold.mem_of_append hnew rfl
      cases hlink : a.link? with
      | none =>
        rw [hlink] at hepisode
        generalize t.1.bind link? = link'? at hepisode
        cases hepisode <;> simp at hmem
      | some link =>
        obtain ⟨link', hlink'⟩ := (hfits.move ht).link_of_goesOn h (link?_eq_some.1 hlink)
        rw [hlink, hlink'] at hepisode
        cases hepisode <;> simp at hmem
    · rw [helse k hk] at hnew
      cases hold _ hnew

/-- A socket that is lost is dropped without a word. -/
theorem Loss.unclosed {error : ConnectionError} {acknowledged : Bool} {sb' : Switchboard}
    (h : a.Loss sb error acknowledged sb')
    (hbound : ∀ link, a.stage = .serving link → link.socket < sb.lines.length)
    (hold : Unparted (sb.dealings k)) :
    .sent k (.close frame) arrived failed ∉ (a.lose sb' error acknowledged).2.dealings k := by
  intro hnew
  rw [(a.dealings_lose sb' error acknowledged k).2.1] at hnew
  rcases h.traffic hbound with ⟨-, rfl⟩ | ⟨s, news, seen, -, hnews, htraffic⟩
  · cases hold _ hnew
  · by_cases hk : k = s
    · subst hk
      have hmem := hold.mem_of_append (htraffic.dealings ▸ hnew) rfl
      rcases List.mem_cons.1 (List.mem_reverse.1 hmem) with hn | hn
      · cases hn
      · cases hnews _ hn
    · cases hold _ (htraffic.dealings_elsewhere hk ▸ hnew)

/-- What ruins a session closes its socket with its own frame, and no other socket. -/
theorem Ruin.of_close {error : ConnectionError} {farewell : Option CloseFrame} {s : Nat}
    {sb' : Switchboard} (h : a.Ruin sb error farewell s sb')
    (hbound : ∀ link, a.stage = .serving link → link.socket < sb.lines.length)
    (hold : Unparted (sb.dealings k))
    (hnew : .sent k (.close frame) arrived failed ∈
      (a.giveUp (sb'.part s farewell) error).2.dealings k) : k = s ∧ farewell = some frame := by
  obtain ⟨-, ⟨news, hnews, htraffic⟩, -⟩ := h.traffic hbound
  obtain ⟨exit, hexit, hpart⟩ := sb'.traffic_part s htraffic.bound farewell
  have hall := htraffic.trans hpart
  rw [(a.dealings_giveUp (sb'.part s farewell) error k).1] at hnew
  by_cases hk : k = s
  · subst hk
    have hmem := hold.mem_of_append (hall.dealings ▸ hnew) rfl
    rw [List.reverse_append, List.reverse_reverse] at hmem
    rcases List.mem_append.1 hmem with hn | hn
    · cases hnews _ (List.mem_reverse.1 hn)
    · cases hexit with
      | dropped => simp at hn
      | closed frame' =>
        simp only [List.mem_cons, Notice.sent.injEq, Outgoing.close.injEq, reduceCtorEq,
          List.not_mem_nil, or_false] at hn
        exact ⟨rfl, congrArg some hn.2.1.symm⟩
  · cases hold _ (hall.dealings_elsewhere hk ▸ hnew)

/-- A close frame that is no goodbye comes from what ruins the session. -/
theorem Fits.ruin_of_close (hfits : a.Fits sb) (hat : a.told = false) (ht : a.turn sb = some t)
    (hold : Unparted (sb.dealings k))
    (hnew : .sent k (.close frame) arrived failed ∈ t.2.dealings k) :
    ∃ error sb', a.Ruin sb error (some frame) k sb' := by
  cases verdict_of_turn hat (hfits.isOutdated hat) ht with
  | goesOn h => exact absurd hnew (hfits.unclosed_of_goesOn ht h hold)
  | loss h heq => exact absurd (heq ▸ hnew) (h.unclosed hfits.bound hold)
  | ruin h heq =>
    obtain ⟨rfl, rfl⟩ := h.of_close hfits.bound hold (heq ▸ hnew)
    exact ⟨_, _, h⟩

/-- A close frame with this code is sent only if the acknowledgment is overdue. -/
theorem Fits.overdue_of_close (hfits : a.Fits sb) (ht : a.turn sb = some t)
    (hold : Unparted (sb.dealings k))
    (hnew : .sent k (.close frame) arrived failed ∈ t.2.dealings k)
    (hcode : frame.code = .connectionAckTimeout) : a.told = false ∧ ∃ link,
      a.stage = .serving link ∧ link.socket = k ∧ isDue sb.now link.waitingFor = true := by
  cases hat : a.told with
  | true =>
    obtain rfl := hfits.eq_normalClosure_of_close hat ht hold hnew
    exact absurd hcode (by decide)
  | false =>
    obtain ⟨error, sb', h⟩ := hfits.ruin_of_close hat ht hold hnew
    -- of what ruins a session one thing has this code
    cases h with
    | ackTimeout _ hs hdue => exact ⟨rfl, _, hs, rfl, hdue⟩
    | undecodable | misplaced => cases hcode

end Closes

/-- If the acknowledgment is overdue, nothing else ends the socket. -/
theorem wins_of_overdue (hs : a.stage = .serving link)
    (hdue : isDue sb.now link.waitingFor = true) :
    (∀ error acknowledged sb', ¬ a.Loss sb error acknowledged sb') ∧
      ∀ error farewell k sb', a.Ruin sb error farewell k sb' → error = .ackTimeout := by
  have hwaits {link' : Link} (hs' : a.stage = .serving link')
      (hack : isDue sb.now link'.waitingFor = false) : False := by
    cases hs.symm.trans hs'
    rw [hdue] at hack
    cases hack
  have hcalm {link' : Link} (hs' : a.stage = .serving link') (hcalm : link'.isCalm sb.now = true) :
      False := hwaits hs' (Link.isCalm_iff.1 hcalm).1
  constructor
  · intro error acknowledged sb' h
    cases h with
    | openFailed _ hs' | initFailed _ hs' =>
      rw [hs] at hs'
      cases hs'
    | pongTimeout _ hs' hack | pingFailed _ hs' hack => exact hwaits hs' hack
    | endOfStream _ hs' hc | receiveFailed _ hs' hc => exact hcalm hs' hc
    | closed h | pongFailed h => exact hcalm h.stage h.calm
  · intro error farewell k sb' h
    cases h with
    | ackTimeout => rfl
    | fatalClose h | undecodable h | misplaced h => exact (hcalm h.stage h.calm).elim

/-- If the acknowledgment is overdue, the close frame and the drop are what a turn adds to the
record. -/
theorem record_of_overdue (hat : a.told = false) (hs : a.stage = .serving link)
    (hdue : isDue sb.now link.waitingFor = true) (hbound : link.socket < sb.lines.length)
    (ht : a.turn sb = some t) : ∃ arrived failed seen, t.2.record link.socket =
      sb.record link.socket ++ [⟨sb.now, .sent link.socket (.close lastFrame) arrived failed⟩,
        ⟨sb.now, .dropped link.socket seen⟩] := by
  rw [turn_of_ruin (.ackTimeout hat hs hdue)] at ht
  obtain rfl := Option.some.inj ht
  obtain ⟨arrived, failed, hclose, -⟩ := sb.exact_close link.socket hbound lastFrame.code
    lastFrame.reason
  refine ⟨arrived, failed, (sb.line link.socket).pair.server, ?_⟩
  exact ((a.record_giveUp _ _).2 _).trans hclose.record

end Agent

namespace Client

open AckDeadline

variable {c c' : Client} {e : Event} {settings : Settings} {onTime : Prop} {k : Nat}

/-- Between two states a socket was given up because it was not acknowledged in time: the close
frame is its last frame, sent now, and the session is ruined. -/
structure Missed (k : Nat) (c c' : Client) : Prop where
  ruined : Ruined .ackTimeout (some lastFrame) k c c'
  record : ∃ arrived failed seen, c'.board.record k = c.board.record k ++
    [⟨c.board.now, .sent k (.close lastFrame) arrived failed⟩, ⟨c.board.now, .dropped k seen⟩]

/-- After every run the turn of an agent whose acknowledgment is overdue is about nothing else. -/
theorem missed_of_turn (settings : Settings) (transport : Transport) {newId : Nat → String}
    (hid : Function.Injective newId) (es : List Event) {place : Nat} {a : Agent}
    (ha : ((create settings transport newId).run es).agents[place]? = some a)
    (hat : a.told = false) {link : Link} (hlink : a.link? = some link)
    (hdue : isDue ((create settings transport newId).run es).board.now link.waitingFor = true) :
    Missed link.socket ((create settings transport newId).run es)
      (((create settings transport newId).run es).perform (.turn place)) where
  ruined := ruined_of_turn settings transport hid es ha
    (.ackTimeout hat (Agent.link?_eq_some.1 hlink) hdue)
  record := by
    have hs := Agent.link?_eq_some.1 hlink
    have hfits := (coherent_run settings transport hid es).agents a (List.mem_of_getElem? ha)
    have hturn := Agent.turn_of_ruin (.ackTimeout hat hs hdue)
    rw [perform_turn_of ha hturn]
    exact Agent.record_of_overdue hat hs hdue (hfits.bound link hs) hturn

/-- An event leaves the record of a socket alone, or it is the turn of an agent, before which the
socket was not closed. -/
theorem record_or_turn (hc : c.Coherent) (horderly : c.Orderly) (e : Event) (k : Nat) :
    (c.perform e).board.record k = c.board.record k ∨
      ∃ a ∈ c.agents, ∃ t, a.turn c.board = some t ∧ (c.perform e).board = t.2 ∧
        Unparted (c.board.dealings k) := by
  cases he : e.isTurn with
  | false => exact Or.inl ((aside_perform he).record k)
  | true =>
    rcases c.perform_cases he with heq | ⟨pre, a, post, o, board, hagents, ht, heq⟩
    · rw [heq]
      exact Or.inl rfl
    · rw [heq]
      have hmem := mem_of_split hagents
      cases (hc.agents a hmem).deed ht with
      | apart _ _ hrecord => exact Or.inl (hrecord k)
      | episode hown h hrecord helse hbound =>
        rename_i s news
        by_cases hk : k = s
        · subst hk
          refine Or.inr ⟨a, hmem, _, ht, rfl, ?_⟩
          rcases hown with hsocket | ⟨-, rfl⟩
          · exact horderly.held k (List.mem_filterMap.2 ⟨a, hmem, hsocket⟩)
          · rw [horderly.unopened _ (le_refl _)]
            exact .nil
        · exact Or.inl (helse k hk)

/-- What is closed for want of an acknowledgment was overdue, and is dropped at once. -/
theorem overdue_of_close_run (settings : Settings) (transport : Transport) {newId : Nat → String}
    (hid : Function.Injective newId) (es : List Event) {older newer : List JournalEntry}
    {time : Nat} {frame : CloseFrame} {arrived failed : Bool}
    (hsplit : ((create settings transport newId).run es).board.record k =
      older ++ ⟨time, .sent k (.close frame) arrived failed⟩ :: newer)
    (hcode : frame.code = .connectionAckTimeout) :
    (∃ opened timeout, Unacknowledged k opened older ∧ settings.ackTimeout = some timeout ∧
      opened + timeout ≤ time) ∧ frame = lastFrame ∧ ∃ seen, newer = [⟨time, .dropped k seen⟩] := by
  induction es using List.reverseRecOn with
  | nil => simp [create, Switchboard.record] at hsplit
  | append_singleton es e ih =>
    have hc := coherent_run settings transport hid es
    rw [run_append, run_cons, run_nil] at hsplit
    rcases record_or_turn hc (orderly_run settings transport hid es) e k with
      hsame | ⟨a, ha, t, ht, hboard, hold⟩
    · exact ih (hsame ▸ hsplit)
    · have hfits := hc.agents a ha
      have hnew : .sent k (.close frame) arrived failed ∈ t.2.dealings k := by
        rw [← hboard, ← Switchboard.record_notices, hsplit]
        simp
      obtain ⟨hat, link, hs, rfl, hdue⟩ := hfits.overdue_of_close ht hold hnew hcode
      have hlink := Agent.link?_of_serving hs
      obtain ⟨arrived', failed', seen, hrecord⟩ :=
        Agent.record_of_overdue hat hs hdue (hfits.bound link hs) ht
      rw [hboard, hrecord] at hsplit
      -- nothing was closed before, so that this is the close frame
      rcases split_of_append hsplit with ⟨newer', hbefore⟩ | ⟨older', rfl, hafter⟩
      · have hmem : .sent link.socket (.close frame) arrived failed ∈
            ((create settings transport newId).run es).board.dealings link.socket := by
          rw [← Switchboard.record_notices, hbefore]
          simp
        cases hold _ hmem
      · have hhere : older' = [] := by
          cases older' with
          | nil => rfl
          | cons first rest => cases rest <;> simp at hafter
        subst hhere
        rw [List.nil_append] at hafter
        obtain ⟨hentry, hrest⟩ := List.cons.inj hafter
        cases hentry
        rw [List.append_nil]
        have hawaiting := (deadline_run settings transport hid es
          fun h : False => h.elim).live a ha link hlink
        have hack := (acknowledged_run settings transport hid es).live a ha link hlink
        exact ⟨(hawaiting.isDue_iff hack).1 hdue, rfl, seen, hrest.symm⟩

/-! ## Nobody waits longer -/

theorem agents_of_course (hcourse : Course e c c') (hp : c.phase ≠ .notStarted)
    (he : e.isTurn = false) (hstop : c.isStop e = false) : c'.agents = c.agents := by
  cases hcourse with
  | outside hout => exact hout.agents
  | touch | refuse | enlist | pass => rfl
  | launch _ hp' | launchFor _ _ hp' => exact absurd hp' hp
  | withdraw => rw [withdrawn_eq]
  | @cancel n x =>
    show (c.withdrawn n x).agents = c.agents
    rw [withdrawn_eq]
  | halt hhalts =>
    rcases hhalts with ⟨rfl, hheld⟩ | ⟨rfl, hlast⟩
    · exact absurd hheld (of_decide_eq_false hstop)
    · exact absurd hlast (of_decide_eq_false hstop)
  | turn hagents ht hturn => rw [he] at hturn; cases hturn

/-- Calls leave the agents of a started session alone, unless they stop it. -/
theorem agents_of_call (hp : c.phase ≠ .notStarted) (he : e.isTurn = false)
    (hstop : c.isStop e = false) : (c.perform e).agents = c.agents :=
  agents_of_course (c.course_perform e) hp he hstop

/-- The turn of another agent leaves an agent alone. -/
theorem mem_perform_of_ne {a : Agent} (ha : a ∈ c.agents) {place : Nat}
    (hplace : c.agents[place]? ≠ some a) : a ∈ (c.perform (.turn place)).agents := by
  cases hget : c.agents[place]? with
  | none =>
    rw [perform_turn]
    unfold turnAt
    rwa [hget]
  | some b =>
    have hne : a ≠ b := by
      rintro rfl
      exact hplace hget
    cases ht : b.turn c.board with
    | none =>
      rw [perform_turn]
      unfold turnAt
      rw [hget]
      dsimp only
      rwa [ht]
    | some t =>
      rw [perform_turn_of hget ht]
      exact mem_turned.2 (Or.inl (other_of_ne (agents_at hget) ha hne))

/-- A client with an agent whose acknowledgment is overdue has something left to do. -/
theorem busy_of_overdue {a : Agent} (ha : a ∈ c.agents) (hat : a.told = false) {link : Link}
    (hlink : a.link? = some link) (hdue : isDue c.board.now link.waitingFor = true) :
    c.isSettled = false := by
  refine Bool.eq_false_iff.2 fun hsettled => ?_
  have hturn := Agent.turn_of_ruin (.ackTimeout hat (Agent.link?_eq_some.1 hlink) hdue)
  rw [isSettled_iff.1 hsettled a ha] at hturn
  cases hturn

/-- An agent whose acknowledgment is overdue is not done: it has its turn, or somebody stops the
session, or all stays as it is, the time too. -/
theorem overdue_perform (hc : c.Coherent) {a : Agent} (ha : a ∈ c.agents) (hat : a.told = false)
    {link : Link} (hlink : a.link? = some link)
    (hdue : isDue c.board.now link.waitingFor = true)
    (htime : (e matches .pass) = true → c.isSettled = true) :
    (a ∈ (c.perform e).agents ∧ (c.perform e).board.now = c.board.now) ∨ c.isStop e = true ∨
      ∃ place, e = .turn place ∧ c.agents[place]? = some a := by
  by_cases hpass : e = .pass
  · subst hpass
    have hbusy := busy_of_overdue ha hat hlink hdue
    rw [htime rfl] at hbusy
    cases hbusy
  have hnow := now_perform hc hpass
  cases he : e.isTurn with
  | false =>
    cases hstop : c.isStop e with
    | true => exact Or.inr (Or.inl rfl)
    | false =>
      rw [agents_of_call ((hc.agents a ha).started hat) he hstop]
      exact Or.inl ⟨ha, hnow⟩
  | true =>
    obtain ⟨place, rfl⟩ := Event.eq_turn_of_isTurn he
    by_cases hplace : c.agents[place]? = some a
    · exact Or.inr (Or.inr ⟨place, rfl, hplace⟩)
    · exact Or.inl ⟨mem_perform_of_ne ha hplace, hnow⟩

/-- What becomes of an agent on a socket whose acknowledgment is overdue. -/
inductive Overdue (c : Client) (a : Agent) (k : Nat) (later : List Event) : Prop
  /-- It has still to have its turn, and the time stands still. -/
  | waits (ha : a ∈ (c.run later).agents) (hnow : (c.run later).board.now = c.board.now)
      (hbusy : (c.run later).isSettled = false)
  /-- A caller stops the session, at the same time. -/
  | stopped {before after : List Event} {e : Event} (hsplit : later = before ++ e :: after)
      (ha : a ∈ (c.run before).agents) (hnow : (c.run before).board.now = c.board.now)
      (hstop : (c.run before).isStop e = true)
  /-- It gives the socket up, at the same time. -/
  | missed {before after : List Event} {place : Nat}
      (hsplit : later = before ++ .turn place :: after)
      (hnow : (c.run before).board.now = c.board.now)
      (h : Missed k (c.run before) ((c.run before).perform (.turn place)))

/-- Once the acknowledgment is overdue, no time passes before the socket is given up, unless
somebody stops the session. -/
theorem overdue_run (settings : Settings) (transport : Transport) {newId : Nat → String}
    (hid : Function.Injective newId) (es : List Event) {a : Agent}
    (ha : a ∈ ((create settings transport newId).run es).agents) (hat : a.told = false)
    {link : Link} (hlink : a.link? = some link)
    (hdue : isDue ((create settings transport newId).run es).board.now link.waitingFor = true)
    {later : List Event} (htime : ((create settings transport newId).run es).OnTime later) :
    ((create settings transport newId).run es).Overdue a link.socket later := by
  induction later using List.reverseRecOn with
  | nil => exact .waits ha rfl (busy_of_overdue ha hat hlink hdue)
  | append_singleton later e ih =>
    obtain ⟨hbefore, hlast⟩ := htime.of_append
    cases ih hbefore with
    | stopped hsplit hthere hnow hstop =>
      exact .stopped (by rw [hsplit, List.append_assoc]; rfl) hthere hnow hstop
    | missed hsplit hnow h => exact .missed (by rw [hsplit, List.append_assoc]; rfl) hnow h
    | waits ha' hnow hbusy =>
      have hdue' : isDue (((create settings transport newId).run es).run later).board.now
          link.waitingFor = true := by rwa [hnow]
      have hc := (coherent_run settings transport hid es).run later
      rcases overdue_perform hc ha' hat hlink hdue' hlast.1 with
        ⟨hstays, hsame⟩ | hstop | ⟨place, rfl, hplace⟩
      · rw [← hsame] at hdue'
        have hbusy' := busy_of_overdue hstays hat hlink hdue'
        have hrun : ((create settings transport newId).run es).run (later ++ [e]) =
            (((create settings transport newId).run es).run later).perform e := run_append ..
        rw [← hrun] at hstays hsame hbusy'
        exact .waits hstays (hsame.trans hnow) hbusy'
      · exact .stopped rfl ha' hnow hstop
      · refine .missed rfl hnow ?_
        rw [← run_append] at hplace hdue' ⊢
        exact missed_of_turn settings transport hid (es ++ later) hplace hat hlink hdue'

/-! ## The deadline at work -/

/-- Records only grow. -/
theorem record_run (hc : c.Coherent) (later : List Event) (k : Nat) :
    ∃ news, (c.run later).board.record k = c.board.record k ++ news := by
  induction later using List.reverseRecOn with
  | nil => exact ⟨[], (List.append_nil _).symm⟩
  | append_singleton later e ih =>
    obtain ⟨news, hnews⟩ := ih
    rw [run_append, run_cons, run_nil]
    rcases record_perform (hc.run later) e k with hsame | ⟨a, -, -, new, link'?, -, hmore⟩
    · exact ⟨news, hsame.trans hnews⟩
    · exact ⟨_, by rw [hmore, hnews, List.append_assoc]⟩

/-- The deadline of the acknowledgment on the sockets of a client. -/
structure KeepsDeadline (settings : Settings) (onTime : Prop) (c : Client) : Prop where
  /-- The deadline of a socket in use is the whole timeout after it opened, and it counts until an
  acknowledgment is read from it. -/
  timers : ∀ a ∈ c.agents, ∀ link, a.link? = some link → ∃ opened,
    (c.board.record link.socket).head? = some ⟨opened, .opened link.socket⟩ ∧
      link.ackDeadline = settings.ackTimeout.map (opened + ·) ∧
      link.waitingFor =
        if (c.board.record link.socket).any fun e => e.notice.acknowledges then none
        else link.ackDeadline
  /-- Nothing moves it while the socket is in use. -/
  unmoved : ∀ a ∈ c.agents, ∀ link, a.link? = some link → ∀ later,
    ∀ b ∈ (c.run later).agents, ∀ link', b.link? = some link' → link'.socket = link.socket →
      link'.ackDeadline = link.ackDeadline
  /-- The turn in which it is over closes the socket and ruins the session. -/
  misses : ∀ place a link, c.agents[place]? = some a → a.told = false → a.link? = some link →
    ∀ opened timeout, Unacknowledged link.socket opened (c.board.record link.socket) →
      settings.ackTimeout = some timeout → opened + timeout ≤ c.board.now →
      Missed link.socket c (c.perform (.turn place))
  /-- No time passes before this turn, unless a caller stops the session. -/
  strikes : ∀ a ∈ c.agents, a.told = false → ∀ link, a.link? = some link →
    ∀ opened timeout, Unacknowledged link.socket opened (c.board.record link.socket) →
      settings.ackTimeout = some timeout → opened + timeout ≤ c.board.now →
      ∀ later, c.OnTime later → c.Overdue a link.socket later
  /-- Whatever else is due or unread then, nothing else ends the socket. -/
  wins : ∀ a ∈ c.agents, ∀ link, a.link? = some link →
    ∀ opened timeout, Unacknowledged link.socket opened (c.board.record link.socket) →
      settings.ackTimeout = some timeout → opened + timeout ≤ c.board.now →
      (∀ error acknowledged sb, ¬ a.Loss c.board error acknowledged sb) ∧
        ∀ error farewell k sb, a.Ruin c.board error farewell k sb → error = .ackTimeout
  /-- A session ends with this error when the deadline of its socket is over, and was not
  acknowledged before. -/
  ruins : ∀ a ∈ c.agents, ∀ farewell k sb, a.Ruin c.board .ackTimeout farewell k sb →
    farewell = some lastFrame ∧ ∃ opened timeout,
      Unacknowledged k opened (c.board.record k) ∧ settings.ackTimeout = some timeout ∧
        opened + timeout ≤ c.board.now ∧ (onTime → c.board.now = opened + timeout)
  /-- A close frame with this code is sent then, and is the last frame. -/
  closes : ∀ k older time frame arrived failed newer, c.board.record k =
      older ++ ⟨time, .sent k (.close frame) arrived failed⟩ :: newer →
    frame.code = .connectionAckTimeout →
    (∃ opened timeout, Unacknowledged k opened older ∧ settings.ackTimeout = some timeout ∧
      opened + timeout ≤ time ∧ (onTime → time = opened + timeout)) ∧
      frame = lastFrame ∧ ∃ seen, newer = [⟨time, .dropped k seen⟩]
  /-- Nothing else happens then on a socket that was not acknowledged, but that it is left. -/
  timely : ∀ k, Kept settings onTime k (c.board.record k)
  /-- Nor does the time pass over such a socket. -/
  waits : onTime → ∀ a ∈ c.agents, ∀ link, a.link? = some link →
    ∀ opened timeout, Unacknowledged link.socket opened (c.board.record link.socket) →
      settings.ackTimeout = some timeout → c.board.now ≤ opened + timeout ∧
        (c.isSettled = true → c.board.now < opened + timeout)

/-- **The acknowledgment deadline.** In every run a socket that is not acknowledged when the timeout
has passed since it opened is closed and the session ruined; at this very time if nobody tarries,
and for no other reason. -/
theorem keepsDeadline_run (settings : Settings) (transport : Transport) {newId : Nat → String}
    (hid : Function.Injective newId) (es : List Event) :
    KeepsDeadline settings ((create settings transport newId).OnTime es)
      ((create settings transport newId).run es) := by
  have hc := coherent_run settings transport hid es
  have hdeadline := deadline_run settings transport hid es id
  have hacked := acknowledged_run settings transport hid es
  have hisDue {now : Nat} {a : Agent} (ha : a ∈ ((create settings transport newId).run es).agents)
      {link : Link} (hlink : a.link? = some link) :
      isDue now link.waitingFor = true ↔ ∃ opened timeout, Unacknowledged link.socket opened
        (((create settings transport newId).run es).board.record link.socket) ∧
          settings.ackTimeout = some timeout ∧ opened + timeout ≤ now :=
    (hdeadline.live a ha link hlink).isDue_iff (hacked.live a ha link hlink)
  constructor
  case timers =>
    intro a ha link hlink
    obtain ⟨opened, hopening, hlimit⟩ := (hdeadline.live a ha link hlink).deadline
    refine ⟨opened, hopening, hlimit, ?_⟩
    rw [← hacked.live a ha link hlink]
    rfl
  case unmoved =>
    intro a ha link hlink later b hb link' hlink' hsocket
    obtain ⟨opened, hopening, hlimit⟩ := (hdeadline.live a ha link hlink).deadline
    rw [← run_append] at hb
    obtain ⟨opened', hopening', hlimit'⟩ := ((deadline_run settings transport hid (es ++ later)
      fun h : False => h.elim).live b hb link' hlink').deadline
    -- what the record begins with stays
    obtain ⟨news, hnews⟩ := record_run hc later link.socket
    rw [run_append, hsocket, hnews, List.head?_append_of_ne_nil _ (by rintro h; simp [h] at hopening),
      hopening] at hopening'
    cases hopening'
    rw [hlimit', hlimit]
  case misses =>
    intro place a link ha hat hlink opened timeout hopened htimeout hle
    exact missed_of_turn settings transport hid es ha hat hlink
      ((hisDue (List.mem_of_getElem? ha) hlink).2 ⟨opened, timeout, hopened, htimeout, hle⟩)
  case strikes =>
    intro a ha hat link hlink opened timeout hopened htimeout hle later hlater
    exact overdue_run settings transport hid es ha hat hlink
      ((hisDue ha hlink).2 ⟨opened, timeout, hopened, htimeout, hle⟩) hlater
  case wins =>
    intro a ha link hlink opened timeout hopened htimeout hle
    exact Agent.wins_of_overdue (Agent.link?_eq_some.1 hlink)
      ((hisDue ha hlink).2 ⟨opened, timeout, hopened, htimeout, hle⟩)
  case ruins =>
    intro a ha farewell k sb hruin
    cases hruin with
    | ackTimeout hat hs hdue =>
      rename_i link
      have hlink := Agent.link?_of_serving hs
      obtain ⟨opened, timeout, hopened, htimeout, hle⟩ := (hisDue ha hlink).1 hdue
      refine ⟨rfl, opened, timeout, hopened, htimeout, hle, fun hon => hle.antisymm' ?_⟩
      exact minded_run minded_waitingFor settings transport hid hon a ha link hlink _
        (((hdeadline.live a ha link hlink).waitingFor_iff (hacked.live a ha link hlink)).2
          ⟨opened, timeout, hopened, htimeout, rfl⟩)
  case closes =>
    intro k older time frame arrived failed newer hsplit hcode
    obtain ⟨⟨opened, timeout, hopened, htimeout, hle⟩, hframe⟩ :=
      overdue_of_close_run settings transport hid es hsplit hcode
    refine ⟨⟨opened, timeout, hopened, htimeout, hle, fun hon => hle.antisymm' ?_⟩, hframe⟩
    exact (hdeadline.inTime k older _ newer hsplit opened timeout hopened htimeout).2 hon
  case timely => exact hdeadline.inTime
  case waits =>
    intro hon a ha link hlink opened timeout hopened htimeout
    have hlimit := ((hdeadline.live a ha link hlink).waitingFor_iff (hacked.live a ha link hlink)).2
      ⟨opened, timeout, hopened, htimeout, rfl⟩
    constructor
    · exact minded_run minded_waitingFor settings transport hid hon a ha link hlink _ hlimit
    · intro hsettled
      exact minded_waitingFor.settled hsettled ha hlink _ hlimit

/-- A server that never acknowledges, but goes away once and sends a ping over the next socket. -/
def unacknowledging : List Event :=
  List.flatten [greeting, [.pass, .pass, .serverDrop 0, .turn 0], List.replicate 10 .pass,
    [.turn 0, .turn 0, .turn 0, .pass, .serverSend 1 (.text (Message.ping none).encode), .turn 0],
    List.replicate 4 .pass]

/-- Five milliseconds for the acknowledgment. -/
def impatient : Settings := { untimed with ackTimeout := some 5 }

/-- The second socket opened when twelve milliseconds had passed, and has until the seventeenth. -/
theorem keepsDeadline_of_reopening : Function.Injective tally ∧
    (create impatient {} tally).OnTime unacknowledging ∧
    ((create impatient {} tally).run unacknowledging).board.now = 17 ∧
    (((create impatient {} tally).run unacknowledging).board.record 1).map JournalEntry.time =
      [12, 12, 13, 13] ∧
    (((create impatient {} tally).run unacknowledging).perform (.turn 0)).phase = .notStarted ∧
    KeepsDeadline impatient ((create impatient {} tally).OnTime unacknowledging)
      ((create impatient {} tally).run unacknowledging) := by
  refine ⟨tally_injective, by decide +kernel, by decide +kernel, by decide +kernel,
    by decide +kernel, ?_⟩
  exact keepsDeadline_run impatient {} tally_injective unacknowledging

end Client

end LiveQuery
