import LiveQuery.Proofs.Turn

/-!
# What a turn comes to

An agent fits what it shares (`Agent.Fits`) if its epoch, its stage and its socket go with the
session and the lines. Every turn of such an agent keeps the session coherent, leaves the agent
fitting, and touches nothing of the other agents (`Agent.Move.outcome`).
-/

namespace LiveQuery

namespace Agent

/-- Does the agent serve a socket on which the server has acknowledged? -/
def isAcknowledged (a : Agent) : Bool :=
  match a.stage with
  | .serving link => link.acknowledged
  | _ => false

/-- The socket that the agent serves. -/
def socket? (a : Agent) : Option Nat :=
  match a.stage with
  | .serving link => some link.socket
  | _ => none

theorem isAcknowledged_of_serving {a : Agent} {link : Link} (hs : a.stage = .serving link) :
    a.isAcknowledged = link.acknowledged := by
  unfold isAcknowledged
  rw [hs]

theorem socket?_of_serving {a : Agent} {link : Link} (hs : a.stage = .serving link) :
    a.socket? = some link.socket := by
  unfold socket?
  rw [hs]

/-- An agent fits what it shares with the others. -/
structure Fits (a : Agent) (sb : Switchboard) : Prop where
  epoch : a.epoch ≤ sb.session.epoch
  current : a.told = false ↔ a.epoch = sb.session.epoch
  started : a.told = false → sb.session.phase ≠ .notStarted
  acknowledged : a.told = false →
    (sb.session.phase = .acknowledged ↔ a.isAcknowledged = true)
  socket : ∀ k, a.socket? = some k → k < sb.lines.length ∧ (sb.line k).pair.client = true

namespace Fits

variable {a : Agent} {sb sb' : Switchboard}

theorem isOutdated (h : a.Fits sb) (ht : a.told = false) : sb.isOutdated a.epoch = false := by
  unfold Switchboard.isOutdated
  simp [h.current.1 ht]

theorem bound (h : a.Fits sb) (link : Link) (hs : a.stage = .serving link) :
    link.socket < sb.lines.length := (h.socket _ (socket?_of_serving hs)).1

theorem move (h : a.Fits sb) {t : Turn} (hturn : a.turn sb = some t) : a.Move sb t :=
  move_of_turn h.bound h.isOutdated hturn

/-- An agent that serves no socket belongs to a session without an acknowledgment. -/
theorem not_acknowledged (h : a.Fits sb) (ht : a.told = false)
    (hs : ∀ link, a.stage ≠ .serving link) : sb.session.phase ≠ .acknowledged := by
  intro hp
  have hack := (h.acknowledged ht).1 hp
  unfold isAcknowledged at hack
  split at hack
  · next link hlink => exact hs link hlink
  · cases hack

/-- The session is acknowledged if the socket is. -/
theorem acknowledged_of_serving (h : a.Fits sb) (ht : a.told = false) {link : Link}
    (hs : a.stage = .serving link) :
    sb.session.phase = .acknowledged ↔ link.acknowledged = true := by
  rw [h.acknowledged ht, isAcknowledged_of_serving hs]

theorem connecting_of_serving (h : a.Fits sb) (ht : a.told = false) {link : Link}
    (hs : a.stage = .serving link) (hack : link.acknowledged = false) :
    sb.session.phase = .connecting := by
  have hstarted := h.started ht
  have hserved := h.acknowledged_of_serving ht hs
  rw [hack] at hserved
  cases hp : sb.session.phase with
  | notStarted => exact absurd hp hstarted
  | connecting => rfl
  | acknowledged => cases hserved.1 hp

/-- An agent fits as long as the session and its socket stay as they are. -/
theorem congr (h : a.Fits sb) (hsession : sb'.session = sb.session)
    (hlength : sb.lines.length ≤ sb'.lines.length)
    (hclient : ∀ k, a.socket? = some k → (sb'.line k).pair.client = (sb.line k).pair.client) :
    a.Fits sb' where
  epoch := by rw [hsession]; exact h.epoch
  current := by rw [hsession]; exact h.current
  started := by rw [hsession]; exact h.started
  acknowledged := by rw [hsession]; exact h.acknowledged
  socket := fun k hk => by
    obtain ⟨hlt, hc⟩ := h.socket k hk
    exact ⟨hlt.trans_le hlength, (hclient k hk).trans hc⟩

/-- An agent that was told to stop has no part in the session. -/
theorem of_told (h : a.Fits sb) (ht : a.told = true)
    (hepoch : sb.session.epoch ≤ sb'.session.epoch)
    (hlength : sb.lines.length ≤ sb'.lines.length)
    (hclient : ∀ k, a.socket? = some k → (sb'.line k).pair.client = (sb.line k).pair.client) :
    a.Fits sb' where
  epoch := h.epoch.trans hepoch
  current := by
    have hne : a.epoch ≠ sb.session.epoch := fun heq => by
      have htold := h.current.2 heq
      rw [ht] at htold
      cases htold
    have hle := h.epoch
    constructor
    · intro htold
      rw [ht] at htold
      cases htold
    · intro heq
      omega
  started := fun htold => by rw [ht] at htold; cases htold
  acknowledged := fun htold => by rw [ht] at htold; cases htold
  socket := fun k hk => by
    obtain ⟨hlt, hc⟩ := h.socket k hk
    exact ⟨hlt.trans_le hlength, (hclient k hk).trans hc⟩

end Fits

/-! ## What a turn leaves to the others -/

/-- What a turn of an agent leaves alone, whatever it does. -/
structure Advance (a : Agent) (sb sb' : Switchboard) : Prop where
  epoch : sb'.session.epoch = sb.session.epoch
  entries : ∀ e ∈ sb'.session.roster.entries, e ∈ sb.session.roster.entries
  consumers : ∀ n : Nat, ∃ items, sb'.consumers[n]? = sb.consumers[n]?.map (Consumer.feed items)
  length : sb.lines.length ≤ sb'.lines.length
  client : ∀ k, k < sb.lines.length → a.socket? ≠ some k →
    (sb'.line k).pair.client = (sb.line k).pair.client
  messagesOn : ∀ k, sb'.lines.length ≤ k → sb'.messagesOn k = sb.messagesOn k
  opens : sb.opens ≤ sb'.opens

namespace Advance

variable {a : Agent} {sb sb' : Switchboard}

theorem map_feed_nil (x : Option Consumer) : x.map (Consumer.feed []) = x := by
  have hid : Consumer.feed [] = id := funext Consumer.feed_nil
  rw [hid, Option.map_id]
  rfl

theorem refl (a : Agent) (sb : Switchboard) : a.Advance sb sb :=
  ⟨rfl, fun _ h => h, fun _ => ⟨[], (map_feed_nil _).symm⟩, le_refl _, fun _ _ _ => rfl,
    fun _ _ => rfl, le_refl _⟩

theorem of_traffic {k : Nat} {news : List Notice} (h : sb.Traffic k news sb')
    (hk : a.socket? = some k ∨ k = sb.lines.length) : a.Advance sb sb' where
  epoch := by rw [h.session]
  entries := fun e he => by rwa [h.session] at he
  consumers := fun n => ⟨[], by rw [map_feed_nil, h.consumers]⟩
  length := h.length
  client := fun s hs hne => by
    have hsk : s ≠ k := by
      rintro rfl
      rcases hk with hk | hk
      · exact hne hk
      · omega
    rw [h.elsewhere s hsk]
  messagesOn := fun s hs => h.messagesOn_elsewhere fun heq => by
    have hbound := h.bound
    omega
  opens := h.opens.ge

theorem of_parting (h : a.Parting sb sb') : a.Advance sb sb' := by
  rcases h.traffic with rfl | ⟨k, news, htraffic, ⟨link, hs, rfl⟩ | hk⟩
  · exact refl a _
  · exact of_traffic htraffic (Or.inl (socket?_of_serving hs))
  · exact of_traffic htraffic (Or.inr hk)

/-- The outgoing queue makes no difference. -/
theorem of_outgoing {outgoing : Option (List Message)}
    (h : a.Advance { sb with session := { sb.session with outgoing } } sb') : a.Advance sb sb' :=
  ⟨h.epoch, h.entries, h.consumers, h.length, h.client, h.messagesOn, h.opens⟩

/-- Replacing the session and carrying out effects, if no entry is new. -/
theorem commit (h : a.Advance sb sb') (result : Session × List Effect)
    (hepoch : result.1.epoch = sb'.session.epoch)
    (hentries : ∀ e ∈ result.1.roster.entries, e ∈ sb'.session.roster.entries) :
    a.Advance sb (sb'.commit result) where
  epoch := by rw [Switchboard.commit_session, hepoch, h.epoch]
  entries := fun e he => by
    rw [Switchboard.commit_session] at he
    exact h.entries e (hentries e he)
  consumers := fun n => by
    obtain ⟨items, hitems⟩ := h.consumers n
    refine ⟨items ++ Effect.itemsFor result.2 n, ?_⟩
    rw [Switchboard.commit_consumers, hitems, Option.map_map]
    congr 1
    funext c
    exact Consumer.feed_feed c _ _
  length := by rw [Switchboard.commit_lines]; exact h.length
  client := fun k hk hne => by
    have hline : (sb'.commit result).line k = sb'.line k := by
      unfold Switchboard.line
      rw [Switchboard.commit_lines]
    rw [hline]
    exact h.client k hk hne
  messagesOn := fun k hk => by
    rw [Switchboard.commit_messagesOn]
    exact h.messagesOn k (by rwa [Switchboard.commit_lines] at hk)
  opens := by rw [Switchboard.commit_opens]; exact h.opens

end Advance

/-- What the agent itself is after a turn. -/
structure Successor (a : Agent) (sb : Switchboard) (a' : Agent) (sb' : Switchboard) : Prop where
  epoch : a'.epoch = a.epoch
  told : a'.told = a.told
  socket : ∀ k, a'.socket? = some k → a.socket? = some k ∨ k = sb.lines.length
  fits : a'.Fits sb'

/-- What a turn of an agent comes to. -/
structure Outcome (a : Agent) (sb : Switchboard) (t : Turn) : Prop where
  advance : a.Advance sb t.2
  coherent : t.2.session.Coherent
  told : a.told = true → t.1 = none ∧ t.2.session = sb.session
  successor : ∀ a' ∈ t.1, a.Successor sb a' t.2
  ended : a.told = false → t.1 = none → t.2.session.phase = .notStarted

namespace Outcome

variable {a : Agent} {sb sb' : Switchboard}

/-- The agent goes on. -/
theorem goesOn (hfits : a.Fits sb) (ht : a.told = false) (stage : Stage) (attempt : Nat)
    (hadvance : a.Advance sb sb') (hcoherent : sb'.session.Coherent)
    (hphase : sb'.session.phase ≠ .notStarted)
    (hack : sb'.session.phase = .acknowledged ↔
      ({ a with stage, attempt } : Agent).isAcknowledged = true)
    (hsocket : ∀ link, stage = .serving link →
      (a.socket? = some link.socket ∨ link.socket = sb.lines.length) ∧
        link.socket < sb'.lines.length ∧ (sb'.line link.socket).pair.client = true) :
    a.Outcome sb (some { a with stage, attempt }, sb') where
  advance := hadvance
  coherent := hcoherent
  told := fun htold => by rw [ht] at htold; cases htold
  successor := fun a' ha' => by
    obtain rfl := Option.some.inj ha'
    have hserving (k : Nat) (hk : ({ a with stage, attempt } : Agent).socket? = some k) :
        ∃ link, stage = .serving link ∧ link.socket = k := by
      unfold socket? at hk
      split at hk
      · next link hs => exact ⟨link, hs, Option.some.inj hk⟩
      · cases hk
    refine ⟨rfl, rfl, fun k hk => ?_, ?_, ?_, fun _ => hphase, fun _ => hack, fun k hk => ?_⟩
    · obtain ⟨link, hs, rfl⟩ := hserving k hk
      exact (hsocket link hs).1
    · rw [hadvance.epoch]; exact hfits.epoch
    · rw [hadvance.epoch]; exact hfits.current
    · obtain ⟨link, hs, rfl⟩ := hserving k hk
      exact (hsocket link hs).2
  ended := fun _ hnone => by cases hnone

/-- The agent goes on with its socket after an exchange over it and perhaps a change of the
session. -/
theorem servesOn (hfits : a.Fits sb) (ht : a.told = false) {link link' : Link}
    {news : List Notice} {sb₁ sb₂ : Switchboard} (hs : a.stage = .serving link)
    (hsocket : link'.socket = link.socket) (h : sb₁.Exchange link.socket news sb₂)
    (hlines : sb₁.lines = sb.lines) (hlines' : sb'.lines = sb₂.lines)
    (hadvance : a.Advance sb sb') (hcoherent : sb'.session.Coherent)
    (hphase : sb'.session.phase ≠ .notStarted)
    (hack : sb'.session.phase = .acknowledged ↔ link'.acknowledged = true) :
    a.Outcome sb (some { a with stage := .serving link' }, sb') := by
  refine goesOn hfits ht (.serving link') a.attempt hadvance hcoherent hphase hack ?_
  rintro _ ⟨rfl⟩
  have hk := socket?_of_serving hs
  have hline (k : Nat) : sb'.line k = sb₂.line k := by unfold Switchboard.line; rw [hlines']
  have hline₁ (k : Nat) : sb₁.line k = sb.line k := by unfold Switchboard.line; rw [hlines]
  rw [hsocket, hline, hlines']
  refine ⟨Or.inl hk, h.bound, ?_⟩
  rw [h.client, hline₁]
  exact (hfits.socket _ hk).2

/-- The agent goes on with its socket, and the session is acknowledged then. -/
theorem commitsOn (hfits : a.Fits sb) (ht : a.told = false) {link link' : Link}
    {news : List Notice} {sb₁ sb₂ : Switchboard} (hs : a.stage = .serving link)
    (hsocket : link'.socket = link.socket) (h : sb₁.Exchange link.socket news sb₂)
    (hlines : sb₁.lines = sb.lines) (hadvance : a.Advance sb sb₂) (result : Session × List Effect)
    (hepoch : result.1.epoch = sb₂.session.epoch)
    (hentries : ∀ e ∈ result.1.roster.entries, e ∈ sb₂.session.roster.entries)
    (hcoherent : result.1.Coherent) (hphase : result.1.phase = .acknowledged)
    (hack : link'.acknowledged = true) :
    a.Outcome sb (some { a with stage := .serving link' }, sb₂.commit result) := by
  refine servesOn hfits ht hs hsocket h hlines (Switchboard.commit_lines ..)
    (hadvance.commit result hepoch hentries) ?_ ?_ ?_
  · rwa [Switchboard.commit_session]
  · rw [Switchboard.commit_session, hphase]
    nofun
  · rw [Switchboard.commit_session]
    exact iff_of_true hphase hack

/-- The agent ends the session. -/
theorem ends (hcoherent : sb.session.Coherent) (ht : a.told = false) (h : a.Parting sb sb')
    (error : ConnectionError) : a.Outcome sb (none, sb'.commit (sb'.session.terminate error)) := by
  refine ⟨(Advance.of_parting h).commit _ (Session.terminate_epoch ..) fun e he => ?_, ?_,
    fun htold => absurd htold (by rw [ht]; nofun), nofun, fun _ _ => ?_⟩
  · rw [Session.terminate_roster] at he
    cases he
  · rw [Switchboard.commit_session]
    exact .terminate _ (by rw [h.session]; exact hcoherent.roster) error
  · rw [Switchboard.commit_session, Session.terminate_phase]

/-- The agent goes on without a socket. -/
theorem retries (hfits : a.Fits sb) (hcoherent : sb.session.Coherent) (ht : a.told = false)
    (h : a.Parting sb sb') (attempt due retries : Nat) : a.Outcome sb
      (some { a with attempt := attempt + 1, stage := .backoff due },
        { sb'.withSession (sb'.session.suspend sb'.listening) with retries }.note
          (.retrying attempt)) := by
  have hcommit := (Advance.of_parting h).commit (sb'.session.suspend sb'.listening, [])
    (Session.suspend_epoch ..) fun e he => by
      rw [Session.suspend_roster] at he
      exact (Roster.mem_prune.1 he).1
  have hsession : ({ sb'.withSession (sb'.session.suspend sb'.listening) with
      retries }.note (.retrying attempt)).session = sb'.session.suspend sb'.listening :=
    Switchboard.withSession_session ..
  -- the note and the count of retries are nothing to the others
  refine goesOn hfits ht (.backoff due) (attempt + 1) ⟨hcommit.epoch, hcommit.entries,
    hcommit.consumers, hcommit.length, hcommit.client, hcommit.messagesOn, hcommit.opens⟩ ?_ ?_ ?_
    nofun
  · rw [hsession]
    exact .suspend (by rw [h.session]; exact hcoherent) _
  · rw [hsession, Session.suspend_phase]
    nofun
  · rw [hsession, Session.suspend_phase]
    exact iff_of_false nofun nofun

/-- An agent that was told to stop leaves the session as it is. -/
theorem leaves (hcoherent : sb.session.Coherent) (ht : a.told = true) (hadvance : a.Advance sb sb')
    (hsession : sb'.session = sb.session) : a.Outcome sb (none, sb') where
  advance := hadvance
  coherent := by
    dsimp only
    rwa [hsession]
  told := fun _ => ⟨rfl, hsession⟩
  successor := nofun
  ended := fun hf => by rw [ht] at hf; cases hf

/-- An agent without a socket moves on towards one. -/
theorem movesOn (hfits : a.Fits sb) (hcoherent : sb.session.Coherent) (ht : a.told = false)
    (hs : ∀ link, a.stage ≠ .serving link) {stage : Stage} (hs' : ∀ link, stage ≠ .serving link)
    (hadvance : a.Advance sb sb') (hsession : sb'.session = sb.session) :
    a.Outcome sb (some { a with stage }, sb') := by
  have hno : ({ a with stage } : Agent).isAcknowledged = false := by
    unfold isAcknowledged
    split
    · next link hserving => exact absurd hserving (hs' link)
    · rfl
  refine goesOn hfits ht stage a.attempt hadvance ?_ ?_ ?_ fun link hserving =>
    absurd hserving (hs' link)
  · rwa [hsession]
  · rw [hsession]
    exact hfits.started ht
  · rw [hsession, hno]
    exact iff_of_false (hfits.not_acknowledged ht hs) nofun

/-- A socket opened and was greeted. -/
theorem greets (hfits : a.Fits sb) (hcoherent : sb.session.Coherent) (ht : a.told = false)
    {number : Nat} {due : Option Nat} (hs : a.stage = .opening number due) {link : Link}
    (hsocket : link.socket = sb.lines.length) (hack : link.acknowledged = false)
    {news : List Notice} (h : sb.Exchange link.socket news sb')
    (hclient : (sb'.line link.socket).pair.client = true) :
    a.Outcome sb (some { a with stage := .serving link }, sb') := by
  have hno := hfits.not_acknowledged ht (by rw [hs]; nofun)
  refine goesOn hfits ht (.serving link) a.attempt (.of_traffic h.toTraffic (Or.inr hsocket))
    ?_ ?_ ?_ ?_
  · rwa [h.session]
  · rw [h.session]
    exact hfits.started ht
  · rw [h.session, isAcknowledged_of_serving rfl, hack]
    exact iff_of_false hno nofun
  · rintro _ ⟨rfl⟩
    exact ⟨Or.inr hsocket, h.bound, hclient⟩

section Serving

variable (hfits : a.Fits sb) (hcoherent : sb.session.Coherent) (ht : a.told = false)
  {link link' : Link} (hs : a.stage = .serving link)

include hfits hcoherent ht hs

/-- What goes over the socket of the agent concerns no subscription. -/
theorem idles (hsocket : link'.socket = link.socket) (hack : link'.acknowledged = link.acknowledged)
    {news : List Notice} (h : sb.Exchange link.socket news sb') :
    a.Outcome sb (some { a with stage := .serving link' }, sb') := by
  have hown := Advance.of_traffic h.toTraffic (Or.inl (socket?_of_serving hs))
  refine servesOn hfits ht hs hsocket h rfl rfl hown ?_ ?_ ?_
  · rwa [h.session]
  · rw [h.session]
    exact hfits.started ht
  · rw [h.session, hfits.acknowledged_of_serving ht hs, hack]

section Sending

variable {m : Message} {rest : List Message} (hout : sb.session.outgoing = some (m :: rest))
  {news : List Notice}
  (h : { sb with session := { sb.session with outgoing := some rest } }.Exchange link.socket news
    sb')

include hout h

omit hfits ht hs in
/-- A session with an outgoing queue stays coherent when a message is taken from it. -/
theorem coherent_of_sent : sb'.session.phase = .acknowledged ∧ sb'.session.Coherent := by
  have hphase : sb.session.phase = .acknowledged := hcoherent.queue.1 (by rw [hout]; rfl)
  rw [h.session]
  exact ⟨hphase, hcoherent.of_acknowledged hphase hcoherent.roster rfl rfl rfl (by rw [hout]; rfl)⟩

/-- A message of the outgoing queue leaves it, and is sent or not. -/
theorem sends : a.Outcome sb (some { a with stage := .serving link }, sb') := by
  obtain ⟨hphase, hsession⟩ := coherent_of_sent hcoherent hout h
  have hown := Advance.of_traffic h.toTraffic (Or.inl (socket?_of_serving hs))
  refine servesOn hfits ht hs rfl h rfl rfl hown.of_outgoing hsession ?_ ?_
  · rw [hphase]
    nofun
  · rw [h.session]
    exact hfits.acknowledged_of_serving ht hs

/-- The subscription of a message that was not sent ends. -/
theorem abandons (error : TransportError) :
    a.Outcome sb (some { a with stage := .serving link }, sb'.abandon m error) := by
  obtain ⟨hphase, hsession⟩ := coherent_of_sent hcoherent hout h
  have hown := Advance.of_traffic h.toTraffic (Or.inl (socket?_of_serving hs))
  have hack : link.acknowledged = true := by
    rw [← hfits.acknowledged_of_serving ht hs]
    rwa [h.session] at hphase
  rcases sb'.abandon_cases m error with heq | ⟨id, -, heq⟩
  · rw [heq]
    exact sends hfits hcoherent ht hs hout h
  · rw [heq]
    refine commitsOn hfits ht hs rfl h rfl hown.of_outgoing _ (Session.endOne_epoch ..)
      (fun e he => ?_) (hsession.endOne hphase ..) ((Session.endOne_phase ..).trans hphase) hack
    rw [Session.endOne_roster] at he
    exact (Roster.mem_erase.1 he).1

end Sending

section Reading

variable (hsocket : link'.socket = link.socket) (hack' : link'.acknowledged = true)
  {news : List Notice} (h : sb.Exchange link.socket news sb')

include hsocket hack' h

/-- The session is acknowledged. -/
theorem acknowledges (payload : Option Json.Members) :
    a.Outcome sb (some { a with stage := .serving link' },
      sb'.commit (sb'.session.acknowledge sb'.listening payload)) := by
  have hown := Advance.of_traffic h.toTraffic (Or.inl (socket?_of_serving hs))
  have hsame : sb'.session.Coherent := by rwa [h.session]
  refine commitsOn hfits ht hs hsocket h rfl hown _ (Session.acknowledge_epoch ..)
    (fun e he => ?_) (.acknowledge hsame ..) (Session.acknowledge_phase ..) hack'
  rw [Session.acknowledge_roster] at he
  exact (Roster.mem_prune.1 he).1

variable (hack : link.acknowledged = true)

include hack

/-- An item goes to its subscription. -/
theorem routes (id : String) (item : Item) : a.Outcome sb (some { a with stage := .serving link' },
    sb'.commit (sb'.session.route sb'.listening id item)) := by
  have hown := Advance.of_traffic h.toTraffic (Or.inl (socket?_of_serving hs))
  have hsame : sb'.session.Coherent := by rwa [h.session]
  have hphase : sb'.session.phase = .acknowledged := by
    rw [h.session]
    exact (hfits.acknowledged_of_serving ht hs).2 hack
  refine commitsOn hfits ht hs hsocket h rfl hown _ (Session.route_epoch ..) (fun e he => ?_)
    (.route hsame hphase ..) ((Session.route_phase ..).trans hphase) hack'
  rw [Session.route_roster] at he
  split at he
  · exact he
  · exact (Roster.mem_erase.1 he).1

/-- One subscription ends for what was read. -/
theorem endsOne (id : String) (error : SubscribeError) (notify : Bool) :
    a.Outcome sb (some { a with stage := .serving link' },
      sb'.commit (sb'.session.endOne id error notify)) := by
  have hown := Advance.of_traffic h.toTraffic (Or.inl (socket?_of_serving hs))
  have hsame : sb'.session.Coherent := by rwa [h.session]
  have hphase : sb'.session.phase = .acknowledged := by
    rw [h.session]
    exact (hfits.acknowledged_of_serving ht hs).2 hack
  refine commitsOn hfits ht hs hsocket h rfl hown _ (Session.endOne_epoch ..) (fun e he => ?_)
    (.endOne hsame hphase ..) ((Session.endOne_phase ..).trans hphase) hack'
  rw [Session.endOne_roster] at he
  exact (Roster.mem_erase.1 he).1

end Reading

end Serving

end Outcome

/-- An agent that was told to stop does not have to wait. -/
theorem turn_of_told {a : Agent} (ht : a.told = true) (sb : Switchboard) :
    ∃ t, a.turn sb = some t := by
  unfold turn serveTurn
  split
  · exact ⟨_, rfl⟩
  · exact ⟨_, if_pos ht⟩
  · exact ⟨_, if_pos ht⟩
  · exact ⟨_, if_pos ht⟩

/-- An agent that was told to stop touches at most its own socket. -/
theorem Move.of_told {a : Agent} {sb : Switchboard} {t : Turn} (hmove : a.Move sb t)
    (ht : a.told = true) : t.1 = none ∧ (t.2 = sb ∨ ∃ (link : Link) (news : List Notice),
      a.stage = .serving link ∧ sb.Traffic link.socket news t.2) := by
  cases hmove with
  | leave _ hs => exact ⟨rfl, Or.inl rfl⟩
  | hangUp _ hs h => exact ⟨rfl, Or.inr ⟨_, _, hs, h⟩⟩
  | ended hf | retry hf | ask hf | wake hf | greet hf | idle hf | deliver hf | undeliverable hf
  | acknowledge hf | route hf | endOne hf =>
    rw [ht] at hf
    cases hf

/-- What every move of an agent comes to, by cases on the move. -/
theorem Move.outcome {a : Agent} {sb : Switchboard} {t : Turn} (hfits : a.Fits sb)
    (hcoherent : sb.session.Coherent) (hmove : a.Move sb t) : a.Outcome sb t := by
  cases hmove with
  | leave ht hs => exact .leaves hcoherent ht (.refl a sb) rfl
  | hangUp ht hs h =>
    exact .leaves hcoherent ht (.of_traffic h (Or.inl (socket?_of_serving hs))) h.session
  | ask ht hs =>
    have hadvance : a.Advance sb sb.callOpen.2 := { Advance.refl a sb with opens := Nat.le_succ _ }
    exact .movesOn hfits hcoherent ht (by rw [hs]; nofun) nofun hadvance rfl
  | wake ht hs => exact .movesOn hfits hcoherent ht (by rw [hs]; nofun) nofun (.refl a sb) rfl
  | greet ht hs hsocket hack h hclient hquiet =>
    exact .greets hfits hcoherent ht hs hsocket hack h hclient
  | ended ht h error => exact .ends hcoherent ht h error
  | retry ht h hbudget => exact .retries hfits hcoherent ht h _ _ _
  | idle ht hs hsocket hack h hquiet => exact .idles hfits hcoherent ht hs hsocket hack h
  | deliver ht hs hout h => exact .sends hfits hcoherent ht hs hout h
  | undeliverable ht hs hout h error => exact .abandons hfits hcoherent ht hs hout h error
  | acknowledge ht hs hack hsocket hack' h =>
    exact .acknowledges hfits hcoherent ht hs hsocket hack' h _
  | route ht hs hack hsocket hack' hitem h =>
    exact .routes hfits hcoherent ht hs hsocket hack' h hack _ _
  | endOne ht hs hack hsocket hack' hid h =>
    exact .endsOne hfits hcoherent ht hs hsocket hack' h hack _ _ true

end Agent

end LiveQuery
