import LiveQuery.Proofs.Step

/-!
# What nobody looks at

Callers look at no socket, an agent looks at its own socket only, and nobody looks at whether a
handshake is held. `Switchboard.remap` makes other lines and other handshakes out of those there
are. If the change of the lines leaves alone the sockets that an agent deals with
(`Switchboard.Unseen`), and the change of the handshakes leaves alone their results
(`Switchboard.Unasked`), then the agent does the same as before, but for the change
(`Agent.turn_remap`), and so does every call (`Client.perform_remap`).
-/

namespace LiveQuery

/-- The socket that an event of the other end, or of the transport, is about. -/
def Event.line? : Event → Option Nat
  | .serverSend k _ | .serverClose k _ | .serverDrop k | .failReceive k _ | .failSends k _ => some k
  | _ => none

/-- The same, held by nobody. -/
def Handshake.letGo (x : Handshake) : Handshake := { x with held := false }

namespace Switchboard

variable {F : List Line → List Line} {G : List Handshake → List Handshake} (sb : Switchboard)

/-- The same with other lines and other handshakes. -/
def remap (F : List Line → List Line) (G : List Handshake → List Handshake) (sb : Switchboard) :
    Switchboard :=
  { sb with lines := F sb.lines, handshakes := G sb.handshakes }

/-- A change of the lines that leaves some sockets alone. -/
structure Unseen (F : List Line → List Line) (own : Nat → Prop) : Prop where
  line : ∀ {k : Nat}, own k → ∀ lines, (F lines)[k]?.getD {} = lines[k]?.getD {}
  setLine : ∀ {k : Nat}, own k → ∀ lines line, (F lines).set k line = F (lines.set k line)

/-- A change of the handshakes that does not meddle with what is done to one of them, if that has
nothing to do with who holds it. -/
def Unasked (G : List Handshake → List Handshake) : Prop :=
  ∀ f : Handshake → Handshake, (∀ x, f x.letGo = (f x).letGo) →
    ∀ handshakes i, (G handshakes).modify i f = G (handshakes.modify i f)

/-- No change at all. -/
theorem unasked_id : Unasked id := fun _ _ _ _ => rfl

/-! ## Operations on the session -/

theorem withSession_remap (session : Session) :
    (sb.remap F G).withSession session = (sb.withSession session).remap F G := by
  rw [withSession_eq, withSession_eq]
  rfl

section Session

variable (hG : Unasked G)

include hG

theorem apply_remap (effect : Effect) :
    (sb.remap F G).apply effect = (sb.apply effect).remap F G := by
  cases effect with
  | deliver consumer item =>
    have hsame : (sb.remap F G).listening = sb.listening := rfl
    by_cases hl : sb.listening consumer = true
    · rw [apply_deliver _ (by rwa [hsame]), apply_deliver _ hl]
      rfl
    · rw [apply_deliver_of_gone _ (by rwa [hsame]), apply_deliver_of_gone _ hl]
  | resolve i result =>
    have hresult := hG (fun x => { x with result := some result }) (fun _ => rfl) sb.handshakes i
    exact congrArg (fun handshakes => ({ sb with lines := F sb.lines, handshakes } :
      Switchboard).note (.resolved i result)) hresult

theorem commit_remap (result : Session × List Effect) :
    (sb.remap F G).commit result = (sb.commit result).remap F G := by
  have hfold (effects : List Effect) (sb : Switchboard) :
      effects.foldl apply (sb.remap F G) = (effects.foldl apply sb).remap F G := by
    induction effects generalizing sb with
    | nil => rfl
    | cons effect rest ih => rw [List.foldl_cons, apply_remap _ hG, ih, List.foldl_cons]
  unfold commit
  rw [withSession_remap, hfold]

variable (epoch : Nat)

theorem acknowledge_remap (payload : Option Json.Members) :
    (sb.remap F G).acknowledge epoch payload =
      ((sb.acknowledge epoch payload).1, (sb.acknowledge epoch payload).2.remap F G) := by
  have houtdated : (sb.remap F G).isOutdated epoch = sb.isOutdated epoch := rfl
  unfold acknowledge
  rw [houtdated, commit_remap _ hG]
  split <;> rfl

omit hG in
theorem suspend_remap : (sb.remap F G).suspend epoch =
    ((sb.suspend epoch).1, (sb.suspend epoch).2.remap F G) := by
  have houtdated : (sb.remap F G).isOutdated epoch = sb.isOutdated epoch := rfl
  unfold suspend
  rw [houtdated, withSession_remap]
  split <;> rfl

theorem terminate_remap (error : ConnectionError) :
    (sb.remap F G).terminate epoch error = (sb.terminate epoch error).remap F G := by
  have houtdated : (sb.remap F G).isOutdated epoch = sb.isOutdated epoch := rfl
  unfold terminate
  rw [houtdated, commit_remap _ hG]
  split <;> rfl

theorem route_remap (id : String) (item : Item) : (sb.remap F G).route epoch id item =
    ((sb.route epoch id item).1, (sb.route epoch id item).2.remap F G) := by
  have houtdated : (sb.remap F G).isOutdated epoch = sb.isOutdated epoch := rfl
  unfold route
  rw [houtdated, commit_remap _ hG]
  split <;> rfl

theorem endOne_remap (id : String) (error : SubscribeError) (notify : Bool) :
    (sb.remap F G).endOne epoch id error notify =
      ((sb.endOne epoch id error notify).1, (sb.endOne epoch id error notify).2.remap F G) := by
  have houtdated : (sb.remap F G).isOutdated epoch = sb.isOutdated epoch := rfl
  unfold endOne
  rw [houtdated, commit_remap _ hG]
  split <;> rfl

end Session

theorem nextOutgoing_remap (epoch : Nat) : (sb.remap F G).nextOutgoing epoch =
    (sb.nextOutgoing epoch).map fun r => (r.1, r.2.remap F G) := by
  have houtdated : (sb.remap F G).isOutdated epoch = sb.isOutdated epoch := rfl
  have hsession : (sb.remap F G).session = sb.session := rfl
  unfold nextOutgoing
  rw [houtdated]
  split
  · rfl
  · rw [hsession, Option.map_map]
    rfl

/-! ## Sockets -/

section Sockets

variable {own : Nat → Prop} (hF : Unseen F own) {k : Nat} (hk : own k)

include hF hk

theorem line_remap : (sb.remap F G).line k = sb.line k := hF.line hk sb.lines

theorem setLine_remap (l : Line) :
    (sb.remap F G).setLine k l = (sb.setLine k l).remap F G :=
  congrArg (fun lines => ({ sb with lines, handshakes := G sb.handshakes } : Switchboard))
    (hF.setLine hk sb.lines l)

theorem send_remap (item : Outgoing) : (sb.remap F G).send k item =
    ((sb.send k item).1, (sb.send k item).2.remap F G) := by
  unfold send
  dsimp only
  rw [line_remap sb hF hk, setLine_remap sb hF hk]
  rfl

theorem drop_remap : (sb.remap F G).drop k = (sb.drop k).remap F G := by
  unfold drop
  dsimp only
  rw [line_remap sb hF hk, setLine_remap sb hF hk]
  rfl

theorem close_remap (code : CloseCode) (reason : String) :
    (sb.remap F G).close k code reason = (sb.close k code reason).remap F G := by
  unfold close
  rw [send_remap sb hF hk, drop_remap _ hF hk]

end Sockets

theorem finishOpen_remap (happend : ∀ line, F (sb.lines ++ [line]) = F sb.lines ++ [line])
    (hlength : (F sb.lines).length = sb.lines.length) (number : Nat) :
    (sb.remap F G).finishOpen number =
      (sb.finishOpen number).map fun r => (r.1, r.2.remap F G) := by
  have htransport : (sb.remap F G).transport = sb.transport := rfl
  have hlines : (sb.remap F G).lines = F sb.lines := rfl
  unfold finishOpen
  dsimp only
  rw [htransport, hlines, hlength]
  cases sb.transport.connect number with
  | error e => rfl
  | ok line =>
    exact congrArg (fun lines => Except.ok (sb.lines.length,
      ({ sb with lines, handshakes := G sb.handshakes } : Switchboard).note
        (.opened sb.lines.length))) (happend line).symm

end Switchboard

/-! ## What an agent does -/

namespace Agent

open Switchboard (Unseen Unasked)

variable {F : List Line → List Line} {G : List Handshake → List Handshake} {own : Nat → Prop}
  (a : Agent) (sb : Switchboard)

theorem openSocket_remap :
    a.openSocket (sb.remap F G) = (a.openSocket sb).map id (·.remap F G) := by
  have houtdated : (sb.remap F G).isOutdated a.epoch = sb.isOutdated a.epoch := rfl
  unfold openSocket
  rw [houtdated]
  split <;> rfl

section Unasked

variable (hG : Unasked G)

include hG

theorem giveUp_remap (error : ConnectionError) :
    a.giveUp (sb.remap F G) error = (a.giveUp sb error).map id (·.remap F G) := by
  unfold giveUp
  rw [Switchboard.terminate_remap _ hG]
  rfl

theorem lose_remap (error : ConnectionError) (acknowledged : Bool) :
    a.lose (sb.remap F G) error acknowledged =
      (a.lose sb error acknowledged).map id (·.remap F G) := by
  have hsettings : (sb.remap F G).settings = sb.settings := rfl
  unfold lose
  dsimp only
  rw [hsettings, Switchboard.suspend_remap, giveUp_remap _ _ hG]
  generalize (if acknowledged = true then 0 else a.attempt) = attempt
  split
  · rfl
  · rcases sb.suspend a.epoch with ⟨current, sb'⟩
    cases current <;> rfl

section Serving

variable (hF : Unseen F own) {link : Link} (hk : own link.socket)

include hF hk

theorem loseLink_remap (error : ConnectionError) :
    a.loseLink (sb.remap F G) link error = (a.loseLink sb link error).map id (·.remap F G) := by
  unfold loseLink
  rw [Switchboard.drop_remap sb hF hk, lose_remap _ _ hG]

theorem reject_remap (error : ConnectionError) :
    a.reject (sb.remap F G) link error = (a.reject sb link error).map id (·.remap F G) := by
  unfold reject
  rw [Switchboard.close_remap sb hF hk, giveUp_remap _ _ hG]

omit hG in
theorem serveUnlessOutdated_remap (result : Bool × Switchboard) :
    a.serveUnlessOutdated link (result.1, result.2.remap F G) =
      (a.serveUnlessOutdated link result).map id (·.remap F G) := by
  rcases result with ⟨current, sb⟩
  cases current with
  | true => rfl
  | false =>
    unfold serveUnlessOutdated
    dsimp only
    rw [Switchboard.drop_remap sb hF hk]
    rfl

theorem ping_remap :
    a.ping (sb.remap F G) link = (a.ping sb link).map id (·.remap F G) := by
  have hsettings : (sb.remap F G).settings = sb.settings := rfl
  unfold ping
  rw [hsettings, Switchboard.send_remap sb hF hk]
  rcases sb.send link.socket (.message (.ping sb.settings.pingPayload)) with ⟨outcome, sb'⟩
  cases outcome with
  | none => rfl
  | some e => exact a.loseLink_remap sb' hG hF hk _

theorem sendNext_remap (m : Message) :
    a.sendNext (sb.remap F G) link m = (a.sendNext sb link m).map id (·.remap F G) := by
  unfold sendNext
  rw [Switchboard.send_remap sb hF hk]
  rcases sb.send link.socket (.message m) with ⟨outcome, sb'⟩
  cases outcome with
  | none => rfl
  | some e =>
    cases m.id? with
    | none => rfl
    | some id =>
      dsimp only
      rw [Switchboard.endOne_remap _ hG]
      rfl

theorem receive_remap (m : Message) :
    a.receive (sb.remap F G) link m = (a.receive sb link m).map id (·.remap F G) := by
  have hreject := fun error => a.reject_remap sb hG hF hk error
  have hroute (id' : String) (item : Item) (error : ConnectionError) :
      (if link.acknowledged then
        a.serveUnlessOutdated link ((sb.remap F G).route a.epoch id' item)
      else a.reject (sb.remap F G) link error) =
        (if link.acknowledged then a.serveUnlessOutdated link (sb.route a.epoch id' item)
        else a.reject sb link error).map id (·.remap F G) := by
    split
    · rw [Switchboard.route_remap _ hG]
      exact a.serveUnlessOutdated_remap hF hk _
    · exact hreject error
  cases m with
  | connectionInit | subscribe => exact hreject _
  | connectionAck payload =>
    unfold receive
    dsimp only
    split
    · rfl
    · have hk' : own ({ link with acknowledged := true } : Link).socket := hk
      rw [Switchboard.acknowledge_remap _ hG]
      exact a.serveUnlessOutdated_remap hF hk' _
  | ping payload =>
    unfold receive
    dsimp only
    rw [Switchboard.send_remap sb hF hk]
    rcases sb.send link.socket (.message (.pong payload)) with ⟨outcome, sb'⟩
    cases outcome with
    | none => rfl
    | some e => exact a.loseLink_remap sb' hG hF hk _
  | pong payload => rfl
  | next id result => exact hroute id _ _
  | error id errors => exact hroute id _ _
  | complete id => exact hroute id _ _

theorem receiveUndecodable_remap (e : DecodeError) : a.receiveUndecodable (sb.remap F G) link e =
    (a.receiveUndecodable sb link e).map id (·.remap F G) := by
  have hreject := fun error => a.reject_remap sb hG hF hk error
  unfold receiveUndecodable
  cases e.id? with
  | none => exact hreject _
  | some id =>
    dsimp only
    split
    · rw [Switchboard.endOne_remap _ hG]
      exact a.serveUnlessOutdated_remap hF hk _
    · exact hreject _

theorem receiveClose_remap (frame : CloseFrame) : a.receiveClose (sb.remap F G) link frame =
    (a.receiveClose sb link frame).map id (·.remap F G) := by
  unfold receiveClose
  dsimp only
  split
  · rw [Switchboard.drop_remap sb hF hk, giveUp_remap _ _ hG]
  · exact a.loseLink_remap sb hG hF hk _

theorem listen_remap : a.listen (sb.remap F G) link =
    (a.listen sb link).map (Prod.map id (·.remap F G)) := by
  unfold listen
  rw [Switchboard.line_remap sb hF hk]
  rcases (sb.line link.socket).recv with ⟨polled, line⟩
  cases polled with
  | pending => rfl
  | ended =>
    dsimp only
    rw [Switchboard.setLine_remap sb hF hk, loseLink_remap _ _ hG hF hk]
    rfl
  | ready item =>
    cases item with
    | error e =>
      dsimp only
      rw [Switchboard.setLine_remap sb hF hk, loseLink_remap _ _ hG hF hk]
      rfl
    | ok frame =>
      dsimp only
      have hnote (item : Except DecodeError Incoming) :
          ((sb.setLine link.socket line).remap F G).note (.received link.socket item) =
            ((sb.setLine link.socket line).note (.received link.socket item)).remap F G := rfl
      have hheard : own (link.heard sb.now).socket := hk
      rw [Switchboard.setLine_remap sb hF hk, hnote]
      cases Incoming.ofFrame frame with
      | error e => exact congrArg some (a.receiveUndecodable_remap _ hG hF hheard e)
      | ok incoming =>
        cases incoming with
        | closed frame => exact congrArg some (a.receiveClose_remap _ hG hF hk frame)
        | message m => exact congrArg some (a.receive_remap _ hG hF hheard m)

theorem serveTurn_remap : a.serveTurn (sb.remap F G) link =
    (a.serveTurn sb link).map (Prod.map id (·.remap F G)) := by
  have hnow : (sb.remap F G).now = sb.now := rfl
  unfold serveTurn
  rw [hnow, Switchboard.close_remap sb hF hk, Switchboard.close_remap sb hF hk,
    giveUp_remap _ _ hG, loseLink_remap _ _ hG hF hk, ping_remap _ _ hG hF hk,
    Switchboard.nextOutgoing_remap, listen_remap _ _ hG hF hk]
  split
  · rfl
  · split
    · rfl
    · split
      · rfl
      · split
        · rfl
        · cases sb.nextOutgoing a.epoch with
          | none => rfl
          | some next => exact congrArg some (a.sendNext_remap next.2 hG hF hk next.1)

end Serving

theorem greet_remap (hF : Unseen F own) {k : Nat} (hk : own k) :
    a.greet (sb.remap F G) k = (a.greet sb k).map id (·.remap F G) := by
  unfold greet
  rw [Switchboard.send_remap sb hF hk]
  rcases sb.send k (.message (.connectionInit a.params)) with ⟨outcome, sb'⟩
  cases outcome with
  | none => rfl
  | some e =>
    dsimp only
    rw [Switchboard.drop_remap sb' hF hk, lose_remap _ _ hG]

/-- An agent does the same whatever it does not look at: other sockets than its own and the one that
opens next, and who holds a handshake. -/
theorem turn_remap (hF : Unseen F own)
    (happend : ∀ line, F (sb.lines ++ [line]) = F sb.lines ++ [line])
    (hlength : (F sb.lines).length = sb.lines.length) (hnew : own sb.lines.length)
    (hown : ∀ link, a.stage = .serving link → own link.socket) :
    a.turn (sb.remap F G) = (a.turn sb).map (Prod.map id (·.remap F G)) := by
  have hnow : (sb.remap F G).now = sb.now := rfl
  have hopened (number : Nat) :
      a.opened (sb.remap F G) number = (a.opened sb number).map id (·.remap F G) := by
    unfold opened
    rw [sb.finishOpen_remap happend hlength]
    cases hopen : sb.finishOpen number with
    | error e => exact a.lose_remap sb hG _ _
    | ok result =>
      obtain ⟨k, sb'⟩ := result
      obtain ⟨rfl, -, -⟩ := Switchboard.exchange_finishOpen hopen
      exact a.greet_remap sb' hG hF hnew
  unfold turn
  rw [hnow]
  cases hstage : a.stage with
  | ready => exact congrArg some (a.openSocket_remap sb)
  | opening number due =>
    dsimp only
    rw [hopened]
    split
    · rfl
    · split <;> rfl
  | serving link => exact a.serveTurn_remap sb hG hF (hown link hstage)
  | backoff due =>
    dsimp only
    split
    · rfl
    · split <;> rfl

end Unasked

end Agent

/-! ## What a caller does -/

namespace Client

open Switchboard (Unasked)

variable {c : Client} {F : List Line → List Line} {G : List Handshake → List Handshake}

/-- The same with other lines and other handshakes. -/
def remap (F : List Line → List Line) (G : List Handshake → List Handshake) (c : Client) :
    Client :=
  c.mapBoard (·.remap F G)

section Starts

variable (happend : ∀ held, G (c.board.handshakes ++ [Handshake.mk none held]) =
    G c.board.handshakes ++ [Handshake.mk none held])
  (hlength : (G c.board.handshakes).length = c.board.handshakes.length)

include happend hlength

theorem launched_remap (params : Option Json.Members) (held : Bool) :
    (c.remap F G).launched params held = (c.launched params held).remap F G := by
  have hadded : ({ (c.remap F G).board with handshakes := (c.remap F G).board.handshakes ++
      [Handshake.mk none held] } : Switchboard) = ({ c.board with
        handshakes := c.board.handshakes ++ [Handshake.mk none held] } : Switchboard).remap F G :=
    congrArg (fun handshakes => ({ c.board with
      lines := F c.board.lines, handshakes } : Switchboard)) (happend held).symm
  have hnumber : (c.remap F G).board.handshakes.length = c.board.handshakes.length := hlength
  unfold launched
  rw [hadded, hnumber]
  exact congrArg (fun board : Switchboard => ({ c with
      board, agents := c.agents ++ [{ epoch := board.session.epoch, params }] } : Client))
    (Switchboard.withSession_remap
      { c.board with handshakes := c.board.handshakes ++ [Handshake.mk none held] }
      (c.board.session.start c.board.handshakes.length))

theorem startValue_remap (params : Option Json.Value) :
    (((c.remap F G).startValue params).toOption.map Prod.snd).getD (c.remap F G) =
      (((c.startValue params).toOption.map Prod.snd).getD c).remap F G := by
  unfold startValue
  cases checkParams params with
  | error error => rfl
  | ok params =>
    by_cases hp : c.phase = .notStarted
    · have hp' : (c.remap F G).phase = .notStarted := hp
      simp only [startChecked_eq hp, startChecked_eq hp', launched_remap happend hlength]
      rfl
    · have hp' : (c.remap F G).phase ≠ .notStarted := hp
      simp only [startChecked_eq_error hp, startChecked_eq_error hp']
      rfl

theorem ensureStarted_remap :
    (c.remap F G).ensureStarted = c.ensureStarted.map (·.remap F G) := by
  have hphase : (c.remap F G).phase = c.phase := rfl
  have hsettings : (c.remap F G).board.settings = c.board.settings := rfl
  unfold ensureStarted
  rw [hphase, hsettings]
  by_cases hp : c.phase = .notStarted
  · rw [if_neg (not_not.2 hp), if_neg (not_not.2 hp)]
    split
    · rfl
    · cases checkParams c.board.settings.params with
      | error error => rfl
      | ok params =>
        have hp' : (c.remap F G).phase = .notStarted := hp
        simp only [startChecked_eq hp, startChecked_eq hp', launched_remap happend hlength]
        rfl
  · rw [if_pos hp, if_pos hp]
    rfl

theorem subscribe_remap (operation : Operation) :
    ((c.remap F G).subscribe operation).2 = (c.subscribe operation).2.remap F G := by
  unfold subscribe
  dsimp only
  rw [ensureStarted_remap happend hlength]
  cases c.ensureStarted with
  | error error => rfl
  | ok c' =>
    let id := c.newId c.board.consumers.length
    let consumers := c'.board.consumers ++ [({ id } : Consumer)]
    let sb : Switchboard := { c'.board with consumers }
    exact congrArg (fun board : Switchboard => ({ c' with board } : Client))
      (sb.withSession_remap
        (sb.session.subscribe sb.listening id operation c'.board.consumers.length))

end Starts

theorem withdrawn_remap (c : Client) (n : Nat) (x : Consumer) :
    (c.remap F G).withdrawn n x = (c.withdrawn n x).remap F G := by
  rw [withdrawn_eq, withdrawn_eq]
  exact congrArg (fun board : Switchboard => ({ c with board } : Client))
    ((c.modifyConsumer n Consumer.markCancelled).board.withSession_remap
      (c.board.session.withdraw x))

theorem cancelByHandle_remap (c : Client) (n : Nat) :
    (c.remap F G).cancelByHandle n = (c.cancelByHandle n).remap F G := by
  have hconsumer : (c.remap F G).board.consumers = c.board.consumers := rfl
  cases hx : c.board.consumers[n]? with
  | none =>
    unfold cancelByHandle consumer?
    rw [hconsumer, hx]
  | some x =>
    cases hcancelled : x.cancelled with
    | true =>
      unfold cancelByHandle consumer?
      rw [hconsumer, hx]
      dsimp only
      rw [hcancelled]
      rfl
    | false =>
      rw [cancelByHandle_eq hx hcancelled, cancelByHandle_eq (by rw [hconsumer, hx]) hcancelled,
        withdrawn_remap]

section Unasked

variable (hG : Unasked G)

include hG

theorem stop_remap (c : Client) : (c.remap F G).stop = c.stop.remap F G := by
  have hphase : (c.remap F G).phase = c.phase := rfl
  unfold stop
  rw [hphase]
  split
  · rfl
  · exact congrArg (fun board : Switchboard =>
      ({ c.tell c.board.session.epoch with board } : Client))
      (c.board.commit_remap hG c.board.session.stop)

/-- A call does the same whatever it does not look at: sockets, and who holds a handshake. -/
theorem perform_remap (happend : ∀ held, G (c.board.handshakes ++ [Handshake.mk none held]) =
      G c.board.handshakes ++ [Handshake.mk none held])
    (hlength : (G c.board.handshakes).length = c.board.handshakes.length) {e : Event}
    (he : e.isTurn = false) (hline : e.line? = none) :
    (c.remap F G).perform e = (c.perform e).remap F G := by
  have hundergo : (c.remap F G).undergo e = (c.undergo e).remap F G := by
    cases e with
    | start => exact startValue_remap happend hlength _
    | startWith params =>
      cases params with
      | error error => rfl
      | ok value => exact startValue_remap happend hlength _
    | subscribe operation => exact subscribe_remap happend hlength operation
    | stop => exact stop_remap hG c
    | dropHandle =>
      unfold undergo dropHandle
      dsimp only
      have hstop := stop_remap (F := F) hG { c with handles := c.handles - 1 }
      have hhandles : (c.remap F G).handles = c.handles := rfl
      rw [hhandles]
      split
      · exact hstop
      · rfl
    | cancel n =>
      exact congrArg (modifyConsumer · n Consumer.settleCancelled) (c.cancelByHandle_remap n)
    | cancelByHandle n => exact c.cancelByHandle_remap n
    | poll n =>
      show ((c.remap F G).poll n).2 = (c.poll n).2.remap F G
      rw [poll_eq_modify, poll_eq_modify]
      rfl
    | dropHandshake i =>
      exact congrArg (fun handshakes => ({ c with board := { c.board with
        lines := F c.board.lines, handshakes } } : Client))
        (hG Handshake.letGo (fun _ => rfl) c.board.handshakes i)
    | clone | dropSubscription | stopAccepting | pass => rfl
    | turn => cases he
    | serverSend | serverClose | serverDrop | failReceive | failSends => cases hline
  have hallows : (c.remap F G).allows e = c.allows e := by
    cases e with
    | serverSend | serverClose | serverDrop => cases hline
    | _ => rfl
  unfold perform
  rw [hundergo, hallows]
  split <;> rfl

end Unasked

end Client

end LiveQuery
