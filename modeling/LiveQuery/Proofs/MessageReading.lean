import LiveQuery.Transport.SocketPair

/-!
# How a server reads messages

A server that reads a message receives one frame after another until a frame answers it: with its
message if its bytes are one, with none if it is a close frame. A frame with other bytes is passed
over. If no frame is left, the answer is none when the client is gone, and otherwise the server
waits.

`SocketPair.readsInOrder` says what this comes to for every queue of frames. Reading ends after as
many receptions as there are frames, and one more (`readWithin_of_lt`). A call takes the frames up
to the one that answers it and no other (`Takes`, `readMessage_eq_iff`). Calls one after another
give the answer of every frame that has one, in order and once, whatever arrives between them
(`attend_of_arrivals`).
-/

namespace LiveQuery

/-- Is there nothing yet? -/
def Polled.isPending {α : Type} : Polled α → Bool
  | .pending => true
  | _ => false

namespace Frame

/-- The bytes of a frame that is not a close frame. -/
def content? : Frame → Option Bytes
  | .text s => some (Utf8.ofString s)
  | .binary data => some data
  | .close _ => none

/-- Are the bytes of the frame no message? -/
def Undecodable (f : Frame) : Prop :=
  ∃ bytes e, f.content? = some bytes ∧ Message.decode bytes = .error e

/-- What a frame answers to a server that reads a message, if it does: its message, or none for a
close frame. -/
def answer? (f : Frame) : Option (Polled Message) :=
  match f.content? with
  | none => some .ended
  | some bytes =>
    match Message.decode bytes with
    | .ok m => some (.ready m)
    | .error _ => none

variable {f : Frame} {bytes : Bytes}

theorem content?_eq_none_iff : f.content? = none ↔ ∃ c, f = .close c := by
  cases f <;> simp [content?]

theorem ofFrame_of_content? (h : f.content? = some bytes) :
    Incoming.ofFrame f = (Message.decode bytes).map .message := by
  cases f with
  | text s =>
    obtain rfl : Utf8.ofString s = bytes := Option.some.inj h
    rfl
  | binary data =>
    obtain rfl : data = bytes := Option.some.inj h
    rfl
  | close c => cases h

theorem answer?_of_message {m : Message} (hbytes : f.content? = some bytes)
    (hm : Message.decode bytes = .ok m) : f.answer? = some (.ready m) := by
  simp [answer?, hbytes, hm]

/-- A frame answers as a close frame or with its message. -/
theorem of_answer?_eq_some {answer : Polled Message} (h : f.answer? = some answer) :
    (∃ c, f = .close c ∧ answer = .ended) ∨
      ∃ bytes m, f.content? = some bytes ∧ Message.decode bytes = .ok m ∧ answer = .ready m := by
  unfold answer? at h
  cases hbytes : f.content? with
  | none =>
    obtain ⟨c, rfl⟩ := content?_eq_none_iff.1 hbytes
    rw [hbytes] at h
    exact Or.inl ⟨c, rfl, (Option.some.inj h).symm⟩
  | some bytes =>
    cases hm : Message.decode bytes with
    | error e => simp [hbytes, hm] at h
    | ok m =>
      simp only [hbytes, hm, Option.some.injEq] at h
      exact Or.inr ⟨bytes, m, rfl, hm, h.symm⟩

theorem answer?_eq_none_iff : f.answer? = none ↔ f.Undecodable := by
  unfold answer? Undecodable
  cases f.content? with
  | none => simp
  | some bytes => cases hm : Message.decode bytes <;> simp [hm]

end Frame

namespace SocketPair

/-- The answer if no frame is left. -/
def idle (p : SocketPair) : Polled Message := if p.client then .pending else .ended

/-- What the frames under way will answer, in order. -/
def answers (p : SocketPair) : List (Polled Message) := p.toServer.filterMap Frame.answer?

variable {p : SocketPair} {f : Frame} {rest : List Frame}

/-! ## One frame after another -/

/-- A server that reads a message with so many receptions of a frame at most, if that is enough. -/
def readWithin : Nat → SocketPair → Option (Polled Message × SocketPair)
  | 0, _ => none
  | n + 1, p =>
    match p.serverRecv with
    | (.ready f, p') =>
      match f.answer? with
      | some answer => some (answer, p')
      | none => readWithin n p'
    | (.ended, p') => some (.ended, p')
    | (.pending, p') => some (.pending, p')

theorem readMessage_of_nil (h : p.toServer = []) : p.readMessage = (p.idle, p) := by
  obtain ⟨toClient, toServer, client, server⟩ := p
  subst h
  rfl

/-- The first frame answers, or reading goes on behind it. -/
theorem readMessage_of_cons (h : p.toServer = f :: rest) : p.readMessage =
    match f.answer? with
    | some answer => (answer, { p with toServer := rest })
    | none => readMessage { p with toServer := rest } := by
  cases hbytes : f.content? with
  | none =>
    obtain ⟨c, rfl⟩ := Frame.content?_eq_none_iff.1 hbytes
    simp [readMessage, h, firstMessage, Incoming.ofFrame, Frame.answer?, Frame.content?]
  | some bytes =>
    have hitem := Frame.ofFrame_of_content? hbytes
    cases hm : Message.decode bytes <;>
      simp [readMessage, h, firstMessage, hitem, Frame.answer?, hbytes, hm, Except.map]

/-- Every reception that does not end the reading takes a frame. -/
theorem readWithin_of_lt {n : Nat} (h : p.toServer.length < n) :
    p.readWithin n = some p.readMessage := by
  obtain ⟨toClient, toServer, client, server⟩ := p
  induction toServer generalizing n with
  | nil =>
    obtain ⟨n, rfl⟩ := Nat.exists_eq_add_of_lt h
    rw [readMessage_of_nil rfl]
    cases client <;> rfl
  | cons f rest ih =>
    obtain ⟨n, rfl⟩ := Nat.exists_eq_add_of_lt (Nat.zero_lt_of_lt h)
    rw [readMessage_of_cons rfl]
    simp only [Nat.zero_add, readWithin, serverRecv]
    cases f.answer? with
    | some answer => rfl
    | none =>
      have hrest : rest.length < n := by
        simp only [List.length_cons] at h
        omega
      exact ih hrest

/-! ## One call -/

/-- Which answer a call gives for the frames under way, and which frames it leaves. -/
inductive Takes (client : Bool) : List Frame → Polled Message → List Frame → Prop
  /-- The first frame with a message, if no close frame comes before it. -/
  | message {skipped rest : List Frame} {f : Frame} {bytes : Bytes} {m : Message}
      (hskipped : ∀ g ∈ skipped, g.Undecodable) (hbytes : f.content? = some bytes)
      (hm : Message.decode bytes = .ok m) : Takes client (skipped ++ f :: rest) (.ready m) rest
  /-- The first close frame, if no frame with a message comes before it. -/
  | close {skipped rest : List Frame} {c : CloseFrame} (hskipped : ∀ g ∈ skipped, g.Undecodable) :
      Takes client (skipped ++ .close c :: rest) .ended rest
  /-- No frame is a close frame or has a message. -/
  | all {frames : List Frame} (hframes : ∀ g ∈ frames, g.Undecodable) :
      Takes client frames (if client then .pending else .ended) []

namespace Takes

variable {client : Bool} {frames : List Frame} {answer : Polled Message}

/-- A frame that is passed over is taken with what comes behind it. -/
theorem skip (hf : f.Undecodable) (h : Takes client frames answer rest) :
    Takes client (f :: frames) answer rest := by
  cases h with
  | message hskipped hbytes hm => exact message (List.forall_mem_cons.2 ⟨hf, hskipped⟩) hbytes hm
  | close hskipped => exact close (List.forall_mem_cons.2 ⟨hf, hskipped⟩)
  | all hframes => exact all (List.forall_mem_cons.2 ⟨hf, hframes⟩)

/-- A frame with an answer is taken alone. -/
theorem of_answer (hf : f.answer? = some answer) : Takes client (f :: rest) answer rest := by
  have hskipped : ∀ g ∈ ([] : List Frame), g.Undecodable := nofun
  rcases Frame.of_answer?_eq_some hf with ⟨c, rfl, rfl⟩ | ⟨bytes, m, hbytes, hm, rfl⟩
  · exact close hskipped
  · exact message hskipped hbytes hm

theorem of_readMessage (p : SocketPair) : ∃ answer rest,
    p.readMessage = (answer, { p with toServer := rest }) ∧
      Takes p.client p.toServer answer rest := by
  obtain ⟨toClient, toServer, client, server⟩ := p
  induction toServer with
  | nil => exact ⟨_, [], readMessage_of_nil rfl, all nofun⟩
  | cons f rest ih =>
    rw [readMessage_of_cons rfl]
    cases hf : f.answer? with
    | some answer => exact ⟨answer, rest, rfl, of_answer hf⟩
    | none =>
      obtain ⟨answer, left, hread, htakes⟩ := ih
      exact ⟨answer, left, hread, htakes.skip (Frame.answer?_eq_none_iff.1 hf)⟩

end Takes

/-- Frames that are no messages are passed over. -/
theorem readMessage_of_skipped {skipped : List Frame} (h : p.toServer = skipped ++ rest)
    (hskipped : ∀ g ∈ skipped, g.Undecodable) :
    p.readMessage = readMessage { p with toServer := rest } := by
  induction skipped generalizing p with
  | nil =>
    obtain rfl : p.toServer = rest := h
    rfl
  | cons f skipped ih =>
    obtain ⟨hf, hrest⟩ := List.forall_mem_cons.1 hskipped
    rw [readMessage_of_cons h, Frame.answer?_eq_none_iff.2 hf]
    exact ih rfl hrest

theorem readMessage_of_takes {answer : Polled Message}
    (h : Takes p.client p.toServer answer rest) :
    p.readMessage = (answer, { p with toServer := rest }) := by
  obtain ⟨toClient, toServer, client, server⟩ := p
  cases h with
  | message hskipped hbytes hm =>
    rw [readMessage_of_skipped rfl hskipped, readMessage_of_cons rfl,
      Frame.answer?_of_message hbytes hm]
  | close hskipped =>
    rw [readMessage_of_skipped rfl hskipped, readMessage_of_cons rfl]
    rfl
  | all hframes =>
    rw [readMessage_of_skipped (List.append_nil _).symm hframes, readMessage_of_nil rfl]
    rfl

theorem readMessage_eq_iff {answer : Polled Message} {p' : SocketPair} :
    p.readMessage = (answer, p') ↔
      ∃ rest, Takes p.client p.toServer answer rest ∧ p' = { p with toServer := rest } := by
  constructor
  · intro h
    obtain ⟨answer', rest, hread, htakes⟩ := Takes.of_readMessage p
    obtain ⟨rfl, rfl⟩ := Prod.mk.inj (h.symm.trans hread)
    exact ⟨rest, htakes, rfl⟩
  · rintro ⟨rest, htakes, rfl⟩
    exact readMessage_of_takes htakes

/-! ## One call after another -/

/-- Calls of a server that reads messages, and what arrives from the client before each of them. -/
def attend (p : SocketPair) : List (List Frame) → List (Polled Message) × SocketPair
  | [] => ([], p)
  | arrived :: later =>
    let (answer, p') := readMessage { p with toServer := p.toServer ++ arrived }
    let (answers, p'') := p'.attend later
    (answer :: answers, p'')

/-- No frame makes a server wait. -/
theorem isPending_of_mem_answers {answer : Polled Message} (h : answer ∈ p.answers) :
    answer.isPending = false := by
  obtain ⟨f, -, hf⟩ := List.mem_filterMap.1 h
  rcases Frame.of_answer?_eq_some hf with ⟨c, -, rfl⟩ | ⟨bytes, m, -, -, rfl⟩
  · rfl
  · rfl

theorem readMessage_of_answers_nil (h : p.answers = []) :
    p.readMessage = (p.idle, { p with toServer := [] }) := by
  refine readMessage_of_takes (Takes.all fun f hf => ?_)
  exact Frame.answer?_eq_none_iff.1 (List.filterMap_eq_nil_iff.1 h f hf)

/-- A call gives the first of the answers and leaves the others. -/
theorem readMessage_of_answers_cons {answer : Polled Message} {later : List (Polled Message)}
    (h : p.answers = answer :: later) : ∃ rest,
      p.readMessage = (answer, { p with toServer := rest }) ∧
        answers { p with toServer := rest } = later := by
  obtain ⟨toClient, toServer, client, server⟩ := p
  induction toServer with
  | nil => cases h
  | cons f rest ih =>
    rw [readMessage_of_cons rfl]
    cases hf : f.answer? with
    | some first =>
      rw [answers, List.filterMap_cons_some hf] at h
      obtain ⟨rfl, hlater⟩ := List.cons.inj h
      exact ⟨rest, rfl, hlater⟩
    | none =>
      rw [answers, List.filterMap_cons_none hf] at h
      exact ih h

/-- As long as the client is there, what the calls answered without waiting, and what is under way
after them, is what was under way and what arrived. -/
theorem attend_of_arrivals (hclient : p.client = true) (arrivals : List (List Frame)) :
    (p.attend arrivals).1.filter (!·.isPending) ++ (p.attend arrivals).2.answers =
      p.answers ++ arrivals.flatten.filterMap Frame.answer? := by
  induction arrivals generalizing p with
  | nil => simp [attend]
  | cons arrived later ih =>
    simp only [attend]
    generalize hq : ({ p with toServer := p.toServer ++ arrived } : SocketPair) = q
    have hq' : q.client = true := by
      subst hq
      exact hclient
    have hanswers : p.answers ++ arrived.filterMap Frame.answer? = q.answers := by
      subst hq
      exact (List.filterMap_append ..).symm
    rw [List.flatten_cons, List.filterMap_append, ← List.append_assoc, hanswers]
    cases ha : q.answers with
    | nil =>
      -- the server waits, and what it took had no answer
      have hidle : q.idle.isPending = true := by simp [idle, hq', Polled.isPending]
      rw [readMessage_of_answers_nil ha]
      simp only [List.filter_cons, hidle]
      exact ih hq'
    | cons answer others =>
      obtain ⟨rest, hread, hothers⟩ := readMessage_of_answers_cons ha
      have hready := isPending_of_mem_answers (ha ▸ List.mem_cons_self : answer ∈ q.answers)
      rw [hread]
      have hrest := ih (p := { q with toServer := rest }) hq'
      simp only [List.filter_cons, hready, Bool.not_false, if_true, List.cons_append]
      rw [hrest, hothers]

/-- When nothing more arrives, the calls give all answers and are then told what one is told that
finds no frame. -/
theorem attend_of_silence (p : SocketPair) (n : Nat) :
    (p.attend (List.replicate n [])).1 = (p.answers ++ List.replicate n p.idle).take n := by
  induction n generalizing p with
  | zero => rfl
  | succ n ih =>
    simp only [List.replicate_succ, attend, List.append_nil]
    cases ha : p.answers with
    | nil =>
      rw [readMessage_of_answers_nil ha]
      simp only [List.nil_append, List.take_succ_cons]
      rw [ih]
      simp [answers, idle]
    | cons answer others =>
      -- one answer fewer is left, and one call fewer
      obtain ⟨rest, hread, hothers⟩ := readMessage_of_answers_cons ha
      have hidle : idle { p with toServer := rest } = p.idle := rfl
      have hlength : n ≤ (others ++ List.replicate n p.idle).length := by simp
      rw [hread]
      simp only [List.cons_append, List.take_succ_cons]
      rw [ih, hothers, hidle, ← List.replicate_succ, List.replicate_succ', ← List.append_assoc,
        List.take_append_of_le_length hlength]

/-! ## Reading in order -/

/-- How a server reads messages from the frames under way to it. -/
structure ReadsInOrder (p : SocketPair) : Prop where
  /-- A call ends after one reception for each frame, and one more, at the latest. -/
  ends : ∀ n, p.toServer.length < n → p.readWithin n = some p.readMessage
  /-- It takes the frames up to the first with a message or the first close frame, and answers
  with that message or none. If there is neither, it takes them all; then the answer is none if
  the client is gone, and the server waits if not. -/
  takes : ∀ answer p', p.readMessage = (answer, p') ↔
    ∃ rest, Takes p.client p.toServer answer rest ∧ p' = { p with toServer := rest }
  /-- Repeated calls list the messages of all frames that have one, in order and with one none for
  each close frame, and go on with the answer for no frame. -/
  lists : ∀ n, (p.attend (List.replicate n [])).1 =
    (p.toServer.filterMap Frame.answer? ++
      List.replicate n (if p.client then Polled.pending else Polled.ended)).take n
  /-- Nothing is lost when frames arrive between the calls. -/
  keeps : p.client = true → ∀ arrivals : List (List Frame),
    (p.attend arrivals).1.filter (!·.isPending) ++
        (p.attend arrivals).2.toServer.filterMap Frame.answer? =
      (p.toServer ++ arrivals.flatten).filterMap Frame.answer?

theorem readsInOrder (p : SocketPair) : ReadsInOrder p where
  ends := fun _ => readWithin_of_lt
  takes := fun _ _ => readMessage_eq_iff
  lists := attend_of_silence p
  keeps := by
    intro hclient arrivals
    rw [List.filterMap_append]
    exact attend_of_arrivals hclient arrivals

end SocketPair

end LiveQuery
