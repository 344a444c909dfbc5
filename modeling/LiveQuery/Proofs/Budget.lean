import LiveQuery.Proofs.Pace
import LiveQuery.Proofs.Ruin

/-!
# The retry budget

The marks of the journal tell what the retry policy was asked since the last series of attempts
began (`Journal.series`), how often a socket was asked for in it (`Journal.asks`), and when the next
one has to be asked for (`Journal.owed`). The agent of the session counts its reconnects by the
series (`Agent.Metered`), so that a loss finds the number of reconnects since the start, or since the
last loss of an acknowledged connection, and the session is given up exactly when that is the budget
(`Client.retry_budget`).
-/

namespace LiveQuery

/-! ## What the marks tell, latest first -/

namespace Journal

/-- What the retry policy was asked since the last series began, in order. -/
def series : List JournalEntry → List Nat
  | [] => []
  | e :: older =>
    match e.notice with
    | .moved _ .connecting => []
    | .retrying k => series older ++ [k]
    | _ => series older

/-- How often a socket was asked for since the last series began. -/
def asks : List JournalEntry → Nat
  | [] => 0
  | e :: older =>
    match e.notice with
    | .moved _ .connecting => 0
    | .opening => asks older + 1
    | _ => asks older

/-- How often the retry policy was asked. -/
def asked : List JournalEntry → Nat
  | [] => 0
  | e :: older =>
    match e.notice with
    | .retrying _ => asked older + 1
    | _ => asked older

/-- When the next socket has to be asked for, if one has to: at once after a start, and after the
wait when the policy was asked. -/
def owed (wait : WaitPolicy) : List JournalEntry → Option Nat
  | [] => none
  | e :: older =>
    match e.notice with
    | .moved .notStarted _ => some e.time
    | .moved _ _ => owed wait older
    | .retrying k => some (e.time + wait (asked older) k)
    | _ => none

/-- A socket is asked for only when one is owed, never before the time, and at that very time if
agents never tarry. A connection is lost, and the policy asked, only after the socket that was owed
was asked for. -/
def Paced (onTime : Prop) (wait : WaitPolicy) : List JournalEntry → Prop
  | [] => True
  | e :: older => Paced onTime wait older ∧
    match e.notice with
    | .opening => ∃ due, owed wait older = some due ∧ due ≤ e.time ∧ (onTime → e.time = due)
    | .moved .notStarted _ => True
    | .moved .. | .retrying _ => owed wait older = none
    | _ => True

/-- What comes after the policy was asked: nothing yet, or a socket is asked for when it is due, or
another session begins. -/
inductive Resumes (onTime : Prop) (due : Nat) : List JournalEntry → Prop
  | waits : Resumes onTime due []
  | asks {later : List JournalEntry} {time : Nat} (hdue : due ≤ time)
      (htime : onTime → time = due) : Resumes onTime due (later ++ [⟨time, .opening⟩])
  | begins {later : List JournalEntry} {time : Nat} {phase : Phase} :
      Resumes onTime due (later ++ [⟨time, .moved .notStarted phase⟩])

theorem Paced.of_append {onTime : Prop} {wait : WaitPolicy} {newer older : List JournalEntry}
    (h : Paced onTime wait (newer ++ older)) : Paced onTime wait older := by
  induction newer with
  | nil => exact h
  | cons e newer ih => exact ih h.1

/-- Attempts that keep the pace resume after the wait. -/
theorem Paced.resumes {onTime : Prop} {wait : WaitPolicy} {newer older : List JournalEntry}
    {time k : Nat} (h : Paced onTime wait (newer ++ ⟨time, .retrying k⟩ :: older))
    (hmarks : ∀ e ∈ newer, e.notice.isMark = true) :
    Resumes onTime (time + wait (asked older) k) newer := by
  rcases List.eq_nil_or_concat' newer with rfl | ⟨later, e, rfl⟩
  · exact .waits
  · rw [List.append_assoc] at h
    -- the mark right after the policy was asked, when a socket is owed
    have hnext := h.of_append.2
    have hmark := hmarks e (List.mem_append_right _ (List.mem_singleton_self e))
    have howed {P : Prop} (h : owed wait (⟨time, .retrying k⟩ :: older) = none) : P := nomatch h
    obtain ⟨t, notice⟩ := e
    cases notice with
    | opening =>
      obtain ⟨due, hdue, hle, htime⟩ := hnext
      obtain rfl := Option.some.inj hdue
      exact .asks hle htime
    | moved before after =>
      cases before with
      | notStarted => exact .begins
      | connecting | acknowledged => exact howed hnext
    | retrying => exact howed hnext
    | _ => cases hmark

end Journal

/-! ## The agent of the session -/

/-- Where an agent stands is what is owed. An agent that waits is not late, and one that is ready is
so at the very time, if agents never tarry. -/
inductive Stage.Stands (onTime : Prop) (sb : Switchboard) : Stage → Prop
  | ready {due : Nat} (howed : Journal.owed sb.settings.wait sb.marks = some due)
      (hdue : due ≤ sb.now) (htime : onTime → due = sb.now) : Stands onTime sb .ready
  | backoff {due : Nat} (howed : Journal.owed sb.settings.wait sb.marks = some due)
      (htime : onTime → sb.now ≤ due) : Stands onTime sb (.backoff due)
  | busy {stage : Stage} (hbusy : stage.isBusy = true)
      (howed : Journal.owed sb.settings.wait sb.marks = none) : Stands onTime sb stage

/-- The marks go by the policy and within the budget. -/
structure Switchboard.Metered (onTime : Prop) (sb : Switchboard) : Prop where
  paced : Journal.Paced onTime sb.settings.wait sb.marks
  asks : Journal.asks sb.marks ≤ sb.settings.maxReconnects + 1

/-- The agent counts what the policy was asked in the series, within the budget. -/
structure Agent.Metered (onTime : Prop) (a : Agent) (sb : Switchboard) : Prop where
  budget : a.attempt ≤ sb.settings.maxReconnects
  series : Journal.series sb.marks = List.range a.attempt
  asks : Journal.asks sb.marks ≤ a.attempt + if a.stage.isBusy then 1 else 0
  stands : a.stage.Stands onTime sb

theorem Switchboard.Metered.congr {onTime : Prop} {sb sb' : Switchboard} (h : sb.Metered onTime)
    (hmarks : sb'.marks = sb.marks) (hsettings : sb'.settings = sb.settings) :
    sb'.Metered onTime := by
  refine ⟨?_, ?_⟩
  · rw [hmarks, hsettings]
    exact h.paced
  · rw [hmarks, hsettings]
    exact h.asks

theorem Stage.Stands.congr {onTime : Prop} {stage : Stage} {sb sb' : Switchboard}
    (h : stage.Stands onTime sb) (hmarks : sb'.marks = sb.marks) (hnow : sb'.now = sb.now)
    (hsettings : sb'.settings = sb.settings) : stage.Stands onTime sb' := by
  cases h with
  | ready howed hdue htime =>
    exact .ready (by rwa [hmarks, hsettings]) (by rwa [hnow]) (by rwa [hnow])
  | backoff howed htime => exact .backoff (by rwa [hmarks, hsettings]) (by rwa [hnow])
  | busy hbusy howed => exact .busy hbusy (by rwa [hmarks, hsettings])

theorem Agent.Metered.congr {onTime : Prop} {a : Agent} {sb sb' : Switchboard}
    (h : a.Metered onTime sb) (hmarks : sb'.marks = sb.marks) (hnow : sb'.now = sb.now)
    (hsettings : sb'.settings = sb.settings) : a.Metered onTime sb' :=
  ⟨hsettings ▸ h.budget, hmarks ▸ h.series, hmarks ▸ h.asks,
    h.stands.congr hmarks hnow hsettings⟩

namespace Stage.Stands

variable {onTime : Prop} {stage : Stage} {sb : Switchboard}

theorem owed_of_ready (h : stage.Stands onTime sb) (hs : stage = .ready) :
    ∃ due, Journal.owed sb.settings.wait sb.marks = some due ∧ due ≤ sb.now ∧
      (onTime → due = sb.now) := by
  cases h with
  | ready howed hdue htime => exact ⟨_, howed, hdue, htime⟩
  | backoff => cases hs
  | busy hbusy =>
    rw [hs] at hbusy
    cases hbusy

theorem owed_of_backoff (h : stage.Stands onTime sb) {due : Nat} (hs : stage = .backoff due) :
    Journal.owed sb.settings.wait sb.marks = some due ∧ (onTime → sb.now ≤ due) := by
  cases h with
  | ready => cases hs
  | backoff howed htime =>
    cases hs
    exact ⟨howed, htime⟩
  | busy hbusy =>
    rw [hs] at hbusy
    cases hbusy

theorem owed_of_busy (h : stage.Stands onTime sb) (hbusy : stage.isBusy = true) :
    Journal.owed sb.settings.wait sb.marks = none := by
  cases h with
  | ready | backoff => cases hbusy
  | busy _ howed => exact howed

/-- Nobody is late. -/
theorem punctual (h : stage.Stands onTime sb) {due : Nat}
    (howed : Journal.owed sb.settings.wait sb.marks = some due) (hon : onTime) : sb.now ≤ due := by
  cases h with
  | ready howed' _ htime =>
    obtain rfl := Option.some.inj (howed.symm.trans howed')
    exact (htime hon).ge
  | backoff howed' htime =>
    obtain rfl := Option.some.inj (howed.symm.trans howed')
    exact htime hon
  | busy _ hnone => cases howed.symm.trans hnone

end Stage.Stands

namespace Agent.Metered

variable {onTime : Prop} {a a' : Agent} {sb sb' : Switchboard}

/-- An agent at work owes nothing. -/
theorem works (h : a.Metered onTime sb) (hbusy : a.stage.isBusy = true)
    (hbusy' : a'.stage.isBusy = true) (hattempt : a'.attempt = a.attempt)
    (hmarks : sb'.marks = sb.marks) (hsettings : sb'.settings = sb.settings) :
    a'.Metered onTime sb' := by
  refine ⟨?_, ?_, ?_, .busy hbusy' ?_⟩
  · rw [hattempt, hsettings]
    exact h.budget
  · rw [hmarks, hattempt]
    exact h.series
  · have hasks := h.asks
    rw [hbusy] at hasks
    rw [hmarks, hattempt, hbusy']
    exact hasks
  · rw [hmarks, hsettings]
    exact h.stands.owed_of_busy hbusy

/-- It asks for the socket that is owed. -/
theorem asking (h : a.Metered onTime sb) (hb : sb.Metered onTime) (hs : a.stage = .ready)
    (hbusy' : a'.stage.isBusy = true) (hattempt : a'.attempt = a.attempt)
    (hmarks : sb'.marks = ⟨sb.now, .opening⟩ :: sb.marks)
    (hsettings : sb'.settings = sb.settings) : sb'.Metered onTime ∧ a'.Metered onTime sb' := by
  obtain ⟨due, howed, hdue, htime⟩ := h.stands.owed_of_ready hs
  have hasks : Journal.asks sb.marks ≤ a.attempt := by
    have hasks := h.asks
    rw [hs] at hasks
    exact hasks
  refine ⟨⟨?_, ?_⟩, ?_, ?_, ?_, .busy hbusy' ?_⟩
  · rw [hsettings, hmarks]
    exact ⟨hb.paced, due, howed, hdue, fun hon => (htime hon).symm⟩
  · rw [hsettings, hmarks]
    exact Nat.succ_le_succ (hasks.trans h.budget)
  · rw [hattempt, hsettings]
    exact h.budget
  · rw [hmarks, hattempt]
    exact h.series
  · rw [hmarks, hattempt, hbusy']
    exact Nat.succ_le_succ hasks
  · rw [hmarks]
    rfl

/-- It owes the same once the wait is over, now. -/
theorem wakes (h : a.Metered onTime sb) {due : Nat} (hs : a.stage = .backoff due)
    (hdue : due ≤ sb.now) (hs' : a'.stage = .ready) (hattempt : a'.attempt = a.attempt)
    (hmarks : sb'.marks = sb.marks) (hnow : sb'.now = sb.now)
    (hsettings : sb'.settings = sb.settings) : a'.Metered onTime sb' := by
  obtain ⟨howed, htime⟩ := h.stands.owed_of_backoff hs
  refine ⟨?_, ?_, ?_, ?_⟩
  · rw [hattempt, hsettings]
    exact h.budget
  · rw [hmarks, hattempt]
    exact h.series
  · have hasks := h.asks
    rw [hs] at hasks
    rw [hmarks, hattempt, hs']
    exact hasks
  · rw [hs']
    refine .ready ?_ (hdue.trans_eq hnow.symm) fun hon => ?_
    · rw [hmarks, hsettings]
      exact howed
    · rw [hnow]
      exact le_antisymm hdue (htime hon)

/-- It asks the policy, in the series up to now or, after an acknowledged connection, in a new
one. -/
theorem retries (h : a.Metered onTime sb) (hb : sb.Metered onTime)
    (hasked : sb.retries = Journal.asked sb.marks) (hbusy : a.stage.isBusy = true) {k : Nat}
    (hk : k < sb.settings.maxReconnects)
    (hs' : a'.stage = .backoff (sb.now + sb.settings.wait sb.retries k))
    (hattempt : a'.attempt = k + 1)
    (hmarks : k = a.attempt ∧ sb'.marks = ⟨sb.now, .retrying k⟩ :: sb.marks ∨
      k = 0 ∧ sb'.marks = ⟨sb.now, .retrying k⟩ ::
        ⟨sb.now, .moved .acknowledged .connecting⟩ :: sb.marks)
    (hnow : sb'.now = sb.now) (hsettings : sb'.settings = sb.settings) :
    sb'.Metered onTime ∧ a'.Metered onTime sb' := by
  have howed := h.stands.owed_of_busy hbusy
  obtain ⟨older, hmarks, hpaced, hseries, hasks, hsame, hnone⟩ : ∃ older,
      sb'.marks = ⟨sb.now, .retrying k⟩ :: older ∧
      Journal.Paced onTime sb.settings.wait older ∧ Journal.series older = List.range k ∧
      Journal.asks older ≤ k + 1 ∧ Journal.asked older = Journal.asked sb.marks ∧
      Journal.owed sb.settings.wait older = none := by
    rcases hmarks with ⟨rfl, hmarks⟩ | ⟨rfl, hmarks⟩
    · have hasks := h.asks
      rw [hbusy] at hasks
      exact ⟨_, hmarks, hb.paced, h.series, hasks, rfl, howed⟩
    · exact ⟨_, hmarks, ⟨hb.paced, howed⟩, rfl, Nat.zero_le _, rfl, howed⟩
  refine ⟨⟨?_, ?_⟩, ?_, ?_, ?_, ?_⟩
  · rw [hsettings, hmarks]
    exact ⟨hpaced, hnone⟩
  · rw [hsettings, hmarks]
    exact hasks.trans (Nat.succ_le_succ hk.le)
  · rw [hattempt, hsettings]
    exact hk
  · rw [hmarks, hattempt, List.range_succ, ← hseries]
    rfl
  · rw [hmarks, hattempt]
    exact hasks.trans (Nat.le_add_right _ _)
  · rw [hs']
    refine .backoff ?_ fun _ => hnow.trans_le (Nat.le_add_right _ _)
    rw [hmarks, hsettings, hasked, ← hsame]
    rfl

end Agent.Metered

/-- After the last reconnect the close code is that of the loss, if it was a close frame. -/
theorem Agent.Loss.closeCode? {a : Agent} {sb sb' : Switchboard} {error : ConnectionError}
    {acknowledged : Bool} (h : a.Loss sb error acknowledged sb') (k : Nat) (code : CloseCode) :
    (ConnectionError.retriesExhausted k error).closeCode? = some code ↔
      ∃ reason, error = .closed code reason := by
  cases h with
  | closed =>
    constructor
    · intro hcode
      obtain rfl := Option.some.inj hcode
      exact ⟨_, rfl⟩
    · rintro ⟨_, ⟨⟩⟩
      rfl
  | _ => exact ⟨nofun, nofun⟩

namespace Client

variable {c c' : Client} {e : Event} {onTime : Prop}

/-- The attempts of a client go by the policy and within the budget. -/
structure Metered (onTime : Prop) (c : Client) : Prop where
  board : c.board.Metered onTime
  agents : ∀ a ∈ c.agents, a.told = false → a.Metered onTime c.board

namespace Metered

theorem turn (h : c.Metered onTime) (hc : c.Coherent)
    (hasked : c.board.retries = Journal.asked c.board.marks) {pre post : List Agent} {a : Agent}
    {t : Turn} (hagents : c.agents = pre ++ a :: post) (ht : a.turn c.board = some t) :
    ({ c with agents := pre ++ (t.1.toList ++ post), board := t.2 } : Client).Metered onTime := by
  have hmem := mem_of_split hagents
  have hfits := hc.agents a hmem
  have hmove := hfits.move ht
  obtain ⟨hnow, hsettings⟩ := hmove.clock
  -- if the agent goes on it is the agent of the session, and the others were told
  have hcurrent {a' : Agent} (hsome : t.1 = some a') : a.told = false := by
    by_contra hat
    have hnone := ((hmove.outcome hfits hc.session).told (Bool.not_eq_false _ ▸ hat)).1
    rw [hsome] at hnone
    cases hnone
  have hold {a' : Agent} (hsome : t.1 = some a') : a.Metered onTime c.board :=
    h.agents a hmem (hcurrent hsome)
  have honly {a' : Agent} (hsome : t.1 = some a') (h' : a'.Metered onTime t.2) :
      ∀ b ∈ pre ++ (t.1.toList ++ post), b.told = false → b.Metered onTime t.2 := by
    intro b hb hbt
    rcases mem_turned.1 hb with hb | hb
    · rw [hc.told_of_other hagents (hcurrent hsome) hb] at hbt
      cases hbt
    · rw [hsome] at hb
      obtain rfl := Option.some.inj hb
      exact h'
  cases hfits.pace ht with
  | ends hnone hmarks =>
    refine ⟨h.board.congr hmarks hsettings, fun b hb hbt => ?_⟩
    rcases mem_turned.1 hb with hb | hb
    · exact (h.agents b (mem_of_other hagents hb) hbt).congr hmarks hnow hsettings
    · rw [hnone] at hb
      cases hb
  | works hsome hbusy hbusy' hattempt hmarks =>
    have hnext := (hold hsome).works hbusy hbusy' hattempt hmarks hsettings
    exact ⟨h.board.congr hmarks hsettings, honly hsome hnext⟩
  | asks hsome hs hbusy' hattempt hmarks =>
    obtain ⟨hboard, hnext⟩ := (hold hsome).asking h.board hs hbusy' hattempt hmarks hsettings
    exact ⟨hboard, honly hsome hnext⟩
  | wakes hsome hs hdue hs' hattempt hmarks =>
    have hnext := (hold hsome).wakes hs hdue hs' hattempt hmarks hnow hsettings
    exact ⟨h.board.congr hmarks hsettings, honly hsome hnext⟩
  | retries hsome hbusy hk hs' hattempt hmarks =>
    obtain ⟨hboard, hnext⟩ :=
      (hold hsome).retries h.board hasked hbusy hk hs' hattempt hmarks hnow hsettings
    exact ⟨hboard, honly hsome hnext⟩

/-- What marks no attempt, or begins a series of them. -/
theorem lull (h : c.Metered onTime) (hlull : Lull c c') : c'.Metered onTime := by
  cases hlull with
  | still hmarks hnow hsettings hagents =>
    refine ⟨h.board.congr hmarks hsettings, fun b hb hbt => ?_⟩
    exact (h.agents b (hagents b hb hbt) hbt).congr hmarks hnow hsettings
  | begins _ hmarks hnow hsettings hagents =>
    refine ⟨⟨?_, ?_⟩, fun b hb hbt => ?_⟩
    · rw [hmarks, hsettings]
      exact ⟨h.board.paced, trivial⟩
    · rw [hmarks]
      exact Nat.zero_le _
    · obtain ⟨hattempt, hs⟩ := hagents b hb hbt
      refine ⟨?_, ?_, ?_, ?_⟩
      · rw [hattempt]
        exact Nat.zero_le _
      · rw [hattempt, hmarks]
        rfl
      · rw [hmarks]
        exact Nat.zero_le _
      · -- the socket is owed now
        rw [hs]
        refine .ready ?_ hnow.ge fun _ => hnow.symm
        rw [hmarks]
        rfl

/-- A millisecond makes nobody late if all agents have to wait. -/
theorem pass (h : c.Metered onTime) (hsettled : onTime → c.isSettled = true) :
    c.pass.Metered onTime := by
  refine ⟨⟨h.board.paced, h.board.asks⟩, fun a ha hat => ?_⟩
  have hold := h.agents a ha hat
  refine ⟨hold.budget, hold.series, hold.asks, ?_⟩
  have hwaits (hon : onTime) : a.turn c.board = none := isSettled_iff.1 (hsettled hon) a ha
  cases hstands : a.stage with
  | ready =>
    obtain ⟨due, howed, hdue, -⟩ := hold.stands.owed_of_ready hstands
    refine .ready howed (hdue.trans (Nat.le_succ _)) fun hon => ?_
    -- an agent that is ready need not wait
    have hturn := hwaits hon
    rw [Agent.turn_of_ready hstands] at hturn
    cases hturn
  | backoff due =>
    obtain ⟨howed, -⟩ := hold.stands.owed_of_backoff hstands
    refine .backoff howed fun hon => ?_
    have hturn := hwaits hon
    rw [Agent.turn_of_backoff hat hstands] at hturn
    split at hturn
    · cases hturn
    · next hdue => exact Nat.lt_of_not_le hdue
  | opening number due | serving link =>
    have hbusy : a.stage.isBusy = true := by
      rw [hstands]
      rfl
    exact .busy rfl (hold.stands.owed_of_busy hbusy)

end Metered

/-! ## Every event -/

/-- The journal has all questions to the retry policy. -/
theorem asked_perform (hc : c.Coherent) (h : c.board.retries = Journal.asked c.board.marks)
    (e : Event) : (c.perform e).board.retries = Journal.asked (c.perform e).board.marks := by
  cases he : e.isTurn with
  | true =>
    rcases c.perform_cases he with heq | ⟨pre, a, post, o, board, hagents, ht, heq⟩
    · rwa [heq]
    · rw [heq]
      show board.retries = Journal.asked board.marks
      cases (hc.agents a (mem_of_split hagents)).pace ht with
      | ends _ hmarks hretries | works _ _ _ _ hmarks hretries | asks _ _ _ _ hmarks hretries
      | wakes _ _ _ _ _ hmarks hretries =>
        rw [hmarks, hretries]
        exact h
      | retries _ _ _ _ _ hmarks hretries =>
        rw [hretries, h]
        rcases hmarks with ⟨-, hmarks⟩ | ⟨-, hmarks⟩ <;> rw [hmarks] <;> rfl
  | false =>
    rw [retries_perform c he, h]
    by_cases hpass : e = .pass
    · rw [hpass]
      rfl
    · refine lull_induction (P := fun c' => Journal.asked c.board.marks =
        Journal.asked c'.board.marks) hc he hpass (fun c₁ c₂ h₁ hlull => ?_) rfl
      cases hlull with
      | still hmarks =>
        rw [hmarks]
        exact h₁
      | begins _ hmarks =>
        rw [hmarks]
        exact h₁

theorem Metered.perform (h : c.Metered onTime) (hc : c.Coherent)
    (hasked : c.board.retries = Journal.asked c.board.marks) (e : Event)
    (htime : onTime → (e matches .pass) = true → c.isSettled = true) :
    (c.perform e).Metered onTime := by
  cases he : e.isTurn with
  | true =>
    rcases c.perform_cases he with heq | ⟨pre, a, post, o, board, hagents, ht, heq⟩
    · rwa [heq]
    · rw [heq]
      exact h.turn hc hasked hagents ht
  | false =>
    by_cases hpass : e = .pass
    · subst hpass
      exact h.pass fun hon => htime hon rfl
    · exact lull_induction hc he hpass (fun c₁ c₂ h₁ hlull => h₁.lull hlull) h

/-- The settings stay. -/
theorem settings_perform (hc : c.Coherent) (e : Event) :
    (c.perform e).board.settings = c.board.settings := by
  cases he : e.isTurn with
  | true =>
    rcases c.perform_cases he with heq | ⟨pre, a, post, o, board, hagents, ht, heq⟩
    · rw [heq]
    · rw [heq]
      exact ((hc.agents a (mem_of_split hagents)).move ht).clock.2
  | false =>
    by_cases hpass : e = .pass
    · rw [hpass]
      rfl
    · refine lull_induction (P := fun c' => c'.board.settings = c.board.settings) hc he hpass
        (fun c₁ c₂ h₁ hlull => ?_) rfl
      cases hlull with
      | still _ _ hsettings | begins _ _ _ hsettings => exact hsettings.trans h₁

/-- After every run the attempts go by the policy and within the budget, and on time if agents never
tarry. -/
theorem metered_run (settings : Settings) (transport : Transport) {newId : Nat → String}
    (hid : Function.Injective newId) (es : List Event) {onTime : Prop}
    (htime : onTime → (create settings transport newId).OnTime es) :
    ((create settings transport newId).run es).Metered onTime ∧
      ((create settings transport newId).run es).board.retries =
        Journal.asked ((create settings transport newId).run es).board.marks ∧
      ((create settings transport newId).run es).board.settings = settings := by
  have hall (c : Client) (hc : c.Coherent) (h : c.Metered onTime)
      (hasked : c.board.retries = Journal.asked c.board.marks) (es : List Event)
      (htime : onTime → c.OnTime es) : (c.run es).Metered onTime ∧
        (c.run es).board.retries = Journal.asked (c.run es).board.marks ∧
          (c.run es).board.settings = c.board.settings := by
    induction es generalizing c with
    | nil => exact ⟨h, hasked, rfl⟩
    | cons e es ih =>
      have hnext := ih (c.perform e) (hc.perform e)
        (h.perform hc hasked e fun hon => (htime hon).1) (asked_perform hc hasked e)
        fun hon => (htime hon).2
      exact ⟨hnext.1, hnext.2.1, hnext.2.2.trans (settings_perform hc e)⟩
  refine hall _ (coherent_create settings transport hid) ⟨⟨trivial, Nat.zero_le _⟩, ?_⟩ rfl es htime
  exact fun _ ha => absurd ha List.not_mem_nil

/-! ## The budget -/

/-- What a turn comes to that loses the connection after a number of reconnects. -/
structure Reckoned (settings : Settings) (c : Client) (place : Nat) (a : Agent)
    (error : ConnectionError) (k : Nat) : Prop where
  /-- It is not above the budget. -/
  within : k ≤ settings.maxReconnects
  /-- Within the budget the policy is asked, with that number, and the agent waits as long as the
  policy says. -/
  reconnects : k < settings.maxReconnects → (c.perform (.turn place)).phase = .connecting ∧
    (c.perform (.turn place)).board.marks.head? = some ⟨c.board.now, .retrying k⟩ ∧
      (c.perform (.turn place)).agents = c.agents.set place { a with
        attempt := k + 1
        stage := .backoff (c.board.now + settings.wait (Journal.asked c.board.marks) k) }
  /-- Once the budget is used up the session ends, with the loss as its cause. No socket is asked
  for until somebody starts a session. -/
  exhausted : k = settings.maxReconnects →
    Concluded (.retriesExhausted k error) c (c.perform (.turn place)) ∧
      (∀ code, (ConnectionError.retriesExhausted k error).closeCode? = some code ↔
        ∃ reason, error = .closed code reason) ∧
      ∀ es, (∀ e ∈ es, e.starts = false) →
        ((c.perform (.turn place)).run es).phase = .notStarted ∧
          ((c.perform (.turn place)).run es).board.opens = c.board.opens

theorem Reckoned.of_loss (hc : c.Coherent) (howing : Owing c.board)
    (hfirst : ∀ n, c.board.session.roster.feeds n = true →
      ∀ item ∈ c.board.channel n, item.isLast = false)
    (h : c.Metered onTime) (hasked : c.board.retries = Journal.asked c.board.marks)
    {place : Nat} {a : Agent} {error : ConnectionError} {acknowledged : Bool} {sb : Switchboard}
    (ha : c.agents[place]? = some a) (hloss : a.Loss c.board error acknowledged sb) :
    Reckoned c.board.settings c place a error (if acknowledged then 0 else a.attempt) := by
  obtain ⟨hlt, rfl⟩ := List.getElem?_eq_some_iff.1 ha
  have hmem := List.getElem_mem hlt
  have hfits := hc.agents _ hmem
  have hat := hloss.told
  have hc₁ := hc.perform (.turn place)
  obtain ⟨hrest, hmarks⟩ := hloss.rest hfits.bound
  have hcur : sb.isOutdated c.agents[place].epoch = false := by
    rw [hrest]
    exact hfits.isOutdated hat
  have hsettings : sb.settings = c.board.settings := by rw [hrest]
  have hperform : c.perform (.turn place) = { c with
      agents := c.agents.take place ++ ((c.agents[place].lose sb error acknowledged).1.toList ++
        c.agents.drop (place + 1))
      board := (c.agents[place].lose sb error acknowledged).2 } :=
    perform_turn_of ha (Agent.turn_of_loss hloss)
  generalize hk : (if acknowledged then 0 else c.agents[place].attempt) = k
  have hwithin : k ≤ c.board.settings.maxReconnects := by
    rw [← hk]
    split
    · exact Nat.zero_le _
    · exact (h.agents _ hmem hat).budget
  refine ⟨hwithin, fun hless => ?_, fun hfull => ?_⟩
  · -- the session is suspended and the agent goes into the wait
    have hlose := Agent.lose_eq hcur error hk.symm (by rwa [hsettings])
    have hnow : sb.now = c.board.now := by rw [hrest]
    rw [hperform, hlose]
    refine ⟨?_, ?_, ?_⟩
    · exact (congrArg Session.phase (Switchboard.withSession_session ..)).trans
        (Session.suspend_phase ..)
    · refine (congrArg List.head? (Switchboard.note_marks _ rfl)).trans ?_
      exact congrArg (fun now => some (⟨now, .retrying k⟩ : JournalEntry))
        ((Switchboard.withSession_now ..).trans hnow)
    · rw [List.set_eq_take_append_cons_drop, if_pos hlt, ← hasked, hrest]
      rfl
  · -- the agent gives up, which ends the session for everybody
    have hgive : c.agents[place].lose sb error acknowledged =
        c.agents[place].giveUp sb (.retriesExhausted k error) := by
      rw [Agent.lose_of_exhausted hcur error (by rw [hsettings, hk, hfull]), Agent.giveUp_eq hcur,
        hk]
    have hundelivered : c.board.Undelivered sb := by
      rcases hloss.traffic hfits.bound with ⟨-, rfl⟩ | ⟨_, _, _, -, -, htraffic⟩
      · exact .refl c.board
      · exact .of_traffic htraffic
    have hshut : ShutDown (.retriesExhausted k error) c (c.perform (.turn place)) := by
      refine shutDown_of_giveUp hc howing (hfits.isOutdated hat) hundelivered ?_ ?_ _ ?_
      · rw [hrest]
      · rw [hrest]
      · rw [hperform, hgive]
    have hopens : (c.perform (.turn place)).board.opens = c.board.opens := by
      rw [hperform, hgive]
      refine (c.agents[place].dealings_giveUp sb (.retriesExhausted k error) 0).2.2.trans ?_
      rw [hrest]
    refine ⟨hshut.concluded hc hc₁ hfirst, hloss.closeCode? k, fun es hes => ?_⟩
    obtain ⟨hphase, hopens', -⟩ := dormant_run hc₁ hshut.phase hes
    exact ⟨hphase, hopens'.trans hopens⟩

/-- The retry budget at work in a client. -/
structure RetryBudget (settings : Settings) (onTime : Prop) (c : Client) : Prop where
  /-- Since the session began, or since it last lost an acknowledged connection, the policy was
  asked with 0, 1, 2 and so on, as often as the agent counted reconnects, which is never above the
  budget. -/
  counts : ∀ a ∈ c.agents, a.told = false → a.attempt ≤ settings.maxReconnects ∧
    Journal.series c.board.marks = List.range a.attempt
  /-- Every loss is reckoned with the reconnects up to now, or with none if the connection was
  acknowledged. -/
  losses : ∀ {place : Nat} {a : Agent} {error : ConnectionError} {acknowledged : Bool}
    {sb : Switchboard}, c.agents[place]? = some a → a.Loss c.board error acknowledged sb →
      Reckoned settings c place a error (if acknowledged then 0 else a.attempt)
  /-- An agent gives up at nothing else but what ruins the session. -/
  endings : ∀ {place : Nat} {a : Agent} {board : Switchboard}, c.agents[place]? = some a →
    a.told = false → a.turn c.board = some (none, board) →
      (∃ error acknowledged sb, a.Loss c.board error acknowledged sb ∧
        (if acknowledged then 0 else a.attempt) = settings.maxReconnects) ∨
      ∃ error farewell k sb, a.Ruin c.board error farewell k sb
  /-- Sockets are asked for as the policy says, and not otherwise. -/
  paced : Journal.Paced onTime settings.wait c.board.marks
  /-- What comes after the policy was asked. -/
  resumes : ∀ {newer older : List JournalEntry} {time k : Nat},
    c.board.marks = newer ++ ⟨time, .retrying k⟩ :: older →
      Journal.Resumes onTime (time + settings.wait (Journal.asked older) k) newer
  /-- While the session goes on the socket that is owed is not late. -/
  waits : ∀ a ∈ c.agents, a.told = false → ∀ due,
    Journal.owed settings.wait c.board.marks = some due → onTime → c.board.now ≤ due
  /-- So often a socket is asked for in a row until one is acknowledged. -/
  asks : Journal.asks c.board.marks ≤ settings.maxReconnects + 1
  /-- A socket opens only when those before it were left, but for agents that were told to stop. -/
  alone : ∀ (e : Event) (k : Nat), c.board.lines.length ≤ k →
    (c.perform e).board.dealings k ≠ [] → ∀ s, c.board.dealings s ≠ [] →
      IsLeft s (c.board.dealings s) ∨ c.Leaving s

/-- After every run the retry budget is at work, and on time if agents never tarry. -/
theorem retry_budget (settings : Settings) (transport : Transport) {newId : Nat → String}
    (hid : Function.Injective newId) (es : List Event) :
    RetryBudget settings ((create settings transport newId).OnTime es)
      ((create settings transport newId).run es) := by
  have hc := coherent_run settings transport hid es
  have horderly := orderly_run settings transport hid es
  have howing := owing_run settings transport hid es
  have hfirst := results_of_fed settings transport hid es
  obtain ⟨hmetered, hasked, hsettings⟩ := metered_run settings transport hid es
    fun honTime : (create settings transport newId).OnTime es => honTime
  generalize (create settings transport newId).run es = c at *
  obtain rfl := hsettings
  have hlosses {place : Nat} {a : Agent} {error : ConnectionError} {acknowledged : Bool}
      {sb : Switchboard} (ha : c.agents[place]? = some a)
      (h : a.Loss c.board error acknowledged sb) :
      Reckoned c.board.settings c place a error (if acknowledged then 0 else a.attempt) :=
    .of_loss hc howing hfirst hmetered hasked ha h
  refine ⟨fun a ha hat => ?_, hlosses, fun {place a board} ha hat ht => ?_, hmetered.board.paced,
    fun {newer older time k} hmarks => ?_, fun a ha hat due howed hon => ?_, hmetered.board.asks,
    fun e k hk hnew s hs => horderly.alone hc hk hnew hs⟩
  · have hagent := hmetered.agents a ha hat
    exact ⟨hagent.budget, hagent.series⟩
  · have hfits := hc.agents a (List.mem_of_getElem? ha)
    cases Agent.verdict_of_turn hat (hfits.isOutdated hat) ht with
    | goesOn h =>
      obtain ⟨a', hsome, -⟩ := h
      cases hsome
    | ruin h => exact Or.inr ⟨_, _, _, _, h⟩
    | loss h heq =>
      rename_i error acknowledged sb
      have hreckoned := hlosses ha h
      refine Or.inl ⟨error, acknowledged, sb, h, hreckoned.within.antisymm ?_⟩
      -- within the budget the agent would have gone on
      by_contra hless
      obtain ⟨hrest, -⟩ := h.rest hfits.bound
      have hcur : sb.isOutdated a.epoch = false := by
        rw [hrest]
        exact hfits.isOutdated hat
      have hbudget : (if acknowledged then 0 else a.attempt) < sb.settings.maxReconnects := by
        rw [hrest]
        exact Nat.lt_of_not_le hless
      rw [Agent.lose_eq hcur error rfl hbudget] at heq
      cases heq
  · refine Journal.Paced.resumes (hmarks ▸ hmetered.board.paced) fun e he => ?_
    have hmem : e ∈ c.board.marks := by
      rw [hmarks]
      exact List.mem_append_left _ he
    exact (List.mem_filter.1 hmem).2
  · exact (hmetered.agents a ha hat).stands.punctual howed hon

/-- A start, an attempt that fails, the wait after it, and another ask for a socket. -/
def refusal : List Event :=
  [.start, .turn 0, .turn 0] ++ List.replicate 10 .pass ++ [.turn 0, .turn 0]

/-- A server that takes nobody, and one reconnect, which is used up by the next loss. -/
theorem retry_budget_of_refusal : Function.Injective tally ∧
    (∃ a error sb, ((create { untimed with maxReconnects := 1 } { accepting := false } tally).run
      refusal).agents[0]? = some a ∧ a.attempt = 1 ∧ a.Loss ((create { untimed with
        maxReconnects := 1 } { accepting := false } tally).run refusal).board error false sb) ∧
    (create { untimed with maxReconnects := 1 } { accepting := false } tally).OnTime refusal ∧
    RetryBudget { untimed with maxReconnects := 1 }
      ((create { untimed with maxReconnects := 1 } { accepting := false } tally).OnTime refusal)
      ((create { untimed with maxReconnects := 1 } { accepting := false } tally).run refusal) := by
  refine ⟨tally_injective, ⟨_, _, _, rfl, ?_, .openFailed ?_ rfl ?_ rfl⟩, ?_,
    retry_budget _ _ tally_injective _⟩
  · decide +kernel
  · decide +kernel
  · decide +kernel
  · decide +kernel

end Client

end LiveQuery
